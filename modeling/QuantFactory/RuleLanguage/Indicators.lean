import QuantFactory.Python.Value

/-!
# Indicator catalogue

`rule_language/indicators.py`: the named operators of `qf_rules_v1`, and the
metadata of a library indicator as the library's own classes declare it.
-/

set_option autoImplicit false

namespace QuantFactory.RuleLanguage

open QuantFactory.Python

def maxMultiplier : Nat := 20

def priceInputs : List String := ["open", "high", "low", "close", "volume"]

def libraryFamilies : List String := ["vbt:", "talib:"]

def unusable : List String := ["vbt:VWAP"]

/-- How a parameter of a named operator is checked: a count with its minimum, or an amount. -/
inductive IndicatorParam where
  | count (minimum : Nat)
  | amount
  deriving DecidableEq, Repr

structure IndicatorSpec where
  takesSeries : Bool
  params : List (String × IndicatorParam)
  outputs : List String
  library : Option String
  libraryParams : List String
  libraryOutputs : List String
  fixed : List (String × String)
  deriving DecidableEq, Repr

def indicators : List (String × IndicatorSpec) := [
  ("rsi", ⟨true, [("length", .count 2)], [], some "vbt:RSI", ["window"], ["rsi"],
    [("wtype", "wilder")]⟩),
  ("roc", ⟨true, [("length", .count 1)], [], some "talib:ROC", ["timeperiod"], ["real"], []⟩),
  ("macd", ⟨true, [("fast", .count 1), ("slow", .count 1), ("signal", .count 1)],
    ["line", "signal", "histogram"], some "vbt:MACD",
    ["fast_window", "slow_window", "signal_window"], ["macd", "signal", "hist"], []⟩),
  ("bollinger", ⟨true, [("length", .count 2), ("std_mult", .amount)],
    ["upper", "middle", "lower", "percent_b", "bandwidth"], some "vbt:BBANDS",
    ["window", "alpha"], ["upper", "middle", "lower", "percent_b", "bandwidth"], []⟩),
  ("stochastic", ⟨false, [("k_length", .count 1), ("k_smooth", .count 1), ("d_length", .count 1)],
    ["k", "d"], some "vbt:STOCH", ["fast_k_window", "slow_k_window", "slow_d_window"],
    ["slow_k", "slow_d"], []⟩),
  ("adx", ⟨false, [("length", .count 2)], ["adx", "plus_di", "minus_di"], some "vbt:ADX",
    ["window"], ["adx", "plus_di", "minus_di"], []⟩),
  ("cci", ⟨false, [("length", .count 2)], [], some "talib:CCI", ["timeperiod"], ["real"], []⟩),
  ("williams_r", ⟨false, [("length", .count 1)], [], some "talib:WILLR", ["timeperiod"],
    ["real"], []⟩),
  ("obv", ⟨false, [], [], some "vbt:OBV", [], ["obv"], []⟩),
  ("keltner", ⟨false, [("length", .count 1), ("atr_length", .count 1), ("mult", .amount)],
    ["upper", "middle", "lower"], none, [], [], []⟩),
  ("donchian", ⟨false, [("length", .count 1)], ["upper", "lower", "middle"], none, [], [], []⟩)]

def indicatorOperators : List String := indicators.map Prod.fst

def atrSmoothings : List String := ["sma", "wilder"]

inductive ParamKind where
  | count | number
  deriving DecidableEq, Repr

structure LibraryIndicator where
  name : String
  inputs : List String
  params : List (String × ParamKind)
  outputs : List String

/-- A class of the indicator library, as far as its metadata is read. -/
structure IndicatorClass (F : Type) where
  module : String
  inputNames : List String
  paramNames : List String
  paramDefaults : Entries F
  outputNames : List String
  inputNames_nodup : inputNames.Nodup
  paramNames_nodup : paramNames.Nodup

/-- `vectorbtpro`, where it is installed: its indicators by name. -/
structure VectorBT (F : Type) where
  indicator : String → Option (IndicatorClass F)

variable {F : Type} [PyFloat F]

def paramKind : PyValue F → Option ParamKind
  | .int _ => some .count
  | .float value => if PyFloat.isFinite value then some .number else none
  | _ => none

def startsWith (name start : String) : Bool := start.toList.isPrefixOf name.toList

def libraryIndicator (vbt : Option (VectorBT F)) (name : String) : Option LibraryIndicator := do
  let vbt ← vbt
  guard (libraryFamilies.any (startsWith name))
  guard (name ∉ unusable)
  let cls ← vbt.indicator name
  guard (!startsWith name "vbt:" || startsWith cls.module "vectorbtpro.indicators.")
  guard (!cls.inputNames.isEmpty)
  guard (∀ input ∈ cls.inputNames, input ∈ priceInputs)
  guard (∀ param ∈ cls.paramNames, (cls.paramDefaults.lookup param).isSome)
  return {
    name := name
    inputs := cls.inputNames
    params := cls.paramNames.filterMap fun key =>
      ((cls.paramDefaults.lookup key).bind paramKind).map fun kind => (key, kind)
    outputs := cls.outputNames }

end QuantFactory.RuleLanguage
