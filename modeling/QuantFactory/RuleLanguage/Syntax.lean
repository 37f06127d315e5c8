import QuantFactory.Library.Outcome
import QuantFactory.Python.Text
import QuantFactory.RuleLanguage.Indicators

/-!
# Rule documents

The constants and the small checks of `rule_language/validation.py`: clock
times, objects with a fixed set of keys, operators, counts and amounts.
Texts of errors quote values through Python's `repr`, a function here.
-/

set_option autoImplicit false

namespace QuantFactory.RuleLanguage

open QuantFactory.Library QuantFactory.Python

def ruleLanguage : String := "qf_rules_v1"
def maxRuleDepth : Nat := 32
def maxRuleNodes : Nat := 500
def maxWindowBars : Nat := 20000
def maxVariableGrid : Nat := 100

def priceFields : List String := ["open", "high", "low", "close", "volume"]
def binaryOperators : List String := ["add", "sub", "mul", "div"]
def unaryOperators : List String :=
  ["abs", "sign", "neg", "ticks", "change", "pct_change", "same_sign_run"]
def rollingOperators : List String := ["sma", "ema", "median", "max", "min", "std", "sum"]
def sessionOperators : List String := ["vwap", "session_open", "bar_index"]
def rangeOperators : List String := ["range_high", "range_low"]
def seriesOperators : List String :=
  ["param"] ++ binaryOperators ++ unaryOperators ++ ["prev"] ++ rollingOperators ++ ["atr"] ++
    sessionOperators ++ ["value_at"] ++ rangeOperators ++ indicatorOperators ++ ["indicator"]
def comparisonOperators : List String := ["gt", "gte", "lt", "lte", "eq"]
def crossOperators : List String := ["crosses_above", "crosses_below"]
def conditionOperators : List String :=
  comparisonOperators ++ crossOperators ++
    ["all", "any", "not", "time_is", "time_between", "every_minutes"]
def sideOperators : List String := ["sign_of", "opposite_sign_of"]
def distanceKinds : List String := ["percent", "points", "ticks", "atr"]
def stopKeys : List String := ["stop_loss", "take_profit", "trailing_stop", "trail_after"]

def stopOnlyKinds : List (String × List String) :=
  [("level", ["stop_loss"]), ("signal_bar", ["stop_loss"]),
    ("r_multiple", ["take_profit", "trail_after"])]

def sessionOpenMinutes : Nat := 9 * 60 + 30
def sessionCloseMinutes : Nat := 16 * 60

inductive Bar where
  | oneMinute | fiveMinutes
  deriving DecidableEq, Repr

namespace Bar

def text : Bar → String
  | oneMinute => "1m"
  | fiveMinutes => "5m"

def ofText : String → Option Bar
  | "1m" => some oneMinute
  | "5m" => some fiveMinutes
  | _ => none

/-- `BAR_MINUTES`. -/
def minutes : Bar → Nat
  | oneMinute => 1
  | fiveMinutes => 5

def barsPerSession (bar : Bar) : Nat := (sessionCloseMinutes - sessionOpenMinutes) / bar.minutes

def firstBarEndMinutes (bar : Bar) : Nat := sessionOpenMinutes + bar.minutes

/-- The end of the last bar but one: the latest bar a position may be left on. -/
def lastExit (bar : Bar) : Nat := sessionCloseMinutes - bar.minutes

end Bar

inductive RuleError where
  | ruleSpecError (path reason : String)
  | overflowError
  | keyError (key : String)
  | recursionError
  deriving DecidableEq, Repr

structure Checked (F : Type) where
  node : PyValue F
  used : List String

/-- The interpreter a check runs in: `repr`, and the indicator library where it is installed. -/
structure RuleRuntime (F : Type) where
  repr : PyValue F → String
  vbt : Option (VectorBT F)

def ruleSpecError {α : Type} (path reason : String) : Except RuleError α :=
  .error (.ruleSpecError path reason)

/-! ## Clock times -/

def hhmm (minutes : Nat) : String :=
  let two (n : Nat) := "".pushn '0' (2 - (toString n).length) ++ toString n
  two (minutes / 60) ++ ":" ++ two (minutes % 60)

def digit (c : Char) : Option Nat :=
  if '0' ≤ c ∧ c ≤ '9' then some (c.toNat - '0'.toNat) else none

/-- `clock_minutes`: a zero-padded 24-hour `HH:MM`. -/
def clockMinutes (text : String) : Option Nat :=
  match text.toList with
  | [h, h', ':', m, m'] => do
      let hours := 10 * (← digit h) + (← digit h')
      let minutes := 10 * (← digit m) + (← digit m')
      if hours < 24 ∧ minutes < 60 then some (60 * hours + minutes) else none
  | _ => none

def minutesOf (text : String) : Nat := (clockMinutes text).getD 0

section Checks
variable {F : Type} (runtime : RuleRuntime F)

def clock (value : PyValue F) (path : String) (earliest latest step : Nat) :
    Except RuleError String := do
  let notClock : Except RuleError String := ruleSpecError path
    (runtime.repr value ++ " is not a valid HH:MM time (24-hour, zero-padded, e.g. \"09:45\")")
  match value with
  | .str text =>
      match clockMinutes text with
      | none => notClock
      | some minutes => do
          raiseIf (minutes % step ≠ 0)
            (.ruleSpecError path s!"{text} is not on the {step}-minute bar grid")
          raiseIf (!(earliest ≤ minutes && minutes ≤ latest))
            (.ruleSpecError path (s!"{text} must be between {hhmm earliest} and {hhmm latest} " ++
              s!"(times are {step}-minute bar END times in the session)"))
          .ok text
  | _ => notClock

/-! ## Objects -/

def sortedText (texts : List String) : String :=
  commaSeparated (texts.mergeSort fun a b => decide (a ≤ b))

/-- The entries of an object that holds every required key and no key beyond these and
the optional ones. -/
def checkObject (node : PyValue F) (path : String) (required optional : List String) :
    Except RuleError (Entries F) :=
  match node with
  | .dict entries =>
      match entries.find? fun entry => entry.1 ∉ required ++ optional with
      | some (key, _) => ruleSpecError path
          s!"unknown key {runtime.repr (.str key)} (allowed: {sortedText (required ++ optional)})"
      | none =>
          match required.find? fun key => (entries.lookup key).isNone with
          | some key => ruleSpecError path s!"missing required key {runtime.repr (.str key)}"
          | none => .ok entries
  | _ => ruleSpecError path "must be an object"

def pair (node : PyValue F) (path : String) : Except RuleError (PyValue F × PyValue F) :=
  match node with
  | .list [first, second] => .ok (first, second)
  | _ => ruleSpecError path "must be a list of exactly two items"

/-- What an operator object is about, with the example of its error. -/
inductive OperatorKind where
  | condition | series | distance

def OperatorKind.text : OperatorKind → String
  | condition => "condition"
  | series => "series"
  | distance => "distance"

def OperatorKind.example : OperatorKind → String
  | condition => "; e.g. \x7b\"gt\": [\"close\", \"open\"]\x7d"
  | series => "; e.g. \x7b\"sma\": \"close\", \"length\": 20\x7d"
  | distance => "; e.g. \x7b\"ticks\": 4\x7d"

/-- `_operator`: the one key of the object that names an operator. -/
def operatorOf (node : PyValue F) (path : String) (allowed : List String) (kind : OperatorKind) :
    Except RuleError String :=
  match node with
  | .dict entries =>
      match (entries.map Prod.fst).filter (· ∈ allowed) with
      | [head] => .ok head
      | first :: second :: _ => ruleSpecError path
          (s!"combines {runtime.repr (.str first)} and {runtime.repr (.str second)}; " ++
            s!"use exactly one {kind.text} operator")
      | [] =>
          match entries with
          | [] => ruleSpecError path s!"an empty object is not a {kind.text}"
          | (key, _) :: _ => ruleSpecError path
              (s!"unknown {kind.text} {runtime.repr (.str key)} (allowed: {sortedText allowed})" ++
                kind.example)
  | _ => ruleSpecError path s!"must be a {kind.text} object"

/-- `node[key]`. -/
def item (entries : Entries F) (key : String) : Except RuleError (PyValue F) :=
  orRaise (entries.lookup key) (.keyError key)

def flag (entries : Entries F) (key path : String) : Except RuleError Bool :=
  match entries.lookup key with
  | none => .ok false
  | some (.bool value) => .ok value
  | some _ => ruleSpecError s!"{path}.{key}" "must be true or false"

/-! ## Numbers -/

variable [PyFloat F]

/-- `float(n)`. -/
def floatOfInt (n : Int) : Except RuleError F := orRaise (PyFloat.ofInt n) .overflowError

def isNumber : PyValue F → Except RuleError Bool
  | .int n => (floatOfInt (F := F) n).map fun _ => true
  | .float x => .ok (PyFloat.isFinite x)
  | _ => .ok false

def isCount (value : PyValue F) (minimum maximum : Nat) : Bool :=
  match value with
  | .int n => minimum ≤ n && n ≤ maximum
  | _ => false

def inRange (value : PyValue F) (maximum : Option Nat) : Bool :=
  match value with
  | .int n => 0 < n && maximum.all fun bound => n < bound
  | .float x => PyFloat.lt (PyFloat.literal 0) x &&
      maximum.all fun bound => PyFloat.lt x (PyFloat.literal bound)
  | _ => false

def isAmount (value : PyValue F) (maximum : Option Nat) : Except RuleError Bool :=
  (isNumber value).map fun number => number && inRange value maximum

/-- `float(value)`, on a number. -/
def toFloat : PyValue F → Except RuleError F
  | .int n => floatOfInt n
  | .float x => .ok x
  | _ => .error (.keyError "float")

def allDistinct : List F → Bool
  | [] => true
  | x :: rest => !rest.any (PyFloat.eq x) && allDistinct rest

end Checks

end QuantFactory.RuleLanguage
