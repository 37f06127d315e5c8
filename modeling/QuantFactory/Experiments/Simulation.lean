import Mathlib.Data.List.Basic
import QuantFactory.Library.Outcome

/-!
# One simulation of many settings

The signals of a setting, their alignment to the execution bar, and the one
`from_signals` call in which every setting is a column (`experiments/runner.py`).  The
engine is given; what is assumed of it is that it computes each column from the shared
inputs and the column's own.
-/

set_option autoImplicit false

namespace QuantFactory.Experiments

open QuantFactory.Library

class ColumnNumber (F : Type) where
  zero : F
  nan : F
  infinite : F
  isNull : F → Bool
  isFinite : F → Bool
  isPositive : F → Bool
  /-- `== 0.0`. -/
  isZero : F → Bool
  /-- `int(value)`, unless it raises. -/
  truncated : F → Option Int
  plus : F → F → F
  times : F → F → F
  divided : F → F → F

inductive SweepError where
  | valueError (message : String)
  | runtimeError (message : String)
  | other (message : String)
  deriving DecidableEq, Repr

structure MarketRow (F : Type) where
  time : Int
  openPrice : F
  high : F
  low : F
  closePrice : F

inductive ExecutionMode where
  | sameBarClose
  | nextBarOpen
  deriving DecidableEq, Repr

inductive PortfolioDirection where
  | longonly
  | shortonly
  | both
  deriving DecidableEq, Repr

inductive PositionSizing where
  | allAvailableCash
  | allCashWholeShares
  | fixedUnits
  deriving DecidableEq, Repr

structure ExecutionConfig (F : Type) where
  mode : ExecutionMode
  direction : PortfolioDirection
  positionSizing : PositionSizing
  initialCash : F
  fees : F
  slippage : F
  absoluteSlippagePoints : Option F
  leverage : F
  accumulate : Bool
  orderSize : F
  priceMultiplier : F
  fixedFeePerOrder : F

structure SignalResult (F : Type) where
  entries : List Bool
  exits : List Bool
  shortEntries : Option (List Bool)
  shortExits : Option (List Bool)
  stopLoss : Option (List F)
  takeProfit : Option (List F)
  trailingStop : Option (List F)
  trailingThreshold : Option (List F)
  tdStop : Option (List Int)
  uponOppositeEntry : Option String
  sessionEntryCap : Option Nat
  sessionId : Option (List Int)
  deriving DecidableEq

/-- The inputs a setting has or lacks, and those all settings of a strategy share. -/
structure SignalShape where
  shortEntries : Bool
  shortExits : Bool
  stopLoss : Bool
  takeProfit : Bool
  trailingStop : Bool
  trailingThreshold : Bool
  tdStop : Bool
  uponOppositeEntry : Option String
  sessionEntryCap : Option Nat
  sessionId : Option (List Int)
  deriving DecidableEq

section Signals
variable {F : Type}

def SignalResult.shape (signals : SignalResult F) : SignalShape where
  shortEntries := signals.shortEntries.isSome
  shortExits := signals.shortExits.isSome
  stopLoss := signals.stopLoss.isSome
  takeProfit := signals.takeProfit.isSome
  trailingStop := signals.trailingStop.isSome
  trailingThreshold := signals.trailingThreshold.isSome
  tdStop := signals.tdStop.isSome
  uponOppositeEntry := signals.uponOppositeEntry
  sessionEntryCap := signals.sessionEntryCap
  sessionId := signals.sessionId

/-- What `iter_rule_signals` yields for a setting: which inputs it has is read off the
specification, and the sessions are those of the data. -/
def ruleSignalResult (stops : List String) (afterBars : Bool) (maxTrades : Nat)
    (sessionIds : List Int) (flags : String → List Bool) (levels : String → List F)
    (tdStop : List Int) : SignalResult F :=
  let level (key : String) : Option (List F) := if key ∈ stops then some (levels key) else none
  { entries := flags "entry"
    exits := flags "exit"
    shortEntries := some (flags "short_entry")
    shortExits := some (flags "short_exit")
    stopLoss := level "stop_loss"
    takeProfit := level "take_profit"
    trailingStop := level "trailing_stop"
    trailingThreshold := level "trail_after"
    tdStop := if afterBars then some tdStop else none
    uponOppositeEntry := some "Ignore"
    sessionEntryCap := some maxTrades
    sessionId := some sessionIds }

theorem ruleSignalResult_shape (stops : List String) (afterBars : Bool) (maxTrades : Nat)
    (sessionIds : List Int) (flags other : String → List Bool) (levels others : String → List F)
    (tdStop hold : List Int) :
    (ruleSignalResult stops afterBars maxTrades sessionIds flags levels tdStop).shape =
      (ruleSignalResult stops afterBars maxTrades sessionIds other others hold).shape := by
  have present (values : String → List F) (key : String) :
      (if key ∈ stops then some (values key) else none).isSome = decide (key ∈ stops) := by
    by_cases listed : key ∈ stops <;> simp [listed]
  have timed (values : List Int) :
      (if afterBars then some values else none).isSome = afterBars := by
    cases afterBars <;> rfl
  simp only [ruleSignalResult, SignalResult.shape, present, timed, Option.isSome_some]

/-- `series.shift(1, fill_value=fill)`. -/
def shiftOne {α : Type} (fill : α) (series : List α) : List α := (fill :: series).take series.length

def SignalResult.mapSeries (signals : SignalResult F) (flags : List Bool → List Bool)
    (levels : List F → List F) (durations sessions : List Int → List Int) : SignalResult F :=
  { signals with
    entries := flags signals.entries
    exits := flags signals.exits
    shortEntries := signals.shortEntries.map flags
    shortExits := signals.shortExits.map flags
    stopLoss := signals.stopLoss.map levels
    takeProfit := signals.takeProfit.map levels
    trailingStop := signals.trailingStop.map levels
    trailingThreshold := signals.trailingThreshold.map levels
    tdStop := signals.tdStop.map durations
    sessionId := signals.sessionId.map sessions }

variable [ColumnNumber F]

open ColumnNumber

def alignSignalsForExecution (signals : SignalResult F) (execution : ExecutionConfig F) :
    SignalResult F :=
  match execution.mode with
  | .sameBarClose => signals
  | .nextBarOpen => signals.mapSeries (shiftOne false) (shiftOne nan) (shiftOne (-1)) id

/-! ## The inputs of one setting -/

def scaled (execution : ExecutionConfig F) (prices : List F) : List F :=
  prices.map (times · execution.priceMultiplier)

def executionPrices (data : List (MarketRow F)) (execution : ExecutionConfig F) : List F :=
  match execution.mode with
  | .sameBarClose => data.map (·.closePrice)
  | .nextBarOpen => data.map (·.openPrice)

structure StopBars (F : Type) where
  openPrices : List F
  highs : List F
  lows : List F
  deriving DecidableEq

/-- The inputs of one column; `none` leaves the engine's default. -/
structure ColumnInputs (F : Type) where
  entries : Option (List Bool)
  exits : Option (List Bool)
  shortEntries : Option (List Bool)
  shortExits : Option (List Bool)
  price : List F
  slStop : Option (List F)
  tpStop : Option (List F)
  tslStop : Option (List F)
  tslTh : Option (List F)
  tdStop : Option (List Int)
  deriving DecidableEq

structure SettingArgs (F : Type) where
  column : ColumnInputs F
  stopBars : Option (StopBars F)
  timeDelta : Bool
  uponOppositeEntry : Option String
  deriving DecidableEq

def SignalResult.hasStop (aligned : SignalResult F) : Bool :=
  aligned.stopLoss.isSome || aligned.takeProfit.isSome || aligned.trailingStop.isSome ||
    aligned.trailingThreshold.isSome || aligned.tdStop.isSome

/-- `_stop_args`, by the bars it adds. -/
def stopArgs (data : List (MarketRow F)) (aligned : SignalResult F)
    (execution : ExecutionConfig F) : Except SweepError (Option (StopBars F)) :=
  if !aligned.hasStop then .ok none
  else if execution.mode ≠ .nextBarOpen then
    .error (.valueError "Bar-based stop orders require next-bar-open execution")
  else .ok (some ⟨scaled execution (data.map (·.openPrice)), scaled execution (data.map (·.high)),
    scaled execution (data.map (·.low))⟩)

def directedColumn (aligned : SignalResult F) (direction : PortfolioDirection) (price : List F) :
    ColumnInputs F :=
  let stops : ColumnInputs F := ⟨none, none, none, none, price, aligned.stopLoss,
    aligned.takeProfit, aligned.trailingStop, aligned.trailingThreshold, aligned.tdStop⟩
  match direction with
  | .shortonly => { stops with entries := aligned.shortEntries, exits := aligned.shortExits }
  | .longonly => { stops with entries := some aligned.entries, exits := some aligned.exits }
  | .both => { stops with
      entries := some aligned.entries
      exits := some aligned.exits
      shortEntries := aligned.shortEntries
      shortExits := aligned.shortExits }

def settingArgs (data : List (MarketRow F)) (aligned : SignalResult F)
    (execution : ExecutionConfig F) : Except SweepError (SettingArgs F) := do
  let stopBars ← stopArgs data aligned execution
  .ok { column := directedColumn aligned execution.direction
          (scaled execution (executionPrices data execution))
        stopBars
        timeDelta := aligned.tdStop.isSome
        uponOppositeEntry := aligned.uponOppositeEntry }

/-! ## One column a setting -/

/-- One column of a per-setting input: a setting without it gets the fill where another has it. -/
def stackColumn {α : Type} (anyHas : Bool) (fill : α) (rows : Nat) (value : Option (List α)) :
    Option (List α) :=
  if anyHas then some (value.getD (List.replicate rows fill)) else none

def anyHas {α : Type} (settings : List (SettingArgs F))
    (key : ColumnInputs F → Option (List α)) : Bool :=
  settings.any fun args => (key args.column).isSome

/-- The columns of `_stack_settings`. -/
def stackColumns (rows : Nat) (settings : List (SettingArgs F)) : List (ColumnInputs F) :=
  settings.map fun args =>
    { entries := stackColumn (anyHas settings (·.entries)) false rows args.column.entries
      exits := stackColumn (anyHas settings (·.exits)) false rows args.column.exits
      shortEntries :=
        stackColumn (anyHas settings (·.shortEntries)) false rows args.column.shortEntries
      shortExits :=
        stackColumn (anyHas settings (·.shortExits)) false rows args.column.shortExits
      price := args.column.price
      slStop := stackColumn (anyHas settings (·.slStop)) nan rows args.column.slStop
      tpStop := stackColumn (anyHas settings (·.tpStop)) nan rows args.column.tpStop
      tslStop := stackColumn (anyHas settings (·.tslStop)) nan rows args.column.tslStop
      tslTh := stackColumn (anyHas settings (·.tslTh)) nan rows args.column.tslTh
      tdStop := stackColumn (anyHas settings (·.tdStop)) (-1) rows args.column.tdStop }

/-- `execution_slippage`: a fraction, or one a bar. -/
inductive Slippage (F : Type) where
  | fraction (value : F)
  | bars (values : List F)
  deriving DecidableEq

def executionSlippage (data : List (MarketRow F)) (execution : ExecutionConfig F) : Slippage F :=
  match execution.absoluteSlippagePoints with
  | none => .fraction execution.slippage
  | some points => .bars ((executionPrices data execution).map fun price =>
      plus execution.slippage (divided points price))

structure SharedInputs (F : Type) where
  close : List F
  stopBars : Option (StopBars F)
  timeDelta : Bool
  uponOppositeEntry : Option String
  size : F
  wholeShares : Bool
  direction : PortfolioDirection
  accumulate : Bool
  leverage : F
  initCash : F
  fees : F
  slippage : Slippage F
  fixedFees : F
  sessionCap : Option (Nat × Option (List Int))
  deriving DecidableEq

structure FromSignals (F : Type) where
  shared : SharedInputs F
  columns : List (ColumnInputs F)

structure PortfolioColumn (F : Type) where
  totalReturn : F
  annualizedReturn : F
  sharpeRatio : F
  maxDrawdown : F
  tradeCount : F
  winRate : F
  value : List F
  assets : List F
  deriving DecidableEq

abbrev Engine (F : Type) := FromSignals F → Except SweepError (List (PortfolioColumn F))

/-- The shared inputs of a call; the options of a stop are the first setting's that has them. -/
def sharedInputs (data : List (MarketRow F)) (execution : ExecutionConfig F)
    (settings : List (SettingArgs F)) (first : SignalResult F) : SharedInputs F where
  close := scaled execution (data.map (·.closePrice))
  stopBars := settings.findSome? (·.stopBars)
  timeDelta := settings.any (·.timeDelta)
  uponOppositeEntry := settings.findSome? (·.uponOppositeEntry)
  size := if execution.positionSizing = .allCashWholeShares then infinite else execution.orderSize
  wholeShares := decide (execution.positionSizing = .allCashWholeShares)
  direction := execution.direction
  accumulate := execution.accumulate
  leverage := execution.leverage
  initCash := execution.initialCash
  fees := execution.fees
  slippage := executionSlippage data execution
  fixedFees := execution.fixedFeePerOrder
  sessionCap := first.sessionEntryCap.map fun cap => (cap, first.sessionId)

def callEngine (engine : Engine F) (data : List (MarketRow F)) (execution : ExecutionConfig F)
    (settings : List (SettingArgs F)) :
    List (SignalResult F) → Except SweepError (List (PortfolioColumn F))
  | [] => .error (.other "tuple index out of range")
  | first :: _ => engine
      { shared := sharedInputs data execution settings first
        columns := stackColumns data.length settings }

/-- `_construct_portfolio` of a sequence of settings. -/
def constructPortfolio (engine : Engine F) (data : List (MarketRow F))
    (aligned : List (SignalResult F)) (execution : ExecutionConfig F) :
    Except SweepError (List (PortfolioColumn F)) := do
  let settings ← collect (fun setting => settingArgs data setting execution) aligned
  callEngine engine data execution settings aligned

def ColumnsIndependent (engine : Engine F) : Prop :=
  ∃ column : SharedInputs F → ColumnInputs F → Option (PortfolioColumn F),
    ∀ call, (engine call).toOption = call.columns.mapM (column call.shared)

/-- A portfolio has a value, which is a number, on each bar of its call. -/
def ValuesAreNumbers (engine : Engine F) : Prop :=
  ∀ call columns, engine call = .ok columns → ∀ column ∈ columns,
    column.value.length = call.shared.close.length ∧
      ∀ value ∈ column.value, isNull value = false

end Signals

end QuantFactory.Experiments
