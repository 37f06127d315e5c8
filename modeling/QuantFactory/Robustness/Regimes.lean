import Mathlib.Data.List.Sort
import Mathlib.Data.String.Basic
import QuantFactory.Library.Outcome

/-!
# Regime evaluation

`backtesting/robustness/regimes.py`: the returns of a locked strategy are grouped by the
regime label of the period before, and each group is measured.  The figures of a group of
returns are the engine's.
-/

set_option autoImplicit false

namespace QuantFactory.Robustness

open QuantFactory.Library

def unknownRegime : String := "unknown|unknown"

structure RegimeEngine (F : Type) where
  isFinite : F → Bool
  cumulativeReturn : List F → F
  maximumDrawdown : List F → F
  pathSharpe : List F → F → F
  /-- `np.mean(values > 0)`. -/
  winRate : List F → F
  absolute : F → F
  le : F → F → Bool
  repr : F → String

structure RegimeConfig (F : Type) where
  annualizationFactor : F
  minimumObservations : Nat
  minimumTrades : Option Nat

structure RegimeLimits (F : Type) where
  minimumReturn : F
  maximumDrawdown : F
  minimumSharpe : Option F

inductive Status where
  | passed
  | failed
  | insufficientEvidence
  deriving DecidableEq, Repr

inductive Figure (F : Type) where
  | count (value : Nat)
  | number (value : F)
  deriving DecidableEq, Repr

structure ThresholdResult (F : Type) where
  ruleId : String
  status : Status
  observed : Option (Figure F)
  threshold : Figure F
  message : String
  deriving DecidableEq, Repr

structure RegimeEvaluationResult (F : Type) where
  regimeId : String
  trendComponent : String
  volatilityComponent : String
  firstTimestamp : Option String
  lastTimestamp : Option String
  observationCount : Nat
  tradeCount : Option Nat
  totalReturn : Option F
  maximumDrawdown : Option F
  sharpeRatio : Option F
  winRate : Option F
  minimumObservations : Nat
  minimumTrades : Option Nat
  thresholdResults : List (ThresholdResult F)
  status : Status
  reasons : List String
  warnings : List String
  deriving DecidableEq, Repr

abbrev Series (T α : Type) := List (T × α)

structure AttributedReturn (T F : Type) where
  time : T
  value : F
  regime : String
  deriving DecidableEq, Repr

section Evaluation
variable {T F : Type} [LinearOrder T]

def validateIndexedSeries {α : Type} (name : String) (series : Series T α) : Except String Unit := do
  raiseIf series.isEmpty (name ++ " must not be empty")
  raiseIf (!decide (series.map Prod.fst).Nodup) (name ++ " index must be unique")
  raiseIf (!decide ((series.map Prod.fst).Pairwise (· ≤ ·))) (name ++ " index must be increasing")

/-- `labels.shift(1).fillna(UNKNOWN_REGIME)`. -/
def previousLabels (labels : List (Option String)) : List String :=
  (none :: labels).dropLast.map (·.getD unknownRegime)

def attributeReturnsToRegimes (engine : RegimeEngine F) (returns : Series T F)
    (labels : Series T (Option String)) : Except String (List (AttributedReturn T F)) := do
  validateIndexedSeries "returns" returns
  validateIndexedSeries "labels" labels
  raiseIf (!decide (returns.map Prod.fst = labels.map Prod.fst))
    "returns and regime labels must have identical indexes"
  raiseIf (!returns.all fun entry => engine.isFinite entry.2)
    "returns must contain only finite values"
  .ok ((returns.zip (previousLabels (labels.map Prod.snd))).map fun entry =>
    ⟨entry.1.1, entry.1.2, entry.2⟩)

/-- `regime_id.split("|", 1)` into two names. -/
def regimeComponents (regimeId : String) : Except String (String × String) :=
  match regimeId.toList.dropWhile (· ≠ '|') with
  | [] => .error "not enough values to unpack (expected 2, got 1)"
  | _ :: rest =>
      .ok (String.ofList (regimeId.toList.takeWhile (· ≠ '|')), String.ofList rest)

def sharpe (engine : RegimeEngine F) (values : List F) (annualizationFactor : F) : Option F :=
  if values.length < 2 then none
  else
    let value := engine.pathSharpe values annualizationFactor
    if engine.isFinite value then some value else none

/-- The periods of the entries that `trade_entries.loc[entry_mask]` counts for a regime. -/
def entriesCounted (labels : Series T (Option String)) (entries : Series T (Option Bool))
    (regimeId : String) : List T :=
  ((entries.zip labels).filter fun row =>
    row.2.2 == some regimeId && row.1.2.getD false).map fun row => row.1.1

def tradeRule (config : RegimeConfig F) (tradeCount : Option Nat) :
    Bool × List (ThresholdResult F) × List String :=
  match config.minimumTrades with
  | none => (true, [], [])
  | some minimum =>
      let tradeOk := tradeCount.any (minimum ≤ ·)
      (tradeOk,
        [{ ruleId := "minimum_trades", status := if tradeOk then .passed else .insufficientEvidence,
           observed := tradeCount.map .count, threshold := .count minimum,
           message := "regime trade count" }],
        if tradeCount.isNone then ["trade evidence is unavailable"] else [])

/-- The checks of a regime with enough evidence: rule, passed, observed, threshold. -/
def regimeChecks (engine : RegimeEngine F) (limits : RegimeLimits F) (totalReturn drawdown : F)
    (sharpeRatio : Option F) : List (String × Bool × Option F × F) :=
  [("minimum_return", engine.le limits.minimumReturn totalReturn, some totalReturn,
      limits.minimumReturn),
    ("maximum_drawdown", engine.le (engine.absolute drawdown) limits.maximumDrawdown,
      some (engine.absolute drawdown), limits.maximumDrawdown)] ++
    match limits.minimumSharpe with
    | none => []
    | some minimum =>
        [("minimum_sharpe", sharpeRatio.any (engine.le minimum), sharpeRatio, minimum)]

def checkResult (engine : RegimeEngine F) (check : String × Bool × Option F × F) :
    ThresholdResult F where
  ruleId := check.1
  status := if check.2.1 then .passed else .failed
  observed := check.2.2.1.map .number
  threshold := .number check.2.2.2
  message := check.1 ++ ": observed " ++ (check.2.2.1.map engine.repr).getD "None" ++
    ", threshold " ++ engine.repr check.2.2.2

/-- What is reported of one regime: its returns, with their periods, and its trade count. -/
def regimeResult (engine : RegimeEngine F) (isoformat : T → String) (config : RegimeConfig F)
    (limits : RegimeLimits F) (regimeId : String) (returns : Series T F)
    (tradeCount : Option Nat) : Except String (RegimeEvaluationResult F) := do
  let components ← regimeComponents regimeId
  let values := returns.map Prod.snd
  let observationOk := decide (config.minimumObservations ≤ values.length)
  let (tradeOk, tradeResults, tradeReasons) := tradeRule config tradeCount
  let thresholds : List (ThresholdResult F) :=
    { ruleId := "minimum_observations",
      status := if observationOk then .passed else .insufficientEvidence,
      observed := some (.count values.length), threshold := .count config.minimumObservations,
      message := "regime observation count" } :: tradeResults
  let common : RegimeEvaluationResult F :=
    { regimeId, trendComponent := components.1, volatilityComponent := components.2,
      firstTimestamp := returns.head?.map fun entry => isoformat entry.1,
      lastTimestamp := returns.getLast?.map fun entry => isoformat entry.1,
      observationCount := values.length, tradeCount, totalReturn := none, maximumDrawdown := none,
      sharpeRatio := none, winRate := none, minimumObservations := config.minimumObservations,
      minimumTrades := config.minimumTrades, thresholdResults := thresholds,
      status := .insufficientEvidence,
      reasons := tradeReasons ++
        if observationOk then [] else ["regime has insufficient observations"],
      warnings := [] }
  if !(observationOk && tradeOk) then .ok common
  else
    let totalReturn := engine.cumulativeReturn values
    let drawdown := engine.maximumDrawdown values
    let sharpeRatio := sharpe engine values config.annualizationFactor
    let checks := regimeChecks engine limits totalReturn drawdown sharpeRatio
    let failures := (checks.filter fun check => !check.2.1).map (·.1 ++ " threshold failed")
    .ok { common with
      totalReturn := some totalReturn, maximumDrawdown := some drawdown, sharpeRatio,
      winRate := if values.isEmpty then none else some (engine.winRate values),
      thresholdResults := thresholds ++ checks.map (checkResult engine),
      status := if (tradeReasons ++ failures).isEmpty then .passed else .failed,
      reasons := tradeReasons ++ failures,
      warnings := if limits.minimumSharpe.isSome && sharpeRatio.isNone
        then ["Sharpe is undefined"] else [] }

/-- `sorted(set(attributed["regime"]) - {UNKNOWN_REGIME})`. -/
def regimeIds (regimes : List String) : List String :=
  (regimes.eraseDups.filter fun regime => regime != unknownRegime).insertionSort (· ≤ ·)

def returnsOf (attributed : List (AttributedReturn T F)) (regimeId : String) : Series T F :=
  (attributed.filter fun row => row.regime == regimeId).map fun row => (row.time, row.value)

def validateTradeEntries (returns : Series T F) (entries : Series T (Option Bool)) :
    Except String Unit := do
  validateIndexedSeries "trade_entries" entries
  raiseIf (!decide (entries.map Prod.fst = returns.map Prod.fst))
    "trade entries must align with returns"
  raiseIf (entries.any fun entry => entry.2.isNone) "trade entries must not contain nulls"

def evaluateRegimes (engine : RegimeEngine F) (isoformat : T → String) (config : RegimeConfig F)
    (limits : RegimeLimits F) (returns : Series T F) (labels : Series T (Option String))
    (tradeEntries : Option (Series T (Option Bool))) :
    Except String (List (RegimeEvaluationResult F)) := do
  let attributed ← attributeReturnsToRegimes engine returns labels
  tradeEntries.forM (validateTradeEntries returns)
  collect (fun regimeId =>
    regimeResult engine isoformat config limits regimeId (returnsOf attributed regimeId)
      (tradeEntries.map fun entries => (entriesCounted labels entries regimeId).length))
    (regimeIds (attributed.map (·.regime)))

end Evaluation

end QuantFactory.Robustness
