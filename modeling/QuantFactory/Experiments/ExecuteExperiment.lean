import Mathlib.Data.List.Sort
import QuantFactory.Experiments.Sweep

/-!
# One experiment

`execute_experiment` of `experiments/runner.py` from the supplied settings to the ranked rows:
the settings the strategy accepts, the sweep over them, one row for each setting, and the
observer that is handed the portfolio of each.
-/

set_option autoImplicit false

namespace QuantFactory.Experiments

open QuantFactory.Library

/-! ## The accepted settings -/

/-- How `validate_parameters` refuses a setting: with a `TypeError` or a `ValueError`, or with an
exception that nobody catches here. -/
inductive ParameterFailure where
  | refused (message : String)
  | raised (error : SweepError)
  deriving DecidableEq, Repr

structure RejectedParameters (P : Type) where
  parameters : P
  error : String
  deriving DecidableEq, Repr

/-- `accepted_parameters`: the settings the strategy accepts, and the rejections. -/
def acceptedParameters {P S : Type} (validate : P → Except ParameterFailure S) :
    List P → Except SweepError (List S × List (RejectedParameters P))
  | [] => .ok ([], [])
  | supplied :: rest =>
      match validate supplied with
      | .error (.raised error) => .error error
      | .error (.refused message) => do
          let (accepted, rejections) ← acceptedParameters validate rest
          .ok (accepted, ⟨supplied, message⟩ :: rejections)
      | .ok normalized => do
          let (accepted, rejections) ← acceptedParameters validate rest
          .ok (normalized :: accepted, rejections)

theorem acceptedParameters_length {P S : Type} {validate : P → Except ParameterFailure S}
    {combinations : List P} {accepted : List S} {rejections : List (RejectedParameters P)}
    (ok : acceptedParameters validate combinations = .ok (accepted, rejections)) :
    accepted.length + rejections.length = combinations.length := by
  induction combinations generalizing accepted rejections with
  | nil =>
      cases ok
      rfl
  | cons supplied rest ih =>
      rw [acceptedParameters] at ok
      split at ok
      · cases ok
      · obtain ⟨⟨others, refused⟩, later, ok⟩ := bind_eq_ok.mp ok
        cases ok
        have counts := ih later
        simp only [List.length_cons]
        omega
      · obtain ⟨⟨others, refused⟩, later, ok⟩ := bind_eq_ok.mp ok
        cases ok
        have counts := ih later
        simp only [List.length_cons]
        omega

/-! ## The rows -/

/-- A row of the results: the normalized parameters, the metrics, the row's identity and its
screening status. -/
structure EvaluatedSetting (S F : Type) where
  normalized : S
  metrics : SweepMetrics F
  parameterRowId : String
  passed : Bool

structure ExperimentInputs (P S K F R : Type) where
  sweep : SweepInputs S K F R
  /-- The checks in front of the settings: strategy, plan, market data and adjustment. -/
  checks : Except SweepError Unit
  parameterCombinations : List P
  validateParameters : P → Except ParameterFailure S
  parameterRowIdentity : S → String
  /-- The status `screen_metrics` gives. -/
  screens : SweepMetrics F → Bool
  recordLuck : List (Option (DailySeries F)) → Except SweepError Unit
  ranking : Except SweepError (EvaluatedSetting S F → EvaluatedSetting S F → Bool)

structure ObservedPortfolio (F : Type) where
  position : Nat
  column : PortfolioColumn F

/-- A portfolio observer: it is handed a row identity and the row's portfolio, and may keep
something of them. -/
abbrev PortfolioObserver (F C : Type) := String → ObservedPortfolio F → C → Except SweepError C

structure ExperimentResult (P S F : Type) where
  rankedResults : List (EvaluatedSetting S F)
  rejections : List (RejectedParameters P)
  /-- The settings in the order of the loop, each with the portfolio the observer was handed. -/
  evaluated : List (EvaluatedSetting S F × Option (ObservedPortfolio F))

section Execute
variable {P S K F R C : Type} [DecidableEq K] [ColumnNumber F]

def indexError : SweepError := .other "list index out of range"

/-- `observed[position]`, when there is an observer. -/
def portfolioAt (observing : Bool) (observed : List (PortfolioColumn F)) (position : Nat) :
    Except SweepError (Option (ObservedPortfolio F)) :=
  if observing then (orRaise observed[position]? indexError).map fun column => some ⟨position, column⟩
  else .ok none

/-- `portfolio_observer(screening.parameter_row_id, observed[position])`. -/
def observePortfolio (observer : Option (PortfolioObserver F C)) (rowId : String)
    (portfolio : Option (ObservedPortfolio F)) (kept : C) : Except SweepError C :=
  match observer, portfolio with
  | some observe, some portfolio => observe rowId portfolio kept
  | _, _ => .ok kept

def evaluatedSetting (inputs : ExperimentInputs P S K F R) (normalized : S)
    (metrics : SweepMetrics F) : EvaluatedSetting S F :=
  ⟨normalized, metrics, inputs.parameterRowIdentity normalized, inputs.screens metrics⟩

def settingsLoop (inputs : ExperimentInputs P S K F R) (observer : Option (PortfolioObserver F C))
    (lists : SweepLists S F R) : Nat → List (S × List R) → C →
      Except SweepError (List (EvaluatedSetting S F × Option (ObservedPortfolio F)) × C)
  | _, [], kept => .ok ([], kept)
  | position, (normalized, _) :: rest, kept => do
      let metrics ← orRaise lists.metrics[position]? indexError
      let row := evaluatedSetting inputs normalized metrics
      let portfolio ← portfolioAt observer.isSome lists.observed position
      let kept ← observePortfolio observer row.parameterRowId portfolio kept
      let (others, kept) ← settingsLoop inputs observer lists (position + 1) rest kept
      .ok ((row, portfolio) :: others, kept)

/-- `ranked.sort_values(..., kind="mergesort")`; a ranking column is looked up only for rows. -/
def rankRows (ranking : Except SweepError (EvaluatedSetting S F → EvaluatedSetting S F → Bool))
    (rows : List (EvaluatedSetting S F)) : Except SweepError (List (EvaluatedSetting S F)) :=
  if rows.isEmpty then .ok []
  else ranking.map fun before => rows.insertionSort fun first second => before first second = true

/-- `execute_experiment`, with what the observer has kept. -/
def executeExperiment (engine : Engine F) (policy : Option (SessionPolicy F)) (day : Int → Int)
    (cachePolicy : CachePolicy K (SignalResult F)) (inputs : ExperimentInputs P S K F R)
    (observer : Option (PortfolioObserver F C)) (chunkSettings : Option Nat)
    (held : Option (List (K × SignalResult F))) (kept : C) :
    Except SweepError (ExperimentResult P S F × C) := do
  inputs.checks
  let (accepted, rejections) ← acceptedParameters inputs.validateParameters
    inputs.parameterCombinations
  let (_, lists) ← simulateInChunks engine policy day observer.isSome cachePolicy inputs.sweep
    chunkSettings accepted held
  let (evaluated, kept) ← settingsLoop inputs observer lists 0 lists.extras kept
  inputs.recordLuck lists.values
  let ranked ← rankRows inputs.ranking (evaluated.map Prod.fst)
  .ok (⟨ranked, rejections, evaluated⟩, kept)

/-! ## What a returned experiment is -/

omit [ColumnNumber F] in
theorem generateSignalsOnce_length {strategy : SignalStrategy SweepError S K (SignalResult F)}
    {cachePolicy : CachePolicy K (SignalResult F)} {held after : Option (List (K × SignalResult F))}
    {keyError : SweepError} {chunk : List S} {signals : List (SignalResult F)}
    (ok : generateSignalsOnce keyError cachePolicy strategy held chunk = .ok (after, signals)) :
    signals.length = chunk.length := by
  obtain ⟨⟨cache, found⟩, generated, ok⟩ := bind_eq_ok.mp ok
  cases ok
  obtain ⟨fresh, -, generated⟩ := bind_eq_ok.mp generated
  obtain ⟨signals, collected, generated⟩ := bind_eq_ok.mp generated
  cases generated
  exact (collect_eq_ok.mp collected).length_eq.symm

omit [DecidableEq K] in
theorem prepareSetting_fst {inputs : SweepInputs S K F R} {setting : S × SignalResult F}
    {prepared : Prepared S F R} (ok : prepareSetting inputs setting = .ok prepared) :
    prepared.1 = setting.1 := by
  obtain ⟨validated, -, ok⟩ := bind_eq_ok.mp ok
  cases ok
  rfl

theorem sweepChunk_settings {engine : Engine F} {policy : Option (SessionPolicy F)}
    {day : Int → Int} {keepPortfolios : Bool} {cachePolicy : CachePolicy K (SignalResult F)}
    {inputs : SweepInputs S K F R} {held after : Option (List (K × SignalResult F))}
    {chunk : List S} {lists : SweepLists S F R}
    (ok : sweepChunk engine policy day keepPortfolios cachePolicy inputs held chunk =
      .ok (after, lists)) : lists.extras.map Prod.fst = chunk := by
  obtain ⟨⟨next, settings⟩, prepared, ok⟩ := bind_eq_ok.mp ok
  obtain ⟨sweep, -, ok⟩ := bind_eq_ok.mp ok
  obtain ⟨metrics, -, ok⟩ := bind_eq_ok.mp ok
  obtain ⟨observed, -, ok⟩ := bind_eq_ok.mp ok
  cases ok
  obtain ⟨⟨cache, generated⟩, signals, prepared⟩ := bind_eq_ok.mp prepared
  obtain ⟨settings, collected, prepared⟩ := bind_eq_ok.mp prepared
  cases prepared
  have length := generateSignalsOnce_length signals
  have same := collect_image collected fun setting prepared done => prepareSetting_fst done
  rw [List.map_map]
  change settings.map Prod.fst = chunk
  rw [same, List.map_fst_zip (by omega)]

theorem chunkLoop_settings {engine : Engine F} {policy : Option (SessionPolicy F)}
    {day : Int → Int} {keepPortfolios : Bool} {cachePolicy : CachePolicy K (SignalResult F)}
    {inputs : SweepInputs S K F R} {chunks : List (List S)} :
    ∀ {held after : Option (List (K × SignalResult F))} {total lists : SweepLists S F R},
      chunkLoop (sweepChunk engine policy day keepPortfolios cachePolicy inputs) SweepLists.add
        chunks held total = .ok (after, lists) →
      lists.extras.map Prod.fst = total.extras.map Prod.fst ++ chunks.flatten := by
  induction chunks with
  | nil =>
      intro held after total lists ok
      cases ok
      simp
  | cons chunk rest ih =>
      intro held after total lists ok
      rw [chunkLoop] at ok
      split at ok
      · cases ok
      · rename_i next part swept
        rw [ih ok, SweepLists.add, List.map_append, sweepChunk_settings swept, List.flatten_cons,
          List.append_assoc]

theorem simulateInChunks_settings {engine : Engine F} {policy : Option (SessionPolicy F)}
    {day : Int → Int} {keepPortfolios : Bool} {cachePolicy : CachePolicy K (SignalResult F)}
    {inputs : SweepInputs S K F R} {chunkSettings : Option Nat} {settings : List S}
    {held after : Option (List (K × SignalResult F))} {lists : SweepLists S F R}
    (ok : simulateInChunks engine policy day keepPortfolios cachePolicy inputs chunkSettings
      settings held = .ok (after, lists)) : lists.extras.map Prod.fst = settings := by
  rw [simulateInChunks] at ok
  rw [chunkLoop_settings ok, slices_flatten (chunkSize_pos _ _ _)]
  rfl

omit [ColumnNumber F] in
theorem observePortfolio_some {observe : PortfolioObserver F C}
    {observed : List (PortfolioColumn F)} {position : Nat} {portfolio : Option (ObservedPortfolio F)}
    (found : portfolioAt true observed position = .ok portfolio) (rowId : String) (kept : C) :
    ∃ own, portfolio = some own ∧
      observePortfolio (some observe) rowId portfolio kept = observe rowId own kept := by
  obtain ⟨column, -, rfl⟩ := map_eq_ok.mp found
  exact ⟨⟨position, column⟩, rfl, rfl⟩

/-- The observer is handed each row's identity with the row's portfolio, in the order of the
rows. -/
def Observed (observe : PortfolioObserver F C) :
    List (EvaluatedSetting S F × Option (ObservedPortfolio F)) → C → C → Prop
  | [], before, after => before = after
  | (row, portfolio) :: rest, before, after => ∃ own between, portfolio = some own ∧
      observe row.parameterRowId own before = .ok between ∧ Observed observe rest between after

omit [DecidableEq K] [ColumnNumber F] in
theorem settingsLoop_observed {inputs : ExperimentInputs P S K F R}
    {observe : PortfolioObserver F C} {lists : SweepLists S F R} {settings : List (S × List R)} :
    ∀ {position : Nat} {before after : C}
      {evaluated : List (EvaluatedSetting S F × Option (ObservedPortfolio F))},
      settingsLoop inputs (some observe) lists position settings before = .ok (evaluated, after) →
      evaluated.length = settings.length ∧ Observed observe evaluated before after ∧
        ∀ entry ∈ evaluated,
          entry.1.parameterRowId = inputs.parameterRowIdentity entry.1.normalized := by
  induction settings with
  | nil =>
      intro position before after evaluated ok
      cases ok
      exact ⟨rfl, rfl, fun entry member => absurd member List.not_mem_nil⟩
  | cons setting rest ih =>
      intro position before after evaluated ok
      obtain ⟨metrics, -, ok⟩ := bind_eq_ok.mp ok
      obtain ⟨portfolio, found, ok⟩ := bind_eq_ok.mp ok
      obtain ⟨between, observed, ok⟩ := bind_eq_ok.mp ok
      obtain ⟨⟨others, last⟩, later, ok⟩ := bind_eq_ok.mp ok
      cases ok
      obtain ⟨own, rfl, called⟩ := observePortfolio_some found
        (evaluatedSetting inputs setting.1 metrics).parameterRowId before
      obtain ⟨count, handed, identified⟩ := ih later
      refine ⟨by rw [List.length_cons, List.length_cons, count],
        ⟨own, between, rfl, called.symm.trans observed, handed⟩, ?_⟩
      rintro entry (_ | ⟨_, member⟩)
      · rfl
      · exact identified entry member

omit [DecidableEq K] [ColumnNumber F] in
theorem rankRows_perm {ranking : Except SweepError
      (EvaluatedSetting S F → EvaluatedSetting S F → Bool)}
    {rows ranked : List (EvaluatedSetting S F)} (ok : rankRows ranking rows = .ok ranked) :
    ranked.Perm rows := by
  unfold rankRows at ok
  split at ok
  · rename_i empty
    cases ok
    rw [List.isEmpty_iff.mp empty]
  · obtain ⟨before, -, rfl⟩ := map_eq_ok.mp ok
    exact List.perm_insertionSort _ rows

/-- What `execute_experiment` returns to a caller with an observer: every supplied setting is
rejected or evaluated, the ranking permutes the rows, and the observer was handed each row's own
portfolio. -/
structure Executed (inputs : ExperimentInputs P S K F R) (observe : PortfolioObserver F C)
    (before after : C) (result : ExperimentResult P S F) : Prop where
  counted : result.evaluated.length + result.rejections.length =
    inputs.parameterCombinations.length
  ranked : result.rankedResults.Perm (result.evaluated.map Prod.fst)
  identified : ∀ entry ∈ result.evaluated,
    entry.1.parameterRowId = inputs.parameterRowIdentity entry.1.normalized
  observed : Observed observe result.evaluated before after

theorem executeExperiment_executed {engine : Engine F} {policy : Option (SessionPolicy F)}
    {day : Int → Int} {cachePolicy : CachePolicy K (SignalResult F)}
    {inputs : ExperimentInputs P S K F R} {observe : PortfolioObserver F C}
    {chunkSettings : Option Nat} {held : Option (List (K × SignalResult F))} {before after : C}
    {result : ExperimentResult P S F}
    (ok : executeExperiment engine policy day cachePolicy inputs (some observe) chunkSettings held
      before = .ok (result, after)) : Executed inputs observe before after result := by
  obtain ⟨-, -, ok⟩ := bind_eq_ok.mp ok
  obtain ⟨⟨accepted, rejections⟩, settings, ok⟩ := bind_eq_ok.mp ok
  obtain ⟨⟨cache, lists⟩, swept, ok⟩ := bind_eq_ok.mp ok
  obtain ⟨⟨evaluated, kept⟩, looped, ok⟩ := bind_eq_ok.mp ok
  obtain ⟨-, -, ok⟩ := bind_eq_ok.mp ok
  obtain ⟨ranked, sorted, ok⟩ := bind_eq_ok.mp ok
  cases ok
  obtain ⟨count, handed, identified⟩ := settingsLoop_observed looped
  have kinds := acceptedParameters_length settings
  have swept := congrArg List.length (simulateInChunks_settings swept)
  rw [List.length_map] at swept
  exact ⟨by rw [count, swept, kinds], rankRows_perm sorted, identified, handed⟩

end Execute

end QuantFactory.Experiments
