import QuantFactory.Experiments.ChunkSizes
import QuantFactory.Experiments.EvidenceRows

/-!
# When screening leaves its evidence

Exactly when an experiment with an observer ends with one evidence set for each of its settings:
no supplied setting was rejected, no two have one identity after normalization, and the numbers of
every document can be written.
-/

set_option autoImplicit false

namespace QuantFactory.Experiments

open QuantFactory.Library QuantFactory.Python QuantFactory.Persistence QuantFactory.Launch

/-! ## Numbers that can be written -/

section Writable
variable {F Content S : Type} [PyFloat F] [ColumnNumber F] (runtime : EvidenceRuntime F Content)
variable (config : EvidenceConfig F)

/-- A missing number is written as null, and a number that is not finite cannot be written. -/
def numberWritable (value : F) : Bool := ColumnNumber.isNull value || PyFloat.isFinite value

def FrameCell.writable : FrameCell F → Bool
  | .number value => numberWritable value
  | _ => true

def fieldWritable (field : String × FrameCell F) : Bool :=
  if !isOne config.priceMultiplier && isPriceField field.1 then
    match field.2 with
    | .number value => ColumnNumber.isNull value ||
        PyFloat.isFinite (ColumnNumber.divided value config.priceMultiplier)
    | .whole value =>
        PyFloat.isFinite (ColumnNumber.divided (runtime.ofInt64 value) config.priceMultiplier)
    | _ => true
  else field.2.writable

def metricsWritable (metrics : SweepMetrics F) : Bool :=
  [metrics.totalReturn, metrics.annualizedReturn, metrics.sharpeRatio, metrics.maxDrawdown,
    metrics.winRate].all numberWritable

def configWritable : Bool :=
  PyFloat.isFinite config.priceMultiplier &&
    config.metricPolicy.all fun policy => PyFloat.isFinite policy.riskFreeRate

def ledgersWritable (snapshot : ScreeningPortfolioSnapshot F) : Bool :=
  (snapshot.trades.all fun row => row.all (fieldWritable runtime config)) &&
    snapshot.orders.all fun row => row.all (fieldWritable runtime config)

def equityWritable (equity : EquitySeries F) : Bool :=
  (boundedEquity runtime equity).1.all fun point => point.1.writable && point.2.writable

structure SettingWritable (metrics : SweepMetrics F) (snapshot : ScreeningPortfolioSnapshot F) :
    Prop where
  shared : configWritable config = true
  metrics : metricsWritable metrics = true
  ledgers : ledgersWritable runtime config snapshot = true
  equity : ∃ equity, snapshot.value.single? = some equity ∧ equityWritable runtime equity = true

@[simp] theorem allFinite_artifactValue (cell : FrameCell F) :
    allFinite (artifactValue cell) = cell.writable := by
  cases cell with
  | number value =>
      by_cases null : ColumnNumber.isNull value = true
      · simp [artifactValue, null, FrameCell.writable, numberWritable, allFinite]
      · simp [artifactValue, null, FrameCell.writable, numberWritable, allFinite]
  | _ => rfl

theorem allFinite_artifactField (field : String × FrameCell F) :
    allFinite (artifactField runtime config.priceMultiplier field).2 =
      fieldWritable runtime config field := by
  obtain ⟨key, cell⟩ := field
  unfold artifactField fieldWritable
  by_cases priced : (!isOne config.priceMultiplier && isPriceField key) = true
  · simp only [if_pos priced]
    cases cell with
    | number value =>
        by_cases null : ColumnNumber.isNull value = true
        · simp [dividedCell, null, allFinite]
        · simp [dividedCell, null, allFinite]
    | _ => rfl
  · simp only [if_neg priced, allFinite_artifactValue]

theorem allFinite_artifactRecords (rows : List (FrameRow F)) :
    allFinite (artifactRecords runtime config.priceMultiplier rows) =
      rows.all fun row => row.all (fieldWritable runtime config) := by
  rw [artifactRecords, allFinite, allFiniteItems_map]
  congr 1
  funext row
  rw [allFinite, allFiniteEntries_eq_all, List.all_map]
  congr 1
  funext field
  exact allFinite_artifactField runtime config field

theorem allFinite_metricsValues (metrics : SweepMetrics F) :
    allFinite (metricsValues metrics) = metricsWritable metrics := by
  simp [metricsValues, metricsWritable, allFinite, allFiniteEntries, FrameCell.writable]

omit [ColumnNumber F] in
theorem allFinite_annualizationDocument :
    allFinite (annualizationDocument config) =
      config.metricPolicy.all fun policy => PyFloat.isFinite policy.riskFreeRate := by
  unfold annualizationDocument
  cases config.metricPolicy with
  | none => rfl
  | some policy =>
      cases calendar : config.exchangeCalendar <;>
        simp [allFinite, allFiniteEntries, optionalText]

theorem allFinite_equityPoints (points : List (FrameCell F × FrameCell F)) :
    allFinite (.list (points.map equityPoint)) =
      points.all fun point => point.1.writable && point.2.writable := by
  rw [allFinite, allFiniteItems_map]
  congr 1
  funext point
  simp [equityPoint, allFinite, allFiniteEntries]

theorem evidenceDocuments_finite_iff (row : EvaluatedSetting S F) (position : Nat)
    (snapshot : ScreeningPortfolioSnapshot F) (equity : EquitySeries F) :
    (∀ document ∈ evidenceDocuments runtime config row position snapshot equity,
        allFinite document.document = true) ↔
      configWritable config = true ∧ metricsWritable row.metrics = true ∧
        ledgersWritable runtime config snapshot = true ∧ equityWritable runtime equity = true := by
  have points := allFinite_equityPoints (boundedEquity runtime equity).1
  rw [allFinite] at points
  simp only [evidenceDocuments, List.forall_mem_cons, List.not_mem_nil, false_imp_iff,
    implies_true, and_true]
  simp only [allFinite, allFiniteEntries, List.cons_append, List.nil_append, Bool.and_true,
    Bool.true_and, true_and, allFinite_metricsValues, allFinite_annualizationDocument,
    allFinite_artifactRecords, points, allFinite_performanceSummary, Bool.and_eq_true,
    configWritable, ledgersWritable, equityWritable, allFiniteItems, and_true]
  tauto

/-! ## The ranked row of a setting -/

omit [PyFloat F] [ColumnNumber F] in
theorem matchingRows_own {row : EvaluatedSetting S F} :
    ∀ {ranked : List (EvaluatedSetting S F)} (offset : Nat),
      (ranked.map (·.parameterRowId)).Nodup → row ∈ ranked →
        ∃ position, ranked[position]? = some row ∧
          ((ranked.zipIdx offset).filter fun entry =>
            entry.1.parameterRowId = row.parameterRowId) = [(row, offset + position)] := by
  intro ranked
  induction ranked with
  | nil =>
      intro offset _ member
      cases member
  | cons first rest ih =>
      intro offset distinct member
      obtain ⟨unlisted, distinct⟩ := List.nodup_cons.mp distinct
      rw [List.zipIdx_cons]
      rcases List.mem_cons.mp member with rfl | later
      · refine ⟨0, rfl, ?_⟩
        rw [List.filter_cons_of_pos (by simp)]
        have others : ((rest.zipIdx (offset + 1)).filter fun entry =>
            entry.1.parameterRowId = row.parameterRowId) = [] := by
          rw [List.filter_eq_nil_iff]
          rintro ⟨other, position⟩ listed same
          have known : other.parameterRowId ∈ rest.map (·.parameterRowId) :=
            List.mem_map_of_mem (List.fst_mem_of_mem_zipIdx listed)
          rw [show other.parameterRowId = row.parameterRowId from of_decide_eq_true same] at known
          exact unlisted known
        rw [others, Nat.add_zero]
      · obtain ⟨position, found, matched⟩ := ih (offset + 1) distinct later
        have known : row.parameterRowId ∈ rest.map (·.parameterRowId) := List.mem_map_of_mem later
        have other : ¬ first.parameterRowId = row.parameterRowId := by
          intro same
          rw [← same] at known
          exact unlisted known
        refine ⟨position + 1, found, ?_⟩
        rw [List.filter_cons_of_neg (by simpa using other), matched, Nat.add_assoc,
          Nat.add_comm 1]

theorem screeningArtifacts_own {ranked : List (EvaluatedSetting S F)}
    {row : EvaluatedSetting S F} {snapshot : ScreeningPortfolioSnapshot F}
    (distinct : (ranked.map (·.parameterRowId)).Nodup) (member : row ∈ ranked)
    (ledger : row.metrics.numberOfTrades = snapshot.trades.length) :
    ∃ position, ranked[position]? = some row ∧
      screeningArtifacts runtime config ranked row.parameterRowId snapshot =
        match snapshot.value.single? with
        | none => .error (runtimeError "expected one-column portfolio equity series")
        | some equity =>
            .ok (evidenceDocuments runtime config row (position + 1) snapshot equity) := by
  obtain ⟨position, found, matched⟩ := matchingRows_own 0 distinct member
  have matched : matchingRows row.parameterRowId ranked = [(row, position)] := by
    rw [Nat.zero_add] at matched
    exact matched
  refine ⟨position, found, ?_⟩
  unfold screeningArtifacts
  rw [matched]
  exact if_neg (not_not.mpr ledger)

theorem writable_own_iff {ranked : List (EvaluatedSetting S F)} {row : EvaluatedSetting S F}
    {snapshot : ScreeningPortfolioSnapshot F}
    (distinct : (ranked.map (·.parameterRowId)).Nodup) (member : row ∈ ranked)
    (ledger : row.metrics.numberOfTrades = snapshot.trades.length) :
    Writable runtime config ranked (row.parameterRowId, snapshot) ↔
      SettingWritable runtime config row.metrics snapshot := by
  obtain ⟨position, -, made⟩ := screeningArtifacts_own runtime config distinct member ledger
  unfold Writable
  rw [made]
  constructor
  · rintro ⟨documents, ok, finite⟩
    split at ok
    · cases ok
    · rename_i equity single
      cases ok
      obtain ⟨shared, metrics, ledgers, points⟩ :=
        (evidenceDocuments_finite_iff runtime config row _ snapshot equity).mp finite
      exact ⟨shared, metrics, ledgers, equity, single, points⟩
  · rintro ⟨shared, metrics, ledgers, equity, single, points⟩
    rw [single]
    exact ⟨_, rfl, (evidenceDocuments_finite_iff runtime config row _ snapshot equity).mpr
      ⟨shared, metrics, ledgers, points⟩⟩

end Writable

/-! ## Complete evidence -/

section Complete
variable {P S K F R Content : Type} [DecidableEq K] [PyFloat F] [ColumnNumber F]
variable (runtime : EvidenceRuntime F Content) (config : EvidenceConfig F)

def priceHistoryUsable (data : ScreeningData F) : Bool :=
  data.timezoneAware && priceColumns.all (data.columns.contains ·) && !data.rows.isEmpty &&
    allFinite config.marketData

omit [ColumnNumber F] in
theorem priceReference_usable_iff (data : ScreeningData F) :
    (∃ reference, priceReference runtime config data = .ok reference ∧
        allFinite reference.document = true) ↔ priceHistoryUsable config data = true := by
  unfold priceReference priceHistoryUsable
  cases aware : data.timezoneAware with
  | false => simp
  | true =>
      have columns : (priceColumns.any fun column => !data.columns.contains column) =
          !priceColumns.all (data.columns.contains ·) := by
        rw [List.not_all_eq_any_not]
      rw [columns]
      cases complete : priceColumns.all (data.columns.contains ·) with
      | false => simp
      | true =>
          cases bars : data.rows with
          | nil => simp
          | cons first rest =>
              simp [allFinite, allFiniteEntries, List.getLast?_cons]

omit [PyFloat F] [ColumnNumber F] in
theorem priceReference_key {data : ScreeningData F} {reference : EvidenceDocument F}
    (ok : priceReference runtime config data = .ok reference) :
    reference.key = (.datasetManifest, screeningPriceReference) := by
  unfold priceReference at ok
  split at ok
  · cases ok
  · split at ok
    · cases ok
    · split at ok
      · cases ok
        rfl
      · cases ok

/-- The rows are one evidence set of a setting: under its own row identity, and of its own
portfolio. -/
def OwnEvidence (runId : String)
    (snapshot : ObservedPortfolio F → Except SweepError (ScreeningPortfolioSnapshot F))
    (ranked : List (EvaluatedSetting S F)) (combinationCount : Nat)
    (entry : EvaluatedSetting S F × Option (ObservedPortfolio F))
    (rows : List ArtifactContractRecord) : Prop :=
  ∃ own kept equity position, entry.2 = some own ∧ snapshot own = .ok kept ∧
    kept.value.single? = some equity ∧ ranked[position]? = some entry.1 ∧
      List.Forall₂ (RowHolds runtime runId)
        ((evidenceDocuments runtime config entry.1 (position + 1) kept equity).map
          (·.under (configurationNamespace combinationCount entry.1.parameterRowId))) rows

/-- The store has gained one evidence set for each evaluated setting, and besides them only the
reference to the shared bars. -/
def EvidenceComplete (runId : String)
    (snapshot : ObservedPortfolio F → Except SweepError (ScreeningPortfolioSnapshot F))
    (result : ExperimentResult P S F) (combinationCount : Nat)
    (before after : ArtifactStore Content) : Prop :=
  ∃ reference sets, after.artifacts = before.artifacts ++ reference ++ sets.flatten ∧
    (∀ row ∈ reference, row.logicalName = screeningPriceReference) ∧
      List.Forall₂ (OwnEvidence runtime config runId snapshot result.rankedResults
        combinationCount) result.evaluated sets

/-- The condition on what the experiment returned: no setting was rejected, no two settings share
an identity, and everything can be written. -/
structure EvidenceCapturable
    (snapshot : ObservedPortfolio F → Except SweepError (ScreeningPortfolioSnapshot F))
    (result : ExperimentResult P S F) (data : ScreeningData F) : Prop where
  accepted : result.rejections = []
  distinct : (result.evaluated.map fun entry => entry.1.parameterRowId).Nodup
  history : priceHistoryUsable config data = true
  writable : ∀ entry ∈ result.evaluated, ∀ own kept, entry.2 = some own →
    snapshot own = .ok kept → SettingWritable runtime config entry.1.metrics kept

structure FreshRun (runId : String) (store : ArtifactStore Content) : Prop where
  known : (findRun store runId).isSome
  empty : ∀ artifact ∈ store.artifacts, artifact.runId ≠ runId

theorem forall₂_trans {α β γ : Type} {r : α → β → Prop} {s : β → γ → Prop} {t : α → γ → Prop}
    {first : List α} {second : List β} {third : List γ} (left : List.Forall₂ r first second)
    (right : List.Forall₂ s second third)
    (compose : ∀ a ∈ first, ∀ b c, r a b → s b c → t a c) : List.Forall₂ t first third := by
  induction left generalizing third with
  | nil =>
      cases right
      exact .nil
  | cons related _ ih =>
      cases right with
      | cons next later =>
          refine .cons (compose _ List.mem_cons_self _ _ related next) (ih later ?_)
          exact fun a member => compose a (List.mem_cons_of_mem _ member)

omit [PyFloat F] [ColumnNumber F] in
theorem capturedFrom_ids {snapshot : ObservedPortfolio F →
      Except SweepError (ScreeningPortfolioSnapshot F)}
    {evaluated : List (EvaluatedSetting S F × Option (ObservedPortfolio F))}
    {captured : CapturedPortfolios F}
    (pairs : List.Forall₂ (CapturedFrom snapshot) evaluated captured) :
    captured.map Prod.fst = evaluated.map fun entry => entry.1.parameterRowId := by
  induction pairs with
  | nil => rfl
  | cons related _ ih => rw [List.map_cons, List.map_cons, related.1, ih]

section Experiment
variable {inputs : ExperimentInputs P S K F R} {result : ExperimentResult P S F}
variable {snapshot : ObservedPortfolio F → Except SweepError (ScreeningPortfolioSnapshot F)}
variable {captured : CapturedPortfolios F} {runId : String} {clock : Clock}
variable {data : ScreeningData F} {store after : ArtifactStore Content}

omit [DecidableEq K] [PyFloat F] [ColumnNumber F] in
theorem ranked_distinct {before : CapturedPortfolios F}
    (executed : Executed inputs (captureScreeningPortfolios snapshot) before captured result)
    (distinct : (result.evaluated.map fun entry => entry.1.parameterRowId).Nodup) :
    (result.rankedResults.map (·.parameterRowId)).Nodup := by
  refine (executed.ranked.map _).nodup_iff.mpr ?_
  rw [List.map_map]
  exact distinct

omit [DecidableEq K] in
theorem capturable_of_persisted
    (executed : Executed inputs (captureScreeningPortfolios snapshot) [] captured result)
    (ledgers : ∀ entry ∈ result.evaluated, ∀ own kept, entry.2 = some own →
      snapshot own = .ok kept → entry.1.metrics.numberOfTrades = kept.trades.length)
    (nonempty : result.evaluated ≠ [])
    (ok : persistCapturedScreeningEvidence runtime config runId clock result.rankedResults
      inputs.parameterCombinations.length data captured store = .ok after) :
    EvidenceCapturable runtime config snapshot result data := by
  obtain ⟨-, high, filled⟩ := captured_length_le executed.observed
  have counted := executed.counted
  unfold persistCapturedScreeningEvidence at ok
  rw [if_neg (by simpa using filled nonempty)] at ok
  split at ok
  · cases ok
  · rename_i full
    rw [not_not] at full
    rw [List.length_nil] at high
    have accepted : result.rejections = [] := List.eq_nil_of_length_eq_zero (by omega)
    have settings : captured.length =
        (List.length ([] : CapturedPortfolios F)) + result.evaluated.length := by
      rw [List.length_nil]
      omega
    obtain ⟨distinct, own, rfl, pairs⟩ :=
      captured_of_length executed.observed settings List.nodup_nil
    rw [capturedFrom_ids pairs] at distinct
    obtain ⟨reference, made, ok⟩ := bind_eq_ok.mp ok
    obtain ⟨between, one, ok⟩ := bind_eq_ok.mp ok
    have each := persistConfigurations_writable ok
    refine ⟨accepted, distinct, (priceReference_usable_iff runtime config data).mp
      ⟨reference, made, persistDocument_finite one⟩, ?_⟩
    intro entry member portfolio kept present taken
    obtain ⟨⟨rowId, other⟩, listed, same, portfolio', present', taken'⟩ :=
      forall₂_mem_left pairs member
    obtain rfl : portfolio = portfolio' := Option.some.inj (present.symm.trans present')
    obtain rfl : kept = other := Except.ok.inj (taken.symm.trans taken')
    obtain rfl : rowId = entry.1.parameterRowId := same
    have ranked : entry.1 ∈ result.rankedResults :=
      executed.ranked.mem_iff.mpr (List.mem_map_of_mem member)
    exact (writable_own_iff runtime config (ranked_distinct executed distinct) ranked
      (ledgers entry member portfolio kept present taken)).mp (each _ listed)

omit [DecidableEq K] in
theorem complete_of_capturable
    (executed : Executed inputs (captureScreeningPortfolios snapshot) [] captured result)
    (ledgers : ∀ entry ∈ result.evaluated, ∀ own kept, entry.2 = some own →
      snapshot own = .ok kept → entry.1.metrics.numberOfTrades = kept.trades.length)
    (fresh : FreshRun runId store) (nonempty : result.evaluated ≠ [])
    (capturable : EvidenceCapturable runtime config snapshot result data) :
    ∃ after, persistCapturedScreeningEvidence runtime config runId clock result.rankedResults
        inputs.parameterCombinations.length data captured store = .ok after ∧
      EvidenceComplete runtime config runId snapshot result inputs.parameterCombinations.length
        store after := by
  have filled := (captured_length_le executed.observed).2.2 nonempty
  have counted := executed.counted
  have full := captured_full executed.observed
    (by rw [List.map_nil, List.nil_append]; exact capturable.distinct)
  obtain ⟨distinct, own, rfl, pairs⟩ := captured_of_length executed.observed full List.nodup_nil
  have count : captured.length = inputs.parameterCombinations.length := by
    rw [← counted, capturable.accepted, full, List.length_nil, List.length_nil]
    omega
  obtain ⟨reference, made, finite⟩ :=
    (priceReference_usable_iff runtime config data).mpr capturable.history
  have ranked := ranked_distinct executed capturable.distinct
  have key := priceReference_key runtime config made
  have keys : FreshFor runId store (reference.key :: (capturedKeys captured.length captured ++ [])) := by
    rw [List.append_nil, key]
    refine ⟨fresh.known, ?_, List.nodup_cons.mpr ⟨priceReference_not_captured _,
      capturedKeys_nodup distinct⟩, fun artifact member ofRun =>
        absurd ofRun (fresh.empty artifact member)⟩
    rintro named (_ | ⟨_, member⟩)
    · exact (by decide : screeningPriceReference ≠ "")
    · exact capturedKeys_named _ named member
  obtain ⟨between, row, one, appended, held, keys⟩ :=
    persistDocument_fresh runtime clock keys finite
  have writable : ∀ entry ∈ captured, Writable runtime config result.rankedResults entry := by
    intro kept listed
    obtain ⟨entry, member, same, portfolio, present, taken⟩ := forall₂_mem_right pairs listed
    have listed : entry.1 ∈ result.rankedResults :=
      executed.ranked.mem_iff.mpr (List.mem_map_of_mem member)
    rw [show kept = (entry.1.parameterRowId, kept.2) from Prod.ext same rfl]
    exact (writable_own_iff runtime config ranked listed
      (ledgers entry member portfolio kept.2 present taken)).mpr
        (capturable.writable entry member portfolio kept.2 present taken)
  obtain ⟨after, sets, later, others, each⟩ :=
    persistConfigurations_fresh clock writable keys
  refine ⟨after, ?_, [row], sets, by rw [others, appended], ?_, ?_⟩
  · unfold persistCapturedScreeningEvidence
    rw [if_neg (by simpa using filled), if_neg (not_not.mpr count), made, bind_ok,
      one, bind_ok, ← count]
    exact later
  · intro entry member
    rw [List.mem_singleton.mp member]
    exact congrArg Prod.snd (held.2.1.trans key)
  · refine forall₂_trans pairs each ?_
    rintro entry member ⟨rowId, kept⟩ rows ⟨same, portfolio, present, taken⟩ ⟨documents, made, holds⟩
    obtain rfl : rowId = entry.1.parameterRowId := same
    have listed : entry.1 ∈ result.rankedResults :=
      executed.ranked.mem_iff.mpr (List.mem_map_of_mem member)
    have ledger := ledgers entry member portfolio kept present taken
    obtain ⟨-, -, -, equity, single, -⟩ := capturable.writable entry member portfolio kept present taken
    obtain ⟨position, found, written⟩ :=
      screeningArtifacts_own runtime config ranked listed ledger
    rw [single] at written
    obtain rfl := Except.ok.inj (made.symm.trans written)
    rw [← count]
    exact ⟨portfolio, kept, equity, position, present, taken, single, found, holds⟩

/-- With an observer, an experiment that returns leaves complete screening evidence exactly when
it evaluated nothing, or rejected nothing, evaluated no two settings of one identity, and every
number of the documents can be written. -/
theorem screening_evidence_complete_iff (engine : Engine F) (policy : Option (SessionPolicy F))
    (day : Int → Int) (cachePolicy : CachePolicy K (SignalResult F)) (chunkSettings : Option Nat)
    (held : Option (List (K × SignalResult F))) (clock : Clock) (data : ScreeningData F)
    (executed : executeExperiment engine policy day cachePolicy inputs
      (some (captureScreeningPortfolios snapshot)) chunkSettings held [] = .ok (result, captured))
    (ledgers : ∀ entry ∈ result.evaluated, ∀ own kept, entry.2 = some own →
      snapshot own = .ok kept → entry.1.metrics.numberOfTrades = kept.trades.length)
    (fresh : FreshRun runId store) :
    (∃ after, persistCapturedScreeningEvidence runtime config runId clock result.rankedResults
        inputs.parameterCombinations.length data captured store = .ok after ∧
      EvidenceComplete runtime config runId snapshot result inputs.parameterCombinations.length
        store after) ↔
      result.evaluated = [] ∨ EvidenceCapturable runtime config snapshot result data := by
  have executed := executeExperiment_executed executed
  by_cases nonempty : result.evaluated = []
  · refine ⟨fun _ => .inl nonempty, fun _ => ⟨store, ?_, [], [], ?_, ?_, ?_⟩⟩
    · have observed := executed.observed
      rw [nonempty] at observed
      obtain rfl : [] = captured := observed
      rfl
    · rw [List.append_nil, List.flatten_nil, List.append_nil]
    · exact fun row member => absurd member List.not_mem_nil
    · rw [nonempty]
      exact .nil
  · constructor
    · rintro ⟨after, ok, -⟩
      exact .inr (capturable_of_persisted runtime config executed ledgers nonempty ok)
    · rintro (none | capturable)
      · exact absurd none nonempty
      · exact complete_of_capturable runtime config executed ledgers fresh nonempty capturable

end Experiment

end Complete

/-! ## Samples -/

section Samples

instance wholePrice : PyFloat Int where
  isFinite _ := true
  ofInt value := some value
  literal value := value
  eq a b := a == b
  lt a b := decide (a < b)

mutual

def wholeText : PyValue Int → String
  | .none => "null"
  | .bool value => if value then "true" else "false"
  | .int value => toString value
  | .float value => toString value ++ ".0"
  | .str text => "\"" ++ text ++ "\""
  | .list items => "[" ++ ",".intercalate (wholeItems items) ++ "]"
  | .dict entries => "\x7b" ++ ",".intercalate (wholeEntries entries) ++ "\x7d"

def wholeItems : List (PyValue Int) → List String
  | [] => []
  | item :: rest => wholeText item :: wholeItems rest

def wholeEntries : List (String × PyValue Int) → List String
  | [] => []
  | (key, value) :: rest => ("\"" ++ key ++ "\":" ++ wholeText value) :: wholeEntries rest

end

def sampleRuntime : EvidenceRuntime Int String where
  jsonDumps := wholeText
  jsonLoads _ := none
  sha256Hex text := text
  checksum content := content
  size := String.length
  encode text := text
  ofInt64 value := value
  dailyLast points := points
  isoformat time := toString time
  barsHash rows := toString rows.length

def sampleEvidenceConfig : EvidenceConfig Int where
  strategyId := "opening-entry"
  strategyVersion := "1.0.0"
  symbol := "SPY"
  interval := "5m"
  exchangeCalendar := none
  marketData := .dict [("symbol", .str "SPY"), ("interval", .str "5m")]
  metricPolicy := none
  priceMultiplier := 1

/-- Settings that enter on a bar of the four, the last of which is refused. -/
def sampleExperiment (combinations : List Nat) : ExperimentInputs Nat Nat Nat Int Nat where
  sweep := sampleInputs
  checks := .ok ()
  parameterCombinations := combinations
  validateParameters bar :=
    if bar < 3 then .ok bar else .error (.refused "entry_bar has no bar to fill on")
  parameterRowIdentity bar := s!"row-{bar}"
  screens _ := true
  recordLuck _ := .ok ()
  ranking := .ok fun first second => decide (second.normalized ≤ first.normalized)

def sampleView : DirectionView Int := ⟨1, 1, 0, 0, 0, 1, 1, 1, 1, 0, 1, 1, 1, 0⟩

def sampleSnapshot (portfolio : ObservedPortfolio Int) :
    Except SweepError (ScreeningPortfolioSnapshot Int) :=
  .ok
    { trades := List.replicate portfolio.column.tradeCount.toNat [("Avg Entry Price", .number 10)]
      orders := []
      value := .series ⟨true, portfolio.column.value.map fun value => (.timestamp "bar", .number value)⟩
      all := sampleView
      long := sampleView
      short := sampleView }

def sampleScreening (combinations : List Nat) :
    Except SweepError (ExperimentResult Nat Nat Int × CapturedPortfolios Int) :=
  executeExperiment sampleEngine none id forgetful (sampleExperiment combinations)
    (some (captureScreeningPortfolios sampleSnapshot)) none none []

def sampleData : ScreeningData Int where
  timezoneAware := true
  columns := ["Open", "High", "Low", "Close", "Volume"]
  rows := sampleInputs.data

def sampleStore : ArtifactStore String where
  runs := [⟨"run-1", "configuration-1", "opening-entry", "1.0.0"⟩]
  artifacts := []
  manifests := Table.empty
  files _ := .missing

/-- The ledgers of the settings have as many trades as the engine counts. -/
def ledgersCounted (result : ExperimentResult Nat Nat Int) : Bool :=
  result.evaluated.all fun entry => entry.2.all fun own =>
    (sampleSnapshot own).toOption.all fun kept =>
      decide (entry.1.metrics.numberOfTrades = kept.trades.length)

theorem sample_ledgers {combinations : List Nat} {result : ExperimentResult Nat Nat Int}
    {captured : CapturedPortfolios Int} (executed : sampleScreening combinations = .ok (result, captured))
    (counted : (sampleScreening combinations).toOption.all (fun pair => ledgersCounted pair.1) = true) :
    ∀ entry ∈ result.evaluated, ∀ own kept, entry.2 = some own →
      sampleSnapshot own = .ok kept → entry.1.metrics.numberOfTrades = kept.trades.length := by
  rw [executed] at counted
  intro entry member own kept present taken
  have settings := List.all_eq_true.mp counted entry member
  rw [present] at settings
  have checked : (sampleSnapshot own).toOption.all (fun kept =>
      decide (entry.1.metrics.numberOfTrades = kept.trades.length)) = true := settings
  rw [taken] at checked
  exact of_decide_eq_true checked

theorem sample_writable (metrics : SweepMetrics Int) {own : ObservedPortfolio Int}
    {kept : ScreeningPortfolioSnapshot Int} (taken : sampleSnapshot own = .ok kept) :
    SettingWritable sampleRuntime sampleEvidenceConfig metrics kept := by
  have number (value : Int) : numberWritable value = true := rfl
  cases taken
  refine ⟨rfl, by simp [metricsWritable, number], ?_, ⟨_, rfl, ?_⟩⟩
  · refine Bool.and_eq_true_iff.mpr ⟨List.all_eq_true.mpr fun row member => ?_, rfl⟩
    rw [List.eq_of_mem_replicate member]
    rfl
  · have whole (equity : EquitySeries Int) (dated : equity.datetimeIndex = true) :
        (boundedEquity sampleRuntime equity).1 = equity.entries := by
      unfold boundedEquity
      rw [dated]
      split
      · rfl
      · rfl
    unfold equityWritable
    rw [whole _ rfl]
    refine List.all_eq_true.mpr fun point member => ?_
    obtain ⟨value, -, rfl⟩ := List.mem_map.mp member
    rfl

theorem sampleScreening_returns (combinations : List Nat)
    (returned : (sampleScreening combinations).isOk = true) :
    ∃ result captured, sampleScreening combinations = .ok (result, captured) := by
  cases executed : sampleScreening combinations with
  | error raised =>
      rw [executed] at returned
      cases returned
  | ok pair => exact ⟨pair.1, pair.2, rfl⟩

theorem bothSettings_leave_evidence : ∃ result captured after,
    sampleScreening [0, 1] = .ok (result, captured) ∧
      persistCapturedScreeningEvidence sampleRuntime sampleEvidenceConfig "run-1" (fun _ => "now")
        result.rankedResults 2 sampleData captured sampleStore = .ok after ∧
      EvidenceComplete sampleRuntime sampleEvidenceConfig "run-1" sampleSnapshot result 2
        sampleStore after := by
  obtain ⟨result, captured, executed⟩ := sampleScreening_returns [0, 1] (by decide +kernel)
  have accepted : (sampleScreening [0, 1]).toOption.all (fun pair => pair.1.rejections.isEmpty &&
      decide (pair.1.evaluated.map fun entry => entry.1.parameterRowId).Nodup) = true := by
    decide +kernel
  rw [executed] at accepted
  obtain ⟨rejections, distinct⟩ := Bool.and_eq_true_iff.mp accepted
  have fresh : FreshRun "run-1" sampleStore :=
    ⟨by decide +kernel, fun artifact member => absurd member List.not_mem_nil⟩
  have capturable : EvidenceCapturable sampleRuntime sampleEvidenceConfig sampleSnapshot result
      sampleData :=
    ⟨List.isEmpty_iff.mp rejections, of_decide_eq_true distinct, by decide +kernel,
      fun entry _ own kept _ taken => sample_writable entry.1.metrics taken⟩
  obtain ⟨after, persisted, complete⟩ := (screening_evidence_complete_iff sampleRuntime
    sampleEvidenceConfig sampleEngine none id forgetful none none (fun _ => "now") sampleData
    executed (sample_ledgers executed (by decide +kernel)) fresh).mpr (.inr capturable)
  exact ⟨result, captured, after, executed, persisted, complete⟩

/-- The second setting is refused and the first is evaluated, and no evidence is written. -/
theorem refusedSetting_loses_evidence : ∃ result captured,
    sampleScreening [0, 9] = .ok (result, captured) ∧ result.evaluated.length = 1 ∧
      ledgersCounted result = true ∧
      persistCapturedScreeningEvidence sampleRuntime sampleEvidenceConfig "run-1" (fun _ => "now")
        result.rankedResults 2 sampleData captured sampleStore =
          .error (runtimeError "bounded screening evidence capture is incomplete") := by
  obtain ⟨result, captured, executed⟩ := sampleScreening_returns [0, 9] (by decide +kernel)
  have facts : (sampleScreening [0, 9]).toOption.all (fun pair =>
      decide (pair.1.evaluated.length = 1) && ledgersCounted pair.1 &&
        decide (pair.2.length = 1)) = true := by
    decide +kernel
  rw [executed] at facts
  obtain ⟨facts, one⟩ := Bool.and_eq_true_iff.mp facts
  obtain ⟨evaluated, counted⟩ := Bool.and_eq_true_iff.mp facts
  have one : captured.length = 1 := of_decide_eq_true one
  refine ⟨result, captured, executed, of_decide_eq_true evaluated, counted, ?_⟩
  unfold persistCapturedScreeningEvidence
  rw [if_neg (by
      intro empty
      rw [List.isEmpty_iff.mp empty] at one
      cases one), if_pos (by omega)]

end Samples

end QuantFactory.Experiments
