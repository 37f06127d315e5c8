import Mathlib
import QuantFactory.Python.Samples
import QuantFactory.WalkForward.ReadableLabels

/-!
# The persisted validator against the live one

A result the live adapter accepts is built into a document that the persisted
validator accepts with the same status and reasons, exactly under
`PersistedAgreement`.
-/

set_option autoImplicit false

namespace QuantFactory.WalkForward

open QuantFactory.Library QuantFactory.Python QuantFactory.Persistence

theorem liveFolds_of_accepted {F : Type} {library : TimeLibrary} {rules : WalkForwardWindowRules}
    {folds : List (WalkForwardFoldResult F)}
    (accepted : validateWalkForwardWindows library rules folds = .ok ()) :
    LiveFolds library rules.toWindowRuleSettings (folds.map fun fold => fold.window) := by
  intro number window at?
  rw [List.getElem?_map, Option.map_eq_some_iff] at at?
  obtain ⟨fold, inFolds, rfl⟩ := at?
  obtain ⟨grid, live⟩ := validateFolds_live accepted inFolds
  refine ⟨grid, ?_⟩
  have start : ((folds.map fun fold => fold.window).head?.map fun first =>
      (partitionBounds first.train).1) =
      folds.head?.map fun first => (partitionBounds first.window.train).1 := by
    rw [List.head?_map, Option.map_map]
    rfl
  rw [start]
  exact live

section Agreement
variable {F : Type} [PyFloat F] (runtime : PythonRuntime F) (library : TimeLibrary)
  (source : Entries F) (runId : String) (result : WalkForwardResult F)
  (rules : WalkForwardWindowRules)

/-- The document is built and accepted, and its folds give the live status and reasons. -/
def Agrees (record : NormalizedEvidenceRecord) : Prop :=
  ∃ document,
    buildWalkForwardEvidenceDocument runtime library source result rules = .ok document ∧
      validateWalkForwardEvidenceDocument runtime library document runId walkForwardArtifact =
        .ok () ∧
      documentOutcome library document = .ok (record.status, record.reasons)

/-- What has to hold besides of a result the live adapter accepts. -/
structure PersistedAgreement : Prop where
  finite : allFiniteEntries source = true ∧ ∀ fold ∈ result.folds, foldFinite fold = true
  windows : ∃ grid, documentGrid library result.folds = .ok grid ∧
    FoldsDiffer library rules.toWindowRuleSettings grid none none rules.trainingWindowSize
      (result.folds.map fun fold => fold.window)
  trimmed : ∀ reason ∈ failureReasons result.folds, strip reason = reason

/-- What is left of it for windows of the builder whose labels sort and read back like
their bars. -/
structure BuiltAgreement : Prop where
  finite : allFiniteEntries source = true ∧ ∀ fold ∈ result.folds, foldFinite fold = true
  full_tests : ∀ fold ∈ result.folds, rules.testWindowSize ≤ fold.window.test.rowCount
  trimmed : ∀ reason ∈ failureReasons result.folds, strip reason = reason

/-- The same for any such windows of one alignment. -/
structure ReadableAgreement (alignment : Option SessionAlignment) : Prop extends
    BuiltAgreement source result rules where
  separated : CutsSeparated library alignment (result.folds.map fun fold => fold.window)

variable {runtime library source runId result rules}

theorem agrees_iff (sourceRun : source.lookup "run_id" = some (.str runId))
    {record : NormalizedEvidenceRecord}
    (live : normalizeWalkForwardEvidence library result rules = .ok record)
    (valid : record.status ≠ .invalid)
    (readsBack : ∀ identity document,
      evidenceIdentity runtime (evidencePayload result rules.toWindowRuleSettings record) =
        .ok identity →
      Persistence.normalize (.dict (evidenceDocument source
        (evidencePayload result rules.toWindowRuleSettings record) identity)) = .ok document →
      runtime.jsonLoads (runtime.jsonDumps document) = some document) :
    Agrees runtime library source runId result rules record ↔
      PersistedAgreement library source result rules := by
  obtain ⟨nonempty, accepted, rfl⟩ := normalize_evidence_accepted live valid
  have checked := validateFolds_checked accepted
  have lives := liveFolds_of_accepted accepted
  have foldsIff (grid : Option SessionGrid) :
      FoldsAgree library rules.toWindowRuleSettings grid
          ((none : Option DataPartition).map DataPartition.endLabel) none rules.trainingWindowSize
          (result.folds.map fun fold => fold.window) ↔
        FoldsDiffer library rules.toWindowRuleSettings grid none none rules.trainingWindowSize
          (result.folds.map fun fold => fold.window) := by
    refine foldsAgree_iff (fun window member => ?_) fun number window at? =>
      (lives number window at?).choose_spec.enough
    obtain ⟨fold, inFolds, rfl⟩ := List.mem_map.mp member
    exact (checked fold inFolds).selection
  constructor
  · rintro ⟨document, built, _, outcome⟩
    obtain ⟨identity, _, done⟩ :=
      (buildDocument_ok_iff live valid readsBack document).mp built
    have reads := readsDocument sourceRun done
    obtain ⟨⟨grid, gridOk, agree⟩, same⟩ :=
      (documentOutcome_ok_iff reads nonempty checked _).mp outcome
    exact {
      finite := (normalize_document_ok_iff identity).mp ⟨document, done⟩
      windows := ⟨grid, gridOk, (foldsIff grid).mp agree⟩
      trimmed := (evidenceOfFolds_iff result.folds).mp same }
  · intro agreement
    obtain ⟨identity, identified⟩ : ∃ identity, evidenceIdentity runtime (evidencePayload result
        rules.toWindowRuleSettings (evidenceOfFolds result.folds)) = .ok identity :=
      evidenceIdentity_ok_iff.mpr agreement.finite.2
    obtain ⟨document, done⟩ : ∃ document, Persistence.normalize (.dict (evidenceDocument source
        (evidencePayload result rules.toWindowRuleSettings (evidenceOfFolds result.folds))
          identity)) = .ok document :=
      (normalize_document_ok_iff identity).mpr agreement.finite
    have reads := readsDocument sourceRun done
    obtain ⟨grid, gridOk, differ⟩ := agreement.windows
    have outcome := (documentOutcome_ok_iff reads nonempty checked _).mpr
      ⟨⟨grid, gridOk, (foldsIff grid).mpr differ⟩,
        (evidenceOfFolds_iff result.folds).mpr agreement.trimmed⟩
    exact ⟨document, (buildDocument_ok_iff live valid readsBack document).mpr
      ⟨identity, identified, done⟩, (validateDocument_ok_iff reads identified).mpr outcome,
      outcome⟩

end Agreement

/-- On a result the live adapter accepts, the document is built, accepted and given the
live status and reasons exactly under `PersistedAgreement`; for windows of one
alignment with readable labels that is: finite numbers, no short test, no two tests in
one session, no cut inside a day, and reasons without space around them.  The builder's
windows meet what this asks of the cuts. -/
theorem persisted_agrees_iff {F : Type} [PyFloat F] (runtime : PythonRuntime F)
    (library : TimeLibrary) (source : Entries F) (runId : String)
    (sourceRun : source.lookup "run_id" = some (.str runId)) (result : WalkForwardResult F)
    (rules : WalkForwardWindowRules) (record : NormalizedEvidenceRecord)
    (live : normalizeWalkForwardEvidence library result rules = .ok record)
    (valid : record.status ≠ .invalid)
    (readsBack : ∀ identity document,
      evidenceIdentity runtime (evidencePayload result rules.toWindowRuleSettings record) =
        .ok identity →
      Persistence.normalize (.dict (evidenceDocument source
        (evidencePayload result rules.toWindowRuleSettings record) identity)) = .ok document →
      runtime.jsonLoads (runtime.jsonDumps document) = some document) :
    (Agrees runtime library source runId result rules record ↔
      PersistedAgreement library source result rules) ∧
    ∀ alignment, ReadableWindows library alignment
        (result.folds.map fun fold => fold.window) →
      (Agrees runtime library source runId result rules record ↔
        ReadableAgreement library source result rules alignment) ∧
      ∀ config label index (sessions : SessionAssignment index),
        AssignedBy library alignment index sessions →
        buildWalkForwardWindows config label alignment index sessions =
          .ok (result.folds.map fun fold => fold.window) →
        (Agrees runtime library source runId result rules record ↔
          BuiltAgreement source result rules) := by
  have agrees := agrees_iff sourceRun live valid readsBack
  refine ⟨agrees, fun alignment readable => ?_⟩
  obtain ⟨nonempty, accepted, _⟩ := normalize_evidence_accepted live valid
  have windows := differences_iff nonempty readable (liveFolds_of_accepted accepted)
  have readableIff : Agrees runtime library source runId result rules record ↔
      ReadableAgreement library source result rules alignment := by
    rw [agrees]
    constructor
    · rintro ⟨finite, differ, trimmed⟩
      obtain ⟨separated, full⟩ := windows.mp differ
      exact ⟨⟨finite, full, trimmed⟩, separated⟩
    · rintro ⟨⟨finite, full, trimmed⟩, separated⟩
      exact ⟨finite, windows.mpr ⟨separated, full⟩, trimmed⟩
  refine ⟨readableIff, fun config label index sessions assigned built => ?_⟩
  have separated := (build_walk_forward_windows_separated assigned built).2
  exact readableIff.trans ⟨fun agreement => agreement.toBuiltAgreement,
    fun agreement => ⟨agreement, separated⟩⟩

/-! Daily bars from 1970-01-01 on, trained and tested two at a time, under a runtime
that writes the documents below as the source does. -/

def dailyLabel (time : Int) : String := "1970-01-0" ++ toString (time / nanosPerDay + 1)

def dailyLibrary : TimeLibrary where
  isoformat := dailyLabel
  localDay := utcDay
  dateText := dailyLabel
  parse := fun _ => none
  calendar := fun _ => none
  timedelta := fun _ => none
  isoformat_text _ := isBlank_eq_false (c := '1') (by simp [dailyLabel]) (by decide)
  dateText_text _ := isBlank_eq_false (c := '1') (by simp [dailyLabel]) (by decide)

def dailyIndex (bars : Nat) : List Int := (List.range bars).map fun day => day * nanosPerDay

def dailySessions (bars : Nat) : SessionAssignment (dailyIndex bars) where
  dates := (List.range bars).map Int.ofNat
  length_eq := by simp [dailyIndex]
  monotone := List.pairwise_map.mpr (List.pairwise_le_range.imp Int.ofNat_le.mpr)

def dailyConfig : WalkForwardConfig where
  trainingWindowSize := 2
  selectionWindowSize := none
  testWindowSize := 2
  stepSize := 2
  trainingMode := .rolling
  minimumRowsPerWindow := 1
  shortlistSize := 1
  incompleteFinalWindow := .included
  checked := by decide

/-- The result of a run over the first daily bars, every fold with these metrics. -/
def dailyResult (bars : Nat) (metrics : Entries WholeFloat) :
    WalkForwardResult WholeFloat where
  folds := ((buildWalkForwardWindows dailyConfig dailyLabel none (dailyIndex bars)
      (dailySessions bars)).toOption.getD []).map fun window =>
    foldResult window (.successful ⟨"lock_001", by decide⟩ [("length", .int 20)] metrics)
  overfitting := none

def dailySource : Entries WholeFloat := [("run_id", .str "run_001")]

def dailyRecord : NormalizedEvidenceRecord := walkForwardRecord .insufficientEvidence [noDecision]

def dailyDocument (bars : Nat) (metrics : Entries WholeFloat) (digest : String) :
    PyValue WholeFloat :=
  (Persistence.normalize (.dict (evidenceDocument dailySource (evidencePayload (dailyResult bars metrics)
    dailyConfig.rules.toWindowRuleSettings dailyRecord) digest))).toOption.getD .none

def dailyRuntime (digest : String) (document : PyValue WholeFloat) :
    PythonRuntime WholeFloat where
  jsonDumps := jsonText
  jsonLoads text := if text = jsonText document then some document else none
  sha256Hex _ := digest

def fullTests : Entries WholeFloat := [("total_return", .float (.whole 3))]

def undefinedSharpe : Entries WholeFloat := [("sharpe_ratio", .float .nan)]

def fullDigest : String := "3fb821cb7cc3a2ca573caed427cc8b99f0442da234ee6d13910fdc6ce01b2667"

def shortDigest : String := "433e58e3772c978c702e0084fe51bd9ee411fd32ac1fdfaf39e1a2d7278fb8ba"

/-- The live adapter accepts both results; the short final test the policy keeps is
refused in the document, and a metric that is not a number keeps it from being built. -/
theorem persisted_agrees_refuses :
    (normalizeWalkForwardEvidence dailyLibrary (dailyResult 5 fullTests) dailyConfig.rules =
        .ok dailyRecord ∧
      (buildWalkForwardEvidenceDocument (dailyRuntime shortDigest
          (dailyDocument 5 fullTests shortDigest)) dailyLibrary dailySource
          (dailyResult 5 fullTests) dailyConfig.rules).bind (fun document =>
        validateWalkForwardEvidenceDocument (dailyRuntime shortDigest
          (dailyDocument 5 fullTests shortDigest)) dailyLibrary document "run_001"
          walkForwardArtifact) =
        .error (windowError
          "declared walk-forward rules are inconsistent with persisted folds")) ∧
    normalizeWalkForwardEvidence dailyLibrary (dailyResult 6 undefinedSharpe) dailyConfig.rules =
        .ok dailyRecord ∧
      (buildWalkForwardEvidenceDocument (dailyRuntime fullDigest .none) dailyLibrary dailySource
          (dailyResult 6 undefinedSharpe) dailyConfig.rules).bind (fun _ => .ok ()) =
        .error (windowError nonFiniteFloat) :=
  ⟨⟨by decide +kernel, by decide +kernel⟩, by decide +kernel, by decide +kernel⟩

def dailyPair (name : String) (first : Int) : DataPartition where
  name := name
  index := [first * nanosPerDay, (first + 1) * nanosPerDay]
  startLabel := dailyLabel (first * nanosPerDay)
  endLabel := dailyLabel ((first + 1) * nanosPerDay)
  rowCount := 2

/-- Two train bars from a first one on, and two test bars after them. -/
def dailyWindow (foldId : String) (first : Int) : WalkForwardWindow where
  foldId := foldId
  train := dailyPair (foldId ++ ":train") first
  selection := none
  test := dailyPair (foldId ++ ":test") (first + 2)
  sessionAlignment := none

theorem dailyResult_windows : (dailyResult 6 fullTests).folds.map (fun fold => fold.window) =
    [dailyWindow "fold_001" 0, dailyWindow "fold_002" 2] := by
  decide +kernel

theorem dailyResult_readable : ReadableWindows dailyLibrary none
    ((dailyResult 6 fullTests).folds.map fun fold => fold.window) := by
  rw [dailyResult_windows]
  exact ⟨by decide, by decide, by decide +kernel, by decide +kernel,
    fun aligned => (by cases aligned), fun _ _ found => (by cases found)⟩

theorem dailySessions_assigned :
    AssignedBy dailyLibrary none (dailyIndex 6) (dailySessions 6) := by
  change (dailySessions 6).dates = (dailyIndex 6).map utcDay
  decide

theorem persisted_agrees_fullTests :
    Agrees (dailyRuntime fullDigest (dailyDocument 6 fullTests fullDigest)) dailyLibrary
      dailySource "run_001" (dailyResult 6 fullTests) dailyConfig.rules dailyRecord := by
  refine (((persisted_agrees_iff _ dailyLibrary dailySource "run_001" rfl (dailyResult 6 fullTests)
    dailyConfig.rules dailyRecord (by decide +kernel) (by decide +kernel) ?_).2 none
    dailyResult_readable).2 dailyConfig dailyLabel (dailyIndex 6) (dailySessions 6)
    dailySessions_assigned (by decide +kernel)).mpr
    ⟨⟨by decide +kernel, by decide +kernel⟩, by decide +kernel, by decide +kernel⟩
  intro identity document identified done
  have digest : evidenceIdentity (dailyRuntime fullDigest
      (dailyDocument 6 fullTests fullDigest)) (evidencePayload (dailyResult 6 fullTests)
      dailyConfig.rules.toWindowRuleSettings dailyRecord) = .ok fullDigest := by
    decide +kernel
  rw [digest] at identified
  cases Except.ok.inj identified
  have written : dailyDocument 6 fullTests fullDigest = document := by
    rw [dailyDocument, done]
    rfl
  simp [dailyRuntime, written]

end QuantFactory.WalkForward
