import QuantFactory.WalkForward.Acceptance
import QuantFactory.WalkForward.Reading

/-!
# The persisted validator against the live one

What the persisted validator checks of a document built from a result: its folds
(`FoldsAgree`), its reasons and its numbers.
-/

set_option autoImplicit false

namespace QuantFactory.WalkForward

open QuantFactory.Library QuantFactory.Python QuantFactory.Persistence

/-! ## What the live validator leaves -/

structure PartitionChecked (part : DataPartition) : Prop where
  name_text : isBlank part.name = false
  start_text : isBlank part.startLabel = false
  end_text : isBlank part.endLabel = false
  rowCount_pos : 1 ≤ part.rowCount

def SelectionChecked (declared : Option Nat) (selection : Option DataPartition) : Prop :=
  match declared with
  | none => selection = none
  | some _ => ∃ part, selection = some part ∧ PartitionChecked part

structure FoldChecked {F : Type} (rules : WindowRuleSettings) (fold : WalkForwardFoldResult F) :
    Prop where
  foldId_text : isBlank fold.foldId = false
  train : PartitionChecked fold.window.train
  test : PartitionChecked fold.window.test
  selection : SelectionChecked rules.selectionWindowSize fold.window.selection
  lock : lockMissing fold = false

section Live
variable {F : Type} {library : TimeLibrary} {rules : WalkForwardWindowRules}

theorem requirePartition_checked {name : String} {part : DataPartition} {aligned : Bool}
    (accepted : requirePartition library name part aligned = .ok ()) : PartitionChecked part := by
  simp only [requirePartition, bind_eq_ok, raiseIf_eq_ok, decide_eq_false_iff_not,
    Nat.not_lt] at accepted
  obtain ⟨_, name, _, start, _, stop, _, rowCount, _⟩ := accepted
  exact ⟨name, start, stop, rowCount⟩

theorem checkSelection_checked {foldId : String} {window : WalkForwardWindow}
    {grid : Option SessionGrid}
    (accepted : checkSelection library rules foldId window grid = .ok ()) :
    SelectionChecked rules.selectionWindowSize window.selection := by
  unfold checkSelection at accepted
  unfold SelectionChecked
  cases declared : rules.selectionWindowSize with
  | none =>
      simp only [declared, bind_eq_ok, raiseIf_eq_ok] at accepted
      obtain ⟨_, absent, _⟩ := accepted
      exact Option.isSome_eq_false_iff.mp absent |> Option.isNone_iff_eq_none.mp
  | some size =>
      simp only [declared, bind_eq_ok, orRaise_eq_ok] at accepted
      obtain ⟨part, present, _, checked, _⟩ := accepted
      exact ⟨part, present, requirePartition_checked checked⟩

theorem validateFold_checked {isLast : Bool} {state next : WindowState}
    {fold : WalkForwardFoldResult F}
    (accepted : validateFold library rules isLast state fold = .ok next) :
    FoldChecked rules.toWindowRuleSettings fold := by
  simp only [validateFold, bind_eq_ok, raiseIf_eq_ok] at accepted
  obtain ⟨_, foldId, _, _, grid, _, _, train, _, test, _, _, _, selection, _, _, overlaps, _,
    _, _, _, lock, _⟩ := accepted
  exact ⟨foldId, requirePartition_checked train, requirePartition_checked test,
    checkSelection_checked selection, lock⟩

theorem validateFolds_checked {folds : List (WalkForwardFoldResult F)} {state : WindowState}
    (accepted : validateFolds library rules state folds = .ok ()) :
    ∀ fold ∈ folds, FoldChecked rules.toWindowRuleSettings fold := by
  induction folds generalizing state with
  | nil => simp
  | cons fold rest ih =>
      simp only [validateFolds, bind_eq_ok] at accepted
      obtain ⟨next, first, later⟩ := accepted
      intro other member
      rcases List.mem_cons.mp member with rfl | inRest
      · exact validateFold_checked first
      · exact ih later other inRest

theorem normalize_evidence_accepted {result : WalkForwardResult F}
    {record : NormalizedEvidenceRecord}
    (live : normalizeWalkForwardEvidence library result rules = .ok record)
    (valid : record.status ≠ .invalid) :
    result.folds ≠ [] ∧ validateWalkForwardWindows library rules result.folds = .ok () ∧
      record = evidenceOfFolds result.folds := by
  unfold normalizeWalkForwardEvidence at live
  split at live
  · cases Except.ok.inj live
    exact absurd rfl valid
  · rename_i filled
    split at live
    · rename_i accepted
      exact ⟨by simpa using filled, accepted, (Except.ok.inj live).symm⟩
    · split at live
      · cases Except.ok.inj live
        exact absurd rfl valid
      · cases live

end Live

/-! ## What the persisted validator asks besides -/

section Agrees
variable (library : TimeLibrary) (rules : WindowRuleSettings) (grid : Option SessionGrid)

/-- On a grid, one label lies in an earlier session than another. -/
def SessionsApart (before after : String) : Prop :=
  ∀ sessions, grid = some sessions →
    ∃ beforeTime afterTime, library.parse before = some beforeTime ∧
      library.parse after = some afterTime ∧
      sessions.sessionOf beforeTime < sessions.sessionOf afterTime

/-- One label lies before another, and in an earlier session of the grid. -/
def LabelsApart (before after : String) : Prop :=
  before < after ∧ SessionsApart library grid before after

def LabelsOrdered (part : DataPartition) : Prop := ¬ part.endLabel < part.startLabel

def nextTrainSize (expectedTrainSize : Nat) : Nat :=
  match rules.trainingMode with
  | .rolling => expectedTrainSize
  | .expanding => expectedTrainSize + rules.stepSize

/-- The train rows, counted on the document's grid, and the start label of an expanding train. -/
def TrainAgrees (previousTrainStart : Option String) (expectedTrainSize : Nat)
    (train : DataPartition) : Prop :=
  match rules.trainingMode with
  | .rolling => sizeWithin train.rowCount rules.trainingWindowSize grid false = true
  | .expanding => sizeWithin train.rowCount expectedTrainSize grid true = true ∧
      ∀ first, previousTrainStart = some first → first = train.startLabel

def SelectionAgrees (window : WalkForwardWindow) : Prop :=
  match rules.selectionWindowSize, window.selection with
  | some declared, some part =>
      LabelsOrdered part ∧ sizeWithin part.rowCount declared grid false = true ∧
        LabelsApart library grid window.train.endLabel part.startLabel ∧
        LabelsApart library grid part.endLabel window.test.startLabel
  | _, _ => LabelsApart library grid window.train.endLabel window.test.startLabel

structure FoldAgrees (previousTestEnd previousTrainStart : Option String)
    (expectedTrainSize : Nat) (window : WalkForwardWindow) : Prop where
  train_ordered : LabelsOrdered window.train
  test_ordered : LabelsOrdered window.test
  train : TrainAgrees rules grid previousTrainStart expectedTrainSize window.train
  selection : SelectionAgrees library rules grid window
  full_test : sizeWithin window.test.rowCount rules.testWindowSize grid false = true
  prior : ∀ previous, previousTestEnd = some previous →
    LabelsApart library grid previous window.test.startLabel

def FoldsAgree : Option String → Option String → Nat → List WalkForwardWindow → Prop
  | _, _, _, [] => True
  | previousTestEnd, previousTrainStart, expectedTrainSize, window :: rest =>
      FoldAgrees library rules grid previousTestEnd previousTrainStart expectedTrainSize window ∧
        FoldsAgree (some window.test.endLabel)
          (previousTrainStart <|> some window.train.startLabel)
          (nextTrainSize rules expectedTrainSize) rest

end Agrees

section Fold
variable {F : Type} {library : TimeLibrary} {rules : WindowRuleSettings}
  {grid : Option SessionGrid}

abbrev recordOf (part : DataPartition) : PartitionRecord :=
  ⟨part.startLabel, part.endLabel, part.rowCount⟩

theorem partitionRecord_ok_iff {part : DataPartition} {entries : Entries F}
    {found : PartitionRecord} (reads : ReadsPartition part entries)
    (checked : PartitionChecked part) (name : String) :
    partitionRecord name entries = .ok found ↔ LabelsOrdered part ∧ found = recordOf part := by
  have present : missingFields ["name", "start", "end", "row_count"] entries = [] := by
    simp [missingFields, reads.name, reads.start, reads.stop, reads.rowCount]
  simp only [partitionRecord, present, reads.name, reads.start, reads.stop, reads.rowCount,
    nonBlankText_str checked.name_text, nonBlankText_str checked.start_text,
    nonBlankText_str checked.end_text, positiveInt_nat checked.rowCount_pos, bind_eq_ok,
    raiseIf_eq_ok, orRaise_eq_ok, List.isEmpty_nil, Bool.not_true, decide_eq_false_iff_not,
    Option.some.injEq, exists_eq_left', exists_const, true_and, Except.ok.injEq]
  exact and_congr_right fun _ => eq_comm

theorem presentPartition_ok_iff {part : DataPartition} {entries : Entries F}
    {found : PartitionRecord} (reads : ReadsPartition part entries)
    (checked : PartitionChecked part) (name : String) :
    presentPartition name (some (.dict entries)) = .ok found ↔
      LabelsOrdered part ∧ found = recordOf part := by
  simp only [presentPartition, documentPartition, bind_eq_ok, orRaise_eq_ok, map_eq_ok]
  rw [← partitionRecord_ok_iff reads checked name]
  constructor
  · rintro ⟨_, ⟨inner, done, rfl⟩, same⟩
    rwa [← Option.some.inj same]
  · intro done
    exact ⟨_, ⟨found, done, rfl⟩, rfl⟩

theorem labelBoundary_ok_iff (foldId before after : String) :
    requireSessionBoundary library foldId (.label before) (.label after) grid = .ok () ↔
      SessionsApart library grid before after := by
  cases grid with
  | none => simp [requireSessionBoundary, SessionsApart]
  | some sessions =>
      simp [requireSessionBoundary, SessionsApart, Bound.time, bind_eq_ok]

theorem checkDocumentTrain_ok_iff (foldId : String) (state : DocumentState)
    (train : DataPartition) :
    checkDocumentTrain rules foldId state (recordOf train) grid = .ok () ↔
      TrainAgrees rules grid state.previousTrainStart state.expectedTrainSize train := by
  unfold checkDocumentTrain TrainAgrees
  cases rules.trainingMode with
  | rolling => simp
  | expanding =>
      cases state.previousTrainStart with
      | none => simp [raiseIf_bind_eq_ok]
      | some first => simp [raiseIf_bind_eq_ok]

theorem checkDocumentSelection_ok_iff {window : WalkForwardWindow} {value : PyValue F}
    (reads : ReadsSelection window.selection value)
    (checked : SelectionChecked rules.selectionWindowSize window.selection) (foldId : String) :
    checkDocumentSelection library rules foldId (recordOf window.train) (recordOf window.test)
        (some value) grid = .ok () ↔ SelectionAgrees library rules grid window := by
  unfold checkDocumentSelection SelectionAgrees
  unfold SelectionChecked at checked
  cases declared : rules.selectionWindowSize with
  | none =>
      rw [declared] at checked
      rw [checked] at reads
      cases reads
      simp only [raiseIf_bind_eq_ok, labelBoundary_ok_iff, LabelsApart, PyValue.isNone,
        Option.any_some, Bool.not_true, true_and, Bool.not_eq_eq_eq_not, Bool.not_false,
        decide_eq_true_eq]
  | some size =>
      rw [declared] at checked
      obtain ⟨part, present, partChecked⟩ := checked
      rw [present] at reads
      obtain ⟨entries, rfl, partReads⟩ := reads
      simp only [present, documentPartition, bind_eq_ok, map_eq_ok, orRaise_eq_ok, raiseIf_eq_ok,
        partitionRecord_ok_iff partReads partChecked, labelBoundary_ok_iff, LabelsApart]
      constructor
      · rintro ⟨_, ⟨found, ⟨ordered, rfl⟩, rfl⟩, _, same, rest⟩
        cases Option.some.inj same
        obtain ⟨_, size, _, afterTrain, _, beforeTest, _, trainApart, testApart⟩ := rest
        simp only [Bool.not_eq_eq_eq_not, Bool.not_false, decide_eq_true_eq] at size afterTrain beforeTest
        exact ⟨ordered, size, ⟨afterTrain, (labelBoundary_ok_iff foldId _ _).mp trainApart⟩,
          beforeTest, testApart⟩
      · rintro ⟨ordered, size, ⟨afterTrain, trainApart⟩, beforeTest, testApart⟩
        refine ⟨_, ⟨_, ⟨ordered, rfl⟩, rfl⟩, _, rfl, (), ?_, (), ?_, (), ?_, (),
          (labelBoundary_ok_iff foldId _ _).mpr trainApart, testApart⟩
        · simp [size]
        · simp [afterTrain]
        · simp [beforeTest]

theorem checkDocumentPrior_ok_iff (foldId : String) (previousTestEnd : Option String)
    (testStart : String) :
    checkDocumentPrior library foldId previousTestEnd testStart grid = .ok () ↔
      ∀ previous, previousTestEnd = some previous →
        LabelsApart library grid previous testStart := by
  cases previousTestEnd with
  | none => simp [checkDocumentPrior]
  | some previous =>
      simp only [checkDocumentPrior, raiseIf_bind_eq_ok, labelBoundary_ok_iff, LabelsApart,
        Bool.not_eq_eq_eq_not, Bool.not_false, decide_eq_true_eq, Option.some.injEq, forall_eq']

theorem documentLockMissing_eq {fold : WalkForwardFoldResult F}
    {entries : Entries F} (reads : ReadsFold fold entries) :
    documentLockMissing fold.status entries = lockMissing fold := by
  obtain ⟨value, parameters, isNone⟩ := reads.parameters
  have lock : (nonBlankText (some (optionalText (F := F) fold.parameterLockId))).isNone =
      fold.parameterLockId.all isBlank := by
    cases fold.parameterLockId with
    | none => rfl
    | some text => by_cases blank : isBlank text = true <;> simp [optionalText, nonBlankText, blank]
  rw [documentLockMissing, lockMissing, parameters, reads.lockId, lock]
  cases some? : fold.selectedParameters <;> simp [isNone, some?]

theorem documentFailure_eq {fold : WalkForwardFoldResult F} :
    documentFailure fold.status fold.foldId
        (some (optionalText (F := F) fold.failureReason)) = .ok (failureReasons [fold]) := by
  cases reason : fold.failureReason <;> cases status : fold.status <;>
    simp [documentFailure, failureReasons, optionalText, reason, status]

def nextDocumentState (rules : WindowRuleSettings) (state : DocumentState)
    (fold : WalkForwardFoldResult F) : DocumentState where
  previousTestEnd := some fold.window.test.endLabel
  previousTrainStart := state.previousTrainStart <|> some fold.window.train.startLabel
  expectedTrainSize := nextTrainSize rules state.expectedTrainSize
  failedReasons := state.failedReasons ++ failureReasons [fold]

theorem validateDocumentFold_ok_iff {fold : WalkForwardFoldResult F}
    {entries : Entries F} (reads : ReadsFold fold entries)
    (checked : FoldChecked rules fold) {state next : DocumentState} :
    validateDocumentFold library rules grid state entries = .ok next ↔
      FoldAgrees library rules grid state.previousTestEnd state.previousTrainStart
          state.expectedTrainSize fold.window ∧
        next = nextDocumentState rules state fold := by
  obtain ⟨train, trainRead, trainReads⟩ := reads.train
  obtain ⟨test, testRead, testReads⟩ := reads.test
  obtain ⟨selection, selectionRead, selectionReads⟩ := reads.selection
  obtain ⟨parameters, parametersRead, _⟩ := reads.parameters
  obtain ⟨metrics, metricsRead⟩ := reads.metrics
  have present : missingFields foldFields entries = [] := by
    simp [missingFields, foldFields, reads.foldId, trainRead, testRead, selectionRead,
      reads.status, reads.failureReason, reads.lockId, parametersRead, metricsRead]
  have status : documentStatus (some (.str (F := F) fold.status.value)) = some fold.status := by
    cases fold.status <;> rfl
  simp only [validateDocumentFold, present, reads.foldId, reads.status, status, trainRead, testRead,
    selectionRead, nonBlankText_str checked.foldId_text, bind_eq_ok, raiseIf_eq_ok, orRaise_eq_ok,
    List.isEmpty_nil, Bool.not_true, Option.some.injEq, exists_eq_left', true_and,
    presentPartition_ok_iff trainReads checked.train, presentPartition_ok_iff testReads checked.test,
    documentLockMissing_eq reads, checked.lock, reads.failureReason, documentFailure_eq,
    Except.ok.injEq]
  constructor
  · rintro ⟨_, _, ⟨trainOrdered, rfl⟩, _, ⟨testOrdered, rfl⟩, _, trainOk, _, selectionOk, _, size,
      _, prior, _, done⟩
    refine ⟨⟨trainOrdered, testOrdered, (checkDocumentTrain_ok_iff _ _ _).mp trainOk,
      (checkDocumentSelection_ok_iff selectionReads checked.selection _).mp selectionOk, ?_,
      (checkDocumentPrior_ok_iff _ _ _).mp prior⟩, done.symm⟩
    simpa using size
  · rintro ⟨agrees, rfl⟩
    refine ⟨(), _, ⟨agrees.train_ordered, rfl⟩, _, ⟨agrees.test_ordered, rfl⟩, (),
      (checkDocumentTrain_ok_iff _ _ _).mpr agrees.train, (),
      (checkDocumentSelection_ok_iff selectionReads checked.selection _).mpr agrees.selection, (),
      by simp [agrees.full_test], (), (checkDocumentPrior_ok_iff _ _ _).mpr agrees.prior, (), rfl⟩

theorem validateDocumentFolds_ok_iff {folds : List (WalkForwardFoldResult F)}
    {values : List (PyValue F)} (checked : ∀ fold ∈ folds, FoldChecked rules fold)
    (reads : List.Forall₂ (fun fold value => ∃ entries, value = .dict entries ∧
      ReadsFold fold entries) folds values) {state final : DocumentState} :
    validateDocumentFolds library rules grid state values = .ok final ↔
      FoldsAgree library rules grid state.previousTestEnd state.previousTrainStart
          state.expectedTrainSize (folds.map fun fold => fold.window) ∧
        final = folds.foldl (nextDocumentState rules) state := by
  induction reads generalizing state with
  | nil => simp [validateDocumentFolds, FoldsAgree, eq_comm]
  | @cons fold value folds values read rest ih =>
      obtain ⟨entries, rfl, foldReads⟩ := read
      have first := checked fold List.mem_cons_self
      have restChecked : ∀ other ∈ folds, FoldChecked rules other :=
        fun other member => checked other (List.mem_cons_of_mem _ member)
      simp only [validateDocumentFolds, bind_eq_ok, validateDocumentFold_ok_iff foldReads first,
        List.map_cons, FoldsAgree, List.foldl_cons]
      constructor
      · rintro ⟨_, ⟨agrees, rfl⟩, restOk⟩
        obtain ⟨restAgrees, rfl⟩ := (ih restChecked).mp restOk
        exact ⟨⟨agrees, restAgrees⟩, rfl⟩
      · rintro ⟨⟨agrees, restAgrees⟩, rfl⟩
        exact ⟨_, ⟨agrees, rfl⟩, (ih restChecked).mpr ⟨restAgrees, rfl⟩⟩

theorem foldl_failedReasons (folds : List (WalkForwardFoldResult F)) (state : DocumentState) :
    (folds.foldl (nextDocumentState rules) state).failedReasons =
      state.failedReasons ++ failureReasons folds := by
  induction folds generalizing state with
  | nil => simp [failureReasons]
  | cons fold rest ih =>
      rw [List.foldl_cons, ih]
      simp only [nextDocumentState, failureReasons, List.append_assoc, ← List.map_append,
        ← List.filter_append, List.singleton_append]

end Fold

/-! ## The whole document -/

section Document
variable {F : Type} [PyFloat F]

/-- The grid of the document: the first window's alignment over the labels of all folds. -/
def documentGrid (library : TimeLibrary) (folds : List (WalkForwardFoldResult F)) :
    Except WindowError (Option SessionGrid) :=
  gridForLabels library ((documentAlignment folds).map (alignmentDocument (F := F)))
    (folds.flatMap fun fold => windowLabels fold.window)

def foldsStatus (folds : List (WalkForwardFoldResult F)) : EvidenceStatus × List String :=
  if (failureReasons folds).isEmpty then (.insufficientEvidence, [noDecision])
  else (.failed, failureReasons folds)

theorem validateFoldsDocument_ok_iff {library : TimeLibrary} {result : WalkForwardResult F}
    {rules : WalkForwardWindowRules} {record : NormalizedEvidenceRecord}
    {evidence : Entries F} (reads : ReadsEvidence result rules record evidence)
    (nonempty : result.folds ≠ [])
    (checked : ∀ fold ∈ result.folds, FoldChecked rules.toWindowRuleSettings fold)
    (outcome : EvidenceStatus × List String) :
    validateFoldsDocument library evidence rules.toWindowRuleSettings = .ok outcome ↔
      (∃ grid, documentGrid library result.folds = .ok grid ∧
        FoldsAgree library rules.toWindowRuleSettings grid none none rules.trainingWindowSize
          (result.folds.map fun fold => fold.window)) ∧
        outcome = foldsStatus result.folds := by
  obtain ⟨items, foldsRead, foldReads⟩ := reads.folds
  have filled : items.isEmpty = false := by
    rw [List.isEmpty_eq_false_iff]
    rintro rfl
    exact nonempty (List.forall₂_nil_right_iff.mp foldReads)
  have status : ∀ state : DocumentState,
      state = result.folds.foldl (nextDocumentState rules.toWindowRuleSettings)
        (initialDocumentState rules.toWindowRuleSettings) →
      (if state.failedReasons.isEmpty then (EvidenceStatus.insufficientEvidence, [noDecision])
        else (.failed, state.failedReasons)) = foldsStatus result.folds := by
    rintro _ rfl
    rw [foldl_failedReasons]
    rfl
  simp only [validateFoldsDocument, foldsRead, filled, bind_eq_ok, raiseIf_eq_ok, exists_const,
    true_and, reads.alignment, foldLabels_flatMap foldReads,
    validateDocumentFolds_ok_iff checked foldReads]
  constructor
  · rintro ⟨grid, gridOk, final, ⟨agrees, final_eq⟩, done⟩
    exact ⟨⟨grid, gridOk, agrees⟩, (Except.ok.inj done).symm.trans (status final final_eq)⟩
  · rintro ⟨⟨grid, gridOk, agrees⟩, rfl⟩
    exact ⟨grid, gridOk, _, ⟨agrees, rfl⟩, congrArg Except.ok (status _ rfl)⟩

/-! ## Reasons -/

omit [PyFloat F] in
theorem failureReasons_text {folds : List (WalkForwardFoldResult F)} {reason : String}
    (member : reason ∈ failureReasons folds) : isBlank reason = false := by
  obtain ⟨fold, _, rfl⟩ := List.mem_map.mp member
  refine isBlank_eq_false (c := ':') ?_ (by decide)
  simp only [String.toList_append, List.mem_append]
  exact .inl (.inr (by decide))

theorem normalizedReasons_eq {reasons : List String} (nonempty : reasons ≠ [])
    (solid : ∀ reason ∈ reasons, isBlank reason = false) (fallback : String) :
    normalizedReasons reasons fallback = reasons.map strip := by
  have kept : (reasons.map strip).filter (fun text => !text.isEmpty) = reasons.map strip := by
    rw [List.filter_eq_self]
    intro text member
    obtain ⟨reason, inReasons, rfl⟩ := List.mem_map.mp member
    rw [strip_isEmpty, solid reason inReasons]
    rfl
  have filled : (reasons.map strip).isEmpty = false := by
    cases reasons with
    | nil => exact absurd rfl nonempty
    | cons _ _ => rfl
  simp [normalizedReasons, kept, filled]

omit [PyFloat F] in
/-- The live record gives the folds' own status, and their own reasons when these
carry no space around them. -/
theorem evidenceOfFolds_iff (folds : List (WalkForwardFoldResult F)) :
    ((evidenceOfFolds folds).status, (evidenceOfFolds folds).reasons) = foldsStatus folds ↔
      ∀ reason ∈ failureReasons folds, strip reason = reason := by
  unfold evidenceOfFolds foldsStatus
  cases reasons : failureReasons folds with
  | nil =>
      have kept : normalizedReasons [noDecision]
          s!"walk_forward returned {EvidenceStatus.insufficientEvidence.value}" = [noDecision] := by
        decide +kernel
      simp [walkForwardRecord, kept]
  | cons reason rest =>
      have texts : ∀ other ∈ reason :: rest, isBlank other = false := by
        intro other member
        exact failureReasons_text (reasons ▸ member)
      have kept := normalizedReasons_eq (List.cons_ne_nil reason rest) texts
        s!"walk_forward returned {EvidenceStatus.failed.value}"
      simp only [List.isEmpty_cons, Bool.false_eq_true, if_false, walkForwardRecord, kept,
        Prod.mk.injEq, true_and]
      have fixed := List.map_inj_left (f := strip) (g := id) (l := reason :: rest)
      rwa [List.map_id] at fixed

/-! ## Built documents -/

variable (runtime : PythonRuntime F) (library : TimeLibrary)
  (source : Entries F) (result : WalkForwardResult F)
  (rules : WalkForwardWindowRules)

def documentOutcome (document : PyValue F) : Except WindowError (EvidenceStatus × List String) := do
  let evidence ← evidenceOf document
  let rules ← rulesFromDocument evidence
  foldsOutcome library evidence rules

theorem canonicalText_eq_ok {value : PyValue F} {text : String} :
    canonicalText runtime value = .ok text ↔
      ∃ normalized, Persistence.normalize value = .ok normalized ∧ runtime.jsonDumps normalized = text := by
  unfold canonicalText canonicalJson
  cases Persistence.normalize value <;> simp

variable {runtime library source result rules}

omit [PyFloat F] in
theorem textIs_str (text other : String) :
    textIs (some (PyValue.str (F := F) text)) other = decide (text = other) := by
  simp [textIs, PyValue.text?]

omit [PyFloat F] in
theorem foldsOutcome_eq_ok {evidence : Entries F} {rules : WindowRuleSettings}
    {outcome : EvidenceStatus × List String} :
    foldsOutcome library evidence rules = .ok outcome ↔
      validateFoldsDocument library evidence rules = .ok outcome := by
  unfold foldsOutcome
  split
  · rename_i same
    rw [same]
  · rename_i failed
    simp [failed]

theorem evidenceIdentity_eq {record : NormalizedEvidenceRecord}
    {evidence : Entries F} (reads : ReadsEvidence result rules record evidence) :
    evidenceIdentity runtime (identifiedEntries evidence) =
      evidenceIdentity runtime (evidencePayload result rules.toWindowRuleSettings record) := by
  simp only [evidenceIdentity, canonicalText, canonicalJson, reads.identified, reads.written]

/-- A built document is accepted exactly when its folds give the stored record. -/
theorem validateDocument_ok_iff {record : NormalizedEvidenceRecord} {identity runId : String}
    {document : PyValue F}
    (reads : ReadsDocument result rules record identity runId document)
    (identified : evidenceIdentity runtime
      (evidencePayload result rules.toWindowRuleSettings record) = .ok identity) :
    validateWalkForwardEvidenceDocument runtime library document runId walkForwardArtifact =
        .ok () ↔ documentOutcome library document = .ok (record.status, record.reasons) := by
  obtain ⟨artifact, artifactRead, logicalName, artifactType, identityRead⟩ := reads.artifact
  obtain ⟨sourceEntries, sourceRead, runRead⟩ := reads.source
  obtain ⟨evidence, evidenceRead, readEvidence⟩ := reads.evidence
  obtain ⟨ruleEntries, rulesRead, rulesOk⟩ := readEvidence.declared
  obtain ⟨stored, storedRead, statusRead, reasonsRead⟩ := readEvidence.stored
  have identityOk := (evidenceIdentity_eq readEvidence).trans identified
  have matched := storedMatches_iff statusRead reasonsRead
  have evidenceFound : evidenceOf document = .ok evidence := by simp [evidenceOf, evidenceRead]
  have rulesFound : rulesFromDocument evidence = .ok rules.toWindowRuleSettings := by
    simp [rulesFromDocument, rulesRead, rulesOk]
  simp only [validateWalkForwardEvidenceDocument, documentOutcome, reads.version, reads.kind,
    artifactRead, sourceRead, storedRead, entriesOf, evidenceFound, rulesFound, logicalName,
    artifactType, identityRead, runRead, textIs_str, walkForwardArtifact, identityOk, bind_ok,
    bind_eq_ok, raiseIf_eq_ok, PyValue.int?, Option.bind_some, ne_eq, not_true_eq_false,
    decide_false, decide_true, Bool.not_true, true_and, exists_const, and_true,
    Bool.not_eq_eq_eq_not, Bool.not_false, matched]
  constructor
  · rintro ⟨outcome, outcomeOk, status, reasons⟩
    rw [outcomeOk, status, reasons]
  · intro outcomeOk
    exact ⟨_, outcomeOk, rfl, rfl⟩

theorem documentOutcome_ok_iff {record : NormalizedEvidenceRecord} {identity runId : String}
    {document : PyValue F}
    (reads : ReadsDocument result rules record identity runId document)
    (nonempty : result.folds ≠ [])
    (checked : ∀ fold ∈ result.folds, FoldChecked rules.toWindowRuleSettings fold)
    (outcome : EvidenceStatus × List String) :
    documentOutcome library document = .ok outcome ↔
      (∃ grid, documentGrid library result.folds = .ok grid ∧
        FoldsAgree library rules.toWindowRuleSettings grid none none rules.trainingWindowSize
          (result.folds.map fun fold => fold.window)) ∧
        outcome = foldsStatus result.folds := by
  obtain ⟨evidence, evidenceRead, readEvidence⟩ := reads.evidence
  obtain ⟨ruleEntries, rulesRead, rulesOk⟩ := readEvidence.declared
  have evidenceFound : evidenceOf document = .ok evidence := by simp [evidenceOf, evidenceRead]
  have rulesFound : rulesFromDocument evidence = .ok rules.toWindowRuleSettings := by
    simp [rulesFromDocument, rulesRead, rulesOk]
  rw [← validateFoldsDocument_ok_iff readEvidence nonempty checked outcome,
    ← foldsOutcome_eq_ok]
  simp only [documentOutcome, evidenceFound, rulesFound, bind_ok]

theorem evidenceIdentity_ok_iff {record : NormalizedEvidenceRecord} :
    (∃ identity, evidenceIdentity runtime
        (evidencePayload result rules.toWindowRuleSettings record) = .ok identity) ↔
      ∀ fold ∈ result.folds, foldFinite fold = true := by
  have finite := normalize_ok_iff
    (.dict (evidencePayload result rules.toWindowRuleSettings record))
  rw [allFinite, allFinite_evidencePayload, List.all_eq_true] at finite
  rw [← finite]
  simp only [evidenceIdentity, map_eq_ok, canonicalText_eq_ok]
  constructor
  · rintro ⟨_, _, ⟨normalized, done, _⟩, _⟩
    exact ⟨normalized, done⟩
  · rintro ⟨normalized, done⟩
    exact ⟨_, _, ⟨normalized, done, rfl⟩, rfl⟩

theorem normalize_document_ok_iff {record : NormalizedEvidenceRecord} (identity : String) :
    (∃ document, Persistence.normalize (.dict (evidenceDocument source
        (evidencePayload result rules.toWindowRuleSettings record) identity)) = .ok document) ↔
      allFiniteEntries source = true ∧ ∀ fold ∈ result.folds, foldFinite fold = true := by
  rw [normalize_ok_iff]
  simp only [evidenceDocument, allFinite, allFiniteEntries, allFinite_evidencePayload,
    Bool.true_and, Bool.and_true, Bool.and_eq_true, List.all_eq_true]

theorem buildDocument_ok_iff {record : NormalizedEvidenceRecord}
    (live : normalizeWalkForwardEvidence library result rules = .ok record)
    (valid : record.status ≠ .invalid)
    (readsBack : ∀ identity document,
      evidenceIdentity runtime (evidencePayload result rules.toWindowRuleSettings record) =
        .ok identity →
      Persistence.normalize (.dict (evidenceDocument source
        (evidencePayload result rules.toWindowRuleSettings record) identity)) = .ok document →
      runtime.jsonLoads (runtime.jsonDumps document) = some document)
    (document : PyValue F) :
    buildWalkForwardEvidenceDocument runtime library source result rules = .ok document ↔
      ∃ identity, evidenceIdentity runtime
          (evidencePayload result rules.toWindowRuleSettings record) = .ok identity ∧
        Persistence.normalize (.dict (evidenceDocument source
          (evidencePayload result rules.toWindowRuleSettings record) identity)) =
            .ok document := by
  simp only [buildWalkForwardEvidenceDocument, live, bind_ok, bind_eq_ok, raiseIf_eq_ok,
    orRaise_eq_ok, canonicalText_eq_ok, decide_eq_false_iff_not, valid, not_false_eq_true,
    exists_const, true_and]
  constructor
  · rintro ⟨identity, identified, _, ⟨written, done, rfl⟩, loaded⟩
    rw [readsBack identity written identified done] at loaded
    exact ⟨identity, identified, Option.some.inj loaded ▸ done⟩
  · rintro ⟨identity, identified, done⟩
    exact ⟨identity, identified, _, ⟨document, done, rfl⟩, readsBack identity document identified done⟩

end Document

end QuantFactory.WalkForward
