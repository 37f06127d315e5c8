import QuantFactory.WalkForward.Documents

/-!
# Reading a written document

A document is normalized, written and read back, so every object the validator
reads is the normalization of one the builder wrote.  The `Reads` structures
give the fields that are read.
-/

set_option autoImplicit false

namespace QuantFactory.WalkForward

open QuantFactory.Library QuantFactory.Python QuantFactory.Persistence

/-! ## Finite numbers -/

section Finite
variable {F : Type} [PyFloat F]

theorem allFinite_partitionDocument (part : DataPartition) :
    allFinite (partitionDocument part : PyValue F) = true := by
  simp [partitionDocument, allFinite, allFiniteEntries]

theorem allFinite_optionalText (text : Option String) :
    allFinite (optionalText text : PyValue F) = true := by
  cases text <;> rfl

theorem allFinite_optionalInt (value : Option Int) :
    allFinite (optionalInt value : PyValue F) = true := by
  cases value <;> rfl

theorem allFinite_recorded (statistic : Option F) : allFinite (recorded statistic) = true := by
  cases statistic with
  | none => rfl
  | some value => by_cases finite : PyFloat.isFinite value = true <;> simp [recorded, finite, allFinite]

def foldFinite (fold : WalkForwardFoldResult F) : Bool :=
  fold.selectedParameters.all allFiniteEntries && allFiniteEntries fold.testMetrics

theorem allFinite_foldDocument (fold : WalkForwardFoldResult F) :
    allFinite (foldDocument fold) = foldFinite fold := by
  have selection : allFinite (selectionDocument fold.window.selection : PyValue F) = true := by
    cases fold.window.selection with
    | none => rfl
    | some part => exact allFinite_partitionDocument part
  have parameters : allFinite (optionalDict fold.selectedParameters) =
      fold.selectedParameters.all allFiniteEntries := by
    cases fold.selectedParameters <;> rfl
  simp only [foldDocument, allFinite, allFiniteEntries, allFinite_partitionDocument, selection,
    allFinite_optionalText, parameters, foldFinite, Bool.true_and, Bool.and_true]

theorem allFinite_rulesDocument (rules : WindowRuleSettings) :
    allFinite (rulesDocument rules : PyValue F) = true := by
  simp only [rulesDocument, allFinite, allFiniteEntries, Bool.true_and, Bool.and_true]
  cases rules.selectionWindowSize <;> rfl

theorem allFinite_normalizedDocument (record : NormalizedEvidenceRecord) :
    allFinite (normalizedDocument record : PyValue F) = true := by
  have reasons : ∀ texts : List String,
      allFiniteItems (texts.map (PyValue.str (F := F))) = true := by
    intro texts
    simp [allFiniteItems_map, allFinite]
  simp [normalizedDocument, allFinite, allFiniteEntries, reasons]

theorem allFinite_ideaOverfittingDocument (overfitting : Option (IdeaOverfitting F)) :
    allFinite (ideaOverfittingDocument overfitting) = true := by
  simp only [ideaOverfittingDocument, allFinite, allFiniteEntries_append, allFiniteEntries,
    allFinite_recorded, allFinite_optionalInt, Bool.true_and]
  cases overfitting.bind returnsBasis <;> rfl

theorem allFinite_evidencePayload (result : WalkForwardResult F) (rules : WindowRuleSettings)
    (record : NormalizedEvidenceRecord) :
    allFiniteEntries (evidencePayload result rules record) = result.folds.all foldFinite := by
  have alignment : allFiniteEntries
      (alignmentEntry (documentAlignment result.folds) : Entries F) = true := by
    cases documentAlignment result.folds <;> rfl
  simp only [evidencePayload, allFiniteEntries_append, alignment, allFiniteEntries,
    allFinite_rulesDocument, allFinite_normalizedDocument, allFinite_ideaOverfittingDocument,
    allFinite, allFiniteItems_map, allFinite_foldDocument, Bool.true_and, Bool.and_true]

end Finite

/-! ## Reading normalized objects -/

section Read
variable {F : Type} [PyFloat F]

theorem read_normalized {entries inner : Entries F} {value : PyValue F}
    (key : String) (same : normalizeEntries entries = .ok inner)
    (present : entries.lookup key = some value) :
    ∃ field, Persistence.normalize value = .ok field ∧
      (inner.insertionSort keyLe).lookup key = some field := by
  have found := lookup_normalizeEntries same key
  rw [present] at found
  rwa [lookup_insertionSort]

theorem read_fixed {entries inner : Entries F} {value : PyValue F}
    (key : String) (same : normalizeEntries entries = .ok inner) (present : entries.lookup key = some value)
    (fixed : Persistence.normalize value = .ok value) :
    (inner.insertionSort keyLe).lookup key = some value := by
  obtain ⟨field, normalized, read⟩ := read_normalized key same present
  rw [fixed] at normalized
  rw [read, Except.ok.inj normalized]

structure ReadsPartition (part : DataPartition) (entries : Entries F) :
    Prop where
  name : entries.lookup "name" = some (.str part.name)
  start : entries.lookup "start" = some (.str part.startLabel)
  stop : entries.lookup "end" = some (.str part.endLabel)
  rowCount : entries.lookup "row_count" = some (.int part.rowCount)

theorem readsPartition {part : DataPartition} {value : PyValue F}
    (done : Persistence.normalize (partitionDocument part) = .ok value) :
    ∃ entries, value = .dict entries ∧ ReadsPartition part entries := by
  obtain ⟨inner, same, rfl⟩ := normalize_dict_inv done
  exact ⟨_, rfl, read_fixed _ same rfl rfl, read_fixed _ same rfl rfl, read_fixed _ same rfl rfl,
    read_fixed _ same rfl rfl⟩

def ReadsSelection (selection : Option DataPartition) (value : PyValue F) : Prop :=
  match selection with
  | none => value = .none
  | some part => ∃ entries, value = .dict entries ∧ ReadsPartition part entries

structure ReadsFold (fold : WalkForwardFoldResult F) (entries : Entries F) :
    Prop where
  foldId : entries.lookup "fold_id" = some (.str fold.foldId)
  train : ∃ part, entries.lookup "train" = some (.dict part) ∧
    ReadsPartition fold.window.train part
  test : ∃ part, entries.lookup "test" = some (.dict part) ∧ ReadsPartition fold.window.test part
  selection : ∃ value, entries.lookup "selection" = some value ∧
    ReadsSelection fold.window.selection value
  status : entries.lookup "status" = some (.str fold.status.value)
  failureReason : entries.lookup "failure_reason" = some (optionalText fold.failureReason)
  lockId : entries.lookup "parameter_lock_id" = some (optionalText fold.parameterLockId)
  parameters : ∃ value, entries.lookup "selected_parameters" = some value ∧
    value.isNone = fold.selectedParameters.isNone
  metrics : ∃ value, entries.lookup "test_metrics" = some value

theorem normalize_optionalText (text : Option String) :
    Persistence.normalize (optionalText text : PyValue F) = .ok (optionalText text) := by
  cases text <;> rfl

theorem readsSelection {selection : Option DataPartition} {value : PyValue F}
    (done : Persistence.normalize (selectionDocument selection) = .ok value) :
    ReadsSelection selection value := by
  cases selection with
  | none => exact (Except.ok.inj done).symm
  | some part => exact readsPartition done

theorem isNone_optionalDict {entries : Option (Entries F)} {value : PyValue F}
    (done : Persistence.normalize (optionalDict entries) = .ok value) : value.isNone = entries.isNone := by
  cases entries with
  | none =>
      cases Except.ok.inj done
      rfl
  | some entries =>
      obtain ⟨inner, _, rfl⟩ := normalize_dict_inv done
      rfl

theorem readsFold {fold : WalkForwardFoldResult F} {value : PyValue F}
    (done : Persistence.normalize (foldDocument fold) = .ok value) :
    ∃ entries, value = .dict entries ∧ ReadsFold fold entries := by
  obtain ⟨inner, same, rfl⟩ := normalize_dict_inv done
  obtain ⟨train, trainOk, trainRead⟩ := read_normalized "train" same rfl
  obtain ⟨trainPart, rfl, train⟩ := readsPartition trainOk
  obtain ⟨test, testOk, testRead⟩ := read_normalized "test" same rfl
  obtain ⟨testPart, rfl, test⟩ := readsPartition testOk
  obtain ⟨selection, selectionOk, selectionRead⟩ := read_normalized "selection" same rfl
  obtain ⟨parameters, parametersOk, parametersRead⟩ :=
    read_normalized "selected_parameters" same rfl
  obtain ⟨metrics, _, metricsRead⟩ := read_normalized "test_metrics" same rfl
  exact ⟨_, rfl, {
    foldId := read_fixed _ same rfl rfl
    train := ⟨trainPart, trainRead, train⟩
    test := ⟨testPart, testRead, test⟩
    selection := ⟨selection, selectionRead, readsSelection selectionOk⟩
    status := read_fixed _ same rfl rfl
    failureReason := read_fixed _ same rfl (normalize_optionalText _)
    lockId := read_fixed _ same rfl (normalize_optionalText _)
    parameters := ⟨parameters, parametersRead, isNone_optionalDict parametersOk⟩
    metrics := ⟨metrics, metricsRead⟩ }⟩

/-! ## The evidence -/

omit [PyFloat F] in
theorem nonBlankText_str {text : String} (solid : isBlank text = false) :
    nonBlankText (some (PyValue.str (F := F) text)) = some text := by
  simp [nonBlankText, solid]

omit [PyFloat F] in
theorem positiveInt_nat {count : Nat} (positive : 1 ≤ count) :
    positiveInt (some (PyValue.int (F := F) count)) = some count := by
  have notLess : ¬ ((count : Int) < 1) := by omega
  simp [positiveInt, notLess]

theorem readsFolds {folds : List (WalkForwardFoldResult F)} {items : List (PyValue F)}
    (done : normalizeItems (folds.map foldDocument) = .ok items) :
    List.Forall₂ (fun fold value => ∃ entries, value = .dict entries ∧ ReadsFold fold entries)
      folds items := by
  induction folds generalizing items with
  | nil =>
      cases Except.ok.inj done
      exact List.Forall₂.nil
  | cons fold rest ih =>
      obtain ⟨head, others, first, later, rfl⟩ := normalizeItems_inv done
      exact List.Forall₂.cons (readsFold first) (ih later)

def windowLabels (window : WalkForwardWindow) : List String :=
  [window.train.startLabel, window.train.endLabel, window.test.startLabel, window.test.endLabel]

omit [PyFloat F] in
theorem foldLabels_eq {fold : WalkForwardFoldResult F} {entries : Entries F}
    (reads : ReadsFold fold entries) : foldLabels (.dict entries) = windowLabels fold.window := by
  obtain ⟨train, trainRead, trainReads⟩ := reads.train
  obtain ⟨test, testRead, testReads⟩ := reads.test
  simp [foldLabels, windowLabels, PyValue.get?, trainRead, testRead, trainReads.start,
    trainReads.stop, testReads.start, testReads.stop, PyValue.text?]

omit [PyFloat F] in
theorem foldLabels_flatMap {folds : List (WalkForwardFoldResult F)} {items : List (PyValue F)}
    (reads : List.Forall₂ (fun fold value => ∃ entries, value = .dict entries ∧
      ReadsFold fold entries) folds items) :
    items.flatMap foldLabels = folds.flatMap fun fold => windowLabels fold.window := by
  induction reads with
  | nil => rfl
  | cons read rest ih =>
      obtain ⟨entries, rfl, foldReads⟩ := read
      rw [List.flatMap_cons, List.flatMap_cons, foldLabels_eq foldReads, ih]

omit [PyFloat F] in
theorem ruleInt_nat (name : String) {size : Nat} (positive : 1 ≤ size) :
    ruleInt name (some (.int (F := F) size)) = .ok size := by
  simp [ruleInt, positiveInt_nat positive, orRaise]

theorem readsRules {rules : WalkForwardWindowRules} {value : PyValue F}
    (done : Persistence.normalize (rulesDocument rules.toWindowRuleSettings) = .ok value) :
    ∃ entries, value = .dict entries ∧
      rulesOfEntries entries = .ok rules.toWindowRuleSettings := by
  obtain ⟨inner, same, rfl⟩ := normalize_dict_inv done
  have checked := rules.checked
  simp only [rulesPostInit, requirePositiveRule, bind_eq_ok, raiseIf_eq_ok,
    decide_eq_false_iff_not, Nat.not_lt] at checked
  obtain ⟨_, train, _, test, _, step, _, minimum, _, selection, _⟩ := checked
  have optional : optionalRuleInt (F := F) "selection_window_size"
      (some (optionalSize rules.selectionWindowSize)) = .ok rules.selectionWindowSize := by
    cases declared : rules.selectionWindowSize with
    | none => rfl
    | some size =>
        rw [declared] at selection
        have read := ruleInt_nat (F := F) "selection_window_size" selection
        simp only [Option.getD_some] at read
        simp only [optionalSize, optionalRuleInt, read, Except.map]
  have fixed : Persistence.normalize (optionalSize (F := F) rules.selectionWindowSize) =
      .ok (optionalSize rules.selectionWindowSize) := by
    cases rules.selectionWindowSize <;> rfl
  have mode : ruleMode (some (.str (F := F) rules.trainingMode.value)) =
      .ok rules.trainingMode := by
    cases rules.trainingMode <;> rfl
  have policy : rulePolicy (some (.str (F := F) rules.incompleteFinalWindow.value)) =
      .ok rules.incompleteFinalWindow := by
    cases rules.incompleteFinalWindow <;> rfl
  have field (key : String) {value : PyValue F} (present : List.lookup key _ = some value)
      (unchanged : Persistence.normalize value = .ok value) := read_fixed key same present unchanged
  refine ⟨_, rfl, ?_⟩
  simp only [rulesOfEntries, field "training_window_size" rfl rfl,
    field "test_window_size" rfl rfl, field "step_size" rfl rfl,
    field "minimum_rows_per_window" rfl rfl,
    field "selection_window_size" rfl fixed, field "training_mode" rfl rfl,
    field "incomplete_final_window" rfl rfl, ruleInt_nat _ train, ruleInt_nat _ test,
    ruleInt_nat _ step, ruleInt_nat _ minimum, optional, mode, policy, bind_ok, rules.checked]

theorem normalizeItems_texts (texts : List String) :
    normalizeItems (texts.map (PyValue.str (F := F))) = .ok (texts.map .str) :=
  normalizeItems_eq_self fun item member => by
    obtain ⟨text, _, rfl⟩ := List.mem_map.mp member
    rfl

theorem readsRecord {record : NormalizedEvidenceRecord} {value : PyValue F}
    (done : Persistence.normalize (normalizedDocument record) = .ok value) :
    ∃ entries, value = .dict entries ∧
      entries.lookup "status" = some (.str record.status.value) ∧
      entries.lookup "reasons" = some (.list (record.reasons.map .str)) := by
  obtain ⟨inner, same, rfl⟩ := normalize_dict_inv done
  exact ⟨_, rfl, read_fixed _ same rfl rfl,
    read_fixed _ same rfl (by simp [Persistence.normalize, normalizeItems_texts])⟩

omit [PyFloat F] in
/-- The stored record matches a derived outcome exactly when the two are the same. -/
theorem storedMatches_iff {entries : Entries F} {record : NormalizedEvidenceRecord}
    (statusRead : entries.lookup "status" = some (.str record.status.value))
    (reasonsRead : entries.lookup "reasons" = some (.list (record.reasons.map .str)))
    (status : EvidenceStatus) (reasons : List String) :
    storedMatches entries status reasons = true ↔
      record.status = status ∧ record.reasons = reasons := by
  have values : record.status.value = status.value ↔ record.status = status := by
    constructor
    · cases record.status <;> cases status <;> simp [EvidenceStatus.value]
    · intro same
      rw [same]
  have texts : ((record.reasons.map (PyValue.str (F := F))).map PyValue.text? =
      reasons.map some) ↔ record.reasons = reasons := by
    rw [List.map_map]
    change record.reasons.map some = reasons.map some ↔ _
    exact List.map_inj_right fun _ _ same => Option.some.inj same
  simp only [storedMatches, statusRead, reasonsRead, Option.bind_some, PyValue.text?,
    Bool.and_eq_true, decide_eq_true_eq, Option.some.injEq, values, texts]

theorem normalize_alignmentDocument (alignment : SessionAlignment) :
    Persistence.normalize (alignmentDocument alignment : PyValue F) = .ok (alignmentDocument alignment) := by
  have le : ("exchange_calendar" : String) ≤ "interval" := by decide
  simp [alignmentDocument, Persistence.normalize, normalizeEntries, keyLe, le]

/-- The identified parts of a read payload are the normalized payload, in the builder's order. -/
theorem identifiedEntries_eq {result : WalkForwardResult F} {rules : WindowRuleSettings}
    {record : NormalizedEvidenceRecord} {inner : Entries F}
    (same : normalizeEntries (evidencePayload result rules record) = .ok inner) :
    identifiedEntries (inner.insertionSort keyLe) = inner := by
  unfold evidencePayload at same
  cases aligned : documentAlignment result.folds with
  | none =>
      rw [aligned] at same
      obtain ⟨rulesValue, _, _, fromFolds, rfl⟩ := normalizeEntries_inv same
      obtain ⟨foldsValue, _, _, fromStored, rfl⟩ := normalizeEntries_inv fromFolds
      obtain ⟨stored, _, _, fromOverfitting, rfl⟩ := normalizeEntries_inv fromStored
      obtain ⟨overfitting, _, _, done, rfl⟩ := normalizeEntries_inv fromOverfitting
      cases Except.ok.inj done
      simp only [identifiedEntries, lookup_insertionSort]
      rfl
  | some alignment =>
      rw [aligned] at same
      obtain ⟨rulesValue, _, _, fromFolds, rfl⟩ := normalizeEntries_inv same
      obtain ⟨foldsValue, _, _, fromStored, rfl⟩ := normalizeEntries_inv fromFolds
      obtain ⟨stored, _, _, fromAlignment, rfl⟩ := normalizeEntries_inv fromStored
      obtain ⟨alignmentValue, _, _, fromOverfitting, rfl⟩ := normalizeEntries_inv fromAlignment
      obtain ⟨overfitting, _, _, done, rfl⟩ := normalizeEntries_inv fromOverfitting
      cases Except.ok.inj done
      simp only [identifiedEntries, lookup_insertionSort]
      rfl

structure ReadsEvidence (result : WalkForwardResult F) (rules : WalkForwardWindowRules)
    (record : NormalizedEvidenceRecord) (evidence : Entries F) : Prop where
  declared : ∃ entries, evidence.lookup "declared_walk_forward_rules" = some (.dict entries) ∧
    rulesOfEntries entries = .ok rules.toWindowRuleSettings
  folds : ∃ items, evidence.lookup "folds" = some (.list items) ∧
    List.Forall₂ (fun fold value => ∃ entries, value = .dict entries ∧ ReadsFold fold entries)
      result.folds items
  alignment : evidence.lookup "session_alignment" =
    (documentAlignment result.folds).map alignmentDocument
  stored : ∃ entries, evidence.lookup "normalized_evidence" = some (.dict entries) ∧
    entries.lookup "status" = some (.str record.status.value) ∧
    entries.lookup "reasons" = some (.list (record.reasons.map .str))
  written : Persistence.normalize (.dict (evidencePayload result rules.toWindowRuleSettings record)) =
    .ok (.dict evidence)
  identified : Persistence.normalize (.dict (identifiedEntries evidence)) = .ok (.dict evidence)

theorem readsEvidence {result : WalkForwardResult F} {rules : WalkForwardWindowRules}
    {record : NormalizedEvidenceRecord} {value : PyValue F}
    (done : Persistence.normalize (.dict (evidencePayload result rules.toWindowRuleSettings record)) =
      .ok value) :
    ∃ evidence, value = .dict evidence ∧ ReadsEvidence result rules record evidence := by
  obtain ⟨inner, same, rfl⟩ := normalize_dict_inv done
  obtain ⟨rulesValue, rulesOk, rulesRead⟩ :=
    read_normalized "declared_walk_forward_rules" same rfl
  obtain ⟨ruleEntries, rfl, readRules⟩ := readsRules rulesOk
  obtain ⟨foldsValue, foldsOk, foldsRead⟩ := read_normalized "folds" same rfl
  obtain ⟨storedValue, storedOk, storedRead⟩ := read_normalized "normalized_evidence" same rfl
  obtain ⟨stored, rfl, statusRead, reasonsRead⟩ := readsRecord storedOk
  refine ⟨_, rfl, {
    declared := ⟨ruleEntries, rulesRead, readRules⟩
    folds := ?_
    alignment := ?_
    stored := ⟨stored, storedRead, statusRead, reasonsRead⟩
    written := done
    identified := ?_ }⟩
  · obtain ⟨items, itemsOk, rfl⟩ := normalize_list_inv foldsOk
    exact ⟨items, foldsRead, readsFolds itemsOk⟩
  · cases aligned : documentAlignment result.folds with
    | none =>
        have found := lookup_normalizeEntries same "session_alignment"
        rw [evidencePayload, aligned] at found
        rw [lookup_insertionSort]
        exact found
    | some alignment =>
        refine read_fixed _ same ?_ (normalize_alignmentDocument alignment)
        rw [evidencePayload, aligned]
        rfl
  · have fixed := normalizeEntries_eq_self (normalizeEntries_fixed _ same)
    simp only [identifiedEntries_eq same, Persistence.normalize, fixed]

structure ReadsDocument (result : WalkForwardResult F) (rules : WalkForwardWindowRules)
    (record : NormalizedEvidenceRecord) (identity runId : String) (document : PyValue F) :
    Prop where
  version : document.get? "artifact_schema_version" = some (.int 1)
  kind : document.get? "artifact_kind" = some (.str "generic_walk_forward_evidence")
  artifact : ∃ entries, document.get? "artifact" = some (.dict entries) ∧
    entries.lookup "logical_name" = some (.str "walk_forward_evidence") ∧
    entries.lookup "artifact_type" = some (.str "validation_evidence") ∧
    entries.lookup "evidence_identity" = some (.str identity)
  source : ∃ entries, document.get? "source" = some (.dict entries) ∧
    entries.lookup "run_id" = some (.str runId)
  evidence : ∃ entries, document.get? "evidence" = some (.dict entries) ∧
    ReadsEvidence result rules record entries

theorem readsDocument {source : Entries F} {result : WalkForwardResult F}
    {rules : WalkForwardWindowRules} {record : NormalizedEvidenceRecord}
    {identity runId : String} (sourceRun : source.lookup "run_id" = some (.str runId)) {document : PyValue F}
    (done : Persistence.normalize (.dict (evidenceDocument source
      (evidencePayload result rules.toWindowRuleSettings record) identity)) = .ok document) :
    ReadsDocument result rules record identity runId document := by
  obtain ⟨inner, same, rfl⟩ := normalize_dict_inv done
  obtain ⟨artifactValue, artifactOk, artifactRead⟩ := read_normalized "artifact" same rfl
  obtain ⟨artifact, artifactSame, rfl⟩ := normalize_dict_inv artifactOk
  obtain ⟨sourceValue, sourceOk, sourceRead⟩ := read_normalized "source" same rfl
  obtain ⟨sourceEntries, sourceSame, rfl⟩ := normalize_dict_inv sourceOk
  obtain ⟨evidenceValue, evidenceOk, evidenceRead⟩ := read_normalized "evidence" same rfl
  obtain ⟨evidence, rfl, readEvidence⟩ := readsEvidence evidenceOk
  exact {
    version := read_fixed _ same rfl rfl
    kind := read_fixed _ same rfl rfl
    artifact := ⟨_, artifactRead, read_fixed _ artifactSame rfl rfl,
      read_fixed _ artifactSame rfl rfl, read_fixed _ artifactSame rfl rfl⟩
    source := ⟨_, sourceRead, read_fixed _ sourceSame sourceRun rfl⟩
    evidence := ⟨_, evidenceRead, readEvidence⟩ }

end Read

end QuantFactory.WalkForward
