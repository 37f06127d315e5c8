import QuantFactory.Library.Lookup
import QuantFactory.Validation.LockboxGate
import QuantFactory.Python.Samples
import QuantFactory.WalkForward.Reading

/-!
# When the protected test may run

`Prerequisites` states what the gate asks of the persisted evidence, piece by
piece; an evaluation is eligible exactly when they hold.  The filter chain ranks
the same stages by a rule of its own, and the two rules are compared here.
-/

set_option autoImplicit false

namespace QuantFactory.Validation

open QuantFactory.Library QuantFactory.Python QuantFactory.Persistence
open QuantFactory.WalkForward (EvidenceStatus noDecision optionalText allFinite_optionalText)

/-! ## Findings -/

def GateFindings.Clean (findings : GateFindings) : Prop :=
  ∀ status ∈ findings.statuses, status = .passed

@[simp] theorem clean_append (first second : GateFindings) :
    (first ++ second).Clean ↔ first.Clean ∧ second.Clean := by
  unfold GateFindings.Clean
  change (∀ status ∈ first.statuses ++ second.statuses, _) ↔ _
  simp only [List.mem_append, or_imp, forall_and]

@[simp] theorem clean_noFindings : noFindings.Clean := by
  intro status member
  cases member

@[simp] theorem clean_finding {reason : String} {status : EvidenceStatus} :
    (finding reason status).Clean ↔ status = .passed := by
  simp [GateFindings.Clean, finding]

theorem clean_single {reasons : List String} {status : EvidenceStatus} :
    GateFindings.Clean ⟨reasons, [status]⟩ ↔ status = .passed := by
  simp [GateFindings.Clean]

theorem resultStatus_eq_passed {statuses : List EvidenceStatus} :
    resultStatus statuses = .passed ↔ ∀ status ∈ statuses, status = .passed := by
  unfold resultStatus
  constructor
  · intro passed status member
    split at passed
    · cases passed
    · split at passed
      · cases passed
      · split at passed
        · cases passed
        · cases status with
          | passed => rfl
          | failed => contradiction
          | insufficientEvidence => contradiction
          | invalid => contradiction
  · intro every
    have absent : ∀ status, status ≠ EvidenceStatus.passed → status ∉ statuses :=
      fun status other member => other (every status member)
    rw [if_neg (absent _ (by decide)), if_neg (absent _ (by decide)),
      if_neg (absent _ (by decide))]

theorem mapNativeStatus_eq_passed {status : NativeStatus} :
    mapNativeStatus status = .passed ↔ status = .passed := by
  cases status <;> simp [mapNativeStatus]

/-! ## The conditions -/

section Conditions
variable {F : Type} [PyNumber F] (runtime : PythonRuntime F)

structure LockComplete (lock : SourceLockEvidence F) : Prop where
  passed : lock.status = .passed
  parameters : lock.lockedParameters.isSome
  artifact : lock.artifactId ≠ ""
  lockId : ∃ lockId, lock.parameterLockId = some lockId ∧ isBlank lockId = false

def StageAcceptable (stage : EvidenceStage) (record : StageEvidence F) : Prop :=
  record.status = .passed ∨ record.status = .failed ∨
    (stage = .monteCarlo ∧ record.status = .insufficientEvidence) ∨
    (stage = .walkForward ∧ record.status = .insufficientEvidence ∧
      record.reasons = [noDecision])

def MatchesLock (lock : SourceLockEvidence F) (record : StageEvidence F) : Prop :=
  ∃ native source configuration, record.evidence.lookup "robustness" = some (.dict native) ∧
    native.lookup "source" = some (.dict source) ∧
    native.lookup "configuration" = some (.dict configuration) ∧
    ∀ comparison ∈ lockComparisons lock source configuration,
      pyEq comparison.2.1 comparison.2.2 = true

def FoldLocksComplete (record : StageEvidence F) : Prop :=
  ∀ folds, record.evidence.lookup "folds" = some (.list folds) → ∀ fold, .dict fold ∈ folds →
    (fieldOf fold "status").text? = some "successful" →
    (fieldOf fold "selected_parameters").isNone = false →
    ∃ lockId, fold.lookup "parameter_lock_id" = some (.str lockId) ∧ isBlank lockId = false

structure EvidenceAgrees (lock : SourceLockEvidence F)
    (walkForward monteCarlo robustness : StageEvidence F) : Prop where
  sourceLock : LockComplete lock
  lineage : ∃ lineage, lineageIdentity runtime walkForward.source = .ok lineage ∧
    lineageIdentity runtime monteCarlo.source = .ok lineage ∧
    lineageIdentity runtime robustness.source = .ok lineage
  walkForwardStatus : StageAcceptable .walkForward walkForward
  monteCarloStatus : StageAcceptable .monteCarlo monteCarlo
  robustnessStatus : StageAcceptable .robustness robustness
  matched : MatchesLock lock robustness
  foldLocks : FoldLocksComplete walkForward

/-- What the gate asks of the evidence state, the retrieved evidence and the source lock. -/
def Prerequisites (retrieved : EvidenceStage → Retrieval F)
    (sourceLock : Option (SourceLockEvidence F)) (protectedDataState : String) : Prop :=
  protectedDataState = "gated" ∧ ∃ lock walkForward monteCarlo robustness,
    sourceLock = some lock ∧ retrieved .walkForward = .ok walkForward ∧
      retrieved .monteCarlo = .ok monteCarlo ∧ retrieved .robustness = .ok robustness ∧
      EvidenceAgrees runtime lock walkForward monteCarlo robustness

end Conditions

/-! ## Each piece of the gate -/

section Pieces
variable {F : Type} [PyNumber F] (runtime : PythonRuntime F)

theorem protectedState_eq_gated {state : String} :
    protectedState state = .gated ↔ state = "gated" := by
  constructor
  · intro isGated
    unfold protectedState at isGated
    cases found : protectedDataStates.find? fun known => known.value == state with
    | none =>
        rw [found] at isGated
        cases isGated
    | some known =>
        rw [found] at isGated
        have named := List.find?_some found
        rw [Option.getD_some] at isGated
        rw [isGated] at named
        exact (eq_of_beq named).symm
  · rintro rfl
    rfl

theorem clean_protectedFindings {state : ProtectedDataState} :
    (protectedFindings state).Clean ↔ state = .gated := by
  cases state <;> simp [protectedFindings]

omit [PyNumber F] in
theorem clean_sourceLockFindings {sourceLock : Option (SourceLockEvidence F)} :
    (sourceLockFindings sourceLock).Clean ↔ ∃ lock, sourceLock = some lock ∧ LockComplete lock := by
  cases sourceLock with
  | none => simp [sourceLockFindings]
  | some lock =>
      have status : (sourceLockStatus lock).Clean ↔ lock.status = .passed := by
        unfold sourceLockStatus
        split
        · rename_i passed
          simp [clean_single, passed]
        · rename_i other
          rw [clean_single, mapNativeStatus_eq_passed]
      have identifiers : (parameterLock lock).1.Clean ↔ lock.lockedParameters.isSome ∧
          lock.artifactId ≠ "" ∧
          ∃ lockId, lock.parameterLockId = some lockId ∧ isBlank lockId = false := by
        unfold parameterLock
        cases lock.lockedParameters with
        | none => simp
        | some parameters =>
            by_cases unnamed : lock.artifactId = ""
            · simp [unnamed]
            · have named : lock.artifactId.isEmpty = false := by
                rw [Bool.eq_false_iff]
                exact fun empty => unnamed (String.isEmpty_iff.mp empty)
              cases lock.parameterLockId with
              | none => simp [named]
              | some lockId => cases blank : isBlank lockId <;> simp [named, unnamed, blank]
      simp only [sourceLockFindings, clean_append, status, identifiers, Option.some.injEq,
        exists_eq_left']
      constructor
      · rintro ⟨passed, parameters, artifact, lockId⟩
        exact ⟨passed, parameters, artifact, lockId⟩
      · rintro ⟨passed, parameters, artifact, lockId⟩
        exact ⟨passed, parameters, artifact, lockId⟩

theorem clean_stageStatus {stage : EvidenceStage} {record : StageEvidence F} :
    (stageStatus stage record).Clean ↔ StageAcceptable stage record := by
  unfold stageStatus
  by_cases passed : record.status = .passed
  · rw [if_pos passed]
    simp [clean_single, StageAcceptable, passed]
  · rw [if_neg passed]
    by_cases undecided : stage = .walkForward ∧ walkForwardOk record = true
    · obtain ⟨isStage, ok⟩ := id undecided
      simp only [walkForwardOk, Bool.and_eq_true, decide_eq_true_eq] at ok
      rw [if_pos undecided]
      simp [clean_single, StageAcceptable, isStage, ok]
    · rw [if_neg undecided]
      by_cases failed : record.status = .failed
      · rw [if_pos failed]
        simp [clean_single, StageAcceptable, failed]
      · rw [if_neg failed]
        by_cases unscored : stage = .monteCarlo ∧ record.status = .insufficientEvidence
        · rw [if_pos unscored]
          simp [clean_single, StageAcceptable, unscored]
        · rw [if_neg unscored, clean_single, mapNativeStatus_eq_passed]
          have notPassed : nativeStatus record.status ≠ .passed := by
            cases same : record.status <;> simp_all [nativeStatus]
          have notUndecided : ¬ (stage = .walkForward ∧ record.status = .insufficientEvidence ∧
              record.reasons = [noDecision]) := by
            simpa [walkForwardOk] using undecided
          simp only [StageAcceptable, passed, failed, unscored, notUndecided, notPassed, or_self]

theorem lineageIdentity_ok (record : StageEvidence F) :
    ∃ lineage, lineageIdentity runtime record.source = .ok lineage := by
  have present : (missingLineageKeys record.source).isEmpty = true := by
    rw [List.isEmpty_iff, missingLineageKeys, List.filter_eq_nil_iff]
    intro key member
    obtain ⟨text, found⟩ := record.lineage key member
    simp [found]
  have finite : ∀ keys : List String, (∀ key ∈ keys, key ∈ lineageKeys) →
      allFiniteEntries (keys.map fun key => (key, (record.source.lookup key).getD .none)) =
        true := by
    intro keys
    induction keys with
    | nil =>
        intro _
        rfl
    | cons key rest ih =>
        intro known
        obtain ⟨text, found⟩ := record.lineage key (known key List.mem_cons_self)
        have tail := ih fun other member => known other (List.mem_cons_of_mem _ member)
        simp [allFiniteEntries, found, allFinite, tail]
  obtain ⟨normalized, done⟩ := (normalize_ok_iff (.dict (lineageKeys.map fun key =>
    (key, (record.source.lookup key).getD .none)))).mpr (finite lineageKeys fun _ member => member)
  refine ⟨runtime.sha256Hex (runtime.jsonDumps normalized), ?_⟩
  simp only [lineageIdentity, lineagePayload, present, if_true, bind_ok, identity, canonicalJson,
    done, Except.map]

theorem lineageFindings_first (stage : EvidenceStage) {record : StageEvidence F}
    {lineage : String} (read : lineageIdentity runtime record.source = .ok lineage) :
    lineageFindings runtime stage record none = (noFindings, some lineage) := by
  rw [lineageFindings, read]

theorem lineageFindings_next (stage : EvidenceStage) {record : StageEvidence F}
    (first : String) {lineage : String} (read : lineageIdentity runtime record.source = .ok lineage) :
    (lineageFindings runtime stage record (some first)).2 = some first ∧
      ((lineageFindings runtime stage record (some first)).1.Clean ↔ lineage = first) := by
  rw [lineageFindings, read]
  refine ⟨rfl, ?_⟩
  by_cases same : first = lineage
  · simp [same]
  · simp [same, eq_comm]

theorem clean_stageFindings_none {stage : EvidenceStage} {lineage : Option String} :
    ¬ (stageFindings runtime stage (none : Option (StageEvidence F)) lineage).1.Clean := by
  simp [stageFindings]

theorem clean_stageFindings_some {stage : EvidenceStage} {record : StageEvidence F}
    {lineage : Option String} :
    (stageFindings runtime stage (some record) lineage).1.Clean ↔
      (lineageFindings runtime stage record lineage).1.Clean ∧ StageAcceptable stage record := by
  simp only [stageFindings, clean_append, clean_stageStatus]

theorem clean_comparisonFindings {comparisons : List (String × PyValue F × PyValue F)} :
    (comparisonFindings comparisons).Clean ↔
      ∀ comparison ∈ comparisons, pyEq comparison.2.1 comparison.2.2 = true := by
  induction comparisons with
  | nil => simp [comparisonFindings]
  | cons comparison rest ih =>
      obtain ⟨label, left, right⟩ := comparison
      rw [comparisonFindings, clean_append, ih, List.forall_mem_cons]
      cases pyEq left right <;> simp

theorem clean_robustnessFindings {lock : SourceLockEvidence F} {record : StageEvidence F} :
    (robustnessFindings lock (some record)).Clean ↔ MatchesLock lock record := by
  unfold robustnessFindings MatchesLock
  constructor
  · intro clean
    dsimp only at clean
    split at clean
    · rename_i native isNative
      split at clean
      · rename_i source configuration isSource isConfiguration
        exact ⟨native, source, configuration, isNative, isSource, isConfiguration,
          clean_comparisonFindings.mp clean⟩
      · simp at clean
    · simp at clean
  · rintro ⟨native, source, configuration, isNative, isSource, isConfiguration, same⟩
    simp only [isNative, isSource, isConfiguration]
    exact clean_comparisonFindings.mpr same

omit [PyNumber F] in
theorem foldLockId_eq_some {fold : PyValue F} {lockId : String} :
    foldLockId fold = some lockId ↔ ∃ entries, fold = .dict entries ∧
      (fieldOf entries "status").text? = some "successful" ∧
      (fieldOf entries "selected_parameters").isNone = false ∧ recordedLockId entries = lockId := by
  cases fold with
  | dict entries =>
      simp only [foldLockId, PyValue.dict.injEq, exists_eq_left', ite_eq_iff, Option.some.injEq,
        reduceCtorEq, and_false, or_false, and_assoc]
  | _ => simp [foldLockId]

omit [PyNumber F] in
theorem recordedLockId_ne_empty {fold : Entries F} :
    recordedLockId fold ≠ "" ↔
      ∃ lockId, fold.lookup "parameter_lock_id" = some (.str lockId) ∧ isBlank lockId = false := by
  unfold recordedLockId
  constructor
  · intro named
    split at named
    · rename_i lockId found
      refine ⟨lockId, found, ?_⟩
      cases blank : isBlank lockId with
      | false => rfl
      | true => simp [blank] at named
    · exact absurd rfl named
  · rintro ⟨lockId, found, solid⟩
    simp only [found, solid, Bool.false_eq_true, if_false]
    rintro rfl
    cases solid

theorem clean_foldLockFindings {record : StageEvidence F} :
    (foldLockFindings (some record)).Clean ↔ FoldLocksComplete record := by
  have complete : (∀ lockId ∈ foldLockIds record, lockId ≠ "") ↔ FoldLocksComplete record := by
    unfold foldLockIds FoldLocksComplete
    constructor
    · intro every folds isFolds fold member status parameters
      rw [isFolds] at every
      refine recordedLockId_ne_empty.mp (every _ (List.mem_filterMap.mpr ⟨.dict fold, member, ?_⟩))
      exact foldLockId_eq_some.mpr ⟨fold, rfl, status, parameters, rfl⟩
    · intro every lockId isId
      split at isId
      · rename_i folds isFolds
        obtain ⟨fold, member, isLock⟩ := List.mem_filterMap.mp isId
        obtain ⟨entries, rfl, status, parameters, rfl⟩ := foldLockId_eq_some.mp isLock
        exact recordedLockId_ne_empty.mpr (every folds isFolds entries member status parameters)
      · cases isId
  rw [← complete]
  unfold foldLockFindings
  by_cases missing : (foldLockIds record).any (·.isEmpty) = true
  · obtain ⟨lockId, member, empty⟩ := List.any_eq_true.mp missing
    simp only [Option.elim_some, missing, if_true, clean_finding, reduceCtorEq, false_iff]
    intro every
    exact every lockId member (String.isEmpty_iff.mp empty)
  · simp only [Option.elim_some, missing, Bool.false_eq_true, if_false, clean_noFindings, true_iff]
    intro lockId member same
    exact missing (List.any_eq_true.mpr ⟨lockId, member, String.isEmpty_iff.mpr same⟩)

theorem clean_lineages (first second third : StageEvidence F) :
    let afterFirst := lineageFindings runtime .walkForward first none
    let afterSecond := lineageFindings runtime .monteCarlo second afterFirst.2
    let afterThird := lineageFindings runtime .robustness third afterSecond.2
    afterFirst.1.Clean ∧ afterSecond.1.Clean ∧ afterThird.1.Clean ↔
      ∃ lineage, lineageIdentity runtime first.source = .ok lineage ∧
        lineageIdentity runtime second.source = .ok lineage ∧
        lineageIdentity runtime third.source = .ok lineage := by
  obtain ⟨lineage, firstRead⟩ := lineageIdentity_ok runtime first
  obtain ⟨secondLineage, secondRead⟩ := lineageIdentity_ok runtime second
  obtain ⟨thirdLineage, thirdRead⟩ := lineageIdentity_ok runtime third
  obtain ⟨secondKeeps, secondClean⟩ := lineageFindings_next runtime .monteCarlo lineage secondRead
  obtain ⟨_, thirdClean⟩ := lineageFindings_next runtime .robustness lineage thirdRead
  simp only [lineageFindings_first runtime .walkForward firstRead, secondKeeps, secondClean,
    thirdClean, clean_noFindings, true_and, firstRead, secondRead, thirdRead, Except.ok.injEq]
  constructor
  · intro same
    exact ⟨lineage, rfl, same⟩
  · intro common
    obtain ⟨_, rfl, same⟩ := common
    exact same

theorem clean_gateFindings {walkForward monteCarlo robustness : Option (StageEvidence F)}
    {sourceLock : Option (SourceLockEvidence F)} {state : ProtectedDataState} :
    (gateFindings runtime walkForward monteCarlo robustness sourceLock state).1.Clean ↔
      state = .gated ∧ ∃ lock first second third, sourceLock = some lock ∧
        walkForward = some first ∧ monteCarlo = some second ∧ robustness = some third ∧
        EvidenceAgrees runtime lock first second third := by
  simp only [gateFindings, clean_append, clean_protectedFindings, clean_sourceLockFindings,
    and_assoc]
  refine and_congr_right fun _ => ?_
  cases walkForward with
  | none => simp [clean_stageFindings_none]
  | some first =>
      cases monteCarlo with
      | none => simp [clean_stageFindings_none]
      | some second =>
          cases robustness with
          | none => simp [clean_stageFindings_none]
          | some third =>
              have lineages := clean_lineages runtime first second third
              simp only [clean_stageFindings_some, Option.some.injEq]
              constructor
              · intro clean
                obtain ⟨⟨lock, rfl, complete⟩, ⟨firstLineage, firstStatus⟩,
                  ⟨secondLineage, secondStatus⟩, ⟨thirdLineage, thirdStatus⟩, compared⟩ := clean
                have parameters : lock.lockedParameters.isNone = false := by
                  simpa using complete.parameters
                simp only [lockComparisonFindings, parameters, Bool.false_eq_true, if_false,
                  clean_append, clean_robustnessFindings, clean_foldLockFindings] at compared
                exact ⟨lock, first, second, third, rfl, rfl, rfl, rfl, {
                  sourceLock := complete
                  lineage := lineages.mp ⟨firstLineage, secondLineage, thirdLineage⟩
                  walkForwardStatus := firstStatus
                  monteCarloStatus := secondStatus
                  robustnessStatus := thirdStatus
                  matched := compared.1
                  foldLocks := compared.2 }⟩
              · intro agreed
                obtain ⟨lock, _, _, _, rfl, rfl, rfl, rfl, agrees⟩ := agreed
                have parameters : lock.lockedParameters.isNone = false := by
                  simpa using agrees.sourceLock.parameters
                obtain ⟨firstLineage, secondLineage, thirdLineage⟩ := lineages.mpr agrees.lineage
                refine ⟨⟨lock, rfl, agrees.sourceLock⟩, ⟨firstLineage, agrees.walkForwardStatus⟩,
                  ⟨secondLineage, agrees.monteCarloStatus⟩,
                  ⟨thirdLineage, agrees.robustnessStatus⟩, ?_⟩
                simp only [lockComparisonFindings, parameters, Bool.false_eq_true, if_false,
                  clean_append, clean_robustnessFindings, clean_foldLockFindings]
                exact ⟨agrees.matched, agrees.foldLocks⟩

/-! ## Identities of a result -/

theorem lockboxGateIdentity_ok (result : LockboxGateResult) :
    ∃ text, lockboxGateIdentity runtime result = .ok text := by
  have texts : ∀ reasons : List String,
      allFiniteItems (reasons.map (PyValue.str : String → PyValue F)) = true := by
    intro reasons
    rw [allFiniteItems_map, List.all_eq_true]
    intro _ _
    rfl
  have references : ∀ references : List LockboxArtifactReference,
      allFiniteItems (references.map (referenceValue (F := F))) = true := by
    intro references
    rw [allFiniteItems_map, List.all_eq_true]
    intro reference _
    simp [referenceValue, allFinite, allFiniteEntries, allFinite_optionalText]
  have finite : allFinite (gateIdentityPayload (F := F) result) = true := by
    simp only [gateIdentityPayload, allFinite, allFiniteEntries, allFinite_optionalText, texts,
      references, Bool.and_true]
  obtain ⟨normalized, done⟩ := (normalize_ok_iff _).mpr finite
  refine ⟨runtime.sha256Hex (runtime.jsonDumps normalized), ?_⟩
  simp only [lockboxGateIdentity, identity, canonicalJson, done, Except.map]

end Pieces

/-! ## Equality keeps finiteness -/

section Finite
variable {F : Type} [PyNumber F]

theorem allFinite_of_lookup {entries : Entries F} {key : String}
    {value : PyValue F} (finite : allFiniteEntries entries = true)
    (found : entries.lookup key = some value) : allFinite value = true := by
  rw [allFiniteEntries_eq_all, List.all_eq_true] at finite
  exact finite _ (mem_of_lookup found)

theorem allFinite_of_eqNumber [LawfulPyNumber F] {a b : PyValue F} (same : eqNumber a b = true)
    (finite : allFinite b = true) : allFinite a = true := by
  cases a with
  | float x =>
      cases b with
      | float y => exact LawfulPyNumber.finite_of_eq x y same finite
      | int n => exact LawfulPyNumber.finite_of_eqInt x n (by simpa [eqNumber, PyValue.asInt?] using same)
      | bool value =>
          exact LawfulPyNumber.finite_of_eqInt x _ (by simpa [eqNumber, PyValue.asInt?] using same)
      | _ => simp [eqNumber, PyValue.asInt?] at same
  | none => rfl
  | bool value => rfl
  | int value => rfl
  | str value => rfl
  | list items => cases b <;> simp [eqNumber, PyValue.asInt?] at same
  | dict entries => cases b <;> simp [eqNumber, PyValue.asInt?] at same

mutual

theorem allFinite_of_pyEq [LawfulPyNumber F] (a b : PyValue F) (same : pyEq a b = true)
    (finite : allFinite b = true) : allFinite a = true := by
  cases a with
  | list items =>
      cases b with
      | list others => exact allFiniteItems_of_pyEq items others same finite
      | _ => cases same
  | dict entries =>
      cases b with
      | dict others =>
          simp only [pyEq, Bool.and_eq_true] at same
          exact allFiniteEntries_of_pyEq entries others same.2 finite
      | _ => cases same
  | float value => exact allFinite_of_eqNumber same finite
  | none => rfl
  | bool value => rfl
  | int value => rfl
  | str value => rfl

theorem allFiniteItems_of_pyEq [LawfulPyNumber F] (items others : List (PyValue F))
    (same : pyEqItems items others = true) (finite : allFiniteItems others = true) :
    allFiniteItems items = true := by
  cases items with
  | nil => rfl
  | cons item rest =>
      cases others with
      | nil => cases same
      | cons other others =>
          simp only [pyEqItems, allFiniteItems, Bool.and_eq_true] at same finite ⊢
          exact ⟨allFinite_of_pyEq item other same.1 finite.1,
            allFiniteItems_of_pyEq rest others same.2 finite.2⟩

theorem allFiniteEntries_of_pyEq [LawfulPyNumber F]
    (entries others : List (String × PyValue F)) (same : pyEqEntries entries others = true)
    (finite : allFiniteEntries others = true) : allFiniteEntries entries = true := by
  cases entries with
  | nil => rfl
  | cons entry rest =>
      obtain ⟨key, value⟩ := entry
      simp only [pyEqEntries, Bool.and_eq_true] at same
      rw [allFiniteEntries, Bool.and_eq_true]
      refine ⟨?_, allFiniteEntries_of_pyEq rest others same.2 finite⟩
      have found := same.1
      split at found
      · rename_i other isOther
        exact allFinite_of_pyEq value other found (allFinite_of_lookup finite isOther)
      · cases found

end

end Finite

/-! ## Eligible evaluations -/

section Eligible
variable {F : Type} [PyNumber F] (runtime : PythonRuntime F)

theorem allFinite_fieldOf {entries : Entries F}
    (finite : allFiniteEntries entries = true) (key : String) :
    allFinite (fieldOf entries key) = true := by
  unfold fieldOf
  cases found : entries.lookup key with
  | none => rfl
  | some value => exact allFinite_of_lookup finite found

/-- A lock that agrees with persisted evidence can be written as canonical JSON. -/
theorem allFinite_sourceLockPayload [LawfulPyNumber F] {lock : SourceLockEvidence F}
    {record : StageEvidence F} (matched : MatchesLock lock record) :
    allFinite (sourceLockPayload lock) = true := by
  obtain ⟨native, source, configuration, isNative, isSource, isConfiguration, same⟩ := matched
  have nativeFinite := allFinite_of_lookup record.finite isNative
  have sourceFinite := allFinite_of_lookup nativeFinite isSource
  have configurationFinite := allFinite_of_lookup nativeFinite isConfiguration
  have left : ∀ comparison ∈ lockComparisons lock source configuration,
      allFinite comparison.2.1 = true := by
    intro comparison member
    refine allFinite_of_pyEq _ _ (same comparison member) ?_
    simp only [lockComparisons, List.mem_cons, List.not_mem_nil, or_false] at member
    rcases member with rfl | rfl | rfl | rfl | rfl | rfl | rfl
    all_goals first
      | exact allFinite_fieldOf configurationFinite _
      | exact allFinite_fieldOf sourceFinite _
  simp only [lockComparisons, List.forall_mem_cons] at left
  obtain ⟨experiment, strategy, version, parameters, provenance, execution, _⟩ := left
  simp only [sourceLockPayload, allFinite, allFiniteEntries, allFinite_optionalText, experiment,
    strategy, version, parameters, Bool.true_and, Bool.and_true]
  exact Bool.and_eq_true_iff.mpr ⟨provenance, execution⟩

theorem combinedLineageIdentity_ok [LawfulPyNumber F] {lock : SourceLockEvidence F}
    {record : StageEvidence F} (matched : MatchesLock lock record) (lineage : Option String) :
    ∃ text, combinedLineageIdentity runtime lineage (some lock) = .ok text := by
  have finite : allFinite (.dict [("artifact_lineage_identity", optionalText lineage),
      ("source_lock", sourceLockPayload lock)]) = true := by
    simp only [allFinite, allFiniteEntries, allFinite_optionalText,
      allFinite_sourceLockPayload matched, Bool.and_true]
  obtain ⟨normalized, done⟩ := (normalize_ok_iff _).mpr finite
  refine ⟨some (runtime.sha256Hex (runtime.jsonDumps normalized)), ?_⟩
  simp only [combinedLineageIdentity, Option.isNone_some, Bool.false_eq_true, and_false, if_false,
    Option.elim_some, identity, canonicalJson, done, Except.map]

theorem draftResult_eligible {walkForward monteCarlo robustness : Option (StageEvidence F)}
    {sourceLock : Option (SourceLockEvidence F)} {state : ProtectedDataState}
    {lineageIdentity : Option String} :
    (draftResult runtime walkForward monteCarlo robustness sourceLock state
        lineageIdentity).eligibleToExecuteLockbox = true ↔
      state = .gated ∧ ∃ lock first second third, sourceLock = some lock ∧
        walkForward = some first ∧ monteCarlo = some second ∧ robustness = some third ∧
        EvidenceAgrees runtime lock first second third := by
  rw [← clean_gateFindings]
  simp only [draftResult, Bool.and_eq_true, decide_eq_true_eq, resultStatus_eq_passed]
  constructor
  · intro eligible
    exact eligible.1
  · intro clean
    exact ⟨clean, ((clean_gateFindings runtime).mp clean).1⟩

theorem evaluate_eligible_iff [LawfulPyNumber F]
    {walkForward monteCarlo robustness : Option (StageEvidence F)}
    {sourceLock : Option (SourceLockEvidence F)} {state : String} :
    (∃ result, evaluateLockboxPrerequisites runtime walkForward monteCarlo robustness sourceLock
        state = .ok result ∧ result.eligibleToExecuteLockbox = true) ↔
      state = "gated" ∧ ∃ lock first second third, sourceLock = some lock ∧
        walkForward = some first ∧ monteCarlo = some second ∧ robustness = some third ∧
        EvidenceAgrees runtime lock first second third := by
  constructor
  · intro eligible
    obtain ⟨result, evaluated, eligible⟩ := eligible
    obtain ⟨lineage, _, evaluated⟩ := bind_eq_ok.mp evaluated
    obtain ⟨gateIdentity, _, built⟩ := bind_eq_ok.mp evaluated
    rw [← Except.ok.inj built, LockboxGateResult.identified_eligible] at eligible
    obtain ⟨isGated, agreed⟩ := (draftResult_eligible runtime).mp eligible
    exact ⟨protectedState_eq_gated.mp isGated, agreed⟩
  · intro conditions
    obtain ⟨isGated, agreed⟩ := conditions
    have eligible : ∀ lineage, (draftResult runtime walkForward monteCarlo robustness sourceLock
        (protectedState state) lineage).eligibleToExecuteLockbox = true := fun lineage =>
      (draftResult_eligible runtime).mpr ⟨protectedState_eq_gated.mpr isGated, agreed⟩
    obtain ⟨lock, first, second, third, rfl, rfl, rfl, rfl, agrees⟩ := agreed
    obtain ⟨lineage, combined⟩ := combinedLineageIdentity_ok runtime agrees.matched
      (gateFindings runtime (some first) (some second) (some third) (some lock)
        (protectedState state)).2
    obtain ⟨text, identified⟩ := lockboxGateIdentity_ok runtime
      (draftResult runtime (some first) (some second) (some third) (some lock)
        (protectedState state) lineage)
    refine ⟨(draftResult runtime (some first) (some second) (some third) (some lock)
      (protectedState state) lineage).identified text, ?_, eligible lineage⟩
    exact bind_eq_ok.mpr ⟨lineage, combined, bind_eq_ok.mpr ⟨text, identified, rfl⟩⟩

theorem toOption_eq_some {retrieved : Retrieval F} {record : StageEvidence F} :
    retrieved.toOption = some record ↔ retrieved = .ok record := by
  cases retrieved <;> simp [Except.toOption]

theorem evaluatePersisted_eligible_iff [LawfulPyNumber F]
    {retrieved : EvidenceStage → Retrieval F} {sourceLock : Option (SourceLockEvidence F)}
    {state : String} :
    (∃ result, evaluatePersistedPrerequisites runtime retrieved sourceLock state = .ok result ∧
        result.eligibleToExecuteLockbox = true) ↔
      Prerequisites runtime retrieved sourceLock state := by
  constructor
  · intro eligible
    obtain ⟨result, evaluated, eligible⟩ := eligible
    obtain ⟨gate, gated, evaluated⟩ := bind_eq_ok.mp evaluated
    dsimp only at evaluated
    split at evaluated
    · cases Except.ok.inj evaluated
      obtain ⟨isGated, lock, first, second, third, isLock, isFirst, isSecond, isThird, agrees⟩ :=
        (evaluate_eligible_iff runtime).mp ⟨result, gated, eligible⟩
      exact ⟨isGated, lock, first, second, third, isLock, toOption_eq_some.mp isFirst,
        toOption_eq_some.mp isSecond, toOption_eq_some.mp isThird, agrees⟩
    · obtain ⟨gateIdentity, _, built⟩ := bind_eq_ok.mp evaluated
      rw [← Except.ok.inj built] at eligible
      cases eligible
  · intro prerequisites
    obtain ⟨isGated, lock, first, second, third, isLock, isFirst, isSecond, isThird, agrees⟩ :=
      prerequisites
    obtain ⟨gate, gated, eligible⟩ := (evaluate_eligible_iff runtime).mpr
      ⟨isGated, lock, first, second, third, isLock, toOption_eq_some.mpr isFirst,
        toOption_eq_some.mpr isSecond, toOption_eq_some.mpr isThird, agrees⟩
    refine ⟨gate, bind_eq_ok.mpr ⟨gate, gated, ?_⟩, eligible⟩
    simp [isFirst, isSecond, isThird, retrievalFailure]

end Eligible

/-! ## The chain and the gate -/

section Agreement
variable {F : Type} [PyNumber F] (runtime : PythonRuntime F)

def chainProgresses (stage : EvidenceStage) (retrieved : Retrieval F) : Bool :=
  stageMayProgress stage.runStage (stageOutcome stage retrieved)

def GateAccepts (stage : EvidenceStage) (retrieved : Retrieval F) : Prop :=
  (stageFindings runtime stage retrieved.toOption none).1.Clean

/-- A retrieval that raised because there is no evidence, not because it is corrupt. -/
def EvidenceMissing (retrieved : Retrieval F) : Prop :=
  ∃ message, retrieved = .error message ∧
    missingEvidenceStatus message = .insufficientEvidence

theorem stageMayProgress_record {stage : EvidenceStage} {record : StageEvidence F} :
    chainProgresses stage (.ok record) = true ↔ StageAcceptable stage record := by
  have scored : stage.runStage ∈ scoredValidationStages := by
    cases stage <;> decide
  have isMonteCarlo : stage.runStage = .monteCarlo ↔ stage = .monteCarlo := by
    cases stage <;> decide
  have isWalkForward : stage.runStage = .walkForward ↔ stage = .walkForward := by
    cases stage <;> decide
  have outcomeStatus : (stageOutcome stage (.ok record)).status = nativeStatus record.status := rfl
  have outcomeReasons : (stageOutcome stage (.ok record)).reasons = record.reasons := rfl
  unfold chainProgresses stageMayProgress StageAcceptable
  rw [outcomeStatus, outcomeReasons]
  cases status : record.status with
  | passed => simp [nativeStatus]
  | failed => simp [nativeStatus, scored]
  | invalid => simp [nativeStatus]
  | insufficientEvidence =>
      simp only [nativeStatus, reduceCtorEq, if_false, and_false, isMonteCarlo, isWalkForward,
        and_true, false_or, decide_true, Bool.and_true]
      by_cases unscored : stage = .monteCarlo
      · simp [unscored]
      · simp [unscored]

theorem gateAccepts_record {stage : EvidenceStage} {record : StageEvidence F} :
    GateAccepts runtime stage (.ok record) ↔ StageAcceptable stage record := by
  obtain ⟨lineage, read⟩ := lineageIdentity_ok runtime record
  unfold GateAccepts
  change (stageFindings runtime stage (some record) none).1.Clean ↔ _
  rw [clean_stageFindings_some, lineageFindings_first runtime stage read]
  simp

theorem chainProgresses_error {stage : EvidenceStage} {message : String} :
    chainProgresses (F := F) stage (.error message) = true ↔
      stage = .monteCarlo ∧ missingEvidenceStatus message = .insufficientEvidence := by
  have undecided : missingEvidenceStatus noDecision = .invalid := by decide +kernel
  have outcomeStatus : (stageOutcome (F := F) stage (.error message)).status =
      nativeStatus (missingEvidenceStatus message) := rfl
  have outcomeReasons : (stageOutcome (F := F) stage (.error message)).reasons = [message] := rfl
  unfold chainProgresses stageMayProgress
  rw [outcomeStatus, outcomeReasons]
  have statuses : missingEvidenceStatus message = .insufficientEvidence ∨
      missingEvidenceStatus message = .invalid := by
    unfold missingEvidenceStatus
    dsimp only
    split
    · exact .inl rfl
    · exact .inr rfl
  rcases statuses with missing | invalid
  · simp only [missing, nativeStatus]
    cases stage with
    | monteCarlo => simp [EvidenceStage.runStage]
    | robustness => simp [EvidenceStage.runStage]
    | walkForward =>
        simp only [EvidenceStage.runStage, reduceCtorEq, if_false, and_false, decide_true,
          Bool.true_and, List.cons.injEq, and_true, decide_eq_true_eq, iff_false]
        intro same
        rw [same, undecided] at missing
        cases missing
  · simp [invalid, nativeStatus]

theorem gateRefuses_error {stage : EvidenceStage} {message : String} :
    ¬ GateAccepts (F := F) runtime stage (.error message) :=
  clean_stageFindings_none runtime

/-- Chain and gate rank one stage's evidence alike, unless it is Monte Carlo evidence that is
missing. -/
theorem stage_agrees_iff (stage : EvidenceStage) (retrieved : Retrieval F) :
    (chainProgresses stage retrieved = true ↔ GateAccepts runtime stage retrieved) ↔
      ¬ (stage = .monteCarlo ∧ EvidenceMissing retrieved) := by
  cases retrieved with
  | ok record =>
      have present : ¬ EvidenceMissing (.ok record : Retrieval F) := by
        intro missing
        obtain ⟨message, same, _⟩ := missing
        cases same
      rw [stageMayProgress_record, gateAccepts_record]
      simp [present]
  | error message =>
      have missing : EvidenceMissing (.error message : Retrieval F) ↔
          missingEvidenceStatus message = .insufficientEvidence := by
        simp [EvidenceMissing]
      rw [chainProgresses_error, missing]
      simp [gateRefuses_error]

/-- The gate is eligible exactly under its prerequisites, and it ranks every stage as the chain
does exactly when the Monte Carlo evidence is not missing. -/
theorem lockbox_gate_and_chain [LawfulPyNumber F] (retrieved : EvidenceStage → Retrieval F)
    (sourceLock : Option (SourceLockEvidence F)) (state : String) :
    ((∃ result, evaluatePersistedPrerequisites runtime retrieved sourceLock state = .ok result ∧
        result.eligibleToExecuteLockbox = true) ↔
      Prerequisites runtime retrieved sourceLock state) ∧
    ((∀ stage, chainProgresses stage (retrieved stage) = true ↔
        GateAccepts runtime stage (retrieved stage)) ↔
      ¬ EvidenceMissing (retrieved .monteCarlo)) := by
  refine ⟨evaluatePersisted_eligible_iff runtime, ?_⟩
  simp only [stage_agrees_iff]
  constructor
  · intro every missing
    exact every .monteCarlo ⟨rfl, missing⟩
  · intro present stage isMissing
    obtain ⟨rfl, missing⟩ := isMissing
    exact present missing

end Agreement

/-! Three passing stages of one lineage, and a stage whose artifact is gone. -/

def sampleLineage : Entries WholeFloat :=
  lineageKeys.map fun key => (key, .str key)

def sampleParameters : PyValue WholeFloat := .dict [("length", .int 20)]

def sampleRobustness : Entries WholeFloat :=
  [("robustness", .dict [
    ("source", .dict [("source_artifact_id", .str "lock_001"),
      ("data_provenance", .dict [("symbol", .str "SPY")]),
      ("execution_assumptions", .dict [("slippage", .float (.whole 1))])]),
    ("configuration", .dict [("experiment_id", .str "exp_001"), ("strategy_id", .str "orb"),
      ("strategy_version", .str "1"), ("locked_parameters", sampleParameters)])])]

def sampleFolds : Entries WholeFloat :=
  [("folds", .list [.dict [("status", .str "successful"),
    ("selected_parameters", sampleParameters), ("parameter_lock_id", .str "fold_lock_001")]])]

theorem sampleLineage_texts : ∀ key ∈ lineageKeys, ∃ text,
    sampleLineage.lookup key = some (.str text) := by
  intro key member
  refine ⟨key, ?_⟩
  simp only [lineageKeys, List.mem_cons, List.not_mem_nil, or_false] at member
  rcases member with rfl | rfl | rfl | rfl | rfl | rfl | rfl <;> rfl

def sampleEvidence (evidence : Entries WholeFloat)
    (finite : allFiniteEntries evidence = true) : StageEvidence WholeFloat where
  artifactId := 7
  evidenceIdentity := "evidence_001"
  source := sampleLineage
  evidence := evidence
  status := .passed
  reasons := []
  protectedDataState := .gated
  eligibleToProgress := false
  lineage := sampleLineage_texts
  finite := finite

def sampleRetrieved : EvidenceStage → Retrieval WholeFloat
  | .walkForward => .ok (sampleEvidence sampleFolds rfl)
  | .monteCarlo => .ok (sampleEvidence [] rfl)
  | .robustness => .ok (sampleEvidence sampleRobustness rfl)

def sampleLock : SourceLockEvidence WholeFloat where
  status := .passed
  artifactId := "lock_001"
  experimentId := .str "exp_001"
  strategyId := .str "orb"
  strategyVersion := .str "1"
  lockedParameters := some [("length", .int 20)]
  dataProvenance := [("symbol", .str "SPY")]
  executionAssumptions := [("slippage", .float (.whole 1))]
  reasons := []
  parameterLockId := some "parameter_lock_001"

def textRuntime : PythonRuntime WholeFloat where
  jsonDumps := jsonText
  jsonLoads _ := none
  sha256Hex text := text

/-- The chain goes on past Monte Carlo evidence that is not there; the gate refuses it. -/
theorem missing_monte_carlo_disagrees :
    ¬ (chainProgresses .monteCarlo
        (.error "Monte Carlo evidence artifact is missing" : Retrieval WholeFloat) = true ↔
      GateAccepts textRuntime .monteCarlo
        (.error "Monte Carlo evidence artifact is missing" : Retrieval WholeFloat)) := by
  intro agrees
  have progresses : chainProgresses .monteCarlo
      (.error "Monte Carlo evidence artifact is missing" : Retrieval WholeFloat) = true := by
    decide +kernel
  have accepted := agrees.mp progresses
  have refused := accepted .insufficientEvidence (List.mem_singleton_self _)
  cases refused

theorem lockbox_gate_and_chain_passed :
    Prerequisites textRuntime sampleRetrieved (some sampleLock) "gated" ∧
      ∀ stage, chainProgresses stage (sampleRetrieved stage) = true ↔
        GateAccepts textRuntime stage (sampleRetrieved stage) := by
  obtain ⟨eligible, agree⟩ :=
    lockbox_gate_and_chain textRuntime sampleRetrieved (some sampleLock) "gated"
  have computed : (evaluatePersistedPrerequisites textRuntime sampleRetrieved (some sampleLock)
      "gated").toOption.map (fun result => result.eligibleToExecuteLockbox) = some true := by
    decide +kernel
  refine ⟨eligible.mp ?_, agree.mpr ?_⟩
  · cases outcome : evaluatePersistedPrerequisites textRuntime sampleRetrieved (some sampleLock)
        "gated" with
    | error message =>
        rw [outcome] at computed
        cases computed
    | ok result =>
        rw [outcome] at computed
        exact ⟨result, rfl, Option.some.inj computed⟩
  · intro missing
    obtain ⟨message, same, _⟩ := missing
    cases same

end QuantFactory.Validation
