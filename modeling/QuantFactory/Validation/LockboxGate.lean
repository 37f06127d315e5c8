import QuantFactory.Validation.Evidence

/-!
# The lockbox gate

`backtesting/validation/lockbox_gate/service.py` and its caller in the evidence
service.  The gate collects reasons and statuses from every piece of evidence;
each piece is a `GateFindings`, in the order in which the source appends them.
-/

set_option autoImplicit false

namespace QuantFactory.Validation

open QuantFactory.Library QuantFactory.Python QuantFactory.Persistence
open QuantFactory.WalkForward (EvidenceStatus noDecision optionalText)

structure SourceLockEvidence (F : Type) where
  status : NativeStatus
  artifactId : String
  experimentId : PyValue F
  strategyId : PyValue F
  strategyVersion : PyValue F
  lockedParameters : Option (Entries F)
  dataProvenance : Entries F
  executionAssumptions : Entries F
  reasons : List String
  parameterLockId : Option String

structure LockboxArtifactReference where
  stage : String
  artifactId : String
  evidenceIdentity : Option String
  deriving DecidableEq, Repr

structure LockboxGateResult where
  status : EvidenceStatus
  reasons : List String
  referencedArtifacts : List LockboxArtifactReference
  parameterLockIdentity : Option String
  protectedDataState : ProtectedDataState
  lineageIdentity : Option String
  gateIdentity : String
  eligibleToExecuteLockbox : Bool
  eligibleToProgress : Bool
  deriving DecidableEq, Repr

def LockboxGateResult.identified (draft : LockboxGateResult) (gateIdentity : String) :
    LockboxGateResult :=
  { draft with gateIdentity := gateIdentity }

@[simp] theorem LockboxGateResult.identified_eligible (draft : LockboxGateResult)
    (gateIdentity : String) :
    (draft.identified gateIdentity).eligibleToExecuteLockbox =
      draft.eligibleToExecuteLockbox := rfl

structure GateFindings where
  reasons : List String
  statuses : List EvidenceStatus
  deriving DecidableEq, Repr

instance : Append GateFindings where
  append first second :=
    ⟨first.reasons ++ second.reasons, first.statuses ++ second.statuses⟩

def noFindings : GateFindings := ⟨[], []⟩

def finding (reason : String) (status : EvidenceStatus) : GateFindings := ⟨[reason], [status]⟩

/-- `values or (fallback,)`. -/
def reasonsOr (reasons : List String) (fallback : String) : List String :=
  if reasons.isEmpty then [fallback] else reasons

section Gate
variable {F : Type} [PyNumber F] (runtime : PythonRuntime F)

def identity (payload : PyValue F) : Except String String :=
  (canonicalJson runtime payload).map runtime.sha256Hex

/-! ## Lineage -/

def missingLineageKeys (source : Entries F) : List String :=
  lineageKeys.filter fun key => (source.lookup key).isNone

def lineagePayload (source : Entries F) :
    Except String (Entries F) :=
  if (missingLineageKeys source).isEmpty then
    .ok (lineageKeys.map fun key => (key, (source.lookup key).getD .none))
  else .error s!"lineage is missing fields: {commaSeparated (missingLineageKeys source)}"

def lineageIdentity (source : Entries F) : Except String String := do
  let payload ← lineagePayload source
  identity runtime (.dict payload)

def sourceLockPayload (lock : SourceLockEvidence F) : PyValue F :=
  .dict [
    ("artifact_id", .str lock.artifactId),
    ("parameter_lock_id", optionalText lock.parameterLockId),
    ("experiment_id", lock.experimentId),
    ("strategy_id", lock.strategyId),
    ("strategy_version", lock.strategyVersion),
    ("locked_parameters", lock.lockedParameters.elim .none .dict),
    ("data_provenance", .dict lock.dataProvenance),
    ("execution_assumptions", .dict lock.executionAssumptions)]

def combinedLineageIdentity (artifactLineage : Option String)
    (sourceLock : Option (SourceLockEvidence F)) : Except String (Option String) :=
  if artifactLineage.isNone ∧ sourceLock.isNone then .ok none
  else (identity runtime (.dict [
    ("artifact_lineage_identity", optionalText artifactLineage),
    ("source_lock", sourceLock.elim .none sourceLockPayload)])).map some

/-! ## Protected data and source lock -/

/-- `protected_data_state if protected_data_state in _PROTECTED_DATA_STATES else "invalid"`. -/
def protectedState (state : String) : ProtectedDataState :=
  (protectedDataStates.find? fun known => known.value == state).getD .invalid

def protectedFindings (state : ProtectedDataState) : GateFindings :=
  if state = .gated then noFindings
  else finding
    (if state = .spent then "protected data state is already spent"
      else "protected data state must be gated before lockbox execution")
    (if state = .invalid then .invalid else .failed)

def sourceLockStatus (lock : SourceLockEvidence F) : GateFindings :=
  if lock.status = .passed then ⟨[], [.passed]⟩
  else ⟨(reasonsOr lock.reasons s!"source lock returned {lock.status.value}").map
      (fun reason => s!"out_of_sample: {reason}"), [mapNativeStatus lock.status]⟩

def parameterLock (lock : SourceLockEvidence F) : GateFindings × Option String :=
  if lock.lockedParameters.isNone then
    (finding "out_of_sample: locked parameters are missing" .invalid, none)
  else if lock.artifactId.isEmpty then
    (finding "out_of_sample: artifact identity is missing" .invalid, none)
  else match lock.parameterLockId with
    | none => (finding "out_of_sample: parameter-lock identity is missing" .invalid, none)
    | some lockId =>
        if isBlank lockId then
          (finding "out_of_sample: parameter-lock identity is missing" .invalid, none)
        else (noFindings, some lockId)

def sourceLockFindings : Option (SourceLockEvidence F) → GateFindings
  | none => finding "out_of_sample: source lock evidence is missing" .insufficientEvidence
  | some lock => sourceLockStatus lock ++ (parameterLock lock).1

/-! ## Stages -/

def walkForwardOk (evidence : StageEvidence F) : Bool :=
  evidence.status = .insufficientEvidence && evidence.reasons = [noDecision]

def stageStatus (stage : EvidenceStage) (evidence : StageEvidence F) : GateFindings :=
  let reasons := reasonsOr evidence.reasons
    s!"{stage.name} evidence returned {evidence.status.value}"
  if evidence.status = .passed then ⟨[], [.passed]⟩
  else if stage = .walkForward ∧ walkForwardOk evidence then ⟨[], [.passed]⟩
  else if evidence.status = .failed then
    ⟨reasons.map fun reason => s!"{stage.name} (score): {reason}", [.passed]⟩
  else if stage = .monteCarlo ∧ evidence.status = .insufficientEvidence then
    ⟨reasons.map fun reason => s!"{stage.name} (unscored): {reason}", [.passed]⟩
  else
    ⟨reasons.map fun reason => s!"{stage.name}: {reason}",
      [mapNativeStatus (nativeStatus evidence.status)]⟩

/-- The lineage check of one stage, against the lineage of the stages before it. -/
def lineageFindings (stage : EvidenceStage) (evidence : StageEvidence F)
    (artifactLineage : Option String) : GateFindings × Option String :=
  match lineageIdentity runtime evidence.source with
  | .error message =>
      (finding s!"{stage.name}: source lineage is invalid: {message}" .invalid, artifactLineage)
  | .ok current => match artifactLineage with
      | none => (noFindings, some current)
      | some first =>
          (if first ≠ current then finding s!"{stage.name}: source lineage mismatch" .invalid
            else noFindings, some first)

def stageFindings (stage : EvidenceStage) (evidence : Option (StageEvidence F))
    (artifactLineage : Option String) : GateFindings × Option String :=
  match evidence with
  | none =>
      (finding s!"{stage.name}: evidence artifact is missing" .insufficientEvidence,
        artifactLineage)
  | some record =>
      let lineage := lineageFindings runtime stage record artifactLineage
      (lineage.1 ++ stageStatus stage record, lineage.2)

/-! ## Comparison with the source lock -/

/-- `mapping.get(key)`. -/
def fieldOf (entries : Entries F) (key : String) : PyValue F :=
  (entries.lookup key).getD .none

def lockComparisons (lock : SourceLockEvidence F) (source configuration : Entries F) :
    List (String × PyValue F × PyValue F) := [
  ("experiment_id", lock.experimentId, fieldOf configuration "experiment_id"),
  ("strategy_id", lock.strategyId, fieldOf configuration "strategy_id"),
  ("strategy_version", lock.strategyVersion, fieldOf configuration "strategy_version"),
  ("locked_parameters", lock.lockedParameters.elim .none .dict,
    fieldOf configuration "locked_parameters"),
  ("data_provenance", .dict lock.dataProvenance, fieldOf source "data_provenance"),
  ("execution_assumptions", .dict lock.executionAssumptions,
    fieldOf source "execution_assumptions"),
  ("source artifact identity", .str lock.artifactId, fieldOf source "source_artifact_id")]

def comparisonFindings : List (String × PyValue F × PyValue F) → GateFindings
  | [] => noFindings
  | (label, left, right) :: rest =>
      (if pyEq left right then noFindings
        else finding s!"robustness: source-lock {label} mismatch" .invalid) ++
      comparisonFindings rest

/-- `_validate_source_lock_against_robustness`. -/
def robustnessFindings (lock : SourceLockEvidence F) (robustness : Option (StageEvidence F)) :
    GateFindings :=
  match robustness with
  | none => noFindings
  | some record => match record.evidence.lookup "robustness" with
      | some (.dict native) =>
          match native.lookup "source", native.lookup "configuration" with
          | some (.dict source), some (.dict configuration) =>
              comparisonFindings (lockComparisons lock source configuration)
          | _, _ => finding "robustness: source/configuration evidence is missing" .invalid
      | _ => finding "robustness: native evidence is missing" .invalid

/-- `lock_id if isinstance(lock_id, str) and lock_id.strip() else ""`. -/
def recordedLockId (fold : Entries F) : String :=
  match fold.lookup "parameter_lock_id" with
  | some (.str lockId) => if isBlank lockId then "" else lockId
  | _ => ""

def foldLockId : PyValue F → Option String
  | .dict fold =>
      if (fieldOf fold "status").text? = some "successful" ∧
          (fieldOf fold "selected_parameters").isNone = false then some (recordedLockId fold)
      else none
  | _ => none

def foldLockIds (walkForward : StageEvidence F) : List String :=
  match walkForward.evidence.lookup "folds" with
  | some (.list folds) => folds.filterMap foldLockId
  | _ => []

def foldLockFindings (walkForward : Option (StageEvidence F)) : GateFindings :=
  if (walkForward.elim [] foldLockIds).any (·.isEmpty) then
    finding "walk_forward: parameter-lock identity is missing" .invalid
  else noFindings

def lockComparisonFindings (sourceLock : Option (SourceLockEvidence F))
    (walkForward robustness : Option (StageEvidence F)) : GateFindings :=
  match sourceLock with
  | none => noFindings
  | some lock =>
      if lock.lockedParameters.isNone then noFindings
      else robustnessFindings lock robustness ++ foldLockFindings walkForward

/-! ## The result -/

def resultStatus (statuses : List EvidenceStatus) : EvidenceStatus :=
  if .invalid ∈ statuses then .invalid
  else if .failed ∈ statuses then .failed
  else if .insufficientEvidence ∈ statuses then .insufficientEvidence
  else .passed

def referenceValue (reference : LockboxArtifactReference) : PyValue F :=
  .dict [("stage", .str reference.stage), ("artifact_id", .str reference.artifactId),
    ("evidence_identity", optionalText reference.evidenceIdentity)]

def gateIdentityPayload (result : LockboxGateResult) : PyValue F :=
  .dict [
    ("status", .str result.status.value),
    ("reasons", .list (result.reasons.map .str)),
    ("references", .list (result.referencedArtifacts.map referenceValue)),
    ("parameter_lock_identity", optionalText result.parameterLockIdentity),
    ("protected_data_state", .str result.protectedDataState.value),
    ("lineage_identity", optionalText result.lineageIdentity),
    ("eligible_to_execute_lockbox", .bool result.eligibleToExecuteLockbox),
    ("eligible_to_progress", .bool false)]

def lockboxGateIdentity (result : LockboxGateResult) : Except String String :=
  identity runtime (gateIdentityPayload result)

def stageReference (stage : EvidenceStage) (evidence : Option (StageEvidence F)) :
    List LockboxArtifactReference :=
  match evidence with
  | none => []
  | some record => [⟨stage.name, toString record.artifactId, some record.evidenceIdentity⟩]

def sourceLockReference (sourceLock : Option (SourceLockEvidence F)) :
    List LockboxArtifactReference :=
  match sourceLock with
  | none => []
  | some lock => [⟨"out_of_sample", lock.artifactId, none⟩]

variable (walkForward monteCarlo robustness : Option (StageEvidence F))
  (sourceLock : Option (SourceLockEvidence F))

/-- Every finding of one evaluation, in order, and the lineage of the first stage that has one. -/
def gateFindings (state : ProtectedDataState) : GateFindings × Option String :=
  let first := stageFindings runtime .walkForward walkForward none
  let second := stageFindings runtime .monteCarlo monteCarlo first.2
  let third := stageFindings runtime .robustness robustness second.2
  (protectedFindings state ++ sourceLockFindings sourceLock ++ first.1 ++ second.1 ++ third.1 ++
    lockComparisonFindings sourceLock walkForward robustness, third.2)

def draftResult (state : ProtectedDataState) (lineageIdentity : Option String) :
    LockboxGateResult :=
  let findings := (gateFindings runtime walkForward monteCarlo robustness sourceLock state).1
  let status := resultStatus findings.statuses
  { status := status
    reasons := if status = .passed ∧ findings.reasons.isEmpty then []
      else reasonsOr findings.reasons s!"lockbox gate returned {status.value}"
    referencedArtifacts := sourceLockReference sourceLock ++
      stageReference .walkForward walkForward ++ stageReference .monteCarlo monteCarlo ++
      stageReference .robustness robustness
    parameterLockIdentity := sourceLock.bind fun lock => (parameterLock lock).2
    protectedDataState := state
    lineageIdentity := lineageIdentity
    gateIdentity := ""
    eligibleToExecuteLockbox := status = .passed && state = .gated
    eligibleToProgress := false }

def evaluateLockboxPrerequisites (protectedDataState : String) :
    Except String LockboxGateResult := do
  let state := protectedState protectedDataState
  let lineage := (gateFindings runtime walkForward monteCarlo robustness sourceLock state).2
  let lineageIdentity ← combinedLineageIdentity runtime lineage sourceLock
  let draft := draftResult runtime walkForward monteCarlo robustness sourceLock state
    lineageIdentity
  let gateIdentity ← lockboxGateIdentity runtime draft
  .ok (draft.identified gateIdentity)

/-! ## The evidence service -/

def retrievalFailure (stage : EvidenceStage) : Retrieval F → List (String × EvidenceStatus × String)
  | .ok _ => []
  | .error message => [(stage.name, missingEvidenceStatus message, message)]

def refusedResult (result : LockboxGateResult)
    (failures : List (String × EvidenceStatus × String)) : LockboxGateResult :=
  let statuses := result.status :: failures.map fun failure => failure.2.1
  { result with
    status := if .invalid ∈ statuses then .invalid
      else if .failed ∈ statuses then .failed else .insufficientEvidence
    reasons := result.reasons ++ failures.map fun failure => s!"{failure.1}: {failure.2.2}"
    gateIdentity := ""
    eligibleToExecuteLockbox := false
    eligibleToProgress := false }

end Gate

/-- `ValidationEvidenceArtifactService.evaluate_lockbox_prerequisites`. -/
def evaluatePersistedPrerequisites {F : Type} [PyNumber F] (runtime : PythonRuntime F)
    (retrieved : EvidenceStage → Retrieval F)
    (sourceLock : Option (SourceLockEvidence F)) (protectedDataState : String) :
    Except String LockboxGateResult := do
  let result ← evaluateLockboxPrerequisites runtime (retrieved .walkForward).toOption
    (retrieved .monteCarlo).toOption (retrieved .robustness).toOption sourceLock
    protectedDataState
  let failures := retrievalFailure .walkForward (retrieved .walkForward) ++
    retrievalFailure .monteCarlo (retrieved .monteCarlo) ++
    retrievalFailure .robustness (retrieved .robustness)
  if failures.isEmpty then .ok result
  else
    let draft := refusedResult result failures
    let gateIdentity ← lockboxGateIdentity runtime draft
    .ok (draft.identified gateIdentity)

end QuantFactory.Validation
