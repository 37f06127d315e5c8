import Mathlib
import QuantFactory.Launch.Records
import QuantFactory.Python.Equality
import QuantFactory.WalkForward.Documents

/-!
# Persisted validation evidence

What `backtesting/validation/evidence_service.py` reads back for one stage run,
and how the filter chain of `orchestration/filter_chain.py` ranks it.  Retrieval
itself is a function of the stored rows and files; it either returns evidence its
validators have checked or raises with a message.
-/

set_option autoImplicit false

namespace QuantFactory.Validation

open QuantFactory.Library QuantFactory.Python QuantFactory.Persistence
open QuantFactory.Launch (RunStage)
open QuantFactory.WalkForward (EvidenceStatus noDecision)

/-- The statuses of native evidence, of source locks and of stages without evidence. -/
inductive NativeStatus where
  | passed | failed | insufficientEvidence | invalidInput | invalid | notRun
  deriving DecidableEq, Repr

def NativeStatus.value : NativeStatus → String
  | .passed => "passed"
  | .failed => "failed"
  | .insufficientEvidence => "insufficient_evidence"
  | .invalidInput => "invalid_input"
  | .invalid => "invalid"
  | .notRun => "not_run"

def nativeStatus : EvidenceStatus → NativeStatus
  | .passed => .passed
  | .failed => .failed
  | .insufficientEvidence => .insufficientEvidence
  | .invalid => .invalid

/-- `map_native_status`: unknown values are invalid. -/
def mapNativeStatus : NativeStatus → EvidenceStatus
  | .passed => .passed
  | .failed => .failed
  | .insufficientEvidence => .insufficientEvidence
  | .invalidInput => .invalid
  | .invalid => .invalid
  | .notRun => .invalid

inductive ProtectedDataState where
  | notApplicable | unspent | gated | spent | invalid
  deriving DecidableEq, Repr

def ProtectedDataState.value : ProtectedDataState → String
  | .notApplicable => "not_applicable"
  | .unspent => "unspent"
  | .gated => "gated"
  | .spent => "spent"
  | .invalid => "invalid"

def protectedDataStates : List ProtectedDataState :=
  [.notApplicable, .unspent, .gated, .spent, .invalid]

inductive EvidenceStage where
  | walkForward | monteCarlo | robustness
  deriving DecidableEq, Repr

def EvidenceStage.runStage : EvidenceStage → RunStage
  | .walkForward => .walkForward
  | .monteCarlo => .monteCarlo
  | .robustness => .robustness

def EvidenceStage.name (stage : EvidenceStage) : String := stage.runStage.value

def lineageKeys : List String :=
  ["configuration_id", "strategy_id", "strategy_version", "configuration_hash", "data_identity",
    "execution_assumptions_identity", "runtime_identity"]

/-- What a retrieval returns once the stage's validator has checked the document: `source` and
`evidence` are its mappings of these names, the other fields those of the normalized evidence. -/
structure StageEvidence (F : Type) [PyNumber F] where
  artifactId : Int
  evidenceIdentity : String
  source : Entries F
  evidence : Entries F
  status : EvidenceStatus
  reasons : List String
  protectedDataState : ProtectedDataState
  eligibleToProgress : Bool
  /-- `validate_source_lineage` has compared these fields with the texts of the run's manifest. -/
  lineage : ∀ key ∈ lineageKeys, ∃ text, source.lookup key = some (.str text)
  finite : allFiniteEntries evidence = true

/-- One retrieval: the evidence, or the message of a `RuntimeError` or `ValueError`. -/
abbrev Retrieval (F : Type) [PyNumber F] := Except String (StageEvidence F)

def missingEvidenceStatus (message : String) : EvidenceStatus :=
  let lower := message.toList.map Char.toLower
  if "no persisted manifest".toList <:+: lower ∨ "artifact_missing".toList <:+: lower ∨
      "evidence artifact is missing".toList <:+ lower then .insufficientEvidence
  else .invalid

structure ValidationStageOutcome where
  stage : String
  status : NativeStatus
  reasons : List String
  protectedDataState : Option ProtectedDataState
  evidenceIdentity : Option String
  artifactId : Option Int
  eligibleToProgress : Bool
  deriving DecidableEq, Repr

section Outcome
variable {F : Type} [PyNumber F]

/-- `stage_outcome` for a run of one of the three stages. -/
def stageOutcome (stage : EvidenceStage) (retrieved : Retrieval F) : ValidationStageOutcome :=
  match retrieved with
  | .error message => {
      stage := stage.name
      status := nativeStatus (missingEvidenceStatus message)
      reasons := [message]
      protectedDataState := none
      evidenceIdentity := none
      artifactId := none
      eligibleToProgress := false }
  | .ok record => {
      stage := stage.name
      status := nativeStatus record.status
      reasons := record.reasons
      protectedDataState := some record.protectedDataState
      evidenceIdentity := some record.evidenceIdentity
      artifactId := some record.artifactId
      eligibleToProgress := record.eligibleToProgress }

/-- `stage_outcome` for a run of any other stage. -/
def stageNotRun (stage : RunStage) : ValidationStageOutcome where
  stage := stage.value
  status := .notRun
  reasons := []
  protectedDataState := none
  evidenceIdentity := none
  artifactId := none
  eligibleToProgress := false

def scoredValidationStages : List RunStage := [.walkForward, .robustness, .monteCarlo]

def stageMayProgress (stage : RunStage) (outcome : ValidationStageOutcome) : Bool :=
  if outcome.status = .passed then true
  else if stage ∈ scoredValidationStages ∧ outcome.status = .failed then true
  else if stage = .monteCarlo ∧ outcome.status = .insufficientEvidence then true
  else stage = .walkForward && outcome.status = .insufficientEvidence &&
    outcome.reasons = [noDecision]

end Outcome

end QuantFactory.Validation
