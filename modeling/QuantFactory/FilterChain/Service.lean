import QuantFactory.Launch.Repositories
import QuantFactory.Library.Runs
import QuantFactory.Validation.LockboxGate

/-!
# The filter chain

`orchestration/filter_chain.py`.  A call of `run` or `reopen` is a sequence of
accesses to the database and of adapter calls; a `ChainPhase` says what the call
does next, and the phases of all calls are interleaved with each other, with the
writes of the adapters and with other writers.
-/

set_option autoImplicit false

namespace QuantFactory.FilterChain

open QuantFactory.Library QuantFactory.Python QuantFactory.Persistence QuantFactory.Launch
open QuantFactory.Validation

inductive ChainErrorKind where
  | keyError | valueError | runtimeError | assertionError | attributeError | integrityError
  | invocationUnknown | replayIncomplete | other
  deriving DecidableEq, Repr

structure ChainError where
  kind : ChainErrorKind
  message : String
  deriving DecidableEq, Repr

def storeErrorKind : LaunchErrorKind → ChainErrorKind
  | .keyError => .keyError
  | .valueError => .valueError
  | .sqliteIntegrity => .integrityError
  | _ => .other

def fromStore {α : Type} : Except LaunchError α → Except ChainError α
  | .ok value => .ok value
  | .error error => .error ⟨storeErrorKind error.kind, error.message⟩

/-- `except kinds as exc`, with `str(exc)`. -/
def catching {α : Type} (kinds : List ChainErrorKind) :
    Except ChainError α → Except ChainError (Except String α)
  | .ok value => .ok (.ok value)
  | .error error => if error.kind ∈ kinds then .ok (.error error.message) else .error error

structure PersistedStageReference where
  stage : RunStage
  runId : String
  deriving DecidableEq, Repr

structure FilterStageContext where
  screeningRunId : String
  stage : RunStage
  runId : String
  previous : List PersistedStageReference
  deriving DecidableEq, Repr

/-- `references[-1].run_id if references else screening_run_id`. -/
def lastRunId (screeningRunId : String) (references : List PersistedStageReference) : String :=
  references.getLast?.elim screeningRunId (·.runId)

def FilterStageContext.previousRunId (context : FilterStageContext) : String :=
  lastRunId context.screeningRunId context.previous

def FilterStageContext.reference (context : FilterStageContext) : PersistedStageReference :=
  ⟨context.stage, context.runId⟩

structure FilterStageHandoff where
  stage : RunStage
  runId : String
  status : NativeStatus
  eligibleToProgress : Bool
  evidenceIdentity : Option String
  reasons : List String
  deriving DecidableEq, Repr

inductive ChainStatus where
  | screenedOut | stopped | readyForProtectedTest
  deriving DecidableEq, Repr

structure FilterChainOutcome where
  status : ChainStatus
  screeningRunId : String
  completed : List FilterStageHandoff
  stoppedAt : Option String
  reasons : List String
  protectedTestGate : Option LockboxGateResult
  deriving DecidableEq, Repr

def validationStageOrder : List RunStage := [.oos, .walkForward, .robustness, .monteCarlo]

structure ParameterResult where
  screeningStatus : String
  rejectionReasons : String
  deriving DecidableEq, Repr

structure RunEvidence (F : Type) [PyNumber F] where
  sourceLock : Except ChainError (SourceLockEvidence F)
  record : EvidenceStage → Except ChainError (StageEvidence F)

structure ChainStore (F : Type) [PyNumber F] where
  db : Database
  results : String → List ParameterResult
  evidence : String → RunEvidence F

/-- The arguments of one call; `reopen` passes no adapters. -/
structure ChainCall where
  screeningRunId : String
  stageAdapters : Option (List RunStage)

structure ChainProgress (F : Type) where
  references : List PersistedStageReference
  completed : List FilterStageHandoff
  sourceLock : Option (SourceLockEvidence F)

def noProgress (F : Type) : ChainProgress F := ⟨[], [], none⟩

/-- One turn of the loop over the stages, with the stages still to come. -/
structure StageTurn (F : Type) where
  progress : ChainProgress F
  stage : RunStage
  rest : List RunStage

inductive StagePoint where
  | lookup | reserve | readScreening
  | create (screening : ExperimentRunRecord)
  /-- The insert raised an `IntegrityError`. -/
  | taken (error : ChainError)
  | invoke
  | running | recover | markFailed
  | logFailed (completedAt : Option String)
  | validate (reference : PersistedStageReference)
  | evidence (reference : PersistedStageReference)

inductive ChainPhase (F : Type) where
  | begin
  | ranked
  | stage (point : StagePoint) (turn : StageTurn F)
  | gate (progress : ChainProgress F)
  | finished (result : Except ChainError FilterChainOutcome)

/-- What lets a call go on: its next access to the database, at a time and in a runtime, or
the end of the adapter it is waiting for. -/
inductive ChainInput (F : Type) where
  | proceed (now : String) (runtimeLineage : Except ChainError (PyValue F))
  | adapterReturned (reference : PersistedStageReference)
  | adapterRaised

/-! ## Checks before the stages -/

def sortedNames (stages : List RunStage) : List String :=
  (stages.map RunStage.value).insertionSort (· ≤ ·)

def detail (label : String) (names : List String) : List String :=
  if names.isEmpty then [] else [label ++ ": " ++ commaSeparated names]

def requireCompleteAdapters (supplied : List RunStage) : Except ChainError Unit :=
  let missing := sortedNames (validationStageOrder.filter (· ∉ supplied))
  let extra := sortedNames (supplied.filter (· ∉ validationStageOrder))
  if missing.isEmpty ∧ extra.isEmpty then .ok ()
  else .error ⟨.valueError, "filter-stage adapters are incomplete (" ++
    "; ".intercalate (detail "missing" missing ++ detail "unexpected" extra) ++ ")"⟩

section Chain
variable {F : Type} [PyNumber F]

def checkScreening (store : ChainStore F) (screeningRunId : String) : Except ChainError Unit := do
  let screening ← orRaise (store.db.runs.get screeningRunId)
    ⟨.keyError, s!"unknown screening run {screeningRunId}"⟩
  raiseIf (screening.stage ≠ .screening)
    ⟨.valueError, "filter-chain source must be a screening run"⟩
  raiseIf (screening.status ≠ .succeeded)
    ⟨.valueError, "filter-chain source screening run must have succeeded"⟩

def rejectionReasons (rows : List ParameterResult) : List String :=
  (rows.map fun row => strip row.rejectionReasons).filter fun reason => !reason.isEmpty

def screenedOut (screeningRunId : String) (rows : List ParameterResult) : FilterChainOutcome where
  status := .screenedOut
  screeningRunId := screeningRunId
  completed := []
  stoppedAt := some RunStage.screening.value
  reasons := reasonsOr (rejectionReasons rows) "No screening result qualified for later filters."
  protectedTestGate := none

def readRanked (store : ChainStore F) (screeningRunId : String) :
    Except ChainError (Option FilterChainOutcome) :=
  let rows := store.results screeningRunId
  if rows.isEmpty then .error ⟨.valueError, "screening run has no persisted ranked results"⟩
  else if rows.any fun row => row.screeningStatus == "passed" then .ok none
  else .ok (some (screenedOut screeningRunId rows))

/-! ## One stage -/

def stageError {α : Type} (kind : ChainErrorKind) (stage : RunStage) (problem : String) :
    Except ChainError α :=
  .error ⟨kind, s!"{stage.value} {problem}"⟩

variable (runtime : PythonRuntime F)

def handoffRunId (screeningRunId sourceRunId : String) (stage : RunStage) : String :=
  "run_" ++ String.ofList ((runtime.sha256Hex ("|".intercalate
    ["factory_filter_handoff_v1", screeningRunId, sourceRunId, stage.value])).toList.take 32)

def stageContext (screeningRunId : String) (progress : ChainProgress F) (stage : RunStage) :
    FilterStageContext where
  screeningRunId := screeningRunId
  stage := stage
  runId := handoffRunId runtime screeningRunId (lastRunId screeningRunId progress.references) stage
  previous := progress.references

def stageEnvironment (sourceRunId : String) (runtimeLineage : PyValue F) : PyValue F :=
  .dict [("filter_handoff", .dict [("source_run_id", .str sourceRunId)]),
    ("runtime_lineage", runtimeLineage)]

def reservedRun (screening : ExperimentRunRecord) (context : FilterStageContext)
    (environmentJson now : String) : ExperimentRunRecord where
  runId := context.runId
  configurationId := screening.configurationId
  strategyId := screening.strategyId
  strategyVersion := screening.strategyVersion
  stage := context.stage
  status := .created
  startedAt := none
  completedAt := none
  errorSummary := none
  environmentJson := environmentJson
  createdAt := now

/-- `create_run` as `_reserve_stage_run` calls it. -/
def createStageRun (db : Database) (screening : ExperimentRunRecord)
    (context : FilterStageContext) (now : String)
    (runtimeLineage : Except ChainError (PyValue F)) : Except ChainError Database := do
  let lineage ← runtimeLineage
  let environmentJson ← (canonicalJson runtime
    (stageEnvironment context.previousRunId lineage)).mapError (ChainError.mk .valueError)
  let created ← fromStore (RunRepository.create db
    (reservedRun screening context environmentJson now))
  .ok created.2

/-- The lineage a stage run records: `environment["filter_handoff"]["source_run_id"]`. -/
def handoffSource (environment : Entries F) : Option (PyValue F) :=
  match environment.lookup "filter_handoff" with
  | some (.dict handoff) => handoff.lookup "source_run_id"
  | _ => none

def loadEnvironment (stage : RunStage) (environmentJson : String) :
    Except ChainError (Entries F) :=
  match runtime.jsonLoads environmentJson with
  | none => stageError .valueError stage "handoff lineage is malformed"
  | some (.dict environment) => .ok environment
  | some _ => stageError .attributeError stage "environment has no attribute 'get'"

/-- The persisted run has the stage, the status and the identity of its source. -/
def sameRunIdentity (stage : RunStage) (source persisted : ExperimentRunRecord) : Bool :=
  persisted.stage = stage && persisted.status = .succeeded &&
    persisted.configurationId = source.configurationId &&
    persisted.strategyId = source.strategyId &&
    persisted.strategyVersion = source.strategyVersion

def validatePersistedReference (store : ChainStore F) (context : FilterStageContext)
    (reference : PersistedStageReference) : Except ChainError Unit :=
  let stage := context.stage
  if reference.stage ≠ stage then
    .error ⟨.valueError, s!"expected {stage.value} handoff, got {reference.stage.value}"⟩
  else if isBlank reference.runId then
    stageError .valueError stage "handoff run identity is incomplete"
  else if reference.runId ≠ context.runId then
    stageError .valueError stage "handoff did not use its durable run identity"
  else match store.db.runs.get context.screeningRunId, store.db.runs.get reference.runId with
    | some source, some persisted =>
        if !sameRunIdentity stage source persisted then
          stageError .valueError stage "handoff disagrees with persisted run identity"
        else match loadEnvironment runtime stage persisted.environmentJson with
          | .error error => .error error
          | .ok environment =>
              if (handoffSource environment).bind PyValue.text? ≠ some context.previousRunId then
                stageError .valueError stage "handoff predecessor lineage is invalid"
              else .ok ()
    | _, _ => stageError .valueError stage "handoff run is not persisted"

def evidenceStageOf : RunStage → Option EvidenceStage
  | .walkForward => some .walkForward
  | .monteCarlo => some .monteCarlo
  | .robustness => some .robustness
  | _ => none

/-- One retrieval whose `RuntimeError` or `ValueError` is reported as its message. -/
def retrieveStage (store : ChainStore F) (runId : String) (stage : EvidenceStage) :
    Except ChainError (Retrieval F) :=
  catching [.runtimeError, .valueError] ((store.evidence runId).record stage)

/-- `stage_outcome`. -/
def persistedStageOutcome (store : ChainStore F) (runId : String) :
    Except ChainError ValidationStageOutcome := do
  let run ← orRaise (store.db.runs.get runId) ⟨.keyError, s!"unknown run {runId}"⟩
  match evidenceStageOf run.stage with
  | none => .ok (stageNotRun run.stage)
  | some stage => (retrieveStage store runId stage).map (stageOutcome stage)

def lockHandoff (reference : PersistedStageReference) :
    Except String (SourceLockEvidence F) → FilterStageHandoff
  | .error message => {
      stage := reference.stage
      runId := reference.runId
      status := .invalid
      eligibleToProgress := false
      evidenceIdentity := none
      reasons := [message] }
  | .ok lock => {
      stage := reference.stage
      runId := reference.runId
      status := lock.status
      eligibleToProgress := lock.status = .passed
      evidenceIdentity := some lock.artifactId
      reasons := lock.reasons }

def outcomeHandoff (reference : PersistedStageReference) (outcome : ValidationStageOutcome) :
    FilterStageHandoff where
  stage := reference.stage
  runId := reference.runId
  status := outcome.status
  eligibleToProgress := stageMayProgress reference.stage outcome
  evidenceIdentity := outcome.evidenceIdentity
  reasons := outcome.reasons

/-- The handoff derived from a stage's persisted evidence, and the source lock it leaves. -/
def stageHandoff (store : ChainStore F) (reference : PersistedStageReference)
    (sourceLock : Option (SourceLockEvidence F)) :
    Except ChainError (FilterStageHandoff × Option (SourceLockEvidence F)) :=
  if reference.stage = .oos then
    (catching [.keyError, .runtimeError, .valueError] (store.evidence reference.runId).sourceLock).map
      fun retrieved => (lockHandoff reference retrieved, retrieved.toOption <|> sourceLock)
  else (persistedStageOutcome store reference.runId).map
    fun outcome => (outcomeHandoff reference outcome, sourceLock)

def stoppedAt (screeningRunId : String) (completed : List FilterStageHandoff)
    (handoff : FilterStageHandoff) : FilterChainOutcome where
  status := .stopped
  screeningRunId := screeningRunId
  completed := completed
  stoppedAt := some handoff.stage.value
  reasons := reasonsOr handoff.reasons
    s!"{handoff.stage.value} did not qualify for the next filter."
  protectedTestGate := none

def ChainProgress.extend (progress : ChainProgress F) (reference : PersistedStageReference)
    (handoff : FilterStageHandoff) (sourceLock : Option (SourceLockEvidence F)) :
    ChainProgress F where
  references := progress.references ++ [reference]
  completed := progress.completed ++ [handoff]
  sourceLock := sourceLock

/-! ## The gate -/

def runOfStage (references : List PersistedStageReference) (stage : RunStage) :
    Except ChainError String :=
  orRaise ((references.find? fun reference => reference.stage = stage).map (·.runId))
    ⟨.keyError, stage.value⟩

def gateOutcome (screeningRunId : String) (completed : List FilterStageHandoff)
    (gate : LockboxGateResult) : FilterChainOutcome :=
  if gate.eligibleToExecuteLockbox then {
      status := .readyForProtectedTest
      screeningRunId := screeningRunId
      completed := completed
      stoppedAt := none
      reasons := ["Protected test remains locked until separate authority is granted."]
      protectedTestGate := some gate }
  else {
      status := .stopped
      screeningRunId := screeningRunId
      completed := completed
      stoppedAt := some "protected_test_gate"
      reasons := reasonsOr gate.reasons "The protected test prerequisites did not pass."
      protectedTestGate := some gate }

def retrievedStages (walkForward monteCarlo robustness : Retrieval F) :
    EvidenceStage → Retrieval F
  | .walkForward => walkForward
  | .monteCarlo => monteCarlo
  | .robustness => robustness

def readGate (store : ChainStore F) (screeningRunId : String) (progress : ChainProgress F) :
    Except ChainError FilterChainOutcome := do
  let lock ← orRaise progress.sourceLock ⟨.assertionError, ""⟩
  let walkForwardRun ← runOfStage progress.references .walkForward
  let monteCarloRun ← runOfStage progress.references .monteCarlo
  let robustnessRun ← runOfStage progress.references .robustness
  let walkForward ← retrieveStage store walkForwardRun .walkForward
  let monteCarlo ← retrieveStage store monteCarloRun .monteCarlo
  let robustness ← retrieveStage store robustnessRun .robustness
  let gate ← (evaluatePersistedPrerequisites runtime
    (retrievedStages walkForward monteCarlo robustness) (some lock) "gated").mapError
      (ChainError.mk .valueError)
  .ok (gateOutcome screeningRunId progress.completed gate)

end Chain

end QuantFactory.FilterChain
