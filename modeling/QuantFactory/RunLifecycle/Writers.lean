import QuantFactory.Launch.Repositories

/-!
# Writers of a run's lifecycle

The methods of `persistence/service.py` that move a run through its states, each
one transaction on the run rows and the operator events.  An exception rolls the
transaction back.
-/

set_option autoImplicit false

namespace QuantFactory.RunLifecycle

open QuantFactory.Library QuantFactory.Python QuantFactory.Launch

/-- `occurred_at or utc_now()`. -/
def timestampOr (occurredAt : Option String) (now : String) : String :=
  match occurredAt with
  | some text => if text.isEmpty then now else text
  | none => now

/-- `events.append`, with the source of the caller. -/
def appendEvent (db : Database) (runId : String) (eventType : RunEventType)
    (severity : EventSeverity) (message source : String) (occurredAt : Option String)
    (now : String) : Except LaunchError Database :=
  let message := strip message
  if message.isEmpty then .error (valueError "operator event message must not be empty")
  else if message.length > 500 then
    .error (valueError "operator event message must be at most 500 characters")
  else if (db.runs.get runId).isNone then
    .error ⟨.sqliteIntegrity, "FOREIGN KEY constraint failed"⟩
  else .ok { db with events := db.events ++
      [{ runId, eventType, occurredAt := timestampOr occurredAt now, severity, source, message }] }

def getRun (db : Database) (runId : String) : Except LaunchError ExperimentRunRecord :=
  orRaise (db.runs.get runId) ⟨.keyError, s!"unknown run {runId}"⟩

def hasCancellationRequest (db : Database) (runId : String) : Bool :=
  (RunEventRepository.listForRun db runId).any fun event =>
    event.eventType = .runCancellationRequested

/-- `run.completed_at or run.started_at or run.created_at`. -/
def lifecycleTimestamp (run : ExperimentRunRecord) : String :=
  timestampOr run.completedAt (timestampOr run.startedAt run.createdAt)

structure OperatorTransition where
  runId : String
  status : RunStatus
  eventType : RunEventType
  severity : EventSeverity
  message : String
  errorSummary : Option String
  source : String
  deriving DecidableEq, Repr

def transitionRunWithOperatorEvent (db : Database) (request : OperatorTransition)
    (clock : Clock) : Except LaunchError Database := do
  let (run, moved) ← RunRepository.transition db request.runId request.status
    request.errorSummary (clock 0)
  appendEvent moved request.runId request.eventType request.severity request.message
    request.source (some (lifecycleTimestamp run)) (clock 1)

def requestRunCancellation (db : Database) (runId : String) (clock : Clock) :
    Except LaunchError Database := do
  let run ← getRun db runId
  if isTerminalRunStatus run.status then .ok db
  else if run.status ≠ .running then
    .error (valueError s!"run {runId} is not active and cannot be cancelled")
  else if hasCancellationRequest db runId then .ok db
  else
    appendEvent db runId .runCancellationRequested .info
      "Cancellation requested; waiting for fixture acknowledgement." "quant_factory" none (clock 0)

def acknowledgeRunCancellation (db : Database) (runId : String) (clock : Clock) :
    Except LaunchError Database := do
  let run ← getRun db runId
  if isTerminalRunStatus run.status then .ok db
  else if run.status ≠ .running then
    .error (valueError s!"run {runId} is not active and cannot acknowledge cancellation")
  else if !hasCancellationRequest db runId then
    .error (valueError s!"run {runId} has no cancellation request")
  else do
    let (cancelled, moved) ← RunRepository.transition db runId .cancelled none (clock 0)
    appendEvent moved runId .runCancelled .info "Run cancelled after fixture acknowledgement."
      "quant_factory" cancelled.completedAt (clock 1)

def startForTimeout (db : Database) (run : ExperimentRunRecord) (clock : Clock) :
    Except LaunchError Database :=
  if run.status = .created then do
    let (started, moved) ← RunRepository.transition db run.runId .running none (clock 0)
    appendEvent moved run.runId .runStarted .info
      "Run started through Prefect fixture execution." "quant_factory" started.startedAt (clock 1)
  else .ok db

def failRunForTimeout (db : Database) (runId timeoutMessage errorSummary : String)
    (clock : Clock) : Except LaunchError Database := do
  let run ← getRun db runId
  if isTerminalRunStatus run.status then .ok db
  else do
    let started ← startForTimeout db run clock
    let noticed ← appendEvent started run.runId .runTimedOut .error timeoutMessage
      "quant_factory" none (clock 2)
    let (failed, moved) ← RunRepository.transition noticed runId .failed (some errorSummary)
      (clock 3)
    appendEvent moved runId .runFailed .error
      "Run failed; see the Prefect reference for technical details." "quant_factory"
      failed.completedAt (clock 4)

/-! ## Stale runs -/

section Stale
-- `_parse_utc_timestamp`, as a number of microseconds
variable (parseUtcTimestamp : String → Option Int)

def parseTimestamp (value label : String) : Except LaunchError Int :=
  orRaise (parseUtcTimestamp value) (valueError s!"{label} must be an ISO-8601 UTC timestamp")

def referenceTimestamp (run : ExperimentRunRecord) : Option String :=
  if run.status = .created then some run.createdAt else run.startedAt

def isStale (cutoff : Int) (run : ExperimentRunRecord) : Except LaunchError Bool :=
  if run.status ≠ .created ∧ run.status ≠ .running then .ok false
  else match referenceTimestamp run with
    | none => .error ⟨.runtimeError, s!"running run {run.runId} has no started_at timestamp"⟩
    | some timestamp => do
        let moment ← parseTimestamp parseUtcTimestamp timestamp "run timestamp"
        .ok (decide (moment < cutoff))

def recoverRun (db : Database) (run : ExperimentRunRecord) (clock : Clock) :
    Except LaunchError Database := do
  let noticed ← appendEvent db run.runId .runStaleRecovered .error
    s!"Stale {run.status.value} fixture run recovered to failed." "quant_factory" none (clock 0)
  let (recovered, moved) ← RunRepository.transition noticed run.runId .failed
    (some s!"Fixture run remained {run.status.value} beyond the stale recovery cutoff.") (clock 1)
  appendEvent moved run.runId .runFailed .error "Run failed after stale recovery."
    "quant_factory" recovered.completedAt (clock 2)

def recoverRuns (cutoff : Int) (db : Database) (clock : Nat → Clock) :
    List ExperimentRunRecord → Except LaunchError Database
  | [] => .ok db
  | run :: rest => do
      if ← isStale parseUtcTimestamp cutoff run then
        let recovered ← recoverRun db run (clock rest.length)
        recoverRuns cutoff recovered clock rest
      else recoverRuns cutoff db clock rest

/-- `runs.list(stage=…)`: newest first, then by id. -/
def newestFirst (first second : ExperimentRunRecord) : Bool :=
  second.createdAt < first.createdAt ||
    (first.createdAt = second.createdAt && first.runId ≤ second.runId)

def listRuns (db : Database) (stage : RunStage) : List ExperimentRunRecord :=
  (db.runs.rows.filter fun run => run.stage = stage).mergeSort newestFirst

def recoverStaleFixtureRuns (db : Database) (staleBefore : String) (clock : Nat → Clock) :
    Except LaunchError Database := do
  let cutoff ← parseTimestamp parseUtcTimestamp staleBefore "stale_before"
  recoverRuns parseUtcTimestamp cutoff db clock (listRuns db .fixture)

end Stale

end QuantFactory.RunLifecycle
