import QuantFactory.Launch.Records
import QuantFactory.Library.Outcome
import QuantFactory.Python.Text

/-!
# Repositories of the launch boundary

`persistence/repositories.py` for the tables the launch service writes.  A
repository call reads and returns the database of the open transaction; an
exception leaves through `Except`, and the caller's transaction then rolls back.
-/

set_option autoImplicit false

namespace QuantFactory.Launch

open QuantFactory.Library QuantFactory.Python QuantFactory.Persistence

inductive LaunchErrorKind where
  | launchKeyError | valueError | keyError | typeError | attributeError | launchError
  | conflict | integrity | invocationUnknown | invocationError | assertionError | sqliteIntegrity
  | injected | runtimeError
  deriving DecidableEq, Repr

structure LaunchError where
  kind : LaunchErrorKind
  message : String
  deriving DecidableEq, Repr

def integrityError (message : String) : LaunchError := ⟨.integrity, message⟩
def conflictError (message : String) : LaunchError := ⟨.conflict, message⟩
def valueError (message : String) : LaunchError := ⟨.valueError, message⟩

/-- `utc_now` at the successive places one call reads the clock. -/
abbrev Clock := Nat → String

def runStatusTransitions : RunStatus → List RunStatus
  | .created => [.running, .failed, .cancelled]
  | .running => [.succeeded, .failed, .cancelled]
  | .succeeded => []
  | .failed => []
  | .cancelled => []

def isTerminalRunStatus (status : RunStatus) : Bool :=
  status = .succeeded || status = .failed || status = .cancelled

/-! ## Runs -/

namespace RunRepository

def create (db : Database) (record : ExperimentRunRecord) :
    Except LaunchError (ExperimentRunRecord × Database) :=
  match db.runs.insert record with
  | none => .error ⟨.sqliteIntegrity, "UNIQUE constraint failed: experiment_runs.run_id"⟩
  | some runs => .ok (record, { db with runs := runs })

def setStatus (status : RunStatus) (errorSummary : Option String) (now : String) : RunChange where
  apply run := { run with
    status := status
    startedAt := run.startedAt <|> (if status = .running then some now else none)
    completedAt := if isTerminalRunStatus status then some now else run.completedAt
    errorSummary := errorSummary }
  keeps _ := rfl

def transition (db : Database) (runId : String) (newStatus : RunStatus)
    (errorSummary : Option String) (now : String) :
    Except LaunchError (ExperimentRunRecord × Database) :=
  match db.runs.get runId with
  | none => .error ⟨.keyError, s!"unknown run {runId}"⟩
  | some current =>
      if newStatus ∈ runStatusTransitions current.status then
        let change := setStatus newStatus errorSummary now
        .ok (change.apply current, { db with runs := db.runs.update runId change })
      else .error (valueError
        s!"invalid run-status transition: {current.status.value} -> {newStatus.value}")

def withEnvironment (environmentJson : String) : RunChange where
  apply run := { run with environmentJson := environmentJson }
  keeps _ := rfl

def setEnvironment (db : Database) (runId : String) (environmentJson : String) : Database :=
  { db with runs := db.runs.update runId (withEnvironment environmentJson) }

end RunRepository

/-! ## Events -/

namespace RunEventRepository

def append (db : Database) (runId : String) (eventType : RunEventType) (severity : EventSeverity)
    (message : String) (occurredAt : String) : Except LaunchError Database :=
  let message := strip message
  if message.isEmpty then .error (valueError "operator event message must not be empty")
  else if message.length > 500 then
    .error (valueError "operator event message must be at most 500 characters")
  else if (db.runs.get runId).isNone then
    .error ⟨.sqliteIntegrity, "FOREIGN KEY constraint failed"⟩
  else .ok { db with events := db.events ++
      [{ runId, eventType, occurredAt, severity, source := "quant_factory", message }] }

def listForRun (db : Database) (runId : String) : List RunEventRecord :=
  db.events.filter fun event => event.runId = runId

end RunEventRepository

/-! ## Submissions -/

namespace ResearchRunSubmissionRepository

def get (db : Database) (idempotencyKey : String) : Option ResearchRunSubmissionRecord :=
  db.submissions.get idempotencyKey

def getForRun (db : Database) (runId : String) : Option ResearchRunSubmissionRecord :=
  db.submissions.rows.find? fun row => row.runId = runId

/-- `CHECK (length = 64) CHECK (NOT GLOB '*[^0-9a-f]*')`. -/
def isFingerprint (text : String) : Bool :=
  text.length == 64 && text.toList.all fun c => c.isDigit || ('a' ≤ c && c ≤ 'f')

def claimedRow (idempotencyKey runId configurationId canonicalRequestJson requestFingerprint
    claimedAt : String) : ResearchRunSubmissionRecord where
  idempotencyKey := idempotencyKey
  runId := runId
  configurationId := configurationId
  canonicalRequestJson := canonicalRequestJson
  requestFingerprint := requestFingerprint
  state := .claimed
  dispatcherInstanceId := none
  prefectFlowRunId := none
  prefectApiUrl := none
  claimedAt := claimedAt
  invocationStartedAt := none
  acknowledgedAt := none
  unknownAt := none
  unknownEvidenceReference := none
  resolvedAt := none
  resolutionEvidenceReference := none
  updatedAt := claimedAt
  errorSummary := none

def create (db : Database) (row : ResearchRunSubmissionRecord) :
    Except LaunchError (ResearchRunSubmissionRecord × Database) :=
  if (getForRun db row.runId).isSome then
    .error ⟨.sqliteIntegrity, "UNIQUE constraint failed: research_run_submissions.run_id"⟩
  else if !isFingerprint row.requestFingerprint then
    .error ⟨.sqliteIntegrity, "CHECK constraint failed: request_fingerprint"⟩
  else match db.submissions.insert row with
    | none =>
        .error ⟨.sqliteIntegrity, "UNIQUE constraint failed: research_run_submissions.idempotency_key"⟩
    | some submissions => .ok (row, { db with submissions := submissions })

/-- `UPDATE … SET … WHERE idempotency_key=? AND state IN (…)` and `cursor.rowcount == 1`. -/
def updateWhere (db : Database) (idempotencyKey : String)
    (allowed : List ResearchSubmissionState) (change : SubmissionChange) : Database × Bool :=
  match db.submissions.get idempotencyKey with
  | none => (db, false)
  | some row =>
      if row.state ∈ allowed then
        ({ db with submissions := db.submissions.update idempotencyKey change }, true)
      else (db, false)

/-! The `SET` clause of each update, as a change of the row. -/

def invokingRow (dispatcherInstanceId invocationStartedAt : String) : SubmissionChange where
  apply row := { row with
    state := .invoking
    dispatcherInstanceId := some dispatcherInstanceId
    invocationStartedAt := some invocationStartedAt
    updatedAt := invocationStartedAt }
  keeps _ := rfl

def unknownRow (unknownAt errorSummary : String) (evidenceReference : Option String) :
    SubmissionChange where
  apply row := { row with
    state := .submissionUnknown
    unknownAt := some unknownAt
    updatedAt := unknownAt
    errorSummary := some errorSummary
    unknownEvidenceReference := evidenceReference <|> row.unknownEvidenceReference }
  keeps _ := rfl

def acknowledgedRow (prefectFlowRunId : String) (prefectApiUrl : Option String)
    (acknowledgedAt : String) : SubmissionChange where
  apply row := { row with
    state := .acknowledged
    prefectFlowRunId := some prefectFlowRunId
    prefectApiUrl := prefectApiUrl
    acknowledgedAt := some acknowledgedAt
    updatedAt := acknowledgedAt
    errorSummary := none }
  keeps _ := rfl

def failedRow (resolvedAt errorSummary : String) : SubmissionChange where
  apply row := { row with
    state := .failedBeforeSubmission
    resolvedAt := some resolvedAt
    updatedAt := resolvedAt
    errorSummary := some errorSummary }
  keeps _ := rfl

def abandonedRow (resolvedAt errorSummary evidenceReference : String) : SubmissionChange where
  apply row := { row with
    state := .abandoned
    resolvedAt := some resolvedAt
    updatedAt := resolvedAt
    errorSummary := some errorSummary
    resolutionEvidenceReference := some evidenceReference }
  keeps _ := rfl

def setInvoking (db : Database) (idempotencyKey dispatcherInstanceId invocationStartedAt : String) :
    Database × Bool :=
  updateWhere db idempotencyKey [.claimed]
    (invokingRow dispatcherInstanceId invocationStartedAt)

def setUnknown (db : Database) (idempotencyKey unknownAt errorSummary : String)
    (evidenceReference : Option String) : Database × Bool :=
  updateWhere db idempotencyKey [.invoking]
    (unknownRow unknownAt errorSummary evidenceReference)

def prefectIdTaken (db : Database) (idempotencyKey prefectFlowRunId : String) : Bool :=
  db.submissions.rows.any fun row =>
    row.prefectFlowRunId = some prefectFlowRunId && row.idempotencyKey ≠ idempotencyKey

def setAcknowledged (db : Database) (idempotencyKey prefectFlowRunId : String)
    (prefectApiUrl : Option String) (acknowledgedAt : String) :
    Except LaunchError (Database × Bool) :=
  let updated := updateWhere db idempotencyKey [.invoking, .submissionUnknown]
    (acknowledgedRow prefectFlowRunId prefectApiUrl acknowledgedAt)
  -- UNIQUE (prefect_flow_run_id) is checked on the rows the update touches
  if updated.2 && prefectIdTaken db idempotencyKey prefectFlowRunId then
    .error ⟨.sqliteIntegrity, "UNIQUE constraint failed: research_run_submissions.prefect_flow_run_id"⟩
  else .ok updated

def setFailedBeforeSubmission (db : Database) (idempotencyKey resolvedAt errorSummary : String) :
    Database × Bool :=
  updateWhere db idempotencyKey [.claimed] (failedRow resolvedAt errorSummary)

def setAbandoned (db : Database)
    (idempotencyKey resolvedAt errorSummary evidenceReference : String) : Database × Bool :=
  updateWhere db idempotencyKey [.submissionUnknown]
    (abandonedRow resolvedAt errorSummary evidenceReference)

end ResearchRunSubmissionRepository

end QuantFactory.Launch
