import QuantFactory.Library.Table
import QuantFactory.Persistence.Serialization

/-!
# Launch records

The rows of `persistence/models.py` that the durable research-launch service
reads and writes, and the schema-5 database as its keyed tables.  Times are the
texts `utc_now` returns.
-/

set_option autoImplicit false

namespace QuantFactory.Launch

open QuantFactory.Library

inductive StrategyLifecycle where
  | infrastructureFixture | candidate | rejected | watchlist
  | paperCandidate | liveTestCandidate | paused | retired
  deriving DecidableEq, Repr

inductive RunStage where
  | fixture | screening | oos | walkForward | robustness | monteCarlo
  deriving DecidableEq, Repr

def RunStage.value : RunStage → String
  | .fixture => "fixture"
  | .screening => "screening"
  | .oos => "oos"
  | .walkForward => "walk_forward"
  | .robustness => "robustness"
  | .monteCarlo => "monte_carlo"

inductive RunStatus where
  | created | running | succeeded | failed | cancelled
  deriving DecidableEq, Repr

def RunStatus.value : RunStatus → String
  | .created => "created"
  | .running => "running"
  | .succeeded => "succeeded"
  | .failed => "failed"
  | .cancelled => "cancelled"

inductive ResearchLaunchOperation where
  | runTest | historicalRelaunch | reproduction
  deriving DecidableEq, Repr

def ResearchLaunchOperation.value : ResearchLaunchOperation → String
  | .runTest => "run_test"
  | .historicalRelaunch => "historical_relaunch"
  | .reproduction => "reproduction"

/-- `ResearchLaunchOperation(text)`, which raises `ValueError` on other texts. -/
def ResearchLaunchOperation.ofValue (text : String) : Option ResearchLaunchOperation :=
  [runTest, historicalRelaunch, reproduction].find? fun operation => operation.value == text

inductive ResearchSubmissionState where
  | claimed | invoking | acknowledged | submissionUnknown | failedBeforeSubmission | abandoned
  deriving DecidableEq, Repr

def ResearchSubmissionState.value : ResearchSubmissionState → String
  | .claimed => "claimed"
  | .invoking => "invoking"
  | .acknowledged => "acknowledged"
  | .submissionUnknown => "submission_unknown"
  | .failedBeforeSubmission => "failed_before_submission"
  | .abandoned => "abandoned"

inductive RunEventType where
  | runCreated | runStarted | runSucceeded | runFailed | runCancelled
  | runCancellationRequested | runRetryScheduled | runTimedOut | runStaleRecovered
  | serviceIntegrityError
  deriving DecidableEq, Repr

inductive EventSeverity where
  | info | error
  deriving DecidableEq, Repr

structure StrategyRecord where
  strategyId : String
  strategyVersion : String
  lifecycle : StrategyLifecycle
  active : Bool
  deriving DecidableEq, Repr

structure ConfigurationRecord where
  configurationId : String
  strategyId : String
  strategyVersion : String
  canonicalConfigJson : String
  configHash : String
  deriving DecidableEq, Repr

structure ExperimentRunRecord where
  runId : String
  configurationId : String
  strategyId : String
  strategyVersion : String
  stage : RunStage
  status : RunStatus
  startedAt : Option String
  completedAt : Option String
  errorSummary : Option String
  environmentJson : String
  createdAt : String
  deriving DecidableEq, Repr

structure RunIdentity where
  runId : String
  configurationId : String
  strategyId : String
  strategyVersion : String
  stage : RunStage
  deriving DecidableEq, Repr

def ExperimentRunRecord.identity (run : ExperimentRunRecord) : RunIdentity where
  runId := run.runId
  configurationId := run.configurationId
  strategyId := run.strategyId
  strategyVersion := run.strategyVersion
  stage := run.stage

structure RunEventRecord where
  runId : String
  eventType : RunEventType
  occurredAt : String
  severity : EventSeverity
  source : String
  message : String
  deriving DecidableEq, Repr

structure RunManifestRecord where
  runId : String
  manifestJson : String
  contentChecksum : String
  deriving DecidableEq, Repr

structure ResearchRunSubmissionRecord where
  idempotencyKey : String
  runId : String
  configurationId : String
  canonicalRequestJson : String
  requestFingerprint : String
  state : ResearchSubmissionState
  dispatcherInstanceId : Option String
  prefectFlowRunId : Option String
  prefectApiUrl : Option String
  claimedAt : String
  invocationStartedAt : Option String
  acknowledgedAt : Option String
  unknownAt : Option String
  unknownEvidenceReference : Option String
  resolvedAt : Option String
  resolutionEvidenceReference : Option String
  updatedAt : String
  errorSummary : Option String
  deriving DecidableEq, Repr

structure SubmissionIdentity where
  idempotencyKey : String
  runId : String
  configurationId : String
  canonicalRequestJson : String
  requestFingerprint : String
  claimedAt : String
  deriving DecidableEq, Repr

def ResearchRunSubmissionRecord.identity (submission : ResearchRunSubmissionRecord) :
    SubmissionIdentity where
  idempotencyKey := submission.idempotencyKey
  runId := submission.runId
  configurationId := submission.configurationId
  canonicalRequestJson := submission.canonicalRequestJson
  requestFingerprint := submission.requestFingerprint
  claimedAt := submission.claimedAt

abbrev StrategyTable :=
  Table StrategyRecord (String × String) fun row => (row.strategyId, row.strategyVersion)
abbrev ConfigurationTable := Table ConfigurationRecord String (·.configurationId)
abbrev RunTable := Table ExperimentRunRecord String (·.runId)
abbrev ManifestTable := Table RunManifestRecord String (·.runId)
abbrev SubmissionTable := Table ResearchRunSubmissionRecord String (·.idempotencyKey)

abbrev RunChange := KeyedChange ExperimentRunRecord String (·.runId)
abbrev SubmissionChange := KeyedChange ResearchRunSubmissionRecord String (·.idempotencyKey)

structure Database where
  strategies : StrategyTable
  configurations : ConfigurationTable
  manifests : ManifestTable
  runs : RunTable
  events : List RunEventRecord
  submissions : SubmissionTable

end QuantFactory.Launch
