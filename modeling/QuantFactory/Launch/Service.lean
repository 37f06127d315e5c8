import QuantFactory.Launch.Claims

/-!
# The durable research-launch service

The operations of `DurableResearchLaunchService`.  Each is one
`BEGIN IMMEDIATE` transaction: its body maps the database to a result and the
next database, and `immediate` commits that database or, when the body raised,
leaves the old one.  The argument checks come first and read no row.
-/

set_option autoImplicit false

namespace QuantFactory.Launch

open QuantFactory.Library QuantFactory.Python QuantFactory.Persistence

def immediate {α : Type} (body : Database → Except LaunchError (α × Database)) (db : Database) :
    Except LaunchError α × Database :=
  match body db with
  | .ok (value, committed) => (.ok value, committed)
  | .error error => (.error error, db)

structure ResearchLaunchClaim where
  submission : ResearchRunSubmissionRecord
  run : ExperimentRunRecord
  created : Bool

structure ResearchDispatchDecision where
  submission : ResearchRunSubmissionRecord
  shouldInvoke : Bool

/-- The places at which a claim's transaction can be made to fail. -/
inductive ClaimStep where
  | afterRunCreate | afterRunCreatedEvent | afterSubmissionCreate
  deriving DecidableEq, Repr

def injectClaimFailure (failAt : Option ClaimStep) (step : ClaimStep) : Except LaunchError Unit :=
  raiseIf (failAt = some step) ⟨.injected, "injected claim failure"⟩

def getSubmission (db : Database) (key : String) :
    Except LaunchError ResearchRunSubmissionRecord :=
  orRaise (ResearchRunSubmissionRepository.get db key)
    ⟨.keyError, s!"unknown research launch key: {key}"⟩

section Service
variable {F : Type} [PyFloat F] (runtime : PythonRuntime F) (contract : ResearchLaunchContract)

/-! ## Claim -/

structure ClaimArguments (F : Type) where
  idempotencyKey : String
  request : ResearchLaunchRequest
  environment : Entries F
  newRunId : String
  failAt : Option ClaimStep
  clock : Clock

/-- A key that already has a submission: replay it, or refuse another intent. -/
def replayClaim (db : Database) (existing : ResearchRunSubmissionRecord)
    (request : ResearchLaunchRequest) : Except LaunchError (ResearchLaunchClaim × Database) := do
  let normalized ← normalizeRequest request
  let document ← loadObject runtime existing.canonicalRequestJson
    (integrityError "stored research submission request is invalid JSON")
    ⟨.attributeError, "stored request has no attribute 'get'"⟩
  raiseIf (!isText (document.lookup "operation_kind") normalized.operation.value ||
      !isText (document.lookup "configuration_id") normalized.configurationId ||
      !isOptionalText (document.lookup "source_run_id") normalized.sourceRunId ||
      (!normalized.sourceLineage.isEmpty &&
        !(lineageOf (document.lookup "source_lineage")).any
          (sameLineage normalized.sourceLineage)))
    (conflictError "research launch key is already bound to a different request")
  let run ← validatePersistedClaim runtime contract db existing false false
  .ok ({ submission := existing, run, created := false }, db)

def createdRun (canonical : CanonicalRequest) (runId environmentJson now : String) :
    ExperimentRunRecord where
  runId := runId
  configurationId := canonical.configurationId
  strategyId := canonical.strategyId
  strategyVersion := canonical.strategyVersion
  stage := contract.stage
  status := .created
  startedAt := none
  completedAt := none
  errorSummary := none
  environmentJson := environmentJson
  createdAt := now

def createClaim (db : Database) (key : String) (environmentJson : String)
    (arguments : ClaimArguments F) : Except LaunchError (ResearchLaunchClaim × Database) := do
  let canonical ← canonicalRequestForConfiguration runtime contract db arguments.request
  let runId ← validateRunId arguments.newRunId
  let environment ← orRaise (runtime.jsonLoads environmentJson) (valueError "environment JSON")
  let storedEnvironment ← canonicalJsonOrValueError runtime environment
  let (run, db) ← RunRepository.create db
    (createdRun contract canonical runId storedEnvironment (arguments.clock 1))
  injectClaimFailure arguments.failAt .afterRunCreate
  let db ← RunEventRepository.append db run.runId .runCreated .info
    contract.createdEventMessage run.createdAt
  injectClaimFailure arguments.failAt .afterRunCreatedEvent
  let (submission, db) ← ResearchRunSubmissionRepository.create db
    (ResearchRunSubmissionRepository.claimedRow key run.runId run.configurationId
      canonical.serialized canonical.fingerprint (arguments.clock 0))
  injectClaimFailure arguments.failAt .afterSubmissionCreate
  .ok ({ submission, run, created := true }, db)

def claimBody (arguments : ClaimArguments F) (db : Database) :
    Except LaunchError (ResearchLaunchClaim × Database) := do
  let key ← validateLaunchKey arguments.idempotencyKey
  let environmentJson ← canonicalJsonOrValueError runtime (.dict arguments.environment)
  match ResearchRunSubmissionRepository.get db key with
  | some existing => replayClaim runtime contract db existing arguments.request
  | none => createClaim runtime contract db key environmentJson arguments

def claim (arguments : ClaimArguments F) : Database → Except LaunchError ResearchLaunchClaim × Database :=
  immediate (claimBody runtime contract arguments)

/-! ## Dispatch marker -/

def checkLaunchable (db : Database) (existing : ResearchRunSubmissionRecord) :
    Except LaunchError Unit :=
  if existing.state = .claimed then
    (validatePersistedClaim runtime contract db existing true true).map fun _ => ()
  else .ok ()

def beginDispatchBody (idempotencyKey dispatcherInstanceId : String) (clock : Clock)
    (db : Database) : Except LaunchError (ResearchDispatchDecision × Database) := do
  let key ← validateLaunchKey idempotencyKey
  let dispatcher ← validateDispatcherId dispatcherInstanceId
  let existing ← getSubmission db key
  checkLaunchable runtime contract db existing
  let (db, won) := ResearchRunSubmissionRepository.setInvoking db key dispatcher (clock 0)
  let current ← getSubmission db key
  .ok ({ submission := current, shouldInvoke := won }, db)

def beginDispatch (idempotencyKey dispatcherInstanceId : String) (clock : Clock) :
    Database → Except LaunchError ResearchDispatchDecision × Database :=
  immediate (beginDispatchBody runtime contract idempotencyKey dispatcherInstanceId clock)

/-! ## Binding -/

structure BindArguments where
  idempotencyKey : String
  runId : String
  configurationId : String
  canonicalRequestJson : String
  requestFingerprint : String
  prefectFlowRunId : String
  prefectApiUrl : Option String
  clock : Clock

def bindingMismatch (submission : ResearchRunSubmissionRecord)
    (runId configurationId canonicalRequestJson fingerprint : String) : Bool :=
  submission.runId ≠ runId || submission.configurationId ≠ configurationId ||
    submission.canonicalRequestJson ≠ canonicalRequestJson ||
    submission.requestFingerprint ≠ fingerprint ||
    requestFingerprint runtime canonicalRequestJson ≠ fingerprint

def appendIntegrityEvent (db : Database) (submission : ResearchRunSubmissionRecord)
    (message now : String) : Except LaunchError Database :=
  if (RunEventRepository.listForRun db submission.runId).any fun event =>
      event.eventType = .serviceIntegrityError && event.message = message then .ok db
  else RunEventRepository.append db submission.runId .serviceIntegrityError .error message now

/-- What a binding transaction commits: the row it read or wrote, and the
integrity error raised once the transaction is over. -/
abbrev BindOutcome := ResearchRunSubmissionRecord × Option LaunchError

def refuseBinding (db : Database) (submission : ResearchRunSubmissionRecord)
    (eventMessage errorMessage now : String) : Except LaunchError (BindOutcome × Database) := do
  let db ← appendIntegrityEvent db submission eventMessage now
  .ok ((submission, some (integrityError errorMessage)), db)

/-- `stored_prefect_id in {None, prefect_flow_run_id}`; a list or a mapping
cannot be hashed, so looking it up raises `TypeError`. -/
def compatiblePrefectId (stored : Option (PyValue F)) (prefectFlowRunId : String) :
    Except LaunchError Bool :=
  match stored with
  | some (.list _) => .error ⟨.typeError, "unhashable type: 'list'"⟩
  | some (.dict _) => .error ⟨.typeError, "unhashable type: 'dict'"⟩
  | none => .ok true
  | some .none => .ok true
  | some (.str text) => .ok (text = prefectFlowRunId)
  | some _ => .ok false

def boundEnvironment (environment : Entries F) (prefectFlowRunId : String)
    (prefectApiUrl : Option String) : Entries F :=
  let updated := PyValue.setEntry "prefect_reference_source" (.str "durable_research_claim")
    (PyValue.setEntry "prefect_flow_run_id" (.str prefectFlowRunId)
      (PyValue.setEntry "prefect_identity_storage" (.str "technical_run_environment") environment))
  match prefectApiUrl with
  | none => updated
  | some url => PyValue.setEntry "prefect_api_url" (.str url) updated

def acknowledge (db : Database) (key runId prefectFlowRunId : String)
    (prefectApiUrl : Option String) (environment : Entries F) (clock : Clock) :
    Except LaunchError (BindOutcome × Database) := do
  let environmentJson ← canonicalJsonOrValueError runtime
    (.dict (boundEnvironment environment prefectFlowRunId prefectApiUrl))
  let db := RunRepository.setEnvironment db runId environmentJson
  let (db, changed) ← ResearchRunSubmissionRepository.setAcknowledged db key prefectFlowRunId
    prefectApiUrl (clock 0)
  raiseIf (!changed) (integrityError "research submission changed during acknowledgement")
  let (running, db) ← RunRepository.transition db runId .running none (clock 1)
  let db ← RunEventRepository.append db runId .runStarted .info contract.startedEventMessage
    (running.startedAt.getD (clock 2))
  let current ← getSubmission db key
  .ok ((current, none), db)

def bindUnacknowledged (db : Database) (submission : ResearchRunSubmissionRecord)
    (runId prefectFlowRunId : String) (prefectApiUrl : Option String) (clock : Clock) :
    Except LaunchError (BindOutcome × Database) :=
  match db.runs.get runId with
  | none => refuseBinding db submission
      "Research submission run was not Created at acknowledgement."
      "research claim run is not in Created state" (clock 0)
  | some run =>
    if run.status ≠ .created then
      refuseBinding db submission "Research submission run was not Created at acknowledgement."
        "research claim run is not in Created state" (clock 0)
    else match runtime.jsonLoads run.environmentJson with
      | some (.dict environment) => do
          let compatible ← compatiblePrefectId (environment.lookup "prefect_flow_run_id")
            prefectFlowRunId
          if !compatible then
            refuseBinding db submission
              "Research submission run had a conflicting Prefect identity."
              "research claim run has a different Prefect identity" (clock 0)
          else
            acknowledge runtime contract db submission.idempotencyKey runId prefectFlowRunId
              prefectApiUrl environment clock
      | _ => refuseBinding db submission "Research submission run environment was invalid."
          "research claim run environment is invalid" (clock 0)

def bindValidated (db : Database) (submission : ResearchRunSubmissionRecord)
    (mismatch : Bool) (runId prefectFlowRunId : String) (prefectApiUrl : Option String)
    (clock : Clock) : Except LaunchError (BindOutcome × Database) :=
  if mismatch || ResearchRunSubmissionRepository.prefectIdTaken db submission.idempotencyKey
      prefectFlowRunId then
    refuseBinding db submission
      "Research submission identity did not match the Prefect acknowledgement."
      "Prefect acknowledgement did not match the durable research claim" (clock 0)
  else if submission.state = .acknowledged then
    if submission.prefectFlowRunId ≠ some prefectFlowRunId ||
        submission.prefectApiUrl ≠ prefectApiUrl then
      refuseBinding db submission
        "Research submission received a conflicting Prefect acknowledgement."
        "research launch already has a different Prefect identity" (clock 0)
    else .ok ((submission, none), db)
  else if submission.state ≠ .invoking ∧ submission.state ≠ .submissionUnknown then
    refuseBinding db submission
      "Research submission acknowledgement arrived in an invalid state."
      s!"cannot acknowledge a {submission.state.value} research submission" (clock 0)
  else bindUnacknowledged runtime contract db submission runId prefectFlowRunId prefectApiUrl clock

def bindBody (arguments : BindArguments) (db : Database) :
    Except LaunchError (BindOutcome × Database) := do
  let key ← validateLaunchKey arguments.idempotencyKey
  let runId ← validateRunId arguments.runId
  let configurationId ← boundedText arguments.configurationId "configuration ID" 200
  let prefectFlowRunId ← boundedText arguments.prefectFlowRunId "Prefect flow-run ID" 200
  let prefectApiUrl ← optionalBoundedText arguments.prefectApiUrl "Prefect API URL" 2048
  let submission ← getSubmission db key
  match validatePersistedClaim runtime contract db submission
      (submission.state ≠ .acknowledged) false with
  | .error error =>
      -- only `ResearchLaunchIntegrityError` is caught; it is raised after the commit
      if error.kind = .integrity then
        if (db.runs.get submission.runId).isSome then do
          let db ← appendIntegrityEvent db submission
            "Research submission persisted identity failed acknowledgement validation."
            (arguments.clock 0)
          .ok ((submission, some error), db)
        else .ok ((submission, some error), db)
      else .error error
  | .ok _ =>
      bindValidated runtime contract db submission
        (bindingMismatch runtime submission runId configurationId arguments.canonicalRequestJson
          arguments.requestFingerprint)
        runId prefectFlowRunId prefectApiUrl arguments.clock

def raiseAfterCommit : Except LaunchError BindOutcome × Database →
    Except LaunchError ResearchRunSubmissionRecord × Database
  | (.ok (_, some error), db) => (.error error, db)
  | (.ok (current, none), db) => (.ok current, db)
  | (.error error, db) => (.error error, db)

def bindPrefectIdentity (arguments : BindArguments) (db : Database) :
    Except LaunchError ResearchRunSubmissionRecord × Database :=
  raiseAfterCommit (immediate (bindBody runtime contract arguments) db)

/-! ## Ambiguity and recovery -/

def defaultUnknownSummary : String :=
  "Prefect submission acknowledgement could not be confirmed."

def markInvocationUnknownBody (idempotencyKey dispatcherInstanceId errorSummary : String)
    (clock : Clock) (db : Database) :
    Except LaunchError (ResearchRunSubmissionRecord × Database) := do
  let key ← validateLaunchKey idempotencyKey
  let dispatcher ← validateDispatcherId dispatcherInstanceId
  let summary ← boundedText errorSummary "error summary" 500
  let submission ← getSubmission db key
  if submission.state = .submissionUnknown then
    if submission.dispatcherInstanceId ≠ some dispatcher ||
        submission.errorSummary ≠ some summary ||
        submission.unknownEvidenceReference.isSome then
      .error (conflictError "unknown-submission replay does not match the recorded ambiguity")
    else .ok (submission, db)
  else if submission.state = .acknowledged then .ok (submission, db)
  else if submission.state ≠ .invoking then
    .error (conflictError s!"cannot mark a {submission.state.value} submission unknown")
  else if submission.dispatcherInstanceId ≠ some dispatcher then
    .error (conflictError "only the invocation-marker winner may report submission ambiguity")
  else
    let (db, changed) :=
      ResearchRunSubmissionRepository.setUnknown db key (clock 0) summary none
    raiseIf (!changed)
      (integrityError "research submission changed while recording ambiguity")
    let current ← getSubmission db key
    .ok (current, db)

def markInvocationUnknown (idempotencyKey dispatcherInstanceId errorSummary : String)
    (clock : Clock) : Database → Except LaunchError ResearchRunSubmissionRecord × Database :=
  immediate (markInvocationUnknownBody idempotencyKey dispatcherInstanceId errorSummary clock)

def recoverInvokingAfterProcessExitBody
    (idempotencyKey departedDispatcherInstanceId processExitEvidenceReference : String)
    (clock : Clock) (db : Database) :
    Except LaunchError (ResearchRunSubmissionRecord × Database) := do
  let key ← validateLaunchKey idempotencyKey
  let departed ← validateDispatcherId departedDispatcherInstanceId
  let evidence ← boundedText processExitEvidenceReference "process-exit evidence reference" 500
  let submission ← getSubmission db key
  if submission.state = .submissionUnknown then
    if submission.dispatcherInstanceId ≠ some departed ||
        submission.unknownEvidenceReference ≠ some evidence then
      .error (conflictError "exit-barrier replay does not match the recorded recovery evidence")
    else .ok (submission, db)
  else if submission.state ≠ .invoking then
    .error (conflictError s!"cannot recover a {submission.state.value} submission as unknown")
  else if submission.dispatcherInstanceId ≠ some departed then
    .error (conflictError "exit evidence does not name the recorded dispatcher generation")
  else
    let (db, changed) := ResearchRunSubmissionRepository.setUnknown db key (clock 0)
      "The recorded dispatcher exited before Prefect acknowledgement could be confirmed."
      (some evidence)
    raiseIf (!changed)
      (integrityError "research submission changed during exit-barrier recovery")
    let current ← getSubmission db key
    .ok (current, db)

def recoverInvokingAfterProcessExit
    (idempotencyKey departedDispatcherInstanceId processExitEvidenceReference : String)
    (clock : Clock) : Database → Except LaunchError ResearchRunSubmissionRecord × Database :=
  immediate (recoverInvokingAfterProcessExitBody idempotencyKey departedDispatcherInstanceId
    processExitEvidenceReference clock)

/-! ## Terminal resolutions -/

def failRun (db : Database) (key runId summary message : String) (clock : Clock) :
    Except LaunchError (ResearchRunSubmissionRecord × Database) := do
  let (failed, db) ← RunRepository.transition db runId .failed (some summary) (clock 1)
  let db ← RunEventRepository.append db runId .runFailed .error message
    (failed.completedAt.getD (clock 2))
  let current ← getSubmission db key
  .ok (current, db)

def failBeforeSubmissionBody (idempotencyKey errorSummary : String) (clock : Clock)
    (db : Database) : Except LaunchError (ResearchRunSubmissionRecord × Database) := do
  let key ← validateLaunchKey idempotencyKey
  let summary ← boundedText errorSummary "error summary" 500
  let submission ← getSubmission db key
  if submission.state = .failedBeforeSubmission then
    if submission.errorSummary ≠ some summary then
      .error (conflictError "terminal research submission has different failure evidence")
    else .ok (submission, db)
  else if submission.state ≠ .claimed then
    .error (conflictError s!"cannot fail a {submission.state.value} submission before invocation")
  else do
    let run ← validatePersistedClaim runtime contract db submission true false
    let (db, changed) := ResearchRunSubmissionRepository.setFailedBeforeSubmission db key
      (clock 0) summary
    raiseIf (!changed)
      (integrityError "research submission changed during pre-submission failure")
    failRun db key run.runId summary "Run failed before any Prefect submission occurred." clock

def failBeforeSubmission (idempotencyKey errorSummary : String) (clock : Clock) :
    Database → Except LaunchError ResearchRunSubmissionRecord × Database :=
  immediate (failBeforeSubmissionBody runtime contract idempotencyKey errorSummary clock)

def abandonUnknownBody (idempotencyKey resolutionEvidenceReference errorSummary : String)
    (clock : Clock) (db : Database) :
    Except LaunchError (ResearchRunSubmissionRecord × Database) := do
  let key ← validateLaunchKey idempotencyKey
  let evidence ← boundedText resolutionEvidenceReference "resolution evidence reference" 500
  let summary ← boundedText errorSummary "error summary" 500
  let submission ← getSubmission db key
  if submission.state = .abandoned then
    if submission.resolutionEvidenceReference ≠ some evidence ||
        submission.errorSummary ≠ some summary then
      .error (conflictError "terminal research submission has different resolution evidence")
    else .ok (submission, db)
  else if submission.state ≠ .submissionUnknown then
    .error (conflictError s!"cannot abandon a {submission.state.value} submission")
  else do
    let run ← validatePersistedClaim runtime contract db submission true false
    let (db, changed) := ResearchRunSubmissionRepository.setAbandoned db key (clock 0) summary
      evidence
    raiseIf (!changed) (integrityError "research submission changed during abandonment")
    failRun db key run.runId summary
      "Unresolved submission was abandoned without accepted result evidence." clock

def abandonUnknown (idempotencyKey resolutionEvidenceReference errorSummary : String)
    (clock : Clock) : Database → Except LaunchError ResearchRunSubmissionRecord × Database :=
  immediate (abandonUnknownBody runtime contract idempotencyKey resolutionEvidenceReference
    errorSummary clock)

/-! ## Operator entry points

Both read the submission of a run first and then run one transaction; `seen` is
the database that read saw. -/

def submissionForRun (seen : Database) (runId : String) :
    Except LaunchError ResearchRunSubmissionRecord := do
  let runId ← validateRunId runId
  orRaise (ResearchRunSubmissionRepository.getForRun seen runId)
    ⟨.keyError, s!"run {runId} has no durable research submission"⟩

/-- The persisted request is bound verbatim; only the Prefect identity is the caller's. -/
def reconciliationArguments (submission : ResearchRunSubmissionRecord)
    (prefectFlowRunId : String) (prefectApiUrl : Option String) (clock : Clock) :
    BindArguments where
  idempotencyKey := submission.idempotencyKey
  runId := submission.runId
  configurationId := submission.configurationId
  canonicalRequestJson := submission.canonicalRequestJson
  requestFingerprint := submission.requestFingerprint
  prefectFlowRunId := prefectFlowRunId
  prefectApiUrl := prefectApiUrl
  clock := clock

def reconcileUnknownForRun (seen : Database) (runId prefectFlowRunId : String)
    (prefectApiUrl : Option String) (clock : Clock) (db : Database) :
    Except LaunchError ResearchRunSubmissionRecord × Database :=
  match submissionForRun seen runId with
  | .error error => (.error error, db)
  | .ok submission =>
      if submission.state = .submissionUnknown ∨ submission.state = .acknowledged then
        bindPrefectIdentity runtime contract
          (reconciliationArguments submission prefectFlowRunId prefectApiUrl clock) db
      else
        (.error (conflictError s!"cannot reconcile a {submission.state.value} submission"), db)

def abandonUnknownForRun (seen : Database) (runId resolutionEvidenceReference errorSummary : String)
    (clock : Clock) (db : Database) : Except LaunchError ResearchRunSubmissionRecord × Database :=
  match submissionForRun seen runId with
  | .error error => (.error error, db)
  | .ok submission =>
      abandonUnknown runtime contract submission.idempotencyKey resolutionEvidenceReference
        errorSummary clock db

end Service

end QuantFactory.Launch
