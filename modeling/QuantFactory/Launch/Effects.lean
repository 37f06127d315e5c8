import QuantFactory.Launch.Service

/-!
# What a committed operation can do

`LaunchEffect db next` lists every way in which a committed launch operation
changes the database; each operation is shown once to have one of these effects,
and the invariants are derived from the effects alone.
-/

set_option autoImplicit false

namespace QuantFactory.Launch

open QuantFactory.Library QuantFactory.Python QuantFactory.Persistence

inductive MarkerMove : ResearchSubmissionState → ResearchSubmissionState → Prop where
  | invoke : MarkerMove .claimed .invoking
  | lose : MarkerMove .invoking .submissionUnknown

inductive Settlement : ResearchSubmissionState → ResearchSubmissionState → RunStatus →
    RunEventType → Prop where
  | acknowledgeInvoking : Settlement .invoking .acknowledged .running .runStarted
  | acknowledgeUnknown : Settlement .submissionUnknown .acknowledged .running .runStarted
  | failBefore : Settlement .claimed .failedBeforeSubmission .failed .runFailed
  | abandon : Settlement .submissionUnknown .abandoned .failed .runFailed

inductive LaunchEffect (db : Database) : Database → Prop where
  | unchanged : LaunchEffect db db
  | logged (event : RunEventRecord) (kind : event.eventType = .serviceIntegrityError)
      (known : (db.runs.get event.runId).isSome) :
      LaunchEffect db { db with events := db.events ++ [event] }
  | created (run : ExperimentRunRecord) (row : ResearchRunSubmissionRecord)
      (event : RunEventRecord) (runs : RunTable) (submissions : SubmissionTable)
      (runCreated : run.status = .created) (rowClaimed : row.state = .claimed)
      (noPrefect : row.prefectFlowRunId = none) (rowRun : row.runId = run.runId)
      (eventRun : event.runId = run.runId) (eventKind : event.eventType = .runCreated)
      (runInserted : db.runs.insert run = some runs)
      (runUnclaimed : ∀ other ∈ db.submissions.rows, other.runId ≠ run.runId)
      (rowInserted : db.submissions.insert row = some submissions) :
      LaunchEffect db { db with
        runs := runs, submissions := submissions, events := db.events ++ [event] }
  | moved (row : ResearchRunSubmissionRecord) (change : SubmissionChange)
      (found : db.submissions.get row.idempotencyKey = some row)
      (sameIdentity : (change.apply row).identity = row.identity)
      (samePrefect : (change.apply row).prefectFlowRunId = row.prefectFlowRunId)
      (move : MarkerMove row.state (change.apply row).state) :
      LaunchEffect db { db with
        submissions := db.submissions.update row.idempotencyKey change }
  | settled (row : ResearchRunSubmissionRecord) (run : ExperimentRunRecord)
      (event : RunEventRecord) (change : SubmissionChange) (changeRun : RunChange)
      (found : db.submissions.get row.idempotencyKey = some row)
      (runFound : db.runs.get row.runId = some run) (runCreated : run.status = .created)
      (sameIdentity : (change.apply row).identity = row.identity)
      (prefect : (change.apply row).state = .acknowledged →
        ∃ id, (change.apply row).prefectFlowRunId = some id ∧
          ResearchRunSubmissionRepository.prefectIdTaken db row.idempotencyKey id = false)
      (unbound : (change.apply row).state ≠ .acknowledged →
        (change.apply row).prefectFlowRunId = row.prefectFlowRunId)
      (eventRun : event.runId = row.runId)
      (settles : Settlement row.state (change.apply row).state (changeRun.apply run).status
        event.eventType)
      (sameRun : (changeRun.apply run).identity = run.identity) :
      LaunchEffect db { db with
        submissions := db.submissions.update row.idempotencyKey change
        runs := db.runs.update row.runId changeRun
        events := db.events ++ [event] }

/-! ## Repository calls -/

theorem getSubmission_eq_ok {db : Database} {key : String}
    {row : ResearchRunSubmissionRecord} :
    getSubmission db key = .ok row ↔ db.submissions.get key = some row := by
  simp [getSubmission, ResearchRunSubmissionRepository.get]

theorem append_eq_ok {db next : Database} {runId message occurredAt : String}
    {eventType : RunEventType} {severity : EventSeverity}
    (appended : RunEventRepository.append db runId eventType severity message occurredAt =
      .ok next) :
    (db.runs.get runId).isSome ∧ ∃ event : RunEventRecord, event.runId = runId ∧
      event.eventType = eventType ∧ next = { db with events := db.events ++ [event] } := by
  unfold RunEventRepository.append at appended
  simp only [guard_eq_ok, Except.ok.injEq] at appended
  obtain ⟨_, _, known, rfl⟩ := appended
  refine ⟨?_, _, rfl, rfl, rfl⟩
  simpa [Option.isNone_iff_eq_none, Option.isSome_iff_ne_none] using known

theorem updateWhere_of_allowed {db : Database} {row : ResearchRunSubmissionRecord}
    {key : String} {allowed : List ResearchSubmissionState}
    {change : SubmissionChange}
    (found : db.submissions.get key = some row) (isAllowed : row.state ∈ allowed) :
    ResearchRunSubmissionRepository.updateWhere db key allowed change =
      ({ db with submissions := db.submissions.update key change }, true) := by
  simp [ResearchRunSubmissionRepository.updateWhere, found, isAllowed]

theorem updateWhere_of_refused {db : Database} {row : ResearchRunSubmissionRecord}
    {key : String} {allowed : List ResearchSubmissionState}
    {change : SubmissionChange}
    (found : db.submissions.get key = some row) (refused : row.state ∉ allowed) :
    ResearchRunSubmissionRepository.updateWhere db key allowed change = (db, false) := by
  simp [ResearchRunSubmissionRepository.updateWhere, found, refused]

theorem transition_eq_ok {db next : Database} {runId now : String} {status : RunStatus}
    {summary : Option String} {result : ExperimentRunRecord}
    (moved : RunRepository.transition db runId status summary now = .ok (result, next)) :
    ∃ run, db.runs.get runId = some run ∧ status ∈ runStatusTransitions run.status ∧
      result = (RunRepository.setStatus status summary now).apply run ∧
      next = { db with
        runs := db.runs.update runId (RunRepository.setStatus status summary now) } := by
  unfold RunRepository.transition at moved
  cases found : db.runs.get runId with
  | none => simp [found] at moved
  | some run =>
      simp only [found] at moved
      by_cases legal : status ∈ runStatusTransitions run.status
      · rw [if_pos legal, Except.ok.injEq, Prod.mk.injEq] at moved
        exact ⟨run, rfl, legal, moved.1.symm, moved.2.symm⟩
      · simp [legal] at moved

section Service
variable {F : Type} [PyFloat F] (runtime : PythonRuntime F) (contract : ResearchLaunchContract)

theorem validatePersistedClaim_run {db : Database} {submission : ResearchRunSubmissionRecord}
    {created launchable : Bool} {run : ExperimentRunRecord}
    (valid : validatePersistedClaim runtime contract db submission created launchable =
      .ok run) :
    db.runs.get submission.runId = some run ∧ (created = true → run.status = .created) := by
  unfold validatePersistedClaim at valid
  simp only [bind_eq_ok, raiseIf_eq_ok, orRaise_eq_ok] at valid
  obtain ⟨_, _, _, _, _, _, _, _, _, _, _, _, _, _, _, _, _, _, _, _, actual, found, _, _, _,
    status, _, _, _, _, _, _, _, _, _, _, _, _, result⟩ := valid
  cases Except.ok.inj result
  refine ⟨found, fun required => ?_⟩
  simpa [required] using status

theorem appendIntegrityEvent_effect {db next : Database}
    {submission : ResearchRunSubmissionRecord} {message now : String}
    (appended : appendIntegrityEvent db submission message now = .ok next) :
    LaunchEffect db next := by
  unfold appendIntegrityEvent at appended
  split at appended
  · cases Except.ok.inj appended
    exact .unchanged
  · obtain ⟨known, event, eventRun, kind, rfl⟩ := append_eq_ok appended
    exact .logged event kind (by rw [eventRun]; exact known)

theorem refuseBinding_effect {db next : Database} {submission : ResearchRunSubmissionRecord}
    {eventMessage errorMessage now : String} {outcome : BindOutcome}
    (refused : refuseBinding db submission eventMessage errorMessage now = .ok (outcome, next)) :
    LaunchEffect db next := by
  unfold refuseBinding at refused
  obtain ⟨logged, appended, result⟩ := bind_eq_ok.mp refused
  cases Except.ok.inj result
  exact appendIntegrityEvent_effect appended

/-! ## Claim -/

theorem replayClaim_unchanged {db next : Database} {existing : ResearchRunSubmissionRecord}
    {request : ResearchLaunchRequest} {result : ResearchLaunchClaim}
    (replayed : replayClaim runtime contract db existing request = .ok (result, next)) :
    next = db ∧ result.submission = existing ∧ result.created = false := by
  unfold replayClaim at replayed
  simp only [bind_eq_ok] at replayed
  obtain ⟨_, _, _, _, _, _, _, _, result⟩ := replayed
  cases Except.ok.inj result
  exact ⟨rfl, rfl, rfl⟩

theorem runCreate_eq_ok {db next : Database} {run created : ExperimentRunRecord}
    (inserted : RunRepository.create db run = .ok (created, next)) :
    created = run ∧ ∃ runs, db.runs.insert run = some runs ∧ next = { db with runs := runs } := by
  unfold RunRepository.create at inserted
  cases outcome : db.runs.insert run with
  | none => simp [outcome] at inserted
  | some runs =>
      simp only [outcome, Except.ok.injEq, Prod.mk.injEq] at inserted
      exact ⟨inserted.1.symm, runs, rfl, inserted.2.symm⟩

theorem submissionCreate_eq_ok {db next : Database} {row created : ResearchRunSubmissionRecord}
    (inserted : ResearchRunSubmissionRepository.create db row = .ok (created, next)) :
    created = row ∧ (∀ other ∈ db.submissions.rows, other.runId ≠ row.runId) ∧
      ∃ submissions, db.submissions.insert row = some submissions ∧
        next = { db with submissions := submissions } := by
  unfold ResearchRunSubmissionRepository.create at inserted
  simp only [guard_eq_ok] at inserted
  obtain ⟨runFree, _, inserted⟩ := inserted
  have free : ∀ other ∈ db.submissions.rows, other.runId ≠ row.runId := by
    simpa [ResearchRunSubmissionRepository.getForRun] using runFree
  cases outcome : db.submissions.insert row with
  | none => simp [outcome] at inserted
  | some submissions =>
      simp only [outcome, Except.ok.injEq, Prod.mk.injEq] at inserted
      exact ⟨inserted.1.symm, free, submissions, rfl, inserted.2.symm⟩

theorem createClaim_effect {db next : Database} {key environmentJson : String}
    {arguments : ClaimArguments F} {result : ResearchLaunchClaim}
    (run : createClaim runtime contract db key environmentJson arguments = .ok (result, next)) :
    LaunchEffect db next := by
  unfold createClaim at run
  simp only [bind_eq_ok, orRaise_eq_ok, Prod.exists] at run
  obtain ⟨canonical, _, runId, _, environment, _, stored, _, created, afterRun, runCreated, _, _,
    afterEvent, appended, _, _, submission, afterRow, rowCreated, _, _, finished⟩ := run
  cases Except.ok.inj finished
  obtain ⟨rfl, runs, runInserted, rfl⟩ := runCreate_eq_ok runCreated
  obtain ⟨_, event, eventRun, eventKind, rfl⟩ := append_eq_ok appended
  obtain ⟨rfl, runUnclaimed, submissions, rowInserted, rfl⟩ := submissionCreate_eq_ok rowCreated
  exact .created _ _ event runs submissions rfl rfl rfl rfl eventRun eventKind runInserted
    runUnclaimed rowInserted

theorem claimBody_effect {db next : Database} {arguments : ClaimArguments F}
    {result : ResearchLaunchClaim}
    (run : claimBody runtime contract arguments db = .ok (result, next)) :
    LaunchEffect db next := by
  unfold claimBody at run
  simp only [bind_eq_ok] at run
  obtain ⟨key, _, environmentJson, _, run⟩ := run
  cases found : ResearchRunSubmissionRepository.get db key with
  | none =>
      rw [found] at run
      exact createClaim_effect runtime contract run
  | some existing =>
      rw [found] at run
      obtain ⟨rfl, _⟩ := replayClaim_unchanged runtime contract run
      exact .unchanged

/-! ## Dispatch marker -/

/-- The marker is won exactly on a claimed row, which it moves to Invoking. -/
theorem beginDispatchBody_cases {db next : Database} {key dispatcher : String} {clock : Clock}
    {decision : ResearchDispatchDecision}
    (run : beginDispatchBody runtime contract key dispatcher clock db = .ok (decision, next)) :
    ∃ row, db.submissions.get key = some row ∧
      ((row.state = .claimed ∧ decision.shouldInvoke = true ∧ LaunchEffect db next ∧
          next.submissions.get key = some decision.submission ∧
          decision.submission.state = .invoking ∧
          decision.submission.dispatcherInstanceId = some dispatcher) ∨
        (row.state ≠ .claimed ∧ decision.shouldInvoke = false ∧ next = db)) := by
  unfold beginDispatchBody at run
  simp only [bind_eq_ok, getSubmission_eq_ok] at run
  obtain ⟨key', keyValid, dispatcher', dispatcherValid, row, found, _, _, current, foundAfter,
    finished⟩ := run
  cases Except.ok.inj finished
  have sameKey : key' = key := by
    unfold validateLaunchKey at keyValid
    split at keyValid
    · exact (Except.ok.inj keyValid).symm
    · cases keyValid
  have sameDispatcher : dispatcher' = dispatcher := by
    unfold validateDispatcherId at dispatcherValid
    simp only [guard_eq_ok] at dispatcherValid
    have inner := dispatcherValid.2
    split at inner
    · exact (Except.ok.inj inner).symm
    · cases inner
  subst sameKey sameDispatcher
  refine ⟨row, found, ?_⟩
  have rowKey : row.idempotencyKey = key' := Table.get_some_key found
  by_cases claimed : row.state = .claimed
  · left
    have allowed : row.state ∈ [ResearchSubmissionState.claimed] := by simp [claimed]
    unfold ResearchRunSubmissionRepository.setInvoking at foundAfter ⊢
    rw [updateWhere_of_allowed found allowed] at foundAfter ⊢
    rw [Table.get_update_self, found] at foundAfter
    obtain rfl := Option.some.inj foundAfter
    refine ⟨claimed, rfl, ?_, by rw [Table.get_update_self, found]; rfl, rfl, rfl⟩
    subst rowKey
    exact .moved row (ResearchRunSubmissionRepository.invokingRow dispatcher' (clock 0)) found
      rfl rfl (by rw [claimed]; exact .invoke)
  · right
    unfold ResearchRunSubmissionRepository.setInvoking
    rw [updateWhere_of_refused found (by simpa using claimed)]
    exact ⟨claimed, rfl, rfl⟩

/-! ## Binding -/

theorem acknowledge_effect {db next : Database} {submission : ResearchRunSubmissionRecord}
    {run : ExperimentRunRecord} {prefectFlowRunId : String} {prefectApiUrl : Option String}
    {environment : Entries F} {clock : Clock} {outcome : BindOutcome}
    (found : db.submissions.get submission.idempotencyKey = some submission)
    (runFound : db.runs.get submission.runId = some run) (runCreated : run.status = .created)
    (pending : submission.state = .invoking ∨ submission.state = .submissionUnknown)
    (acknowledged : acknowledge runtime contract db submission.idempotencyKey submission.runId
      prefectFlowRunId prefectApiUrl environment clock = .ok (outcome, next)) :
    LaunchEffect db next := by
  unfold acknowledge at acknowledged
  simp only [bind_eq_ok, Prod.exists] at acknowledged
  obtain ⟨environmentJson, _, afterRow, changed, rowUpdated, _, _, running, afterRun, transitioned,
    afterEvent, appended, _, _, finished⟩ := acknowledged
  cases Except.ok.inj finished
  unfold ResearchRunSubmissionRepository.setAcknowledged at rowUpdated
  have stored : (RunRepository.setEnvironment db submission.runId environmentJson).submissions.get
      submission.idempotencyKey = some submission := found
  rw [updateWhere_of_allowed stored (by rcases pending with h | h <;> simp [h])] at rowUpdated
  simp only [Bool.true_and] at rowUpdated
  obtain ⟨untaken, rowUpdated⟩ := guard_eq_ok.mp rowUpdated
  cases Except.ok.inj rowUpdated
  obtain ⟨run', found', _, rfl, rfl⟩ := transition_eq_ok transitioned
  obtain ⟨_, event, eventRun, eventKind, rfl⟩ := append_eq_ok appended
  simp only [RunRepository.setEnvironment]
  rw [Table.update_update]
  refine .settled submission run event
    (ResearchRunSubmissionRepository.acknowledgedRow prefectFlowRunId prefectApiUrl (clock 0))
    ((RunRepository.withEnvironment environmentJson).andThen
      (RunRepository.setStatus .running none (clock 1)))
    found runFound runCreated rfl ?_ ?_ eventRun ?_ rfl
  · intro _
    exact ⟨prefectFlowRunId, rfl, by simpa [ResearchRunSubmissionRepository.prefectIdTaken,
      RunRepository.setEnvironment] using untaken⟩
  · intro unacknowledged
    exact absurd rfl unacknowledged
  · rw [eventKind]
    rcases pending with h | h
    · rw [h]
      exact .acknowledgeInvoking
    · rw [h]
      exact .acknowledgeUnknown

theorem bindUnacknowledged_effect {db next : Database} {submission : ResearchRunSubmissionRecord}
    {prefectFlowRunId : String} {prefectApiUrl : Option String} {clock : Clock}
    {outcome : BindOutcome}
    (found : db.submissions.get submission.idempotencyKey = some submission)
    (pending : submission.state = .invoking ∨ submission.state = .submissionUnknown)
    (bound : bindUnacknowledged runtime contract db submission submission.runId prefectFlowRunId
      prefectApiUrl clock = .ok (outcome, next)) :
    LaunchEffect db next := by
  unfold bindUnacknowledged at bound
  cases runFound : db.runs.get submission.runId with
  | none =>
      rw [runFound] at bound
      exact refuseBinding_effect bound
  | some run =>
      simp only [runFound] at bound
      split at bound
      · exact refuseBinding_effect bound
      · rename_i created
        have runCreated : run.status = .created := by simpa using created
        split at bound
        · obtain ⟨compatible, _, bound⟩ := bind_eq_ok.mp bound
          split at bound
          · exact refuseBinding_effect bound
          · exact acknowledge_effect runtime contract found runFound runCreated pending bound
        · exact refuseBinding_effect bound

omit [PyFloat F] in
theorem bindingMismatch_runId {submission : ResearchRunSubmissionRecord}
    {runId configurationId canonicalRequestJson fingerprint : String}
    (matching : bindingMismatch runtime submission runId configurationId canonicalRequestJson
      fingerprint = false) : submission.runId = runId := by
  simp only [bindingMismatch, Bool.or_eq_false_iff, decide_eq_false_iff_not, not_not] at matching
  exact matching.1.1.1.1

theorem bindBody_effect {db next : Database} {arguments : BindArguments} {outcome : BindOutcome}
    (bound : bindBody runtime contract arguments db = .ok (outcome, next)) :
    LaunchEffect db next := by
  unfold bindBody at bound
  simp only [bind_eq_ok, getSubmission_eq_ok] at bound
  obtain ⟨key, _, runId, _, configurationId, _, prefectFlowRunId, _, prefectApiUrl, _, submission,
    found, bound⟩ := bound
  obtain rfl : submission.idempotencyKey = key := Table.get_some_key found
  split at bound
  · -- the caught integrity error commits at most its own log entry
    split at bound
    · split at bound
      · obtain ⟨logged, appended, finished⟩ := bind_eq_ok.mp bound
        cases Except.ok.inj finished
        exact appendIntegrityEvent_effect appended
      · cases Except.ok.inj bound
        exact .unchanged
    · cases bound
  · unfold bindValidated at bound
    split at bound
    · exact refuseBinding_effect bound
    · rename_i matching
      simp only [Bool.or_eq_true, not_or, Bool.not_eq_true] at matching
      obtain rfl := bindingMismatch_runId runtime matching.1
      split at bound
      · split at bound
        · exact refuseBinding_effect bound
        · cases Except.ok.inj bound
          exact .unchanged
      · split at bound
        · exact refuseBinding_effect bound
        · rename_i pending
          rw [not_and_or, not_not, not_not] at pending
          exact bindUnacknowledged_effect runtime contract found pending bound

/-! ## Ambiguity -/

theorem setUnknown_effect {db : Database} {row : ResearchRunSubmissionRecord}
    {now summary : String} {evidence : Option String}
    (found : db.submissions.get row.idempotencyKey = some row) (invoking : row.state = .invoking) :
    LaunchEffect db (ResearchRunSubmissionRepository.setUnknown db row.idempotencyKey now summary
      evidence).1 := by
  unfold ResearchRunSubmissionRepository.setUnknown
  rw [updateWhere_of_allowed found (by simp [invoking])]
  exact .moved row (ResearchRunSubmissionRepository.unknownRow now summary evidence) found
    rfl rfl (by rw [invoking]; exact .lose)

theorem markInvocationUnknownBody_effect {db next : Database} {key dispatcher summary : String}
    {clock : Clock} {result : ResearchRunSubmissionRecord}
    (marked : markInvocationUnknownBody key dispatcher summary clock db = .ok (result, next)) :
    LaunchEffect db next := by
  unfold markInvocationUnknownBody at marked
  simp only [bind_eq_ok, getSubmission_eq_ok] at marked
  obtain ⟨key, _, dispatcher, _, summary, _, row, found, marked⟩ := marked
  obtain rfl : row.idempotencyKey = key := Table.get_some_key found
  split at marked
  · obtain ⟨_, finished⟩ := guard_eq_ok.mp marked
    cases Except.ok.inj finished
    exact .unchanged
  · split at marked
    · cases Except.ok.inj marked
      exact .unchanged
    · obtain ⟨invoking, marked⟩ := guard_eq_ok.mp marked
      obtain ⟨_, marked⟩ := guard_eq_ok.mp marked
      simp only [bind_eq_ok] at marked
      obtain ⟨_, _, current, _, finished⟩ := marked
      cases Except.ok.inj finished
      exact setUnknown_effect found (by simpa using invoking)

theorem recoverInvokingAfterProcessExitBody_effect {db next : Database}
    {key departed evidence : String} {clock : Clock} {result : ResearchRunSubmissionRecord}
    (recovered : recoverInvokingAfterProcessExitBody key departed evidence clock db =
      .ok (result, next)) :
    LaunchEffect db next := by
  unfold recoverInvokingAfterProcessExitBody at recovered
  simp only [bind_eq_ok, getSubmission_eq_ok] at recovered
  obtain ⟨key, _, departed, _, evidence, _, row, found, recovered⟩ := recovered
  obtain rfl : row.idempotencyKey = key := Table.get_some_key found
  split at recovered
  · obtain ⟨_, finished⟩ := guard_eq_ok.mp recovered
    cases Except.ok.inj finished
    exact .unchanged
  · obtain ⟨invoking, recovered⟩ := guard_eq_ok.mp recovered
    obtain ⟨_, recovered⟩ := guard_eq_ok.mp recovered
    simp only [bind_eq_ok] at recovered
    obtain ⟨_, _, current, _, finished⟩ := recovered
    cases Except.ok.inj finished
    exact setUnknown_effect found (by simpa using invoking)

/-! ## Terminal resolutions -/

theorem failRun_effect {db next : Database} {row : ResearchRunSubmissionRecord}
    {run : ExperimentRunRecord} {summary message : String} {clock : Clock}
    {change : SubmissionChange}
    {result : ResearchRunSubmissionRecord}
    (found : db.submissions.get row.idempotencyKey = some row)
    (runFound : db.runs.get row.runId = some run) (runCreated : run.status = .created)
    (sameIdentity : (change.apply row).identity = row.identity)
    (samePrefect : (change.apply row).prefectFlowRunId = row.prefectFlowRunId)
    (unacknowledged : (change.apply row).state ≠ .acknowledged)
    (settles : Settlement row.state (change.apply row).state .failed .runFailed)
    (failed : failRun { db with submissions := db.submissions.update row.idempotencyKey change }
      row.idempotencyKey row.runId summary message clock = .ok (result, next)) :
    LaunchEffect db next := by
  unfold failRun at failed
  simp only [bind_eq_ok, Prod.exists] at failed
  obtain ⟨failedRun, afterRun, transitioned, afterEvent, appended, _, _, finished⟩ := failed
  cases Except.ok.inj finished
  obtain ⟨_, _, _, rfl, rfl⟩ := transition_eq_ok transitioned
  obtain ⟨_, event, eventRun, eventKind, rfl⟩ := append_eq_ok appended
  refine .settled row run event change
    (RunRepository.setStatus .failed (some summary) (clock 1)) found runFound
    runCreated sameIdentity ?_ ?_ eventRun (by rw [eventKind]; exact settles) rfl
  · intro acknowledged
    exact absurd acknowledged unacknowledged
  · intro _
    exact samePrefect

theorem failBeforeSubmissionBody_effect {db next : Database} {key summary : String}
    {clock : Clock} {result : ResearchRunSubmissionRecord}
    (failed : failBeforeSubmissionBody runtime contract key summary clock db =
      .ok (result, next)) :
    LaunchEffect db next := by
  unfold failBeforeSubmissionBody at failed
  simp only [bind_eq_ok, getSubmission_eq_ok] at failed
  obtain ⟨key, _, summary, _, row, found, failed⟩ := failed
  obtain rfl : row.idempotencyKey = key := Table.get_some_key found
  split at failed
  · obtain ⟨_, finished⟩ := guard_eq_ok.mp failed
    cases Except.ok.inj finished
    exact .unchanged
  · obtain ⟨claimed, failed⟩ := guard_eq_ok.mp failed
    have claimed : row.state = .claimed := by simpa using claimed
    simp only [bind_eq_ok] at failed
    obtain ⟨run, valid, _, _, failed⟩ := failed
    obtain ⟨runFound, created⟩ := validatePersistedClaim_run runtime contract valid
    unfold ResearchRunSubmissionRepository.setFailedBeforeSubmission at failed
    rw [updateWhere_of_allowed found (by simp [claimed]), Table.get_some_key runFound] at failed
    have settles : Settlement row.state .failedBeforeSubmission .failed .runFailed := by
      rw [claimed]
      exact .failBefore
    refine failRun_effect found runFound (created rfl) ?_ ?_ ?_ settles failed
    · rfl
    · rfl
    · nofun

theorem abandonUnknownBody_effect {db next : Database} {key evidence summary : String}
    {clock : Clock} {result : ResearchRunSubmissionRecord}
    (abandoned : abandonUnknownBody runtime contract key evidence summary clock db =
      .ok (result, next)) :
    LaunchEffect db next := by
  unfold abandonUnknownBody at abandoned
  simp only [bind_eq_ok, getSubmission_eq_ok] at abandoned
  obtain ⟨key, _, evidence, _, summary, _, row, found, abandoned⟩ := abandoned
  obtain rfl : row.idempotencyKey = key := Table.get_some_key found
  split at abandoned
  · obtain ⟨_, finished⟩ := guard_eq_ok.mp abandoned
    cases Except.ok.inj finished
    exact .unchanged
  · obtain ⟨unknown, abandoned⟩ := guard_eq_ok.mp abandoned
    have unknown : row.state = .submissionUnknown := by simpa using unknown
    simp only [bind_eq_ok] at abandoned
    obtain ⟨run, valid, _, _, abandoned⟩ := abandoned
    obtain ⟨runFound, created⟩ := validatePersistedClaim_run runtime contract valid
    unfold ResearchRunSubmissionRepository.setAbandoned at abandoned
    rw [updateWhere_of_allowed found (by simp [unknown]), Table.get_some_key runFound] at abandoned
    have settles : Settlement row.state .abandoned .failed .runFailed := by
      rw [unknown]
      exact .abandon
    refine failRun_effect found runFound (created rfl) ?_ ?_ ?_ settles abandoned
    · rfl
    · rfl
    · nofun

end Service

/-! ## Transactions -/

theorem immediate_effect {α : Type} {body : Database → Except LaunchError (α × Database)}
    (committed : ∀ db value next, body db = .ok (value, next) → LaunchEffect db next)
    (db : Database) : LaunchEffect db (immediate body db).2 := by
  unfold immediate
  cases outcome : body db with
  | error error => exact .unchanged
  | ok result => exact committed db result.1 result.2 outcome

/-! ## Calls -/

/-- One call of a service operation.  Each client's service has its own contract. -/
inductive Call (F : Type) where
  | claim (contract : ResearchLaunchContract) (arguments : ClaimArguments F)
  | beginDispatch (contract : ResearchLaunchContract) (key dispatcher : String) (clock : Clock)
  | bindPrefectIdentity (contract : ResearchLaunchContract) (arguments : BindArguments)
  | markInvocationUnknown (key dispatcher summary : String) (clock : Clock)
  | recoverInvokingAfterProcessExit (key departed evidence : String) (clock : Clock)
  | failBeforeSubmission (contract : ResearchLaunchContract) (key summary : String)
      (clock : Clock)
  | abandonUnknown (contract : ResearchLaunchContract) (key evidence summary : String)
      (clock : Clock)
  | reconcileUnknownForRun (contract : ResearchLaunchContract) (seen : Database)
      (runId prefectFlowRunId : String) (prefectApiUrl : Option String) (clock : Clock)
  | abandonUnknownForRun (contract : ResearchLaunchContract) (seen : Database)
      (runId evidence summary : String) (clock : Clock)

section Calls
variable {F : Type} [PyFloat F] (runtime : PythonRuntime F)

def applyCall (db : Database) : Call F → Database
  | .claim contract arguments => (claim runtime contract arguments db).2
  | .beginDispatch contract key dispatcher clock =>
      (beginDispatch runtime contract key dispatcher clock db).2
  | .bindPrefectIdentity contract arguments =>
      (bindPrefectIdentity runtime contract arguments db).2
  | .markInvocationUnknown key dispatcher summary clock =>
      (markInvocationUnknown key dispatcher summary clock db).2
  | .recoverInvokingAfterProcessExit key departed evidence clock =>
      (recoverInvokingAfterProcessExit key departed evidence clock db).2
  | .failBeforeSubmission contract key summary clock =>
      (failBeforeSubmission runtime contract key summary clock db).2
  | .abandonUnknown contract key evidence summary clock =>
      (abandonUnknown runtime contract key evidence summary clock db).2
  | .reconcileUnknownForRun contract seen runId prefectFlowRunId prefectApiUrl clock =>
      (reconcileUnknownForRun runtime contract seen runId prefectFlowRunId prefectApiUrl clock
        db).2
  | .abandonUnknownForRun contract seen runId evidence summary clock =>
      (abandonUnknownForRun runtime contract seen runId evidence summary clock db).2

theorem beginDispatch_effect (contract : ResearchLaunchContract) (key dispatcher : String)
    (clock : Clock) (db : Database) :
    LaunchEffect db (beginDispatch runtime contract key dispatcher clock db).2 := by
  refine immediate_effect (fun db decision next run => ?_) db
  obtain ⟨row, _, ⟨_, _, effect, _⟩ | ⟨_, _, rfl⟩⟩ := beginDispatchBody_cases runtime contract run
  · exact effect
  · exact .unchanged

theorem bindPrefectIdentity_effect (contract : ResearchLaunchContract)
    (arguments : BindArguments) (db : Database) :
    LaunchEffect db (bindPrefectIdentity runtime contract arguments db).2 := by
  have same : (bindPrefectIdentity runtime contract arguments db).2 =
      (immediate (bindBody runtime contract arguments) db).2 := by
    unfold bindPrefectIdentity raiseAfterCommit
    split <;> simp_all
  rw [same]
  exact immediate_effect (fun _ _ _ bound => bindBody_effect runtime contract bound) db

theorem markInvocationUnknown_effect (key dispatcher summary : String) (clock : Clock)
    (db : Database) : LaunchEffect db (markInvocationUnknown key dispatcher summary clock db).2 :=
  immediate_effect (fun _ _ _ marked => markInvocationUnknownBody_effect marked) db

theorem abandonUnknown_effect (contract : ResearchLaunchContract)
    (key evidence summary : String) (clock : Clock) (db : Database) :
    LaunchEffect db (abandonUnknown runtime contract key evidence summary clock db).2 :=
  immediate_effect (fun _ _ _ done => abandonUnknownBody_effect runtime contract done) db

theorem applyCall_effect (db : Database) (call : Call F) :
    LaunchEffect db (applyCall runtime db call) := by
  cases call with
  | claim contract arguments =>
      exact immediate_effect (fun _ _ _ run => claimBody_effect runtime contract run) db
  | beginDispatch contract key dispatcher clock =>
      exact beginDispatch_effect runtime contract key dispatcher clock db
  | bindPrefectIdentity contract arguments =>
      exact bindPrefectIdentity_effect runtime contract arguments db
  | markInvocationUnknown key dispatcher summary clock =>
      exact markInvocationUnknown_effect key dispatcher summary clock db
  | recoverInvokingAfterProcessExit key departed evidence clock =>
      exact immediate_effect
        (fun _ _ _ recovered => recoverInvokingAfterProcessExitBody_effect recovered) db
  | failBeforeSubmission contract key summary clock =>
      exact immediate_effect
        (fun _ _ _ failed => failBeforeSubmissionBody_effect runtime contract failed) db
  | abandonUnknown contract key evidence summary clock =>
      exact abandonUnknown_effect runtime contract key evidence summary clock db
  | reconcileUnknownForRun contract seen runId prefectFlowRunId prefectApiUrl clock =>
      simp only [applyCall, reconcileUnknownForRun]
      split
      · exact .unchanged
      · split
        · exact bindPrefectIdentity_effect runtime contract _ db
        · exact .unchanged
  | abandonUnknownForRun contract seen runId evidence summary clock =>
      simp only [applyCall, abandonUnknownForRun]
      split
      · exact .unchanged
      · exact abandonUnknown_effect runtime contract _ evidence summary clock db

end Calls

end QuantFactory.Launch
