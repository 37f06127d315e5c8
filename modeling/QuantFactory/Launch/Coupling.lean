import QuantFactory.Library.Runs
import QuantFactory.Launch.Effects
import QuantFactory.Python.Samples

/-!
# Submission and run stay coupled

The state of a submission fixes the status of its run and the number of failure
events that run has.  `Coupled` is the inductive invariant; `Advances` is what
one operation may do to the submissions.  Both follow from `LaunchEffect`.
-/

set_option autoImplicit false

namespace QuantFactory.Launch

open QuantFactory.Library QuantFactory.Python QuantFactory.Persistence

inductive SubmissionMove : ResearchSubmissionState → ResearchSubmissionState → Prop where
  | invoke : SubmissionMove .claimed .invoking
  | failBefore : SubmissionMove .claimed .failedBeforeSubmission
  | lose : SubmissionMove .invoking .submissionUnknown
  | acknowledge : SubmissionMove .invoking .acknowledged
  | acknowledgeLate : SubmissionMove .submissionUnknown .acknowledged
  | abandon : SubmissionMove .submissionUnknown .abandoned

def coupledRunStatus : ResearchSubmissionState → RunStatus
  | .claimed => .created
  | .invoking => .created
  | .submissionUnknown => .created
  | .acknowledged => .running
  | .failedBeforeSubmission => .failed
  | .abandoned => .failed

def coupledFailures : ResearchSubmissionState → Nat
  | .failedBeforeSubmission => 1
  | .abandoned => 1
  | _ => 0

def runFailures (events : List RunEventRecord) (runId : String) : Nat :=
  events.countP fun event => event.runId = runId && event.eventType = .runFailed

structure RowCoupled (db : Database) (row : ResearchRunSubmissionRecord) : Prop where
  run : ∃ run, db.runs.get row.runId = some run ∧ run.status = coupledRunStatus row.state
  failures : runFailures db.events row.runId = coupledFailures row.state
  prefect : row.state = .acknowledged → row.prefectFlowRunId.isSome

structure Coupled (db : Database) : Prop where
  events_known : ∀ event ∈ db.events, (db.runs.get event.runId).isSome
  run_owned : ∀ row ∈ db.submissions.rows, ∀ other ∈ db.submissions.rows,
    row.runId = other.runId → row = other
  coupled : ∀ row ∈ db.submissions.rows, RowCoupled db row

/-- A database in which nothing was launched yet; its events obey their foreign key. -/
structure FreshDatabase where
  db : Database
  unsubmitted : db.submissions.rows = []
  events_known : ∀ event ∈ db.events, (db.runs.get event.runId).isSome

structure RowAdvances (db next : Database) (row after : ResearchRunSubmissionRecord) : Prop where
  identity : after.identity = row.identity
  move : after.state = row.state ∨ SubmissionMove row.state after.state
  started : row.state ≠ .acknowledged → after.state = .acknowledged →
    (∃ run, db.runs.get row.runId = some run ∧ run.status = .created) ∧
      ∃ run, next.runs.get row.runId = some run ∧ run.status = .running

structure Advances (db next : Database) : Prop where
  kept : ∀ key row, db.submissions.get key = some row →
    ∃ after, next.submissions.get key = some after ∧ RowAdvances db next row after
  appeared : ∀ key after, next.submissions.get key = some after →
    db.submissions.get key = none → after.state = .claimed

/-! ## Events -/

theorem runFailures_append (events : List RunEventRecord) (event : RunEventRecord)
    (runId : String) :
    runFailures (events ++ [event]) runId = runFailures events runId +
      if event.runId = runId ∧ event.eventType = .runFailed then 1 else 0 := by
  simp [runFailures, List.countP_append, List.countP_cons]

theorem runFailures_append_of_ne {events : List RunEventRecord} {event : RunEventRecord}
    {runId : String} (other : event.runId ≠ runId ∨ event.eventType ≠ .runFailed) :
    runFailures (events ++ [event]) runId = runFailures events runId := by
  rw [runFailures_append, if_neg (by tauto), Nat.add_zero]

theorem runFailures_eq_zero {events : List RunEventRecord} {runId : String}
    (absent : ∀ event ∈ events, event.runId ≠ runId) : runFailures events runId = 0 := by
  rw [runFailures, List.countP_eq_zero]
  intro event member
  simp [absent event member]

theorem RowCoupled.frame {db next : Database} {row : ResearchRunSubmissionRecord}
    (coupled : RowCoupled db row) (sameRun : next.runs.get row.runId = db.runs.get row.runId)
    (sameFailures : runFailures next.events row.runId = runFailures db.events row.runId) :
    RowCoupled next row where
  run := by rw [sameRun]; exact coupled.run
  failures := by rw [sameFailures]; exact coupled.failures
  prefect := coupled.prefect

/-! ## Moves -/

theorem MarkerMove.submissionMove {before after : ResearchSubmissionState}
    (move : MarkerMove before after) : SubmissionMove before after := by
  cases move with
  | invoke => exact .invoke
  | lose => exact .lose

/-- A marker move changes neither the run's status nor its failures. -/
theorem MarkerMove.coupling {before after : ResearchSubmissionState}
    (move : MarkerMove before after) :
    coupledRunStatus after = coupledRunStatus before ∧
      coupledFailures after = coupledFailures before ∧ after ≠ .acknowledged := by
  cases move <;> exact ⟨rfl, rfl, nofun⟩

theorem Settlement.submissionMove {before after : ResearchSubmissionState} {status : RunStatus}
    {kind : RunEventType} (settles : Settlement before after status kind) :
    SubmissionMove before after := by
  cases settles with
  | acknowledgeInvoking => exact .acknowledge
  | acknowledgeUnknown => exact .acknowledgeLate
  | failBefore => exact .failBefore
  | abandon => exact .abandon

theorem Settlement.coupling {before after : ResearchSubmissionState} {status : RunStatus}
    {kind : RunEventType} (settles : Settlement before after status kind) :
    status = coupledRunStatus after ∧ coupledFailures before = 0 ∧
      coupledFailures after = (if kind = .runFailed then 1 else 0) := by
  cases settles <;> exact ⟨rfl, rfl, rfl⟩

/-! ## One operation -/

theorem identity_runId {row after : ResearchRunSubmissionRecord}
    (same : after.identity = row.identity) : after.runId = row.runId :=
  congrArg SubmissionIdentity.runId same

theorem update_row_mem {db : Database} {row other : ResearchRunSubmissionRecord}
    {change : SubmissionChange} (found : db.submissions.get row.idempotencyKey = some row)
    (member : other ∈ (db.submissions.update row.idempotencyKey change).rows) :
    other = change.apply row ∨ (other ∈ db.submissions.rows ∧ other ≠ row) := by
  obtain ⟨old, inTable, rfl⟩ := (Table.update_mem _ _ _).mp member
  by_cases same : old.idempotencyKey = row.idempotencyKey
  · left
    have oldFound := Table.get_of_mem inTable
    rw [same, found] at oldFound
    rw [if_pos same, Option.some.inj oldFound]
  · right
    rw [if_neg same]
    exact ⟨inTable, fun equal => same (equal ▸ rfl)⟩

/-- Changing one row under an unchanged run id keeps every run owned once. -/
theorem run_owned_update {db : Database} {row : ResearchRunSubmissionRecord}
    {change : SubmissionChange} (holds : Coupled db)
    (found : db.submissions.get row.idempotencyKey = some row)
    (sameRun : (change.apply row).runId = row.runId) :
    ∀ first ∈ (db.submissions.update row.idempotencyKey change).rows,
      ∀ second ∈ (db.submissions.update row.idempotencyKey change).rows,
        first.runId = second.runId → first = second := by
  intro first firstIn second secondIn same
  have rowIn := Table.get_some_mem found
  obtain rfl | ⟨firstOld, firstOther⟩ := update_row_mem found firstIn
  · obtain rfl | ⟨secondOld, secondOther⟩ := update_row_mem found secondIn
    · rfl
    · rw [sameRun] at same
      exact absurd (holds.run_owned row rowIn second secondOld same).symm secondOther
  · obtain rfl | ⟨secondOld, _⟩ := update_row_mem found secondIn
    · rw [sameRun] at same
      exact absurd (holds.run_owned first firstOld row rowIn same) firstOther
    · exact holds.run_owned first firstOld second secondOld same

theorem coupled_created {db : Database} (holds : Coupled db) {run : ExperimentRunRecord}
    {row : ResearchRunSubmissionRecord} {event : RunEventRecord} {runs : RunTable}
    {submissions : SubmissionTable} (runCreated : run.status = .created)
    (rowClaimed : row.state = .claimed) (rowRun : row.runId = run.runId)
    (eventRun : event.runId = run.runId) (eventKind : event.eventType = .runCreated)
    (runInserted : db.runs.insert run = some runs)
    (runUnclaimed : ∀ other ∈ db.submissions.rows, other.runId ≠ run.runId)
    (rowInserted : db.submissions.insert row = some submissions) :
    Coupled { db with
      runs := runs, submissions := submissions, events := db.events ++ [event] } := by
  have runAbsent := (Table.insert_some_iff.mp runInserted).1
  have known : ∀ other ∈ db.events, other.runId ≠ run.runId := by
    intro other member same
    have isKnown := holds.events_known other member
    rw [same, runAbsent] at isKnown
    cases isKnown
  have keptRun : ∀ runId, runId ≠ run.runId → runs.get runId = db.runs.get runId := by
    intro runId differs
    rw [Table.get_insert runInserted, if_neg differs]
  have newRun : runs.get run.runId = some run := by
    rw [Table.get_insert runInserted, if_pos rfl]
  refine ⟨?_, ?_, ?_⟩
  · intro other member
    rcases List.mem_append.mp member with old | new
    · change (runs.get other.runId).isSome
      rw [keptRun _ (known other old)]
      exact holds.events_known other old
    · obtain rfl := List.mem_singleton.mp new
      change (runs.get other.runId).isSome
      rw [eventRun, newRun]
      rfl
  · intro first firstIn second secondIn same
    rcases (Table.insert_mem rowInserted).mp firstIn with rfl | firstOld
    · rcases (Table.insert_mem rowInserted).mp secondIn with rfl | secondOld
      · rfl
      · exact absurd (same.symm.trans rowRun) (runUnclaimed second secondOld)
    · rcases (Table.insert_mem rowInserted).mp secondIn with rfl | secondOld
      · exact absurd (same.trans rowRun) (runUnclaimed first firstOld)
      · exact holds.run_owned first firstOld second secondOld same
  · intro other member
    have notFailure : event.eventType ≠ .runFailed := by rw [eventKind]; nofun
    rcases (Table.insert_mem rowInserted).mp member with rfl | old
    · refine ⟨⟨run, by rw [rowRun]; exact newRun, by rw [rowClaimed]; exact runCreated⟩, ?_, ?_⟩
      · rw [runFailures_append_of_ne (.inr notFailure), rowRun, runFailures_eq_zero known,
          rowClaimed]
        rfl
      · intro acknowledged
        rw [rowClaimed] at acknowledged
        cases acknowledged
    · exact (holds.coupled other old).frame (keptRun _ (runUnclaimed other old))
        (runFailures_append_of_ne (.inr notFailure))

theorem coupled_moved {db : Database} (holds : Coupled db) {row : ResearchRunSubmissionRecord}
    {change : SubmissionChange} (found : db.submissions.get row.idempotencyKey = some row)
    (sameIdentity : (change.apply row).identity = row.identity)
    (move : MarkerMove row.state (change.apply row).state) :
    Coupled { db with submissions := db.submissions.update row.idempotencyKey change } := by
  have sameRun := identity_runId sameIdentity
  refine ⟨holds.events_known, run_owned_update holds found sameRun, ?_⟩
  intro other member
  obtain rfl | ⟨old, _⟩ := update_row_mem found member
  · have before := holds.coupled row (Table.get_some_mem found)
    obtain ⟨status, failures, unacknowledged⟩ := move.coupling
    refine ⟨?_, ?_, fun acknowledged => absurd acknowledged unacknowledged⟩
    · rw [sameRun, status]
      exact before.run
    · rw [sameRun, failures]
      exact before.failures
  · exact (holds.coupled other old).frame rfl rfl

theorem coupled_settled {db : Database} (holds : Coupled db) {row : ResearchRunSubmissionRecord}
    {run : ExperimentRunRecord} {event : RunEventRecord} {change : SubmissionChange}
    {changeRun : RunChange} (found : db.submissions.get row.idempotencyKey = some row)
    (runFound : db.runs.get row.runId = some run)
    (sameIdentity : (change.apply row).identity = row.identity)
    (prefect : (change.apply row).state = .acknowledged →
      (change.apply row).prefectFlowRunId.isSome)
    (eventRun : event.runId = row.runId)
    (settles : Settlement row.state (change.apply row).state (changeRun.apply run).status
      event.eventType) :
    Coupled { db with
      submissions := db.submissions.update row.idempotencyKey change
      runs := db.runs.update row.runId changeRun
      events := db.events ++ [event] } := by
  have sameRun := identity_runId sameIdentity
  have newRun : (db.runs.update row.runId changeRun).get row.runId =
      some (changeRun.apply run) := by
    rw [Table.get_update_self, runFound]
    rfl
  refine ⟨?_, run_owned_update holds found sameRun, ?_⟩
  · intro other member
    change ((db.runs.update row.runId changeRun).get other.runId).isSome
    by_cases same : other.runId = row.runId
    · rw [same, newRun]
      rfl
    · rw [Table.get_update_of_ne _ _ _ same]
      rcases List.mem_append.mp member with old | new
      · exact holds.events_known other old
      · exact absurd (List.mem_singleton.mp new ▸ eventRun) same
  · intro other member
    obtain rfl | ⟨old, differs⟩ := update_row_mem found member
    · obtain ⟨status, none, failures⟩ := settles.coupling
      refine ⟨⟨changeRun.apply run, by rw [sameRun]; exact newRun, status⟩, ?_, prefect⟩
      have before := (holds.coupled row (Table.get_some_mem found)).failures
      rw [sameRun, runFailures_append, before, none, failures, Nat.zero_add]
      simp [eventRun]
    · have otherRun : other.runId ≠ row.runId := fun same =>
        differs (holds.run_owned other old row (Table.get_some_mem found) same)
      exact (holds.coupled other old).frame (Table.get_update_of_ne _ _ _ otherRun)
        (runFailures_append_of_ne (.inl (by rw [eventRun]; exact otherRun.symm)))

theorem LaunchEffect.coupled {db next : Database} (effect : LaunchEffect db next)
    (holds : Coupled db) : Coupled next := by
  cases effect with
  | unchanged => exact holds
  | logged event kind known =>
      refine ⟨?_, holds.run_owned, ?_⟩
      · intro other member
        rcases List.mem_append.mp member with old | new
        · exact holds.events_known other old
        · exact List.mem_singleton.mp new ▸ known
      · intro row member
        exact (holds.coupled row member).frame rfl
          (runFailures_append_of_ne (.inr (by rw [kind]; nofun)))
  | created run row event runs submissions runCreated rowClaimed _ rowRun eventRun eventKind
      runInserted runUnclaimed rowInserted =>
      exact coupled_created holds runCreated rowClaimed rowRun eventRun eventKind runInserted
        runUnclaimed rowInserted
  | moved row change found sameIdentity _ move =>
      exact coupled_moved holds found sameIdentity move
  | settled row run event change changeRun found runFound _ sameIdentity prefect _ eventRun
      settles =>
      refine coupled_settled holds found runFound sameIdentity (fun acknowledged => ?_) eventRun
        settles
      obtain ⟨id, isId, _⟩ := prefect acknowledged
      rw [isId]
      rfl

/-! ## Moves of one operation -/

theorem rowAdvances_refl (db next : Database) (row : ResearchRunSubmissionRecord) :
    RowAdvances db next row row :=
  ⟨rfl, .inl rfl, fun unacknowledged acknowledged => absurd acknowledged unacknowledged⟩

theorem advances_of_same {db next : Database} (same : next.submissions = db.submissions) :
    Advances db next where
  kept key row found := ⟨row, by rw [same]; exact found, rowAdvances_refl db next row⟩
  appeared key after found absent := by
    rw [same, absent] at found
    cases found

theorem advances_update {db next : Database} {row : ResearchRunSubmissionRecord}
    {change : SubmissionChange} (found : db.submissions.get row.idempotencyKey = some row)
    (updated : next.submissions = db.submissions.update row.idempotencyKey change)
    (advance : RowAdvances db next row (change.apply row)) : Advances db next where
  kept key other otherFound := by
    rw [updated, Table.get_update]
    by_cases same : key = row.idempotencyKey
    · subst same
      rw [found] at otherFound
      cases otherFound
      exact ⟨change.apply row, by rw [if_pos rfl, found]; rfl, advance⟩
    · exact ⟨other, by rw [if_neg same]; exact otherFound, rowAdvances_refl db next other⟩
  appeared key after afterFound absent := by
    rw [updated, Table.get_update] at afterFound
    by_cases same : key = row.idempotencyKey
    · subst same
      rw [found] at absent
      cases absent
    · rw [if_neg same, absent] at afterFound
      cases afterFound

theorem LaunchEffect.advances {db next : Database} (effect : LaunchEffect db next) :
    Advances db next := by
  cases effect with
  | unchanged => exact advances_of_same rfl
  | logged event kind known => exact advances_of_same rfl
  | created run row event runs submissions _ rowClaimed _ _ _ _ _ _ rowInserted =>
      have absent := (Table.insert_some_iff.mp rowInserted).1
      refine ⟨?_, ?_⟩
      · intro key old found
        refine ⟨old, ?_, rowAdvances_refl _ _ old⟩
        change submissions.get key = some old
        rw [Table.get_insert rowInserted, if_neg, found]
        rintro rfl
        rw [absent] at found
        cases found
      · intro key after found unclaimed
        change submissions.get key = some after at found
        rw [Table.get_insert rowInserted] at found
        split at found
        · cases found
          exact rowClaimed
        · rw [unclaimed] at found
          cases found
  | moved row change found sameIdentity _ move =>
      refine advances_update found rfl ⟨sameIdentity, .inr move.submissionMove, ?_⟩
      intro _ acknowledged
      exact absurd acknowledged move.coupling.2.2
  | settled row run event change changeRun found runFound runCreated sameIdentity _ _ _
      settles =>
      refine advances_update found rfl ⟨sameIdentity, .inr settles.submissionMove, ?_⟩
      intro _ acknowledged
      refine ⟨⟨run, runFound, runCreated⟩, changeRun.apply run, ?_, ?_⟩
      · change (db.runs.update row.runId changeRun).get row.runId = _
        rw [Table.get_update_self, runFound]
        rfl
      · rw [settles.coupling.1, acknowledged]
        rfl

/-! ## Runs of operations -/

/-- Every submission of the first database is still there, as the same submission. -/
def IdentitiesKept (db next : Database) : Prop :=
  ∀ key row, db.submissions.get key = some row →
    ∃ after, next.submissions.get key = some after ∧ after.identity = row.identity

theorem identitiesKept_refl (db : Database) : IdentitiesKept db db :=
  fun _ row found => ⟨row, found, rfl⟩

theorem identitiesKept_trans (first second third : Database)
    (left : IdentitiesKept first second) (right : IdentitiesKept second third) :
    IdentitiesKept first third := by
  intro key row found
  obtain ⟨middle, middleFound, middleSame⟩ := left key row found
  obtain ⟨last, lastFound, lastSame⟩ := right key middle middleFound
  exact ⟨last, lastFound, lastSame.trans middleSame⟩

theorem Advances.identitiesKept {db next : Database} (advances : Advances db next) :
    IdentitiesKept db next := by
  intro key row found
  obtain ⟨after, afterFound, advance⟩ := advances.kept key row found
  exact ⟨after, afterFound, advance.identity⟩

section Calls
variable {F : Type} [PyFloat F] (runtime : PythonRuntime F)

theorem coupled_fresh (fresh : FreshDatabase) : Coupled fresh.db where
  events_known := fresh.events_known
  run_owned := by simp [fresh.unsubmitted]
  coupled := by simp [fresh.unsubmitted]

theorem coupled_run (fresh : FreshDatabase) (calls : List (Call F)) :
    Coupled (run (applyCall runtime) fresh.db calls) :=
  run_invariant (applyCall runtime)
    (fun db call holds => (applyCall_effect runtime db call).coupled holds) calls fresh.db
    (coupled_fresh fresh)

theorem identities_kept_run (db : Database) (calls : List (Call F)) :
    IdentitiesKept db (run (applyCall runtime) db calls) :=
  run_relation (applyCall runtime)
    (fun db call => (applyCall_effect runtime db call).advances.identitiesKept)
    identitiesKept_refl identitiesKept_trans calls db

/-- In every reachable database each submission is coupled to its run, the next
operation moves it only along the state machine, and no later one changes its
identity. -/
theorem submission_run_coupled (fresh : FreshDatabase) (calls : List (Call F)) (call : Call F)
    (later : List (Call F)) :
    (∀ row ∈ (run (applyCall runtime) fresh.db calls).submissions.rows,
        RowCoupled (run (applyCall runtime) fresh.db calls) row) ∧
      Advances (run (applyCall runtime) fresh.db calls)
        (applyCall runtime (run (applyCall runtime) fresh.db calls) call) ∧
      IdentitiesKept (run (applyCall runtime) fresh.db calls)
        (run (applyCall runtime) (run (applyCall runtime) fresh.db calls) later) :=
  ⟨(coupled_run runtime fresh calls).coupled,
    (applyCall_effect runtime _ call).advances,
    identities_kept_run runtime _ later⟩

end Calls

/-! A candidate with one saved configuration and one launch key. -/

def sampleConfigurationId : String :=
  "89cbfdfe9b76aca6ca50869f1d980046742a2658bb133d3aae9ad44b6fa8144d"

def sampleConfiguration : PyValue WholeFloat :=
  .dict [("execution", .dict []), ("experiment_id", .str "exp_001"), ("parameters", .dict []),
    ("strategy_id", .str "orb"), ("strategy_version", .str "1")]

def sampleRequestDocument : PyValue WholeFloat :=
  .dict [("accepted_launch_policy", .str "owner_approved_candidate_screening_only"),
    ("candidate_stage", .str "screening"), ("configuration_hash", .str sampleConfigurationId),
    ("configuration_id", .str sampleConfigurationId), ("operation_kind", .str "run_test"),
    ("protocol_version", .str "candidate_screening_v1"), ("source_lineage", .dict []),
    ("source_run_id", .none), ("strategy_id", .str "orb"), ("strategy_version", .str "1")]

/-- A runtime that reads back the documents of the sample and digests their texts. -/
def sampleRuntime : PythonRuntime WholeFloat where
  jsonDumps := jsonText
  jsonLoads text :=
    if text = jsonText sampleConfiguration then some sampleConfiguration
    else if text = jsonText sampleRequestDocument then some sampleRequestDocument
    else if text = "\x7b\x7d" then some (.dict [])
    else none
  sha256Hex text :=
    if text = jsonText sampleConfiguration then sampleConfigurationId
    else "a5e3d190a283a0483b3938d874fba25bb64438d5a892dbf3ed532ac970191c28"

def sampleDatabase : Database where
  strategies := ⟨[⟨"orb", "1", .candidate, true⟩], by decide⟩
  configurations := ⟨[⟨sampleConfigurationId, "orb", "1", jsonText sampleConfiguration,
    sampleConfigurationId⟩], by decide⟩
  manifests := Table.empty
  runs := Table.empty
  events := []
  submissions := Table.empty

def sampleKey : String := "launch_key_000001"

def sampleDispatcher : String := "00000000-0000-4000-8000-000000000001"

def sampleClock : Clock := fun _ => "2026-01-02T15:00:00Z"

def sampleClaim (failAt : Option ClaimStep) : ClaimArguments WholeFloat where
  idempotencyKey := sampleKey
  request := ⟨"run_test", sampleConfigurationId, none, []⟩
  environment := []
  newRunId := "run_001"
  failAt := failAt
  clock := sampleClock

def sampleBinding : BindArguments where
  idempotencyKey := sampleKey
  runId := "run_001"
  configurationId := sampleConfigurationId
  canonicalRequestJson := jsonText sampleRequestDocument
  requestFingerprint := "a5e3d190a283a0483b3938d874fba25bb64438d5a892dbf3ed532ac970191c28"
  prefectFlowRunId := "prefect-flow-1"
  prefectApiUrl := none
  clock := sampleClock

def sampleStore : FreshDatabase where
  db := sampleDatabase
  unsubmitted := rfl
  events_known := by simp [sampleDatabase]

def invokingCalls : List (Call WholeFloat) := [
  .claim candidateScreeningLaunchContract (sampleClaim none),
  .beginDispatch candidateScreeningLaunchContract sampleKey sampleDispatcher sampleClock]

def sampleBind : Call WholeFloat :=
  .bindPrefectIdentity candidateScreeningLaunchContract sampleBinding

theorem submission_run_coupled_invoking :
    ((run (applyCall sampleRuntime) sampleStore.db invokingCalls).submissions.rows.map
        fun row => row.state) = [.invoking] ∧
      (∀ row ∈ (run (applyCall sampleRuntime) sampleStore.db invokingCalls).submissions.rows,
        RowCoupled (run (applyCall sampleRuntime) sampleStore.db invokingCalls) row) ∧
      Advances (run (applyCall sampleRuntime) sampleStore.db invokingCalls)
        (applyCall sampleRuntime (run (applyCall sampleRuntime) sampleStore.db invokingCalls)
          sampleBind) :=
  have coupled := submission_run_coupled sampleRuntime sampleStore invokingCalls sampleBind []
  ⟨by decide +kernel, coupled.1, coupled.2.1⟩

end QuantFactory.Launch
