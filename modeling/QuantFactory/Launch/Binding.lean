import QuantFactory.Launch.Coupling

/-!
# Prefect identities

What `bind_prefect_identity` leaves behind when it raises, and what holds of the
bound flow-run ids over every run: no two submissions carry the same id, and an
acknowledged submission keeps its own.
-/

set_option autoImplicit false

namespace QuantFactory.Launch

open QuantFactory.Library QuantFactory.Python QuantFactory.Persistence

/-! ## Failed calls -/

/-- At most one integrity event is appended; every row is as it was. -/
def OnlyLogged (db next : Database) : Prop :=
  next = db ∨ ∃ event : RunEventRecord, event.eventType = .serviceIntegrityError ∧
    next = { db with events := db.events ++ [event] }

theorem appendIntegrityEvent_logged {db next : Database}
    {submission : ResearchRunSubmissionRecord} {message now : String}
    (appended : appendIntegrityEvent db submission message now = .ok next) :
    OnlyLogged db next := by
  unfold appendIntegrityEvent at appended
  split at appended
  · exact .inl (Except.ok.inj appended).symm
  · obtain ⟨_, event, _, kind, rfl⟩ := append_eq_ok appended
    exact .inr ⟨event, kind, rfl⟩

theorem refuseBinding_logged {db next : Database} {submission : ResearchRunSubmissionRecord}
    {eventMessage errorMessage now : String} {outcome : BindOutcome}
    (refused : refuseBinding db submission eventMessage errorMessage now = .ok (outcome, next)) :
    OnlyLogged db next := by
  unfold refuseBinding at refused
  obtain ⟨logged, appended, result⟩ := bind_eq_ok.mp refused
  cases Except.ok.inj result
  exact appendIntegrityEvent_logged appended

section Bind
variable {F : Type} [PyFloat F] (runtime : PythonRuntime F) (contract : ResearchLaunchContract)

theorem acknowledge_raises_nothing {db next : Database} {key runId prefectFlowRunId : String}
    {prefectApiUrl : Option String} {environment : Entries F} {clock : Clock}
    {current : ResearchRunSubmissionRecord} {raised : Option LaunchError}
    (done : acknowledge runtime contract db key runId prefectFlowRunId prefectApiUrl environment
      clock = .ok ((current, raised), next)) : raised = none := by
  unfold acknowledge at done
  simp only [bind_eq_ok, Prod.exists] at done
  obtain ⟨_, _, _, _, _, _, _, _, _, _, _, _, _, _, finished⟩ := done
  cases Except.ok.inj finished
  rfl

theorem bindUnacknowledged_logged {db next : Database}
    {submission current : ResearchRunSubmissionRecord} {runId prefectFlowRunId : String}
    {prefectApiUrl : Option String} {clock : Clock} {error : LaunchError}
    (bound : bindUnacknowledged runtime contract db submission runId prefectFlowRunId
      prefectApiUrl clock = .ok ((current, some error), next)) : OnlyLogged db next := by
  unfold bindUnacknowledged at bound
  split at bound
  · exact refuseBinding_logged bound
  · split at bound
    · exact refuseBinding_logged bound
    · split at bound
      · obtain ⟨compatible, _, bound⟩ := bind_eq_ok.mp bound
        split at bound
        · exact refuseBinding_logged bound
        · cases acknowledge_raises_nothing runtime contract bound
      · exact refuseBinding_logged bound

theorem bindValidated_logged {db next : Database}
    {submission current : ResearchRunSubmissionRecord} {mismatch : Bool}
    {runId prefectFlowRunId : String} {prefectApiUrl : Option String} {clock : Clock}
    {error : LaunchError}
    (bound : bindValidated runtime contract db submission mismatch runId prefectFlowRunId
      prefectApiUrl clock = .ok ((current, some error), next)) : OnlyLogged db next := by
  unfold bindValidated at bound
  split at bound
  · exact refuseBinding_logged bound
  · split at bound
    · split at bound
      · exact refuseBinding_logged bound
      · cases Except.ok.inj bound
    · split at bound
      · exact refuseBinding_logged bound
      · exact bindUnacknowledged_logged runtime contract bound

theorem bindBody_logged {db next : Database} {arguments : BindArguments}
    {current : ResearchRunSubmissionRecord} {error : LaunchError}
    (bound : bindBody runtime contract arguments db = .ok ((current, some error), next)) :
    OnlyLogged db next := by
  unfold bindBody at bound
  simp only [bind_eq_ok] at bound
  obtain ⟨_, _, _, _, _, _, _, _, _, _, submission, _, bound⟩ := bound
  split at bound
  · split at bound
    · split at bound
      · obtain ⟨logged, appended, finished⟩ := bind_eq_ok.mp bound
        cases Except.ok.inj finished
        exact appendIntegrityEvent_logged appended
      · cases Except.ok.inj bound
        exact .inl rfl
    · cases bound
  · exact bindValidated_logged runtime contract bound

theorem bindPrefectIdentity_error_logged {db : Database} {arguments : BindArguments}
    {error : LaunchError}
    (failed : (bindPrefectIdentity runtime contract arguments db).1 = .error error) :
    OnlyLogged db (bindPrefectIdentity runtime contract arguments db).2 := by
  unfold bindPrefectIdentity immediate at failed ⊢
  cases outcome : bindBody runtime contract arguments db with
  | error raised => exact .inl rfl
  | ok result =>
      obtain ⟨⟨current, raised⟩, next⟩ := result
      cases raised with
      | none =>
          rw [outcome] at failed
          cases failed
      | some raised => exact bindBody_logged runtime contract outcome

end Bind

/-! ## Bound ids -/

def PrefectUnique (db : Database) : Prop :=
  ∀ first ∈ db.submissions.rows, ∀ second ∈ db.submissions.rows, ∀ id,
    first.prefectFlowRunId = some id → second.prefectFlowRunId = some id → first = second

def AcknowledgedKept (db next : Database) : Prop :=
  ∀ row, db.submissions.get row.idempotencyKey = some row → row.state = .acknowledged →
    next.submissions.get row.idempotencyKey = some row

theorem acknowledgedKept_refl (db : Database) : AcknowledgedKept db db :=
  fun _ found _ => found

theorem acknowledgedKept_trans (first second third : Database)
    (left : AcknowledgedKept first second) (right : AcknowledgedKept second third) :
    AcknowledgedKept first third :=
  fun row found acknowledged => right row (left row found acknowledged) acknowledged

theorem MarkerMove.from_unacknowledged {before after : ResearchSubmissionState}
    (move : MarkerMove before after) : before ≠ .acknowledged := by
  cases move <;> nofun

theorem Settlement.from_unacknowledged {before after : ResearchSubmissionState}
    {status : RunStatus} {event : RunEventType}
    (settles : Settlement before after status event) : before ≠ .acknowledged := by
  cases settles <;> nofun

theorem acknowledgedKept_update {db : Database} {row : ResearchRunSubmissionRecord}
    {change : SubmissionChange} (found : db.submissions.get row.idempotencyKey = some row)
    (unacknowledged : row.state ≠ .acknowledged) (other : ResearchRunSubmissionRecord)
    (otherFound : db.submissions.get other.idempotencyKey = some other)
    (acknowledged : other.state = .acknowledged) :
    (db.submissions.update row.idempotencyKey change).get other.idempotencyKey = some other := by
  have differs : other.idempotencyKey ≠ row.idempotencyKey := by
    intro same
    rw [same, found] at otherFound
    cases otherFound
    exact unacknowledged acknowledged
  rw [Table.get_update_of_ne _ _ _ differs]
  exact otherFound

theorem LaunchEffect.acknowledgedKept {db next : Database} (effect : LaunchEffect db next) :
    AcknowledgedKept db next := by
  intro other otherFound acknowledged
  cases effect with
  | unchanged => exact otherFound
  | logged event kind known => exact otherFound
  | created run row event runs submissions _ _ _ _ _ _ _ _ rowInserted =>
      have absent := (Table.insert_some_iff.mp rowInserted).1
      change submissions.get other.idempotencyKey = some other
      rw [Table.get_insert rowInserted, if_neg, otherFound]
      intro same
      rw [same, absent] at otherFound
      cases otherFound
  | moved row change found _ _ move =>
      exact acknowledgedKept_update found move.from_unacknowledged other otherFound acknowledged
  | settled row run event change changeRun found _ _ _ _ _ _ settles =>
      exact acknowledgedKept_update found settles.from_unacknowledged other otherFound
        acknowledged

/-- A changed row keeps its id, or gets one that no other submission carries. -/
theorem prefectUnique_update {db : Database} {row : ResearchRunSubmissionRecord}
    {change : SubmissionChange} (unique : PrefectUnique db)
    (found : db.submissions.get row.idempotencyKey = some row)
    (fresh : (change.apply row).prefectFlowRunId = row.prefectFlowRunId ∨
      ∃ id, (change.apply row).prefectFlowRunId = some id ∧
        ResearchRunSubmissionRepository.prefectIdTaken db row.idempotencyKey id = false) :
    ∀ first ∈ (db.submissions.update row.idempotencyKey change).rows,
      ∀ second ∈ (db.submissions.update row.idempotencyKey change).rows, ∀ id,
        first.prefectFlowRunId = some id → second.prefectFlowRunId = some id →
          first = second := by
  have changed : ∀ other ∈ db.submissions.rows, other.idempotencyKey ≠ row.idempotencyKey →
      ∀ id, (change.apply row).prefectFlowRunId = some id →
        other.prefectFlowRunId ≠ some id := by
    intro other member differs id bound otherBound
    rcases fresh with same | ⟨free, isFree, untaken⟩
    · rw [same] at bound
      have isRow := unique other member row (Table.get_some_mem found) id otherBound bound
      exact differs (by rw [isRow])
    · rw [isFree] at bound
      cases bound
      have absent : ∀ some ∈ db.submissions.rows, some.prefectFlowRunId = Option.some id →
          some.idempotencyKey = row.idempotencyKey := by
        simpa [ResearchRunSubmissionRepository.prefectIdTaken] using untaken
      exact differs (absent other member otherBound)
  have isRow : ∀ other ∈ db.submissions.rows, other.idempotencyKey = row.idempotencyKey →
      other = row := by
    intro other member same
    have otherFound := Table.get_of_mem member
    rw [same, found] at otherFound
    exact (Option.some.inj otherFound).symm
  intro first firstMember second secondMember id firstBound secondBound
  obtain ⟨before, beforeMember, rfl⟩ := (Table.update_mem _ _ _).mp firstMember
  obtain ⟨after, afterMember, rfl⟩ := (Table.update_mem _ _ _).mp secondMember
  by_cases firstIs : before.idempotencyKey = row.idempotencyKey
  · by_cases secondIs : after.idempotencyKey = row.idempotencyKey
    · rw [isRow before beforeMember firstIs, isRow after afterMember secondIs]
    · rw [if_pos firstIs, isRow before beforeMember firstIs] at firstBound
      rw [if_neg secondIs] at secondBound
      exact absurd secondBound (changed after afterMember secondIs id firstBound)
  · by_cases secondIs : after.idempotencyKey = row.idempotencyKey
    · rw [if_pos secondIs, isRow after afterMember secondIs] at secondBound
      rw [if_neg firstIs] at firstBound
      exact absurd firstBound (changed before beforeMember firstIs id secondBound)
    · rw [if_neg firstIs] at firstBound ⊢
      rw [if_neg secondIs] at secondBound ⊢
      exact unique before beforeMember after afterMember id firstBound secondBound

theorem LaunchEffect.prefectUnique {db next : Database} (effect : LaunchEffect db next)
    (unique : PrefectUnique db) : PrefectUnique next := by
  cases effect with
  | unchanged => exact unique
  | logged event kind known => exact unique
  | created run row event runs submissions _ _ noPrefect _ _ _ _ _ rowInserted =>
      intro first firstMember second secondMember id firstBound secondBound
      rcases (Table.insert_mem rowInserted).mp firstMember with rfl | firstOld
      · rw [noPrefect] at firstBound
        cases firstBound
      · rcases (Table.insert_mem rowInserted).mp secondMember with rfl | secondOld
        · rw [noPrefect] at secondBound
          cases secondBound
        · exact unique first firstOld second secondOld id firstBound secondBound
  | moved row change found _ samePrefect _ =>
      exact prefectUnique_update unique found (.inl samePrefect)
  | settled row run event change changeRun found _ _ _ prefect unbound _ _ =>
      refine prefectUnique_update unique found ?_
      by_cases acknowledged : (change.apply row).state = .acknowledged
      · exact .inr (prefect acknowledged)
      · exact .inl (unbound acknowledged)

/-! ## Over every run -/

section Calls
variable {F : Type} [PyFloat F] (runtime : PythonRuntime F)

theorem prefectUnique_run (fresh : FreshDatabase) (calls : List (Call F)) :
    PrefectUnique (run (applyCall runtime) fresh.db calls) := by
  refine run_invariant (applyCall runtime)
    (fun db call unique => (applyCall_effect runtime db call).prefectUnique unique) calls
    fresh.db ?_
  intro first member
  rw [fresh.unsubmitted] at member
  cases member

theorem acknowledgedKept_run (db : Database) (calls : List (Call F)) :
    AcknowledgedKept db (run (applyCall runtime) db calls) :=
  run_relation (applyCall runtime)
    (fun db call => (applyCall_effect runtime db call).acknowledgedKept)
    acknowledgedKept_refl acknowledgedKept_trans calls db

/-- In every reachable database a binding that raises leaves every row as it was
and appends at most one integrity event; no flow-run id is bound twice, and no
later operation touches an acknowledged submission. -/
theorem failed_binding_keeps_state (fresh : FreshDatabase) (calls : List (Call F))
    (contract : ResearchLaunchContract) (arguments : BindArguments) (later : List (Call F)) :
    (∀ error, (bindPrefectIdentity runtime contract arguments
          (run (applyCall runtime) fresh.db calls)).1 = .error error →
        OnlyLogged (run (applyCall runtime) fresh.db calls)
          (bindPrefectIdentity runtime contract arguments
            (run (applyCall runtime) fresh.db calls)).2) ∧
      PrefectUnique (run (applyCall runtime) fresh.db calls) ∧
      AcknowledgedKept (run (applyCall runtime) fresh.db calls)
        (run (applyCall runtime) (run (applyCall runtime) fresh.db calls) later) :=
  ⟨fun _ failed => bindPrefectIdentity_error_logged runtime contract failed,
    prefectUnique_run runtime fresh calls,
    acknowledgedKept_run runtime _ later⟩

end Calls

/-- Nothing to bind: the submission is claimed but no dispatch has begun. -/
def claimedCalls : List (Call WholeFloat) :=
  [.claim candidateScreeningLaunchContract (sampleClaim none)]

theorem failed_binding_keeps_state_claimed :
    ∃ error, (bindPrefectIdentity sampleRuntime candidateScreeningLaunchContract sampleBinding
        (run (applyCall sampleRuntime) sampleStore.db claimedCalls)).1 = .error error ∧
      OnlyLogged (run (applyCall sampleRuntime) sampleStore.db claimedCalls)
        (bindPrefectIdentity sampleRuntime candidateScreeningLaunchContract sampleBinding
          (run (applyCall sampleRuntime) sampleStore.db claimedCalls)).2 := by
  have refused : (bindPrefectIdentity sampleRuntime candidateScreeningLaunchContract sampleBinding
      (run (applyCall sampleRuntime) sampleStore.db claimedCalls)).1.toOption.isNone = true := by
    decide +kernel
  cases outcome : (bindPrefectIdentity sampleRuntime candidateScreeningLaunchContract
      sampleBinding (run (applyCall sampleRuntime) sampleStore.db claimedCalls)).1 with
  | ok result =>
      rw [outcome] at refused
      cases refused
  | error error =>
      exact ⟨error, rfl, (failed_binding_keeps_state sampleRuntime sampleStore claimedCalls
        candidateScreeningLaunchContract sampleBinding []).1 error outcome⟩

end QuantFactory.Launch
