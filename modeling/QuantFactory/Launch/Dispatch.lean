import QuantFactory.Library.Runs
import QuantFactory.Launch.Effects

/-!
# Dispatch across clients

`dispatch` is not one transaction: it wins the marker, runs the injected
callable and settles in a transaction of its own.  A `System` is the database
with every dispatch in flight; its actions interleave the parts of all of them
with the other operations and with process exits, and it records each granted
permission and each started callable.
-/

set_option autoImplicit false

namespace QuantFactory.Launch

open QuantFactory.Library QuantFactory.Python QuantFactory.Persistence

structure ResearchDispatchResult where
  submission : ResearchRunSubmissionRecord
  invoked : Bool

inductive DispatchPhase where
  | granted (submission : ResearchRunSubmissionRecord)
  | invoking
  | raised (report : String)
  | returned
  | unacknowledged
  | finished (result : Except LaunchError ResearchDispatchResult)
  | exited

structure DispatchProcess where
  key : String
  dispatcher : String
  phase : DispatchPhase

inductive DispatchStep where
  | invoke
  | invokeRaised (report : String)
  | invokeReturned
  | settle (clock : Clock)
  | exit

inductive Observation where
  | granted (key : String)
  | invoked (key : String)
  deriving DecidableEq, Repr

def grantOf (key : String) : Except LaunchError ResearchDispatchDecision → List Observation
  | .ok decision => if decision.shouldInvoke then [.granted key] else []
  | .error _ => []

/-- The phase a dispatch call is in once `begin_dispatch` has come back. -/
def phaseAfterBegin : Except LaunchError ResearchDispatchDecision → DispatchPhase
  | .error error => .finished (.error error)
  | .ok decision =>
      if decision.shouldInvoke then .granted decision.submission
      else .finished (.ok ⟨decision.submission, false⟩)

/-- What `dispatch` raises after the callable raised and the row was marked. -/
def errorAfterRaise (report : String) :
    Except LaunchError ResearchRunSubmissionRecord → LaunchError
  | .error error => error
  | .ok current =>
      if current.state = .submissionUnknown then ⟨.invocationUnknown,
        "research submission outcome is unknown and will not be retried automatically"⟩
      else ⟨.invocationError,
        s!"research submission was acknowledged but invocation reported an error: {report}"⟩

def errorAfterReturn : Except LaunchError ResearchRunSubmissionRecord → LaunchError
  | .error error => error
  | .ok _ => ⟨.invocationUnknown, "research submission returned without durable acknowledgement"⟩

def unacknowledgedSummary : String :=
  "Prefect invocation returned without durable acknowledgement."

def phaseAfterRead (current : Option ResearchRunSubmissionRecord) : DispatchPhase :=
  match current with
  | none => .finished (.error ⟨.assertionError, ""⟩)
  | some submission =>
      if submission.state = .invoking then .unacknowledged
      else .finished (.ok ⟨submission, true⟩)

def dispatchStep (process : DispatchProcess) (step : DispatchStep) (db : Database) :
    DispatchPhase × Database :=
  match process.phase, step with
  | .granted _, .invoke => (.invoking, db)
  | .invoking, .invokeRaised report => (.raised report, db)
  | .invoking, .invokeReturned => (.returned, db)
  | .raised report, .settle clock =>
      let marked := markInvocationUnknown process.key process.dispatcher defaultUnknownSummary
        clock db
      (.finished (.error (errorAfterRaise report marked.1)), marked.2)
  | .returned, .settle _ =>
      (phaseAfterRead (ResearchRunSubmissionRepository.get db process.key), db)
  | .unacknowledged, .settle clock =>
      let marked := markInvocationUnknown process.key process.dispatcher unacknowledgedSummary
        clock db
      (.finished (.error (errorAfterReturn marked.1)), marked.2)
  | .finished result, _ => (.finished result, db)
  | _, .exit => (.exited, db)
  | phase, _ => (phase, db)

def startOf (process : DispatchProcess) (step : DispatchStep) : List Observation :=
  match process.phase, step with
  | .granted _, .invoke => [.invoked process.key]
  | _, _ => []

structure System where
  db : Database
  processes : List DispatchProcess
  observed : List Observation

inductive Action (F : Type) where
  | call (call : Call F)
  | dispatch (contract : ResearchLaunchContract) (key dispatcher : String) (clock : Clock)
  | advance (process : Nat) (step : DispatchStep)

section System
variable {F : Type} [PyFloat F] (runtime : PythonRuntime F)

/-- `begin_dispatch` may also be called on its own. -/
def observeCall (db : Database) : Call F → List Observation
  | .beginDispatch contract key dispatcher clock =>
      grantOf key (beginDispatch runtime contract key dispatcher clock db).1
  | _ => []

def advanceProcess (system : System) (index : Nat) (step : DispatchStep) : System :=
  match system.processes[index]? with
  | none => system
  | some process =>
      let moved := dispatchStep process step system.db
      { db := moved.2
        processes := system.processes.set index { process with phase := moved.1 }
        observed := startOf process step ++ system.observed }

def systemStep (system : System) : Action F → System
  | .call call =>
      { system with
        db := applyCall runtime system.db call
        observed := observeCall runtime system.db call ++ system.observed }
  | .dispatch contract key dispatcher clock =>
      let begun := beginDispatch runtime contract key dispatcher clock system.db
      { db := begun.2
        processes := { key, dispatcher, phase := phaseAfterBegin begun.1 } :: system.processes
        observed := grantOf key begun.1 ++ system.observed }
  | .advance index step => advanceProcess system index step

def startSystem (db : Database) : System := ⟨db, [], []⟩

end System

/-! ## The one-shot permission -/

/-- The row of a key has left Claimed, which it can never re-enter. -/
def Unclaimable (db : Database) (key : String) : Prop :=
  ∃ row, db.submissions.get key = some row ∧ row.state ≠ .claimed

theorem MarkerMove.leaves_claimed {before after : ResearchSubmissionState}
    (move : MarkerMove before after) : after ≠ .claimed := by
  cases move <;> nofun

theorem Settlement.leaves_claimed {before after : ResearchSubmissionState} {status : RunStatus}
    {event : RunEventType} (settles : Settlement before after status event) :
    after ≠ .claimed := by
  cases settles <;> nofun

theorem unclaimable_update {db : Database} {key : String} {row : ResearchRunSubmissionRecord}
    {change : SubmissionChange} (found : db.submissions.get row.idempotencyKey = some row)
    (left : (change.apply row).state ≠ .claimed) (spent : Unclaimable db key) :
    ∃ other, (db.submissions.update row.idempotencyKey change).get key = some other ∧
      other.state ≠ .claimed := by
  obtain ⟨old, oldFound, oldLeft⟩ := spent
  rw [Table.get_update]
  by_cases same : key = row.idempotencyKey
  · exact ⟨change.apply row, by rw [if_pos same, found]; rfl, left⟩
  · exact ⟨old, by rw [if_neg same]; exact oldFound, oldLeft⟩

theorem LaunchEffect.unclaimable {db next : Database} {key : String}
    (effect : LaunchEffect db next) (spent : Unclaimable db key) : Unclaimable next key := by
  cases effect with
  | unchanged => exact spent
  | logged event kind known => exact spent
  | created run row event runs submissions _ _ _ _ _ _ _ _ rowInserted =>
      obtain ⟨old, oldFound, oldLeft⟩ := spent
      have fresh := (Table.insert_some_iff.mp rowInserted).1
      refine ⟨old, ?_, oldLeft⟩
      change submissions.get key = some old
      rw [Table.get_insert rowInserted, if_neg, oldFound]
      rintro rfl
      rw [fresh] at oldFound
      cases oldFound
  | moved row change found _ _ move =>
      exact unclaimable_update found move.leaves_claimed spent
  | settled row run event change changeRun found _ _ _ _ _ _ settles =>
      exact unclaimable_update found settles.leaves_claimed spent

section AtMostOnce
variable {F : Type} [PyFloat F] (runtime : PythonRuntime F)

/-- A granted permission spends the key's one claimed row. -/
theorem beginDispatch_grant {contract : ResearchLaunchContract} {key dispatcher : String}
    {clock : Clock} {db : Database}
    (granted : grantOf key (beginDispatch runtime contract key dispatcher clock db).1 ≠ []) :
    grantOf key (beginDispatch runtime contract key dispatcher clock db).1 = [.granted key] ∧
      ¬ Unclaimable db key ∧
      Unclaimable (beginDispatch runtime contract key dispatcher clock db).2 key := by
  unfold beginDispatch immediate at granted ⊢
  cases outcome : beginDispatchBody runtime contract key dispatcher clock db with
  | error error => simp [outcome, grantOf] at granted
  | ok result =>
      obtain ⟨decision, next⟩ := result
      simp only [outcome] at granted ⊢
      obtain ⟨row, found, ⟨claimed, won, _, after, invoking, _⟩ | ⟨_, lost, _⟩⟩ :=
        beginDispatchBody_cases runtime contract outcome
      · refine ⟨by simp [grantOf, won], ?_, ⟨_, after, by simp [invoking]⟩⟩
        rintro ⟨other, otherFound, left⟩
        rw [found] at otherFound
        cases otherFound
        exact left claimed
      · simp [grantOf, lost] at granted

def awaitsInvoke (key : String) (process : DispatchProcess) : Bool :=
  match process.phase with
  | .granted _ => process.key = key
  | _ => false

/-- Grants are spent on distinct claimed rows; a callable starts only on a grant
that no other start has used. -/
structure OneShot (key : String) (system : System) : Prop where
  granted_once : system.observed.count (.granted key) ≤ 1
  granted_spent : 0 < system.observed.count (.granted key) → Unclaimable system.db key
  started_granted : system.observed.count (.invoked key) +
    system.processes.countP (awaitsInvoke key) ≤ system.observed.count (.granted key)

theorem oneShot_start (key : String) (db : Database) : OneShot key (startSystem db) where
  granted_once := Nat.zero_le 1
  granted_spent := fun positive => absurd positive (Nat.lt_irrefl 0)
  started_granted := Nat.le_refl 0

theorem oneShot_of_effect {key : String} {system : System} {next : Database}
    (holds : OneShot key system) (effect : LaunchEffect system.db next) :
    OneShot key { system with db := next } where
  granted_once := holds.granted_once
  granted_spent := fun positive => effect.unclaimable (holds.granted_spent positive)
  started_granted := holds.started_granted

theorem grantOf_other {key other : String} (differs : other ≠ key)
    (result : Except LaunchError ResearchDispatchDecision) :
    (grantOf other result).count (.granted key) = 0 := by
  cases result with
  | error error => rfl
  | ok decision => cases h : decision.shouldInvoke <;> simp [grantOf, h, differs]

theorem grantOf_invoked (key other : String)
    (result : Except LaunchError ResearchDispatchDecision) :
    (grantOf other result).count (.invoked key) = 0 := by
  cases result with
  | error error => rfl
  | ok decision => cases h : decision.shouldInvoke <;> simp [grantOf, h]

theorem awaitsInvoke_after_begin (key other dispatcher : String)
    (result : Except LaunchError ResearchDispatchDecision) :
    (if awaitsInvoke key ⟨other, dispatcher, phaseAfterBegin result⟩ then 1 else 0) =
      (grantOf other result).count (.granted key) := by
  cases result with
  | error error => rfl
  | ok decision => cases h : decision.shouldInvoke <;> simp [grantOf, phaseAfterBegin,
      awaitsInvoke, h, List.count_singleton]

theorem oneShot_begin {key : String} {system : System} (holds : OneShot key system)
    (contract : ResearchLaunchContract) (other dispatcher : String) (clock : Clock)
    (processes : List DispatchProcess)
    (bounded : processes.countP (awaitsInvoke key) ≤ system.processes.countP (awaitsInvoke key) +
      (grantOf other (beginDispatch runtime contract other dispatcher clock
        system.db).1).count (.granted key)) :
    OneShot key {
      db := (beginDispatch runtime contract other dispatcher clock system.db).2
      processes := processes
      observed := grantOf other (beginDispatch runtime contract other dispatcher clock
        system.db).1 ++ system.observed } := by
  have effect := beginDispatch_effect runtime contract other dispatcher clock system.db
  have invoked := grantOf_invoked key other
    (beginDispatch runtime contract other dispatcher clock system.db).1
  have started := holds.started_granted
  have once := holds.granted_once
  by_cases grants : (grantOf other (beginDispatch runtime contract other dispatcher clock
      system.db).1).count (.granted key) = 0
  · refine ⟨?_, ?_, ?_⟩
    · simp only [List.count_append, grants]
      omega
    · simp only [List.count_append, grants]
      intro positive
      exact effect.unclaimable (holds.granted_spent (by omega))
    · simp only [List.count_append, grants, invoked]
      omega
  · have same : other = key := by
      by_contra differs
      exact grants (grantOf_other differs _)
    subst same
    have nonempty : grantOf other (beginDispatch runtime contract other dispatcher clock
        system.db).1 ≠ [] := by
      intro none
      exact grants (by rw [none]; rfl)
    obtain ⟨single, claimable, spent⟩ := beginDispatch_grant runtime nonempty
    have unspent : system.observed.count (.granted other) = 0 := by
      by_contra positive
      exact claimable (holds.granted_spent (by omega))
    rw [single] at bounded ⊢
    refine ⟨?_, fun _ => spent, ?_⟩
    · simp [unspent]
    · simp only [List.count_append, List.count_singleton_self, unspent,
        List.count_singleton] at bounded ⊢
      simp only [reduceCtorEq, beq_iff_eq, if_false]
      omega

theorem dispatchStep_effect (process : DispatchProcess) (step : DispatchStep) (db : Database) :
    LaunchEffect db (dispatchStep process step db).2 := by
  unfold dispatchStep
  split
  · exact .unchanged
  · exact .unchanged
  · exact .unchanged
  · exact markInvocationUnknown_effect _ _ _ _ db
  · exact .unchanged
  · exact markInvocationUnknown_effect _ _ _ _ db
  · exact .unchanged
  · exact .unchanged
  · exact .unchanged

theorem phaseAfterRead_awaits (key other dispatcher : String)
    (current : Option ResearchRunSubmissionRecord) :
    awaitsInvoke key ⟨other, dispatcher, phaseAfterRead current⟩ = false := by
  cases current with
  | none => rfl
  | some submission => by_cases h : submission.state = .invoking <;> simp [phaseAfterRead, h,
      awaitsInvoke]

/-- Starting the callable uses the permission up; no step brings one back. -/
theorem dispatchStep_awaits (key : String) (process : DispatchProcess) (step : DispatchStep)
    (db : Database) :
    (startOf process step).count (.invoked key) +
        (if awaitsInvoke key { process with phase := (dispatchStep process step db).1 }
          then 1 else 0) ≤
      if awaitsInvoke key process then 1 else 0 := by
  obtain ⟨other, dispatcher, phase⟩ := process
  cases phase with
  | granted submission =>
      cases step with
      | invoke => simp [startOf, dispatchStep, awaitsInvoke, List.count_singleton]
      | _ => simp [startOf, dispatchStep, awaitsInvoke]
  | returned =>
      cases step with
      | settle clock => simp [startOf, dispatchStep, phaseAfterRead_awaits]
      | _ => simp [startOf, dispatchStep, awaitsInvoke]
  | _ => cases step <;> simp [startOf, dispatchStep, awaitsInvoke]

theorem startOf_granted (key : String) (process : DispatchProcess) (step : DispatchStep) :
    (startOf process step).count (.granted key) = 0 := by
  unfold startOf
  split
  · simp
  · rfl

theorem oneShot_advance {key : String} {system : System} (holds : OneShot key system)
    (index : Nat) (step : DispatchStep) : OneShot key (advanceProcess system index step) := by
  unfold advanceProcess
  cases found : system.processes[index]? with
  | none => exact holds
  | some process =>
      obtain ⟨inRange, rfl⟩ := List.getElem?_eq_some_iff.mp found
      have started := holds.started_granted
      have uses := dispatchStep_awaits key system.processes[index] step system.db
      have present : (if awaitsInvoke key system.processes[index] then 1 else 0) ≤
          system.processes.countP (awaitsInvoke key) := List.boole_getElem_le_countP inRange
      have grants := startOf_granted key system.processes[index] step
      refine ⟨?_, ?_, ?_⟩
      · simp only [List.count_append, grants, Nat.zero_add]
        exact holds.granted_once
      · simp only [List.count_append, grants, Nat.zero_add]
        intro positive
        exact (dispatchStep_effect _ step system.db).unclaimable (holds.granted_spent positive)
      · simp only [List.count_append, grants, Nat.zero_add, List.countP_set inRange]
        omega

theorem oneShot_step (key : String) (system : System) (action : Action F)
    (holds : OneShot key system) : OneShot key (systemStep runtime system action) := by
  cases action with
  | call call =>
      cases call with
      | beginDispatch contract other dispatcher clock =>
          exact oneShot_begin runtime holds contract other dispatcher clock system.processes
            (Nat.le_add_right _ _)
      | _ => exact oneShot_of_effect holds (applyCall_effect runtime system.db _)
  | dispatch contract other dispatcher clock =>
      refine oneShot_begin runtime holds contract other dispatcher clock _ ?_
      rw [List.countP_cons, awaitsInvoke_after_begin]
  | advance index step => exact oneShot_advance holds index step

/-- Over any interleaving, a key's permission is granted at most once and its
callable is started at most once. -/
theorem launch_at_most_once (db : Database) (actions : List (Action F)) (key : String) :
    (run (systemStep runtime) (startSystem db) actions).observed.count (.granted key) ≤ 1 ∧
      (run (systemStep runtime) (startSystem db) actions).observed.count (.invoked key) ≤ 1 := by
  have holds := run_invariant (systemStep runtime) (oneShot_step runtime key) actions
    (startSystem db) (oneShot_start key db)
  have started := holds.started_granted
  have once := holds.granted_once
  exact ⟨once, by omega⟩

end AtMostOnce

end QuantFactory.Launch
