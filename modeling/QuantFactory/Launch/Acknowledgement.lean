import QuantFactory.Launch.Coupling
import QuantFactory.Launch.Dispatch

/-!
# Acknowledged dispatches

A dispatch whose callable returned reads its submission back and reports success
in every state but Invoking.  While no other operation turns the submission
Unknown between the grant and that read, the state it reports is Acknowledged.
-/

set_option autoImplicit false

namespace QuantFactory.Launch

open QuantFactory.Library QuantFactory.Python QuantFactory.Persistence

/-- The state of the submission a dispatch returned after it had started its callable. -/
def successState : DispatchPhase → Option ResearchSubmissionState
  | .finished (.ok ⟨submission, true⟩) => some submission.state
  | _ => none

def SuccessAcknowledged (system : System) : Prop :=
  ∀ process ∈ system.processes, ∀ state, successState process.phase = some state →
    state = .acknowledged

/-- The phases from the grant to the read that follows the callable. -/
def inFlight (process : DispatchProcess) : Bool :=
  match process.phase with
  | .granted _ => true
  | .invoking => true
  | .returned => true
  | _ => false

def holdsMarker (key : String) (process : DispatchProcess) : Bool :=
  match process.phase with
  | .finished _ => false
  | .exited => false
  | _ => process.key = key

def Bound (state : ResearchSubmissionState) : Prop := state = .invoking ∨ state = .acknowledged

def OnItsWay (db : Database) (key : String) : Prop :=
  ∃ row, db.submissions.get key = some row ∧ Bound row.state

section Condition
variable {F : Type} [PyFloat F] (runtime : PythonRuntime F)

def LosesMarker (db : Database) (call : Call F) (key : String) : Prop :=
  ∃ row after, db.submissions.get key = some row ∧ row.state = .invoking ∧
    (applyCall runtime db call).submissions.get key = some after ∧
    after.state = .submissionUnknown

/-- No other operation loses the marker of a dispatch that is in flight. -/
def Undisturbed (system : System) : Action F → Prop
  | .call call => ∀ process ∈ system.processes, inFlight process = true →
      ¬ LosesMarker runtime system.db call process.key
  | _ => True

end Condition

/-! ## One marker a key -/

def MarkersGranted (key : String) (system : System) : Prop :=
  system.processes.countP (holdsMarker key) ≤ system.observed.count (.granted key)

theorem holdsMarker_after_begin (key other dispatcher : String)
    (result : Except LaunchError ResearchDispatchDecision) :
    (if holdsMarker key ⟨other, dispatcher, phaseAfterBegin result⟩ then 1 else 0) =
      (grantOf other result).count (.granted key) := by
  cases result with
  | error error => rfl
  | ok decision => cases h : decision.shouldInvoke <;> simp [grantOf, phaseAfterBegin,
      holdsMarker, h, List.count_singleton]

theorem holdsMarker_step (key : String) (process : DispatchProcess) (step : DispatchStep)
    (db : Database)
    (held : holdsMarker key { process with phase := (dispatchStep process step db).1 } = true) :
    holdsMarker key process = true := by
  obtain ⟨other, dispatcher, phase⟩ := process
  cases phase with
  | finished result => cases step <;> simp [dispatchStep, holdsMarker] at held
  | exited => cases step <;> simp [dispatchStep, holdsMarker] at held
  | _ =>
      have named : other = key := by
        unfold holdsMarker at held
        split at held
        · cases held
        · cases held
        · simpa using held
      simp [holdsMarker, named]

section Markers
variable {F : Type} [PyFloat F] (runtime : PythonRuntime F)

theorem markersGranted_step (key : String) (system : System) (action : Action F)
    (holds : MarkersGranted key system) :
    MarkersGranted key (systemStep runtime system action) := by
  unfold MarkersGranted at holds ⊢
  cases action with
  | call call =>
      simp only [systemStep, List.count_append]
      omega
  | dispatch contract other dispatcher clock =>
      simp only [systemStep, List.count_append, List.countP_cons, holdsMarker_after_begin]
      omega
  | advance index step =>
      simp only [systemStep, advanceProcess]
      split
      · exact holds
      · rename_i process found
        obtain ⟨inRange, same⟩ := List.getElem?_eq_some_iff.mp found
        have present : (if holdsMarker key system.processes[index] then 1 else 0) ≤
            system.processes.countP (holdsMarker key) := List.boole_getElem_le_countP inRange
        have kept : (if holdsMarker key { process with
              phase := (dispatchStep process step system.db).1 } then 1 else 0) ≤
            if holdsMarker key process then 1 else 0 := by
          split
          · rename_i held
            rw [if_pos (holdsMarker_step key process step system.db held)]
          · exact Nat.zero_le _
        rw [same] at present
        simp only [List.count_append, List.countP_set inRange, same]
        omega

end Markers

theorem pair_of_countP_le_one {α : Type} {p : α → Bool} {items : List α} (bound : items.countP p ≤ 1)
    {i j : Nat} (iRange : i < items.length) (jRange : j < items.length)
    (iHolds : p items[i] = true) (jHolds : p items[j] = true) : i = j := by
  induction items generalizing i j with
  | nil => cases iRange
  | cons item rest ih =>
      have none : ∀ k (kRange : k < rest.length), p item = true → p rest[k] ≠ true := by
        intro k kRange first other
        rw [List.countP_cons, if_pos first] at bound
        have positive : 0 < rest.countP p :=
          List.countP_pos_iff.mpr ⟨rest[k], List.getElem_mem kRange, other⟩
        omega
      cases i with
      | zero =>
          cases j with
          | zero => rfl
          | succ j => exact absurd jHolds (none j (by simpa using jRange) iHolds)
      | succ i =>
          cases j with
          | zero => exact absurd iHolds (none i (by simpa using iRange) jHolds)
          | succ j =>
              have fewer : rest.countP p ≤ 1 := by
                rw [List.countP_cons] at bound
                omega
              rw [ih fewer (by simpa using iRange) (by simpa using jRange) iHolds jHolds]

/-! ## What the steps do to a row on its way -/

theorem updateWhere_get_of_ne {db : Database} {key other : String}
    {allowed : List ResearchSubmissionState} {change : SubmissionChange} (differs : other ≠ key) :
    (ResearchRunSubmissionRepository.updateWhere db key allowed change).1.submissions.get other =
      db.submissions.get other := by
  unfold ResearchRunSubmissionRepository.updateWhere
  split
  · rfl
  · split
    · exact Table.get_update_of_ne _ _ _ differs
    · rfl

theorem updateWhere_get_of_refused {db : Database} {key : String}
    {row : ResearchRunSubmissionRecord} {allowed : List ResearchSubmissionState}
    {change : SubmissionChange} (found : db.submissions.get key = some row)
    (refused : row.state ∉ allowed) (other : String) :
    (ResearchRunSubmissionRepository.updateWhere db key allowed change).1.submissions.get other =
      db.submissions.get other := by
  rw [updateWhere_of_refused found refused]

theorem markInvocationUnknown_get_of_ne {db : Database} {key dispatcher summary other : String}
    {clock : Clock} (differs : other ≠ key) :
    (markInvocationUnknown key dispatcher summary clock db).2.submissions.get other =
      db.submissions.get other := by
  unfold markInvocationUnknown immediate
  cases outcome : markInvocationUnknownBody key dispatcher summary clock db with
  | error error => rfl
  | ok result =>
      obtain ⟨current, next⟩ := result
      unfold markInvocationUnknownBody at outcome
      simp only [bind_eq_ok] at outcome
      obtain ⟨named, keyValid, _, _, _, _, row, _, outcome⟩ := outcome
      have sameKey : named = key := by
        unfold validateLaunchKey at keyValid
        split at keyValid
        · exact (Except.ok.inj keyValid).symm
        · cases keyValid
      subst sameKey
      split at outcome
      · obtain ⟨_, finished⟩ := guard_eq_ok.mp outcome
        cases Except.ok.inj finished
        rfl
      · split at outcome
        · cases Except.ok.inj outcome
          rfl
        · obtain ⟨_, outcome⟩ := guard_eq_ok.mp outcome
          obtain ⟨_, outcome⟩ := guard_eq_ok.mp outcome
          simp only [bind_eq_ok] at outcome
          obtain ⟨_, _, _, _, finished⟩ := outcome
          cases Except.ok.inj finished
          exact updateWhere_get_of_ne differs

/-- An operation moves a row on its way towards its acknowledgement, or loses it. -/
theorem LaunchEffect.onItsWay {db next : Database} {key : String} (effect : LaunchEffect db next)
    (way : OnItsWay db key) :
    OnItsWay next key ∨ ∃ row after, db.submissions.get key = some row ∧ row.state = .invoking ∧
      next.submissions.get key = some after ∧ after.state = .submissionUnknown := by
  obtain ⟨row, found, bound⟩ := way
  obtain ⟨after, afterFound, advance⟩ := effect.advances.kept key row found
  rcases bound with invoking | acknowledged
  · rcases advance.move with same | moved
    · exact .inl ⟨after, afterFound, .inl (same.trans invoking)⟩
    · rw [invoking] at moved
      generalize reached : after.state = state at moved
      cases moved with
      | lose => exact .inr ⟨row, after, found, invoking, afterFound, reached⟩
      | acknowledge => exact .inl ⟨after, afterFound, .inr reached⟩
  · rcases advance.move with same | moved
    · exact .inl ⟨after, afterFound, .inr (same.trans acknowledged)⟩
    · rw [acknowledged] at moved
      cases moved

section Steps
variable {F : Type} [PyFloat F] (runtime : PythonRuntime F)

theorem beginDispatch_onItsWay {contract : ResearchLaunchContract} {key dispatcher other : String}
    {clock : Clock} {db : Database} (way : OnItsWay db other) :
    OnItsWay (beginDispatch runtime contract key dispatcher clock db).2 other := by
  unfold beginDispatch immediate
  cases outcome : beginDispatchBody runtime contract key dispatcher clock db with
  | error error => exact way
  | ok result =>
      obtain ⟨decision, next⟩ := result
      obtain ⟨row, found, bound⟩ := way
      unfold beginDispatchBody at outcome
      simp only [bind_eq_ok, getSubmission_eq_ok] at outcome
      obtain ⟨named, _, _, _, existing, existingFound, _, _, _, _, finished⟩ := outcome
      cases Except.ok.inj finished
      refine ⟨row, ?_, bound⟩
      by_cases same : other = named
      · subst same
        rw [found] at existingFound
        cases existingFound
        have refused : row.state ∉ [ResearchSubmissionState.claimed] := by
          rcases bound with invoking | acknowledged
          · simp [invoking]
          · simp [acknowledged]
        rw [← found]
        exact updateWhere_get_of_refused found refused other
      · rw [← found]
        exact updateWhere_get_of_ne same

theorem beginDispatch_granted {contract : ResearchLaunchContract} {key dispatcher : String}
    {clock : Clock} {db : Database}
    (granted : inFlight ⟨key, dispatcher, phaseAfterBegin
      (beginDispatch runtime contract key dispatcher clock db).1⟩ = true) :
    OnItsWay (beginDispatch runtime contract key dispatcher clock db).2 key := by
  unfold beginDispatch immediate at granted ⊢
  cases outcome : beginDispatchBody runtime contract key dispatcher clock db with
  | error error => simp [outcome, phaseAfterBegin, inFlight] at granted
  | ok result =>
      obtain ⟨decision, next⟩ := result
      obtain ⟨row, _, ⟨_, _, _, after, invoking, _⟩ | ⟨_, lost, _⟩⟩ :=
        beginDispatchBody_cases runtime contract outcome
      · exact ⟨decision.submission, after, .inl invoking⟩
      · simp [outcome, phaseAfterBegin, inFlight, lost] at granted

end Steps

/-- A step of a dispatch leaves the database, or reports its own marker lost. -/
theorem dispatchStep_db (process : DispatchProcess) (step : DispatchStep) (db : Database) :
    (dispatchStep process step db).2 = db ∨
      holdsMarker process.key process = true ∧
        inFlight { process with phase := (dispatchStep process step db).1 } = false ∧
        ∃ summary clock, (dispatchStep process step db).2 =
          (markInvocationUnknown process.key process.dispatcher summary clock db).2 := by
  obtain ⟨key, dispatcher, phase⟩ := process
  cases phase with
  | raised report =>
      cases step with
      | settle clock =>
          exact .inr ⟨by simp [holdsMarker], rfl, defaultUnknownSummary, clock, rfl⟩
      | _ => exact .inl rfl
  | unacknowledged =>
      cases step with
      | settle clock =>
          exact .inr ⟨by simp [holdsMarker], rfl, unacknowledgedSummary, clock, rfl⟩
      | _ => exact .inl rfl
  | _ => cases step <;> exact .inl rfl

theorem dispatchStep_inFlight (process : DispatchProcess) (step : DispatchStep) (db : Database)
    (after : inFlight { process with phase := (dispatchStep process step db).1 } = true) :
    inFlight process = true := by
  obtain ⟨key, dispatcher, phase⟩ := process
  cases phase with
  | granted submission => rfl
  | invoking => rfl
  | returned => rfl
  | _ => cases step <;> simp [dispatchStep, inFlight] at after

/-- The read of a row on its way reports success only on an acknowledged row. -/
theorem dispatchStep_success (process : DispatchProcess) (step : DispatchStep) (db : Database)
    (way : inFlight process = true → OnItsWay db process.key)
    (before : ∀ state, successState process.phase = some state → state = .acknowledged)
    {state : ResearchSubmissionState}
    (success : successState (dispatchStep process step db).1 = some state) :
    state = .acknowledged := by
  obtain ⟨key, dispatcher, phase⟩ := process
  cases phase with
  | returned =>
      cases step with
      | settle clock =>
          obtain ⟨row, found, bound⟩ := way rfl
          simp only [dispatchStep, ResearchRunSubmissionRepository.get, found,
            phaseAfterRead] at success
          split at success
          · cases success
          · rename_i notInvoking
            cases Option.some.inj success
            exact bound.resolve_left notInvoking
      | _ => cases success
  | finished result => exact before state (by cases step <;> exact success)
  | _ => cases step <;> cases success

/-! ## Over every run -/

/-- The rows of all dispatches in flight are on their way, and every success so
far was acknowledged. -/
structure Acknowledging (system : System) : Prop where
  once : ∀ key, OneShot key system
  markers : ∀ key, MarkersGranted key system
  onItsWay : ∀ process ∈ system.processes, inFlight process = true →
    OnItsWay system.db process.key
  success : SuccessAcknowledged system

theorem inFlight_holdsMarker {process : DispatchProcess} (live : inFlight process = true) :
    holdsMarker process.key process = true := by
  obtain ⟨key, dispatcher, phase⟩ := process
  cases phase <;> simp [inFlight, holdsMarker] at live ⊢

section Run
variable {F : Type} [PyFloat F] (runtime : PythonRuntime F)

theorem acknowledging_call {system : System} (holds : Acknowledging system) (call : Call F)
    (undisturbed : Undisturbed runtime system (.call call)) :
    Acknowledging (systemStep runtime system (.call call)) where
  once key := oneShot_step runtime key system (.call call) (holds.once key)
  markers key := markersGranted_step runtime key system (.call call) (holds.markers key)
  onItsWay process member live := by
    have way := holds.onItsWay process member live
    exact ((applyCall_effect runtime system.db call).onItsWay way).resolve_right
      (undisturbed process member live)
  success := holds.success

theorem acknowledging_dispatch {system : System} (holds : Acknowledging system)
    (contract : ResearchLaunchContract) (key dispatcher : String) (clock : Clock) :
    Acknowledging (systemStep runtime system
      (.dispatch (F := F) contract key dispatcher clock)) where
  once other := oneShot_step runtime other system _ (holds.once other)
  markers other := markersGranted_step runtime other system _ (holds.markers other)
  onItsWay process member live := by
    rcases List.mem_cons.mp member with rfl | inRest
    · exact beginDispatch_granted runtime live
    · exact beginDispatch_onItsWay runtime (holds.onItsWay process inRest live)
  success process member state returned := by
    rcases List.mem_cons.mp member with rfl | inRest
    · simp only [phaseAfterBegin] at returned
      split at returned
      · cases returned
      · split at returned
        · cases returned
        · cases returned
    · exact holds.success process inRest state returned

theorem acknowledging_advance {system : System} (holds : Acknowledging system) (index : Nat)
    (step : DispatchStep) : Acknowledging (systemStep runtime system (.advance (F := F) index step))
    where
  once key := oneShot_step runtime key system _ (holds.once key)
  markers key := markersGranted_step runtime key system _ (holds.markers key)
  onItsWay process member live := by
    simp only [systemStep, advanceProcess] at member ⊢
    split at member
    · rename_i absent
      exact holds.onItsWay process member live
    · rename_i moved found
      obtain ⟨inRange, same⟩ := List.getElem?_eq_some_iff.mp found
      have movedMember : moved ∈ system.processes := same ▸ List.getElem_mem inRange
      obtain ⟨other, otherRange, isOther⟩ := List.getElem_of_mem member
      rw [List.getElem_set] at isOther
      rw [List.length_set] at otherRange
      split at isOther
      · -- the process that took the step
        subst isOther
        have way := holds.onItsWay moved movedMember
          (dispatchStep_inFlight moved step system.db live)
        rcases dispatchStep_db moved step system.db with unchanged | ⟨_, ended, _⟩
        · rw [unchanged]
          exact way
        · rw [ended] at live
          cases live
      · -- another process, whose key the step does not write
        rename_i differs
        subst isOther
        have way := holds.onItsWay _ (List.getElem_mem otherRange) live
        rcases dispatchStep_db moved step system.db with unchanged | ⟨held, _, summary, clock,
          marked⟩
        · rw [unchanged]
          exact way
        · rw [marked]
          have otherKey : system.processes[other].key ≠ moved.key := by
            intro sameKey
            have single := (holds.markers moved.key).trans (holds.once moved.key).granted_once
            have movedHeld : holdsMarker moved.key system.processes[index] = true := by
              rw [same]
              exact held
            have otherHeld : holdsMarker moved.key system.processes[other] = true :=
              sameKey ▸ inFlight_holdsMarker live
            exact differs (pair_of_countP_le_one single inRange otherRange movedHeld otherHeld)
          obtain ⟨row, rowFound, bound⟩ := way
          exact ⟨row, by rw [markInvocationUnknown_get_of_ne otherKey]; exact rowFound, bound⟩
  success process member state returned := by
    simp only [systemStep, advanceProcess] at member
    split at member
    · exact holds.success process member state returned
    · rename_i moved found
      obtain ⟨inRange, same⟩ := List.getElem?_eq_some_iff.mp found
      have movedMember : moved ∈ system.processes := same ▸ List.getElem_mem inRange
      rcases List.mem_or_eq_of_mem_set member with old | isMoved
      · exact holds.success process old state returned
      · subst isMoved
        exact dispatchStep_success moved step system.db (holds.onItsWay moved movedMember)
          (holds.success moved movedMember) returned

theorem acknowledging_start (db : Database) : Acknowledging (startSystem db) where
  once key := oneShot_start key db
  markers key := Nat.le_refl 0
  onItsWay process member := by cases member
  success process member := by cases member

/-- Over every interleaving in which no other operation loses the marker of a
dispatch in flight, each dispatch that reports success was acknowledged. -/
theorem dispatch_success_acknowledged (db : Database) (actions : List (Action F))
    (undisturbed : Along (systemStep runtime) (Undisturbed runtime) (startSystem db) actions) :
    SuccessAcknowledged (run (systemStep runtime) (startSystem db) actions) := by
  refine (run_invariant_along (systemStep runtime) ?_ actions (startSystem db) undisturbed
    (acknowledging_start db)).success
  intro system action allowed holds
  cases action with
  | call call => exact acknowledging_call runtime holds call allowed
  | dispatch contract key dispatcher clock =>
      exact acknowledging_dispatch runtime holds contract key dispatcher clock
  | advance index step => exact acknowledging_advance runtime holds index step

end Run

def startedActions : List (Action WholeFloat) := [
  .call (.claim candidateScreeningLaunchContract (sampleClaim none)),
  .dispatch candidateScreeningLaunchContract sampleKey sampleDispatcher sampleClock,
  .advance 0 .invoke]

/-- The process that invokes is taken for departed while its callable runs. -/
def lostActions : List (Action WholeFloat) := startedActions ++ [
  .call (.recoverInvokingAfterProcessExit sampleKey sampleDispatcher "exit-report-1" sampleClock),
  .advance 0 .invokeReturned, .advance 0 (.settle sampleClock)]

def boundActions : List (Action WholeFloat) := startedActions ++ [
  .call (.bindPrefectIdentity candidateScreeningLaunchContract sampleBinding),
  .advance 0 .invokeReturned, .advance 0 (.settle sampleClock)]

def reportedStates (actions : List (Action WholeFloat)) :
    List (Option ResearchSubmissionState) :=
  (run (systemStep sampleRuntime) (startSystem sampleDatabase) actions).processes.map
    fun process => successState process.phase

/-- The callable returns after its submission was recovered as Unknown, and the
dispatch reports success. -/
theorem dispatch_success_unacknowledged : ¬ SuccessAcknowledged
    (run (systemStep sampleRuntime) (startSystem sampleDatabase) lostActions) := by
  intro acknowledged
  have reported : reportedStates lostActions = [some .submissionUnknown] := by decide +kernel
  obtain ⟨process, member, state⟩ := List.mem_map.mp (reported ▸ List.mem_singleton_self _)
  cases acknowledged process member _ state

theorem dispatch_success_acknowledged_bound :
    SuccessAcknowledged
        (run (systemStep sampleRuntime) (startSystem sampleDatabase) boundActions) ∧
      reportedStates boundActions = [some .acknowledged] := by
  refine ⟨dispatch_success_acknowledged sampleRuntime sampleDatabase boundActions ?_,
    by decide +kernel⟩
  refine ⟨?_, trivial, trivial, ?_, trivial, trivial, trivial⟩
  · intro process member
    cases member
  · intro process member live
    rintro ⟨row, after, found, invoking, afterFound, unknown⟩
    have keys : (run (systemStep sampleRuntime) (startSystem sampleDatabase)
        startedActions).processes.map (fun process => process.key) = [sampleKey] := by
      decide +kernel
    have isKey : process.key = sampleKey :=
      List.mem_singleton.mp (keys ▸ List.mem_map_of_mem member)
    have state : ((applyCall sampleRuntime (run (systemStep sampleRuntime)
        (startSystem sampleDatabase) startedActions).db (.bindPrefectIdentity
          candidateScreeningLaunchContract sampleBinding)).submissions.get sampleKey).map
            (fun row => row.state) = some .acknowledged := by decide +kernel
    have same : some after.state = some .acknowledged := by
      rw [← state, ← isKey]
      exact (congrArg (Option.map fun row => row.state) afterFound).symm
    rw [unknown] at same
    cases same

end QuantFactory.Launch
