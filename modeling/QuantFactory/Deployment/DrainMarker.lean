import QuantFactory.Deployment.Passes

/-!
# The drain marker and the request that waits

A pass that finds tests running leaves the marker behind and is forgotten: the next pass of
the timer starts without its flags.  What ends before the drain check leaves the marker as
it was.
-/

set_option autoImplicit false

namespace QuantFactory.Deployment

open QuantFactory.Library

/-! ## What a pass does to the marker -/

section Marker
variable {answers : PassAnswers} {request : DeployRequest} {world : DeployWorld}

/-- A pass defers exactly when it comes to the drain check while tests run. -/
theorem deploy_defers_iff :
    (deploy answers request world).2.toOption = some .deferred ↔
      answers.mustWait = true ∧
        ∃ target, deployCourse answers request (answers.stateOf world) = .checks target := by
  rw [deploy]
  cases course : deployCourse answers request (answers.stateOf world) with
  | ends ending =>
      have early : ending ≠ .deferred := by
        rintro rfl
        rw [deployCourse] at course
        repeat' split at course
        all_goals cases course
      simp [Except.toOption, early]
  | raises exc => simp [Except.toOption]
  | nothingToDo =>
      cases request.unpin with
      | false => simp [Except.toOption]
      | true => cases raised : answers.unpinning.raised <;> simp [writeState, raised, Except.toOption]
  | checks target =>
      by_cases wait : answers.mustWait = true
      · simp [wait, Except.toOption]
      · dsimp only
        rw [if_neg wait]
        refine iff_of_false ?_ fun waits => wait waits.1
        intro deferred
        cases returned : (guardedSwitch answers target (answers.stateOf world)
            request.requested.isSome
            { world with marker := clearDrainMarker world.marker answers.markerRemoved }).2 with
        | error exc =>
            rw [returned] at deferred
            cases deferred
        | ok ending =>
            rw [returned, guardedSwitch_ok returned] at deferred
            cases deferred

def ReachesClear (answers : PassAnswers) (request : DeployRequest) (record : DeployedRecord) :
    Prop :=
  ∃ target drift, PassesGuards answers request record target drift ∧
    (IsLive request record target drift → request.unpin = true → answers.unpinning.raised = none)

theorem deploy_marker (proceeds : (deploy answers request world).2.toOption ≠ some .deferred) :
    (ReachesClear answers request (answers.stateOf world) ∧
        (deploy answers request world).1.marker =
          clearDrainMarker world.marker answers.markerRemoved) ∨
      ¬ReachesClear answers request (answers.stateOf world) ∧
        (deploy answers request world).1.marker = world.marker := by
  rw [Ne, deploy_defers_iff] at proceeds
  rw [deploy]
  cases course : deployCourse answers request (answers.stateOf world) with
  | ends ending =>
      right
      refine ⟨?_, rfl⟩
      rintro ⟨target, drift, guards, -⟩
      obtain ⟨live, check⟩ := deployCourse_of_guards guards
      by_cases already : IsLive request (answers.stateOf world) target drift
      · rw [live already] at course
        cases course
      · rw [check already] at course
        cases course
  | raises exc =>
      right
      refine ⟨?_, rfl⟩
      rintro ⟨target, drift, guards, -⟩
      obtain ⟨live, check⟩ := deployCourse_of_guards guards
      by_cases already : IsLive request (answers.stateOf world) target drift
      · rw [live already] at course
        cases course
      · rw [check already] at course
        cases course
  | nothingToDo =>
      obtain ⟨target, drift, guards, live⟩ := deployCourse_nothingToDo.mp course
      cases unpin : request.unpin with
      | false => exact .inl ⟨⟨target, drift, guards, by simp [unpin]⟩, rfl⟩
      | true =>
          rw [writeState]
          cases raised : answers.unpinning.raised with
          | none => exact .inl ⟨⟨target, drift, guards, fun _ _ => raised⟩, rfl⟩
          | some exc =>
              right
              refine ⟨?_, rfl⟩
              rintro ⟨other, files, others, cleared⟩
              obtain ⟨rfl, rfl⟩ := guards.unique others
              have written := cleared live unpin
              rw [raised] at written
              cases written
  | checks target =>
      obtain ⟨drift, guards, other⟩ := deployCourse_checks.mp course
      have runs : ¬answers.mustWait = true := fun wait => proceeds ⟨wait, target, course⟩
      left
      refine ⟨⟨target, drift, guards, fun live => absurd live other⟩, ?_⟩
      dsimp only
      rw [if_neg runs, guardedSwitch_marker]

end Marker

/-- There was no marker, or the pass comes to clear it and can. -/
def MarkerCleared (world : DeployWorld) (pass : DeployPass) : Prop :=
  world.marker = none ∨
    ReachesClear pass.answers pass.request (pass.answers.stateOf world) ∧
      pass.answers.markerRemoved = true

theorem apply_marker (world : DeployWorld) (pass : DeployPass) :
    (pass.apply world).marker = (deploy pass.answers pass.request world).1.marker := by
  obtain ⟨pending, failure, left⟩ :=
    mainPass_fst pass.answers pass.request world
  rw [DeployPass.apply, left]

/-- Behind a pass that did not defer the marker is gone exactly when it was or is cleared. -/
theorem marker_absent_iff {world : DeployWorld} {pass : DeployPass}
    (proceeds : pass.defers world = false) :
    (pass.apply world).marker = none ↔ MarkerCleared world pass := by
  have other : (deploy pass.answers pass.request world).2.toOption ≠ some .deferred := by
    simpa [DeployPass.defers] using proceeds
  rw [apply_marker, MarkerCleared]
  rcases deploy_marker other with ⟨reaches, marker⟩ | ⟨misses, marker⟩
  · rw [marker, clearDrainMarker]
    cases pass.answers.markerRemoved <;> simp [reaches]
  · rw [marker]
    simp [misses]

/-! ## The request that waits -/

inductive DeployAct where
  | switches (target : String) (pinned : Bool)
  | clearsPin
  deriving DecidableEq

/-- What a pass sets out to do behind its guards and the drain check. -/
def DeployPass.act (world : DeployWorld) (pass : DeployPass) : Option DeployAct :=
  match deployCourse pass.answers pass.request (pass.answers.stateOf world) with
  | .checks target =>
      if pass.answers.mustWait then none
      else some (.switches target pass.request.requested.isSome)
  | .nothingToDo =>
      if pass.request.unpin && (pass.answers.stateOf world).isPinned then some .clearsPin else none
  | _ => none

/-- An administrator's pass that does something, or waits itself, replaces what waits. -/
def Supersedes (world : DeployWorld) (pass : DeployPass) : Prop :=
  pass.request ≠ timerRequest ∧ (pass.act world ≠ none ∨ pass.defers world = true)

/-- The pass leaves the request waiting: it does not supersede it, and for a pass of the timer
tests run, or the request itself could do nothing now. -/
def LeavesWaiting (request : DeployRequest) (world : DeployWorld) (pass : DeployPass) : Prop :=
  ¬Supersedes world pass ∧ (pass.request = timerRequest →
    pass.answers.mustWait = true ∨ DeployPass.act world ⟨request, pass.answers⟩ = none)

/-- What the waiting request would do now, the pass of the timer does. -/
def CarriedOut (request : DeployRequest) (world : DeployWorld) (later : DeployPass) : Prop :=
  ∀ act, DeployPass.act world ⟨request, later.answers⟩ = some act → later.act world = some act

/-- The request needs none of its flags: there is no pin for it to clear, or it names no commit,
and no pin, no earlier failure, no privileged file and no live target is in its way. -/
def NeedsNoFlag (request : DeployRequest) (record : DeployedRecord) (answers : PassAnswers) :
    Prop :=
  ∀ target drift, PassesGuards answers request record target drift →
    (IsLive request record target drift → request.unpin = true → record.isPinned = false) ∧
    (¬IsLive request record target drift →
      request.requested = none ∧ record.isPinned = false ∧ record.failedRevision ≠ some target ∧
        drift = [] ∧ record.revision ≠ some target)

theorem act_switches {world : DeployWorld} {pass : DeployPass} {target : String} {pinned : Bool} :
    pass.act world = some (.switches target pinned) ↔
      pass.answers.mustWait = false ∧ pass.request.requested.isSome = pinned ∧
        ∃ drift, PassesGuards pass.answers pass.request (pass.answers.stateOf world) target drift ∧
          ¬IsLive pass.request (pass.answers.stateOf world) target drift := by
  rw [DeployPass.act]
  constructor
  · intro acts
    split at acts
    · rename_i other course
      split at acts
      · cases acts
      · rename_i runs
        cases acts
        exact ⟨by simpa using runs, rfl, deployCourse_checks.mp course⟩
    · split at acts <;> cases acts
    · cases acts
  · rintro ⟨runs, rfl, reached⟩
    rw [deployCourse_checks.mpr reached]
    simp [runs]

theorem act_clearsPin {world : DeployWorld} {pass : DeployPass} :
    pass.act world = some .clearsPin ↔
      pass.request.unpin = true ∧ (pass.answers.stateOf world).isPinned = true ∧
        ∃ target drift,
          PassesGuards pass.answers pass.request (pass.answers.stateOf world) target drift ∧
            IsLive pass.request (pass.answers.stateOf world) target drift := by
  rw [DeployPass.act]
  constructor
  · intro acts
    split at acts
    · split at acts <;> cases acts
    · rename_i course
      split at acts
      · rename_i clears
        rw [Bool.and_eq_true] at clears
        exact ⟨clears.1, clears.2, deployCourse_nothingToDo.mp course⟩
      · cases acts
    · cases acts
  · rintro ⟨unpin, pinned, reached⟩
    rw [deployCourse_nothingToDo.mpr reached]
    simp [unpin, pinned]

/-- A pass of the timer takes up the waiting request exactly when it needs no flag. -/
theorem carriedOut_iff {request : DeployRequest} {world : DeployWorld} {later : DeployPass}
    (timer : later.request = timerRequest) (free : later.answers.mustWait = false) :
    CarriedOut request world later ↔
      NeedsNoFlag request (later.answers.stateOf world) later.answers := by
  constructor
  · intro carried target drift guards
    refine ⟨fun live unpin => ?_, fun other => ?_⟩
    · by_contra kept
      have pinned : (later.answers.stateOf world).isPinned = true := by simpa using kept
      have clears := carried .clearsPin (act_clearsPin.mpr ⟨unpin, pinned, target, drift, guards, live⟩)
      have flag := (act_clearsPin.mp clears).1
      rw [timer] at flag
      cases flag
    · have wanted : DeployPass.act world ⟨request, later.answers⟩ =
          some (.switches target request.requested.isSome) :=
        act_switches.mpr ⟨free, rfl, drift, guards, other⟩
      obtain ⟨-, unpinned, files, passes, fresh⟩ := act_switches.mp (carried _ wanted)
      rw [timer] at unpinned passes fresh
      have none : request.requested = none := by
        cases requested : request.requested with
        | none => rfl
        | some commit => simp [requested, timerRequest] at unpinned
      obtain ⟨follows, resolved, retried, released, allowed⟩ := passes
      have same : files = drift := Except.ok.inj (released.symm.trans guards.released)
      subst same
      have clean : files = [] := by
        by_contra some
        exact Bool.false_ne_true (allowed some)
      refine ⟨none, ?_, fun failed => Bool.false_ne_true (retried failed), clean, fun live => ?_⟩
      · cases pinned : (later.answers.stateOf world).isPinned with
        | false => rfl
        | true => rcases follows pinned with commit | unpin <;> cases ‹_›
      · exact fresh ⟨live, clean, rfl⟩
  · rintro needless act wanted
    cases act with
    | clearsPin =>
        obtain ⟨unpin, pinned, target, drift, guards, live⟩ := act_clearsPin.mp wanted
        rw [(needless target drift guards).1 live unpin] at pinned
        cases pinned
    | switches target pinned =>
        obtain ⟨-, commit, drift, guards, other⟩ := act_switches.mp wanted
        obtain ⟨none, unpinned, unfailed, clean, fresh⟩ := (needless target drift guards).2 other
        dsimp only at commit
        rw [none] at commit
        subst commit
        have resolved := guards.resolved
        rw [none] at resolved
        refine act_switches.mpr ⟨free, by rw [timer]; rfl, drift, ?_, fun live => fresh live.1⟩
        rw [timer]
        refine ⟨fun pinned => ?_, resolved, fun failed => absurd failed unfailed, guards.released,
          fun files => absurd clean files⟩
        rw [unpinned] at pinned
        cases pinned

/-! ## Every run -/

def MarkerOnlyWhileWaiting (start : DeployWorld) (passes : List DeployPass) : Prop :=
  Along DeployPass.apply
    (fun world pass => pass.defers world = false → (pass.apply world).marker = none) start passes

/-- The places of a run where a deferred pass is followed by passes that leave its request
waiting and then by one of the timer that finds no test running. -/
structure TakesUp (start : DeployWorld) (passes before : List DeployPass) (deferred : DeployPass)
    (waiting : List DeployPass) (later : DeployPass) : Prop where
  place : ∃ after, passes = before ++ deferred :: (waiting ++ later :: after)
  defers : deferred.defers (run DeployPass.apply start before) = true
  waits : Along DeployPass.apply (LeavesWaiting deferred.request)
    (run DeployPass.apply start (before ++ [deferred])) waiting
  timer : later.request = timerRequest
  free : later.answers.mustWait = false

/-- What was deferred and not superseded, the pass of the timer that finds no test running
carries out. -/
def DeferredCarriedOut (start : DeployWorld) (passes : List DeployPass) : Prop :=
  ∀ before deferred waiting later, TakesUp start passes before deferred waiting later →
    CarriedOut deferred.request
      (run DeployPass.apply start (before ++ deferred :: waiting)) later

/-- What was deferred needs none of its flags, by the record that the later pass reads. -/
def DeferredNeedNoFlag (start : DeployWorld) (passes : List DeployPass) : Prop :=
  ∀ before deferred waiting later, TakesUp start passes before deferred waiting later →
    NeedsNoFlag deferred.request
      (later.answers.stateOf (run DeployPass.apply start (before ++ deferred :: waiting)))
      later.answers

/-- The marker is there only while a deploy waits and no waiting request is lost exactly when
each pass that does not defer clears the marker or finds none, and each deferred request that
is taken up needs none of its flags. -/
theorem marker_and_deferred_requests (start : DeployWorld) (passes : List DeployPass) :
    MarkerOnlyWhileWaiting start passes ∧ DeferredCarriedOut start passes ↔
      Along DeployPass.apply
        (fun world pass => pass.defers world = false → MarkerCleared world pass) start passes ∧
      DeferredNeedNoFlag start passes := by
  refine and_congr ?_ ?_
  · exact along_congr _ (fun world pass => imp_congr_right marker_absent_iff) passes start
  · exact forall_congr' fun before => forall_congr' fun deferred => forall_congr' fun waiting =>
      forall_congr' fun later => imp_congr_right fun up => carriedOut_iff up.timer up.free

/-- Answers of a world in which everything works and `main` is at one commit. -/
def quietAnswers (main : String) (running : Nat) : PassAnswers where
  readable := true
  fetchMain := .ok main
  revParse := .ok
  isAncestor _ _ := true
  exportRelease _ := .ok ()
  infraDrift _ := .ok []
  forcedByEnvironment := false
  running := some running
  now := 0
  markerWritten := true
  markerRemoved := true
  preparation := none
  switching := none
  rollback live := (live, none)
  recording := ⟨true, none⟩
  pruning := none
  failureRecording := ⟨true, none⟩
  unpinning := ⟨true, none⟩
  reporting := ⟨true, none⟩

def pinnedWorld : DeployWorld where
  record := ⟨some "a", none, some "a", none, none, none⟩
  marker := none
  live := ⟨some "a", some "a"⟩

/-- `--unpin` while a test runs, and the next pass of the timer when none does. -/
def unpinThenTimer : List DeployPass :=
  [⟨⟨none, false, false, true⟩, quietAnswers "b" 1⟩, ⟨timerRequest, quietAnswers "b" 0⟩]

theorem deferred_unpin_is_lost :
    ¬MarkerOnlyWhileWaiting pinnedWorld unpinThenTimer ∧
      ¬DeferredCarriedOut pinnedWorld unpinThenTimer ∧
      run DeployPass.apply pinnedWorld unpinThenTimer = { pinnedWorld with marker := some 0 } := by
  refine ⟨?_, ?_, by decide⟩
  · rintro ⟨-, later, -⟩
    have present := later (by decide)
    revert present
    decide
  · intro carried
    have up : TakesUp pinnedWorld unpinThenTimer [] ⟨⟨none, false, false, true⟩, quietAnswers "b" 1⟩ []
        ⟨timerRequest, quietAnswers "b" 0⟩ :=
      ⟨⟨[], rfl⟩, by decide, trivial, rfl, by decide⟩
    have lost := carried _ _ _ _ up (.switches "b" false) (by decide)
    revert lost
    decide

/-- `--unpin --install-infra` while a test runs is lost as well when the files are the same by
the time that none does. -/
example : ¬DeferredCarriedOut pinnedWorld
    [⟨⟨none, true, false, true⟩,
        { quietAnswers "a" 1 with infraDrift := fun _ => .ok ["compose.yaml"] }⟩,
      ⟨timerRequest, quietAnswers "a" 0⟩] := by
  intro carried
  have lost := carried [] _ [] _ ⟨⟨[], rfl⟩, by decide, trivial, rfl, by decide⟩ .clearsPin
    (by decide)
  revert lost
  decide

end QuantFactory.Deployment
