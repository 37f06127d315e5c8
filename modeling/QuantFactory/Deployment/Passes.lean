import QuantFactory.Deployment.Drain
import QuantFactory.Library.Outcome

/-!
# Passes of `qf-deploy`

`main`, `deploy` and `_switch` of `deployment/release/qf_deploy.py`, one pass after the
other under the lock.  A pass reads the record of `deployed.json`, resolves its target and
goes through the guards; behind them it switches to the target.  The outside world answers:
git, the exported release, the running tests, which operation raises, and which read of the
record fails: `read_state` takes a file that it cannot read for an empty record.
-/

set_option autoImplicit false

namespace QuantFactory.Deployment

open QuantFactory.Library

structure DeployRequest where
  requested : Option String
  admin : Bool
  force : Bool
  unpin : Bool
  deriving DecidableEq

def timerRequest : DeployRequest := ⟨none, false, false, false⟩

inductive DeployRaised where
  | infraPending (message : String)
  | deployError (message : String)
  | other (typeName message : String)
  deriving DecidableEq

/-- `type(exc).__name__`. -/
def DeployRaised.typeName : DeployRaised → String
  | .infraPending _ => "InfraPending"
  | .deployError _ => "DeployError"
  | .other typeName _ => typeName

/-- `str(exc)`. -/
def DeployRaised.message : DeployRaised → String
  | .infraPending message => message
  | .deployError message => message
  | .other _ message => message

/-- `deployed.json`; a missing entry is `none`. -/
structure DeployedRecord where
  revision : Option String
  previous : Option String
  pinned : Option String
  failedRevision : Option String
  pending : Option String
  failure : Option String
  deriving DecidableEq

/-- `{}`. -/
def emptyRecord : DeployedRecord := ⟨none, none, none, none, none, none⟩

/-- `read_state`: an `OSError` or `ValueError` gives the empty record. -/
def readState (readable : Bool) (record : DeployedRecord) : DeployedRecord :=
  if readable then record else emptyRecord

/-- What one `write_state` meets: whether its own `read_state` can read, and what it raises. -/
structure WriteAnswer where
  readable : Bool
  raised : Option DeployRaised
  deriving DecidableEq

def WriteAnswer.loses (answer : WriteAnswer) : Bool := answer.raised.isNone && !answer.readable

@[ext] structure Live where
  containers : Option String
  dashboard : Option String
  deriving DecidableEq

structure PassAnswers where
  /-- The `read_state` of `deploy` can read. -/
  readable : Bool
  fetchMain : Except DeployRaised String
  /-- `git rev-parse --verify` of the requested commit. -/
  revParse : String → Except DeployRaised String
  isAncestor : String → String → Bool
  exportRelease : String → Except DeployRaised Unit
  infraDrift : String → Except DeployRaised (List String)
  forcedByEnvironment : Bool
  running : Option Nat
  now : Int
  markerWritten : Bool
  markerRemoved : Bool
  /-- What is raised before anything switches: environment, image, licensed tests, `.env`. -/
  preparation : Option DeployRaised
  switching : Option DeployRaised
  rollback : Live → Live × Option DeployRaised
  /-- Writing the record of the switch, what pruning raises, and the handler's write. -/
  recording : WriteAnswer
  pruning : Option DeployRaised
  failureRecording : WriteAnswer
  /-- Clearing the pin, and the write of `main`'s handlers. -/
  unpinning : WriteAnswer
  reporting : WriteAnswer

structure DeployWorld where
  record : DeployedRecord
  marker : Option Int
  live : Live
  deriving DecidableEq

inductive DeployEnd where
  | pinned
  | failedBefore
  | nothingToDo
  | deferred
  | live
  deriving DecidableEq

/-- The exit status that `deploy` returns. -/
def DeployEnd.status : DeployEnd → Int
  | .failedBefore => 1
  | _ => 0

/-- `state.get("pinned")` is true. -/
def DeployedRecord.isPinned (record : DeployedRecord) : Bool := record.pinned.any (· ≠ "")

def shortRevision (revision : String) : String := String.ofList (revision.toList.take 12)

def resolveTarget (answers : PassAnswers) (requested : Option String) (main : String) :
    Except DeployRaised String :=
  match requested with
  | none => .ok main
  | some requested => do
      let revision ← answers.revParse requested
      raiseIf (!answers.isAncestor revision main) (.deployError
        (shortRevision revision ++ " is not on GitHub main; only merged code can go live"))
      .ok revision

def pendingMessage (target : String) (drift : List String) : String :=
  shortRevision target ++ " changes " ++ ", ".intercalate drift ++
    "; an administrator must run: sudo qf-deploy --install-infra"

abbrev Called (α : Type) : Type := DeployWorld × Except DeployRaised α

/-- `write_state`: the changes over what it can read replace the whole file, or it raises. -/
def writeState (answer : WriteAnswer) (change : DeployedRecord → DeployedRecord)
    (world : DeployWorld) : Called Unit :=
  match answer.raised with
  | some exc => (world, .error exc)
  | none => ({ world with record := change (readState answer.readable world.record) }, .ok ())

section Pass
variable (answers : PassAnswers)

def deployedRecord (target : String) (state : DeployedRecord) (pinned : Bool) : DeployedRecord where
  revision := some target
  previous := state.revision
  pending := none
  failure := none
  failedRevision := none
  pinned := if pinned then some target else none

/-- `_switch`. -/
def switchTo (target : String) (state : DeployedRecord) (pinned : Bool) (world : DeployWorld) :
    Called DeployEnd :=
  match answers.preparation with
  | some exc => (world, .error exc)
  | none =>
      match answers.switching with
      | some exc =>
          let (live, raised) := answers.rollback world.live
          ({ world with live }, .error (raised.getD exc))
      | none =>
          let world := { world with live := ⟨some target, some target⟩ }
          match writeState answers.recording (fun _ => deployedRecord target state pinned) world with
          | (world, .error exc) => (world, .error exc)
          | (world, .ok ()) =>
              match answers.pruning with
              | some exc => (world, .error exc)
              | none => (world, .ok .live)

/-- The call of `_switch` with the handler around it. -/
def guardedSwitch (target : String) (state : DeployedRecord) (pinned : Bool)
    (world : DeployWorld) : Called DeployEnd :=
  match switchTo answers target state pinned world with
  | (world, .ok ending) => (world, .ok ending)
  | (world, .error exc) =>
      match writeState answers.failureRecording
          (fun record => { record with
            failedRevision := some target, failure := some (exc.typeName ++ ": " ++ exc.message) })
          world with
      | (world, .error second) => (world, .error second)
      | (world, .ok ()) => (world, .error exc)

/-- Where the guards of `deploy` lead. -/
inductive DeployCourse where
  | ends (ending : DeployEnd)
  | raises (raised : DeployRaised)
  | nothingToDo
  | checks (target : String)
  deriving DecidableEq

/-- The guards of `deploy`, up to the drain check. -/
def deployCourse (request : DeployRequest) (state : DeployedRecord) : DeployCourse :=
  if state.isPinned && request.requested.isNone && !request.unpin then .ends .pinned
  else match answers.fetchMain >>= resolveTarget answers request.requested with
  | .error exc => .raises exc
  | .ok target =>
      if state.failedRevision = some target && !request.force then .ends .failedBefore
      else match answers.exportRelease target >>= fun _ => answers.infraDrift target with
      | .error exc => .raises exc
      | .ok drift =>
          if !drift.isEmpty && !request.admin then .raises (.infraPending (pendingMessage target drift))
          else if state.revision = some target && drift.isEmpty && !request.force then .nothingToDo
          else .checks target

def PassAnswers.mustWait : Bool := !answers.forcedByEnvironment && answers.running.any (0 < ·)

/-- The `state` of `deploy`. -/
def PassAnswers.stateOf (world : DeployWorld) : DeployedRecord :=
  readState answers.readable world.record

def deploy (request : DeployRequest) (world : DeployWorld) : Called DeployEnd :=
  match deployCourse answers request (answers.stateOf world) with
  | .ends ending => (world, .ok ending)
  | .raises exc => (world, .error exc)
  | .nothingToDo =>
      let (world, written) :=
        if request.unpin then
          writeState answers.unpinning (fun record => { record with pinned := none }) world
        else (world, .ok ())
      match written with
      | .error exc => (world, .error exc)
      | .ok () =>
          ({ world with marker := clearDrainMarker world.marker answers.markerRemoved },
            .ok .nothingToDo)
  | .checks target =>
      if answers.mustWait then
        ({ world with marker := setDrainMarker world.marker answers.markerWritten answers.now },
          .ok .deferred)
      else
        guardedSwitch answers target (answers.stateOf world) request.requested.isSome
          { world with marker := clearDrainMarker world.marker answers.markerRemoved }

/-- `main` under the lock: the record says what is waited for or what failed. -/
def mainPass (request : DeployRequest) (world : DeployWorld) : Called Int :=
  match deploy answers request world with
  | (world, .ok ending) => (world, .ok ending.status)
  | (world, .error (.infraPending message)) =>
      match writeState answers.reporting
          (fun record => { record with pending := some message }) world with
      | (world, .error exc) => (world, .error exc)
      | (world, .ok ()) => (world, .ok 3)
  | (world, .error (.deployError message)) =>
      match writeState answers.reporting
          (fun record => { record with failure := some message }) world with
      | (world, .error exc) => (world, .error exc)
      | (world, .ok ()) => (world, .ok 1)
  | (world, .error exc) => (world, .error exc)

end Pass

/-- A pass: what it is asked for and what it is answered. -/
structure DeployPass where
  request : DeployRequest
  answers : PassAnswers

def DeployPass.apply (world : DeployWorld) (pass : DeployPass) : DeployWorld :=
  (mainPass pass.answers pass.request world).1

def DeployPass.defers (world : DeployWorld) (pass : DeployPass) : Bool :=
  (deploy pass.answers pass.request world).2.toOption = some .deferred

/-! ## The guards -/

section Guards
variable {answers : PassAnswers} {request : DeployRequest} {record : DeployedRecord}
  {target : String} {drift : List String}

/-- The pass comes to its target: no pin, failure or pending file stops it. -/
structure PassesGuards (answers : PassAnswers) (request : DeployRequest) (record : DeployedRecord)
    (target : String) (drift : List String) : Prop where
  follows : record.isPinned = true → request.requested.isSome = true ∨ request.unpin = true
  resolved : (answers.fetchMain >>= resolveTarget answers request.requested) = .ok target
  retried : record.failedRevision = some target → request.force = true
  released : (answers.exportRelease target >>= fun _ => answers.infraDrift target) = .ok drift
  allowed : drift ≠ [] → request.admin = true

/-- The target is live and nothing is asked to be done again. -/
def IsLive (request : DeployRequest) (record : DeployedRecord) (target : String)
    (drift : List String) : Prop :=
  record.revision = some target ∧ drift = [] ∧ request.force = false

/-- Behind the guards the pass has nothing to do, or comes to the drain check. -/
theorem deployCourse_of_guards (guards : PassesGuards answers request record target drift) :
    (IsLive request record target drift → deployCourse answers request record = .nothingToDo) ∧
      (¬IsLive request record target drift →
        deployCourse answers request record = .checks target) := by
  obtain ⟨follows, resolved, retried, released, allowed⟩ := guards
  have unpinned : ¬(record.isPinned && request.requested.isNone && !request.unpin) = true := by
    intro stopped
    simp only [Bool.and_eq_true, Option.isNone_iff_eq_none, Bool.not_eq_true'] at stopped
    obtain ⟨⟨pinned, none⟩, kept⟩ := stopped
    rcases follows pinned with some | unpin
    · rw [none] at some
      cases some
    · rw [unpin] at kept
      cases kept
  have again : ¬(decide (record.failedRevision = some target) && !request.force) = true := by
    intro stopped
    simp only [Bool.and_eq_true, decide_eq_true_eq, Bool.not_eq_true'] at stopped
    rw [retried stopped.1] at stopped
    cases stopped.2
  have privileged : ¬(!drift.isEmpty && !request.admin) = true := by
    intro stopped
    simp only [Bool.and_eq_true, Bool.not_eq_true', List.isEmpty_eq_false_iff] at stopped
    rw [allowed stopped.1] at stopped
    cases stopped.2
  rw [deployCourse, if_neg unpinned, resolved]
  dsimp only
  rw [if_neg again, released]
  dsimp only
  rw [if_neg privileged]
  constructor
  · rintro ⟨revision, none, force⟩
    rw [if_pos (by simp [revision, none, force])]
  · intro other
    rw [if_neg]
    intro live
    simp only [Bool.and_eq_true, decide_eq_true_eq, List.isEmpty_iff, Bool.not_eq_true'] at live
    exact other ⟨live.1.1, live.1.2, live.2⟩

/-- Every pass that has nothing to do, or comes to the drain check, has passed the guards. -/
theorem guards_of_deployCourse
    (reached : deployCourse answers request record = .nothingToDo ∨
      ∃ target, deployCourse answers request record = .checks target) :
    ∃ target drift, PassesGuards answers request record target drift := by
  rw [deployCourse] at reached
  split at reached
  · rcases reached with reached | ⟨_, reached⟩ <;> cases reached
  rename_i follows
  split at reached
  · rcases reached with reached | ⟨_, reached⟩ <;> cases reached
  rename_i target resolved
  split at reached
  · rcases reached with reached | ⟨_, reached⟩ <;> cases reached
  rename_i retried
  split at reached
  · rcases reached with reached | ⟨_, reached⟩ <;> cases reached
  rename_i drift released
  split at reached
  · rcases reached with reached | ⟨_, reached⟩ <;> cases reached
  rename_i allowed
  refine ⟨target, drift, ?_, resolved, ?_, released, ?_⟩
  · intro pinned
    by_contra neither
    rw [not_or] at neither
    apply follows
    simp [pinned, neither.1, neither.2, ← Option.not_isSome]
  · intro failed
    by_contra kept
    exact retried (by simp [failed, kept])
  · intro files
    by_contra timer
    exact allowed (by simp [files, timer])

/-- The target and the files that need an administrator are what git and the release say. -/
theorem PassesGuards.unique (guards : PassesGuards answers request record target drift)
    {other : String} {files : List String}
    (others : PassesGuards answers request record other files) : target = other ∧ drift = files := by
  have same : target = other := Except.ok.inj (guards.resolved.symm.trans others.resolved)
  subst same
  exact ⟨rfl, Except.ok.inj (guards.released.symm.trans others.released)⟩

theorem deployCourse_checks :
    deployCourse answers request record = .checks target ↔
      ∃ drift, PassesGuards answers request record target drift ∧
        ¬IsLive request record target drift := by
  constructor
  · intro reached
    obtain ⟨other, drift, guards⟩ := guards_of_deployCourse (.inr ⟨target, reached⟩)
    obtain ⟨live, check⟩ := deployCourse_of_guards guards
    by_cases already : IsLive request record other drift
    · rw [live already] at reached
      cases reached
    · have same := (check already).symm.trans reached
      cases same
      exact ⟨drift, guards, already⟩
  · rintro ⟨drift, guards, other⟩
    exact (deployCourse_of_guards guards).2 other

theorem deployCourse_nothingToDo :
    deployCourse answers request record = .nothingToDo ↔
      ∃ target drift, PassesGuards answers request record target drift ∧
        IsLive request record target drift := by
  constructor
  · intro reached
    obtain ⟨target, drift, guards⟩ := guards_of_deployCourse (.inl reached)
    refine ⟨target, drift, guards, ?_⟩
    by_contra other
    rw [(deployCourse_of_guards guards).2 other] at reached
    cases reached
  · rintro ⟨target, drift, guards, live⟩
    exact (deployCourse_of_guards guards).1 live

end Guards

/-! ## What a pass does -/

section Pass
variable {answers : PassAnswers} {request : DeployRequest} {world : DeployWorld}

/-- The handler of `deploy` raises on, having noted the failed target if it could. -/
structure NotedFailure (answers : PassAnswers) (target : String) (failed : DeployWorld)
    (called : Called DeployEnd) : Prop where
  raises : ∃ exc, called.2 = .error exc
  noted : answers.failureRecording.raised = none → ∃ failure, called.1 =
    { failed with record := { readState answers.failureRecording.readable failed.record with
      failedRevision := some target, failure } }
  unnoted : answers.failureRecording.raised ≠ none → called.1 = failed

/-- The ends of a switch: it raises before anything is live, behind that while recording or
pruning, or not at all. -/
inductive SwitchCase (answers : PassAnswers) (target : String) (state : DeployedRecord)
    (pinned : Bool) (world : DeployWorld) (called : Called DeployEnd) : Prop where
  | unprepared (raised : answers.preparation ≠ none)
      (noted : NotedFailure answers target world called)
  | rolledBack (prepared : answers.preparation = none) (raised : answers.switching ≠ none)
      (noted : NotedFailure answers target { world with live := (answers.rollback world.live).1 }
        called)
  | unrecorded (prepared : answers.preparation = none) (switched : answers.switching = none)
      (raised : answers.recording.raised ≠ none)
      (noted : NotedFailure answers target { world with live := ⟨some target, some target⟩ } called)
  | unpruned (prepared : answers.preparation = none) (switched : answers.switching = none)
      (recorded : answers.recording.raised = none) (raised : answers.pruning ≠ none)
      (noted : NotedFailure answers target
        { world with
          live := ⟨some target, some target⟩, record := deployedRecord target state pinned } called)
  | done (prepared : answers.preparation = none) (switched : answers.switching = none)
      (recorded : answers.recording.raised = none) (pruned : answers.pruning = none)
      (is : called = ({ world with
        live := ⟨some target, some target⟩, record := deployedRecord target state pinned },
          .ok .live))

theorem guardedSwitch_of_error {target : String} {state : DeployedRecord} {pinned : Bool}
    {failed : DeployWorld} (exc : DeployRaised)
    (raised : switchTo answers target state pinned world = (failed, .error exc)) :
    NotedFailure answers target failed (guardedSwitch answers target state pinned world) := by
  rw [guardedSwitch, raised]
  dsimp only
  rw [writeState]
  cases recording : answers.failureRecording.raised with
  | none => exact ⟨⟨exc, rfl⟩, fun _ => ⟨_, rfl⟩, fun raises => absurd recording raises⟩
  | some second =>
      refine ⟨⟨second, rfl⟩, fun none => ?_, fun _ => rfl⟩
      rw [recording] at none
      cases none

variable (answers) in
theorem guardedSwitch_cases (target : String) (state : DeployedRecord) (pinned : Bool)
    (world : DeployWorld) : SwitchCase answers target state pinned world
      (guardedSwitch answers target state pinned world) := by
  cases preparation : answers.preparation with
  | some exc =>
      refine .unprepared (by simp [preparation]) (guardedSwitch_of_error exc ?_)
      rw [switchTo, preparation]
  | none =>
      cases switching : answers.switching with
      | some exc =>
          refine .rolledBack preparation (by simp [switching]) (guardedSwitch_of_error
            ((answers.rollback world.live).2.getD exc) ?_)
          rw [switchTo, preparation, switching]
      | none =>
          cases recording : answers.recording.raised with
          | some exc =>
              refine .unrecorded preparation switching (by simp [recording])
                (guardedSwitch_of_error exc ?_)
              simp only [switchTo, preparation, switching, writeState, recording]
          | none =>
              cases pruning : answers.pruning with
              | some exc =>
                  refine .unpruned preparation switching recording (by simp [pruning])
                    (guardedSwitch_of_error exc ?_)
                  simp only [switchTo, preparation, switching, writeState, recording, pruning]
              | none =>
                  refine .done preparation switching recording pruning ?_
                  simp only [guardedSwitch, switchTo, preparation, switching, writeState,
                    recording, pruning]

theorem NotedFailure.marker {target : String} {failed : DeployWorld} {called : Called DeployEnd}
    (noted : NotedFailure answers target failed called) : called.1.marker = failed.marker := by
  by_cases written : answers.failureRecording.raised = none
  · obtain ⟨failure, left⟩ := noted.noted written
    rw [left]
  · rw [noted.unnoted written]

theorem guardedSwitch_marker (target : String) (state : DeployedRecord) (pinned : Bool)
    (world : DeployWorld) :
    (guardedSwitch answers target state pinned world).1.marker = world.marker := by
  rcases guardedSwitch_cases answers target state pinned world with
    ⟨-, noted⟩ | ⟨-, -, noted⟩ | ⟨-, -, -, noted⟩ | ⟨-, -, -, -, noted⟩ | ⟨-, -, -, -, is⟩
  · exact noted.marker
  · exact noted.marker
  · exact noted.marker
  · exact noted.marker
  · rw [is]

theorem guardedSwitch_ok {target : String} {state : DeployedRecord} {pinned : Bool}
    {ending : DeployEnd}
    (returned : (guardedSwitch answers target state pinned world).2 = .ok ending) :
    ending = .live := by
  have raising : ∀ failed, NotedFailure answers target failed
      (guardedSwitch answers target state pinned world) → ending = .live := by
    intro failed noted
    obtain ⟨exc, raised⟩ := noted.raises
    rw [returned] at raised
    cases raised
  rcases guardedSwitch_cases answers target state pinned world with
    ⟨-, noted⟩ | ⟨-, -, noted⟩ | ⟨-, -, -, noted⟩ | ⟨-, -, -, -, noted⟩ | ⟨-, -, -, -, is⟩
  · exact raising _ noted
  · exact raising _ noted
  · exact raising _ noted
  · exact raising _ noted
  · rw [is] at returned
    exact (Except.ok.inj returned).symm

/-- `main` catches it and writes it into the record. -/
def DeployRaised.isReported : DeployRaised → Bool
  | .other _ _ => false
  | _ => true

/-- The call raises what `main` writes into the record. -/
def Called.isReported (called : Called DeployEnd) : Bool :=
  match called.2 with
  | .ok _ => false
  | .error exc => exc.isReported

/-- What the write of `main` leaves of the record: it loses the record if it cannot read it. -/
def reportedRecord (answers : PassAnswers) (called : Called DeployEnd) : DeployedRecord :=
  if answers.reporting.loses && called.isReported then emptyRecord else called.1.record

theorem reportedRecord_of_raised {called : Called DeployEnd}
    (raised : answers.reporting.raised ≠ none) :
    reportedRecord answers called = called.1.record := by
  rw [reportedRecord, WriteAnswer.loses, Option.isNone_eq_false_iff.mpr
    (Option.isSome_iff_ne_none.mpr raised)]
  rfl

theorem reportedRecord_of_written {called : Called DeployEnd}
    (written : answers.reporting.raised = none) (reported : called.isReported = true) :
    reportedRecord answers called = readState answers.reporting.readable called.1.record := by
  rw [reportedRecord, WriteAnswer.loses, written, reported, readState]
  cases answers.reporting.readable <;> rfl

variable (answers request world) in
/-- `main` adds only a note to what `deploy` leaves, or loses the record. -/
theorem mainPass_fst :
    ∃ pending failure, (mainPass answers request world).1 =
      { (deploy answers request world).1 with
        record := { reportedRecord answers (deploy answers request world) with
          pending, failure } } := by
  rw [mainPass]
  generalize deploy answers request world = called
  obtain ⟨left, result⟩ := called
  have unreported (quiet : Called.isReported (left, result) = false) :
      reportedRecord answers (left, result) = left.record := by
    rw [reportedRecord, quiet, Bool.and_false]
    rfl
  cases result with
  | ok ending =>
      rw [unreported rfl]
      exact ⟨left.record.pending, left.record.failure, rfl⟩
  | error exc =>
      cases exc with
      | other typeName message =>
          rw [unreported rfl]
          exact ⟨left.record.pending, left.record.failure, rfl⟩
      | infraPending message =>
          dsimp only
          rw [writeState]
          cases raised : answers.reporting.raised with
          | none =>
              rw [reportedRecord_of_written raised rfl]
              exact ⟨some message, _, rfl⟩
          | some exc =>
              rw [reportedRecord_of_raised (by simp [raised])]
              exact ⟨left.record.pending, left.record.failure, rfl⟩
      | deployError message =>
          dsimp only
          rw [writeState]
          cases raised : answers.reporting.raised with
          | none =>
              rw [reportedRecord_of_written raised rfl]
              exact ⟨_, some message, rfl⟩
          | some exc =>
              rw [reportedRecord_of_raised (by simp [raised])]
              exact ⟨left.record.pending, left.record.failure, rfl⟩

end Pass

end QuantFactory.Deployment
