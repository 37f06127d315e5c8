import QuantFactory.Deployment.DrainMarker

/-!
# What `deployed.json` says and what runs

The record is true when the recorded revision runs and the failed one does not.  A switch
that has come live and is then not recorded, or whose release is noted as failed because
pruning failed, makes it false; so does a failed attempt at the live revision itself.  A write
that cannot read the record replaces it: the live revision and the pin are no longer recorded.
-/

set_option autoImplicit false

namespace QuantFactory.Deployment

open QuantFactory.Library

/-- The recorded revision is the one that runs, the one recorded as failed is not, and a
recorded pin is at the recorded revision. -/
structure TrueRecord (world : DeployWorld) : Prop where
  containers : world.live.containers = world.record.revision
  dashboard : world.live.dashboard = world.record.revision
  failed : ∀ revision, world.record.failedRevision = some revision →
    world.live.containers ≠ some revision
  pinned : ∀ revision, world.record.pinned = some revision → world.record.revision = some revision

theorem TrueRecord.congr {before after : DeployWorld} (live : after.live = before.live)
    (revision : after.record.revision = before.record.revision)
    (failed : after.record.failedRevision = before.record.failedRevision)
    (pinned : after.record.pinned = before.record.pinned) :
    TrueRecord after ↔ TrueRecord before := by
  constructor
  · rintro ⟨containers, dashboard, other, pin⟩
    rw [live, revision] at containers dashboard
    rw [live, failed] at other
    rw [pinned, revision] at pin
    exact ⟨containers, dashboard, other, pin⟩
  · rintro ⟨containers, dashboard, other, pin⟩
    rw [← live, ← revision] at containers dashboard
    rw [← live, ← failed] at other
    rw [← pinned, ← revision] at pin
    exact ⟨containers, dashboard, other, pin⟩

theorem trueRecord_of_empty {world : DeployWorld} (revision : world.record.revision = none)
    (failed : world.record.failedRevision = none) (pinned : world.record.pinned = none) :
    TrueRecord world ↔ world.live = ⟨none, none⟩ := by
  constructor
  · rintro ⟨containers, dashboard, -, -⟩
    rw [revision] at containers dashboard
    exact Live.ext containers dashboard
  · intro nothing
    refine ⟨by rw [nothing, revision], by rw [nothing, revision], ?_, ?_⟩
    · intro other noted
      rw [failed] at noted
      cases noted
    · intro other pin
      rw [pinned] at pin
      cases pin

/-! ## A switch -/

/-- The switch is recorded as it went: what raises before it is live does so for another
revision than the live one and notes that over what was recorded, what is live is recorded,
and nothing noted as failed is live. -/
def RecordedTruly (answers : PassAnswers) (target : String) (record : DeployedRecord) : Prop :=
  if answers.preparation ≠ none ∨ answers.switching ≠ none then
    answers.failureRecording.raised ≠ none ∨ record.revision ≠ some target ∧
      (answers.failureRecording.readable = true ∨ record.revision = none)
  else if answers.recording.raised ≠ none then
    record.revision = some target ∧ answers.failureRecording.raised ≠ none
  else answers.pruning = none ∨ answers.failureRecording.raised ≠ none

theorem NotedFailure.trueRecord_of_raised {answers : PassAnswers} {target : String}
    {failed : DeployWorld} {called : Called DeployEnd}
    (noted : NotedFailure answers target failed called)
    (raised : answers.failureRecording.raised ≠ none) :
    TrueRecord called.1 ↔ TrueRecord failed := by
  rw [noted.unnoted raised]

theorem NotedFailure.not_trueRecord {answers : PassAnswers} {target : String}
    {failed : DeployWorld} {called : Called DeployEnd}
    (noted : NotedFailure answers target failed called)
    (written : answers.failureRecording.raised = none)
    (runs : failed.live.containers = some target) : ¬TrueRecord called.1 := by
  obtain ⟨failure, left⟩ := noted.noted written
  rw [left]
  intro holds
  exact holds.failed target rfl runs

/-- Where nothing has switched, the note of the failure keeps a true record true exactly when
the target is not live and the note did not replace the record. -/
theorem NotedFailure.trueRecord_of_written {answers : PassAnswers} {target : String}
    {world : DeployWorld} {called : Called DeployEnd}
    (noted : NotedFailure answers target world called)
    (written : answers.failureRecording.raised = none) (holds : TrueRecord world) :
    TrueRecord called.1 ↔ world.record.revision ≠ some target ∧
      (answers.failureRecording.readable = true ∨ world.record.revision = none) := by
  obtain ⟨failure, left⟩ := noted.noted written
  obtain ⟨containers, dashboard, -, pinned⟩ := holds
  rw [left, readState]
  cases readable : answers.failureRecording.readable with
  | true =>
      constructor
      · rintro ⟨-, -, other, -⟩
        rw [← containers]
        exact ⟨other target rfl, .inl rfl⟩
      · rintro ⟨other, -⟩
        refine ⟨containers, dashboard, ?_, pinned⟩
        rintro revision ⟨⟩
        exact containers ▸ other
  | false =>
      constructor
      · rintro ⟨same, -, -, -⟩
        have none : world.record.revision = none := containers.symm.trans same
        exact ⟨by simp [none], .inr none⟩
      · rintro ⟨-, readable | none⟩
        · cases readable
        · rw [none] at containers dashboard
          refine ⟨containers, dashboard, ?_, ?_⟩
          · rintro revision ⟨⟩
            simp [containers]
          · rintro revision ⟨⟩

theorem deployedRecord_true (target : String) (state : DeployedRecord) (pinned : Bool)
    (marker : Option Int) :
    TrueRecord ⟨deployedRecord target state pinned, marker, ⟨some target, some target⟩⟩ := by
  refine ⟨rfl, rfl, ?_, ?_⟩
  · intro revision failed
    cases failed
  · intro revision pin
    cases pinned with
    | true => exact pin
    | false => cases pin

theorem guardedSwitch_true {answers : PassAnswers} (target : String) (state : DeployedRecord)
    (pinned : Bool) {world : DeployWorld} (holds : TrueRecord world)
    (restores : ∀ live, answers.rollback live = (live, none)) :
    TrueRecord (guardedSwitch answers target state pinned world).1 ↔
      RecordedTruly answers target world.record := by
  have early : ∀ called : Called DeployEnd, NotedFailure answers target world called →
      (TrueRecord called.1 ↔ answers.failureRecording.raised ≠ none ∨
        world.record.revision ≠ some target ∧
          (answers.failureRecording.readable = true ∨ world.record.revision = none)) := by
    intro called noted
    by_cases written : answers.failureRecording.raised = none
    · rw [noted.trueRecord_of_written written holds]
      simp [written]
    · rw [noted.trueRecord_of_raised written]
      exact iff_of_true holds (.inl written)
  rcases guardedSwitch_cases answers target state pinned world with
    ⟨raised, noted⟩ | ⟨prepared, raised, noted⟩ | ⟨prepared, switched, raised, noted⟩ |
      ⟨prepared, switched, recorded, raised, noted⟩ | ⟨prepared, switched, recorded, pruned, is⟩
  · rw [RecordedTruly, if_pos (.inl raised)]
    exact early _ noted
  · rw [RecordedTruly, if_pos (.inr raised)]
    rw [restores] at noted
    exact early _ noted
  · rw [RecordedTruly, if_neg (by simp [prepared, switched]), if_pos raised]
    by_cases written : answers.failureRecording.raised = none
    · exact iff_of_false (noted.not_trueRecord written rfl) fun truly => truly.2 written
    · rw [noted.trueRecord_of_raised written]
      constructor
      · exact fun same => ⟨same.containers.symm, written⟩
      · rintro ⟨same, -⟩
        refine ⟨same.symm, same.symm, fun revision noted => ?_, holds.pinned⟩
        rw [← same, ← holds.containers]
        exact holds.failed revision noted
  · rw [RecordedTruly, if_neg (by simp [prepared, switched]), if_neg (by simp [recorded])]
    by_cases written : answers.failureRecording.raised = none
    · refine iff_of_false (noted.not_trueRecord written rfl) ?_
      rintro (pruned | unwritten)
      · exact raised pruned
      · exact unwritten written
    · rw [noted.trueRecord_of_raised written]
      exact iff_of_true (deployedRecord_true target state pinned _) (.inr written)
  · rw [RecordedTruly, if_neg (by simp [prepared, switched]), if_neg (by simp [recorded]), is]
    exact iff_of_true (deployedRecord_true target state pinned _) (.inl pruned)

theorem guardedSwitch_live {answers : PassAnswers} (target : String) (state : DeployedRecord)
    (pinned : Bool) (world : DeployWorld)
    (restores : ∀ live, answers.rollback live = (live, none)) :
    (guardedSwitch answers target state pinned world).1.live =
      if answers.preparation = none ∧ answers.switching = none then ⟨some target, some target⟩
      else world.live := by
  have left : ∀ {failed : DeployWorld} {called : Called DeployEnd},
      NotedFailure answers target failed called → called.1.live = failed.live := by
    intro failed called noted
    by_cases written : answers.failureRecording.raised = none
    · obtain ⟨failure, left⟩ := noted.noted written
      rw [left]
    · rw [noted.unnoted written]
  rcases guardedSwitch_cases answers target state pinned world with
    ⟨raised, noted⟩ | ⟨prepared, raised, noted⟩ | ⟨prepared, switched, raised, noted⟩ |
      ⟨prepared, switched, recorded, raised, noted⟩ | ⟨prepared, switched, recorded, pruned, is⟩
  · rw [left noted, if_neg fun live => raised live.1]
  · rw [left noted, if_neg fun live => raised live.2, restores]
  · rw [left noted, if_pos ⟨prepared, switched⟩]
  · rw [left noted, if_pos ⟨prepared, switched⟩]
  · rw [is, if_pos ⟨prepared, switched⟩]

def PassAnswers.switchRaises (answers : PassAnswers) (live : Live) : Option DeployRaised :=
  answers.preparation.or ((answers.switching.map fun exc => (answers.rollback live).2.getD exc).or
    (answers.recording.raised.or answers.pruning))

theorem guardedSwitch_isReported {answers : PassAnswers} (target : String)
    (state : DeployedRecord) (pinned : Bool) (world : DeployWorld) :
    (guardedSwitch answers target state pinned world).isReported =
      ((answers.switchRaises world.live).map fun exc =>
        answers.failureRecording.raised.getD exc).any DeployRaised.isReported := by
  have raises : (switchTo answers target state pinned world).2 =
      (answers.switchRaises world.live).elim (.ok .live) .error := by
    rw [switchTo, PassAnswers.switchRaises]
    cases answers.preparation with
    | some exc => rfl
    | none =>
        cases answers.switching with
        | some exc => rfl
        | none =>
            dsimp only
            rw [writeState]
            cases answers.recording.raised with
            | some exc => rfl
            | none => cases answers.pruning <;> rfl
  rw [guardedSwitch]
  generalize switchTo answers target state pinned world = called at raises
  obtain ⟨left, result⟩ := called
  subst raises
  cases answers.switchRaises world.live with
  | none => rfl
  | some exc =>
      simp only [Option.elim_some]
      rw [writeState]
      cases answers.failureRecording.raised <;> rfl

/-! ## A pass -/

def ComesLive (world : DeployWorld) (pass : DeployPass) (target : String) : Prop :=
  (∃ pinned, pass.act world = some (.switches target pinned)) ∧
    pass.answers.preparation = none ∧ pass.answers.switching = none

/-- What `deploy` raises. -/
def DeployPass.raises (world : DeployWorld) (pass : DeployPass) : Option DeployRaised :=
  match deployCourse pass.answers pass.request (pass.answers.stateOf world) with
  | .ends _ => none
  | .raises exc => some exc
  | .nothingToDo => if pass.request.unpin then pass.answers.unpinning.raised else none
  | .checks _ =>
      if pass.answers.mustWait then none
      else (pass.answers.switchRaises world.live).map fun exc =>
        pass.answers.failureRecording.raised.getD exc

/-- The note of `main` replaces the record. -/
def DeployPass.losesReport (world : DeployWorld) (pass : DeployPass) : Bool :=
  pass.answers.reporting.loses && (pass.raises world).any DeployRaised.isReported

/-- The pass writes what is true, onto what was recorded, and reads what forbids it. -/
structure LeavesTrueRecord (world : DeployWorld) (pass : DeployPass) : Prop where
  switched : ∀ target pinned, pass.act world = some (.switches target pinned) →
    RecordedTruly pass.answers target world.record
  unpinned : deployCourse pass.answers pass.request (pass.answers.stateOf world) = .nothingToDo →
    pass.request.unpin = true → pass.answers.unpinning.loses = false
  reported : pass.losesReport world = true → world.record.revision = none ∧
    world.record.failedRevision = none ∧ ∀ target, ¬ComesLive world pass target
  pin : pass.answers.readable = false → world.record.isPinned = true →
    pass.request.requested = none → pass.request.unpin = false →
      ∀ target, ComesLive world pass target → world.record.revision = some target
  failure : pass.answers.readable = false →
    ∀ target pinned, pass.act world = some (.switches target pinned) →
      world.record.failedRevision = some target → pass.request.force = true

section Pass
variable {world : DeployWorld} {pass : DeployPass}

theorem deploy_isReported :
    (deploy pass.answers pass.request world).isReported =
      (pass.raises world).any DeployRaised.isReported := by
  rw [deploy, DeployPass.raises]
  cases deployCourse pass.answers pass.request (pass.answers.stateOf world) with
  | ends ending => rfl
  | raises exc => rfl
  | nothingToDo =>
      cases pass.request.unpin with
      | false => rfl
      | true =>
          dsimp only
          rw [if_pos rfl, if_pos rfl, writeState]
          cases pass.answers.unpinning.raised <;> rfl
  | checks target =>
      dsimp only
      cases pass.answers.mustWait with
      | true => rfl
      | false =>
          rw [if_neg Bool.false_ne_true, if_neg Bool.false_ne_true]
          exact guardedSwitch_isReported target _ _ _

theorem recorded_of_nothingToDo
    (course : deployCourse pass.answers pass.request (pass.answers.stateOf world) = .nothingToDo) :
    ∃ target, world.record.revision = some target := by
  obtain ⟨target, drift, -, live⟩ := deployCourse_nothingToDo.mp course
  refine ⟨target, ?_⟩
  have revision := live.1
  rw [PassAnswers.stateOf, readState] at revision
  split at revision
  · exact revision
  · cases revision

theorem deploy_idle (idle : ∀ target pinned, pass.act world ≠ some (.switches target pinned)) :
    (deploy pass.answers pass.request world).1.live = world.live ∧
      if deployCourse pass.answers pass.request (pass.answers.stateOf world) = .nothingToDo ∧
          pass.request.unpin = true ∧ pass.answers.unpinning.loses = true then
        (deploy pass.answers pass.request world).1.record = emptyRecord
      else (deploy pass.answers pass.request world).1.record = world.record ∨
        (deploy pass.answers pass.request world).1.record = { world.record with pinned := none } := by
  rw [deploy]
  cases course : deployCourse pass.answers pass.request (pass.answers.stateOf world) with
  | ends ending => exact ⟨rfl, by rw [if_neg (by simp)]; exact .inl rfl⟩
  | raises exc => exact ⟨rfl, by rw [if_neg (by simp)]; exact .inl rfl⟩
  | nothingToDo =>
      cases pass.request.unpin with
      | false => exact ⟨rfl, by rw [if_neg (by simp)]; exact .inl rfl⟩
      | true =>
          dsimp only
          rw [if_pos rfl, writeState, WriteAnswer.loses, readState]
          cases pass.answers.unpinning.raised with
          | some exc => exact ⟨rfl, by rw [if_neg (by simp)]; exact .inl rfl⟩
          | none =>
              cases pass.answers.unpinning.readable with
              | true => exact ⟨rfl, by rw [if_neg (by simp)]; exact .inr rfl⟩
              | false => exact ⟨rfl, by rw [if_pos (by simp)]; rfl⟩
  | checks target =>
      dsimp only
      cases wait : pass.answers.mustWait with
      | true => exact ⟨rfl, by rw [if_neg (by simp)]; exact .inl rfl⟩
      | false =>
          refine absurd ?_ (idle target pass.request.requested.isSome)
          exact act_switches.mpr ⟨wait, rfl, deployCourse_checks.mp course⟩

theorem deploy_switches {target : String} {pinned : Bool}
    (acts : pass.act world = some (.switches target pinned)) :
    deploy pass.answers pass.request world =
      guardedSwitch pass.answers target (pass.answers.stateOf world) pinned
        { world with marker := clearDrainMarker world.marker pass.answers.markerRemoved } := by
  obtain ⟨runs, rfl, reached⟩ := act_switches.mp acts
  rw [deploy, deployCourse_checks.mpr reached]
  dsimp only
  rw [runs, if_neg Bool.false_ne_true]

variable (world pass) in
theorem apply_live (restores : ∀ live, pass.answers.rollback live = (live, none)) :
    (∃ target, ComesLive world pass target ∧
        (pass.apply world).live = ⟨some target, some target⟩) ∨
      (∀ target, ¬ComesLive world pass target) ∧ (pass.apply world).live = world.live := by
  obtain ⟨pending, failure, left⟩ := mainPass_fst pass.answers pass.request world
  rw [DeployPass.apply, left]
  dsimp only
  by_cases acts : ∃ target pinned, pass.act world = some (.switches target pinned)
  · obtain ⟨target, pinned, acts⟩ := acts
    rw [deploy_switches acts, guardedSwitch_live _ _ _ _ restores]
    by_cases switched : pass.answers.preparation = none ∧ pass.answers.switching = none
    · rw [if_pos switched]
      exact .inl ⟨target, ⟨⟨pinned, acts⟩, switched⟩, rfl⟩
    · rw [if_neg switched]
      exact .inr ⟨fun other live => switched live.2, rfl⟩
  · push Not at acts
    exact .inr ⟨fun target live => acts target live.1.choose live.1.choose_spec,
      (deploy_idle acts).1⟩

/-- From a true record `deploy` leads to a true one exactly when a switch it comes to is recorded
as it went, and a cleared pin does not replace the record. -/
theorem deploy_true (holds : TrueRecord world)
    (restores : ∀ live, pass.answers.rollback live = (live, none)) :
    TrueRecord (deploy pass.answers pass.request world).1 ↔
      (∀ target pinned, pass.act world = some (.switches target pinned) →
        RecordedTruly pass.answers target world.record) ∧
      (deployCourse pass.answers pass.request (pass.answers.stateOf world) = .nothingToDo →
        pass.request.unpin = true → pass.answers.unpinning.loses = false) := by
  by_cases acts : ∃ target pinned, pass.act world = some (.switches target pinned)
  · obtain ⟨target, pinned, acts⟩ := acts
    have course : deployCourse pass.answers pass.request (pass.answers.stateOf world) ≠
        .nothingToDo := by
      obtain ⟨-, -, reached⟩ := act_switches.mp acts
      rw [deployCourse_checks.mpr reached]
      simp
    have cleared : TrueRecord { world with
        marker := clearDrainMarker world.marker pass.answers.markerRemoved } :=
      ⟨holds.containers, holds.dashboard, holds.failed, holds.pinned⟩
    rw [deploy_switches acts, guardedSwitch_true _ _ _ cleared restores]
    constructor
    · intro truly
      refine ⟨fun other commit others => ?_, fun none => absurd none course⟩
      rw [acts] at others
      cases others
      exact truly
    · exact fun truly => truly.1 target pinned acts
  · push Not at acts
    obtain ⟨live, record⟩ := deploy_idle acts
    have idle : ∀ target pinned, pass.act world = some (.switches target pinned) →
        RecordedTruly pass.answers target world.record :=
      fun target pinned switches => absurd switches (acts target pinned)
    split at record
    · rename_i lost
      obtain ⟨course, unpin, loses⟩ := lost
      obtain ⟨target, recorded⟩ := recorded_of_nothingToDo course
      refine iff_of_false (fun truth => ?_) fun kept => ?_
      · have runs := truth.containers
        rw [live, holds.containers, recorded, record] at runs
        cases runs
      · rw [kept.2 course unpin] at loses
        cases loses
    · rename_i kept
      refine iff_of_true ?_ ⟨idle, fun course unpin => ?_⟩
      · rcases record with same | cleared
        · rw [TrueRecord.congr live (by rw [same]) (by rw [same]) (by rw [same])]
          exact holds
        · refine ⟨by rw [live, cleared]; exact holds.containers,
            by rw [live, cleared]; exact holds.dashboard, ?_, ?_⟩
          · intro revision failed
            rw [cleared] at failed
            rw [live]
            exact holds.failed revision failed
          · intro revision pin
            rw [cleared] at pin
            cases pin
      · simpa using fun loses => kept ⟨course, unpin, loses⟩

variable (world pass) in
theorem apply_record :
    (pass.apply world).live = (deploy pass.answers pass.request world).1.live ∧
      let record := if pass.losesReport world then emptyRecord
        else (deploy pass.answers pass.request world).1.record
      (pass.apply world).record.revision = record.revision ∧
        (pass.apply world).record.failedRevision = record.failedRevision ∧
        (pass.apply world).record.pinned = record.pinned := by
  obtain ⟨pending, failure, left⟩ := mainPass_fst pass.answers pass.request world
  rw [DeployPass.apply, left, reportedRecord, deploy_isReported]
  exact ⟨rfl, rfl, rfl, rfl⟩

/-- From a true record a pass leads to a true one exactly when nothing that it writes is untrue
or replaces the record. -/
theorem apply_true (holds : TrueRecord world)
    (restores : ∀ live, pass.answers.rollback live = (live, none)) :
    TrueRecord (pass.apply world) ↔
      ((∀ target pinned, pass.act world = some (.switches target pinned) →
          RecordedTruly pass.answers target world.record) ∧
        (deployCourse pass.answers pass.request (pass.answers.stateOf world) = .nothingToDo →
          pass.request.unpin = true → pass.answers.unpinning.loses = false)) ∧
      (pass.losesReport world = true →
        world.record.revision = none ∧ ∀ target, ¬ComesLive world pass target) := by
  obtain ⟨live, revision, failed, pinned⟩ := apply_record world pass
  cases loses : pass.losesReport world with
  | false =>
      rw [loses, if_neg Bool.false_ne_true] at revision failed pinned
      rw [TrueRecord.congr live revision failed pinned, deploy_true holds restores]
      simp
  | true =>
      rw [loses, if_pos rfl] at revision failed pinned
      rw [trueRecord_of_empty revision failed pinned]
      rcases apply_live world pass restores with ⟨target, comes, live⟩ | ⟨stays, live⟩
      · rw [live]
        exact iff_of_false (by simp) fun kept => (kept.2 rfl).2 target comes
      · rw [live]
        constructor
        · intro nothing
          have unrecorded : world.record.revision = none := by
            rw [← holds.containers, nothing]
          refine ⟨⟨fun target pinned acts => ?_, fun course => ?_⟩, fun _ => ⟨unrecorded, stays⟩⟩
          · have early : pass.answers.preparation ≠ none ∨ pass.answers.switching ≠ none := by
              by_contra switched
              rw [not_or, not_not, not_not] at switched
              exact stays target ⟨⟨pinned, acts⟩, switched⟩
            rw [RecordedTruly, if_pos early, unrecorded]
            exact .inr ⟨by simp, .inr rfl⟩
          · obtain ⟨target, recorded⟩ := recorded_of_nothingToDo course
            rw [unrecorded] at recorded
            cases recorded
        · rintro ⟨-, kept⟩
          have unrecorded := (kept rfl).1
          have containers := holds.containers
          have dashboard := holds.dashboard
          rw [unrecorded] at containers dashboard
          exact Live.ext containers dashboard

/-- While a pin is recorded and read, a pass that names no commit and does not unpin changes
nothing. -/
theorem pinned_pass_keeps (read : pass.answers.readable = true)
    (pinned : world.record.isPinned = true) (unnamed : pass.request.requested = none)
    (kept : pass.request.unpin = false) : pass.apply world = world := by
  rw [DeployPass.apply, mainPass, deploy, PassAnswers.stateOf, readState, if_pos read, deployCourse,
    pinned, unnamed, kept]
  rfl

theorem failed_needs_force {target : String} {pinned : Bool}
    (read : pass.answers.readable = true)
    (acts : pass.act world = some (.switches target pinned))
    (failed : world.record.failedRevision = some target) : pass.request.force = true := by
  obtain ⟨-, -, drift, guards, -⟩ := act_switches.mp acts
  rw [PassAnswers.stateOf, readState, if_pos read] at guards
  exact guards.retried failed

/-- A switch that does not come live leaves the recorded failure, or records its own. -/
theorem guardedSwitch_failed {answers : PassAnswers} {target : String} {state : DeployedRecord}
    {pinned : Bool} {world : DeployWorld}
    (early : ¬(answers.preparation = none ∧ answers.switching = none)) :
    (guardedSwitch answers target state pinned world).1.record.failedRevision = some target ∨
      (guardedSwitch answers target state pinned world).1.record.failedRevision =
        world.record.failedRevision := by
  have left : ∀ {failed : DeployWorld} {called : Called DeployEnd},
      NotedFailure answers target failed called →
        called.1.record.failedRevision = some target ∨
          called.1.record.failedRevision = failed.record.failedRevision := by
    intro failed called noted
    by_cases written : answers.failureRecording.raised = none
    · obtain ⟨failure, left⟩ := noted.noted written
      rw [left]
      exact .inl rfl
    · rw [noted.unnoted written]
      exact .inr rfl
  rcases guardedSwitch_cases answers target state pinned world with
    ⟨-, noted⟩ | ⟨-, -, noted⟩ | ⟨prepared, switched, -, -⟩ | ⟨prepared, switched, -, -, -⟩ |
      ⟨prepared, switched, -, -, -⟩
  · exact left noted
  · have noted := left noted
    exact noted
  · exact absurd ⟨prepared, switched⟩ early
  · exact absurd ⟨prepared, switched⟩ early
  · exact absurd ⟨prepared, switched⟩ early

/-- What a pass owes the record: it is true behind the pass, the pin and the failure recorded
before are respected, and the failure is forgotten only for a release that has come live. -/
structure TrueStep (world : DeployWorld) (pass : DeployPass) : Prop where
  record : TrueRecord (pass.apply world)
  pin : world.record.isPinned = true → pass.request.requested = none →
    pass.request.unpin = false → (pass.apply world).live = world.live
  retried : ∀ target pinned, pass.act world = some (.switches target pinned) →
    world.record.failedRevision = some target → pass.request.force = true
  remembered : world.record.failedRevision ≠ none →
    (pass.apply world).record.failedRevision ≠ none ∨ ∃ target, ComesLive world pass target

theorem failure_remembered (kept : pass.losesReport world = false)
    (unpinned : deployCourse pass.answers pass.request (pass.answers.stateOf world) = .nothingToDo →
      pass.request.unpin = true → pass.answers.unpinning.loses = false)
    (failed : world.record.failedRevision ≠ none) :
    (pass.apply world).record.failedRevision ≠ none ∨ ∃ target, ComesLive world pass target := by
  obtain ⟨-, -, same, -⟩ := apply_record world pass
  rw [kept, if_neg Bool.false_ne_true] at same
  rw [same]
  by_cases acts : ∃ target pinned, pass.act world = some (.switches target pinned)
  · obtain ⟨target, pinned, acts⟩ := acts
    by_cases switched : pass.answers.preparation = none ∧ pass.answers.switching = none
    · exact .inr ⟨target, ⟨pinned, acts⟩, switched⟩
    · rw [deploy_switches acts]
      rcases guardedSwitch_failed switched with own | earlier
      · exact .inl (by rw [own]; simp)
      · exact .inl (by rw [earlier]; exact failed)
  · push Not at acts
    have record := (deploy_idle acts).2
    split at record
    · rename_i lost
      obtain ⟨course, unpin, loses⟩ := lost
      rw [unpinned course unpin] at loses
      cases loses
    · rcases record with same | cleared
      · exact .inl (by rw [same]; exact failed)
      · exact .inl (by rw [cleared]; exact failed)

/-- From a true record a pass keeps what it owes exactly when it writes what is true, onto what
was recorded, and reads what forbids it. -/
theorem trueStep_iff (holds : TrueRecord world)
    (restores : ∀ live, pass.answers.rollback live = (live, none)) :
    TrueStep world pass ↔ LeavesTrueRecord world pass := by
  have truth := apply_true holds restores
  constructor
  · rintro ⟨record, pin, retried, remembered⟩
    obtain ⟨⟨switched, unpinned⟩, reported⟩ := truth.mp record
    refine ⟨switched, unpinned, fun loses => ?_, ?_, fun _ => retried⟩
    · obtain ⟨revision, stays⟩ := reported loses
      refine ⟨revision, ?_, stays⟩
      by_contra failed
      rcases remembered failed with kept | ⟨target, comes⟩
      · obtain ⟨-, -, same, -⟩ := apply_record world pass
        rw [loses, if_pos rfl] at same
        exact kept same
      · exact stays target comes
    · intro _ pinned unnamed kept target comes
      have same := pin pinned unnamed kept
      rcases apply_live world pass restores with ⟨other, others, live⟩ | ⟨stays, -⟩
      · have agree : target = other := by
          obtain ⟨⟨_, acts⟩, -⟩ := comes
          obtain ⟨⟨_, again⟩, -⟩ := others
          rw [acts] at again
          cases again
          rfl
        rw [agree, ← holds.containers, ← same, live]
      · exact absurd comes (stays target)
  · rintro ⟨switched, unpinned, reported, pin, failure⟩
    have record := truth.mpr ⟨⟨switched, unpinned⟩, fun loses =>
      ⟨(reported loses).1, (reported loses).2.2⟩⟩
    refine ⟨record, fun pinned unnamed kept => ?_, fun target commit acts failed => ?_,
      fun failed => ?_⟩
    · cases read : pass.answers.readable with
      | true => rw [pinned_pass_keeps read pinned unnamed kept]
      | false =>
          rcases apply_live world pass restores with ⟨target, comes, live⟩ | ⟨-, live⟩
          · have revision := pin read pinned unnamed kept target comes
            rw [live, ← revision]
            exact (Live.ext holds.containers holds.dashboard).symm
          · exact live
    · cases read : pass.answers.readable with
      | true => exact failed_needs_force read acts failed
      | false => exact failure read target commit acts failed
    · cases loses : pass.losesReport world with
      | false => exact failure_remembered loses unpinned failed
      | true => exact absurd (reported loses).2.1 failed

end Pass

/-! ## Every run -/

/-- The record stays true, and every pass keeps what it owes it. -/
def StateIsTrue (start : DeployWorld) (passes : List DeployPass) : Prop :=
  Along DeployPass.apply TrueStep start passes

/-- With rollbacks that restore what ran, the recorded state is true throughout a run exactly
when every pass of the run writes what is true and reads what forbids it. -/
theorem recorded_state_is_true_iff (passes : List DeployPass)
    (restores : ∀ pass ∈ passes, ∀ live, pass.answers.rollback live = (live, none))
    (start : DeployWorld) (holds : TrueRecord start) :
    StateIsTrue start passes ↔ Along DeployPass.apply LeavesTrueRecord start passes := by
  induction passes generalizing start with
  | nil => exact Iff.rfl
  | cons pass rest ih =>
      have now := trueStep_iff holds (restores pass List.mem_cons_self)
      have later := ih fun other member => restores other (List.mem_cons_of_mem _ member)
      constructor
      · rintro ⟨step, others⟩
        exact ⟨now.mp step, (later _ step.record).mp others⟩
      · rintro ⟨truly, others⟩
        have step := now.mpr truly
        exact ⟨step, (later _ step.record).mpr others⟩

def liveWorld : DeployWorld where
  record := ⟨some "a", none, none, none, none, none⟩
  marker := none
  live := ⟨some "a", some "a"⟩

theorem liveWorld_true : TrueRecord liveWorld := by
  refine ⟨rfl, rfl, ?_, ?_⟩
  · intro revision failed
    cases failed
  · intro revision pin
    cases pin

/-- Answers in which nothing raises and every read succeeds leave the record true. -/
theorem quiet_leavesTrueRecord {world : DeployWorld} {main : String} :
    LeavesTrueRecord world ⟨timerRequest, quietAnswers main 0⟩ where
  switched _ _ _ := .inl rfl
  unpinned _ unpin := by cases unpin
  reported loses := by cases loses
  pin unread := by cases unread
  failure unread := by cases unread

theorem two_deploys_keep_the_record_true :
    StateIsTrue liveWorld [⟨timerRequest, quietAnswers "b" 0⟩, ⟨timerRequest, quietAnswers "c" 0⟩] := by
  refine (recorded_state_is_true_iff _ ?_ liveWorld liveWorld_true).mpr
    ⟨quiet_leavesTrueRecord, quiet_leavesTrueRecord, trivial⟩
  simp [quietAnswers]

/-- A new release comes live and an old one cannot be removed. -/
def pruningFails : DeployPass :=
  ⟨timerRequest, { quietAnswers "b" 0 with pruning := some (.other "OSError" "busy") }⟩

/-- The licensed tests of a new release fail, and the handler's write cannot read the record. -/
def recordUnread : DeployPass :=
  ⟨timerRequest, { quietAnswers "b" 0 with
    preparation := some (.deployError "licensed tests failed"), failureRecording := ⟨false, none⟩ }⟩

/-- The release that has come live is recorded as failed, and no later pass goes on; and the note
of a failure that cannot read the record drops the live revision. -/
theorem live_release_is_recorded_as_failed :
    (¬StateIsTrue liveWorld [pruningFails] ∧
      (pruningFails.apply liveWorld).live = ⟨some "b", some "b"⟩ ∧
      (pruningFails.apply liveWorld).record.failedRevision = some "b") ∧
    ¬StateIsTrue liveWorld [recordUnread] ∧
      (recordUnread.apply liveWorld).live = ⟨some "a", some "a"⟩ ∧
      (recordUnread.apply liveWorld).record.revision = none := by
  refine ⟨⟨?_, by decide, by decide⟩, ?_, by decide, by decide⟩
  · rintro ⟨step, -⟩
    exact step.record.failed "b" (by decide) (by decide)
  · rintro ⟨step, -⟩
    have runs := step.record.containers
    revert runs
    decide

end QuantFactory.Deployment
