import QuantFactory.Campaign.Requests
import QuantFactory.Campaign.Waiting

/-!
# Retests

An operator retest asks for a fresh setup.  The campaign process infers this
from the latest event of the idea alone, so the inference is right only while no
other queued event follows the retest before its test has closed.
-/

set_option autoImplicit false

namespace QuantFactory.Campaign

open QuantFactory.Library QuantFactory.Launch

variable {env : CampaignEnvironment}

/-! ## What a retest is owed -/

/-- The last retest of an idea: still to be started, started, or closed after its start. -/
inductive RetestState where
  | none | requested | started | finished
  deriving DecidableEq, Repr

def RetestState.next (state : RetestState) (event : CampaignEvent) : RetestState :=
  if event.reasonCode = requeuedAfterFix then .requested
  else match state with
    | .requested => if event.state = .running then .started else .requested
    | .started => if event.state.isOpen then .started else .finished
    | other => other

def retestState (log : CampaignLog) (candidateId : String) : RetestState :=
  (log.filter (·.isOf candidateId)).foldl RetestState.next .none

def RetestState.isOwed : RetestState → Bool
  | .requested => true
  | .started => true
  | _ => false

def retestOwed (log : CampaignLog) (candidateId : String) : Bool :=
  (retestState log candidateId).isOwed

def CampaignEvent.queuesOtherwise (event : CampaignEvent) : Prop :=
  event.state = .queued ∧ event.reasonCode ≠ requeuedAfterFix

instance (event : CampaignEvent) : Decidable event.queuesOtherwise :=
  inferInstanceAs (Decidable (_ ∧ _))

section Append
variable (log : CampaignLog) (event : CampaignEvent) (candidateId : String)

theorem retestState_append : retestState (log ++ [event]) candidateId =
    if event.candidateId = candidateId then (retestState log candidateId).next event
    else retestState log candidateId := by
  unfold retestState
  rw [List.filter_append, List.foldl_append]
  by_cases named : event.candidateId = candidateId
  · rw [List.filter_cons_of_pos (by simpa [CampaignEvent.isOf] using named), if_pos named]
    rfl
  · rw [List.filter_cons_of_neg (by simpa [CampaignEvent.isOf] using named), if_neg named]
    rfl

end Append

theorem owed_before {state : RetestState} {event : CampaignEvent}
    (other : event.reasonCode ≠ requeuedAfterFix) (owed : (state.next event).isOwed = true) :
    state.isOwed = true := by
  unfold RetestState.next at owed
  rw [if_neg other] at owed
  cases state with
  | none => cases owed
  | requested => rfl
  | started => rfl
  | finished => cases owed

/-- A started test of an owed retest is started by a running event, and not closed since. -/
theorem started_next {state : RetestState} {event : CampaignEvent}
    (started : state.next event = .started) :
    event.reasonCode ≠ requeuedAfterFix ∧ event.state.isOpen = true ∧
      (state = .started ∨ event.state = .running) := by
  unfold RetestState.next at started
  split at started
  · cases started
  · rename_i other
    refine ⟨other, ?_⟩
    cases state with
    | none => cases started
    | requested =>
        simp only at started
        split at started
        · rename_i running
          exact ⟨by rw [running]; rfl, .inr running⟩
        · cases started
    | started =>
        simp only at started
        split at started
        · rename_i isOpen
          exact ⟨isOpen, .inl rfl⟩
        · cases started
    | finished => cases started

/-- A retest still to be started: the event is the retest, or does not start the test. -/
theorem requested_next {state : RetestState} {event : CampaignEvent}
    (requested : state.next event = .requested) :
    event.reasonCode = requeuedAfterFix ∨ (state = .requested ∧ event.state ≠ .running) := by
  unfold RetestState.next at requested
  split at requested
  · rename_i fix
    exact .inl fix
  · cases state with
    | requested =>
        simp only at requested
        split at requested
        · cases requested
        · rename_i other
          exact .inr ⟨rfl, other⟩
    | started =>
        simp only at requested
        split at requested <;> cases requested
    | _ => cases requested

theorem started_open (log : CampaignLog) (candidateId : String) :
    retestState log candidateId = .started → latestIsOpen log candidateId = true := by
  induction log using List.reverseRecOn with
  | nil =>
      intro started
      cases started
  | append_singleton log event ih =>
      intro started
      rw [retestState_append] at started
      rw [latestIsOpen_append]
      split at started
      · rename_i named
        rw [if_pos named]
        exact (started_next started).2.1
      · rename_i other
        rw [if_neg other]
        exact ih started

/-! ## What a run must not do -/

/-- The rebuild flag the process has read for the idea it is about to start. -/
def rebuildFlag : CampaignPhase env → Option (QueuedIdea env × Bool)
  | .processing (.readAttempts _ _ rebuild) idea _ => some (idea, rebuild)
  | .processing (.readRecent request) idea _ => some (idea, request.rebuild)
  | .processing (.recordStart request) idea _ => some (idea, request.rebuild)
  | _ => none

/-- The idea whose test the process runs or is about to close. -/
def testedId : CampaignPhase env → Option String
  | .processing (.execute _) idea _ => some idea.draft.draftId
  | .processing (.record _) idea _ => some idea.draft.draftId
  | .executing idea _ _ => some idea.draft.draftId
  | _ => none

structure RetestUndisturbed (system : CampaignSystem env) (action : CampaignAction) : Prop where
  queuedOnce : ∀ event ∈ appendedEvent system action, event.queuesOtherwise →
    retestOwed system.log event.candidateId = false
  /-- No retest is written between the reading of the flag and the start. -/
  inTime : ∀ event ∈ appendedEvent system action, ∀ flag ∈ rebuildFlag system.phase,
    event.reasonCode = requeuedAfterFix → event.candidateId ≠ flag.1.draft.draftId
  unbroken : ∀ candidateId ∈ testedId system.phase, action = .passBreaks →
    retestState system.log candidateId ≠ .started

instance (system : CampaignSystem env) (action : CampaignAction) :
    Decidable (RetestUndisturbed system action) :=
  decidable_of_iff ((∀ event ∈ appendedEvent system action, event.queuesOtherwise →
      retestOwed system.log event.candidateId = false) ∧
    (∀ event ∈ appendedEvent system action, ∀ flag ∈ rebuildFlag system.phase,
      event.reasonCode = requeuedAfterFix → event.candidateId ≠ flag.1.draft.draftId) ∧
    ∀ candidateId ∈ testedId system.phase, action = .passBreaks →
      retestState system.log candidateId ≠ .started)
    ⟨fun holds => ⟨holds.1, holds.2.1, holds.2.2⟩,
      fun holds => ⟨holds.queuedOnce, holds.inTime, holds.unbroken⟩⟩

/-! ## The invariant -/

/-- Where a started test of an owed retest is: with the process, or waiting for its restart. -/
def Carried (candidateId : String) : CampaignPhase env → Prop
  | .down => True
  | .restarting rows => ∃ row ∈ rows, row.candidateId = candidateId
  | phase => testedId phase = some candidateId

structure RetestKept (system : CampaignSystem env) : Prop where
  queues : OnlyQueues system
  ideas : IdeasOpen system.phase system.log
  requested : ∀ candidateId, retestState system.log candidateId = .requested →
    rebuildRequested system.log candidateId = true ∨
      latestIsOpen system.log candidateId = false
  carried : ∀ candidateId, retestState system.log candidateId = .started →
    Carried candidateId system.phase
  flag : ∀ idea rebuild, rebuildFlag system.phase = some (idea, rebuild) →
    retestOwed system.log idea.draft.draftId = true → rebuild = true

theorem rebuildRequested_append (log : CampaignLog) (event : CampaignEvent)
    (candidateId : String) : rebuildRequested (log ++ [event]) candidateId =
      if event.candidateId = candidateId then decide (event.reasonCode = requeuedAfterFix)
      else rebuildRequested log candidateId := by
  unfold rebuildRequested
  rw [latestCampaignEvent_append]
  split <;> rfl

/-- A retest still to be started stays visible, or its idea is closed. -/
theorem requested_append {log : CampaignLog} {event : CampaignEvent}
    (kept : ∀ candidateId, retestState log candidateId = .requested →
      rebuildRequested log candidateId = true ∨ latestIsOpen log candidateId = false)
    (queuedOnce : event.queuesOtherwise → retestOwed log event.candidateId = false)
    (candidateId : String) (requested : retestState (log ++ [event]) candidateId = .requested) :
    rebuildRequested (log ++ [event]) candidateId = true ∨
      latestIsOpen (log ++ [event]) candidateId = false := by
  rw [retestState_append] at requested
  rw [rebuildRequested_append, latestIsOpen_append]
  by_cases named : event.candidateId = candidateId
  · rw [if_pos named] at requested
    rw [if_pos named, if_pos named]
    by_cases fix : event.reasonCode = requeuedAfterFix
    · exact .inl (decide_eq_true fix)
    · right
      rcases requested_next requested with written | ⟨before, notRunning⟩
      · exact absurd written fix
      · have owed : retestOwed log event.candidateId = true := by
          rw [retestOwed, named, before]
          rfl
        have notQueued : event.state ≠ .queued := fun queued => by
          rw [queuedOnce ⟨queued, fix⟩] at owed
          cases owed
        cases state : event.state with
        | queued => exact absurd state notQueued
        | running => exact absurd state notRunning
        | _ => rfl
  · rw [if_neg named] at requested
    rw [if_neg named, if_neg named]
    exact kept candidateId requested

/-- The process keeps the test until it appends an event of its idea. -/
theorem carried_pass {system : CampaignSystem env} {phase : CampaignPhase env}
    {step : PassStep env} {candidateId : String} (move : PassMove system phase step)
    (before : Carried candidateId phase)
    (others : ∀ event, step.event = some event → event.candidateId ≠ candidateId) :
    Carried candidateId step.phase := by
  cases move with
  | isDown => trivial
  | restarted =>
      obtain ⟨row, member, _⟩ := before
      cases member
  | requeued row rows =>
      obtain ⟨held, member, named⟩ := before
      rcases List.mem_cons.mp member with rfl | later
      · exact absurd named (others held rfl)
      · exact ⟨held, later, named⟩
  | processed point idea rest step move =>
      cases move with
      | closes verdict =>
          cases point with
          | execute request => exact before
          | record verdict => exact before
          | _ => cases before
      | executed request => exact before
      | recorded verdict =>
          have named : idea.draft.draftId = candidateId := Option.some.inj before
          exact absurd named (others _ rfl)
      | _ => cases before
  | waits idea rest call => exact before
  | reported idea rest call verdict => exact before
  | _ => cases before

theorem carried_move {system : CampaignSystem env} {action : CampaignAction}
    {candidateId : String} (undisturbed : RetestUndisturbed system action)
    (started : retestState system.log candidateId = .started)
    (before : Carried candidateId system.phase)
    (others : ∀ event, appendedEvent system action = some event →
      event.candidateId ≠ candidateId) :
    Carried candidateId (campaignStep system action).phase := by
  by_cases proceeds : action = .proceed
  · subst proceeds
    exact carried_pass (passStep_move system) before others
  · rw [campaignStep_phase]
    have move := nextPhase_move system action
    have unbroken := undisturbed.unbroken candidateId
    generalize nextPhase system action = next at move ⊢
    generalize system.phase = phase at move before unbroken
    cases move with
    | proceeds => exact absurd rfl proceeds
    | stays => exact before
    | processRaised detail point idea rest verdict =>
        cases point with
        | execute request => exact before
        | record earlier => exact before
        | _ => cases before
    | callRaised detail idea rest call verdict => exact before
    | ended queued => cases before
    | broken phase up ready =>
        cases phase with
        | down => exact absurd rfl up
        | restarting rows => exact absurd rfl (ready rows)
        | _ => exact absurd started (unbroken before rfl)
    | exited => trivial
    | restarts =>
        have isOpen := started_open system.log candidateId started
        obtain ⟨event, latest, isOpen⟩ := (Option.any_eq_true _ _).mp isOpen
        exact requeueAfterRestart_mem latest isOpen

theorem carried_step {system : CampaignSystem env} {action : CampaignAction}
    (kept : RetestKept system) (undisturbed : RetestUndisturbed system action)
    (candidateId : String)
    (started : retestState (campaignStep system action).log candidateId = .started) :
    Carried candidateId (campaignStep system action).phase := by
  rw [campaignStep_log] at started
  by_cases named : ∃ event, appendedEvent system action = some event ∧
      event.candidateId = candidateId
  · obtain ⟨event, appended, rfl⟩ := named
    rw [appended, Option.toList_some, retestState_append, if_pos rfl] at started
    obtain ⟨other, isOpen, origin⟩ := started_next started
    have running : event.state = .running := by
      rcases origin with before | running
      · have owed : retestOwed system.log event.candidateId = true := by
          rw [retestOwed, before]
          rfl
        cases state : event.state with
        | queued =>
            rw [undisturbed.queuedOnce event appended ⟨state, other⟩] at owed
            cases owed
        | running => rfl
        | _ =>
            rw [state] at isOpen
            cases isOpen
      · exact running
    obtain ⟨rfl, request, idea, rest, phase, rfl⟩ := start_recorded kept.queues appended running
    rw [start_executes phase]
    rfl
  · have others : ∀ event, appendedEvent system action = some event →
        event.candidateId ≠ candidateId := fun event appended same => named ⟨event, appended, same⟩
    have before : retestState system.log candidateId = .started := by
      cases appended : appendedEvent system action with
      | none => simpa [appended] using started
      | some event =>
          rw [appended, Option.toList_some, retestState_append,
            if_neg (others event appended)] at started
          exact started
    exact carried_move undisturbed before (kept.carried candidateId before) others

/-- The flag in hand after a step was in hand before, or has just been read. -/
theorem rebuildFlag_reached {system : CampaignSystem env} {action : CampaignAction}
    {idea : QueuedIdea env} {rebuild : Bool}
    (reached : rebuildFlag (campaignStep system action).phase = some (idea, rebuild)) :
    rebuildFlag system.phase = some (idea, rebuild) ∨
      ∃ definition profile rest,
        system.phase = .processing (.readRebuild definition profile) idea rest ∧
        (campaignStep system action).log = system.log ∧
        rebuild = rebuildRequested system.log idea.draft.draftId := by
  by_cases proceeds : action = .proceed
  · subst proceeds
    have move := passStep_move system
    change rebuildFlag (passStep system).phase = _ at reached
    change _ ∨ ∃ definition profile rest, _ ∧
      system.log ++ (passStep system).event.toList = system.log ∧ _
    generalize passStep system = step at move reached ⊢
    generalize system.phase = phase at move ⊢
    cases move with
    | processed point idea rest step move =>
        cases move with
        | rebuildRead definition profile =>
            cases reached
            exact .inr ⟨definition, profile, rest, rfl, List.append_nil _, rfl⟩
        | attemptsRead definition profile rebuild => exact .inl reached
        | allowed request left => exact .inl reached
        | _ => cases reached
    | _ => cases reached
  · left
    rw [campaignStep_phase] at reached
    have move := nextPhase_move system action
    generalize nextPhase system action = next at move reached
    generalize system.phase = phase at move ⊢
    cases move with
    | proceeds => exact absurd rfl proceeds
    | stays => exact reached
    | _ => cases reached

theorem flag_step {system : CampaignSystem env} {action : CampaignAction}
    (kept : RetestKept system) (undisturbed : RetestUndisturbed system action)
    {idea : QueuedIdea env} {rebuild : Bool}
    (reached : rebuildFlag (campaignStep system action).phase = some (idea, rebuild))
    (owed : retestOwed (campaignStep system action).log idea.draft.draftId = true) :
    rebuild = true := by
  rcases rebuildFlag_reached reached with before | ⟨definition, profile, rest, phase, sameLog, rfl⟩
  · refine kept.flag idea rebuild before ?_
    rw [campaignStep_log] at owed
    cases appended : appendedEvent system action with
    | none => simpa [appended] using owed
    | some event =>
        rw [appended, Option.toList_some, retestOwed, retestState_append] at owed
        split at owed
        · rename_i named
          by_cases fix : event.reasonCode = requeuedAfterFix
          · exact absurd named (undisturbed.inTime event appended _ before fix)
          · exact owed_before fix owed
        · exact owed
  · rw [sameLog] at owed
    cases state : retestState system.log idea.draft.draftId with
    | requested =>
        rcases kept.requested _ state with visible | closed
        · exact visible
        · -- The idea in process is open.
          have isOpen := kept.ideas.waiting idea.draft.draftId (by rw [phase]; exact List.mem_cons_self)
          rw [closed] at isOpen
          cases isOpen
    | started =>
        have carried := kept.carried _ state
        rw [phase] at carried
        cases carried
    | _ =>
        rw [retestOwed, state] at owed
        cases owed

theorem retestKept_step (system : CampaignSystem env) (action : CampaignAction)
    (undisturbed : RetestUndisturbed system action) (kept : RetestKept system) :
    RetestKept (campaignStep system action) where
  queues := onlyQueues_step kept.queues action
  ideas := ideasOpen_step kept.queues kept.ideas action
  requested := by
    rw [campaignStep_log]
    cases appended : appendedEvent system action with
    | none =>
        rw [Option.toList_none, List.append_nil]
        exact kept.requested
    | some event =>
        exact requested_append kept.requested (undisturbed.queuedOnce event appended)
  carried candidateId started := carried_step kept undisturbed candidateId started
  flag _ _ reached owed := flag_step kept undisturbed reached owed

theorem retestKept_start (store : ResearchStore) : RetestKept (startSystem env store) where
  queues := (budgetKept_start store).queues
  ideas := ideasOpen_none _ rfl rfl rfl
  requested candidateId requested := by cases requested
  carried candidateId started := by cases started
  flag idea rebuild flag := by cases flag

/-! ## Every run -/

/-- In every state of the run, a test that is started while a retest is owed is started with
`rebuild`, and every executor call runs a request that was started so. -/
structure RetestRebuilds (env : CampaignEnvironment) (store : ResearchStore)
    (actions : List CampaignAction) : Prop where
  rebuilt : ∀ started, Visited campaignStep (startSystem env store) actions started →
    ∀ request idea rest, started.phase = .processing (.recordStart request) idea rest →
      retestOwed started.log idea.draft.draftId = true → request.rebuild = true
  executed : ∀ call ∈ (run campaignStep (startSystem env store) actions).calls,
    RecordedIn (Visited campaignStep (startSystem env store) actions) call.request

/-- A run that hides no owed retest from the process rebuilds for every one of them. -/
theorem retest_rebuilds (env : CampaignEnvironment) (store : ResearchStore)
    (actions : List CampaignAction)
    (undisturbed : Along campaignStep RetestUndisturbed (startSystem env store) actions) :
    RetestRebuilds env store actions where
  rebuilt started visited request idea rest phase owed := by
    obtain ⟨earlier, later, rfl, rfl, -⟩ := visited_rest campaignStep visited
    have before := ((along_append campaignStep earlier later _).mp undisturbed).1
    have kept := run_invariant_along campaignStep retestKept_step earlier _ before
      (retestKept_start store)
    exact kept.flag idea request.rebuild (by rw [phase]; rfl) owed
  executed _ member := calls_recorded store actions member

/-- A test started after a retest nothing hid. -/
theorem retest_rebuilds_after_retest :
    RetestRebuilds sampleEnvironment sampleStore
      (ideaTested ++ retestWritten ++ List.replicate 14 .proceed) := by
  have undisturbed : Along campaignStep RetestUndisturbed
      (startSystem sampleEnvironment sampleStore)
      (ideaTested ++ retestWritten ++ List.replicate 14 .proceed) := by decide +kernel
  exact retest_rebuilds sampleEnvironment sampleStore _ undisturbed

/-- About to start a test of an owed retest without `rebuild`. -/
def startsAsSaved (system : CampaignSystem env) : Bool :=
  match system.phase with
  | .processing (.recordStart request) idea _ =>
      retestOwed system.log idea.draft.draftId && !request.rebuild
  | _ => false

theorem startsAsSaved_refutes {store : ResearchStore} {actions : List CampaignAction}
    (asSaved : startsAsSaved (run campaignStep (startSystem env store) actions) = true) :
    ¬ RetestRebuilds env store actions := by
  intro holds
  have rebuilt := holds.rebuilt _ (visited_last campaignStep (startSystem env store) actions)
  generalize run campaignStep (startSystem env store) actions = last at asSaved rebuilt
  unfold startsAsSaved at asSaved
  split at asSaved
  · rename_i request idea rest phase
    obtain ⟨owed, saved⟩ := Bool.and_eq_true_iff.mp asSaved
    rw [rebuilt request idea rest phase owed] at saved
    cases saved
  · cases asSaved

theorem restart_loses_retest : ¬ RetestRebuilds sampleEnvironment sampleStore
    (ideaTested ++ retestWritten ++ [.exit, .start] ++ List.replicate 14 .proceed) := by
  refine startsAsSaved_refutes ?_
  decide +kernel

end QuantFactory.Campaign
