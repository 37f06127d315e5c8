import QuantFactory.Campaign.Steps
import QuantFactory.Library.Runs

/-!
# The attempt budget

Only the campaign process starts tests, one after another, and it counts the
starts of a packet since its last requeue after a fix before each of them.
-/

set_option autoImplicit false

namespace QuantFactory.Campaign

open QuantFactory.Library QuantFactory.Launch

variable {env : CampaignEnvironment}

/-! ## The budget -/

structure OnlyQueues (system : CampaignSystem env) : Prop where
  requests : ∀ rows ∈ system.requests, ∀ event ∈ rows, event.state = .queued
  restart : ∀ rows, system.phase = .restarting rows → ∀ event ∈ rows, event.state = .queued

def StartCounted (system : CampaignSystem env) : Prop :=
  ∀ request idea rest, system.phase = .processing (.recordStart request) idea rest →
    campaignAttemptsSinceRequeue system.log idea.draft.draftId idea.digest < maxAttempts

/-- No packet is ever started more often than the budget since its last requeue. -/
def Bounded (log : CampaignLog) : Prop :=
  ∀ earlier, earlier <+: log → ∀ candidateId digest,
    campaignAttemptsSinceRequeue earlier candidateId digest ≤ maxAttempts

structure BudgetKept (system : CampaignSystem env) : Prop where
  queues : OnlyQueues system
  counted : StartCounted system
  bounded : Bounded system.log

theorem appended_queued {system : CampaignSystem env} (queues : OnlyQueues system)
    {action : CampaignAction} {event : CampaignEvent} (other : action ≠ .proceed)
    (appended : appendedEvent system action = some event) : event.state = .queued := by
  cases action with
  | proceed => exact absurd rfl other
  | append index =>
      obtain ⟨rows, found, head⟩ := Option.bind_eq_some_iff.mp appended
      exact queues.requests rows (List.mem_of_getElem? found) event (List.mem_of_head? head)
  | _ => cases appended

theorem start_recorded {system : CampaignSystem env} (queues : OnlyQueues system)
    {action : CampaignAction} {event : CampaignEvent}
    (appended : appendedEvent system action = some event) (running : event.state = .running) :
    action = .proceed ∧ ∃ request idea rest,
      system.phase = .processing (.recordStart request) idea rest ∧
      event = idea.event .running "started" := by
  by_cases proceeds : action = .proceed
  · subst proceeds
    refine ⟨rfl, ?_⟩
    have origin := passStep_event system appended
    generalize phase : system.phase = current at origin
    cases origin with
    | requeued row rows =>
        have queued := queues.restart _ phase event List.mem_cons_self
        rw [queued] at running
        cases running
    | waiting seen draft drafts queued idea => cases running
    | started request idea rest => exact ⟨request, idea, rest, rfl, rfl⟩
    | closed verdict idea rest =>
        have closed := verdict.closed
        rw [show verdict.state = .running from running] at closed
        cases closed
  · rw [appended_queued queues proceeds appended] at running
    cases running

theorem onlyQueues_step {system : CampaignSystem env} (queues : OnlyQueues system)
    (action : CampaignAction) : OnlyQueues (campaignStep system action) where
  requests rows member event held := by
    rcases campaignStep_requests system action member with ⟨before, old, kept⟩ | ⟨request, -, rfl⟩
    · exact queues.requests before old event (kept event held)
    · exact requestedEvents_queued held
  restart rows restarting event held := by
    rw [campaignStep_phase] at restarting
    have move := nextPhase_move system action
    have before := queues.restart
    generalize nextPhase system action = next at move restarting
    generalize system.phase = phase at move before
    cases move with
    | proceeds _ step move =>
        cases move with
        | requeued row rows' =>
            cases restarting
            exact before _ rfl event (List.mem_cons_of_mem row held)
        | processed point idea rest step move => cases move <;> cases restarting
        | _ => cases restarting
    | stays => exact before rows restarting event held
    | restarts =>
        cases restarting
        exact requeueAfterRestart_queued held
    | _ => cases restarting

theorem start_executes {system : CampaignSystem env} {request : AutoTestRequest env}
    {idea : QueuedIdea env} {rest : List (QueuedIdea env)}
    (phase : system.phase = .processing (.recordStart request) idea rest) :
    (campaignStep system .proceed).phase = .processing (.execute request) idea rest := by
  rw [campaignStep_phase]
  simp only [nextPhase, passStep, phase, processStep]

/-! ## Counting before a start -/

/-- What is appended without being a start leaves every count. -/
theorem sinceRequeue_kept {system : CampaignSystem env} {action : CampaignAction}
    (noStart : ∀ event, appendedEvent system action = some event → event.state ≠ .running)
    (candidateId digest : String) :
    campaignAttemptsSinceRequeue (campaignStep system action).log candidateId digest ≤
      campaignAttemptsSinceRequeue system.log candidateId digest := by
  rw [campaignStep_log]
  cases appended : appendedEvent system action with
  | none => exact Nat.le_of_eq (by rw [Option.toList_none, List.append_nil])
  | some event =>
      have counted := campaignAttemptsSinceRequeue_append system.log event candidateId digest
      have other : event.isStart candidateId digest = false := by
        simp [CampaignEvent.isStart, noStart event appended]
      rw [other] at counted
      exact counted

theorem recordStart_reached {system : CampaignSystem env} {action : CampaignAction}
    {request : AutoTestRequest env} {idea : QueuedIdea env} {rest : List (QueuedIdea env)}
    (reached : (campaignStep system action).phase = .processing (.recordStart request) idea rest) :
    (action ≠ .proceed ∧ system.phase = .processing (.recordStart request) idea rest) ∨
      ((campaignStep system action).log = system.log ∧
        system.phase = .processing (.readRecent request) idea rest ∧
        campaignAttemptsSinceRequeue system.log idea.draft.draftId idea.digest < maxAttempts) := by
  by_cases proceeds : action = .proceed
  · right
    subst proceeds
    have move := passStep_move system
    change (passStep system).phase = _ at reached
    change system.log ++ (passStep system).event.toList = system.log ∧ _
    generalize passStep system = step at move reached ⊢
    generalize system.phase = phase at move ⊢
    cases move with
    | processed point idea rest step move =>
        cases move with
        | allowed request left =>
            cases reached
            exact ⟨List.append_nil _, rfl, left⟩
        | _ => cases reached
    | _ => cases reached
  · left
    refine ⟨proceeds, ?_⟩
    rw [campaignStep_phase] at reached
    have move := nextPhase_move system action
    generalize nextPhase system action = next at move reached
    generalize system.phase = phase at move ⊢
    cases move with
    | proceeds => exact absurd rfl proceeds
    | stays => exact reached
    | _ => cases reached

theorem startCounted_step {system : CampaignSystem env} (kept : BudgetKept system)
    (action : CampaignAction) : StartCounted (campaignStep system action) := by
  intro request idea rest reached
  rcases recordStart_reached reached with ⟨other, before⟩ | ⟨sameLog, -, left⟩
  · have noStart : ∀ event, appendedEvent system action = some event → event.state ≠ .running :=
      fun event appended running => other (start_recorded kept.queues appended running).1
    exact Nat.lt_of_le_of_lt (sinceRequeue_kept noStart _ _) (kept.counted request idea rest before)
  · rw [sameLog]
    exact left

theorem start_within_budget {system : CampaignSystem env} (kept : BudgetKept system)
    {action : CampaignAction} {event : CampaignEvent} {candidateId digest : String}
    (appended : appendedEvent system action = some event)
    (start : event.isStart candidateId digest = true) :
    campaignAttemptsSinceRequeue system.log candidateId digest < maxAttempts := by
  simp only [CampaignEvent.isStart, Bool.and_eq_true, decide_eq_true_eq] at start
  obtain ⟨⟨sameCandidate, sameDigest⟩, running⟩ := start
  obtain ⟨-, request, idea, rest, phase, rfl⟩ := start_recorded kept.queues appended running
  have left := kept.counted request idea rest phase
  rw [show idea.draft.draftId = candidateId from sameCandidate,
    show idea.digest = digest from Option.some.inj sameDigest] at left
  exact left

theorem bounded_step {system : CampaignSystem env} (kept : BudgetKept system)
    (action : CampaignAction) : Bounded (campaignStep system action).log := by
  rw [campaignStep_log]
  cases appended : appendedEvent system action with
  | none =>
      rw [Option.toList_none, List.append_nil]
      exact kept.bounded
  | some event =>
      intro earlier before candidateId digest
      rcases List.prefix_concat_iff.mp before with rfl | old
      · have counted := campaignAttemptsSinceRequeue_append system.log event candidateId digest
        have bound := kept.bounded system.log (List.prefix_refl _) candidateId digest
        by_cases start : event.isStart candidateId digest = true
        · have left := start_within_budget kept appended start
          rw [if_pos start] at counted
          exact Nat.le_trans counted left
        · rw [if_neg start] at counted
          exact Nat.le_trans counted bound
      · exact kept.bounded earlier old candidateId digest

theorem budgetKept_step (system : CampaignSystem env) (action : CampaignAction)
    (kept : BudgetKept system) : BudgetKept (campaignStep system action) where
  queues := onlyQueues_step kept.queues action
  counted := startCounted_step kept action
  bounded := bounded_step kept action

theorem budgetKept_start (store : ResearchStore) : BudgetKept (startSystem env store) where
  queues := {
    requests := fun rows member => by cases member
    restart := fun rows phase => by cases phase }
  counted := fun request idea rest phase => by cases phase
  bounded earlier before candidateId digest := by
    obtain rfl := List.prefix_nil.mp before
    exact Nat.zero_le _

/-! ## Every run -/

structure BudgetHolds (system : CampaignSystem env) : Prop where
  /-- Without a requeue after a fix in between, a packet is started at most so often. -/
  window : ∀ before window after candidateId digest,
    system.log = before ++ window ++ after →
    (∀ event ∈ window, event.isFix candidateId = false) →
    window.countP (·.isStart candidateId digest) ≤ maxAttempts
  notStarted : ∀ action event candidateId digest,
    maxAttempts ≤ campaignAttemptsSinceRequeue system.log candidateId digest →
    appendedEvent system action = some event → event.isStart candidateId digest = false
  closed : ∀ request idea rest,
    system.phase = .processing (.readRecent request) idea rest →
    maxAttempts ≤ campaignAttemptsSinceRequeue system.log idea.draft.draftId idea.digest →
    ∃ verdict, verdict.state = .failed ∧
      (campaignStep system .proceed).phase = .processing (.record verdict) idea rest ∧
      (run campaignStep system [.proceed, .proceed]).log =
        system.log ++ [idea.verdictEvent verdict]

theorem budgetKept_window {system : CampaignSystem env} (kept : BudgetKept system)
    {before window after : CampaignLog} {candidateId : String} (digest : String)
    (decomposed : system.log = before ++ window ++ after)
    (noFix : ∀ event ∈ window, event.isFix candidateId = false) :
    window.countP (·.isStart candidateId digest) ≤ maxAttempts := by
  have noPacketFix : ∀ event ∈ window, event.isPacketFix candidateId digest = false := by
    intro event member
    have other := noFix event member
    simp only [CampaignEvent.isFix, Bool.and_eq_false_iff] at other
    simp only [CampaignEvent.isPacketFix, Bool.and_eq_false_iff]
    rcases other with other | other
    · exact .inl (.inl other)
    · exact .inr other
  calc window.countP (·.isStart candidateId digest)
      ≤ campaignAttemptsSinceRequeue (before ++ window) candidateId digest :=
        countP_window _ _ before window noPacketFix
    _ ≤ maxAttempts :=
        kept.bounded (before ++ window) ⟨after, decomposed.symm⟩ candidateId digest

theorem budget_closes {system : CampaignSystem env} {request : AutoTestRequest env}
    {idea : QueuedIdea env} {rest : List (QueuedIdea env)}
    (phase : system.phase = .processing (.readRecent request) idea rest)
    (used : maxAttempts ≤
      campaignAttemptsSinceRequeue system.log idea.draft.draftId idea.digest) :
    passStep system = recordNext (budgetSpent
      (campaignAttemptsSinceRequeue system.log idea.draft.draftId idea.digest)) idea rest := by
  simp only [passStep, phase, processStep, afterRecent]
  rw [if_pos used]

/-- In every run, whatever the passes, restarts, requeues and retests. -/
theorem attempt_budget (env : CampaignEnvironment) (store : ResearchStore)
    (actions : List CampaignAction) :
    BudgetHolds (run campaignStep (startSystem env store) actions) := by
  have kept : BudgetKept (run campaignStep (startSystem env store) actions) :=
    run_invariant campaignStep budgetKept_step actions _ (budgetKept_start store)
  generalize run campaignStep (startSystem env store) actions = system at kept
  refine ⟨?_, ?_, ?_⟩
  · intro before window after candidateId digest decomposed noFix
    exact budgetKept_window kept digest decomposed noFix
  · intro action event candidateId digest used appended
    by_contra started
    have left := start_within_budget kept appended (by simpa using started)
    omega
  · intro request idea rest phase used
    have closes := budget_closes phase used
    refine ⟨_, rfl, congrArg PassStep.phase closes, ?_⟩
    change (advancePass (advancePass system)).log = _
    rw [show advancePass system = _ by unfold advancePass; rw [closes]]
    simp [advancePass, passStep, processStep, recordNext, goOn]

end QuantFactory.Campaign
