import QuantFactory.Campaign.Budget

/-!
# The ideas of a pass

An idea that a pass still has to test stays queued or running: only the process
itself records verdicts, one idea after another, and a pass holds no idea twice.
-/

set_option autoImplicit false

namespace QuantFactory.Campaign

open QuantFactory.Library QuantFactory.Launch

variable {env : CampaignEnvironment}

def latestIsOpen (log : CampaignLog) (candidateId : String) : Bool :=
  (latestCampaignEvent log candidateId).any fun event => event.state.isOpen

def ideaIds (ideas : List (QueuedIdea env)) : List String := ideas.map (·.draft.draftId)

def waitingIds : CampaignPhase env → List String
  | .queueing _ _ queued => ideaIds queued
  | .passing queued => ideaIds queued
  | .processing _ idea rest => idea.draft.draftId :: ideaIds rest
  | .executing idea rest _ => idea.draft.draftId :: ideaIds rest
  | _ => []

/-- The drafts `_queue` has still to look at. -/
def unreadIds : CampaignPhase env → List String
  | .queueing _ drafts _ => drafts.map (·.draftId)
  | _ => []

/-- The latest events `_queue` works with. -/
def seenLog : CampaignPhase env → Option CampaignLog
  | .listing seen => some seen
  | .queueing seen _ _ => some seen
  | _ => none

structure IdeasOpen (phase : CampaignPhase env) (log : CampaignLog) : Prop where
  seen : ∀ seen, seenLog phase = some seen → ∀ candidateId,
    latestIsOpen seen candidateId = true → latestIsOpen log candidateId = true
  waiting : ∀ candidateId ∈ waitingIds phase, latestIsOpen log candidateId = true
  distinct : (waitingIds phase ++ unreadIds phase).Nodup

/-! ## One event -/

section Append
variable (log : CampaignLog) (event : CampaignEvent) (candidateId : String)

theorem latestIsOpen_append : latestIsOpen (log ++ [event]) candidateId =
    if event.candidateId = candidateId then event.state.isOpen
    else latestIsOpen log candidateId := by
  unfold latestIsOpen
  rw [latestCampaignEvent_append]
  split <;> rfl

theorem latestIsOpen_opened (isOpen : event.state.isOpen = true)
    (before : latestIsOpen log candidateId = true) :
    latestIsOpen (log ++ [event]) candidateId = true := by
  rw [latestIsOpen_append]
  split
  · exact isOpen
  · exact before

end Append

theorem ideasOpen_opened {phase : CampaignPhase env} {log : CampaignLog}
    (kept : IdeasOpen phase log) {event : CampaignEvent} (isOpen : event.state.isOpen = true) :
    IdeasOpen phase (log ++ [event]) where
  seen seen same candidateId before :=
    latestIsOpen_opened log event candidateId isOpen (kept.seen seen same candidateId before)
  waiting candidateId member :=
    latestIsOpen_opened log event candidateId isOpen (kept.waiting candidateId member)
  distinct := kept.distinct

theorem ideasOpen_fewer {phase next : CampaignPhase env} {log : CampaignLog}
    (kept : IdeasOpen phase log) (seen : ∀ seen, seenLog next = some seen → seenLog phase = some seen)
    (fewer : (waitingIds next).Sublist (waitingIds phase))
    (unread : (unreadIds next).Sublist (unreadIds phase)) : IdeasOpen next log where
  seen earlier same := kept.seen earlier (seen earlier same)
  waiting candidateId member := kept.waiting candidateId (fewer.subset member)
  distinct := List.Nodup.sublist (fewer.append unread) kept.distinct

theorem ideasOpen_none {next : CampaignPhase env} (log : CampaignLog)
    (seen : seenLog next = none) (waiting : waitingIds next = []) (unread : unreadIds next = []) :
    IdeasOpen next log where
  seen earlier same := by rw [seen] at same; cases same
  waiting candidateId member := by rw [waiting] at member; cases member
  distinct := by rw [waiting, unread]; exact List.nodup_nil

/-! ## One step of the process -/

theorem listSorted_distinct (drafts : DraftTable) (skipLinkedIds : List String) :
    ((IdeaDraftRepository.listSorted drafts skipLinkedIds).map (·.draftId)).Nodup := by
  have sorted := (List.perm_insertionSort
    (fun first second => IdeaDraftRepository.creationLe first second = true)
    (drafts.rows.filter fun draft => draft.configurationId.isNone ||
      draft.draftId ∉ skipLinkedIds)).map (·.draftId)
  refine sorted.nodup_iff.mpr ?_
  exact List.Nodup.sublist (List.filter_sublist.map _) drafts.unique

theorem ideasOpen_process {system : CampaignSystem env} {point : ProcessPoint env}
    {idea : QueuedIdea env} {rest : List (QueuedIdea env)} {step : PassStep env}
    (move : ProcessMove system idea rest point step)
    (kept : IdeasOpen (.processing point idea rest) system.log) :
    IdeasOpen step.phase (system.log ++ step.event.toList) := by
  have same : ∀ next, seenLog next = none →
      waitingIds next = waitingIds (.processing point idea rest) → unreadIds next = [] →
      IdeasOpen next system.log := fun next seen waiting unread =>
    ideasOpen_fewer kept (fun _ found => by rw [seen] at found; cases found)
      (waiting ▸ List.Sublist.refl _) (unread ▸ List.nil_sublist _)
  cases move with
  | started request =>
      have isOpen : (idea.event .running "started").state.isOpen = true := rfl
      exact ideasOpen_opened (same (.processing (.execute request) idea rest) rfl rfl rfl) isOpen
  | recorded verdict =>
      have distinct := kept.distinct
      simp only [waitingIds, unreadIds, List.append_nil] at distinct
      obtain ⟨absent, distinct⟩ := List.nodup_cons.mp distinct
      refine ⟨?_, ?_, ?_⟩
      · intro seen found
        cases found
      · intro candidateId member
        -- The verdict closes the idea, which is not among the others.
        have other : (idea.verdictEvent verdict).candidateId ≠ candidateId :=
          fun equal => absent ((show idea.draft.draftId = candidateId from equal) ▸ member)
        change latestIsOpen (system.log ++ [idea.verdictEvent verdict]) candidateId = true
        rw [latestIsOpen_append, if_neg other]
        exact kept.waiting candidateId (List.mem_cons_of_mem _ member)
      · simpa [waitingIds, unreadIds] using distinct
  | _ =>
      simp only [recordNext, goOn, Option.toList_none, List.append_nil]
      exact same _ rfl rfl rfl

/-- A draft that enters the queue is open, and no other draft is the same idea. -/
theorem ideasOpen_queues {seen log : CampaignLog} {draft : IdeaDraft} {drafts : List IdeaDraft}
    {queued : List (QueuedIdea env)} {idea : QueuedIdea env} (same : idea.draft = draft)
    (kept : IdeasOpen (.queueing seen (draft :: drafts) queued) log)
    (isOpen : latestIsOpen log draft.draftId = true) :
    IdeasOpen (.queueing seen drafts (queued ++ [idea])) log := by
  have ids : ideaIds (queued ++ [idea]) = ideaIds queued ++ [draft.draftId] := by
    simp [ideaIds, same]
  refine ⟨kept.seen, ?_, ?_⟩
  · intro candidateId member
    simp only [waitingIds, ids] at member
    rcases List.mem_append.mp member with old | new
    · exact kept.waiting candidateId old
    · rw [List.mem_singleton.mp new]
      exact isOpen
  · have distinct := kept.distinct
    simp only [waitingIds, unreadIds, List.map_cons] at distinct
    simp only [waitingIds, unreadIds, ids, List.append_assoc, List.singleton_append]
    exact distinct

theorem ideasOpen_pass {system : CampaignSystem env} {phase : CampaignPhase env}
    {step : PassStep env} (move : PassMove system phase step)
    (kept : IdeasOpen phase system.log) :
    IdeasOpen step.phase (system.log ++ step.event.toList) := by
  cases move with
  | requeued row rows => exact ideasOpen_none _ rfl rfl rfl
  | latestRead =>
      rw [show (goOn (.listing system.log) : PassStep env).event.toList = [] from rfl,
        List.append_nil]
      refine ⟨?_, ?_, List.nodup_nil⟩
      · intro seen same candidateId before
        cases same
        exact before
      · intro candidateId member
        cases member
  | draftsRead seen =>
      refine ⟨?_, ?_, ?_⟩
      · intro earlier same candidateId before
        rw [goOn, Option.toList_none, List.append_nil]
        exact kept.seen earlier same candidateId before
      · intro candidateId member
        cases member
      · exact listSorted_distinct system.store.drafts (settledIds seen)
  | allQueued seen queued =>
      rw [goOn, Option.toList_none, List.append_nil]
      exact ideasOpen_fewer kept (fun _ found => by cases found) (List.Sublist.refl _)
        (List.Sublist.refl _)
  | skipped seen draft drafts queued =>
      rw [goOn, Option.toList_none, List.append_nil]
      exact ideasOpen_fewer kept (fun _ found => found) (List.Sublist.refl _)
        (List.sublist_cons_self _ _)
  | queues seen draft drafts queued idea waiting same =>
      obtain ⟨sameDraft, waits⟩ := queueDraft_some same
      cases waiting with
      | true =>
          have isOpen : (idea.event .queued "waiting").state.isOpen = true := rfl
          have opened := ideasOpen_opened kept isOpen
          have ofDraft : latestIsOpen (system.log ++ [idea.event .queued "waiting"])
              draft.draftId = true := by
            have named : (idea.event .queued "waiting").candidateId = draft.draftId :=
              congrArg IdeaDraft.draftId sameDraft
            rw [latestIsOpen_append, if_pos named]
            exact isOpen
          exact ideasOpen_queues sameDraft opened ofDraft
      | false =>
          -- An idea that does not wait was open already when its latest event was read.
          have before : latestIsOpen seen draft.draftId = true := by
            simpa [latestIsOpen] using waits
          simp only [Bool.false_eq_true, if_false, Option.toList_none, List.append_nil]
          exact ideasOpen_queues sameDraft kept (kept.seen seen rfl draft.draftId before)
  | taken idea rest =>
      rw [goOn, Option.toList_none, List.append_nil]
      exact ideasOpen_fewer kept (fun _ found => by cases found) (List.Sublist.refl _)
        (List.Sublist.refl _)
  | processed point idea rest step move => exact ideasOpen_process move kept
  | waits idea rest call =>
      rw [goOn, Option.toList_none, List.append_nil]
      exact kept
  | reported idea rest call verdict =>
      rw [recordNext, goOn, Option.toList_none, List.append_nil]
      exact ideasOpen_fewer kept (fun _ found => by cases found) (List.Sublist.refl _)
        (List.Sublist.refl _)
  | _ => exact ideasOpen_none _ rfl rfl rfl

/-! ## Every step -/

theorem ideasOpen_other {system : CampaignSystem env} {action : CampaignAction}
    {phase next : CampaignPhase env} (other : action ≠ .proceed)
    (move : PhaseMove system action phase next) {log : CampaignLog} (kept : IdeasOpen phase log) :
    IdeasOpen next log := by
  cases move with
  | proceeds => exact absurd rfl other
  | stays => exact kept
  | processRaised detail point idea rest verdict =>
      exact ideasOpen_fewer kept (fun _ found => by cases found) (List.Sublist.refl _)
        (List.Sublist.refl _)
  | callRaised detail idea rest call verdict =>
      exact ideasOpen_fewer kept (fun _ found => by cases found) (List.Sublist.refl _)
        (List.Sublist.refl _)
  | _ => exact ideasOpen_none log rfl rfl rfl

theorem ideasOpen_step {system : CampaignSystem env} (queues : OnlyQueues system)
    (kept : IdeasOpen system.phase system.log) (action : CampaignAction) :
    IdeasOpen (campaignStep system action).phase (campaignStep system action).log := by
  by_cases proceeds : action = .proceed
  · subst proceeds
    exact ideasOpen_pass (passStep_move system) kept
  · rw [campaignStep_phase, campaignStep_log]
    have moved := ideasOpen_other proceeds (nextPhase_move system action) kept
    cases appended : appendedEvent system action with
    | none =>
        rw [Option.toList_none, List.append_nil]
        exact moved
    | some event =>
        have queued := appended_queued queues proceeds appended
        exact ideasOpen_opened moved (by rw [queued]; rfl)

end QuantFactory.Campaign
