import QuantFactory.Campaign.Pass

/-!
# What a campaign step can do

The event a step appends and the phase it leads to, read off once from the
definitions; the results about whole histories use only these.
-/

set_option autoImplicit false

namespace QuantFactory.Campaign

open QuantFactory.Library QuantFactory.Launch

variable {env : CampaignEnvironment}

/-! ## The event of a step -/

def appendedEvent (system : CampaignSystem env) : CampaignAction → Option CampaignEvent
  | .proceed => (passStep system).event
  | .append index => (system.requests[index]?).bind List.head?
  | _ => none

theorem appendRequest_log (system : CampaignSystem env) (index : Nat) :
    (appendRequest system index).log =
      system.log ++ ((system.requests[index]?).bind List.head?).toList := by
  unfold appendRequest
  split
  · rename_i event rest found
    rw [found]
    rfl
  · rename_i other
    cases found : system.requests[index]? with
    | none => simp
    | some rows =>
        cases rows with
        | nil => simp
        | cons event rest => exact absurd found (other event rest)

theorem campaignStep_log (system : CampaignSystem env) (action : CampaignAction) :
    (campaignStep system action).log =
      system.log ++ (appendedEvent system action).toList := by
  cases action with
  | proceed => rfl
  | append index => exact appendRequest_log system index
  | call index input =>
      simp only [campaignStep, advanceCall, appendedEvent]
      split <;> simp
  | _ => exact (List.append_nil system.log).symm

inductive PassAppends : CampaignPhase env → CampaignEvent → Prop where
  | requeued (row : CampaignEvent) (rows : List CampaignEvent) :
      PassAppends (.restarting (row :: rows)) row
  | waiting (seen : CampaignLog) (draft : IdeaDraft) (drafts : List IdeaDraft)
      (queued : List (QueuedIdea env)) (idea : QueuedIdea env) :
      PassAppends (.queueing seen (draft :: drafts) queued) (idea.event .queued "waiting")
  | started (request : AutoTestRequest env) (idea : QueuedIdea env)
      (rest : List (QueuedIdea env)) :
      PassAppends (.processing (.recordStart request) idea rest) (idea.event .running "started")
  | closed (verdict : Verdict) (idea : QueuedIdea env) (rest : List (QueuedIdea env)) :
      PassAppends (.processing (.record verdict) idea rest) (idea.verdictEvent verdict)

/-- Everything `_process` can do at one point. -/
inductive ProcessMove (system : CampaignSystem env) (idea : QueuedIdea env)
    (rest : List (QueuedIdea env)) : ProcessPoint env → PassStep env → Prop where
  | closes (point : ProcessPoint env) (verdict : Verdict) :
      ProcessMove system idea rest point (recordNext verdict idea rest)
  | defined (definition : env.Definition) (same : defineIdea idea = .ok definition) :
      ProcessMove system idea rest .define (goOn (.processing (.readOwners definition) idea rest))
  | ownersRead (definition : env.Definition) (withoutResult : List String) :
      ProcessMove system idea rest (.readOwners definition)
        (goOn (.processing (.findOwner definition withoutResult) idea rest))
  | unowned (definition : env.Definition) (withoutResult : List String) :
      ProcessMove system idea rest (.findOwner definition withoutResult)
        (goOn (.processing (.selectData definition) idea rest))
  | selected (definition : env.Definition) (profile : env.Profile)
      (same : selectProfile idea = .ok profile) :
      ProcessMove system idea rest (.selectData definition)
        (goOn (.processing (.readRebuild definition profile) idea rest))
  | rebuildRead (definition : env.Definition) (profile : env.Profile) :
      ProcessMove system idea rest (.readRebuild definition profile)
        (goOn (.processing (.readAttempts definition profile
          (rebuildRequested system.log idea.draft.draftId)) idea rest))
  | attemptsRead (definition : env.Definition) (profile : env.Profile) (rebuild : Bool) :
      ProcessMove system idea rest (.readAttempts definition profile rebuild)
        (goOn (.processing (.readRecent ⟨idea.draft.draftId, definition, profile,
          campaignAttempts system.log idea.draft.draftId idea.digest, rebuild⟩) idea rest))
  | allowed (request : AutoTestRequest env)
      (left : campaignAttemptsSinceRequeue system.log idea.draft.draftId idea.digest <
        maxAttempts) :
      ProcessMove system idea rest (.readRecent request)
        (goOn (.processing (.recordStart request) idea rest))
  | started (request : AutoTestRequest env) :
      ProcessMove system idea rest (.recordStart request)
        ⟨.processing (.execute request) idea rest, some (idea.event .running "started"), none⟩
  | executed (request : AutoTestRequest env) :
      ProcessMove system idea rest (.execute request) ⟨.executing idea rest system.calls.length,
        none, some { request, source := idea.draft, phase := .install }⟩
  | recorded (verdict : Verdict) :
      ProcessMove system idea rest (.record verdict)
        ⟨.passing rest, some (idea.verdictEvent verdict), none⟩

theorem processStep_move (system : CampaignSystem env) (point : ProcessPoint env)
    (idea : QueuedIdea env) (rest : List (QueuedIdea env)) :
    ProcessMove system idea rest point (processStep system point idea rest) := by
  cases point with
  | define =>
      simp only [processStep]
      cases same : defineIdea idea with
      | error verdict => exact .closes _ verdict
      | ok definition => exact .defined definition same
  | readOwners definition => exact .ownersRead definition _
  | findOwner definition withoutResult =>
      simp only [processStep, afterFindOwner]
      split
      · exact .closes _ _
      · exact .unowned definition withoutResult
  | selectData definition =>
      simp only [processStep]
      cases same : selectProfile idea with
      | error verdict => exact .closes _ verdict
      | ok profile => exact .selected definition profile same
  | readRebuild definition profile => exact .rebuildRead definition profile
  | readAttempts definition profile rebuild => exact .attemptsRead definition profile rebuild
  | readRecent request =>
      simp only [processStep, afterRecent]
      split
      · exact .closes _ _
      · exact .allowed request (by omega)
  | recordStart request => exact .started request
  | execute request => exact .executed request
  | record verdict => exact .recorded verdict

/-- The idea of a draft is that draft, and it waits unless its latest event is open. -/
theorem queueDraft_some {seen : CampaignLog} {draft : IdeaDraft} {idea : QueuedIdea env}
    {waiting : Bool} (same : queueDraft env seen draft = some (idea, waiting)) :
    idea.draft = draft ∧
      waiting = !(latestCampaignEvent seen draft.draftId).any fun event => event.state.isOpen := by
  unfold queueDraft at same
  simp only at same
  split at same
  · cases same
  · split at same
    · cases same
    · split at same
      · cases same
      · cases same
        exact ⟨rfl, rfl⟩

inductive PassMove (system : CampaignSystem env) : CampaignPhase env → PassStep env → Prop where
  | isDown : PassMove system .down (goOn .down)
  | restarted : PassMove system (.restarting []) (goOn .idle)
  | requeued (row : CampaignEvent) (rows : List CampaignEvent) :
      PassMove system (.restarting (row :: rows)) ⟨.restarting rows, some row, none⟩
  | latestRead : PassMove system .idle (goOn (.listing system.log))
  | draftsRead (seen : CampaignLog) :
      PassMove system (.listing seen) (goOn (.queueing seen
        (IdeaDraftRepository.listSorted system.store.drafts (settledIds seen)) []))
  | allQueued (seen : CampaignLog) (queued : List (QueuedIdea env)) :
      PassMove system (.queueing seen [] queued) (goOn (.passing queued))
  | skipped (seen : CampaignLog) (draft : IdeaDraft) (drafts : List IdeaDraft)
      (queued : List (QueuedIdea env)) :
      PassMove system (.queueing seen (draft :: drafts) queued) (goOn (.queueing seen drafts queued))
  | queues (seen : CampaignLog) (draft : IdeaDraft) (drafts : List IdeaDraft)
      (queued : List (QueuedIdea env)) (idea : QueuedIdea env) (waiting : Bool)
      (same : queueDraft env seen draft = some (idea, waiting)) :
      PassMove system (.queueing seen (draft :: drafts) queued)
        ⟨.queueing seen drafts (queued ++ [idea]),
          if waiting then some (idea.event .queued "waiting") else none, none⟩
  | passDone : PassMove system (.passing []) (goOn .idle)
  | taken (idea : QueuedIdea env) (rest : List (QueuedIdea env)) :
      PassMove system (.passing (idea :: rest)) (goOn (.processing .define idea rest))
  | processed (point : ProcessPoint env) (idea : QueuedIdea env) (rest : List (QueuedIdea env))
      (step : PassStep env) (move : ProcessMove system idea rest point step) :
      PassMove system (.processing point idea rest) step
  | waits (idea : QueuedIdea env) (rest : List (QueuedIdea env)) (call : Nat) :
      PassMove system (.executing idea rest call) (goOn (.executing idea rest call))
  | reported (idea : QueuedIdea env) (rest : List (QueuedIdea env)) (call : Nat)
      (verdict : Verdict) :
      PassMove system (.executing idea rest call) (recordNext verdict idea rest)

theorem passStep_move (system : CampaignSystem env) :
    PassMove system system.phase (passStep system) := by
  unfold passStep
  cases phase : system.phase with
  | down => exact .isDown
  | restarting rows =>
      cases rows with
      | nil => exact .restarted
      | cons row rows => exact .requeued row rows
  | idle => exact .latestRead
  | listing seen => exact .draftsRead seen
  | queueing seen drafts queued =>
      cases drafts with
      | nil => exact .allQueued seen queued
      | cons draft drafts =>
          simp only [afterQueueDraft]
          split
          · exact .skipped seen draft drafts queued
          · rename_i idea waiting same
            exact .queues seen draft drafts queued idea waiting same
  | passing queued =>
      cases queued with
      | nil => exact .passDone
      | cons idea rest => exact .taken idea rest
  | processing point idea rest =>
      exact .processed point idea rest _ (processStep_move system point idea rest)
  | executing idea rest call =>
      simp only [afterCall]
      split
      · exact .reported idea rest call _
      · exact .waits idea rest call

theorem passStep_event (system : CampaignSystem env) {event : CampaignEvent}
    (appended : (passStep system).event = some event) : PassAppends system.phase event := by
  have move := passStep_move system
  generalize system.phase = phase at move ⊢
  generalize passStep system = step at move appended
  cases move with
  | requeued row rows =>
      obtain rfl : row = event := by simpa using appended
      exact .requeued row rows
  | queues seen draft drafts queued idea waiting same =>
      cases waiting with
      | true =>
          obtain rfl : idea.event .queued "waiting" = event := by simpa using appended
          exact .waiting seen draft drafts queued idea
      | false => simp at appended
  | processed point idea rest step move =>
      cases move with
      | started request =>
          obtain rfl : idea.event .running "started" = event := by simpa using appended
          exact .started request idea rest
      | recorded verdict =>
          obtain rfl : idea.verdictEvent verdict = event := by simpa using appended
          exact .closed verdict idea rest
      | _ => cases appended
  | _ => cases appended

/-! ## The phase after a step -/

def nextPhase (system : CampaignSystem env) : CampaignAction → CampaignPhase env
  | .proceed => (passStep system).phase
  | .raised detail => raisedPhase detail system.phase
  | .passEnds => endedPhase system.phase
  | .passBreaks => brokenPhase system.phase
  | .exit => .down
  | .start => startedPhase system.log system.phase
  | _ => system.phase

theorem campaignStep_phase (system : CampaignSystem env) (action : CampaignAction) :
    (campaignStep system action).phase = nextPhase system action := by
  cases action with
  | call index input =>
      simp only [campaignStep, advanceCall, nextPhase]
      split <;> rfl
  | append index =>
      simp only [campaignStep, appendRequest, nextPhase]
      split <;> rfl
  | _ => rfl

inductive PhaseMove (system : CampaignSystem env) :
    CampaignAction → CampaignPhase env → CampaignPhase env → Prop where
  | proceeds (phase : CampaignPhase env) (step : PassStep env)
      (move : PassMove system phase step) : PhaseMove system .proceed phase step.phase
  | stays (action : CampaignAction) (other : action ≠ .proceed) (phase : CampaignPhase env) :
      PhaseMove system action phase phase
  | processRaised (detail : String) (point : ProcessPoint env) (idea : QueuedIdea env)
      (rest : List (QueuedIdea env)) (verdict : Verdict) :
      PhaseMove system (.raised detail) (.processing point idea rest)
        (.processing (.record verdict) idea rest)
  | callRaised (detail : String) (idea : QueuedIdea env) (rest : List (QueuedIdea env))
      (call : Nat) (verdict : Verdict) :
      PhaseMove system (.raised detail) (.executing idea rest call)
        (.processing (.record verdict) idea rest)
  | ended (queued : List (QueuedIdea env)) : PhaseMove system .passEnds (.passing queued) .idle
  | broken (phase : CampaignPhase env) (up : phase ≠ .down)
      (ready : ∀ rows, phase ≠ .restarting rows) : PhaseMove system .passBreaks phase .idle
  | exited (phase : CampaignPhase env) : PhaseMove system .exit phase .down
  | restarts : PhaseMove system .start .down (.restarting (requeueAfterRestart system.log))

theorem nextPhase_move (system : CampaignSystem env) (action : CampaignAction) :
    PhaseMove system action system.phase (nextPhase system action) := by
  have proceeds := PhaseMove.proceeds _ _ (passStep_move system)
  cases action with
  | proceed => exact proceeds
  | raised detail =>
      simp only [nextPhase]
      generalize system.phase = phase
      cases phase with
      | processing point idea rest => exact .processRaised detail point idea rest _
      | executing idea rest call => exact .callRaised detail idea rest call _
      | _ => exact .stays _ (by simp) _
  | passEnds =>
      simp only [nextPhase]
      generalize system.phase = phase
      cases phase with
      | passing queued => exact .ended queued
      | _ => exact .stays _ (by simp) _
  | passBreaks =>
      simp only [nextPhase]
      generalize system.phase = phase
      cases phase with
      | down => exact .stays .passBreaks (by simp) _
      | restarting rows => exact .stays .passBreaks (by simp) _
      | _ => exact .broken _ (by simp) (by simp)
  | exit => exact .exited _
  | start =>
      simp only [nextPhase]
      generalize system.phase = phase
      cases phase with
      | down => exact .restarts
      | _ => exact .stays _ (by simp) _
  | _ => exact .stays _ (by simp) _

/-! ## The executor calls -/

inductive CallMove (call : ExecutorCall env) (store : ResearchStore) :
    CallPhase → CallStep → Prop where
  | installs (installed : InstalledRuleStrategy)
      (same : env.install call.request.definition = .ok installed) :
      CallMove call store .install ⟨.readDraft installed, store, none, none⟩
  | unlinked (installed : InstalledRuleStrategy) :
      CallMove call store (.readDraft installed) ⟨.link installed false, store, none, none⟩
  | linked (installed : InstalledRuleStrategy) (configurationId : String) (draft : IdeaDraft)
      (found : store.drafts.get call.request.candidateId = some draft)
      (same : draft.configurationId = some configurationId) :
      CallMove call store (.readDraft installed)
        ⟨.readConfiguration installed configurationId, store, none, none⟩
  | relinks (installed : InstalledRuleStrategy) (configurationId : String) (replace : Bool) :
      CallMove call store (.readConfiguration installed configurationId)
        ⟨.link installed replace, store, none, none⟩
  | reruns (installed : InstalledRuleStrategy) (configurationId saved : String) :
      CallMove call store (.readConfiguration installed configurationId)
        ⟨.launch installed saved false, store, none, none⟩
  | links (installed : InstalledRuleStrategy) (replace : Bool)
      (configuration : ConfigurationRecord) (next : ResearchStore) (draft : IdeaDraft)
      (found : store.drafts.get call.request.candidateId = some draft)
      (done : upsertIdeaConfiguration env.sha256Hex store call.request.candidateId
        (callDocument call installed) replace = .ok (configuration, next)) :
      CallMove call store (.link installed replace)
        ⟨.launch installed configuration.configurationId false, next,
          some ⟨call.request.candidateId, call.source.title, draft.candidateJson,
            callDocument call installed, configuration⟩, none⟩
  | launches (installed : InstalledRuleStrategy) (configurationId : String) (repeated : Bool) :
      CallMove call store (.launch installed configurationId repeated)
        ⟨.launched installed configurationId repeated, store, none,
          some (campaignIdempotencyKey call.request.candidateId installed.strategyId
            call.request.attempt)⟩
  | repeats (installed : InstalledRuleStrategy) (configurationId : String) :
      CallMove call store (.launched installed configurationId false)
        ⟨.launch installed configurationId true, store, none, none⟩
  | finishes (phase : CallPhase) (outcome : AutoTestOutcome) :
      CallMove call store phase ⟨.finished outcome, store, none, none⟩
  | waits (phase : CallPhase) : CallMove call store phase ⟨phase, store, none, none⟩

theorem callProceed_move (call : ExecutorCall env) (store : ResearchStore) :
    CallMove call store call.phase (callProceed call store) := by
  unfold callProceed
  cases phase : call.phase with
  | install =>
      simp only
      split
      · exact .finishes _ _
      · rename_i installed same
        exact .installs installed same
  | readDraft installed =>
      simp only
      split
      · exact .unlinked installed
      · rename_i configurationId found
        obtain ⟨draft, found, same⟩ := Option.bind_eq_some_iff.mp found
        exact .linked installed configurationId draft found same
  | readConfiguration installed configurationId =>
      simp only [afterConfiguration]
      split
      · exact .relinks installed configurationId false
      · split
        · exact .relinks installed configurationId false
        · split
          · exact .finishes _ _
          · split
            · exact .relinks installed configurationId true
            · exact .reruns installed configurationId _
  | link installed replace =>
      simp only [linkStep]
      split
      · exact .finishes _ _
      · rename_i configuration next done
        obtain ⟨-, draft, found⟩ := upsertIdeaConfiguration_eq_ok done
        rw [found]
        exact .links installed replace configuration next draft found done
  | launch installed configurationId repeated => exact .launches installed configurationId repeated
  | launched installed configurationId repeated => exact .waits _
  | finished outcome => exact .waits _

theorem callStep_move (call : ExecutorCall env) (store : ResearchStore) (input : CallInput) :
    CallMove call store call.phase (callStep call store input) := by
  cases input with
  | proceed => exact callProceed_move call store
  | invocationError =>
      simp only [callStep]
      generalize call.phase = phase
      cases phase with
      | launched installed configurationId repeated =>
          cases repeated with
          | false => exact .repeats installed configurationId
          | true => exact .finishes _ _
      | _ => exact .waits _
  | ended outcome =>
      simp only [callStep]
      generalize call.phase = phase
      cases phase with
      | finished earlier => exact .waits _
      | _ => exact .finishes _ _

inductive CallOrigin (system : CampaignSystem env) : CampaignAction → ExecutorCall env → Prop where
  | kept (action : CampaignAction) (call : ExecutorCall env) (member : call ∈ system.calls) :
      CallOrigin system action call
  | moved (index : Nat) (input : CallInput) (before : ExecutorCall env)
      (found : system.calls[index]? = some before) :
      CallOrigin system (.call index input)
        { before with phase := (callStep before system.store input).phase }
  | made (request : AutoTestRequest env) (idea : QueuedIdea env) (rest : List (QueuedIdea env))
      (phase : system.phase = .processing (.execute request) idea rest) :
      CallOrigin system .proceed ⟨request, idea.draft, .install⟩

theorem campaignStep_calls (system : CampaignSystem env) (action : CampaignAction)
    {call : ExecutorCall env} (member : call ∈ (campaignStep system action).calls) :
    CallOrigin system action call := by
  cases action with
  | proceed =>
      change call ∈ system.calls ++ (passStep system).call.toList at member
      rcases List.mem_append.mp member with old | new
      · exact .kept _ call old
      · have move := passStep_move system
        generalize phase : system.phase = current at move
        generalize passStep system = step at move new
        cases move with
        | processed point idea rest step move =>
            cases move with
            | executed request =>
                obtain rfl := List.mem_singleton.mp new
                exact .made request idea rest phase
            | _ => cases new
        | _ => cases new
  | call index input =>
      simp only [campaignStep, advanceCall] at member
      split at member
      · exact .kept _ call member
      · rename_i before found
        rcases List.mem_or_eq_of_mem_set member with old | rfl
        · exact .kept _ call old
        · exact .moved index input before found
  | append index =>
      simp only [campaignStep, appendRequest] at member
      split at member <;> exact .kept _ call member
  | _ => exact .kept _ call member

/-! ## The requests still to append -/

/-- The events a request still holds were there before, or are what it is going to append. -/
theorem campaignStep_requests (system : CampaignSystem env) (action : CampaignAction)
    {rows : List CampaignEvent} (member : rows ∈ (campaignStep system action).requests) :
    (∃ before ∈ system.requests, ∀ event ∈ rows, event ∈ before) ∨
      ∃ request, action = .request request ∧ rows = requestedEvents system.log request := by
  cases action with
  | request request =>
      rcases List.mem_append.mp member with old | new
      · exact .inl ⟨rows, old, fun _ held => held⟩
      · exact .inr ⟨request, rfl, List.mem_singleton.mp new⟩
  | append index =>
      simp only [campaignStep, appendRequest] at member
      split at member
      · rename_i event rest found
        rcases List.mem_or_eq_of_mem_set member with old | rfl
        · exact .inl ⟨rows, old, fun _ held => held⟩
        · exact .inl ⟨event :: rows, List.mem_of_getElem? found,
            fun _ held => List.mem_cons_of_mem event held⟩
      · exact .inl ⟨rows, member, fun _ held => held⟩
  | call index input =>
      simp only [campaignStep, advanceCall] at member
      split at member <;> exact .inl ⟨rows, member, fun _ held => held⟩
  | _ => exact .inl ⟨rows, member, fun _ held => held⟩

end QuantFactory.Campaign
