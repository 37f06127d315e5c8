import QuantFactory.Campaign.Budget
import QuantFactory.Campaign.Packets

/-!
# Launch keys

The key of a launch names the candidate, the strategy and the attempt, and can
be read back from its end.  Attempts are counted per packet, so a key is used
once while the packet of a candidate with launches never changes.
-/

set_option autoImplicit false

namespace QuantFactory.Campaign

open QuantFactory.Library QuantFactory.Launch

variable {env : CampaignEnvironment}

/-! ## Reading a key back -/

theorem cut_first_eq {α : Type} {separator : α} {first : List α} :
    ∀ {second before after : List α}, separator ∉ first → separator ∉ second →
      first ++ separator :: before = second ++ separator :: after →
      first = second ∧ before = after := by
  induction first with
  | nil =>
      intro second before after _ absent same
      cases second with
      | nil => exact ⟨rfl, (List.cons.inj same).2⟩
      | cons head rest =>
          obtain rfl := (List.cons.inj same).1
          exact absurd List.mem_cons_self absent
  | cons head rest ih =>
      intro second before after absent absent' same
      cases second with
      | nil =>
          obtain rfl := (List.cons.inj same).1
          exact absurd List.mem_cons_self absent
      | cons head' rest' =>
          obtain ⟨rfl, sameRest⟩ := List.cons.inj same
          obtain ⟨rfl, rfl⟩ := ih (fun member => absent (List.mem_cons_of_mem _ member))
            (fun member => absent' (List.mem_cons_of_mem _ member)) sameRest
          exact ⟨rfl, rfl⟩

/-- Two texts are cut at the same place by a separator that does not occur after it. -/
theorem cut_last_eq {α : Type} {separator : α} {first second before after : List α}
    (absent : separator ∉ first) (absent' : separator ∉ second)
    (same : before ++ separator :: first = after ++ separator :: second) :
    before = after ∧ first = second := by
  have reversed := congrArg List.reverse same
  simp only [List.reverse_append, List.reverse_cons, List.append_assoc,
    List.singleton_append] at reversed
  obtain ⟨sameFirst, sameBefore⟩ := cut_first_eq (by simpa using absent) (by simpa using absent')
    reversed
  exact ⟨List.reverse_injective sameBefore, List.reverse_injective sameFirst⟩

theorem digits_isDigit {n : Nat} {c : Char} (member : c ∈ (toString n).toList) :
    c.isDigit = true := by
  rw [Nat.toString_eq_repr, Nat.toList_repr] at member
  exact Nat.isDigit_of_mem_toDigits (by decide) (by decide) member

theorem digits_inj {m n : Nat} (same : (toString m).toList = (toString n).toList) : m = n := by
  rw [Nat.toString_eq_repr, Nat.toString_eq_repr, Nat.toList_repr, Nat.toList_repr] at same
  have read := congrArg (Nat.ofDigitChars 10 · 0) same
  simpa only [Nat.ofDigitChars_ten_toDigits] using read

theorem strategyId_length {strategyId : String} (wellFormed : isRuleStrategyId strategyId = true) :
    strategyId.toList.length = 22 := by
  simp only [isRuleStrategyId, Bool.and_eq_true, decide_eq_true_eq] at wellFormed
  rw [String.length_toList]
  exact wellFormed.1.2

theorem strategyId_no_dash {strategyId : String}
    (wellFormed : isRuleStrategyId strategyId = true) : '-' ∉ strategyId.toList := by
  simp only [isRuleStrategyId, Bool.and_eq_true, decide_eq_true_eq] at wellFormed
  obtain ⟨⟨named, _⟩, hex⟩ := wellFormed
  intro member
  rw [← List.take_append_drop 6 strategyId.toList, named] at member
  rcases List.mem_append.mp member with inName | inHash
  · revert inName
    decide
  · have digit := List.all_eq_true.mp hex '-' inHash
    revert digit
    decide

theorem strategyId_ne_attempt {strategyId : String}
    (wellFormed : isRuleStrategyId strategyId = true) (attempt : Nat) :
    strategyId.toList ≠ 'r' :: (toString attempt).toList := by
  simp only [isRuleStrategyId, Bool.and_eq_true, decide_eq_true_eq] at wellFormed
  obtain ⟨⟨named, _⟩, _⟩ := wellFormed
  intro same
  have inName : 'u' ∈ ('r' :: (toString attempt).toList).take 6 := by
    rw [← same, named]
    decide
  have inDigits : 'u' ∈ (toString attempt).toList := by
    rcases List.mem_cons.mp (List.mem_of_mem_take inName) with head | digits
    · exact absurd head (by decide)
    · exact digits
  have digit := digits_isDigit inDigits
  revert digit
  decide

theorem campaignIdempotencyKey_toList (candidateId strategyId : String) (attempt : Nat) :
    (campaignIdempotencyKey candidateId strategyId attempt).toList =
      candidateId.toList ++ '-' :: strategyId.toList ++
        if attempt = 0 then [] else '-' :: 'r' :: (toString attempt).toList := by
  unfold campaignIdempotencyKey
  split <;> simp

theorem attempt_no_dash (attempt : Nat) : '-' ∉ 'r' :: (toString attempt).toList := by
  intro member
  rcases List.mem_cons.mp member with head | digits
  · exact absurd head (by decide)
  · have digit := digits_isDigit digits
    revert digit
    decide

theorem campaignIdempotencyKey_inj {candidateId otherId strategyId otherStrategyId : String}
    {attempt otherAttempt : Nat} (wellFormed : isRuleStrategyId strategyId = true)
    (otherWellFormed : isRuleStrategyId otherStrategyId = true)
    (same : campaignIdempotencyKey candidateId strategyId attempt =
      campaignIdempotencyKey otherId otherStrategyId otherAttempt) :
    candidateId = otherId ∧ attempt = otherAttempt := by
  have lists := congrArg String.toList same
  rw [campaignIdempotencyKey_toList, campaignIdempotencyKey_toList] at lists
  have sameHead : ∀ {tail otherTail : List Char}, tail.length = otherTail.length →
      candidateId.toList ++ tail = otherId.toList ++ otherTail → candidateId = otherId :=
    fun lengths heads => String.toList_inj.mp (List.append_inj' heads lengths).1
  have lengths : ('-' :: strategyId.toList).length = ('-' :: otherStrategyId.toList).length := by
    simp only [List.length_cons, strategyId_length wellFormed, strategyId_length otherWellFormed]
  by_cases first : attempt = 0
  · by_cases otherFirst : otherAttempt = 0
    · rw [if_pos first, if_pos otherFirst, List.append_nil, List.append_nil] at lists
      exact ⟨sameHead lengths lists, first.trans otherFirst.symm⟩
    · rw [if_pos first, if_neg otherFirst, List.append_nil] at lists
      -- The last segment is a strategy id on one side and an attempt on the other.
      have segments := (cut_last_eq (strategyId_no_dash wellFormed) (attempt_no_dash _) lists).2
      exact absurd segments (strategyId_ne_attempt wellFormed otherAttempt)
  · by_cases otherFirst : otherAttempt = 0
    · rw [if_neg first, if_pos otherFirst, List.append_nil] at lists
      have segments :=
        (cut_last_eq (strategyId_no_dash otherWellFormed) (attempt_no_dash _) lists.symm).2
      exact absurd segments (strategyId_ne_attempt otherWellFormed attempt)
    · rw [if_neg first, if_neg otherFirst] at lists
      obtain ⟨heads, segments⟩ := cut_last_eq (attempt_no_dash _) (attempt_no_dash _) lists
      exact ⟨sameHead lengths heads, digits_inj (List.cons.inj segments).2⟩

/-! ## The calls and their attempts -/

/-- What an executor call tests: the packet of a candidate, in one attempt. -/
structure CallTicket where
  candidateId : String
  packet : String
  attempt : Nat
  deriving DecidableEq, Repr

def ticket (call : ExecutorCall env) : CallTicket :=
  ⟨call.request.candidateId, call.source.candidateJson, call.request.attempt⟩

def tickets (system : CampaignSystem env) : List CallTicket := system.calls.map ticket

def newTicket (system : CampaignSystem env) : CampaignAction → Option CallTicket
  | .proceed => (passStep system).call.map ticket
  | _ => none

theorem campaignStep_tickets (system : CampaignSystem env) (action : CampaignAction) :
    tickets (campaignStep system action) =
      tickets system ++ (newTicket system action).toList := by
  cases action with
  | proceed =>
      change (system.calls ++ (passStep system).call.toList).map ticket = _
      rw [List.map_append, newTicket]
      cases (passStep system).call <;> rfl
  | call index input =>
      change _ = tickets system ++ []
      rw [List.append_nil]
      simp only [campaignStep, advanceCall]
      split
      · rfl
      · rename_i call found
        obtain ⟨inside, rfl⟩ := List.getElem?_eq_some_iff.mp found
        simp only [tickets]
        refine List.ext_getElem (by simp) fun other first second => ?_
        rw [List.getElem_map, List.getElem_map, List.getElem_set]
        split
        · rename_i same
          subst same
          rfl
        · rfl
  | append index =>
      change _ = tickets system ++ []
      rw [List.append_nil]
      simp only [campaignStep, appendRequest]
      split <;> rfl
  | _ => exact (List.append_nil _).symm

theorem newTicket_some {system : CampaignSystem env} {action : CampaignAction} {new : CallTicket}
    (made : newTicket system action = some new) :
    action = .proceed ∧ ∃ request idea rest,
      system.phase = .processing (.execute request) idea rest ∧
      new = ⟨request.candidateId, idea.draft.candidateJson, request.attempt⟩ := by
  cases action with
  | proceed =>
      refine ⟨rfl, ?_⟩
      have move := passStep_move system
      simp only [newTicket] at made
      generalize phase : system.phase = current at move ⊢
      generalize passStep system = step at move made
      cases move with
      | processed point idea rest step move =>
          cases move with
          | executed request =>
              cases made
              exact ⟨request, idea, rest, rfl, rfl⟩
          | _ => cases made
      | _ => cases made
  | _ => cases made

def countedRequest : CampaignPhase env → Option (AutoTestRequest env × QueuedIdea env)
  | .processing (.readRecent request) idea _ => some (request, idea)
  | .processing (.recordStart request) idea _ => some (request, idea)
  | _ => none

def Earlier (first later : CallTicket) : Prop :=
  first.candidateId = later.candidateId → first.packet = later.packet →
    first.attempt < later.attempt

structure AttemptsCounted (system : CampaignSystem env) : Prop where
  queues : OnlyQueues system
  sound : RequestsSound system
  counted : ∀ request idea, countedRequest system.phase = some (request, idea) →
    request.attempt = campaignAttempts system.log idea.draft.draftId idea.digest
  executing : ∀ request idea rest, system.phase = .processing (.execute request) idea rest →
    request.attempt < campaignAttempts system.log idea.draft.draftId idea.digest ∧
      ∀ held ∈ tickets system,
        Earlier held ⟨request.candidateId, idea.draft.candidateJson, request.attempt⟩
  started : ∀ held ∈ tickets system,
    held.attempt < campaignAttempts system.log held.candidateId (env.sha256Hex held.packet)
  ordered : (tickets system).Pairwise Earlier

theorem campaignAttempts_step (system : CampaignSystem env) (action : CampaignAction)
    (candidateId digest : String) :
    campaignAttempts system.log candidateId digest ≤
      campaignAttempts (campaignStep system action).log candidateId digest := by
  rw [campaignStep_log]
  cases appendedEvent system action with
  | none =>
      rw [Option.toList_none, List.append_nil]
  | some event =>
      rw [Option.toList_some, campaignAttempts_append]
      exact Nat.le_add_right _ _

theorem campaignAttempts_kept {system : CampaignSystem env} {action : CampaignAction}
    (noStart : ∀ event, appendedEvent system action = some event → event.state ≠ .running)
    (candidateId digest : String) :
    campaignAttempts (campaignStep system action).log candidateId digest =
      campaignAttempts system.log candidateId digest := by
  rw [campaignStep_log]
  cases appended : appendedEvent system action with
  | none => rw [Option.toList_none, List.append_nil]
  | some event =>
      have other : event.isStart candidateId digest = false := by
        simp [CampaignEvent.isStart, noStart event appended]
      rw [Option.toList_some, campaignAttempts_append, other]
      rfl

theorem countedRequest_reached {system : CampaignSystem env} {action : CampaignAction}
    {request : AutoTestRequest env} {idea : QueuedIdea env}
    (reached : countedRequest (campaignStep system action).phase = some (request, idea)) :
    countedRequest system.phase = some (request, idea) ∨
      request.attempt = campaignAttempts system.log idea.draft.draftId idea.digest := by
  rw [campaignStep_phase] at reached
  have move := nextPhase_move system action
  generalize nextPhase system action = next at move reached
  generalize system.phase = phase at move ⊢
  cases move with
  | proceeds _ step move =>
      cases move with
      | processed point idea rest step move =>
          cases move with
          | attemptsRead definition profile rebuild =>
              cases reached
              exact .inr rfl
          | allowed request left => exact .inl reached
          | _ => cases reached
      | _ => cases reached
  | stays => exact .inl reached
  | _ => cases reached

theorem counted_step {system : CampaignSystem env} (kept : AttemptsCounted system)
    {action : CampaignAction} {request : AutoTestRequest env} {idea : QueuedIdea env}
    (reached : countedRequest (campaignStep system action).phase = some (request, idea)) :
    request.attempt =
      campaignAttempts (campaignStep system action).log idea.draft.draftId idea.digest := by
  have noStart : ∀ event, appendedEvent system action = some event → event.state ≠ .running := by
    intro event appended running
    obtain ⟨rfl, started, _, _, phase, _⟩ := start_recorded kept.queues appended running
    rw [start_executes phase] at reached
    cases reached
  rw [campaignAttempts_kept noStart]
  rcases countedRequest_reached reached with before | now
  · exact kept.counted request idea before
  · exact now

theorem newTicket_of_executing {system : CampaignSystem env} {action : CampaignAction}
    {request : AutoTestRequest env} {idea : QueuedIdea env} {rest : List (QueuedIdea env)}
    (reached : (campaignStep system action).phase = .processing (.execute request) idea rest) :
    newTicket system action = none := by
  cases made : newTicket system action with
  | none => rfl
  | some new =>
      obtain ⟨rfl, started, _, _, phase, _⟩ := newTicket_some made
      rcases execute_reached reached with ⟨other, _⟩ | ⟨_, before⟩
      · exact absurd rfl other
      · rw [phase] at before
        cases before

theorem executing_step {system : CampaignSystem env} (kept : AttemptsCounted system)
    {action : CampaignAction} {request : AutoTestRequest env} {idea : QueuedIdea env}
    {rest : List (QueuedIdea env)}
    (reached : (campaignStep system action).phase = .processing (.execute request) idea rest) :
    request.attempt <
        campaignAttempts (campaignStep system action).log idea.draft.draftId idea.digest ∧
      ∀ held ∈ tickets (campaignStep system action),
        Earlier held ⟨request.candidateId, idea.draft.candidateJson, request.attempt⟩ := by
  rw [campaignStep_tickets, newTicket_of_executing reached, Option.toList_none, List.append_nil]
  rcases execute_reached reached with ⟨_, before⟩ | ⟨rfl, recording⟩
  · obtain ⟨bound, earlier⟩ := kept.executing request idea rest before
    exact ⟨Nat.lt_of_lt_of_le bound (campaignAttempts_step system action _ _), earlier⟩
  · have counted := kept.counted request idea (by rw [recording]; rfl)
    have asks := kept.sound.phase
    rw [recording] at asks
    have event : appendedEvent system .proceed = some (idea.event .running "started") := by
      simp only [appendedEvent, passStep, recording, processStep]
    refine ⟨?_, ?_⟩
    · rw [campaignStep_log, event, Option.toList_some, campaignAttempts_append, ← counted,
        if_pos (by simp [CampaignEvent.isStart, QueuedIdea.event])]
      exact Nat.lt_succ_self _
    · intro held member sameCandidate samePacket
      have bound := kept.started held member
      rw [sameCandidate, samePacket, asks.candidate] at bound
      exact Nat.lt_of_lt_of_eq bound counted.symm

theorem attemptsCounted_step (system : CampaignSystem env) (action : CampaignAction)
    (kept : AttemptsCounted system) : AttemptsCounted (campaignStep system action) := by
  -- What holds of the tickets of the state holds of the one the step adds.
  have newest : ∀ new, newTicket system action = some new →
      new.attempt < campaignAttempts system.log new.candidateId (env.sha256Hex new.packet) ∧
        ∀ held ∈ tickets system, Earlier held new := by
    intro new made
    obtain ⟨rfl, request, idea, rest, phase, rfl⟩ := newTicket_some made
    obtain ⟨bound, earlier⟩ := kept.executing request idea rest phase
    have asks := kept.sound.phase
    rw [phase] at asks
    refine ⟨?_, earlier⟩
    rw [asks.candidate]
    exact bound
  refine {
    queues := onlyQueues_step kept.queues action
    sound := requestsSound_step system action kept.sound
    counted := fun request idea reached => counted_step kept reached
    executing := fun request idea rest reached => executing_step kept reached
    started := ?_
    ordered := ?_ }
  · intro held member
    rw [campaignStep_tickets] at member
    refine Nat.lt_of_lt_of_le ?_ (campaignAttempts_step system action _ _)
    rcases List.mem_append.mp member with old | new
    · exact kept.started held old
    · exact (newest held (Option.mem_toList.mp new)).1
  · rw [campaignStep_tickets, List.pairwise_append]
    refine ⟨kept.ordered, ?_, ?_⟩
    · cases newTicket system action with
      | none => exact List.Pairwise.nil
      | some new => exact List.pairwise_singleton _ _
    · intro held member new made
      exact (newest new (Option.mem_toList.mp made)).2 held member

theorem attemptsCounted_start (store : ResearchStore) :
    AttemptsCounted (startSystem env store) where
  queues := (budgetKept_start store).queues
  sound := requestsSound_start store
  counted request idea reached := by cases reached
  executing request idea rest phase := by cases phase
  started held member := by cases member
  ordered := List.Pairwise.nil

/-! ## The launches -/

def TicketFrozen (store : ResearchStore) (held : CallTicket) : Prop :=
  ∃ draft, store.drafts.get held.candidateId = some draft ∧
    draft.configurationId.isSome = true ∧ draft.candidateJson = held.packet

def CallPhase.isLinked : CallPhase → Bool
  | .readConfiguration _ _ => true
  | .launch _ _ _ => true
  | .launched _ _ _ => true
  | _ => false

structure KeysKept (system : CampaignSystem env) : Prop where
  packets : PacketsKept system
  attempts : AttemptsCounted system
  frozen : ∀ call ∈ system.calls, call.phase.isLinked = true →
    TicketFrozen system.store (ticket call)
  launched : ∀ launch ∈ system.launches, ∃ held, ∃ installed : InstalledRuleStrategy,
    (tickets system)[launch.1]? = some held ∧ TicketFrozen system.store held ∧
      launch.2 = campaignIdempotencyKey held.candidateId installed.strategyId held.attempt

theorem ticketFrozen_step {system : CampaignSystem env} {held : CallTicket}
    (frozen : TicketFrozen system.store held) (action : CampaignAction) :
    TicketFrozen (campaignStep system action).store held := by
  obtain ⟨draft, found, linked, same⟩ := frozen
  obtain ⟨after, found, linked, kept⟩ :=
    campaignStep_linkedKept system action held.candidateId draft found linked
  exact ⟨after, found, linked, kept.trans same⟩

theorem callSound_candidate {call : ExecutorCall env} (sound : CallSound call) :
    call.request.candidateId = call.source.draftId := by
  obtain ⟨idea, draft, asks⟩ := sound
  rw [asks.candidate, draft]

/-- When a call has found or made its link, the draft is frozen with the packet it tests. -/
theorem callMove_frozen {call : ExecutorCall env} {store : ResearchStore} {phase : CallPhase}
    {step : CallStep} (move : CallMove call store phase step) (sound : CallSound call)
    (held : phase.isUnlinked = true →
      storedPacket store.drafts call.source.draftId = some call.source.candidateJson)
    (frozen : phase.isLinked = true → TicketFrozen store (ticket call))
    (linked : step.phase.isLinked = true) : TicketFrozen step.store (ticket call) := by
  rw [← callSound_candidate sound] at held
  cases move with
  | linked installed configurationId draft found same =>
      have stored := held rfl
      rw [storedPacket, found] at stored
      exact ⟨draft, found, by rw [same]; rfl, Option.some.inj stored⟩
  | reruns => exact frozen rfl
  | links installed replace configuration next draft found done =>
      have stored := held rfl
      rw [storedPacket, found] at stored
      refine ⟨(IdeaDraftRepository.withConfiguration configuration.configurationId).apply draft,
        ?_, rfl, Option.some.inj stored⟩
      rw [(upsertIdeaConfiguration_eq_ok done).1, Table.get_update]
      simp only [ticket, found, if_true]
      rfl
  | launches => exact frozen rfl
  | repeats => exact frozen rfl
  | waits => exact frozen linked
  | _ => cases linked

theorem callsFrozen_step {system : CampaignSystem env} (kept : KeysKept system)
    (action : CampaignAction) :
    ∀ call ∈ (campaignStep system action).calls, call.phase.isLinked = true →
      TicketFrozen (campaignStep system action).store (ticket call) := by
  intro call member linked
  cases campaignStep_calls system action member with
  | kept _ _ old => exact ticketFrozen_step (kept.frozen call old linked) action
  | moved index input before found =>
      have inCalls := List.mem_of_getElem? found
      have sameStore : (campaignStep system (.call index input)).store =
          (callStep before system.store input).store := by
        simp only [campaignStep, advanceCall, found]
      rw [sameStore]
      have held : before.phase.isUnlinked = true →
          storedPacket system.store.drafts before.source.draftId =
            some before.source.candidateJson := by
        intro unlinked
        refine kept.packets.held before.source (List.mem_append_right _ ?_)
        exact List.mem_filterMap.mpr ⟨before, inCalls, by rw [callDraft, if_pos unlinked]⟩
      have moved := callMove_frozen (callStep_move before system.store input)
        (kept.packets.sound.calls before inCalls) held (kept.frozen before inCalls) linked
      exact moved
  | made request idea rest phase => cases linked

/-- A launch of the next state was there before, or a call that found its link makes it. -/
theorem campaignStep_launches (system : CampaignSystem env) (action : CampaignAction)
    {launch : Nat × String} (member : launch ∈ (campaignStep system action).launches) :
    launch ∈ system.launches ∨ ∃ call, ∃ installed : InstalledRuleStrategy,
      system.calls[launch.1]? = some call ∧ call.phase.isLinked = true ∧
        launch.2 = campaignIdempotencyKey call.request.candidateId installed.strategyId
          call.request.attempt := by
  cases action with
  | call index input =>
      simp only [campaignStep, advanceCall] at member
      split at member
      · exact .inl member
      · rename_i call found
        rcases List.mem_append.mp member with new | old
        · right
          obtain ⟨key, keyed, rfl⟩ := Option.map_eq_some_iff.mp (Option.mem_toList.mp new)
          have move := callStep_move call system.store input
          generalize callStep call system.store input = step at move keyed
          generalize phase : call.phase = current at move
          cases move with
          | launches installed configurationId repeated =>
              cases keyed
              exact ⟨call, installed, found, by rw [phase]; rfl, rfl⟩
          | _ => cases keyed
        · exact .inl old
  | append index =>
      simp only [campaignStep, appendRequest] at member
      split at member <;> exact .inl member
  | _ => exact .inl member

theorem tickets_kept {system : CampaignSystem env} {index : Nat} {held : CallTicket}
    (found : (tickets system)[index]? = some held) (action : CampaignAction) :
    (tickets (campaignStep system action))[index]? = some held := by
  obtain ⟨inside, _⟩ := List.getElem?_eq_some_iff.mp found
  rw [campaignStep_tickets, List.getElem?_append_left inside]
  exact found

theorem keysKept_step (system : CampaignSystem env) (action : CampaignAction)
    (untouched : PacketsUntouched system action) (kept : KeysKept system) :
    KeysKept (campaignStep system action) where
  packets := packetsKept_step system action untouched kept.packets
  attempts := attemptsCounted_step system action kept.attempts
  frozen := callsFrozen_step kept action
  launched launch member := by
    rcases campaignStep_launches system action member with
      old | ⟨call, installed, found, linked, key⟩
    · obtain ⟨held, installed, found, frozen, key⟩ := kept.launched launch old
      exact ⟨held, installed, tickets_kept found action, ticketFrozen_step frozen action, key⟩
    · have frozen := kept.frozen call (List.mem_of_getElem? found) linked
      have inTickets : (tickets system)[launch.1]? = some (ticket call) := by
        rw [tickets, List.getElem?_map, found]
        rfl
      exact ⟨ticket call, installed, tickets_kept inTickets action,
        ticketFrozen_step frozen action, key⟩

theorem keysKept_start (store : ResearchStore) : KeysKept (startSystem env store) where
  packets := packetsKept_start store
  attempts := attemptsCounted_start store
  frozen call member := by cases member
  launched launch member := by cases member

/-! ## Every run -/

def KeysDistinct (system : CampaignSystem env) : Prop :=
  ∀ first ∈ system.launches, ∀ second ∈ system.launches,
    first.2 = second.2 → first.1 = second.1

theorem keysKept_distinct {system : CampaignSystem env} (kept : KeysKept system) :
    KeysDistinct system := by
  intro first firstMember second secondMember sameKey
  obtain ⟨held, installed, found, frozen, key⟩ := kept.launched first firstMember
  obtain ⟨other, otherInstalled, otherFound, otherFrozen, otherKey⟩ :=
    kept.launched second secondMember
  rw [key, otherKey] at sameKey
  obtain ⟨sameCandidate, sameAttempt⟩ :=
    campaignIdempotencyKey_inj installed.wellFormed otherInstalled.wellFormed sameKey
  -- A linked candidate has one packet, which both calls tested.
  have samePacket : held.packet = other.packet := by
    obtain ⟨draft, stored, _, packet⟩ := frozen
    obtain ⟨otherDraft, otherStored, _, otherPacket⟩ := otherFrozen
    rw [sameCandidate, otherStored] at stored
    cases stored
    exact packet.symm.trans otherPacket
  obtain ⟨inside, rfl⟩ := List.getElem?_eq_some_iff.mp found
  obtain ⟨otherInside, rfl⟩ := List.getElem?_eq_some_iff.mp otherFound
  have ordered := List.pairwise_iff_getElem.mp kept.attempts.ordered
  rcases Nat.lt_trichotomy first.1 second.1 with before | same | after
  · have less := ordered _ _ inside otherInside before sameCandidate samePacket
    omega
  · exact same
  · have less := ordered _ _ otherInside inside after sameCandidate.symm samePacket.symm
    omega

/-- In a run in which nobody rewrites a packet that a pass or an executor call works with. -/
theorem launch_keys_distinct (env : CampaignEnvironment) (store : ResearchStore)
    (actions : List CampaignAction)
    (untouched : Along campaignStep PacketsUntouched (startSystem env store) actions) :
    KeysDistinct (run campaignStep (startSystem env store) actions) := by
  have kept := run_invariant_along campaignStep keysKept_step actions _ untouched
    (keysKept_start store)
  exact keysKept_distinct kept

def ideaRetested : List CampaignAction :=
  ideaTested ++ retestWritten ++ List.replicate 16 .proceed ++ List.replicate 5 (.call 1 .proceed)

theorem launch_keys_distinct_retested : KeysDistinct
    (run campaignStep (startSystem sampleEnvironment sampleStore) ideaRetested) := by
  have untouched : Along campaignStep PacketsUntouched
      (startSystem sampleEnvironment sampleStore) ideaRetested := by decide +kernel
  exact launch_keys_distinct sampleEnvironment sampleStore ideaRetested untouched

/-- Rewritten in the pass, tested as it was, and asked for again by an operator. -/
def editedRetested : List CampaignAction :=
  editedInPass ++ [.call 0 .proceed, .call 0 (.ended passedOutcome)] ++
    List.replicate 2 .proceed ++ retestWritten ++ List.replicate 16 .proceed ++
    List.replicate 5 (.call 1 .proceed)

theorem edited_retested_repeats_key : ¬ KeysDistinct
    (run campaignStep (startSystem sampleEnvironment sampleStore) editedRetested) := by
  intro distinct
  have launches : (run campaignStep (startSystem sampleEnvironment sampleStore)
      editedRetested).launches = [(1, "idea_0001-rules_0123456789abcdef"),
        (0, "idea_0001-rules_0123456789abcdef")] := by
    decide +kernel
  have same := distinct (1, "idea_0001-rules_0123456789abcdef") (by rw [launches]; simp)
    (0, "idea_0001-rules_0123456789abcdef") (by rw [launches]; simp) rfl
  cases same

end QuantFactory.Campaign
