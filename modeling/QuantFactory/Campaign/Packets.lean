import QuantFactory.Campaign.Requests

/-!
# The tested packet and the stored packet

A pass and an executor call work with drafts as they were read; a draft is
frozen only when it is linked.  While nobody rewrites a packet in between, every
linked configuration is derived from the packet that the link freezes.
-/

set_option autoImplicit false

namespace QuantFactory.Campaign

open QuantFactory.Library QuantFactory.Launch

variable {env : CampaignEnvironment}

/-! ## What a packet stands for -/

def packetRuleSpec (env : CampaignEnvironment) (eligible : env.Packet × Option String) :
    Option env.RuleSpec :=
  if eligible.2.isSome then none else (env.ruleSpecReader eligible.1).toOption.join

def derivedDocument (env : CampaignEnvironment) (draftId title candidateJson : String) :
    Option ConfigurationDocument := do
  let eligible ← env.eligiblePacket candidateJson
  let ruleSpec ← packetRuleSpec env eligible
  let definition ← (env.definition draftId title ruleSpec eligible.1).toOption
  let requestedStart ← (env.packetRequestedStart eligible.1).toOption
  let market := env.packetMarket eligible.1
  let profile ← env.datasetProfile market.1 market.2 requestedStart
  let installed ← (env.install definition).toOption
  return env.document draftId installed definition profile

theorem defineIdea_eq_ok {idea : QueuedIdea env} {definition : env.Definition}
    (defined : defineIdea idea = .ok definition) :
    idea.invalid = none ∧ ∃ ruleSpec, env.ruleSpecReader idea.packet = .ok (some ruleSpec) ∧
      env.definition idea.draft.draftId idea.draft.title ruleSpec idea.packet = .ok definition := by
  unfold defineIdea at defined
  split at defined
  · cases defined
  · rename_i valid
    split at defined
    · cases defined
    · cases defined
    · rename_i ruleSpec read
      split at defined
      · cases defined
      · rename_i made
        cases defined
        exact ⟨valid, ruleSpec, read, made⟩

theorem selectProfile_eq_ok {idea : QueuedIdea env} {profile : env.Profile}
    (selected : selectProfile idea = .ok profile) :
    ∃ requestedStart, env.packetRequestedStart idea.packet = .ok requestedStart ∧
      env.datasetProfile (env.packetMarket idea.packet).1 (env.packetMarket idea.packet).2
        requestedStart = some profile := by
  unfold selectProfile at selected
  split at selected
  · cases selected
  · rename_i requestedStart read
    simp only at selected
    split at selected
    · cases selected
    · rename_i found
      cases selected
      exact ⟨requestedStart, read, found⟩

theorem callDocument_derived {call : ExecutorCall env} (sound : CallSound call)
    {installed : InstalledRuleStrategy}
    (same : env.install call.request.definition = .ok installed) :
    call.request.candidateId = call.source.draftId ∧
      derivedDocument env call.source.draftId call.source.title call.source.candidateJson =
        some (callDocument call installed) := by
  obtain ⟨idea, draft, asks⟩ := sound
  obtain ⟨valid, ruleSpec, read, defined⟩ := defineIdea_eq_ok asks.definition
  obtain ⟨requestedStart, startRead, selected⟩ := selectProfile_eq_ok asks.profile
  have eligible := idea.eligible
  rw [valid] at eligible
  rw [draft] at eligible defined
  refine ⟨by rw [asks.candidate, draft], ?_⟩
  have rules : packetRuleSpec env (idea.packet, none) = some ruleSpec := by
    simp only [packetRuleSpec, read]
    rfl
  rw [derivedDocument, eligible, callDocument, asks.candidate, draft]
  simp only [Option.bind_eq_bind, Option.bind_some, rules, defined, startRead, selected, same,
    Except.toOption]
  rfl

/-! ## The drafts somebody works with -/

def ideaDrafts (ideas : List (QueuedIdea env)) : List IdeaDraft := ideas.map (·.draft)

def phaseDrafts : CampaignPhase env → List IdeaDraft
  | .queueing _ drafts queued => drafts ++ ideaDrafts queued
  | .passing queued => ideaDrafts queued
  | .processing (.record _) _ rest => ideaDrafts rest
  | .processing _ idea rest => idea.draft :: ideaDrafts rest
  | .executing _ rest _ => ideaDrafts rest
  | _ => []

/-- The call may still link or launch for the draft it was given. -/
def CallPhase.isUnlinked : CallPhase → Bool
  | .install => true
  | .readDraft _ => true
  | .readConfiguration _ _ => true
  | .link _ _ => true
  | _ => false

def callDraft (call : ExecutorCall env) : Option IdeaDraft :=
  if call.phase.isUnlinked then some call.source else none

def heldDrafts (system : CampaignSystem env) : List IdeaDraft :=
  phaseDrafts system.phase ++ system.calls.filterMap callDraft

/-- No write changes the packet of a draft that somebody works with. -/
def PacketsUntouched (system : CampaignSystem env) (action : CampaignAction) : Prop :=
  match action with
  | .setPacket draftId _ | .deleteDraft draftId => ∀ draft ∈ heldDrafts system,
      draft.draftId = draftId →
      storedPacket (campaignStep system action).store.drafts draftId =
        storedPacket system.store.drafts draftId
  | _ => True

instance (system : CampaignSystem env) (action : CampaignAction) :
    Decidable (PacketsUntouched system action) := by
  unfold PacketsUntouched
  split <;> infer_instance

/-! ## The store of a step -/

theorem callStep_store {call : ExecutorCall env} {store : ResearchStore} {phase : CallPhase}
    {step : CallStep} (move : CallMove call store phase step) :
    step.store = store ∨ ∃ document replace configuration,
      upsertIdeaConfiguration env.sha256Hex store call.request.candidateId document replace =
        .ok (configuration, step.store) := by
  cases move with
  | links installed replace configuration next draft found done =>
      exact .inr ⟨_, replace, configuration, done⟩
  | _ => exact .inl rfl

theorem campaignStep_linkedKept (system : CampaignSystem env) (action : CampaignAction) :
    LinkedKept system.store.drafts (campaignStep system action).store.drafts := by
  have refl := linkedKept_refl system.store.drafts
  cases action with
  | call index input =>
      simp only [campaignStep, advanceCall]
      split
      · exact refl
      · rename_i call found
        simp only
        rcases callStep_store (callStep_move call system.store input) with
          same | ⟨document, replace, configuration, done⟩
        · rw [same]
          exact refl
        · exact upsertIdeaConfiguration_linkedKept done
  | append index =>
      simp only [campaignStep, appendRequest]
      split <;> exact refl
  | saveDraft draftId title now =>
      simp only [campaignStep, editStore]
      split
      · rename_i saved
        exact IdeaDraftRepository.save_linkedKept saved
      · exact refl
  | setPacket draftId candidateJson =>
      simp only [campaignStep, editStore]
      split
      · rename_i edited
        exact IdeaDraftRepository.setCandidatePacket_linkedKept edited
      · exact refl
  | deleteDraft draftId =>
      simp only [campaignStep, editStore]
      split
      · rename_i deleted
        exact IdeaDraftRepository.delete_linkedKept deleted
      · exact refl
  | linkDraft draftId document =>
      simp only [campaignStep]
      split
      · rename_i linked done
        exact upsertIdeaConfiguration_linkedKept done
      · exact refl
  | _ => exact refl

theorem storedPacket_step {system : CampaignSystem env} {action : CampaignAction}
    (untouched : PacketsUntouched system action) {draft : IdeaDraft}
    (held : draft ∈ heldDrafts system)
    (stored : storedPacket system.store.drafts draft.draftId = some draft.candidateJson) :
    storedPacket (campaignStep system action).store.drafts draft.draftId =
      some draft.candidateJson := by
  cases action with
  | call index input =>
      simp only [campaignStep, advanceCall]
      split
      · exact stored
      · rename_i call found
        simp only
        rcases callStep_store (callStep_move call system.store input) with
          same | ⟨document, replace, configuration, done⟩
        · rw [same]
          exact stored
        · rw [upsertIdeaConfiguration_storedPacket done]
          exact stored
  | append index =>
      simp only [campaignStep, appendRequest]
      split <;> exact stored
  | saveDraft draftId title now =>
      simp only [campaignStep, editStore]
      split
      · rename_i saved
        exact save_storedPacket saved stored
      · exact stored
  | setPacket draftId candidateJson =>
      by_cases same : draft.draftId = draftId
      · rw [same, untouched draft held same, ← same]
        exact stored
      · simp only [campaignStep, editStore]
        split
        · rename_i edited
          simp only
          rw [setCandidatePacket_storedPacket edited same]
          exact stored
        · exact stored
  | deleteDraft draftId =>
      by_cases same : draft.draftId = draftId
      · rw [same, untouched draft held same, ← same]
        exact stored
      · simp only [campaignStep, editStore]
        split
        · rename_i deleted
          simp only
          rw [delete_storedPacket deleted same]
          exact stored
        · exact stored
  | linkDraft draftId document =>
      simp only [campaignStep]
      split
      · rename_i linked done
        rw [upsertIdeaConfiguration_storedPacket done]
        exact stored
      · exact stored
  | _ => exact stored

/-! ## Where a draft in hand comes from -/

theorem phaseDrafts_pass {system : CampaignSystem env} {phase : CampaignPhase env}
    {step : PassStep env} (move : PassMove system phase step) {draft : IdeaDraft}
    (member : draft ∈ phaseDrafts step.phase) :
    draft ∈ phaseDrafts phase ∨ draft ∈ system.store.drafts.rows := by
  cases move with
  | draftsRead seen =>
      right
      simp only [goOn, phaseDrafts, ideaDrafts, List.map_nil, List.append_nil] at member
      have listed := (List.perm_insertionSort _ _).mem_iff.mp member
      exact (List.mem_filter.mp listed).1
  | queues seen first drafts queued idea waiting same =>
      left
      simp only [phaseDrafts, ideaDrafts, List.map_append, List.map_singleton,
        (queueDraft_some same).1, List.mem_append, List.mem_cons] at member ⊢
      tauto
  | skipped seen first drafts queued =>
      left
      simp only [goOn, phaseDrafts, List.mem_append] at member ⊢
      exact member.imp_left (List.mem_cons_of_mem first)
  | processed point idea rest step move =>
      left
      have ofRest : ∀ point, draft ∈ ideaDrafts rest →
          draft ∈ phaseDrafts (.processing point idea rest) := by
        intro point member
        cases point with
        | record verdict => exact member
        | _ => exact List.mem_cons_of_mem _ member
      cases move with
      | closes verdict => exact ofRest point member
      | executed request => exact ofRest _ member
      | _ => exact member
  | _ => exact .inl member

theorem phaseDrafts_move {system : CampaignSystem env} {action : CampaignAction}
    {phase next : CampaignPhase env} (move : PhaseMove system action phase next)
    {draft : IdeaDraft} (member : draft ∈ phaseDrafts next) :
    draft ∈ phaseDrafts phase ∨
      (action = .proceed ∧ draft ∈ system.store.drafts.rows) := by
  cases move with
  | proceeds _ step move =>
      rcases phaseDrafts_pass move member with old | listed
      · exact .inl old
      · exact .inr ⟨rfl, listed⟩
  | stays => exact .inl member
  | processRaised detail point idea rest verdict =>
      left
      cases point with
      | record earlier => exact member
      | _ => exact List.mem_cons_of_mem _ member
  | callRaised detail idea rest call verdict => exact .inl member
  | _ => cases member

theorem callMove_unlinked {call : ExecutorCall env} {store : ResearchStore} {phase : CallPhase}
    {step : CallStep} (move : CallMove call store phase step)
    (unlinked : step.phase.isUnlinked = true) : phase.isUnlinked = true := by
  cases move with
  | waits => exact unlinked
  | installs => rfl
  | unlinked => rfl
  | linked => rfl
  | relinks => rfl
  | _ => cases unlinked

/-- Every draft in hand was in hand before, or has just been read from the store. -/
theorem heldDrafts_step {system : CampaignSystem env} {action : CampaignAction}
    {draft : IdeaDraft} (member : draft ∈ heldDrafts (campaignStep system action)) :
    draft ∈ heldDrafts system ∨
      (action = .proceed ∧ draft ∈ system.store.drafts.rows) := by
  rcases List.mem_append.mp member with ofPhase | ofCall
  · rw [campaignStep_phase] at ofPhase
    rcases phaseDrafts_move (nextPhase_move system action) ofPhase with old | listed
    · exact .inl (List.mem_append_left _ old)
    · exact .inr listed
  · left
    obtain ⟨call, inCalls, given⟩ := List.mem_filterMap.mp ofCall
    unfold callDraft at given
    split at given
    · rename_i unlinked
      cases given
      cases campaignStep_calls system action inCalls with
      | kept _ _ old =>
          exact List.mem_append_right _ (List.mem_filterMap.mpr
            ⟨call, old, by rw [callDraft, if_pos unlinked]⟩)
      | moved index input before found =>
          have earlier := callMove_unlinked (callStep_move before system.store input) unlinked
          exact List.mem_append_right _ (List.mem_filterMap.mpr
            ⟨before, List.mem_of_getElem? found, by rw [callDraft, if_pos earlier]⟩)
      | made request idea rest phase =>
          refine List.mem_append_left _ ?_
          rw [phase]
          exact List.mem_cons_self
    · cases given

/-! ## The installed strategy -/

def CallPhase.installed? : CallPhase → Option InstalledRuleStrategy
  | .install => none
  | .readDraft installed => some installed
  | .readConfiguration installed _ => some installed
  | .link installed _ => some installed
  | .launch installed _ _ => some installed
  | .launched installed _ _ => some installed
  | .finished _ => none

def CallInstalled (call : ExecutorCall env) : Prop :=
  ∀ installed ∈ call.phase.installed?, env.install call.request.definition = .ok installed

theorem callMove_installed {call : ExecutorCall env} {store : ResearchStore} {phase : CallPhase}
    {step : CallStep} (move : CallMove call store phase step)
    (before : ∀ installed ∈ phase.installed?, env.install call.request.definition = .ok installed) :
    ∀ installed ∈ step.phase.installed?, env.install call.request.definition = .ok installed := by
  cases move with
  | installs installed same =>
      intro other named
      cases named
      exact same
  | finishes outcome =>
      intro other named
      cases named
  | _ => exact before

theorem callsInstalled_step {system : CampaignSystem env}
    (kept : ∀ call ∈ system.calls, CallInstalled call) (action : CampaignAction) :
    ∀ call ∈ (campaignStep system action).calls, CallInstalled call := by
  intro call member
  cases campaignStep_calls system action member with
  | kept _ _ old => exact kept call old
  | moved index input before found =>
      have installed := kept before (List.mem_of_getElem? found)
      have moved := callMove_installed (callStep_move before system.store input) installed
      exact moved
  | made request idea rest phase =>
      intro installed named
      cases named

/-! ## Every run -/

/-- The configuration linked to the draft follows from the packet the link froze. -/
def DerivedFromPacket (env : CampaignEnvironment) (link : LinkRecord) : Prop :=
  derivedDocument env link.draftId link.title link.candidateJson = some link.document ∧
    link.configuration.configHash = env.sha256Hex link.document.canonicalJson

def PacketFrozen (store : ResearchStore) (link : LinkRecord) : Prop :=
  ∃ draft, store.drafts.get link.draftId = some draft ∧
    draft.configurationId.isSome = true ∧ draft.candidateJson = link.candidateJson

structure PacketsKept (system : CampaignSystem env) : Prop where
  sound : RequestsSound system
  installed : ∀ call ∈ system.calls, CallInstalled call
  held : ∀ draft ∈ heldDrafts system,
    storedPacket system.store.drafts draft.draftId = some draft.candidateJson
  derived : ∀ link ∈ system.links, DerivedFromPacket env link
  frozen : ∀ link ∈ system.links, PacketFrozen system.store link

/-- A link of the next state was there before, or an executor call has just made it. -/
theorem campaignStep_links (system : CampaignSystem env) (action : CampaignAction)
    {link : LinkRecord} (member : link ∈ (campaignStep system action).links) :
    link ∈ system.links ∨ ∃ index input call, action = .call index input ∧
      system.calls[index]? = some call ∧ (callStep call system.store input).link = some link ∧
      (campaignStep system action).store = (callStep call system.store input).store := by
  cases action with
  | call index input =>
      simp only [campaignStep, advanceCall] at member ⊢
      split at member
      · exact .inl member
      · rename_i call found
        rcases List.mem_append.mp member with new | old
        · exact .inr ⟨index, input, call, rfl, found, Option.mem_toList.mp new, rfl⟩
        · exact .inl old
  | append index =>
      simp only [campaignStep, appendRequest] at member
      split at member <;> exact .inl member
  | _ => exact .inl member

theorem packetFrozen_step {system : CampaignSystem env} {link : LinkRecord}
    (frozen : PacketFrozen system.store link) (action : CampaignAction) :
    PacketFrozen (campaignStep system action).store link := by
  obtain ⟨draft, found, linked, same⟩ := frozen
  obtain ⟨after, found, linked, kept⟩ :=
    campaignStep_linkedKept system action link.draftId draft found linked
  exact ⟨after, found, linked, kept.trans same⟩

/-- A link freezes the packet the call has read, which its configuration follows from. -/
theorem link_step {call : ExecutorCall env} {store : ResearchStore} {step : CallStep}
    (move : CallMove call store call.phase step) (sound : CallSound call)
    (installed : CallInstalled call)
    (held : ∀ draft ∈ callDraft call,
      storedPacket store.drafts draft.draftId = some draft.candidateJson)
    {link : LinkRecord} (linked : step.link = some link) :
    DerivedFromPacket env link ∧ PacketFrozen step.store link := by
  unfold CallInstalled at installed
  unfold callDraft at held
  generalize call.phase = phase at move installed held
  cases move with
  | links strategy replace configuration next draft found done =>
      cases linked
      obtain ⟨sameId, derived⟩ := callDocument_derived sound (installed strategy rfl)
      have stored := held call.source rfl
      rw [← sameId, storedPacket, found] at stored
      have sameText : draft.candidateJson = call.source.candidateJson := Option.some.inj stored
      refine ⟨⟨?_, upsertIdeaConfiguration_hash done⟩, ?_⟩
      · simp only [sameText, sameId]
        exact derived
      · obtain ⟨linkedDrafts, -⟩ := upsertIdeaConfiguration_eq_ok done
        refine ⟨(IdeaDraftRepository.withConfiguration configuration.configurationId).apply draft,
          ?_, rfl, rfl⟩
        rw [linkedDrafts, Table.get_update, if_pos rfl, found]
        rfl
  | _ => cases linked

theorem packetsKept_step (system : CampaignSystem env) (action : CampaignAction)
    (untouched : PacketsUntouched system action) (kept : PacketsKept system) :
    PacketsKept (campaignStep system action) := by
  have linksOf : ∀ link ∈ (campaignStep system action).links,
      DerivedFromPacket env link ∧ PacketFrozen (campaignStep system action).store link := by
    intro link member
    rcases campaignStep_links system action member with
      old | ⟨index, input, call, rfl, found, linked, sameStore⟩
    · exact ⟨kept.derived link old, packetFrozen_step (kept.frozen link old) action⟩
    · have inCalls := List.mem_of_getElem? found
      rw [sameStore]
      refine link_step (callStep_move call system.store input) (kept.sound.calls call inCalls)
        (kept.installed call inCalls) ?_ linked
      intro draft given
      exact kept.held draft (List.mem_append_right _ (List.mem_filterMap.mpr ⟨call, inCalls, given⟩))
  refine {
    sound := requestsSound_step system action kept.sound
    installed := callsInstalled_step kept.installed action
    held := ?_
    derived := fun link member => (linksOf link member).1
    frozen := fun link member => (linksOf link member).2 }
  intro draft member
  rcases heldDrafts_step member with held | ⟨rfl, listed⟩
  · exact storedPacket_step untouched held (kept.held draft held)
  · change storedPacket system.store.drafts draft.draftId = _
    rw [storedPacket, Table.get_of_mem listed]
    rfl

theorem packetsKept_start (store : ResearchStore) : PacketsKept (startSystem env store) where
  sound := requestsSound_start store
  installed call member := by cases member
  held draft member := by cases member
  derived link member := by cases member
  frozen link member := by cases member

/-- Every link of the campaign is to the configuration that follows from the stored packet,
and the draft stays frozen with that packet. -/
structure TestedAsStored (system : CampaignSystem env) : Prop where
  derived : ∀ link ∈ system.links, DerivedFromPacket env link
  frozen : ∀ link ∈ system.links, PacketFrozen system.store link

/-- A run in which nobody rewrites a packet that a pass or an executor call works with. -/
theorem tested_as_stored (env : CampaignEnvironment) (store : ResearchStore)
    (actions : List CampaignAction)
    (untouched : Along campaignStep PacketsUntouched (startSystem env store) actions) :
    TestedAsStored (run campaignStep (startSystem env store) actions) := by
  have kept := run_invariant_along campaignStep packetsKept_step actions _ untouched
    (packetsKept_start store)
  exact ⟨kept.derived, kept.frozen⟩

/-- The idea is rewritten before the pass reads it. -/
theorem tested_as_stored_edited_before :
    TestedAsStored (run campaignStep (startSystem sampleEnvironment sampleStore)
      (.setPacket "idea_0001" "rules B" :: ideaTested)) := by
  have untouched : Along campaignStep PacketsUntouched
      (startSystem sampleEnvironment sampleStore)
      (.setPacket "idea_0001" "rules B" :: ideaTested) := by decide +kernel
  exact tested_as_stored sampleEnvironment sampleStore _ untouched

/-- The idea is rewritten after the pass has read it and before it is linked. -/
def editedInPass : List CampaignAction :=
  .start :: List.replicate 15 .proceed ++ [.setPacket "idea_0001" "rules B"] ++
    List.replicate 3 (.call 0 .proceed)

def linksOtherPacket (system : CampaignSystem sampleEnvironment) : Bool :=
  system.links.any fun link => derivedDocument sampleEnvironment link.draftId link.title
    link.candidateJson != some link.document

theorem edited_in_pass_links_other_packet :
    ¬ TestedAsStored (run campaignStep (startSystem sampleEnvironment sampleStore) editedInPass) := by
  intro tested
  have other : linksOtherPacket
      (run campaignStep (startSystem sampleEnvironment sampleStore) editedInPass) = true := by
    decide +kernel
  obtain ⟨link, member, differs⟩ := List.any_eq_true.mp other
  simp [(tested.derived link member).1] at differs

end QuantFactory.Campaign
