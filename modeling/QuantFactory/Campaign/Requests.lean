import QuantFactory.Campaign.Steps
import QuantFactory.Library.Runs

/-!
# The requests of the executor

Every test request asks for the rules and the dataset of the idea in process,
and every executor call answers a request that was recorded as started.
-/

set_option autoImplicit false

namespace QuantFactory.Campaign

open QuantFactory.Library QuantFactory.Launch

variable {env : CampaignEnvironment}

/-- The request asks for a test of the idea as the pass has read it. -/
structure Asks (idea : QueuedIdea env) (request : AutoTestRequest env) : Prop where
  candidate : request.candidateId = idea.draft.draftId
  definition : defineIdea idea = .ok request.definition
  profile : selectProfile idea = .ok request.profile

/-- What `_process` has worked out so far belongs to the idea. -/
def PointSound (idea : QueuedIdea env) : ProcessPoint env → Prop
  | .define => True
  | .readOwners definition => defineIdea idea = .ok definition
  | .findOwner definition _ => defineIdea idea = .ok definition
  | .selectData definition => defineIdea idea = .ok definition
  | .readRebuild definition profile =>
      defineIdea idea = .ok definition ∧ selectProfile idea = .ok profile
  | .readAttempts definition profile _ =>
      defineIdea idea = .ok definition ∧ selectProfile idea = .ok profile
  | .readRecent request => Asks idea request
  | .recordStart request => Asks idea request
  | .execute request => Asks idea request
  | .record _ => True

def PhaseSound : CampaignPhase env → Prop
  | .processing point idea _ => PointSound idea point
  | _ => True

def CallSound (call : ExecutorCall env) : Prop :=
  ∃ idea : QueuedIdea env, idea.draft = call.source ∧ Asks idea call.request

structure RequestsSound (system : CampaignSystem env) : Prop where
  phase : PhaseSound system.phase
  calls : ∀ call ∈ system.calls, CallSound call

/-! ## Every step -/

theorem pointSound_move {system : CampaignSystem env} {point : ProcessPoint env}
    {idea : QueuedIdea env} {rest : List (QueuedIdea env)} {step : PassStep env}
    (move : ProcessMove system idea rest point step) (sound : PointSound idea point) :
    PhaseSound step.phase := by
  cases move with
  | defined definition same => exact same
  | ownersRead definition withoutResult => exact sound
  | unowned definition withoutResult => exact sound
  | selected definition profile same => exact ⟨sound, same⟩
  | rebuildRead definition profile => exact sound
  | attemptsRead definition profile rebuild => exact ⟨rfl, sound.1, sound.2⟩
  | allowed request left => exact sound
  | started request => exact sound
  | _ => trivial

theorem phaseSound_pass {system : CampaignSystem env} {phase : CampaignPhase env}
    {step : PassStep env} (move : PassMove system phase step) (sound : PhaseSound phase) :
    PhaseSound step.phase := by
  cases move with
  | processed point idea rest step move => exact pointSound_move move sound
  | _ => trivial

theorem phaseSound_move {system : CampaignSystem env} {action : CampaignAction}
    {phase next : CampaignPhase env} (move : PhaseMove system action phase next)
    (sound : PhaseSound phase) : PhaseSound next := by
  cases move with
  | proceeds _ step move => exact phaseSound_pass move sound
  | stays => exact sound
  | _ => trivial

theorem requestsSound_step (system : CampaignSystem env) (action : CampaignAction)
    (sound : RequestsSound system) : RequestsSound (campaignStep system action) where
  phase := by
    rw [campaignStep_phase]
    exact phaseSound_move (nextPhase_move system action) sound.phase
  calls call member := by
    cases campaignStep_calls system action member with
    | kept _ _ old => exact sound.calls call old
    | moved index input before found => exact sound.calls before (List.mem_of_getElem? found)
    | made request idea rest phase =>
        have asks := sound.phase
        rw [phase] at asks
        exact ⟨idea, rfl, asks⟩

theorem requestsSound_start (store : ResearchStore) : RequestsSound (startSystem env store) where
  phase := trivial
  calls call member := by cases member

/-! ## Where a request comes from -/

/-- In some of these states the request was about to be recorded as started. -/
def RecordedIn (past : CampaignSystem env → Prop) (request : AutoTestRequest env) : Prop :=
  ∃ started idea rest, past started ∧
    started.phase = .processing (.recordStart request) idea rest ∧
    request.candidateId = idea.draft.draftId

structure StartsRecorded (past : CampaignSystem env → Prop) (system : CampaignSystem env) :
    Prop where
  sound : RequestsSound system
  execute : ∀ request idea rest, system.phase = .processing (.execute request) idea rest →
    RecordedIn past request
  calls : ∀ call ∈ system.calls, RecordedIn past call.request

theorem execute_reached {system : CampaignSystem env} {action : CampaignAction}
    {request : AutoTestRequest env} {idea : QueuedIdea env} {rest : List (QueuedIdea env)}
    (reached : (campaignStep system action).phase = .processing (.execute request) idea rest) :
    (action ≠ .proceed ∧ system.phase = .processing (.execute request) idea rest) ∨
      (action = .proceed ∧ system.phase = .processing (.recordStart request) idea rest) := by
  rw [campaignStep_phase] at reached
  have move := nextPhase_move system action
  generalize nextPhase system action = next at move reached
  generalize system.phase = phase at move ⊢
  cases move with
  | proceeds _ step move =>
      cases move with
      | processed point idea rest step move =>
          cases move with
          | started request =>
              cases reached
              exact .inr ⟨rfl, rfl⟩
          | _ => cases reached
      | _ => cases reached
  | stays _ other => exact .inl ⟨other, reached⟩
  | _ => cases reached

theorem startsRecorded_step {past : CampaignSystem env → Prop} {system : CampaignSystem env}
    (now : past system) (recorded : StartsRecorded past system) (action : CampaignAction) :
    StartsRecorded past (campaignStep system action) where
  sound := requestsSound_step system action recorded.sound
  execute request idea rest reached := by
    rcases execute_reached reached with ⟨-, before⟩ | ⟨-, start⟩
    · exact recorded.execute request idea rest before
    · have asks := recorded.sound.phase
      rw [start] at asks
      exact ⟨system, idea, rest, now, start, asks.candidate⟩
  calls call member := by
    cases campaignStep_calls system action member with
    | kept _ _ old => exact recorded.calls call old
    | moved index input before found => exact recorded.calls before (List.mem_of_getElem? found)
    | made request idea rest phase => exact recorded.execute request idea rest phase

theorem recordedIn_wider {past later : CampaignSystem env → Prop}
    (wider : ∀ system, past system → later system) {request : AutoTestRequest env}
    (recorded : RecordedIn past request) : RecordedIn later request := by
  obtain ⟨started, idea, rest, held, phase, named⟩ := recorded
  exact ⟨started, idea, rest, wider started held, phase, named⟩

theorem startsRecorded_wider (past later : CampaignSystem env → Prop)
    (system : CampaignSystem env) (wider : ∀ system, past system → later system)
    (recorded : StartsRecorded past system) : StartsRecorded later system where
  sound := recorded.sound
  execute request idea rest phase := recordedIn_wider wider (recorded.execute request idea rest phase)
  calls call member := recordedIn_wider wider (recorded.calls call member)

theorem startsRecorded_start (store : ResearchStore) (past : CampaignSystem env → Prop) :
    StartsRecorded past (startSystem env store) where
  sound := requestsSound_start store
  execute request idea rest phase := by cases phase
  calls call member := by cases member

/-- Every executor call answers a request that a visited state was about to record. -/
theorem calls_recorded (store : ResearchStore) (actions : List CampaignAction)
    {call : ExecutorCall env}
    (member : call ∈ (run campaignStep (startSystem env store) actions).calls) :
    RecordedIn (Visited campaignStep (startSystem env store) actions) call.request := by
  have recorded := run_invariant_visited campaignStep startsRecorded_wider (startSystem env store)
    (startsRecorded_start store)
    (fun actions action kept =>
      startsRecorded_step (visited_last campaignStep _ actions) kept action)
    actions
  exact recorded.calls call member

/-! ## A sample campaign -/

/-- Packets that are their own rules, all for one market and one strategy. -/
def sampleEnvironment : CampaignEnvironment where
  Packet := String
  RuleSpec := String
  Definition := String
  Profile := Unit
  eligiblePacket text := some (text, none)
  ruleSpecReader packet := .ok (some packet)
  definition _ _ ruleSpec _ := .ok ruleSpec
  strategyId _ := "rules_0123456789abcdef"
  install _ := .ok ⟨"rules_0123456789abcdef", "1", by decide⟩
  packetMarket _ := ("MNQ", "5m")
  draftMarket _ := some ("MNQ", "5m")
  packetRequestedStart _ := .ok none
  datasetProfile _ _ _ := some ()
  document _ installed definition _ := ⟨installed.strategyId, installed.version, definition⟩
  safeDetail := id
  exceptionDetail error := error.message
  sha256Hex := id

def sampleStore : ResearchStore where
  drafts := ⟨[⟨"idea_0001", "Opening range", none, "2026-01-02T09:00:00Z", "rules A"⟩], by simp⟩
  configurations := .empty

def passedOutcome : AutoTestOutcome := ⟨.survivor, "awaiting_owner_review", none, some "run-1"⟩

/-- The campaign starts, tests the one idea of the store, and waits in the pass. -/
def ideaTested : List CampaignAction :=
  .start :: List.replicate 15 .proceed ++ List.replicate 4 (.call 0 .proceed) ++
    [.call 0 (.ended passedOutcome)] ++ List.replicate 2 .proceed

def retestWritten : List CampaignAction := [.request (.retest none "method fixed"), .append 0]

end QuantFactory.Campaign
