import QuantFactory.Campaign.Drafts
import QuantFactory.Campaign.Events

/-!
# The automatic-test campaign

`agent_gateway/auto_campaign.py` and the executor of `orchestration/auto_campaign.py`.
The campaign process, the executor calls it starts, the gateway's requests and
the other writers of idea drafts take turns, one transaction or read at a time.
Intake validation, the rule-strategy adapter and the data catalogue are functions
of the environment.
-/

set_option autoImplicit false

namespace QuantFactory.Campaign

open QuantFactory.Library QuantFactory.Python QuantFactory.Launch

/-- `_STRATEGY_ID.fullmatch`: `rules_` and sixteen lower-case hex digits. -/
def isRuleStrategyId (strategyId : String) : Bool :=
  strategyId.toList.take 6 = "rules_".toList && strategyId.length = 22 &&
    (strategyId.toList.drop 6).all fun c => c.isDigit || ('a' ≤ c && c ≤ 'f')

/-- What `adapter.install` returns, with the id it computes from the checked rules. -/
structure InstalledRuleStrategy where
  strategyId : String
  version : String
  wellFormed : isRuleStrategyId strategyId = true
  deriving DecidableEq, Repr

structure CampaignEnvironment where
  Packet : Type
  RuleSpec : Type
  Definition : Type
  Profile : Type
  /-- `_eligible_packet`: the packet, and why its rules are invalid. -/
  eligiblePacket : String → Option (Packet × Option String)
  ruleSpecReader : Packet → Except String (Option RuleSpec)
  definition : String → String → RuleSpec → Packet → Except String Definition
  strategyId : Definition → String
  install : Definition → Except String InstalledRuleStrategy
  packetMarket : Packet → String × String
  draftMarket : String → Option (String × String)
  packetRequestedStart : Packet → Except String (Option String)
  datasetProfile : String → String → Option String → Option Profile
  /-- The document of `auto_test_definition`. -/
  document : String → InstalledRuleStrategy → Definition → Profile → ConfigurationDocument
  safeDetail : String → String
  exceptionDetail : LaunchError → String
  sha256Hex : String → String

def maxAttempts : Nat := 3

def campaignIdempotencyKey (candidateId strategyId : String) (attempt : Nat) : String :=
  candidateId ++ "-" ++ strategyId ++ (if attempt = 0 then "" else "-r" ++ toString attempt)

/-- The states `run_auto_test` reports. -/
inductive OutcomeState where
  | survivor | screenedOut | failed | implementationBlocked
  deriving DecidableEq, Repr

def OutcomeState.campaignState : OutcomeState → CampaignState
  | .survivor => .survivor
  | .screenedOut => .screenedOut
  | .failed => .failed
  | .implementationBlocked => .implementationBlocked

structure AutoTestOutcome where
  state : OutcomeState
  reasonCode : String
  reasonDetail : Option String
  runId : Option String
  deriving DecidableEq, Repr

/-- What `record` appends to close an idea. -/
structure Verdict where
  state : CampaignState
  reasonCode : String
  reasonDetail : Option String
  runId : Option String
  closed : state.isOpen = false

def blocked (reasonCode reasonDetail : String) : Verdict :=
  ⟨.implementationBlocked, reasonCode, some reasonDetail, none, rfl⟩

def runError (reasonDetail : String) : Verdict := ⟨.failed, "run_error", some reasonDetail, none, rfl⟩

def AutoTestOutcome.verdict (outcome : AutoTestOutcome) : Verdict :=
  ⟨outcome.state.campaignState, outcome.reasonCode, outcome.reasonDetail, outcome.runId, by
    cases outcome.state <;> rfl⟩

variable (env : CampaignEnvironment)

structure QueuedIdea where
  draft : IdeaDraft
  packet : env.Packet
  invalid : Option String
  eligible : env.eligiblePacket draft.candidateJson = some (packet, invalid)

def QueuedIdea.digest {env : CampaignEnvironment} (idea : QueuedIdea env) : String :=
  env.sha256Hex idea.draft.candidateJson

structure AutoTestRequest where
  candidateId : String
  definition : env.Definition
  profile : env.Profile
  attempt : Nat
  rebuild : Bool

/-! ## The executor -/

inductive CallPhase where
  | install
  | readDraft (installed : InstalledRuleStrategy)
  | readConfiguration (installed : InstalledRuleStrategy) (configurationId : String)
  | link (installed : InstalledRuleStrategy) (replace : Bool)
  | launch (installed : InstalledRuleStrategy) (configurationId : String) (repeated : Bool)
  | launched (installed : InstalledRuleStrategy) (configurationId : String) (repeated : Bool)
  | finished (outcome : AutoTestOutcome)
  deriving DecidableEq

structure ExecutorCall where
  request : AutoTestRequest env
  source : IdeaDraft
  phase : CallPhase

/-! ## The campaign process -/

/-- Where `_process` stands. -/
inductive ProcessPoint where
  | define
  | readOwners (definition : env.Definition)
  | findOwner (definition : env.Definition) (withoutResult : List String)
  | selectData (definition : env.Definition)
  | readRebuild (definition : env.Definition) (profile : env.Profile)
  | readAttempts (definition : env.Definition) (profile : env.Profile) (rebuild : Bool)
  | readRecent (request : AutoTestRequest env)
  | recordStart (request : AutoTestRequest env)
  | execute (request : AutoTestRequest env)
  | record (verdict : Verdict)

inductive CampaignPhase where
  | down
  /-- `requeue_after_restart` has these events still to append. -/
  | restarting (rows : List CampaignEvent)
  | idle
  /-- `_queue` has read the latest events. -/
  | listing (seen : CampaignLog)
  | queueing (seen : CampaignLog) (drafts : List IdeaDraft) (queued : List (QueuedIdea env))
  | passing (queued : List (QueuedIdea env))
  | processing (point : ProcessPoint env) (idea : QueuedIdea env) (rest : List (QueuedIdea env))
  | executing (idea : QueuedIdea env) (rest : List (QueuedIdea env)) (call : Nat)

/-- A draft the campaign linked: its text at that time, and the document linked to it. -/
structure LinkRecord where
  draftId : String
  title : String
  candidateJson : String
  document : ConfigurationDocument
  configuration : ConfigurationRecord

structure CampaignSystem where
  store : ResearchStore
  log : CampaignLog
  phase : CampaignPhase env
  calls : List (ExecutorCall env)
  requests : List (List CampaignEvent)
  links : List LinkRecord
  launches : List (Nat × String)

/-! ## `_queue` -/

section Queue
variable {env}

/-- The ideas whose linked drafts `_queue` does not list. -/
def settledIds (seen : CampaignLog) : List String :=
  ((latestCampaignEvents seen).filter fun event =>
    !event.state.isOpen && event.state ≠ .duplicateClosed).map (·.candidateId)

def ownerCounts (seen : CampaignLog) (event : CampaignEvent) : Bool :=
  if event.state = .duplicateClosed then
    match latestCampaignEvent seen (event.reasonDetail.getD "None") with
    | none => true
    | some owner => owner.state.isOpen || owner.state.hasResult
  else true

def isDecided (seen : CampaignLog) (event : CampaignEvent) (digest : String) : Bool :=
  !event.state.isOpen && event.packetSha256 = some digest && ownerCounts seen event

variable (env)

/-- One draft of `_queue`: the idea it queues, and whether it is recorded as waiting. -/
def queueDraft (seen : CampaignLog) (draft : IdeaDraft) : Option (QueuedIdea env × Bool) :=
  let event := latestCampaignEvent seen draft.draftId
  let digest := env.sha256Hex draft.candidateJson
  if draft.candidateJson.isEmpty || (draft.configurationId.isSome && event.isNone) then none
  else if event.any fun event => isDecided seen event digest then none
  else match eligible : env.eligiblePacket draft.candidateJson with
    | none => none
    | some (packet, invalid) =>
        some (⟨draft, packet, invalid, eligible⟩, !event.any fun event => event.state.isOpen)

end Queue

section Process
variable {env}

def QueuedIdea.event (idea : QueuedIdea env) (state : CampaignState) (reasonCode : String) :
    CampaignEvent where
  candidateId := idea.draft.draftId
  state := state
  reasonCode := reasonCode
  reasonDetail := none
  packetSha256 := some idea.digest
  runId := none

def QueuedIdea.verdictEvent (idea : QueuedIdea env) (verdict : Verdict) : CampaignEvent where
  candidateId := idea.draft.draftId
  state := verdict.state
  reasonCode := verdict.reasonCode
  reasonDetail := verdict.reasonDetail
  packetSha256 := some idea.digest
  runId := verdict.runId

def rulesInvalid (safeDetail : String → String) (message : String) : Verdict :=
  blocked "rules_invalid" ("The rule_spec is invalid: " ++ safeDetail message)

def defineIdea (idea : QueuedIdea env) : Except Verdict env.Definition :=
  match idea.invalid with
  | some message => .error (rulesInvalid env.safeDetail message)
  | none => match env.ruleSpecReader idea.packet with
      | .error message => .error (rulesInvalid env.safeDetail message)
      | .ok none => .error (blocked "rules_missing"
          "The idea has no rule_spec, so no strategy can be generated from it.")
      | .ok (some ruleSpec) =>
          match env.definition idea.draft.draftId idea.draft.title ruleSpec idea.packet with
          | .error message => .error (rulesInvalid env.safeDetail message)
          | .ok definition => .ok definition

def idsWithoutResult (log : CampaignLog) : List String :=
  ((latestCampaignEvents log).filter fun event =>
    !(event.state.isOpen || event.state.hasResult)).map (·.candidateId)

def earlierOwnerOfStrategy (draftMarket : String → Option (String × String))
    (store : ResearchStore) (strategyId candidateId : String)
    (market : String × String) (withoutResult : List String) : Option String :=
  let configurationIds := (store.configurations.rows.filter fun row =>
    strategyId.isEmpty || row.strategyId = strategyId).map (·.configurationId)
  let owners := (IdeaDraftRepository.listSorted store.drafts []).filter fun draft =>
    draft.configurationId.any (fun id => decide (id ∈ configurationIds)) &&
      draft.draftId ≠ candidateId && draft.draftId ∉ withoutResult &&
      draftMarket draft.candidateJson = some market
  owners.head?.map (·.draftId)

def noDataset (market : String × String) : Verdict :=
  blocked "data_unavailable" ("No verified local dataset with recorded trading costs exists for " ++
    (if market.1.isEmpty then "an unnamed market" else market.1) ++ " at " ++
    (if market.2.isEmpty then "an unstated timeframe" else market.2) ++ ".")

def selectProfile (idea : QueuedIdea env) : Except Verdict env.Profile :=
  match env.packetRequestedStart idea.packet with
  | .error message => .error (blocked "rules_invalid"
      ("The start date is invalid: " ++ env.safeDetail message))
  | .ok requestedStart =>
      let market := env.packetMarket idea.packet
      match env.datasetProfile market.1 market.2 requestedStart with
      | none => .error (noDataset market)
      | some profile => .ok profile

def budgetSpent (recent : Nat) : Verdict :=
  runError s!"The test was interrupted {recent} times before finishing and was not started again."

end Process

/-! ## One step of the campaign process -/

structure PassStep where
  phase : CampaignPhase env
  event : Option CampaignEvent
  call : Option (ExecutorCall env)

section Step
variable {env}

def goOn (phase : CampaignPhase env) : PassStep env := ⟨phase, none, none⟩

def recordNext (verdict : Verdict) (idea : QueuedIdea env) (rest : List (QueuedIdea env)) :
    PassStep env :=
  goOn (.processing (.record verdict) idea rest)

def afterDefine (idea : QueuedIdea env) (rest : List (QueuedIdea env)) :
    Except Verdict env.Definition → PassStep env
  | .error verdict => recordNext verdict idea rest
  | .ok definition => goOn (.processing (.readOwners definition) idea rest)

def afterFindOwner (definition : env.Definition) (idea : QueuedIdea env)
    (rest : List (QueuedIdea env)) : Option String → PassStep env
  | some owner => recordNext ⟨.duplicateClosed, "same_rules", some owner, none, rfl⟩ idea rest
  | none => goOn (.processing (.selectData definition) idea rest)

def afterSelect (definition : env.Definition) (idea : QueuedIdea env)
    (rest : List (QueuedIdea env)) : Except Verdict env.Profile → PassStep env
  | .error verdict => recordNext verdict idea rest
  | .ok profile => goOn (.processing (.readRebuild definition profile) idea rest)

/-- `latest_campaign_event(…).get("reason_code") == REQUEUED_AFTER_FIX`. -/
def rebuildRequested (log : CampaignLog) (candidateId : String) : Bool :=
  (latestCampaignEvent log candidateId).any fun event => event.reasonCode = requeuedAfterFix

def afterRecent (request : AutoTestRequest env) (idea : QueuedIdea env)
    (rest : List (QueuedIdea env)) (recent : Nat) : PassStep env :=
  if maxAttempts ≤ recent then recordNext (budgetSpent recent) idea rest
  else goOn (.processing (.recordStart request) idea rest)

def processStep (system : CampaignSystem env) (point : ProcessPoint env) (idea : QueuedIdea env)
    (rest : List (QueuedIdea env)) : PassStep env :=
  let candidateId := idea.draft.draftId
  match point with
  | .define => afterDefine idea rest (defineIdea idea)
  | .readOwners definition =>
      goOn (.processing (.findOwner definition (idsWithoutResult system.log)) idea rest)
  | .findOwner definition withoutResult => afterFindOwner definition idea rest
      (earlierOwnerOfStrategy env.draftMarket system.store (env.strategyId definition) candidateId
        (env.packetMarket idea.packet) withoutResult)
  | .selectData definition => afterSelect definition idea rest (selectProfile idea)
  | .readRebuild definition profile => goOn (.processing
      (.readAttempts definition profile (rebuildRequested system.log candidateId)) idea rest)
  | .readAttempts definition profile rebuild => goOn (.processing (.readRecent {
      candidateId, definition, profile
      attempt := campaignAttempts system.log candidateId idea.digest
      rebuild }) idea rest)
  | .readRecent request => afterRecent request idea rest
      (campaignAttemptsSinceRequeue system.log candidateId idea.digest)
  | .recordStart request =>
      ⟨.processing (.execute request) idea rest, some (idea.event .running "started"), none⟩
  | .execute request => ⟨.executing idea rest system.calls.length, none,
      some { request, source := idea.draft, phase := .install }⟩
  | .record verdict => ⟨.passing rest, some (idea.verdictEvent verdict), none⟩

def afterQueueDraft (seen : CampaignLog) (drafts : List IdeaDraft)
    (queued : List (QueuedIdea env)) : Option (QueuedIdea env × Bool) → PassStep env
  | none => goOn (.queueing seen drafts queued)
  | some (idea, waiting) => ⟨.queueing seen drafts (queued ++ [idea]),
      if waiting then some (idea.event .queued "waiting") else none, none⟩

def afterCall (phase : CampaignPhase env) (idea : QueuedIdea env)
    (rest : List (QueuedIdea env)) : Option CallPhase → PassStep env
  | some (.finished outcome) => recordNext outcome.verdict idea rest
  | _ => goOn phase

def passStep (system : CampaignSystem env) : PassStep env :=
  match system.phase with
  | .down => goOn .down
  | .restarting [] => goOn .idle
  | .restarting (row :: rows) => ⟨.restarting rows, some row, none⟩
  | .idle => goOn (.listing system.log)
  | .listing seen => goOn (.queueing seen
      (IdeaDraftRepository.listSorted system.store.drafts (settledIds seen)) [])
  | .queueing _ [] queued => goOn (.passing queued)
  | .queueing seen (draft :: drafts) queued =>
      afterQueueDraft seen drafts queued (queueDraft env seen draft)
  | .passing [] => goOn .idle
  | .passing (idea :: rest) => goOn (.processing .define idea rest)
  | .processing point idea rest => processStep system point idea rest
  | .executing idea rest call =>
      afterCall system.phase idea rest (system.calls[call]?.map (·.phase))

/-- An exception of `_process` that `run_once` records for the idea. -/
def raisedPhase (detail : String) : CampaignPhase env → CampaignPhase env
  | .processing _ idea rest =>
      .processing (.record (runError (env.safeDetail detail))) idea rest
  | .executing idea rest _ => .processing (.record (runError (env.safeDetail detail))) idea rest
  | phase => phase

def endedPhase : CampaignPhase env → CampaignPhase env
  | .passing _ => .idle
  | phase => phase

def brokenPhase : CampaignPhase env → CampaignPhase env
  | .down => .down
  | .restarting rows => .restarting rows
  | _ => .idle

def startedPhase (log : CampaignLog) : CampaignPhase env → CampaignPhase env
  | .down => .restarting (requeueAfterRestart log)
  | phase => phase

end Step

/-! ## One step of an executor call -/

structure CallStep where
  phase : CallPhase
  store : ResearchStore
  link : Option LinkRecord
  key : Option String

inductive CallInput where
  | proceed
  | invocationError
  | ended (outcome : AutoTestOutcome)
  deriving DecidableEq

section Call
variable {env}

def reported (detail : String) : AutoTestOutcome := ⟨.failed, "run_error", some detail, none⟩

def rulesChanged : AutoTestOutcome := ⟨.failed, "rules_changed", some
  "This idea was already tested with different rules. Submit the changed rules as a new idea.",
  none⟩

/-- The saved configuration of the draft against the document of the request. -/
def afterConfiguration (rebuild : Bool) (hash : String) (installed : InstalledRuleStrategy) :
    Option ConfigurationRecord → CallPhase
  | none => .link installed false
  | some configuration =>
      if configuration.configHash = hash then .link installed false
      else if configuration.strategyId ≠ installed.strategyId ∨
          configuration.strategyVersion ≠ installed.version then .finished rulesChanged
      else if rebuild then .link installed true
      else .launch installed configuration.configurationId false

def callDocument (call : ExecutorCall env) (installed : InstalledRuleStrategy) :
    ConfigurationDocument :=
  env.document call.request.candidateId installed call.request.definition call.request.profile

/-- `upsert_idea_configuration`, with the text the draft has in that transaction. -/
def linkStep (call : ExecutorCall env) (store : ResearchStore)
    (installed : InstalledRuleStrategy) (replace : Bool) : CallStep :=
  let document := callDocument call installed
  match upsertIdeaConfiguration env.sha256Hex store call.request.candidateId document replace with
  | .error error => ⟨.finished (reported (env.exceptionDetail error)), store, none, none⟩
  | .ok (configuration, next) => {
      phase := .launch installed configuration.configurationId false
      store := next
      link := (store.drafts.get call.request.candidateId).map fun draft => {
        draftId := call.request.candidateId
        title := call.source.title
        candidateJson := draft.candidateJson
        document, configuration }
      key := none }

/-- One step of `run_auto_test`. -/
def callProceed (call : ExecutorCall env) (store : ResearchStore) : CallStep :=
  let stay (phase : CallPhase) : CallStep := ⟨phase, store, none, none⟩
  match call.phase with
  | .install => match env.install call.request.definition with
      | .error message => stay (.finished
          ⟨.implementationBlocked, "rules_invalid", some (env.safeDetail message), none⟩)
      | .ok installed => stay (.readDraft installed)
  | .readDraft installed =>
      match (store.drafts.get call.request.candidateId).bind (·.configurationId) with
      | none => stay (.link installed false)
      | some configurationId => stay (.readConfiguration installed configurationId)
  | .readConfiguration installed configurationId =>
      stay (afterConfiguration call.request.rebuild
        (env.sha256Hex (callDocument call installed).canonicalJson) installed
        (store.configurations.get configurationId))
  | .link installed replace => linkStep call store installed replace
  | .launch installed configurationId repeated =>
      ⟨.launched installed configurationId repeated, store, none, some
        (campaignIdempotencyKey call.request.candidateId installed.strategyId
          call.request.attempt)⟩
  | .launched installed configurationId repeated =>
      stay (.launched installed configurationId repeated)
  | .finished outcome => stay (.finished outcome)

/-- A launch that reported an error is repeated once, under the same key. -/
def afterInvocationError : CallPhase → CallPhase
  | .launched installed configurationId false => .launch installed configurationId true
  | .launched _ _ true => .finished (reported "research submission outcome is unknown")
  | phase => phase

def endedCall (outcome : AutoTestOutcome) : CallPhase → CallPhase
  | .finished earlier => .finished earlier
  | _ => .finished outcome

def callStep (call : ExecutorCall env) (store : ResearchStore) : CallInput → CallStep
  | .proceed => callProceed call store
  | .invocationError => ⟨afterInvocationError call.phase, store, none, none⟩
  | .ended outcome => ⟨endedCall outcome call.phase, store, none, none⟩

end Call

/-! ## The system -/

inductive CampaignAction where
  | proceed
  | raised (detail : String)
  | passEnds
  | passBreaks
  | exit
  | start
  | call (index : Nat) (input : CallInput)
  | request (request : CampaignRequest)
  | append (request : Nat)
  | saveDraft (draftId title now : String)
  | setPacket (draftId candidateJson : String)
  | deleteDraft (draftId : String)
  | linkDraft (draftId : String) (document : ConfigurationDocument)
  deriving DecidableEq

section System
variable {env}

def editStore (store : ResearchStore) (edited : Except LaunchError DraftTable) : ResearchStore :=
  match edited with
  | .ok drafts => { store with drafts := drafts }
  | .error _ => store

def advanceCall (system : CampaignSystem env) (index : Nat) (input : CallInput) :
    CampaignSystem env :=
  match system.calls[index]? with
  | none => system
  | some call =>
      let moved := callStep call system.store input
      { system with
        store := moved.store
        calls := system.calls.set index { call with phase := moved.phase }
        links := moved.link.toList ++ system.links
        launches := (moved.key.map fun key => (index, key)).toList ++ system.launches }

def advancePass (system : CampaignSystem env) : CampaignSystem env :=
  let moved := passStep system
  { system with
    phase := moved.phase
    log := system.log ++ moved.event.toList
    calls := system.calls ++ moved.call.toList }

def appendRequest (system : CampaignSystem env) (index : Nat) : CampaignSystem env :=
  match system.requests[index]? with
  | some (event :: rest) => { system with
      log := system.log ++ [event]
      requests := system.requests.set index rest }
  | _ => system

def campaignStep (system : CampaignSystem env) : CampaignAction → CampaignSystem env
  | .proceed => advancePass system
  | .raised detail => { system with phase := raisedPhase detail system.phase }
  | .passEnds => { system with phase := endedPhase system.phase }
  | .passBreaks => { system with phase := brokenPhase system.phase }
  | .exit => { system with phase := .down }
  | .start => { system with phase := startedPhase system.log system.phase }
  | .call index input => advanceCall system index input
  | .request request => { system with
      requests := system.requests ++ [requestedEvents system.log request] }
  | .append index => appendRequest system index
  | .saveDraft draftId title now => { system with
      store := editStore system.store (IdeaDraftRepository.save system.store.drafts draftId title now) }
  | .setPacket draftId candidateJson => { system with
      store := editStore system.store
        (IdeaDraftRepository.setCandidatePacket system.store.drafts draftId candidateJson) }
  | .deleteDraft draftId => { system with
      store := editStore system.store (IdeaDraftRepository.delete system.store.drafts draftId) }
  | .linkDraft draftId document => { system with
      store := match upsertIdeaConfiguration env.sha256Hex system.store draftId document false with
        | .ok linked => linked.2
        | .error _ => system.store }

/-- Any research database, an empty event log, and no campaign process yet. -/
def startSystem (env : CampaignEnvironment) (store : ResearchStore) : CampaignSystem env where
  store := store
  log := []
  phase := .down
  calls := []
  requests := []
  links := []
  launches := []

end System

end QuantFactory.Campaign
