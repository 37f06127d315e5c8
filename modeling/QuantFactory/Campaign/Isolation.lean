import QuantFactory.Campaign.CandidatePacket
import QuantFactory.Campaign.Waiting

/-!
# One pass with the exceptions of its calls

`_loop`, `run_once`, `_queue` and `_process` of `agent_gateway/auto_campaign.py`
for one pass, with the class of every exception that the packet checks, the
rule-spec reader, the strategy adapter, the dataset table and the executor raise
and the handler that stands in its way.  The two databases work, and nobody else
writes during the pass; the pass among other writers is the campaign of
`CampaignSystem`.
-/

set_option autoImplicit false

namespace QuantFactory.Campaign

open QuantFactory.Library QuantFactory.Python

/-! ## The event table -/

/-- A row of `campaign_events`: its state is any text. -/
structure EventRow where
  candidateId : String
  state : String
  reasonCode : Option String
  reasonDetail : Option String
  packetSha256 : Option String
  runId : Option String
  deriving DecidableEq, Repr

namespace EventRow

/-- `state in OPEN_STATES`. -/
def isOpen (row : EventRow) : Bool := row.state = "queued" || row.state = "running"

/-- `state in RESULT_STATES`. -/
def hasResult (row : EventRow) : Bool := row.state = "survivor" || row.state = "screened_out"

def isStart (candidateId packetSha256 : String) (row : EventRow) : Bool :=
  row.candidateId = candidateId && row.packetSha256 = some packetSha256 && row.state = "running"

def isPacketFix (candidateId packetSha256 : String) (row : EventRow) : Bool :=
  row.candidateId = candidateId && row.packetSha256 = some packetSha256 &&
    row.reasonCode = some requeuedAfterFix

end EventRow

/-- `latest_campaign_event`. -/
def latestRow (rows : List EventRow) (candidateId : String) : Option EventRow :=
  lastWhere (fun row => decide (row.candidateId = candidateId)) rows

/-- `latest_campaign_events().values()`. -/
def latestRows (rows : List EventRow) : List EventRow := lastOfEach EventRow.candidateId rows

/-- What a value becomes when it is bound to a parameter of an `INSERT`. -/
inductive SqlValue where
  | null
  | stored (text : String)
  | tooLarge
  | unsupported
  deriving DecidableEq, Repr

def SqlValue.bound : SqlValue → Except Raised (Option String)
  | .null => .ok none
  | .stored text => .ok (some text)
  | .tooLarge =>
      .error ⟨.other, "OverflowError", "Python int too large to convert to SQLite INTEGER"⟩
  | .unsupported => .error ⟨.sqliteError, "ProgrammingError", "type is not supported"⟩

/-- The four attributes `_process` reads of what the executor returned. -/
structure Reported where
  state : SqlValue
  reasonCode : SqlValue
  reasonDetail : SqlValue
  runId : SqlValue

/-! ## The calls of a pass -/

section Calls
variable (F : Type) [PyFloat F]

structure PassEnvironment where
  runtime : PacketRuntime F
  RuleSpec : Type
  Definition : Type
  Profile : Type
  Outcome : Type
  /-- A call may behave differently for every draft, so each names the draft it is made for. -/
  ruleSpecReader : String → Entries F → Except Raised (Option RuleSpec)
  /-- `adapter.definition` of a candidate id, a title, the rules and the variables. -/
  definition : String → String → RuleSpec → PyValue F → Except Raised Definition
  strategyId : Definition → Except Raised String
  datasetProfile : String → String → Option String → Except Raised (Option Profile)
  /-- The executor, given a candidate id, the definition, the profile, the attempt and whether
  to rebuild; it changes the research database. -/
  executor : String → Definition → Profile → Nat → Bool → ResearchStore →
    Except Raised Outcome × ResearchStore
  reported : Outcome → Except Raised Reported
  safeDetail : String → String
  /-- `ORDER BY updated_at DESC, draft_id`. -/
  recentFirst : List IdeaDraft → List IdeaDraft
  interrupted : IdeaDraft → Bool

end Calls

variable {F : Type} [PyFloat F] (env : PassEnvironment F)

structure PassState where
  rows : List EventRow
  store : ResearchStore

def PassState.append (state : PassState) (row : EventRow) : PassState :=
  { state with rows := state.rows ++ [row] }

structure QueuedDraft (F : Type) where
  draft : IdeaDraft
  packet : Entries F
  invalid : Option String

def packetDigest (draft : IdeaDraft) : String := env.runtime.sha256Hex draft.candidateJson

def draftRow (draft : IdeaDraft) (state reasonCode : String) (reasonDetail : Option String) :
    EventRow where
  candidateId := draft.draftId
  state := state
  reasonCode := some reasonCode
  reasonDetail := reasonDetail
  packetSha256 := some (packetDigest env draft)
  runId := none

/-! ## `_queue` -/

section Queue
variable (seen : List EventRow)

def settledCandidates : List String :=
  ((latestRows seen).filter fun row =>
    !(row.isOpen || row.state = "duplicate_closed")).map EventRow.candidateId

/-- A duplicate is decided unless the idea it names closed without a result. -/
def ownerStands (event : EventRow) : Bool :=
  match if event.state = "duplicate_closed" then latestRow seen (event.reasonDetail.getD "None")
      else none with
  | none => true
  | some owner => owner.isOpen || owner.hasResult

/-- `_queue` looks at the packet of a draft: it has one, the draft is no hand-built
setup, and the packet is not decided already. -/
def isDue (draft : IdeaDraft) : Bool :=
  let event := latestRow seen draft.draftId
  !(draft.candidateJson.isEmpty || (draft.configurationId.isSome && event.isNone)) &&
    !event.any fun event => !event.isOpen && event.packetSha256 = some (packetDigest env draft) &&
      ownerStands seen event

def waitingRow (draft : IdeaDraft) : EventRow := draftRow env draft "queued" "waiting" none

def waitingRows (draft : IdeaDraft) : List EventRow :=
  if (latestRow seen draft.draftId).any EventRow.isOpen then [] else [waitingRow env draft]

/-- The loop of `_queue` over the drafts: the events it appends, and the queue. -/
def queueDrafts : List IdeaDraft → List EventRow × Except Raised (List (QueuedDraft F))
  | [] => ([], .ok [])
  | draft :: rest =>
      if isDue env seen draft then
        match eligiblePacket env.runtime draft.candidateJson with
        | .error raised => ([], .error raised)
        | .ok none => queueDrafts rest
        | .ok (some (packet, invalid)) =>
            let later := queueDrafts rest
            (waitingRows env seen draft ++ later.1,
              later.2.map fun queued => ⟨draft, packet, invalid⟩ :: queued)
      else queueDrafts rest

end Queue

/-- The drafts `_queue` lists. -/
def listedDrafts (state : PassState) : List IdeaDraft :=
  IdeaDraftRepository.listSorted state.store.drafts (settledCandidates state.rows)

/-! ## `_process` -/

section Process
variable (idea : QueuedDraft F)

/-- `record` of a closing state. -/
def closingRow (state reasonCode reasonDetail : String) : EventRow :=
  draftRow env idea.draft state reasonCode (some reasonDetail)

def invalidRules (message : String) : EventRow :=
  closingRow env idea "implementation_blocked" "rules_invalid"
    ("The rule_spec is invalid: " ++ env.safeDetail message)

def missingRules : EventRow :=
  closingRow env idea "implementation_blocked" "rules_missing"
    "The idea has no rule_spec, so no strategy can be generated from it."

/-- `packet.get("variables") or {}`. -/
def packetVariables : PyValue F :=
  ((idea.packet.lookup "variables").filter Launch.truthy).getD (.dict [])

/-- The body of the `try` around the rules. -/
def buildDefinition : Except Raised (Option env.Definition) := do
  match idea.invalid with
  | some message => .error (.value message)
  | none => do
      let ruleSpec ← env.ruleSpecReader idea.draft.draftId idea.packet
      match ruleSpec with
      | none => .ok none
      | some ruleSpec => do
          let definition ← env.definition idea.draft.draftId idea.draft.title ruleSpec
            (packetVariables idea)
          .ok (some definition)

/-- The rules of the idea as a definition, or the event that closes it; only `ValueError` is
handled. -/
def ideaDefinition : Except Raised (EventRow ⊕ env.Definition) :=
  match buildDefinition env idea with
  | .error raised =>
      if raised.base = .valueError then .ok (.inl (invalidRules env idea raised.text))
      else .error raised
  | .ok none => .ok (.inl (missingRules env idea))
  | .ok (some definition) => .ok (.inr definition)

/-- `state not in OPEN_STATES | RESULT_STATES`. -/
def withoutResult (rows : List EventRow) : List String :=
  ((latestRows rows).filter fun row => !(row.isOpen || row.hasResult)).map EventRow.candidateId

/-- `earlier_owner_of_strategy`. -/
def earlierOwner (state : PassState) (strategyId : String) (market : String × String) :
    Except Raised (Option String) := do
  let configurationIds := (state.store.configurations.rows.filter fun row =>
    strategyId.isEmpty || row.strategyId = strategyId).map (·.configurationId)
  let linked := (env.recentFirst state.store.drafts.rows).filter fun draft =>
    draft.configurationId.any (fun id => decide (id ∈ configurationIds)) &&
      draft.draftId ≠ idea.draft.draftId && draft.draftId ∉ withoutResult state.rows
  let markets ← collect (fun draft => draftMarket env.runtime draft.candidateJson) linked
  let owners := ((linked.zip markets).filter fun entry => entry.2 = some market).map Prod.fst
  .ok ((owners.insertionSort fun first second =>
    IdeaDraftRepository.creationLe first second).head?.map (·.draftId))

def noProfile (market : String × String) : EventRow :=
  closingRow env idea "implementation_blocked" "data_unavailable"
    ("No verified local dataset with recorded trading costs exists for " ++
      (if market.1.isEmpty then "an unnamed market" else market.1) ++ " at " ++
      (if market.2.isEmpty then "an unstated timeframe" else market.2) ++ ".")

structure TestStart (env : PassEnvironment F) where
  definition : env.Definition
  profile : env.Profile
  attempt : Nat
  rebuild : Bool

/-- `campaign_attempts` and `campaign_attempts_since_requeue`. -/
def attemptsOf (rows : List EventRow) : Nat :=
  rows.countP (·.isStart idea.draft.draftId (packetDigest env idea.draft))

def recentAttempts (rows : List EventRow) : Nat :=
  (afterLast (·.isPacketFix idea.draft.draftId (packetDigest env idea.draft)) rows).countP
    (·.isStart idea.draft.draftId (packetDigest env idea.draft))

def testStart (state : PassState) (definition : env.Definition) (profile : env.Profile) :
    TestStart env where
  definition := definition
  profile := profile
  attempt := attemptsOf env idea state.rows
  rebuild := (latestRow state.rows idea.draft.draftId).any fun row =>
    row.reasonCode = some requeuedAfterFix

def startTest (state : PassState) (definition : env.Definition) (profile : env.Profile) :
    EventRow ⊕ TestStart env :=
  let recent := recentAttempts env idea state.rows
  if maxAttempts ≤ recent then .inl (closingRow env idea "failed" "run_error"
    s!"The test was interrupted {recent} times before finishing and was not started again.")
  else .inr (testStart env idea state definition profile)

/-- The start date and the dataset of an idea that is no duplicate. -/
def selectData (state : PassState) (definition : env.Definition) (market : String × String) :
    Except Raised (EventRow ⊕ TestStart env) :=
  match packetRequestedStart env.runtime idea.packet with
  | .error raised =>
      if raised.base = .valueError then .ok (.inl (closingRow env idea "implementation_blocked"
        "rules_invalid" ("The start date is invalid: " ++ env.safeDetail raised.text)))
      else .error raised
  | .ok requestedStart => do
      let profile ← env.datasetProfile market.1 market.2 requestedStart
      match profile with
      | none => .ok (.inl (noProfile env idea market))
      | some profile => .ok (startTest env idea state definition profile)

/-- The part of `_process` before the test. -/
def prepareTest (state : PassState) : Except Raised (EventRow ⊕ TestStart env) := do
  match ← ideaDefinition env idea with
  | .inl row => .ok (.inl row)
  | .inr definition => do
      let strategyId ← env.strategyId definition
      let market ← packetMarket env.runtime idea.packet
      match ← earlierOwner env idea state strategyId market with
      | some owner => .ok (.inl (closingRow env idea "duplicate_closed" "same_rules" owner))
      | none => selectData env idea state definition market

/-- The event of what the executor reported; the state is `NOT NULL`. -/
def reportedRow (reported : Reported) : Except Raised EventRow := do
  let state ← reported.state.bound
  let reasonCode ← reported.reasonCode.bound
  let reasonDetail ← reported.reasonDetail.bound
  let runId ← reported.runId.bound
  match state with
  | none => .error ⟨.sqliteError, "IntegrityError",
      "NOT NULL constraint failed: campaign_events.state"⟩
  | some state => .ok {
      candidateId := idea.draft.draftId
      state, reasonCode, reasonDetail
      packetSha256 := some (packetDigest env idea.draft)
      runId }

def startedState (state : PassState) : PassState :=
  state.append (draftRow env idea.draft "running" "started" none)

def executedRow (result : Except Raised env.Outcome) : Except Raised EventRow := do
  let outcome ← result
  let reported ← env.reported outcome
  reportedRow env idea reported

/-- `self.executor(AutoTestRequest(…))`. -/
def execute (state : PassState) (start : TestStart env) :
    Except Raised env.Outcome × ResearchStore :=
  env.executor idea.draft.draftId start.definition start.profile start.attempt start.rebuild
    state.store

/-- `_process`. -/
def processDraft (state : PassState) : PassState × Except Raised Unit :=
  match prepareTest env idea state with
  | .error raised => (state, .error raised)
  | .ok (.inl row) => (state.append row, .ok ())
  | .ok (.inr start) =>
      let executed := execute env idea state start
      let tested := { startedState env idea state with store := executed.2 }
      match executedRow env idea executed.1 with
      | .error raised => (tested, .error raised)
      | .ok row => (tested.append row, .ok ())

/-! ## `run_once` and `_loop` -/

def failedRow (raised : Raised) : EventRow :=
  closingRow env idea "failed" "run_error" (env.safeDetail (raised.name ++ ": " ++ raised.text))

/-- `_process` with the handler of `run_once` around it. -/
def draftTurn (state : PassState) : PassState × Except Raised Unit :=
  match processDraft env idea state with
  | (next, .ok ()) => (next, .ok ())
  | (next, .error raised) =>
      if raised.isListed then (next.append (failedRow env idea raised), .ok ())
      else (next, .error raised)

end Process

def runTurns : List (QueuedDraft F) → PassState → PassState × Except Raised Unit
  | [], state => (state, .ok ())
  | idea :: rest, state =>
      if env.interrupted idea.draft then (state, .ok ())
      else match draftTurn env idea state with
        | (next, .ok ()) => runTurns rest next
        | (next, .error raised) => (next, .error raised)

def runOnce (state : PassState) : PassState × Except Raised Nat :=
  let queue := queueDrafts env state.rows (listedDrafts state)
  let listed := { state with rows := state.rows ++ queue.1 }
  match queue.2 with
  | .error raised => (listed, .error raised)
  | .ok queued =>
      let ran := runTurns env queued listed
      (ran.1, ran.2.map fun _ => queued.length)

/-- One round of `_loop`: the state its next round starts from, or nothing when the thread
has died. -/
def loopRound (state : PassState) : Option PassState :=
  match runOnce env state with
  | (next, .ok _) => some next
  | (next, .error raised) => if raised.isListed then some next else none

end QuantFactory.Campaign
