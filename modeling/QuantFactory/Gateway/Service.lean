import QuantFactory.Library.RequestLog
import QuantFactory.Campaign.Drafts
import QuantFactory.Campaign.Events

/-!
# The agent gateway

`AgentResearchGateway.handle` of `agent_gateway/service.py` and the tables of
`agent_gateway/store.py`.  A state-changing operation is carried out by writes in
transactions of their own, read before they are made; the audit row comes last.
-/

set_option autoImplicit false

namespace QuantFactory.Gateway

open QuantFactory.Library QuantFactory.Python QuantFactory.Launch QuantFactory.Campaign

/-! ## Requests -/

section Requests
variable {F : Type}

structure GatewayIdentity where
  agentId : String
  transport : String
  authorityLevel : Nat
  peerUid : Option Int
  deriving DecidableEq

structure GatewayRequest (F : Type) where
  requestId : String
  operation : String
  arguments : Entries F
  payload : Option String

structure GatewayCall (F : Type) where
  request : GatewayRequest F
  identity : GatewayIdentity
  now : String

structure GatewayResponse (F : Type) where
  requestId : String
  outcome : Except GatewayError (PyValue F)

def failure (requestId code message : String) : GatewayResponse F :=
  ⟨requestId, .error ⟨code, message⟩⟩

/-- The operations of `_STATE_CHANGING`. -/
inductive StateChange where
  | candidateSubmit | researchNoteAdd | runRequest | campaignRequeue | campaignRetest
  | campaignPause | campaignResume
  deriving DecidableEq

def stateChange? (operation : String) : Option StateChange :=
  [("candidate.submit", .candidateSubmit), ("research.note.add", .researchNoteAdd),
    ("run.request", .runRequest), ("campaign.requeue", .campaignRequeue),
    ("campaign.retest", .campaignRetest), ("campaign.pause", .campaignPause),
    ("campaign.resume", .campaignResume)].lookup operation

def operationLevels : List (String × Nat) :=
  [("bootstrap", 0), ("context.get", 0), ("prior.search", 0), ("candidate.list", 0),
    ("candidate.status", 0), ("candidate.get", 0), ("run.status", 0), ("run.results", 0),
    ("run.evidence", 0), ("lineage.get", 0), ("campaign.status", 0),
    ("campaign.control_status", 0), ("run.trades", 0), ("data.files", 0), ("data.download", 0),
    ("campaign.requeue", 1), ("campaign.retest", 1), ("campaign.pause", 1),
    ("campaign.resume", 1), ("candidate.validate", 1), ("candidate.submit", 1),
    ("research.note.add", 1), ("run.request", 2)]

/-- What a handler raises: a `GatewayError`, a `KeyError` or `ValueError`, or anything else. -/
inductive Raised where
  | gateway (error : GatewayError)
  | validation (message : String)
  | other
  deriving DecidableEq

structure Lineage where
  parentCandidateId : String
  parentRunId : String
  changeReason : String
  evidenceCited : String
  ruleChanged : String
  materialDifference : String
  falsification : String
  boundedSearchSpace : String
  deriving DecidableEq

end Requests

/-! ## The tables -/

structure CandidateIdentity where
  candidateId : String
  contentHash : String
  canonicalJson : String
  createdBy : String

structure ResearchNote where
  candidateId : String
  agentId : String
  note : String
  deriving DecidableEq

structure CampaignControl where
  paused : Bool
  actor : String
  reason : Option String
  createdAt : String

structure GatewayWorld where
  drafts : DraftTable
  runIds : List String
  identities : List CandidateIdentity
  lineages : List (String × Lineage)
  notes : List ResearchNote
  events : CampaignLog
  control : List CampaignControl

/-- `campaign_control_state()["paused"]`. -/
def GatewayWorld.paused (world : GatewayWorld) : Bool :=
  (world.control.getLast?.map (·.paused)).getD false

inductive GatewayWrite where
  | drafts (next : DraftTable)
  | candidate (identity : CandidateIdentity) (lineage : Option Lineage)
  | note (row : ResearchNote)
  | event (row : CampaignEvent)
  | control (row : CampaignControl)

def GatewayWrite.apply : GatewayWrite → GatewayWorld → GatewayWorld
  | .drafts next, world => { world with drafts := next }
  | .candidate identity lineage, world =>
      { world with
        identities := world.identities ++ [identity]
        lineages := world.lineages ++
          (lineage.map fun lineage => (identity.candidateId, lineage)).toList }
  | .note row, world => { world with notes := world.notes ++ [row] }
  | .event row, world => { world with events := world.events ++ [row] }
  | .control row, world => { world with control := world.control ++ [row] }

structure AuditRow (F : Type) where
  requestId : String
  agentId : String
  transport : String
  peerUid : Option Int
  operation : String
  candidateId : Option String
  runId : Option String
  authorityLevel : Nat
  accepted : Bool
  reasonCode : String
  parentLineage : Option Lineage
  response : GatewayResponse F

/-! ## What the handlers call -/

structure SubmittedPacket (F : Type) where
  valid : Bool
  canonicalJson : String
  title : String
  /-- The `ValueError` of the import or of a text the model leaves out. -/
  refused : Option String
  validation : PyValue F

structure GatewayEnvironment (F : Type) where
  /-- `str(value)` of what is not a text. -/
  str : PyValue F → String
  lower : String → String
  sha256Hex : String → String
  secretValue : String → Bool
  /-- `parse_candidate_packet`, `_reject_secret_material` and `validate_candidate_packet`. -/
  readPacket : String → Except Raised (SubmittedPacket F)
  hasRunLauncher : Bool
  /-- The order SQLite gives the rows of `latest_campaign_events` in: its query has none. -/
  rowOrder : List CampaignEvent → List CampaignEvent
  rowOrder_perm : ∀ rows, (rowOrder rows).Perm rows
  read : GatewayWorld → GatewayCall F → Except Raised (PyValue F)

section Handlers
variable {F : Type} [PyFloat F] (env : GatewayEnvironment F)

def text : Option (PyValue F) → String
  | none => ""
  | some .none => ""
  | some (.str value) => strip value
  | some value => strip (env.str value)

def boundedText (value : Option (PyValue F)) (label : String) (maximum : Nat) :
    Except Raised String :=
  let text := text env value
  if text.isEmpty || maximum < text.length then
    .error (.gateway ⟨"invalid_text", s!"{label} must contain 1 to {maximum} characters"⟩)
  else .ok text

def identifier (call : GatewayCall F) (argument label : String) : Except Raised String := do
  let text ← boundedText env (call.request.arguments.lookup argument) s!"{label}_id" 128
  if text.toList.all fun c => c.isAlphanum || c == '_' || c == '-' then .ok text
  else .error (.gateway ⟨"invalid_identifier", s!"{label} identity is invalid"⟩)

def requiredPayload (call : GatewayCall F) : Except Raised String :=
  match call.request.payload with
  | none => .error (.gateway ⟨"payload_required", "operation requires a non-empty text payload"⟩)
  | some payload =>
      if isBlank payload then
        .error (.gateway ⟨"payload_required", "operation requires a non-empty text payload"⟩)
      else .ok payload

def lineageFields : List String :=
  ["parent_candidate_id", "parent_run_id", "change_reason", "evidence_cited", "rule_changed",
    "material_difference", "falsification", "bounded_search_space"]

def lineageArgument (call : GatewayCall F) : Except Raised (Option Lineage) :=
  match call.request.arguments.lookup "lineage" with
  | none => .ok none
  | some .none => .ok none
  | some (.dict []) => .ok none
  | some (.dict entries) =>
      if entries.all fun entry => lineageFields.contains entry.1 then
        let field (name : String) := text env (entries.lookup name)
        .ok (some ⟨field "parent_candidate_id", field "parent_run_id", field "change_reason",
          field "evidence_cited", field "rule_changed", field "material_difference",
          field "falsification", field "bounded_search_space"⟩)
      else .error (.gateway ⟨"lineage_invalid", "Candidate lineage contains unsupported fields"⟩)
  | some _ => .error (.gateway ⟨"lineage_invalid", "Candidate lineage must be an object"⟩)

def Lineage.required (lineage : Lineage) : List (String × String) :=
  [("change_reason", lineage.changeReason), ("evidence_cited", lineage.evidenceCited),
    ("rule_changed", lineage.ruleChanged), ("material_difference", lineage.materialDifference),
    ("falsification", lineage.falsification),
    ("bounded_search_space", lineage.boundedSearchSpace)]

def validatedLineage (world : GatewayWorld) (call : GatewayCall F) :
    Except Raised (Option Lineage) := do
  match ← lineageArgument env call with
  | none => .ok none
  | some lineage =>
      if lineage.parentCandidateId.isEmpty && lineage.parentRunId.isEmpty then
        .error (.gateway ⟨"lineage_invalid",
          "child Candidate requires a parent Candidate or run"⟩)
      else
        for (name, value) in lineage.required do
          let _ ← boundedText env (some (.str value)) name 1000
        if !lineage.parentCandidateId.isEmpty &&
            (world.drafts.get lineage.parentCandidateId).isNone then
          .error (.gateway ⟨"lineage_invalid", "parent Candidate was not found"⟩)
        else if !lineage.parentRunId.isEmpty && !world.runIds.contains lineage.parentRunId then
          .error (.gateway ⟨"lineage_invalid", "parent run was not found"⟩)
        else .ok (some lineage)

abbrev Handled (F : Type) := Carried GatewayWorld (Except Raised (PyValue F))

def refuse (raised : Raised) : Handled F := ⟨[], fun _ => .error raised⟩

def write (writes : List GatewayWrite) (answer : GatewayWorld → Except Raised (PyValue F)) :
    Handled F :=
  ⟨writes.map GatewayWrite.apply, answer⟩

def saveCandidateIdea (drafts : DraftTable) (candidateId now : String)
    (packet : SubmittedPacket F) : Except Raised DraftTable :=
  match packet.refused with
  | some message => .error (.validation message)
  | none => match drafts.get candidateId with
      | some existing =>
          if existing.candidateJson ≠ packet.canonicalJson then
            .error (.validation "candidate identity already has different content")
          else .ok drafts
      | none =>
          match IdeaDraftRepository.save drafts candidateId packet.title now >>= fun saved =>
              IdeaDraftRepository.setCandidatePacket saved candidateId packet.canonicalJson with
          | .ok saved => .ok saved
          | .error error => .error (.validation error.message)

def submitted (candidateId : String) (duplicate : Bool) (packet : SubmittedPacket F) :
    PyValue F :=
  .dict [("candidate_id", .str candidateId), ("duplicate", .bool duplicate),
    ("validation", packet.validation)]

/-- `persist_submitted_candidate`.  A `candidate_id` that another content already has makes
the last of its three transactions raise. -/
def persistSubmittedCandidate (world : GatewayWorld) (call : GatewayCall F)
    (packet : SubmittedPacket F) (identity : CandidateIdentity) (lineage : Option Lineage) :
    Handled F :=
  match saveCandidateIdea world.drafts identity.candidateId call.now packet with
  | .error raised => refuse raised
  | .ok imported =>
      match IdeaDraftRepository.save imported identity.candidateId packet.title call.now with
      | .error error => write [.drafts imported] fun _ => .error (.validation error.message)
      | .ok saved =>
          if world.identities.any fun row => row.candidateId = identity.candidateId then
            write [.drafts imported, .drafts saved] fun _ => .error .other
          else write [.drafts imported, .drafts saved, .candidate identity lineage] fun _ =>
            .ok (submitted identity.candidateId false packet)

def candidateSubmit (world : GatewayWorld) (call : GatewayCall F) : Handled F :=
  match requiredPayload call >>= env.readPacket with
  | .error raised => refuse raised
  | .ok packet =>
      if !packet.valid then
        refuse (.gateway ⟨"candidate_invalid", "Candidate failed QF Candidate v1 validation"⟩)
      else
        let contentHash := env.sha256Hex packet.canonicalJson
        let candidateId := "qfc_" ++ String.ofList (contentHash.toList.take 32)
        match world.identities.find? fun row => row.contentHash = contentHash with
        | some existing => write [] fun _ => .ok (submitted existing.candidateId true packet)
        | none => match validatedLineage env world call with
            | .error raised => refuse raised
            | .ok lineage => persistSubmittedCandidate world call packet
                ⟨candidateId, contentHash, packet.canonicalJson, call.identity.agentId⟩ lineage

def noteAdd (world : GatewayWorld) (call : GatewayCall F) : Handled F :=
  match identifier env call "candidate_id" "candidate" with
  | .error raised => refuse raised
  | .ok candidateId => match requiredPayload call with
      | .error raised => refuse raised
      | .ok note =>
          if env.secretValue note then
            refuse (.gateway ⟨"secret_material_denied", "secret-like material is not accepted"⟩)
          else if 4000 < note.length then
            refuse (.gateway ⟨"note_too_large", "research note exceeds 4,000 characters"⟩)
          else if (world.drafts.get candidateId).isNone then
            refuse (.gateway ⟨"not_found", "Candidate was not found"⟩)
          else write [.note ⟨candidateId, call.identity.agentId, note⟩] fun world =>
            .ok (.dict [("candidate_id", .str candidateId),
              ("note_id", .int world.notes.length)])

def runRequest (call : GatewayCall F) : Handled F :=
  let message := "Runs start automatically for every valid idea that has a rule_spec; " ++
    "submit or update the idea instead."
  if !env.hasRunLauncher then refuse (.gateway ⟨"run_unavailable", message⟩)
  else match identifier env call "candidate_id" "candidate" with
    | .error raised => refuse raised
    | .ok _ => refuse (.gateway ⟨"campaign_inactive", message⟩)

def optionalText : Option String → PyValue F
  | none => .none
  | some text => .str text

def eventDocument : Option CampaignEvent → PyValue F
  | none => .none
  | some event => .dict [("candidate_id", .str event.candidateId),
      ("state", .str event.state.value), ("reason_code", .str event.reasonCode),
      ("reason_detail", optionalText event.reasonDetail),
      ("packet_sha256", optionalText event.packetSha256), ("run_id", optionalText event.runId)]

/-- `campaign.requeue`. -/
def campaignRequeue (world : GatewayWorld) (call : GatewayCall F) : Handled F :=
  match identifier env call "candidate_id" "candidate" with
  | .error raised => refuse raised
  | .ok candidateId => match requeueInterrupted world.events candidateId with
      | .error error => refuse (.gateway error)
      | .ok events => write (events.map .event) fun world =>
          .ok (.dict [("candidate_id", .str candidateId),
            ("latest_event", eventDocument (latestCampaignEvent world.events candidateId))])

def truthy : Option (PyValue F) → Bool
  | none => false
  | some .none => false
  | some (.bool value) => value
  | some (.int value) => value != 0
  | some (.float value) => !PyFloat.eq value (PyFloat.literal 0)
  | some (.str value) => !value.isEmpty
  | some (.list items) => !items.isEmpty
  | some (.dict entries) => !entries.isEmpty

/-- `str(value) if value else ""`. -/
def reasonText (value : Option (PyValue F)) : String :=
  if truthy value then
    match value with
    | some (.str text) => text
    | some other => env.str other
    | none => ""
  else ""

/-- The idea a retest names; `all_settled` names all of them. -/
def retestCandidate (call : GatewayCall F) : Except Raised (Option String) :=
  if truthy (call.request.arguments.lookup "all_settled") then .ok none
  else (identifier env call "candidate_id" "candidate").map some

/-- `campaign.retest`.  The events are appended in `event_id` order, but `queued` and
`latest_event` follow the rows as they are listed. -/
def campaignRetest (world : GatewayWorld) (call : GatewayCall F) : Handled F :=
  match retestCandidate env call with
  | .error raised => refuse raised
  | .ok candidateId =>
      match retestSettled world.events candidateId
          (reasonText env (call.request.arguments.lookup "reason")) with
      | .error error => refuse (.gateway error)
      | .ok events =>
          let queued := (env.rowOrder events).map (·.candidateId)
          write (events.map .event) fun world =>
            .ok (.dict [("count", .int queued.length),
              ("queued", .list (queued.map .str)),
              ("latest_event", eventDocument (queued.head?.bind
                (latestCampaignEvent world.events)))])

def controlDocument (control : Option CampaignControl) : PyValue F :=
  match control with
  | none => .dict [("paused", .bool false), ("actor", .none), ("reason", .none),
      ("created_at", .none)]
  | some row => .dict [("paused", .bool row.paused), ("actor", .str row.actor),
      ("reason", optionalText row.reason), ("created_at", .str row.createdAt)]

def setCampaignPaused (world : GatewayWorld) (call : GatewayCall F) (paused : Bool) :
    Handled F :=
  let reason := call.request.arguments.lookup "reason"
  let row : CampaignControl := ⟨paused, call.identity.agentId,
    if truthy reason then
      some (String.ofList ((strip (reasonText env reason)).toList.take 500))
    else none, call.now⟩
  write (if world.paused ≠ paused then [.control row] else []) fun world =>
    .ok (controlDocument world.control.getLast?)

def stateChangeHandler (world : GatewayWorld) (call : GatewayCall F) : StateChange → Handled F
  | .candidateSubmit => candidateSubmit env world call
  | .researchNoteAdd => noteAdd env world call
  | .runRequest => runRequest env call
  | .campaignRequeue => campaignRequeue env world call
  | .campaignRetest => campaignRetest env world call
  | .campaignPause => setCampaignPaused env world call true
  | .campaignResume => setCampaignPaused env world call false

def dispatch (world : GatewayWorld) (call : GatewayCall F) : Handled F :=
  match operationLevels.lookup call.request.operation with
  | none => refuse (.gateway ⟨"operation_not_allowed", "gateway operation is not allowed"⟩)
  | some required =>
      if call.identity.authorityLevel < required then
        refuse (.gateway ⟨"authority_denied", "agent authority does not permit this operation"⟩)
      else match stateChange? call.request.operation with
        | some change => stateChangeHandler env world call change
        | none => write [] fun world => env.read world call

/-! ## Serving and recording -/

def safeValidationMessage (message : String) : String :=
  let message :=
    if 300 < message.length then String.ofList (message.toList.take 297) ++ "..." else message
  let lowered := (env.lower message).toList
  if ["token=", "api_key", "password", "secret="].any fun token =>
      decide (token.toList <:+: lowered) then
    "request failed validation; sensitive detail was redacted"
  else if message.isEmpty then "request failed validation" else message

def raisedError : Raised → GatewayError
  | .gateway error => error
  | .validation message => ⟨"invalid_request", safeValidationMessage env message⟩
  | .other => ⟨"internal_error", "gateway operation failed without exposing internal details"⟩

def respond (call : GatewayCall F) (outcome : Except Raised (PyValue F)) : GatewayResponse F :=
  match outcome with
  | .ok result => ⟨call.request.requestId, .ok result⟩
  | .error raised => ⟨call.request.requestId, .error (raisedError env raised)⟩

/-- The `try` of `handle`, up to the audit. -/
def carryOut (world : GatewayWorld) (call : GatewayCall F) :
    Carried GatewayWorld (GatewayResponse F) :=
  match lineageArgument env call with
  | .error raised => ⟨[], fun _ => respond env call (.error raised)⟩
  | .ok _ =>
      let handled := dispatch env world call
      ⟨handled.writes, fun world => respond env call (handled.answer world)⟩

def nonEmpty (text : String) : Option String := if text.isEmpty then none else some text

/-- The id an audit row names: that of the result, or else that of the arguments. -/
def namedId (call : GatewayCall F) (response : GatewayResponse F) (name : String) :
    Option String :=
  let argument := nonEmpty (text env (call.request.arguments.lookup name))
  match response.outcome with
  | .ok (.dict entries) => (nonEmpty (text env (entries.lookup name))).or argument
  | _ => argument

/-- The row `store.audit` inserts. -/
def auditRow (call : GatewayCall F) (response : GatewayResponse F) : AuditRow F where
  requestId := call.request.requestId
  agentId := call.identity.agentId
  transport := call.identity.transport
  peerUid := call.identity.peerUid
  operation := call.request.operation
  candidateId := namedId env call response "candidate_id"
  runId := namedId env call response "run_id"
  authorityLevel := call.identity.authorityLevel
  accepted := response.outcome.isOk
  reasonCode := match response.outcome with
    | .ok _ => "accepted"
    | .error error => error.code
  parentLineage := match response.outcome with
    | .ok _ => (lineageArgument env call).toOption.join
    | .error _ => none
  response := response

def AuditRow.sameBinding (row : AuditRow F) (call : GatewayCall F) : Bool :=
  row.agentId = call.identity.agentId && row.transport = call.identity.transport &&
    row.operation = call.request.operation

def replay (row : AuditRow F) (call : GatewayCall F) : GatewayResponse F :=
  if row.sameBinding call then row.response
  else failure call.request.requestId "request_conflict"
    "request identity is already bound to another caller or operation"

def gateway : Server GatewayWorld (GatewayCall F) (GatewayResponse F) (AuditRow F) String where
  key call := call.request.requestId
  logged call := (stateChange? call.request.operation).isSome
  carry := carryOut env
  rowKey := AuditRow.requestId
  row := auditRow env
  keyed _ _ := rfl
  replay := replay

end Handlers

end QuantFactory.Gateway
