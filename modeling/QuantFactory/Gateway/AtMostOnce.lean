import QuantFactory.Gateway.Service
import QuantFactory.Python.Samples

/-!
# At most once

A state-changing request takes effect at most once, apart from the crashes that
fall between a write of it and its audit row, and a request that is in the audit
is answered from it.  A note is added again after such a crash, and the audit
does not hold the arguments a replay would have to be compared with.
-/

set_option autoImplicit false

namespace QuantFactory.Gateway

open QuantFactory.Library QuantFactory.Python QuantFactory.Campaign

section Gateway
variable {F : Type} [PyFloat F] (env : GatewayEnvironment F)

abbrev GatewayState := ServerState (gateway env)
abbrev GatewayAction (F : Type) := ServerAction GatewayWorld (GatewayCall F)

def changesState (call : GatewayCall F) : Prop :=
  (stateChange? call.request.operation).isSome = true

/-- A request served to its end has a row, from which it would be answered as it was. -/
theorem served_logged (state : GatewayState env) {call : GatewayCall F}
    (changing : changesState call) :
    ∃ row, (serverStep state (.serve call none)).log.get call.request.requestId = some row ∧
      answered state call = replay row call := by
  have logged : (gateway env).logged call = true := changing
  cases found : state.log.get call.request.requestId with
  | some row => exact ⟨row, serverStep_get_of_row found _, (pending_of_row logged found).2⟩
  | none =>
      refine ⟨auditRow env call (answered state call), logAfter_get_self logged found, ?_⟩
      simp [replay, AuditRow.sameBinding, auditRow]

/-- Over any run of requests, retries, crashes and changes from outside: a request id
takes effect at most once more than the server crashes between carrying it out and
recording it; a request served to its end is recorded with the response it is given; and
a request whose id is recorded changes nothing and is answered by the recorded response,
or refused when another caller, transport or operation repeats the id. -/
theorem requests_at_most_once (start : GatewayState env) (actions : List (GatewayAction F)) :
    (∀ requestId, occurrences (takesEffect requestId) start actions ≤
      occurrences (crashesAfterWrite requestId) start actions + 1) ∧
    (∀ before after call, actions = before ++ .serve call none :: after → changesState call →
      ∃ row, (run serverStep start actions).log.get call.request.requestId = some row ∧
        answered (run serverStep start before) call = replay row call) ∧
    (∀ call row, changesState call →
      (run serverStep start actions).log.get call.request.requestId = some row →
      (pending (run serverStep start actions) call).writes = [] ∧
        answered (run serverStep start actions) call =
          if row.sameBinding call then row.response
          else failure call.request.requestId "request_conflict"
            "request identity is already bound to another caller or operation") := by
  refine ⟨fun requestId => ?_, fun before after call shape changing => ?_,
    fun call row changing found => pending_of_row changing found⟩
  · have once := occurrences_takesEffect requestId actions start
    unfold effectsLeft at once
    split_ifs at once <;> omega
  · obtain ⟨row, found, given⟩ := served_logged env (run serverStep start before) changing
    refine ⟨row, ?_, given⟩
    rw [shape, run_append, run_cons]
    exact run_get_of_row found after

/-! ## Retries and replays -/

def findsItsWork (world : GatewayWorld) (call : GatewayCall F) : StateChange → Prop
  | .candidateSubmit => ∀ packet, requiredPayload call >>= env.readPacket = .ok packet →
      ∃ row ∈ world.identities, row.contentHash = env.sha256Hex packet.canonicalJson
  -- nothing in the notes says which request a note came from
  | .researchNoteAdd => False
  | .runRequest => True
  | .campaignRequeue => ∀ candidateId,
      identifier env call "candidate_id" "candidate" = .ok candidateId →
      ∀ latest, latestCampaignEvent world.events candidateId = some latest →
        wasInterrupted latest = false
  | .campaignRetest => ∀ candidateId, retestCandidate env call = .ok candidateId →
      ∀ targets, retestTargets world.events candidateId = .ok targets → targets = []
  | .campaignPause => world.paused = true
  | .campaignResume => world.paused = false

def FindsItsWork (world : GatewayWorld) (call : GatewayCall F) : Prop :=
  ∀ change, stateChange? call.request.operation = some change → findsItsWork env world call change

omit [PyFloat F] in
theorem candidateSubmit_writes {world : GatewayWorld} {call : GatewayCall F}
    (there : ∀ packet, requiredPayload call >>= env.readPacket = .ok packet →
      ∃ row ∈ world.identities, row.contentHash = env.sha256Hex packet.canonicalJson) :
    (candidateSubmit env world call).writes = [] := by
  unfold candidateSubmit
  cases read : requiredPayload call >>= env.readPacket with
  | error raised => rfl
  | ok packet =>
      obtain ⟨row, member, hash⟩ := there packet read
      cases found : world.identities.find? fun row =>
          row.contentHash = env.sha256Hex packet.canonicalJson with
      | none => exact absurd (List.find?_eq_none.mp found row member) (by simp [hash])
      | some existing =>
          dsimp only
          split_ifs
          · rfl
          · simp [found, write]

omit [PyFloat F] in
theorem campaignRequeue_writes {world : GatewayWorld} {call : GatewayCall F}
    (settled : ∀ candidateId, identifier env call "candidate_id" "candidate" = .ok candidateId →
      ∀ latest, latestCampaignEvent world.events candidateId = some latest →
        wasInterrupted latest = false) :
    (campaignRequeue env world call).writes = [] := by
  unfold campaignRequeue
  cases named : identifier env call "candidate_id" "candidate" with
  | error raised => rfl
  | ok candidateId =>
      cases latest : latestCampaignEvent world.events candidateId with
      | none => simp [requeueInterrupted, latest, refuse]
      | some event =>
          have finished := settled candidateId named event latest
          simp [requeueInterrupted, latest, finished, refuse]

theorem campaignRetest_writes {world : GatewayWorld} {call : GatewayCall F}
    (queued : ∀ candidateId, retestCandidate env call = .ok candidateId →
      ∀ targets, retestTargets world.events candidateId = .ok targets → targets = []) :
    (campaignRetest env world call).writes = [] := by
  unfold campaignRetest
  cases named : retestCandidate env call with
  | error raised => rfl
  | ok candidateId =>
      dsimp only
      cases asked : retestSettled world.events candidateId
          (reasonText env (call.request.arguments.lookup "reason")) with
      | error error => rfl
      | ok events =>
          simp only [retestSettled] at asked
          split_ifs at asked
          cases targets : retestTargets world.events candidateId with
          | error error => simp [targets, Except.map] at asked
          | ok rows =>
              obtain rfl := queued candidateId named rows targets
              have none : events = [] := by simpa [targets, Except.map] using asked.symm
              simp [none, write]

theorem setCampaignPaused_writes {world : GatewayWorld} {call : GatewayCall F} {paused : Bool}
    (there : world.paused = paused) : (setCampaignPaused env world call paused).writes = [] := by
  simp [setCampaignPaused, write, there]

omit [PyFloat F] in
theorem runRequest_writes (call : GatewayCall F) : (runRequest env call).writes = [] := by
  simp only [runRequest]
  split_ifs
  · rfl
  · split <;> rfl

theorem stateChangeHandler_writes {world : GatewayWorld} {call : GatewayCall F}
    {change : StateChange} (there : findsItsWork env world call change) :
    (stateChangeHandler env world call change).writes = [] := by
  cases change <;> simp only [findsItsWork] at there <;> simp only [stateChangeHandler]
  case candidateSubmit => exact candidateSubmit_writes env there
  case runRequest => exact runRequest_writes env call
  case campaignRequeue => exact campaignRequeue_writes env there
  case campaignRetest => exact campaignRetest_writes env there
  case campaignPause => exact setCampaignPaused_writes env there
  case campaignResume => exact setCampaignPaused_writes env there

theorem carryOut_writes {world : GatewayWorld} {call : GatewayCall F}
    (there : FindsItsWork env world call) : (carryOut env world call).writes = [] := by
  unfold carryOut
  cases lineageArgument env call with
  | error raised => rfl
  | ok lineage =>
      simp only [dispatch]
      cases operationLevels.lookup call.request.operation with
      | none => rfl
      | some required =>
          dsimp only
          split_ifs
          · rfl
          · cases operation : stateChange? call.request.operation with
            | none => rfl
            | some change => exact stateChangeHandler_writes env (there change operation)

abbrev GatewayStep := GatewayState env × GatewayAction F

def SameRequest (first again : GatewayCall F) : Prop :=
  again.request.operation = first.request.operation ∧
    again.request.arguments = first.request.arguments ∧
    again.request.payload = first.request.payload

def SameBinding (first again : GatewayCall F) : Prop :=
  again.request.operation = first.request.operation ∧
    again.identity.agentId = first.identity.agentId ∧
    again.identity.transport = first.identity.transport

/-- A later step of a run that repeats the id of an earlier one: as long as the id has no
audit row, a crash between a write of it and the row leaves nothing to write, and a
recorded id comes from the same caller exactly when it comes with the same command and
arguments. -/
def Repeats : GatewayStep env → GatewayStep env → Prop
  | (state, .serve cut (some count)), (later, .serve again _) =>
      crashesAfterWrite again.request.requestId state (.serve cut (some count)) = true →
        later.log.get again.request.requestId = none → FindsItsWork env later.world again
  | (state, .serve first none), (_, .serve again _) =>
      changesState first → state.log.get first.request.requestId = none →
        again.request.requestId = first.request.requestId →
        changesState again ∧ (SameBinding first again ↔ SameRequest first again)
  | _, _ => True

/-- The replay of a recorded request: the recorded response for the same command and
arguments, a refusal for others, and no effect. -/
def Replays : GatewayStep env → GatewayStep env → Prop
  | (state, .serve first none), (later, .serve again none) =>
      changesState first → state.log.get first.request.requestId = none →
        again.request.requestId = first.request.requestId →
        (pending later again).writes = [] ∧
        (SameRequest first again → answered later again = answered state first) ∧
        (¬ SameRequest first again → answered later again =
          failure again.request.requestId "request_conflict"
            "request identity is already bound to another caller or operation")
  | _, _ => True

theorem takesEffect_of_findsItsWork {state : GatewayState env} {requestId : String}
    {again : GatewayCall F} (there : FindsItsWork env state.world again) (crash : Option Nat) :
    takesEffect requestId state (.serve again crash) = false := by
  have nothing : (pending state again).writes = [] := by
    unfold pending
    split
    · rfl
    · exact carryOut_writes env there
  cases crash <;> simp [takesEffect, nothing]

/-- After a crash that repeats are prepared for, the id takes no effect any more. -/
theorem quiet_of_repeats {requestId : String} {earlier later : GatewayStep env}
    (repeats : Repeats env earlier later)
    (crashed : crashesAfterWrite requestId earlier.1 earlier.2 = true) :
    takesEffect requestId later.1 later.2 = false := by
  obtain ⟨state, cut⟩ := earlier
  obtain ⟨next, again⟩ := later
  rcases cut with ⟨cut, _ | count⟩ | change
  · exact absurd crashed Bool.false_ne_true
  · rcases again with ⟨again, crash⟩ | change
    · by_cases same : again.request.requestId = requestId
      · subst same
        cases found : next.log.get again.request.requestId with
        | none => exact takesEffect_of_findsItsWork env (repeats crashed found) crash
        | some row => exact takesEffect_of_row found _
      · cases crash <;> simp [takesEffect, gateway, same]
    · rfl
  · exact absurd crashed Bool.false_ne_true

theorem replays_of_row {state later : GatewayState env} {first again : GatewayCall F}
    (recorded : later.log.get first.request.requestId =
      some (auditRow env first (answered state first)))
    (sameId : again.request.requestId = first.request.requestId) (changing : changesState again)
    (bound : SameBinding first again ↔ SameRequest first again) :
    (pending later again).writes = [] ∧
      (SameRequest first again → answered later again = answered state first) ∧
      (¬ SameRequest first again → answered later again =
        failure again.request.requestId "request_conflict"
          "request identity is already bound to another caller or operation") := by
  obtain ⟨nothing, given⟩ := (requests_at_most_once env later []).2.2 again _ changing
    (sameId ▸ recorded)
  have binding : (auditRow env first (answered state first)).sameBinding again = true ↔
      SameBinding first again := by
    simp only [AuditRow.sameBinding, Bool.and_eq_true, decide_eq_true_eq, SameBinding]
    exact ⟨fun held => ⟨held.2.symm, held.1.1.symm, held.1.2.symm⟩,
      fun held => ⟨⟨held.2.1.symm, held.2.2.symm⟩, held.1.symm⟩⟩
  refine ⟨nothing, fun same => ?_, fun other => ?_⟩
  · rw [run_nil, if_pos (binding.mpr (bound.mpr same))] at given
    exact given
  · rw [run_nil, if_neg fun held => other (bound.mp (binding.mp held))] at given
    exact given

theorem replays_of_repeats {state : GatewayState env} {action : GatewayAction F}
    {rest : List (GatewayAction F)} {later : GatewayStep env}
    (member : later ∈ trace serverStep (serverStep state action) rest)
    (repeats : Repeats env (state, action) later) : Replays env (state, action) later := by
  obtain ⟨next, again⟩ := later
  rcases action with ⟨first, _ | count⟩ | change
  · rcases again with ⟨again, _ | count⟩ | change
    · intro changing fresh sameId
      obtain ⟨alsoChanging, bound⟩ := repeats changing fresh sameId
      have recorded : (logAfter state first).get first.request.requestId = _ :=
        @logAfter_get_self _ _ _ _ _ _ (gateway env) _ first changing fresh
      exact replays_of_row env (trace_get_of_row recorded member) sameId alsoChanging bound
    · trivial
    · trivial
  · trivial
  · trivial

end Gateway

/-! ## A note under one request id -/

section Sample

def sampleGateway : GatewayEnvironment WholeFloat where
  str _ := ""
  lower text := text
  sha256Hex text := text
  secretValue _ := false
  readPacket _ := .error .other
  hasRunLauncher := false
  rowOrder rows := rows
  rowOrder_perm _ := .refl _
  read _ _ := .error .other

def sampleDrafts : DraftTable :=
  (((Table.empty : DraftTable).insert ⟨"idea_00000001", "Opening gap", none, "1", ""⟩).bind
    fun drafts => drafts.insert ⟨"idea_00000002", "Closing range", none, "2", ""⟩).getD
      Table.empty

def sampleState : GatewayState sampleGateway where
  world := ⟨sampleDrafts, [], [], [], [], [], []⟩
  log := Table.empty

def noteCall (candidateId note : String) : GatewayCall WholeFloat where
  request := ⟨"req_note_0000000001", "research.note.add", [("candidate_id", .str candidateId)],
    some note⟩
  identity := ⟨"claude", "local", 1, none⟩
  now := "3"

def pauseCall : GatewayCall WholeFloat where
  request := ⟨"req_pause_000000001", "campaign.pause", [], none⟩
  identity := ⟨"claude", "local", 1, none⟩
  now := "3"

/-- A pause that a crash cuts off from its row and that is asked for again, and a note that
is sent twice. -/
def sampleActions : List (GatewayAction WholeFloat) :=
  [.serve pauseCall (some 1), .serve pauseCall none,
    .serve (noteCall "idea_00000001" "first") none,
    .serve (noteCall "idea_00000001" "first") none]

theorem sampleActions_repeat :
    (trace serverStep sampleState sampleActions).Pairwise (Repeats sampleGateway) := by
  simp only [sampleActions, trace, List.pairwise_cons, List.forall_mem_cons, List.not_mem_nil,
    false_imp_iff, implies_true, and_true, List.Pairwise.nil]
  refine ⟨⟨fun _ _ change operation => ?_, fun crashed => ?_, fun crashed => ?_⟩,
    ⟨fun _ _ sameId => ?_, fun _ _ sameId => ?_⟩, fun _ _ _ => ?_⟩
  · obtain rfl : change = .campaignPause :=
      Option.some.inj (operation.symm.trans (by decide +kernel))
    change (GatewayWorld.paused _) = true
    decide +kernel
  · exact absurd crashed (by decide +kernel)
  · exact absurd crashed (by decide +kernel)
  · exact absurd sameId (by decide)
  · exact absurd sameId (by decide)
  · exact ⟨show (stateChange? "research.note.add").isSome = true by decide,
      iff_of_true ⟨rfl, rfl, rfl⟩ ⟨rfl, rfl, rfl⟩⟩

end Sample

end QuantFactory.Gateway
