import Mathlib
import QuantFactory.Library.History
import QuantFactory.Python.Text

/-!
# Campaign events

The append-only `campaign_events` log of `agent_gateway/store.py`, its queries,
and the requests of `agent_gateway/results.py` and of a restart.  The list order
is the `event_id` order.  A request reads the log first and appends its events
in transactions of their own, so it is the list of events it is going to append.
-/

set_option autoImplicit false

namespace QuantFactory.Campaign

open QuantFactory.Library QuantFactory.Python

inductive CampaignState where
  | queued | running | survivor | screenedOut | failed | implementationBlocked | duplicateClosed
  deriving DecidableEq, Repr

def CampaignState.value : CampaignState → String
  | .queued => "queued"
  | .running => "running"
  | .survivor => "survivor"
  | .screenedOut => "screened_out"
  | .failed => "failed"
  | .implementationBlocked => "implementation_blocked"
  | .duplicateClosed => "duplicate_closed"

/-- `state in OPEN_STATES`. -/
def CampaignState.isOpen : CampaignState → Bool
  | .queued => true
  | .running => true
  | _ => false

/-- `state in RESULT_STATES`. -/
def CampaignState.hasResult : CampaignState → Bool
  | .survivor => true
  | .screenedOut => true
  | _ => false

structure CampaignEvent where
  candidateId : String
  state : CampaignState
  reasonCode : String
  reasonDetail : Option String
  packetSha256 : Option String
  runId : Option String
  deriving DecidableEq, Repr

abbrev CampaignLog := List CampaignEvent

def requeuedAfterFix : String := "requeued_after_fix"

/-! ## Queries -/

def CampaignEvent.isOf (candidateId : String) (event : CampaignEvent) : Bool :=
  event.candidateId = candidateId

def CampaignEvent.isStart (candidateId packetSha256 : String) (event : CampaignEvent) : Bool :=
  event.candidateId = candidateId && event.packetSha256 = some packetSha256 &&
    event.state = .running

def CampaignEvent.isPacketFix (candidateId packetSha256 : String) (event : CampaignEvent) : Bool :=
  event.candidateId = candidateId && event.packetSha256 = some packetSha256 &&
    event.reasonCode = requeuedAfterFix

def CampaignEvent.isFix (candidateId : String) (event : CampaignEvent) : Bool :=
  event.candidateId = candidateId && event.reasonCode = requeuedAfterFix

def latestCampaignEvent (log : CampaignLog) (candidateId : String) : Option CampaignEvent :=
  lastWhere (·.isOf candidateId) log

/-- `latest_campaign_events().values()`, in `event_id` order. -/
def latestCampaignEvents (log : CampaignLog) : List CampaignEvent :=
  lastOfEach (·.candidateId) log

def campaignAttempts (log : CampaignLog) (candidateId packetSha256 : String) : Nat :=
  log.countP (·.isStart candidateId packetSha256)

def campaignAttemptsSinceRequeue (log : CampaignLog) (candidateId packetSha256 : String) : Nat :=
  (afterLast (·.isPacketFix candidateId packetSha256) log).countP
    (·.isStart candidateId packetSha256)

/-! ## Requests -/

structure GatewayError where
  code : String
  message : String
  deriving DecidableEq, Repr

/-- The idea of an event queued again, for the packet the event names. -/
def queuedAgain (event : CampaignEvent) (reasonCode : String) (reasonDetail : Option String) :
    CampaignEvent where
  candidateId := event.candidateId
  state := .queued
  reasonCode := reasonCode
  reasonDetail := reasonDetail
  packetSha256 := event.packetSha256
  runId := none

def requeueAfterRestart (log : CampaignLog) : List CampaignEvent :=
  ((latestCampaignEvents log).filter fun event => event.state.isOpen).map fun event =>
    queuedAgain event "requeued_after_restart" none

def wasInterrupted (event : CampaignEvent) : Bool :=
  event.state = .failed && event.reasonCode = "run_error" &&
    decide ("interrupted".toList <:+: (event.reasonDetail.getD "").toList)

def requeueInterrupted (log : CampaignLog) (candidateId : String) :
    Except GatewayError (List CampaignEvent) :=
  match latestCampaignEvent log candidateId with
  | none => .error ⟨"requeue_not_allowed",
      "only an idea whose test was interrupted by a server failure can be requeued"⟩
  | some latest =>
      if wasInterrupted latest then .ok [queuedAgain latest "requeued_by_agent" none]
      else .error ⟨"requeue_not_allowed",
        "only an idea whose test was interrupted by a server failure can be requeued"⟩

/-- The settled ideas a retest asks for: one of them, or with `none` all. -/
def retestTargets (log : CampaignLog) :
    Option String → Except GatewayError (List CampaignEvent)
  | none => .ok ((latestCampaignEvents log).filter fun event => !event.state.isOpen)
  | some candidateId => match latestCampaignEvent log candidateId with
      | none => .error ⟨"retest_not_allowed",
          "only a settled idea can be retested; this one is queued, running or unknown"⟩
      | some latest =>
          if latest.state.isOpen then .error ⟨"retest_not_allowed",
            "only a settled idea can be retested; this one is queued, running or unknown"⟩
          else .ok [latest]

def retestSettled (log : CampaignLog) (candidateId : Option String) (reason : String) :
    Except GatewayError (List CampaignEvent) :=
  let detail := String.ofList ((strip reason).toList.take 500)
  if detail.isEmpty then
    .error ⟨"retest_reason_required", "a retest needs a --reason saying what changed"⟩
  else (retestTargets log candidateId).map fun targets =>
    targets.map fun event => queuedAgain event requeuedAfterFix (some detail)

inductive CampaignRequest where
  | requeue (candidateId : String)
  | retest (candidateId : Option String) (reason : String)
  deriving DecidableEq

def requestedEvents (log : CampaignLog) : CampaignRequest → List CampaignEvent
  | .requeue candidateId => (requeueInterrupted log candidateId).toOption.getD []
  | .retest candidateId reason => (retestSettled log candidateId reason).toOption.getD []

/-! ## Appending one event -/

section Append
variable (log : CampaignLog) (event : CampaignEvent) (candidateId packetSha256 : String)

theorem latestCampaignEvent_append : latestCampaignEvent (log ++ [event]) candidateId =
    if event.candidateId = candidateId then some event else latestCampaignEvent log candidateId := by
  unfold latestCampaignEvent
  rw [lastWhere_snoc]
  simp [CampaignEvent.isOf]

theorem campaignAttempts_append : campaignAttempts (log ++ [event]) candidateId packetSha256 =
    campaignAttempts log candidateId packetSha256 +
      if event.isStart candidateId packetSha256 then 1 else 0 := by
  unfold campaignAttempts
  rw [List.countP_append, List.countP_singleton]

theorem campaignAttemptsSinceRequeue_append :
    campaignAttemptsSinceRequeue (log ++ [event]) candidateId packetSha256 ≤
      campaignAttemptsSinceRequeue log candidateId packetSha256 +
        if event.isStart candidateId packetSha256 then 1 else 0 := by
  unfold campaignAttemptsSinceRequeue
  rw [afterLast_snoc]
  split
  · exact Nat.zero_le _
  · exact Nat.le_of_eq (by rw [List.countP_append, List.countP_singleton])

end Append

theorem requeueAfterRestart_queued {log : CampaignLog} {event : CampaignEvent}
    (member : event ∈ requeueAfterRestart log) : event.state = .queued := by
  obtain ⟨latest, _, rfl⟩ := List.mem_map.mp member
  rfl

theorem requestedEvents_queued {log : CampaignLog} {request : CampaignRequest}
    {event : CampaignEvent} (member : event ∈ requestedEvents log request) :
    event.state = .queued := by
  cases request with
  | requeue candidateId =>
      simp only [requestedEvents, requeueInterrupted] at member
      split at member
      · simp [Except.toOption] at member
      · split at member
        · obtain rfl := List.mem_singleton.mp member
          rfl
        · simp [Except.toOption] at member
  | retest candidateId reason =>
      simp only [requestedEvents, retestSettled] at member
      split at member
      · simp [Except.toOption] at member
      · cases targets : retestTargets log candidateId with
        | error error => simp [targets, Except.map, Except.toOption] at member
        | ok rows =>
            simp only [targets, Except.map, Except.toOption, Option.getD_some] at member
            obtain ⟨latest, _, rfl⟩ := List.mem_map.mp member
            rfl

/-- An idea whose latest event is open is queued again by a restart. -/
theorem requeueAfterRestart_mem {log : CampaignLog} {candidateId : String}
    {event : CampaignEvent} (latest : latestCampaignEvent log candidateId = some event)
    (isOpen : event.state.isOpen = true) :
    ∃ row ∈ requeueAfterRestart log, row.candidateId = candidateId := by
  have named : event.candidateId = candidateId := by
    simpa [CampaignEvent.isOf] using (lastWhere_some _ latest).2
  refine ⟨queuedAgain event "requeued_after_restart" none, ?_, named⟩
  have member : event ∈ latestCampaignEvents log := mem_lastOfEach _ latest
  exact List.mem_map_of_mem (List.mem_filter.mpr ⟨member, isOpen⟩)

end QuantFactory.Campaign
