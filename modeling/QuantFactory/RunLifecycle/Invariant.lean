import QuantFactory.Library.Runs
import QuantFactory.RunLifecycle.Writers
import Mathlib.Logic.Relation

/-!
# The lifecycle of a run

Every writer, when it succeeds, is a path of two kinds of moves: an event that
ends nothing is noted, or a run changes its status and the event of that status
is appended.  Each move keeps the row and the log of a run consistent.
-/

set_option autoImplicit false

namespace QuantFactory.RunLifecycle

open QuantFactory.Library QuantFactory.Python QuantFactory.Launch

def statusEvent : RunStatus → RunEventType
  | .created => .runCreated
  | .running => .runStarted
  | .succeeded => .runSucceeded
  | .failed => .runFailed
  | .cancelled => .runCancelled

def isTerminalEvent (eventType : RunEventType) : Bool :=
  eventType = .runSucceeded || eventType = .runFailed || eventType = .runCancelled

@[simp] theorem isTerminalEvent_statusEvent (status : RunStatus) :
    isTerminalEvent (statusEvent status) = isTerminalRunStatus status := by
  cases status <;> rfl

theorem open_of_allowed {current status : RunStatus}
    (allowed : status ∈ runStatusTransitions current) : isTerminalRunStatus current = false := by
  cases current with
  | created => rfl
  | running => rfl
  | _ => cases allowed

/-! ## Moves -/

section Moves
-- the runs an operator transition to `cancelled` is called for
variable (operatorCancels : String → Prop)

inductive LifecycleMove (db : Database) : Database → Prop where
  | noted (event : RunEventRecord) (other : isTerminalEvent event.eventType = false) :
      LifecycleMove db { db with events := db.events ++ [event] }
  | moved (runId : String) (status : RunStatus) (errorSummary : Option String) (now : String)
      (run : ExperimentRunRecord) (event : RunEventRecord)
      (found : db.runs.get runId = some run)
      (allowed : status ∈ runStatusTransitions run.status) (named : event.runId = runId)
      (belongs : event.eventType = statusEvent status)
      (asked : status = .cancelled → operatorCancels runId ∨ hasCancellationRequest db runId) :
      LifecycleMove db { db with
        runs := db.runs.update runId (RunRepository.setStatus status errorSummary now)
        events := db.events ++ [event] }

abbrev LifecyclePath (db next : Database) : Prop :=
  Relation.ReflTransGen (LifecycleMove operatorCancels) db next

variable {operatorCancels}

theorem appendEvent_eq_ok {db next : Database} {runId message source now : String}
    {eventType : RunEventType} {severity : EventSeverity} {occurredAt : Option String}
    (appended : appendEvent db runId eventType severity message source occurredAt now =
      .ok next) :
    ∃ event : RunEventRecord, event.runId = runId ∧ event.eventType = eventType ∧
      next = { db with events := db.events ++ [event] } := by
  unfold appendEvent at appended
  simp only at appended
  split at appended
  · cases appended
  · split at appended
    · cases appended
    · split at appended
      · cases appended
      · cases appended
        exact ⟨_, rfl, rfl, rfl⟩

theorem transition_moved {db moved : Database} {runId now : String} {status : RunStatus}
    {errorSummary : Option String} {run : ExperimentRunRecord}
    (done : RunRepository.transition db runId status errorSummary now = .ok (run, moved)) :
    ∃ current, db.runs.get runId = some current ∧
      status ∈ runStatusTransitions current.status ∧
      moved = { db with
        runs := db.runs.update runId (RunRepository.setStatus status errorSummary now) } := by
  unfold RunRepository.transition at done
  split at done
  · cases done
  · rename_i current found
    split at done
    · rename_i allowed
      cases done
      exact ⟨current, found, allowed, rfl⟩
    · cases done

theorem noted_path {db next : Database} {runId message source now : String}
    {eventType : RunEventType} {severity : EventSeverity} {occurredAt : Option String}
    (other : isTerminalEvent eventType = false)
    (appended : appendEvent db runId eventType severity message source occurredAt now =
      .ok next) : LifecyclePath operatorCancels db next := by
  obtain ⟨event, _, rfl, rfl⟩ := appendEvent_eq_ok appended
  exact .single (.noted event other)

theorem moved_path {db moved next : Database} {runId message source now later : String}
    {status : RunStatus} {errorSummary : Option String} {run : ExperimentRunRecord}
    {eventType : RunEventType} {severity : EventSeverity} {occurredAt : Option String}
    (done : RunRepository.transition db runId status errorSummary now = .ok (run, moved))
    (belongs : eventType = statusEvent status)
    (asked : status = .cancelled → operatorCancels runId ∨ hasCancellationRequest db runId)
    (appended : appendEvent moved runId eventType severity message source occurredAt later =
      .ok next) : LifecyclePath operatorCancels db next := by
  obtain ⟨current, found, allowed, rfl⟩ := transition_moved done
  obtain ⟨event, named, ofType, rfl⟩ := appendEvent_eq_ok appended
  exact .single (.moved runId status errorSummary now current event found allowed named
    (ofType.trans belongs) asked)

end Moves

/-! ## The writers -/

section Writers
variable {operatorCancels : String → Prop}

theorem transitionRunWithOperatorEvent_path {db next : Database} {request : OperatorTransition}
    {clock : Clock} (matched : request.eventType = statusEvent request.status)
    (cancels : request.status = .cancelled → operatorCancels request.runId)
    (done : transitionRunWithOperatorEvent db request clock = .ok next) :
    LifecyclePath operatorCancels db next := by
  unfold transitionRunWithOperatorEvent at done
  obtain ⟨⟨run, moved⟩, transitioned, appended⟩ := bind_eq_ok.mp done
  exact moved_path transitioned matched (fun cancelled => .inl (cancels cancelled)) appended

theorem requestRunCancellation_path {db next : Database} {runId : String} {clock : Clock}
    (done : requestRunCancellation db runId clock = .ok next) :
    LifecyclePath operatorCancels db next := by
  unfold requestRunCancellation at done
  obtain ⟨run, _, done⟩ := bind_eq_ok.mp done
  split at done
  · cases done
    exact .refl
  · split at done
    · cases done
    · split at done
      · cases done
        exact .refl
      · exact noted_path rfl done

theorem acknowledgeRunCancellation_path {db next : Database} {runId : String} {clock : Clock}
    (done : acknowledgeRunCancellation db runId clock = .ok next) :
    LifecyclePath operatorCancels db next := by
  unfold acknowledgeRunCancellation at done
  obtain ⟨run, _, done⟩ := bind_eq_ok.mp done
  split at done
  · cases done
    exact .refl
  · split at done
    · cases done
    · split at done
      · cases done
      · rename_i requested
        obtain ⟨⟨cancelled, moved⟩, transitioned, appended⟩ := bind_eq_ok.mp done
        have asked : hasCancellationRequest db runId = true := by simpa using requested
        exact moved_path transitioned rfl (fun _ => .inr asked) appended

theorem startForTimeout_path {db next : Database} {run : ExperimentRunRecord} {clock : Clock}
    (done : startForTimeout db run clock = .ok next) : LifecyclePath operatorCancels db next := by
  unfold startForTimeout at done
  split at done
  · obtain ⟨⟨started, moved⟩, transitioned, appended⟩ := bind_eq_ok.mp done
    exact moved_path transitioned rfl (fun cancelled => by cases cancelled) appended
  · cases done
    exact .refl

theorem failRunForTimeout_path {db next : Database} {runId timeoutMessage errorSummary : String}
    {clock : Clock} (done : failRunForTimeout db runId timeoutMessage errorSummary clock = .ok next) :
    LifecyclePath operatorCancels db next := by
  unfold failRunForTimeout at done
  obtain ⟨run, _, done⟩ := bind_eq_ok.mp done
  split at done
  · cases done
    exact .refl
  · obtain ⟨started, startDone, done⟩ := bind_eq_ok.mp done
    obtain ⟨noticed, noticeDone, done⟩ := bind_eq_ok.mp done
    obtain ⟨⟨failed, moved⟩, transitioned, appended⟩ := bind_eq_ok.mp done
    have start : LifecyclePath operatorCancels db started := startForTimeout_path startDone
    have notice : LifecyclePath operatorCancels started noticed := noted_path rfl noticeDone
    have failure : LifecyclePath operatorCancels noticed next :=
      moved_path transitioned rfl (fun cancelled => by cases cancelled) appended
    exact (start.trans notice).trans failure

theorem recoverRun_path {db next : Database} {run : ExperimentRunRecord} {clock : Clock}
    (done : recoverRun db run clock = .ok next) : LifecyclePath operatorCancels db next := by
  unfold recoverRun at done
  obtain ⟨noticed, noticeDone, done⟩ := bind_eq_ok.mp done
  obtain ⟨⟨recovered, moved⟩, transitioned, appended⟩ := bind_eq_ok.mp done
  have notice : LifecyclePath operatorCancels db noticed := noted_path rfl noticeDone
  have failure : LifecyclePath operatorCancels noticed next :=
    moved_path transitioned rfl (fun cancelled => by cases cancelled) appended
  exact notice.trans failure

theorem recoverRuns_path {parseUtcTimestamp : String → Option Int} {cutoff : Int}
    {clock : Nat → Clock} {runs : List ExperimentRunRecord} :
    ∀ {db next : Database}, recoverRuns parseUtcTimestamp cutoff db clock runs = .ok next →
      LifecyclePath operatorCancels db next := by
  induction runs with
  | nil =>
      intro db next done
      cases done
      exact .refl
  | cons run rest ih =>
      intro db next done
      rw [recoverRuns] at done
      obtain ⟨stale, _, done⟩ := bind_eq_ok.mp done
      split at done
      · obtain ⟨recovered, recoverDone, done⟩ := bind_eq_ok.mp done
        exact (recoverRun_path recoverDone).trans (ih done)
      · exact ih done

theorem recoverStaleFixtureRuns_path {parseUtcTimestamp : String → Option Int}
    {db next : Database} {staleBefore : String} {clock : Nat → Clock}
    (done : recoverStaleFixtureRuns parseUtcTimestamp db staleBefore clock = .ok next) :
    LifecyclePath operatorCancels db next := by
  unfold recoverStaleFixtureRuns at done
  obtain ⟨cutoff, _, done⟩ := bind_eq_ok.mp done
  exact recoverRuns_path done

end Writers

/-! ## One run and its log -/

def terminalEvents (db : Database) (runId : String) : Nat :=
  db.events.countP fun event => event.runId = runId && isTerminalEvent event.eventType

def RequestedBeforeCancelled (db : Database) (runId : String) : Prop :=
  ∃ before cancelled after, db.events = before ++ cancelled :: after ∧
    cancelled.runId = runId ∧ cancelled.eventType = .runCancelled ∧
    ∃ request ∈ before, request.runId = runId ∧ request.eventType = .runCancellationRequested

structure RunConsistent (operatorCancels : String → Prop) (db : Database) (runId : String)
    (run : ExperimentRunRecord) : Prop where
  terminalOnce : terminalEvents db runId = if isTerminalRunStatus run.status then 1 else 0
  completed : run.completedAt.isSome = isTerminalRunStatus run.status
  asked : run.status = .cancelled →
    operatorCancels runId ∨ RequestedBeforeCancelled db runId

section Steps
variable {operatorCancels : String → Prop} {db next : Database} {runId : String}
  {run : ExperimentRunRecord}

theorem terminalEvents_append (event : RunEventRecord) (runs : RunTable) :
    terminalEvents { db with runs := runs, events := db.events ++ [event] } runId =
      terminalEvents db runId +
        if event.runId = runId && isTerminalEvent event.eventType then 1 else 0 := by
  unfold terminalEvents
  simp only
  rw [List.countP_append, List.countP_singleton]

theorem requestedBeforeCancelled_append (event : RunEventRecord) (runs : RunTable)
    (before : RequestedBeforeCancelled db runId) :
    RequestedBeforeCancelled { db with runs := runs, events := db.events ++ [event] } runId := by
  obtain ⟨earlier, cancelled, after, events, named, ofType, request⟩ := before
  refine ⟨earlier, cancelled, after ++ [event], ?_, named, ofType, request⟩
  simp [events]

theorem requested_now {event : RunEventRecord} (runs : RunTable)
    (requested : hasCancellationRequest db runId = true) (named : event.runId = runId)
    (ofType : event.eventType = .runCancelled) :
    RequestedBeforeCancelled { db with runs := runs, events := db.events ++ [event] } runId := by
  refine ⟨db.events, event, [], rfl, named, ofType, ?_⟩
  obtain ⟨request, member, isRequest⟩ := List.any_eq_true.mp requested
  obtain ⟨inEvents, ofRun⟩ := List.mem_filter.mp member
  exact ⟨request, inEvents, by simpa using ofRun, by simpa using isRequest⟩

/-- An event that does not end the run, and a row that keeps its state. -/
theorem consistent_noted (kept : RunConsistent operatorCancels db runId run)
    (event : RunEventRecord) (runs : RunTable)
    (other : (event.runId = runId && isTerminalEvent event.eventType) = false) :
    RunConsistent operatorCancels { db with runs := runs, events := db.events ++ [event] }
      runId run where
  terminalOnce := by
    rw [terminalEvents_append, other]
    exact kept.terminalOnce
  completed := kept.completed
  asked cancelled := (kept.asked cancelled).imp_right (requestedBeforeCancelled_append event runs)

theorem lifecycleMove_run (move : LifecycleMove operatorCancels db next)
    (found : db.runs.get runId = some run)
    (kept : RunConsistent operatorCancels db runId run) :
    ∃ after, next.runs.get runId = some after ∧
      RunConsistent operatorCancels next runId after ∧
      (isTerminalRunStatus run.status = true → after = run) := by
  cases move with
  | noted event other =>
      have elsewhere : (event.runId = runId && isTerminalEvent event.eventType) = false := by
        rw [other, Bool.and_false]
      exact ⟨run, found, consistent_noted kept event db.runs elsewhere, fun _ => rfl⟩
  | moved movedId status errorSummary now current event movedFound allowed named belongs asked =>
      by_cases same : runId = movedId
      · subst same
        rw [found] at movedFound
        cases movedFound
        have wasOpen := open_of_allowed allowed
        refine ⟨(RunRepository.setStatus status errorSummary now).apply run, ?_, ?_, ?_⟩
        · rw [Table.get_update_self, found]
          rfl
        · refine ⟨?_, ?_, ?_⟩
          · rw [terminalEvents_append, kept.terminalOnce, wasOpen, named, belongs,
              isTerminalEvent_statusEvent]
            simp [RunRepository.setStatus]
          · simp only [RunRepository.setStatus]
            cases terminal : isTerminalRunStatus status with
            | true => rfl
            | false => simp [kept.completed, wasOpen]
          · intro cancelled
            obtain rfl : status = .cancelled := cancelled
            exact (asked rfl).imp_right fun requested => requested_now _ requested named belongs
        · intro terminal
          rw [wasOpen] at terminal
          cases terminal
      · have elsewhere : (event.runId = runId && isTerminalEvent event.eventType) = false := by
          rw [named]
          simp [Ne.symm same]
        refine ⟨run, ?_, consistent_noted kept event _ elsewhere, fun _ => rfl⟩
        rw [Table.get_update, if_neg same]
        exact found

theorem lifecyclePath_run (path : LifecyclePath operatorCancels db next)
    (found : db.runs.get runId = some run)
    (kept : RunConsistent operatorCancels db runId run) :
    ∃ after, next.runs.get runId = some after ∧
      RunConsistent operatorCancels next runId after ∧
      (isTerminalRunStatus run.status = true → after = run) := by
  induction path with
  | refl => exact ⟨run, found, kept, fun _ => rfl⟩
  | tail earlier move ih =>
      obtain ⟨middle, middleFound, middleKept, middleSame⟩ := ih
      obtain ⟨after, afterFound, afterKept, afterSame⟩ :=
        lifecycleMove_run move middleFound middleKept
      refine ⟨after, afterFound, afterKept, fun terminal => ?_⟩
      have same := middleSame terminal
      rw [← same] at terminal
      exact (afterSame terminal).trans same

end Steps

end QuantFactory.RunLifecycle
