import QuantFactory.RunLifecycle.Invariant

/-!
# Interleavings of the lifecycle writers

The writers come in any order, on any runs; a refused one changes nothing.
-/

set_option autoImplicit false

namespace QuantFactory.RunLifecycle

open QuantFactory.Library QuantFactory.Launch

inductive LifecycleCall where
  | transition (request : OperatorTransition)
  | requestCancellation (runId : String)
  | acknowledgeCancellation (runId : String)
  | failForTimeout (runId timeoutMessage errorSummary : String)
  | recoverStale (staleBefore : String)
  deriving DecidableEq

structure TimedCall where
  call : LifecycleCall
  clock : Nat → Clock

section Calls
variable (parseUtcTimestamp : String → Option Int)

def applyCall (db : Database) (timed : TimedCall) : Except LaunchError Database :=
  match timed.call with
  | .transition request => transitionRunWithOperatorEvent db request (timed.clock 0)
  | .requestCancellation runId => requestRunCancellation db runId (timed.clock 0)
  | .acknowledgeCancellation runId => acknowledgeRunCancellation db runId (timed.clock 0)
  | .failForTimeout runId timeoutMessage errorSummary =>
      failRunForTimeout db runId timeoutMessage errorSummary (timed.clock 0)
  | .recoverStale staleBefore =>
      recoverStaleFixtureRuns parseUtcTimestamp db staleBefore timed.clock

def lifecycleStep (db : Database) (timed : TimedCall) : Database :=
  (applyCall parseUtcTimestamp db timed).toOption.getD db

end Calls

/-- An operator transition names the event of its status, as every caller does. -/
def LifecycleCall.Matched : LifecycleCall → Prop
  | .transition request => request.eventType = statusEvent request.status
  | _ => True

instance (call : LifecycleCall) : Decidable call.Matched := by
  unfold LifecycleCall.Matched
  split <;> infer_instance

def OperatorCancels (calls : List TimedCall) (runId : String) : Prop :=
  ∃ timed ∈ calls, ∃ request, timed.call = .transition request ∧
    request.runId = runId ∧ request.status = .cancelled

structure FreshRun (db : Database) (runId : String) : Prop where
  created : ∃ run, db.runs.get runId = some run ∧
    isTerminalRunStatus run.status = false ∧ run.completedAt = none
  noEnd : ∀ event ∈ db.events, event.runId = runId → isTerminalEvent event.eventType = false

section Run
variable (parseUtcTimestamp : String → Option Int)

theorem lifecycleStep_path {calls : List TimedCall} (db : Database) (timed : TimedCall)
    (member : timed ∈ calls) (matched : timed.call.Matched) :
    LifecyclePath (OperatorCancels calls) db (lifecycleStep parseUtcTimestamp db timed) := by
  unfold lifecycleStep
  cases done : applyCall parseUtcTimestamp db timed with
  | error error => exact .refl
  | ok next =>
      change LifecyclePath (OperatorCancels calls) db next
      unfold applyCall at done
      split at done
      · rename_i request called
        rw [called] at matched
        refine transitionRunWithOperatorEvent_path matched ?_ done
        intro cancels
        exact ⟨timed, member, request, called, rfl, cancels⟩
      · exact requestRunCancellation_path done
      · exact acknowledgeRunCancellation_path done
      · exact failRunForTimeout_path done
      · exact recoverStaleFixtureRuns_path done

theorem lifecycle_path {calls all : List TimedCall} (included : ∀ timed ∈ calls, timed ∈ all)
    (matched : ∀ timed ∈ calls, timed.call.Matched) :
    ∀ db, LifecyclePath (OperatorCancels all) db
      (run (lifecycleStep parseUtcTimestamp) db calls) := by
  induction calls with
  | nil =>
      intro db
      exact .refl
  | cons timed rest ih =>
      intro db
      have step := lifecycleStep_path parseUtcTimestamp db timed
        (included timed List.mem_cons_self) (matched timed List.mem_cons_self)
      have others := ih (fun other member => included other (List.mem_cons_of_mem timed member))
        (fun other member => matched other (List.mem_cons_of_mem timed member))
      exact step.trans (others _)

theorem freshRun_consistent {db : Database} {runId : String} (fresh : FreshRun db runId)
    (operatorCancels : String → Prop) :
    ∃ run, db.runs.get runId = some run ∧ RunConsistent operatorCancels db runId run := by
  obtain ⟨run, found, isOpen, notCompleted⟩ := fresh.created
  refine ⟨run, found, ?_, ?_, ?_⟩
  · rw [isOpen]
    refine List.countP_eq_zero.mpr fun event member ends => ?_
    simp only [Bool.and_eq_true, decide_eq_true_eq] at ends
    rw [fresh.noEnd event member ends.1] at ends
    cases ends.2
  · rw [notCompleted, isOpen]
    rfl
  · intro cancelled
    rw [cancelled] at isOpen
    cases isOpen

end Run

structure LifecycleHolds (parseUtcTimestamp : String → Option Int) (db : Database)
    (runId : String) (calls : List TimedCall) : Prop where
  /-- After every part of the calls the row and the log agree: one terminal event and a
  completion time for a terminal run, neither for another, and a cancellation was asked for. -/
  consistent : ∀ earlier, earlier <+: calls → ∃ run,
    (Library.run (lifecycleStep parseUtcTimestamp) db earlier).runs.get runId = some run ∧
    RunConsistent (OperatorCancels earlier)
      (Library.run (lifecycleStep parseUtcTimestamp) db earlier) runId run
  terminalKept : ∀ earlier, earlier <+: calls → ∀ run,
    (Library.run (lifecycleStep parseUtcTimestamp) db earlier).runs.get runId = some run →
    isTerminalRunStatus run.status = true →
    (Library.run (lifecycleStep parseUtcTimestamp) db calls).runs.get runId = some run

theorem lifecycle_consistent (parseUtcTimestamp : String → Option Int) (db : Database)
    (runId : String) (calls : List TimedCall) (fresh : FreshRun db runId)
    (matched : ∀ timed ∈ calls, timed.call.Matched) :
    LifecycleHolds parseUtcTimestamp db runId calls := by
  have consistent : ∀ earlier, earlier <+: calls → ∀ all : List TimedCall,
      (∀ timed ∈ earlier, timed ∈ all) → ∃ run,
      (Library.run (lifecycleStep parseUtcTimestamp) db earlier).runs.get runId = some run ∧
      RunConsistent (OperatorCancels all)
        (Library.run (lifecycleStep parseUtcTimestamp) db earlier) runId run := by
    intro earlier before all included
    obtain ⟨run, found, kept⟩ := freshRun_consistent fresh (OperatorCancels all)
    have path := lifecycle_path parseUtcTimestamp included
      (fun timed member => matched timed (before.subset member)) db
    obtain ⟨after, afterFound, afterKept, _⟩ := lifecyclePath_run path found kept
    exact ⟨after, afterFound, afterKept⟩
  refine ⟨fun earlier before => consistent earlier before earlier fun _ member => member, ?_⟩
  rintro earlier ⟨later, rfl⟩ run found terminal
  obtain ⟨same, sameFound, kept⟩ := consistent earlier (List.prefix_append _ _)
    (earlier ++ later) fun timed member => List.mem_append_left later member
  rw [found] at sameFound
  cases sameFound
  have path := lifecycle_path parseUtcTimestamp
    (fun timed member => List.mem_append_right earlier member)
    (fun timed member => matched timed (List.mem_append_right earlier member))
    (Library.run (lifecycleStep parseUtcTimestamp) db earlier)
  obtain ⟨after, afterFound, _, unchanged⟩ := lifecyclePath_run path found kept
  rw [run_append, afterFound, unchanged terminal]

/-! ## A fresh run -/

def sampleClock : Nat → Clock := fun _ _ => "2026-01-02T09:00:00Z"

def sampleRun : ExperimentRunRecord where
  runId := "run-1"
  configurationId := "configuration-1"
  strategyId := "strategy"
  strategyVersion := "1"
  stage := .fixture
  status := .created
  startedAt := none
  completedAt := none
  errorSummary := none
  environmentJson := "\x7b\x7d"
  createdAt := "2026-01-01T09:00:00Z"

def sampleDatabase : Database where
  strategies := .empty
  configurations := .empty
  manifests := .empty
  runs := ⟨[sampleRun], by simp⟩
  events := []
  submissions := .empty

def sampleTransition (status : RunStatus) (eventType : RunEventType) : TimedCall where
  call := .transition ⟨"run-1", status, eventType, .info, "message", none, "quant_factory"⟩
  clock := sampleClock

theorem sample_fresh : FreshRun sampleDatabase "run-1" where
  created := ⟨sampleRun, rfl, rfl, rfl⟩
  noEnd event member := by cases member

def sampleCalls : List TimedCall :=
  [sampleTransition .running .runStarted, ⟨.requestCancellation "run-1", sampleClock⟩,
    ⟨.failForTimeout "run-1" "timed out" "timeout", sampleClock⟩,
    ⟨.acknowledgeCancellation "run-1", sampleClock⟩]

theorem lifecycle_consistent_sample :
    LifecycleHolds (fun _ => none) sampleDatabase "run-1" sampleCalls := by
  have matched : ∀ timed ∈ sampleCalls, timed.call.Matched := by decide
  exact lifecycle_consistent _ _ _ _ sample_fresh matched

/-- A run is cancelled by an operator transition nobody requested, and a transition that is
given another event leaves a terminal event in the log of a running run. -/
theorem operator_transition_inconsistent :
    (∃ run, (Library.run (lifecycleStep fun _ => none) sampleDatabase
        [sampleTransition .cancelled .runCancelled]).runs.get "run-1" = some run ∧
      ¬ RunConsistent (fun _ => False) (Library.run (lifecycleStep fun _ => none) sampleDatabase
        [sampleTransition .cancelled .runCancelled]) "run-1" run) ∧
    (∃ run, (Library.run (lifecycleStep fun _ => none) sampleDatabase
        [sampleTransition .running .runFailed]).runs.get "run-1" = some run ∧
      ¬ RunConsistent (fun _ => False) (Library.run (lifecycleStep fun _ => none) sampleDatabase
        [sampleTransition .running .runFailed]) "run-1" run) := by
  constructor
  · refine ⟨_, rfl, fun kept => ?_⟩
    rcases kept.asked rfl with operator | ⟨before, cancelled, after, events, _, _, request⟩
    · exact operator
    · obtain ⟨asked, member, _, isRequest⟩ := request
      have noRequest : ∀ event ∈ (Library.run (lifecycleStep fun _ => none) sampleDatabase
          [sampleTransition .cancelled .runCancelled]).events,
          event.eventType ≠ .runCancellationRequested := by decide +kernel
      refine noRequest asked ?_ isRequest
      rw [events]
      exact List.mem_append_left _ member
  · refine ⟨_, rfl, fun kept => ?_⟩
    have once := kept.terminalOnce
    revert once
    decide +kernel

end QuantFactory.RunLifecycle
