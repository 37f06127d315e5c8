import QuantFactory.FilterChain.Service

/-!
# Calls of the filter chain

One step of one call, and the system of all calls.  The runs' rows are what every
writer keeps: no row disappears, its identity stays, and a succeeded run stays
succeeded with the environment it has.
-/

set_option autoImplicit false

namespace QuantFactory.FilterChain

open QuantFactory.Library QuantFactory.Python QuantFactory.Persistence QuantFactory.Launch
open QuantFactory.Validation

section Step
variable {F : Type} [PyNumber F] (runtime : PythonRuntime F)

def failed (error : ChainError) : ChainPhase F := .finished (.error error)

def nextTurn (progress : ChainProgress F) : List RunStage → ChainPhase F
  | [] => .gate progress
  | stage :: rest => .stage .lookup ⟨progress, stage, rest⟩

def phaseAfterScreening : Except ChainError Unit → ChainPhase F
  | .error error => failed error
  | .ok () => .ranked

def requireAdapters : Option (List RunStage) → Except ChainError Unit
  | none => .ok ()
  | some supplied => requireCompleteAdapters supplied

def phaseAfterRanked (call : ChainCall) :
    Except ChainError (Option FilterChainOutcome) → ChainPhase F
  | .error error => failed error
  | .ok (some outcome) => .finished (.ok outcome)
  | .ok none => match requireAdapters call.stageAdapters with
      | .error error => failed error
      | .ok () => nextTurn (noProgress F) validationStageOrder

/-- The first lookup of a stage; `reopen` goes on only with a succeeded run. -/
def phaseAfterLookup (call : ChainCall) (turn : StageTurn F)
    (reference : PersistedStageReference) : Option ExperimentRunRecord → ChainPhase F
  | none =>
      if call.stageAdapters.isNone then failed ⟨.replayIncomplete,
        s!"persisted filter chain is incomplete at {turn.stage.value}"⟩
      else .stage .reserve turn
  | some existing =>
      if call.stageAdapters.isNone ∧ existing.status ≠ .succeeded then failed ⟨.replayIncomplete,
        s!"persisted {turn.stage.value} stage is {existing.status.value}"⟩
      else .stage (.validate reference) turn

def phaseAfterReserve (turn : StageTurn F) (reference : PersistedStageReference) :
    Option ExperimentRunRecord → ChainPhase F
  | none => .stage .readScreening turn
  | some _ => .stage (.validate reference) turn

def phaseAfterScreeningRead (turn : StageTurn F) : Option ExperimentRunRecord → ChainPhase F
  | none => failed ⟨.assertionError, ""⟩
  | some screening => .stage (.create screening) turn

def phaseAfterTaken (turn : StageTurn F) (reference : PersistedStageReference)
    (error : ChainError) : Option ExperimentRunRecord → ChainPhase F
  | none => failed error
  | some _ => .stage (.validate reference) turn

def phaseAfterCreate (turn : StageTurn F) (store : ChainStore F) :
    Except ChainError Database → ChainPhase F × ChainStore F
  | .ok db => (.stage .invoke turn, { store with db := db })
  | .error error =>
      if error.kind = .integrityError then (.stage (.taken error) turn, store)
      else (failed error, store)

def invocationUnknown (stage : RunStage) : ChainPhase F :=
  failed ⟨.invocationUnknown, stage.value ++
    " adapter outcome is unknown; automatic rerun is blocked pending owner investigation"⟩

def phaseAfterRaise (turn : StageTurn F) (reference : PersistedStageReference) :
    Option ExperimentRunRecord → ChainPhase F
  | none => invocationUnknown turn.stage
  | some persisted => match persisted.status with
      | .succeeded => .stage (.validate reference) turn
      | .created => .stage .markFailed turn
      | .running => .stage .markFailed turn
      | .failed => invocationUnknown turn.stage
      | .cancelled => invocationUnknown turn.stage

def phaseAfterMark (turn : StageTurn F) (store : ChainStore F) :
    Except ChainError (ExperimentRunRecord × Database) → ChainPhase F × ChainStore F
  | .ok (run, db) => (.stage (.logFailed run.completedAt) turn, { store with db := db })
  | .error error => (failed error, store)

def phaseAfterLog (turn : StageTurn F) (store : ChainStore F) :
    Except ChainError Database → ChainPhase F × ChainStore F
  | .ok db => (invocationUnknown turn.stage, { store with db := db })
  | .error error => (failed error, store)

def phaseAfterValidate (turn : StageTurn F) (reference : PersistedStageReference) :
    Except ChainError Unit → ChainPhase F
  | .error error => failed error
  | .ok () => .stage (.evidence reference) turn

def phaseAfterHandoff (call : ChainCall) (turn : StageTurn F)
    (reference : PersistedStageReference) :
    Except ChainError (FilterStageHandoff × Option (SourceLockEvidence F)) → ChainPhase F
  | .error error => failed error
  | .ok (handoff, sourceLock) =>
      let progress := turn.progress.extend reference handoff sourceLock
      if handoff.eligibleToProgress then nextTurn progress turn.rest
      else .finished (.ok (stoppedAt call.screeningRunId progress.completed handoff))

def unknownSummary : String := "Filter-stage adapter outcome is unknown; automatic " ++
  "rerun is blocked pending owner investigation."

def unknownMessage : String :=
  "Filter stage stopped with an unknown outcome; automatic rerun is blocked."

/-- One access to the database inside a turn, or the start of the adapter. -/
def proceedStage (call : ChainCall) (point : StagePoint) (turn : StageTurn F)
    (store : ChainStore F) (now : String) (runtimeLineage : Except ChainError (PyValue F)) :
    ChainPhase F × ChainStore F :=
  let context := stageContext runtime call.screeningRunId turn.progress turn.stage
  let found := store.db.runs.get context.runId
  match point with
  | .lookup => (phaseAfterLookup call turn context.reference found, store)
  | .reserve => (phaseAfterReserve turn context.reference found, store)
  | .readScreening => (phaseAfterScreeningRead turn (store.db.runs.get call.screeningRunId), store)
  | .create screening => phaseAfterCreate turn store
      (createStageRun runtime store.db screening context now runtimeLineage)
  | .taken error => (phaseAfterTaken turn context.reference error found, store)
  | .invoke => (.stage .running turn, store)
  | .running => (.stage .running turn, store)
  | .recover => (phaseAfterRaise turn context.reference found, store)
  | .markFailed => phaseAfterMark turn store (fromStore
      (RunRepository.transition store.db context.runId .failed (some unknownSummary) now))
  | .logFailed completedAt => phaseAfterLog turn store (fromStore
      (RunEventRepository.append store.db context.runId .runFailed .error unknownMessage
        (completedAt.getD now)))
  | .validate reference => (phaseAfterValidate turn reference
      (validatePersistedReference runtime store context reference), store)
  | .evidence reference => (phaseAfterHandoff call turn reference
      (stageHandoff store reference turn.progress.sourceLock), store)

def chainStep (call : ChainCall) (phase : ChainPhase F) (store : ChainStore F)
    (input : ChainInput F) : ChainPhase F × ChainStore F :=
  match phase, input with
  | .begin, .proceed _ _ => (phaseAfterScreening (checkScreening store call.screeningRunId), store)
  | .ranked, .proceed _ _ => (phaseAfterRanked call (readRanked store call.screeningRunId), store)
  | .stage .running turn, .adapterReturned reference => (.stage (.validate reference) turn, store)
  | .stage .running turn, .adapterRaised => (.stage .recover turn, store)
  | .stage point turn, .proceed now runtimeLineage =>
      proceedStage runtime call point turn store now runtimeLineage
  | .gate progress, .proceed _ _ =>
      (.finished (readGate runtime store call.screeningRunId progress), store)
  | phase, _ => (phase, store)

end Step

/-! ## What every writer keeps -/

structure RowKept (before after : ExperimentRunRecord) : Prop where
  identity : after.identity = before.identity
  succeeded : before.status = .succeeded →
    after.status = .succeeded ∧ after.environmentJson = before.environmentJson

def RunsKept (db next : Database) : Prop :=
  ∀ runId run, db.runs.get runId = some run →
    ∃ after, next.runs.get runId = some after ∧ RowKept run after

theorem rowKept_refl (run : ExperimentRunRecord) : RowKept run run :=
  ⟨rfl, fun succeeded => ⟨succeeded, rfl⟩⟩

theorem runsKept_refl (db : Database) : RunsKept db db :=
  fun _ run found => ⟨run, found, rowKept_refl run⟩

theorem runsKept_trans {first second third : Database} (before : RunsKept first second)
    (after : RunsKept second third) : RunsKept first third := by
  intro runId run found
  obtain ⟨middle, middleFound, middleKept⟩ := before runId run found
  obtain ⟨last, lastFound, lastKept⟩ := after runId middle middleFound
  refine ⟨last, lastFound, lastKept.identity.trans middleKept.identity, ?_⟩
  intro succeeded
  obtain ⟨middleStatus, middleEnvironment⟩ := middleKept.succeeded succeeded
  obtain ⟨lastStatus, lastEnvironment⟩ := lastKept.succeeded middleStatus
  exact ⟨lastStatus, lastEnvironment.trans middleEnvironment⟩

theorem runsKept_of_runs {db next : Database} (same : next.runs = db.runs) :
    RunsKept db next := by
  intro runId run found
  exact ⟨run, by rw [same]; exact found, rowKept_refl run⟩

theorem create_kept {db next : Database} {run created : ExperimentRunRecord}
    (done : RunRepository.create db run = .ok (created, next)) : RunsKept db next := by
  unfold RunRepository.create at done
  cases inserted : db.runs.insert run with
  | none => simp [inserted] at done
  | some runs =>
      simp only [inserted, Except.ok.injEq, Prod.mk.injEq] at done
      obtain ⟨_, rfl⟩ := done
      intro runId old found
      refine ⟨old, ?_, rowKept_refl old⟩
      rw [Table.get_insert inserted, if_neg, found]
      rintro rfl
      rw [(Table.insert_some_iff.mp inserted).1] at found
      cases found

theorem transition_kept {db next : Database} {runId now : String} {status : RunStatus}
    {summary : Option String} {moved : ExperimentRunRecord}
    (done : RunRepository.transition db runId status summary now = .ok (moved, next)) :
    RunsKept db next := by
  unfold RunRepository.transition at done
  cases current : db.runs.get runId with
  | none => simp [current] at done
  | some run =>
      simp only [current] at done
      split at done
      · rename_i allowed
        simp only [Except.ok.injEq, Prod.mk.injEq] at done
        obtain ⟨_, rfl⟩ := done
        intro otherId old found
        rw [Table.get_update]
        by_cases same : otherId = runId
        · subst same
          rw [current] at found
          cases found
          refine ⟨(RunRepository.setStatus status summary now).apply run,
            by rw [if_pos rfl, current]; rfl, rfl, ?_⟩
          intro succeeded
          rw [succeeded] at allowed
          simp [runStatusTransitions] at allowed
        · exact ⟨old, by rw [if_neg same]; exact found, rowKept_refl old⟩
      · cases done

theorem append_runs {db next : Database} {runId message occurredAt : String}
    {eventType : RunEventType} {severity : EventSeverity}
    (done : RunEventRepository.append db runId eventType severity message occurredAt =
      .ok next) : next.runs = db.runs := by
  unfold RunEventRepository.append at done
  simp only at done
  split at done
  · cases done
  · split at done
    · cases done
    · split at done
      · cases done
      · cases done
        rfl

theorem fromStore_eq_ok {α : Type} {done : Except LaunchError α} {value : α} :
    fromStore done = .ok value ↔ done = .ok value := by
  cases done <;> simp [fromStore]

/-! ## The system -/

structure StoreWrite (F : Type) [PyNumber F] where
  apply : ChainStore F → ChainStore F
  keeps : ∀ store, RunsKept store.db (apply store).db

structure ChainProcess (F : Type) where
  call : ChainCall
  phase : ChainPhase F

structure ChainSystem (F : Type) [PyNumber F] where
  store : ChainStore F
  processes : List (ChainProcess F)
  invocations : List (String × RunStage)

inductive ChainAction (F : Type) [PyNumber F] where
  | call (call : ChainCall)
  | advance (process : Nat) (input : ChainInput F)
  | write (write : StoreWrite F)

section System
variable {F : Type} [PyNumber F] (runtime : PythonRuntime F)

def startedAdapter (process : ChainProcess F) (input : ChainInput F) : List (String × RunStage) :=
  match process.phase, input with
  | .stage .invoke turn, .proceed _ _ => [(process.call.screeningRunId, turn.stage)]
  | _, _ => []

def advanceCall (system : ChainSystem F) (index : Nat) (input : ChainInput F) : ChainSystem F :=
  match system.processes[index]? with
  | none => system
  | some process =>
      let moved := chainStep runtime process.call process.phase system.store input
      { store := moved.2
        processes := system.processes.set index { process with phase := moved.1 }
        invocations := startedAdapter process input ++ system.invocations }

def systemStep (system : ChainSystem F) : ChainAction F → ChainSystem F
  | .call call => { system with processes := system.processes ++ [⟨call, .begin⟩] }
  | .advance index input => advanceCall runtime system index input
  | .write write => { system with store := write.apply system.store }

def startSystem (store : ChainStore F) : ChainSystem F := ⟨store, [], []⟩

/-! ## What a step does to the store -/

theorem createStageRun_kept {db next : Database} {screening : ExperimentRunRecord}
    {context : FilterStageContext} {now : String} {lineage : Except ChainError (PyValue F)}
    (done : createStageRun runtime db screening context now lineage = .ok next) :
    RunsKept db next := by
  unfold createStageRun at done
  obtain ⟨_, _, done⟩ := bind_eq_ok.mp done
  obtain ⟨_, _, done⟩ := bind_eq_ok.mp done
  obtain ⟨created, inserted, done⟩ := bind_eq_ok.mp done
  cases done
  exact create_kept (fromStore_eq_ok.mp inserted)

/-- A step of a call reads the store, or changes its database in a way that keeps runs. -/
theorem chainStep_store (call : ChainCall) (phase : ChainPhase F) (store : ChainStore F)
    (input : ChainInput F) :
    ∃ db, (chainStep runtime call phase store input).2 = { store with db := db } ∧
      RunsKept store.db db := by
  have still : ∃ db, store = { store with db := db } ∧ RunsKept store.db db :=
    ⟨store.db, rfl, runsKept_refl store.db⟩
  cases phase with
  | stage point turn =>
      cases input with
      | proceed now lineage =>
          cases point with
          | create screening =>
              simp only [chainStep, proceedStage, phaseAfterCreate]
              split
              · rename_i db created
                exact ⟨db, rfl, createStageRun_kept runtime created⟩
              · split <;> exact still
          | markFailed =>
              simp only [chainStep, proceedStage, phaseAfterMark]
              split
              · rename_i run db moved
                exact ⟨db, rfl, transition_kept (fromStore_eq_ok.mp moved)⟩
              · exact still
          | logFailed completedAt =>
              simp only [chainStep, proceedStage, phaseAfterLog]
              split
              · rename_i db appended
                exact ⟨db, rfl, runsKept_of_runs (append_runs (fromStore_eq_ok.mp appended))⟩
              · exact still
          | _ => exact still
      | _ => cases point <;> exact still
  | _ => cases input <;> exact still

theorem createStageRun_eq_ok {db next : Database} {screening : ExperimentRunRecord}
    {context : FilterStageContext} {now : String} {lineage : Except ChainError (PyValue F)}
    (done : createStageRun runtime db screening context now lineage = .ok next) :
    db.runs.get context.runId = none ∧ (next.runs.get context.runId).isSome = true := by
  unfold createStageRun at done
  obtain ⟨_, _, done⟩ := bind_eq_ok.mp done
  obtain ⟨environmentJson, _, done⟩ := bind_eq_ok.mp done
  obtain ⟨created, inserted, done⟩ := bind_eq_ok.mp done
  cases done
  have inserted := fromStore_eq_ok.mp inserted
  unfold RunRepository.create at inserted
  cases row : db.runs.insert (reservedRun screening context environmentJson now) with
  | none => simp [row] at inserted
  | some runs =>
      simp only [row, Except.ok.injEq] at inserted
      subst inserted
      have fresh := (Table.insert_some_iff.mp row).1
      refine ⟨fresh, ?_⟩
      change (runs.get context.runId).isSome = true
      rw [Table.get_insert row]
      simp [reservedRun]

inductive TurnMove (call : ChainCall) (turn : StageTurn F) (store : ChainStore F) :
    StagePoint → ChainPhase F → ChainStore F → Prop where
  | failed {point : StagePoint} {next : ChainStore F} (error : ChainError) :
      TurnMove call turn store point (.finished (.error error)) next
  | within {point : StagePoint} {next : ChainStore F} (after : StagePoint)
      (notInvoke : after ≠ .invoke) (notEvidence : ∀ reference, after ≠ .evidence reference) :
      TurnMove call turn store point (.stage after turn) next
  | reserved (screening : ExperimentRunRecord) (db : Database)
      (fresh : store.db.runs.get
        (stageContext runtime call.screeningRunId turn.progress turn.stage).runId = none)
      (present : (db.runs.get
        (stageContext runtime call.screeningRunId turn.progress turn.stage).runId).isSome = true) :
      TurnMove call turn store (.create screening) (.stage .invoke turn) { store with db := db }
  | validated (reference : PersistedStageReference)
      (valid : validatePersistedReference runtime store
        (stageContext runtime call.screeningRunId turn.progress turn.stage) reference = .ok ()) :
      TurnMove call turn store (.validate reference) (.stage (.evidence reference) turn) store
  | handedOn (reference : PersistedStageReference) (handoff : FilterStageHandoff)
      (sourceLock : Option (SourceLockEvidence F))
      (handed : stageHandoff store reference turn.progress.sourceLock = .ok (handoff, sourceLock))
      (eligible : handoff.eligibleToProgress = true) :
      TurnMove call turn store (.evidence reference)
        (nextTurn (turn.progress.extend reference handoff sourceLock) turn.rest) store
  | stopped (reference : PersistedStageReference) (handoff : FilterStageHandoff)
      (sourceLock : Option (SourceLockEvidence F))
      (handed : stageHandoff store reference turn.progress.sourceLock = .ok (handoff, sourceLock))
      (ineligible : handoff.eligibleToProgress = false) :
      TurnMove call turn store (.evidence reference) (.finished (.ok (stoppedAt
        call.screeningRunId (turn.progress.completed ++ [handoff]) handoff))) store

theorem proceedStage_move (call : ChainCall) (point : StagePoint) (turn : StageTurn F)
    (store : ChainStore F) (now : String) (lineage : Except ChainError (PyValue F)) :
    TurnMove runtime call turn store point
      (proceedStage runtime call point turn store now lineage).1
      (proceedStage runtime call point turn store now lineage).2 := by
  cases point with
  | lookup =>
      simp only [proceedStage, phaseAfterLookup]
      split
      · split
        · exact .failed _
        · exact .within .reserve (by simp) (by simp)
      · split
        · exact .failed _
        · exact .within (.validate _) (by simp) (by simp)
  | reserve =>
      simp only [proceedStage, phaseAfterReserve]
      split
      · exact .within .readScreening (by simp) (by simp)
      · exact .within (.validate _) (by simp) (by simp)
  | readScreening =>
      simp only [proceedStage, phaseAfterScreeningRead]
      split
      · exact .failed _
      · exact .within (.create _) (by simp) (by simp)
  | create screening =>
      simp only [proceedStage, phaseAfterCreate]
      split
      · rename_i db created
        obtain ⟨fresh, present⟩ := createStageRun_eq_ok runtime created
        exact .reserved screening db fresh present
      · split
        · exact .within (.taken _) (by simp) (by simp)
        · exact .failed _
  | taken error =>
      simp only [proceedStage, phaseAfterTaken]
      split
      · exact .failed _
      · exact .within (.validate _) (by simp) (by simp)
  | invoke => exact .within .running (by simp) (by simp)
  | running => exact .within .running (by simp) (by simp)
  | recover =>
      simp only [proceedStage, phaseAfterRaise]
      split
      · exact .failed _
      · split
        · exact .within (.validate _) (by simp) (by simp)
        · exact .within .markFailed (by simp) (by simp)
        · exact .within .markFailed (by simp) (by simp)
        · exact .failed _
        · exact .failed _
  | markFailed =>
      simp only [proceedStage, phaseAfterMark]
      split
      · exact .within (.logFailed _) (by simp) (by simp)
      · exact .failed _
  | logFailed completedAt =>
      simp only [proceedStage, phaseAfterLog]
      split
      · exact .failed _
      · exact .failed _
  | validate reference =>
      simp only [proceedStage, phaseAfterValidate]
      split
      · exact .failed _
      · rename_i valid
        exact .validated reference valid
  | evidence reference =>
      simp only [proceedStage, phaseAfterHandoff]
      split
      · exact .failed _
      · rename_i handoff sourceLock handed
        split
        · rename_i eligible
          exact .handedOn reference handoff sourceLock handed eligible
        · rename_i ineligible
          exact .stopped reference handoff sourceLock handed (by simpa using ineligible)

theorem chainStep_kept (call : ChainCall) (phase : ChainPhase F) (store : ChainStore F)
    (input : ChainInput F) :
    RunsKept store.db (chainStep runtime call phase store input).2.db := by
  obtain ⟨db, same, kept⟩ := chainStep_store runtime call phase store input
  rw [same]
  exact kept

def SystemKept (before after : ChainSystem F) : Prop := RunsKept before.store.db after.store.db

theorem systemStep_kept (system : ChainSystem F) (action : ChainAction F) :
    SystemKept system (systemStep runtime system action) := by
  unfold SystemKept
  cases action with
  | call call => exact runsKept_refl _
  | advance index input =>
      simp only [systemStep, advanceCall]
      split
      · exact runsKept_refl _
      · exact chainStep_kept runtime _ _ _ input
  | write write => exact write.keeps system.store

theorem run_kept (system : ChainSystem F) (actions : List (ChainAction F)) :
    SystemKept system (run (systemStep runtime) system actions) :=
  run_relation (systemStep runtime) (systemStep_kept runtime)
    (fun system => runsKept_refl system.store.db) (fun _ _ _ => runsKept_trans) actions system

end System

end QuantFactory.FilterChain
