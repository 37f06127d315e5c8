import QuantFactory.FilterChain.Stages
import QuantFactory.Python.Samples

/-!
# Reopened chains

The outcome of a chain as one function of the store.  A call that returns an
outcome has read what this function reads; runs that have succeeded keep what
they have persisted, so every later call reads the same.
-/

set_option autoImplicit false

namespace QuantFactory.FilterChain

open QuantFactory.Library QuantFactory.Python QuantFactory.Persistence QuantFactory.Launch
open QuantFactory.Validation

section Read
variable {F : Type} [PyNumber F] (runtime : PythonRuntime F)

def readTurn (store : ChainStore F) (screeningRunId : String) (progress : ChainProgress F)
    (stage : RunStage) : Except ChainError (FilterStageHandoff × ChainProgress F) := do
  let context := stageContext runtime screeningRunId progress stage
  validatePersistedReference runtime store context context.reference
  let handed ← stageHandoff store context.reference progress.sourceLock
  .ok (handed.1, progress.extend context.reference handed.1 handed.2)

def readStages (store : ChainStore F) (screeningRunId : String) (progress : ChainProgress F) :
    List RunStage → Except ChainError FilterChainOutcome
  | [] => readGate runtime store screeningRunId progress
  | stage :: rest => do
      let read ← readTurn runtime store screeningRunId progress stage
      if read.1.eligibleToProgress then readStages store screeningRunId read.2 rest
      else .ok (stoppedAt screeningRunId read.2.completed read.1)

def readResults (store : ChainStore F) (screeningRunId : String) :
    Except ChainError FilterChainOutcome := do
  let settled ← readRanked store screeningRunId
  match settled with
  | some outcome => .ok outcome
  | none => readStages runtime store screeningRunId (noProgress F) validationStageOrder

def persistedOutcome (store : ChainStore F) (screeningRunId : String) :
    Except ChainError FilterChainOutcome := do
  checkScreening store screeningRunId
  readResults runtime store screeningRunId

/-! ## What succeeded runs keep -/

def Succeeded (store : ChainStore F) (runId : String) : Prop :=
  ∃ run, store.db.runs.get runId = some run ∧ run.status = .succeeded

theorem succeeded_kept {store next : ChainStore F} {runId : String}
    (kept : StoreKept store next) (succeeded : Succeeded store runId) :
    Succeeded next runId := by
  obtain ⟨run, found, status⟩ := succeeded
  obtain ⟨after, foundAfter, rowKept⟩ := kept.rows runId run found
  exact ⟨after, foundAfter, (rowKept.succeeded status).1⟩

def AllSucceeded (store : ChainStore F) (references : List PersistedStageReference) : Prop :=
  ∀ reference ∈ references, Succeeded store reference.runId

theorem allSucceeded_kept {store next : ChainStore F}
    {references : List PersistedStageReference} (kept : StoreKept store next)
    (succeeded : AllSucceeded store references) : AllSucceeded next references :=
  fun reference member => succeeded_kept kept (succeeded reference member)

theorem checkScreening_eq_ok {store : ChainStore F} {screeningRunId : String} :
    checkScreening store screeningRunId = .ok () ↔
      ∃ run, store.db.runs.get screeningRunId = some run ∧ run.stage = .screening ∧
        run.status = .succeeded := by
  unfold checkScreening
  constructor
  · intro checked
    obtain ⟨run, found, checked⟩ := bind_eq_ok.mp checked
    obtain ⟨stage, status⟩ := raiseIf_bind_eq_ok.mp checked
    refine ⟨run, orRaise_eq_ok.mp found, by simpa using stage, ?_⟩
    simpa using raiseIf_eq_ok.mp status
  · intro checked
    obtain ⟨run, found, stage, status⟩ := checked
    simp [found, stage, status, orRaise, raiseIf, bind, Except.bind]

theorem checkScreening_kept {store next : ChainStore F} {screeningRunId : String}
    (kept : StoreKept store next) (checked : checkScreening store screeningRunId = .ok ()) :
    checkScreening next screeningRunId = .ok () ∧
      readRanked next screeningRunId = readRanked store screeningRunId := by
  obtain ⟨run, found, stage, status⟩ := checkScreening_eq_ok.mp checked
  obtain ⟨after, foundAfter, rowKept⟩ := kept.rows _ run found
  refine ⟨checkScreening_eq_ok.mpr ⟨after, foundAfter, ?_, (rowKept.succeeded status).1⟩, ?_⟩
  · exact (congrArg RunIdentity.stage rowKept.identity).trans stage
  · unfold readRanked
    rw [(kept.evidence _ run found status).2]

theorem validate_kept {store next : ChainStore F} {context : FilterStageContext}
    {reference : PersistedStageReference} (kept : StoreKept store next)
    (valid : validatePersistedReference runtime store context reference = .ok ()) :
    validatePersistedReference runtime next context reference = .ok () := by
  obtain ⟨same, solid, source, persisted, environment, sourceFound, found, identity, loaded,
    lineage⟩ := (validate_eq_ok runtime).mp valid
  obtain ⟨sourceAfter, sourceFoundAfter, sourceKept⟩ := kept.rows _ _ sourceFound
  obtain ⟨after, foundAfter, rowKept⟩ := kept.rows _ _ found
  obtain ⟨identityAfter, sameEnvironment⟩ := sameRunIdentity_kept identity sourceKept rowKept
  exact (validate_eq_ok runtime).mpr ⟨same, solid, sourceAfter, after, environment,
    sourceFoundAfter, foundAfter, identityAfter, by rw [sameEnvironment, loaded], lineage⟩

theorem validate_succeeded {store : ChainStore F} {context : FilterStageContext}
    {reference : PersistedStageReference}
    (valid : validatePersistedReference runtime store context reference = .ok ()) :
    Succeeded store reference.runId := by
  obtain ⟨rfl, _, source, persisted, _, _, found, identity, _, _⟩ :=
    (validate_eq_ok runtime).mp valid
  exact ⟨persisted, found, sameRunIdentity_succeeded identity⟩

theorem stageHandoff_kept {store next : ChainStore F} {reference : PersistedStageReference}
    (kept : StoreKept store next) (succeeded : Succeeded store reference.runId)
    (sourceLock : Option (SourceLockEvidence F)) :
    stageHandoff next reference sourceLock = stageHandoff store reference sourceLock := by
  obtain ⟨run, found, status⟩ := succeeded
  unfold stageHandoff
  rw [(kept.evidence _ run found status).1, persistedStageOutcome_kept kept found status]

theorem retrieveStage_kept {store next : ChainStore F}
    {references : List PersistedStageReference} {runStage : RunStage} {runId : String}
    (kept : StoreKept store next) (succeeded : AllSucceeded store references)
    (named : runOfStage references runStage = .ok runId) (stage : EvidenceStage) :
    retrieveStage next runId stage = retrieveStage store runId stage := by
  unfold runOfStage at named
  obtain ⟨reference, found, rfl⟩ := Option.map_eq_some_iff.mp (orRaise_eq_ok.mp named)
  obtain ⟨run, runFound, status⟩ := succeeded reference (List.mem_of_find?_eq_some found)
  unfold retrieveStage
  rw [(kept.evidence _ run runFound status).1]

theorem readGate_kept {store next : ChainStore F} {screeningRunId : String}
    {progress : ChainProgress F} {outcome : FilterChainOutcome} (kept : StoreKept store next)
    (succeeded : AllSucceeded store progress.references)
    (read : readGate runtime store screeningRunId progress = .ok outcome) :
    readGate runtime next screeningRunId progress = .ok outcome := by
  unfold readGate at read ⊢
  obtain ⟨lock, lockFound, read⟩ := bind_eq_ok.mp read
  obtain ⟨walkForwardRun, walkForwardNamed, read⟩ := bind_eq_ok.mp read
  obtain ⟨monteCarloRun, monteCarloNamed, read⟩ := bind_eq_ok.mp read
  obtain ⟨robustnessRun, robustnessNamed, read⟩ := bind_eq_ok.mp read
  refine bind_eq_ok.mpr ⟨lock, lockFound, ?_⟩
  refine bind_eq_ok.mpr ⟨walkForwardRun, walkForwardNamed, ?_⟩
  refine bind_eq_ok.mpr ⟨monteCarloRun, monteCarloNamed, ?_⟩
  refine bind_eq_ok.mpr ⟨robustnessRun, robustnessNamed, ?_⟩
  rw [retrieveStage_kept kept succeeded walkForwardNamed,
    retrieveStage_kept kept succeeded monteCarloNamed,
    retrieveStage_kept kept succeeded robustnessNamed]
  exact read

theorem readTurn_eq_ok {store : ChainStore F} {screeningRunId : String}
    {progress : ChainProgress F} {stage : RunStage}
    {read : FilterStageHandoff × ChainProgress F} :
    readTurn runtime store screeningRunId progress stage = .ok read ↔
      validatePersistedReference runtime store (stageContext runtime screeningRunId progress stage)
        (stageContext runtime screeningRunId progress stage).reference = .ok () ∧
      ∃ handed, stageHandoff store (stageContext runtime screeningRunId progress stage).reference
          progress.sourceLock = .ok handed ∧
        (handed.1, progress.extend (stageContext runtime screeningRunId progress stage).reference
          handed.1 handed.2) = read := by
  unfold readTurn
  constructor
  · intro done
    obtain ⟨_, valid, done⟩ := bind_eq_ok.mp done
    obtain ⟨handed, handoff, done⟩ := bind_eq_ok.mp done
    exact ⟨valid, handed, handoff, Except.ok.inj done⟩
  · intro done
    obtain ⟨valid, handed, handoff, rfl⟩ := done
    exact bind_eq_ok.mpr ⟨(), valid, bind_eq_ok.mpr ⟨handed, handoff, rfl⟩⟩

theorem readTurn_kept {store next : ChainStore F} {screeningRunId : String}
    {progress : ChainProgress F} {stage : RunStage}
    {read : FilterStageHandoff × ChainProgress F} (kept : StoreKept store next)
    (turn : readTurn runtime store screeningRunId progress stage = .ok read) :
    readTurn runtime next screeningRunId progress stage = .ok read := by
  obtain ⟨valid, handed, handoff, built⟩ := (readTurn_eq_ok runtime).mp turn
  refine (readTurn_eq_ok runtime).mpr ⟨validate_kept runtime kept valid, handed, ?_, built⟩
  rw [stageHandoff_kept kept (validate_succeeded runtime valid), handoff]

theorem readTurn_succeeded {store : ChainStore F} {screeningRunId : String}
    {progress : ChainProgress F} {stage : RunStage}
    {read : FilterStageHandoff × ChainProgress F}
    (turn : readTurn runtime store screeningRunId progress stage = .ok read)
    (succeeded : AllSucceeded store progress.references) :
    AllSucceeded store read.2.references := by
  obtain ⟨valid, handed, _, rfl⟩ := (readTurn_eq_ok runtime).mp turn
  intro reference member
  rcases List.mem_append.mp member with before | last
  · exact succeeded reference before
  · rw [List.mem_singleton.mp last]
    exact validate_succeeded runtime valid

theorem readStages_kept {store next : ChainStore F} {screeningRunId : String}
    {outcome : FilterChainOutcome} (kept : StoreKept store next) (stages : List RunStage) :
    ∀ progress : ChainProgress F, AllSucceeded store progress.references →
      readStages runtime store screeningRunId progress stages = .ok outcome →
      readStages runtime next screeningRunId progress stages = .ok outcome := by
  induction stages with
  | nil =>
      intro progress succeeded read
      exact readGate_kept runtime kept succeeded read
  | cons stage rest ih =>
      intro progress succeeded read
      rw [readStages] at read ⊢
      obtain ⟨turn, turnRead, read⟩ := bind_eq_ok.mp read
      refine bind_eq_ok.mpr ⟨turn, readTurn_kept runtime kept turnRead, ?_⟩
      cases eligible : turn.1.eligibleToProgress with
      | true =>
          simp only [eligible, if_true] at read ⊢
          exact ih turn.2 (readTurn_succeeded runtime turnRead succeeded) read
      | false =>
          simp only [eligible, Bool.false_eq_true, if_false] at read ⊢
          exact read

theorem noProgress_succeeded (store : ChainStore F) :
    AllSucceeded store (noProgress F).references :=
  fun _ member => absurd member List.not_mem_nil

theorem readResults_kept {store next : ChainStore F} {screeningRunId : String}
    {outcome : FilterChainOutcome} (kept : StoreKept store next)
    (checked : checkScreening store screeningRunId = .ok ())
    (read : readResults runtime store screeningRunId = .ok outcome) :
    readResults runtime next screeningRunId = .ok outcome := by
  unfold readResults at read ⊢
  rw [(checkScreening_kept kept checked).2]
  obtain ⟨settled, ranked, read⟩ := bind_eq_ok.mp read
  refine bind_eq_ok.mpr ⟨settled, ranked, ?_⟩
  cases settled with
  | some screened => exact read
  | none => exact readStages_kept runtime kept _ _ (noProgress_succeeded store) read

theorem persistedOutcome_kept {store next : ChainStore F} {screeningRunId : String}
    {outcome : FilterChainOutcome} (kept : StoreKept store next)
    (read : persistedOutcome runtime store screeningRunId = .ok outcome) :
    persistedOutcome runtime next screeningRunId = .ok outcome := by
  unfold persistedOutcome at read ⊢
  obtain ⟨_, checked, read⟩ := bind_eq_ok.mp read
  exact bind_eq_ok.mpr ⟨(), (checkScreening_kept kept checked).1,
    readResults_kept runtime kept checked read⟩

/-! ## What a call has read -/

/-- The turns a call has made, each of which the store would give again. -/
inductive Reached (store : ChainStore F) (screeningRunId : String) :
    ChainProgress F → List RunStage → Prop where
  | start : Reached store screeningRunId (noProgress F) validationStageOrder
  | next {progress : ChainProgress F} {stage : RunStage} {rest : List RunStage}
      {read : FilterStageHandoff × ChainProgress F}
      (before : Reached store screeningRunId progress (stage :: rest))
      (turn : readTurn runtime store screeningRunId progress stage = .ok read)
      (eligible : read.1.eligibleToProgress = true) :
      Reached store screeningRunId read.2 rest

theorem reached_kept {store next : ChainStore F} {screeningRunId : String}
    {progress : ChainProgress F} {stages : List RunStage} (kept : StoreKept store next)
    (reached : Reached runtime store screeningRunId progress stages) :
    Reached runtime next screeningRunId progress stages := by
  induction reached with
  | start => exact .start
  | next before turn eligible ih => exact .next ih (readTurn_kept runtime kept turn) eligible

theorem reached_readStages {store : ChainStore F} {screeningRunId : String}
    {progress : ChainProgress F} {stages : List RunStage}
    (reached : Reached runtime store screeningRunId progress stages) :
    readStages runtime store screeningRunId (noProgress F) validationStageOrder =
      readStages runtime store screeningRunId progress stages := by
  induction reached with
  | start => rfl
  | next before turn eligible ih =>
      rw [ih, readStages, turn, bind_ok, if_pos eligible]

structure Admitted (store : ChainStore F) (screeningRunId : String) : Prop where
  checked : checkScreening store screeningRunId = .ok ()
  ranked : readRanked store screeningRunId = .ok none

theorem admitted_kept {store next : ChainStore F} {screeningRunId : String}
    (kept : StoreKept store next) (admitted : Admitted store screeningRunId) :
    Admitted next screeningRunId := by
  obtain ⟨checked, ranked⟩ := checkScreening_kept kept admitted.checked
  exact ⟨checked, ranked.trans admitted.ranked⟩

theorem persistedOutcome_admitted {store : ChainStore F} {screeningRunId : String}
    (admitted : Admitted store screeningRunId) :
    persistedOutcome runtime store screeningRunId =
      readStages runtime store screeningRunId (noProgress F) validationStageOrder := by
  unfold persistedOutcome readResults
  rw [admitted.checked, bind_ok, admitted.ranked, bind_ok]

def ValidatedBefore (store : ChainStore F) (screeningRunId : String) (turn : StageTurn F) :
    StagePoint → Prop
  | .evidence reference =>
      validatePersistedReference runtime store
        (stageContext runtime screeningRunId turn.progress turn.stage) reference = .ok ()
  | _ => True

/-- What a call has read so far is what the store would give again. -/
def Follows (store : ChainStore F) (screeningRunId : String) : ChainPhase F → Prop
  | .begin => True
  | .ranked => checkScreening store screeningRunId = .ok ()
  | .stage point turn => Admitted store screeningRunId ∧
      Reached runtime store screeningRunId turn.progress (turn.stage :: turn.rest) ∧
      ValidatedBefore runtime store screeningRunId turn point
  | .gate progress => Admitted store screeningRunId ∧
      Reached runtime store screeningRunId progress []
  | .finished (.ok outcome) => persistedOutcome runtime store screeningRunId = .ok outcome
  | .finished (.error _) => True

theorem validatedBefore_kept {store next : ChainStore F} {screeningRunId : String}
    {turn : StageTurn F} {point : StagePoint} (kept : StoreKept store next)
    (valid : ValidatedBefore runtime store screeningRunId turn point) :
    ValidatedBefore runtime next screeningRunId turn point := by
  cases point with
  | evidence reference => exact validate_kept runtime kept valid
  | _ => trivial

theorem follows_kept {store next : ChainStore F} {screeningRunId : String} {phase : ChainPhase F}
    (kept : StoreKept store next) (follows : Follows runtime store screeningRunId phase) :
    Follows runtime next screeningRunId phase := by
  cases phase with
  | begin => trivial
  | ranked => exact (checkScreening_kept kept follows).1
  | stage point turn =>
      obtain ⟨admitted, reached, valid⟩ := follows
      exact ⟨admitted_kept kept admitted, reached_kept runtime kept reached,
        validatedBefore_kept runtime kept valid⟩
  | gate progress =>
      obtain ⟨admitted, reached⟩ := follows
      exact ⟨admitted_kept kept admitted, reached_kept runtime kept reached⟩
  | finished result =>
      cases result with
      | error error => trivial
      | ok outcome => exact persistedOutcome_kept runtime kept follows

theorem validatedBefore_within {store : ChainStore F} {screeningRunId : String}
    {turn : StageTurn F} {point : StagePoint}
    (notEvidence : ∀ reference, point ≠ .evidence reference) :
    ValidatedBefore runtime store screeningRunId turn point := by
  cases point with
  | evidence reference => exact absurd rfl (notEvidence reference)
  | _ => trivial

theorem readTurn_of_handoff {store : ChainStore F} {screeningRunId : String} {turn : StageTurn F}
    {reference : PersistedStageReference} {handoff : FilterStageHandoff}
    {sourceLock : Option (SourceLockEvidence F)}
    (valid : validatePersistedReference runtime store
      (stageContext runtime screeningRunId turn.progress turn.stage) reference = .ok ())
    (handed : stageHandoff store reference turn.progress.sourceLock = .ok (handoff, sourceLock)) :
    readTurn runtime store screeningRunId turn.progress turn.stage =
      .ok (handoff, turn.progress.extend reference handoff sourceLock) := by
  obtain ⟨rfl, _⟩ := (validate_eq_ok runtime).mp valid
  exact (readTurn_eq_ok runtime).mpr ⟨valid, (handoff, sourceLock), handed, rfl⟩

theorem follows_next {store : ChainStore F} {screeningRunId : String}
    {progress : ChainProgress F} {stages : List RunStage}
    (admitted : Admitted store screeningRunId)
    (reached : Reached runtime store screeningRunId progress stages) :
    Follows runtime store screeningRunId (nextTurn progress stages) := by
  cases stages with
  | nil => exact ⟨admitted, reached⟩
  | cons stage rest => exact ⟨admitted, reached, trivial⟩

theorem follows_step {store : ChainStore F} {call : ChainCall} {phase : ChainPhase F}
    (follows : Follows runtime store call.screeningRunId phase) (input : ChainInput F) :
    Follows runtime store call.screeningRunId (chainStep runtime call phase store input).1 := by
  cases phase with
  | begin =>
      cases input with
      | proceed now lineage =>
          simp only [chainStep]
          cases checked : checkScreening store call.screeningRunId with
          | error error => trivial
          | ok done => exact checked
      | _ => trivial
  | ranked =>
      cases input with
      | proceed now lineage =>
          simp only [chainStep, phaseAfterRanked]
          split
          · trivial
          · rename_i outcome ranked
            have checked : checkScreening store call.screeningRunId = .ok () := follows
            change persistedOutcome runtime store call.screeningRunId = .ok outcome
            unfold persistedOutcome readResults
            rw [checked, bind_ok, ranked, bind_ok]
          · rename_i ranked
            split
            · trivial
            · exact follows_next runtime ⟨follows, ranked⟩ .start
      | _ => exact follows
  | stage point turn =>
      obtain ⟨admitted, reached, valid⟩ := follows
      cases input with
      | proceed now lineage =>
          have move := proceedStage_move runtime call point turn store now lineage
          have step : chainStep runtime call (.stage point turn) store (.proceed now lineage) =
              proceedStage runtime call point turn store now lineage := by cases point <;> rfl
          rw [step]
          generalize proceedStage runtime call point turn store now lineage = moved at move ⊢
          obtain ⟨phase, next⟩ := moved
          cases move with
          | failed error => trivial
          | within after notInvoke notEvidence =>
              exact ⟨admitted, reached, validatedBefore_within runtime notEvidence⟩
          | reserved screening db fresh present => exact ⟨admitted, reached, trivial⟩
          | validated reference accepted => exact ⟨admitted, reached, accepted⟩
          | handedOn reference handoff sourceLock handed eligible =>
              exact follows_next runtime admitted
                (.next reached (readTurn_of_handoff runtime valid handed) eligible)
          | stopped reference handoff sourceLock handed ineligible =>
              have turnRead := readTurn_of_handoff runtime valid handed
              change persistedOutcome runtime _ call.screeningRunId = .ok _
              rw [persistedOutcome_admitted runtime admitted, reached_readStages runtime reached,
                readStages, turnRead, bind_ok, if_neg (by simp [ineligible])]
              rfl
      | adapterReturned reference =>
          cases point with
          | running => exact ⟨admitted, reached, trivial⟩
          | _ => exact ⟨admitted, reached, valid⟩
      | adapterRaised =>
          cases point with
          | running => exact ⟨admitted, reached, trivial⟩
          | _ => exact ⟨admitted, reached, valid⟩
  | gate progress =>
      obtain ⟨admitted, reached⟩ := follows
      cases input with
      | proceed now lineage =>
          simp only [chainStep]
          cases outcome : readGate runtime store call.screeningRunId progress with
          | error error => trivial
          | ok value =>
              change persistedOutcome runtime store call.screeningRunId = .ok value
              rw [persistedOutcome_admitted runtime admitted, reached_readStages runtime reached]
              exact outcome
      | _ => exact ⟨admitted, reached⟩
  | finished result => cases input <;> exact follows

def AllFollow (system : ChainSystem F) : Prop :=
  ∀ process ∈ system.processes,
    Follows runtime system.store process.call.screeningRunId process.phase

theorem allFollow_step (system : ChainSystem F) (action : ChainAction F)
    (fixed : EvidenceFixed system action) (follow : AllFollow runtime system) :
    AllFollow runtime (systemStep runtime system action) := by
  cases action with
  | call call =>
      intro process member
      rcases List.mem_append.mp member with old | new
      · exact follow process old
      · rw [List.mem_singleton.mp new]
        trivial
  | write write =>
      intro process member
      exact follows_kept runtime ⟨write.keeps system.store, fixed⟩ (follow process member)
  | advance index input =>
      simp only [systemStep, advanceCall]
      cases found : system.processes[index]? with
      | none => exact follow
      | some process =>
          obtain ⟨inRange, rfl⟩ := List.getElem?_eq_some_iff.mp found
          have kept := chainStep_storeKept runtime system.processes[index].call
            system.processes[index].phase system.store input
          intro other member
          rcases List.mem_or_eq_of_mem_set member with old | rfl
          · exact follows_kept runtime kept (follow other old)
          · exact follows_kept runtime kept
              (follows_step runtime (follow _ (List.getElem_mem inRange)) input)

theorem finished_outcome {store : ChainStore F} {actions : List (ChainAction F)}
    (fixed : Along (systemStep runtime) EvidenceFixed (startSystem store) actions)
    {process : ChainProcess F} {outcome : FilterChainOutcome}
    (member : process ∈ (run (systemStep runtime) (startSystem store) actions).processes)
    (finished : process.phase = .finished (.ok outcome)) :
    persistedOutcome runtime (run (systemStep runtime) (startSystem store) actions).store
      process.call.screeningRunId = .ok outcome := by
  have follow := run_invariant_along (systemStep runtime) (allFollow_step runtime) actions
    (startSystem store) fixed (fun _ member => absurd member List.not_mem_nil)
  have follows := follow process member
  rw [finished] at follows
  exact follows

/-! ## Later calls -/

/-- A later call only reads, and what it still has to read gives the outcome. -/
def Rereads (store : ChainStore F) (screeningRunId : String) (outcome : FilterChainOutcome) :
    ChainPhase F → Prop
  | .begin => persistedOutcome runtime store screeningRunId = .ok outcome
  | .ranked => checkScreening store screeningRunId = .ok () ∧
      readResults runtime store screeningRunId = .ok outcome
  | .stage point turn => AllSucceeded store turn.progress.references ∧
      readStages runtime store screeningRunId turn.progress (turn.stage :: turn.rest) =
        .ok outcome ∧
      (point = .lookup ∨
        point = .validate (stageContext runtime screeningRunId turn.progress turn.stage).reference ∨
        point = .evidence (stageContext runtime screeningRunId turn.progress turn.stage).reference)
  | .gate progress => AllSucceeded store progress.references ∧
      readGate runtime store screeningRunId progress = .ok outcome
  | .finished result => result = .ok outcome

def stepsLeft : ChainPhase F → Nat
  | .begin => 15
  | .ranked => 14
  | .stage (.validate _) turn => 3 * turn.rest.length + 3
  | .stage (.evidence _) turn => 3 * turn.rest.length + 2
  | .stage _ turn => 3 * turn.rest.length + 4
  | .gate _ => 1
  | .finished _ => 0

theorem rereads_kept {store next : ChainStore F} {screeningRunId : String}
    {outcome : FilterChainOutcome} {phase : ChainPhase F} (kept : StoreKept store next)
    (rereads : Rereads runtime store screeningRunId outcome phase) :
    Rereads runtime next screeningRunId outcome phase := by
  cases phase with
  | begin => exact persistedOutcome_kept runtime kept rereads
  | ranked =>
      obtain ⟨checked, read⟩ := rereads
      exact ⟨(checkScreening_kept kept checked).1, readResults_kept runtime kept checked read⟩
  | stage point turn =>
      obtain ⟨succeeded, read, place⟩ := rereads
      exact ⟨allSucceeded_kept kept succeeded, readStages_kept runtime kept _ _ succeeded read,
        place⟩
  | gate progress =>
      obtain ⟨succeeded, read⟩ := rereads
      exact ⟨allSucceeded_kept kept succeeded, readGate_kept runtime kept succeeded read⟩
  | finished result => exact rereads

theorem rereads_next {store : ChainStore F} {screeningRunId : String}
    {outcome : FilterChainOutcome} {progress : ChainProgress F} {stages : List RunStage}
    (succeeded : AllSucceeded store progress.references)
    (read : readStages runtime store screeningRunId progress stages = .ok outcome) :
    Rereads runtime store screeningRunId outcome (nextTurn progress stages) ∧
      stepsLeft (nextTurn progress stages) ≤ 3 * stages.length + 1 := by
  cases stages with
  | nil => exact ⟨⟨succeeded, read⟩, Nat.le_refl 1⟩
  | cons stage rest =>
      refine ⟨⟨succeeded, read, Or.inl rfl⟩, ?_⟩
      simp only [nextTurn, stepsLeft, List.length_cons]
      omega

/-- An access of a later call changes nothing and brings it closer to its end. -/
structure RereadStep (store : ChainStore F) (call : ChainCall) (outcome : FilterChainOutcome)
    (phase : ChainPhase F) (after : ChainPhase F × ChainStore F) : Prop where
  unchanged : after.2 = store
  rereads : Rereads runtime store call.screeningRunId outcome after.1
  closer : stepsLeft after.1 ≤ stepsLeft phase - 1

theorem rereadStep_lookup {store : ChainStore F} {call : ChainCall} {outcome : FilterChainOutcome}
    {turn : StageTurn F}
    (rereads : Rereads runtime store call.screeningRunId outcome (.stage .lookup turn))
    (now : String) (lineage : Except ChainError (PyValue F)) :
    RereadStep runtime store call outcome (.stage .lookup turn)
      (proceedStage runtime call .lookup turn store now lineage) := by
  obtain ⟨succeeded, read, _⟩ := rereads
  have first := read
  rw [readStages] at first
  obtain ⟨turnRead, taken, _⟩ := bind_eq_ok.mp first
  obtain ⟨valid, _⟩ := (readTurn_eq_ok runtime).mp taken
  obtain ⟨existing, found, status⟩ := validate_succeeded runtime valid
  have after : proceedStage runtime call .lookup turn store now lineage =
      (.stage (.validate (stageContext runtime call.screeningRunId turn.progress
        turn.stage).reference) turn, store) := by
    change store.db.runs.get (stageContext runtime call.screeningRunId turn.progress
      turn.stage).runId = some existing at found
    simp only [proceedStage, found, phaseAfterLookup, status, ne_eq, not_true_eq_false, and_false,
      if_false]
  rw [after]
  refine ⟨rfl, ⟨succeeded, read, Or.inr (Or.inl rfl)⟩, ?_⟩
  simp only [stepsLeft]
  omega

theorem rereadStep_validate {store : ChainStore F} {call : ChainCall}
    {outcome : FilterChainOutcome} {turn : StageTurn F} {reference : PersistedStageReference}
    (rereads : Rereads runtime store call.screeningRunId outcome
      (.stage (.validate reference) turn))
    (now : String) (lineage : Except ChainError (PyValue F)) :
    RereadStep runtime store call outcome (.stage (.validate reference) turn)
      (proceedStage runtime call (.validate reference) turn store now lineage) := by
  obtain ⟨succeeded, read, place⟩ := rereads
  obtain rfl : reference =
      (stageContext runtime call.screeningRunId turn.progress turn.stage).reference := by
    simpa using place
  have first := read
  rw [readStages] at first
  obtain ⟨turnRead, taken, _⟩ := bind_eq_ok.mp first
  obtain ⟨valid, _⟩ := (readTurn_eq_ok runtime).mp taken
  simp only [proceedStage, valid, phaseAfterValidate]
  refine ⟨rfl, ⟨succeeded, read, Or.inr (Or.inr rfl)⟩, ?_⟩
  simp only [stepsLeft]
  omega

theorem rereadStep_evidence {store : ChainStore F} {call : ChainCall}
    {outcome : FilterChainOutcome} {turn : StageTurn F} {reference : PersistedStageReference}
    (rereads : Rereads runtime store call.screeningRunId outcome
      (.stage (.evidence reference) turn))
    (now : String) (lineage : Except ChainError (PyValue F)) :
    RereadStep runtime store call outcome (.stage (.evidence reference) turn)
      (proceedStage runtime call (.evidence reference) turn store now lineage) := by
  obtain ⟨succeeded, read, place⟩ := rereads
  obtain rfl : reference =
      (stageContext runtime call.screeningRunId turn.progress turn.stage).reference := by
    simpa using place
  rw [readStages] at read
  obtain ⟨turnRead, taken, read⟩ := bind_eq_ok.mp read
  have further := readTurn_succeeded runtime taken succeeded
  obtain ⟨valid, ⟨handoff, sourceLock⟩, handed, rfl⟩ := (readTurn_eq_ok runtime).mp taken
  simp only [proceedStage, handed, phaseAfterHandoff]
  cases eligible : handoff.eligibleToProgress with
  | true =>
      simp only [eligible, if_true] at read ⊢
      obtain ⟨next, left⟩ := rereads_next runtime further read
      refine ⟨rfl, next, ?_⟩
      change _ ≤ 3 * turn.rest.length + 2 - 1
      exact left
  | false =>
      simp only [eligible, Bool.false_eq_true, if_false] at read ⊢
      exact ⟨rfl, read, Nat.zero_le _⟩

theorem rereadStep_proceed {store : ChainStore F} {call : ChainCall} {outcome : FilterChainOutcome}
    {phase : ChainPhase F} (complete : requireAdapters call.stageAdapters = .ok ())
    (rereads : Rereads runtime store call.screeningRunId outcome phase) (now : String)
    (lineage : Except ChainError (PyValue F)) :
    RereadStep runtime store call outcome phase
      (chainStep runtime call phase store (.proceed now lineage)) := by
  cases phase with
  | begin =>
      unfold Rereads persistedOutcome at rereads
      obtain ⟨_, checked, read⟩ := bind_eq_ok.mp rereads
      simp only [chainStep, checked, phaseAfterScreening]
      exact ⟨rfl, ⟨checked, read⟩, Nat.le_refl 14⟩
  | ranked =>
      obtain ⟨_, read⟩ := rereads
      unfold readResults at read
      obtain ⟨settled, ranked, read⟩ := bind_eq_ok.mp read
      simp only [chainStep, ranked]
      cases settled with
      | some screened => exact ⟨rfl, read, Nat.zero_le _⟩
      | none =>
          simp only [phaseAfterRanked, complete]
          obtain ⟨next, left⟩ := rereads_next runtime (noProgress_succeeded store) read
          exact ⟨rfl, next, left⟩
  | stage point turn =>
      have place := rereads.2.2
      rcases place with rfl | rfl | rfl
      · exact rereadStep_lookup runtime rereads now lineage
      · exact rereadStep_validate runtime rereads now lineage
      · exact rereadStep_evidence runtime rereads now lineage
  | gate progress =>
      obtain ⟨_, read⟩ := rereads
      exact ⟨rfl, read, Nat.zero_le _⟩
  | finished result => exact ⟨rfl, rereads, Nat.zero_le _⟩

/-- The end of an adapter means nothing to a call that waits for none. -/
theorem rereads_idle {store : ChainStore F} {call : ChainCall} {outcome : FilterChainOutcome}
    {phase : ChainPhase F} (rereads : Rereads runtime store call.screeningRunId outcome phase)
    {input : ChainInput F} (idle : ∀ now lineage, input ≠ .proceed now lineage) :
    chainStep runtime call phase store input = (phase, store) := by
  cases input with
  | proceed now lineage => exact absurd rfl (idle now lineage)
  | _ =>
      cases phase with
      | stage point turn =>
          rcases rereads.2.2 with rfl | rfl | rfl <;> rfl
      | _ => rfl

theorem rereads_startsNothing {store : ChainStore F} {process : ChainProcess F}
    {outcome : FilterChainOutcome}
    (rereads : Rereads runtime store process.call.screeningRunId outcome process.phase)
    (input : ChainInput F) : startedAdapter process input = [] := by
  unfold startedAdapter
  split
  · rename_i turn now lineage phase
    rw [phase] at rereads
    rcases rereads.2.2 with wrong | wrong | wrong <;> cases wrong
  · rfl

def ownStep (index : Nat) : ChainAction F → Bool
  | .advance process (.proceed _ _) => process = index
  | _ => false

/-- The call at an index rereads the outcome, with so many accesses left at most. -/
def Rereading (system : ChainSystem F) (index : Nat) (call : ChainCall)
    (outcome : FilterChainOutcome) (left : Nat) : Prop :=
  ∃ process, system.processes[index]? = some process ∧ process.call = call ∧
    Rereads runtime system.store call.screeningRunId outcome process.phase ∧
    stepsLeft process.phase ≤ left

theorem rereading_own {system : ChainSystem F} {index : Nat} {call : ChainCall}
    {outcome : FilterChainOutcome} {left : Nat}
    (complete : requireAdapters call.stageAdapters = .ok ())
    (reading : Rereading runtime system index call outcome left) (input : ChainInput F) :
    (advanceCall runtime system index input).store = system.store ∧
      (advanceCall runtime system index input).invocations = system.invocations ∧
      Rereading runtime (advanceCall runtime system index input) index call outcome
        (if ownStep index (.advance index input) then left - 1 else left) := by
  obtain ⟨process, found, rfl, rereads, bound⟩ := reading
  obtain ⟨inRange, _⟩ := List.getElem?_eq_some_iff.mp found
  have quiet := rereads_startsNothing runtime rereads input
  unfold Rereading
  simp only [advanceCall, found, quiet, List.nil_append, List.getElem?_set_self inRange]
  cases input with
  | proceed now lineage =>
      obtain ⟨unchanged, next, closer⟩ := rereadStep_proceed runtime complete rereads now lineage
      refine ⟨unchanged, trivial, _, rfl, rfl, ?_, ?_⟩
      · rw [unchanged]
        exact next
      · simp only [ownStep, decide_true, if_true]
        omega
  | adapterReturned reference =>
      rw [rereads_idle runtime rereads (by intro _ _ same; cases same)]
      exact ⟨rfl, trivial, _, rfl, rfl, rereads, bound⟩
  | adapterRaised =>
      rw [rereads_idle runtime rereads (by intro _ _ same; cases same)]
      exact ⟨rfl, trivial, _, rfl, rfl, rereads, bound⟩

theorem rereading_step {system : ChainSystem F} {index : Nat} {call : ChainCall}
    {outcome : FilterChainOutcome} {left : Nat}
    (complete : requireAdapters call.stageAdapters = .ok ()) {action : ChainAction F}
    (fixed : EvidenceFixed system action)
    (reading : Rereading runtime system index call outcome left) :
    Rereading runtime (systemStep runtime system action) index call outcome
      (if ownStep index action then left - 1 else left) := by
  by_cases own : ∃ input, action = .advance index input
  · obtain ⟨input, rfl⟩ := own
    exact (rereading_own runtime complete reading input).2.2
  · have kept := systemStep_storeKept runtime system action fixed
    have foreign : ownStep index action = false := by
      cases action with
      | advance other input =>
          have differs : other ≠ index := by
            rintro rfl
            exact own ⟨input, rfl⟩
          cases input <;> simp [ownStep, differs]
      | _ => rfl
    obtain ⟨process, found, sameCall, rereads, bound⟩ := reading
    refine ⟨process, ?_, sameCall, rereads_kept runtime kept rereads, ?_⟩
    · cases action with
      | call other =>
          obtain ⟨inRange, _⟩ := List.getElem?_eq_some_iff.mp found
          exact (List.getElem?_append_left inRange).trans found
      | write write => exact found
      | advance other input =>
          have differs : other ≠ index := by
            rintro rfl
            exact own ⟨input, rfl⟩
          simp only [systemStep, advanceCall]
          split
          · exact found
          · exact (List.getElem?_set_ne differs).trans found
    · simpa [foreign] using bound

theorem rereading_run {index : Nat} {call : ChainCall} {outcome : FilterChainOutcome}
    (complete : requireAdapters call.stageAdapters = .ok ()) (actions : List (ChainAction F)) :
    ∀ (system : ChainSystem F) (left : Nat),
      Along (systemStep runtime) EvidenceFixed system actions →
      Rereading runtime system index call outcome left →
      Rereading runtime (run (systemStep runtime) system actions) index call outcome
        (left - actions.countP (ownStep index)) := by
  induction actions with
  | nil => intro system left _ reading; exact reading
  | cons action rest ih =>
      intro system left fixed reading
      have next := ih _ _ fixed.2 (rereading_step runtime complete fixed.1 reading)
      rw [run_cons, List.countP_cons]
      cases own : ownStep index action with
      | true =>
          simp only [own, if_true] at next ⊢
          rwa [Nat.add_comm, ← Nat.sub_sub]
      | false =>
          simp only [own, Bool.false_eq_true, if_false] at next ⊢
          exact next

/-- Once some call has returned an outcome for a screening run, every later call of `reopen`, or
of `run` with its adapters, finishes within fifteen accesses to the store, returns the same
outcome, starts no adapter and writes nothing, whatever else goes on meanwhile. -/
theorem reopen_returns_outcome {store : ChainStore F} {actions after : List (ChainAction F)}
    {process : ChainProcess F} {outcome : FilterChainOutcome} {call : ChainCall}
    (fixed : Along (systemStep runtime) EvidenceFixed (startSystem store)
      (actions ++ .call call :: after))
    (member : process ∈ (run (systemStep runtime) (startSystem store) actions).processes)
    (finished : process.phase = .finished (.ok outcome))
    (same : call.screeningRunId = process.call.screeningRunId)
    (complete : requireAdapters call.stageAdapters = .ok ()) :
    let index := (run (systemStep runtime) (startSystem store) actions).processes.length
    let system := run (systemStep runtime) (startSystem store) (actions ++ .call call :: after)
    ∃ later, system.processes[index]? = some later ∧ later.call = call ∧
      (∀ result, later.phase = .finished result → result = .ok outcome) ∧
      (15 ≤ after.countP (ownStep index) → later.phase = .finished (.ok outcome)) ∧
      ∀ input, (advanceCall runtime system index input).store = system.store ∧
        (advanceCall runtime system index input).invocations = system.invocations := by
  intro index system
  rw [along_append] at fixed
  have settled := finished_outcome runtime fixed.1 member finished
  rw [← same] at settled
  have called : Rereading runtime (systemStep runtime
      (run (systemStep runtime) (startSystem store) actions) (.call call)) index call outcome 15 :=
    ⟨⟨call, .begin⟩, List.getElem?_concat_length, rfl, settled, Nat.le_refl 15⟩
  have reading : Rereading runtime system index call outcome
      (15 - after.countP (ownStep index)) := by
    have later := rereading_run runtime complete after _ 15 fixed.2.2 called
    rwa [← run_cons, ← run_append] at later
  obtain ⟨later, found, sameCall, rereads, bound⟩ := id reading
  refine ⟨later, found, sameCall, ?_, ?_, ?_⟩
  · intro result phase
    rw [phase] at rereads
    exact rereads
  · intro enough
    have none : stepsLeft later.phase = 0 := by omega
    cases phase : later.phase with
    | finished result =>
        rw [phase] at rereads
        rw [show result = .ok outcome from rereads]
    | stage point turn =>
        rw [phase] at none
        cases point <;> simp [stepsLeft] at none
    | _ =>
        rw [phase] at none
        simp [stepsLeft] at none
  · intro input
    obtain ⟨unchanged, quiet, _⟩ := rereading_own runtime complete reading input
    exact ⟨unchanged, quiet⟩

end Read

/-! ## A chain that stops at its first stage -/

/-- `transition_run` as a write of its own; a refused transition writes nothing. -/
def transitionWrite {F : Type} [PyNumber F] (runId : String) (status : RunStatus) (now : String) :
    StoreWrite F where
  apply store := match RunRepository.transition store.db runId status none now with
    | .ok moved => { store with db := moved.2 }
    | .error _ => store
  keeps store := by
    split
    · rename_i moved done
      exact transition_kept done
    · exact runsKept_refl store.db

theorem transitionWrite_fixed {F : Type} [PyNumber F] (runId : String) (status : RunStatus)
    (now : String) (system : ChainSystem F) :
    EvidenceFixed system (.write (transitionWrite runId status now)) := by
  intro _ _ _ _
  simp only [transitionWrite]
  split <;> exact ⟨rfl, rfl⟩

def sampleRuntime : PythonRuntime WholeFloat where
  jsonDumps := jsonText
  jsonLoads _ := some (.dict [("filter_handoff", .dict [("source_run_id", .str "screening_1")])])
  sha256Hex text := text

def sampleScreening : ExperimentRunRecord where
  runId := "screening_1"
  configurationId := "configuration_1"
  strategyId := "strategy_1"
  strategyVersion := "1"
  stage := .screening
  status := .succeeded
  startedAt := none
  completedAt := none
  errorSummary := none
  environmentJson := "\x7b\x7d"
  createdAt := "t0"

def sampleStore : ChainStore WholeFloat where
  db := {
    strategies := Table.empty
    configurations := Table.empty
    manifests := Table.empty
    runs := ⟨[sampleScreening], List.nodup_singleton _⟩
    events := []
    submissions := Table.empty }
  results _ := [⟨"passed", ""⟩]
  evidence _ := {
    sourceLock := .error ⟨.valueError, "no valid source-lock artifact"⟩
    record := fun _ => .error ⟨.valueError, "no persisted manifest"⟩ }

def sampleOosRun : String := stageRunId sampleRuntime "screening_1" .oos

def sampleProceed (index : Nat) : ChainAction WholeFloat :=
  .advance index (.proceed "t1" (.ok .none))

/-- A run whose out-of-sample adapter persists its run without a source lock. -/
def sampleActions : List (ChainAction WholeFloat) :=
  .call ⟨"screening_1", some validationStageOrder⟩ :: List.replicate 7 (sampleProceed 0) ++
    [.write (transitionWrite sampleOosRun .running "t1"),
      .write (transitionWrite sampleOosRun .succeeded "t2"),
      .advance 0 (.adapterReturned ⟨.oos, sampleOosRun⟩), sampleProceed 0, sampleProceed 0]

def sampleOutcome : FilterChainOutcome where
  status := .stopped
  screeningRunId := "screening_1"
  completed := [{
    stage := .oos
    runId := sampleOosRun
    status := .invalid
    eligibleToProgress := false
    evidenceIdentity := none
    reasons := ["no valid source-lock artifact"] }]
  stoppedAt := some "oos"
  reasons := ["no valid source-lock artifact"]
  protectedTestGate := none

theorem reopen_returns_outcome_stopped :
    let called := sampleActions ++ .call ⟨"screening_1", none⟩ ::
      List.replicate 15 (sampleProceed 1)
    ∃ later, (run (systemStep sampleRuntime) (startSystem sampleStore) called).processes[1]? =
      some later ∧ later.phase = .finished (.ok sampleOutcome) := by
  intro called
  have finished : (run (systemStep sampleRuntime) (startSystem sampleStore)
      sampleActions).processes = [⟨⟨"screening_1", some validationStageOrder⟩,
        .finished (.ok sampleOutcome)⟩] := by rfl
  have fixed : Along (systemStep sampleRuntime) EvidenceFixed (startSystem sampleStore) called := by
    refine along_of_forall _ ?_ _
    intro action member system
    simp only [called, sampleActions, List.cons_append, List.append_assoc, List.mem_cons,
      List.mem_append, List.mem_replicate, List.not_mem_nil, false_or] at member
    rcases member with rfl | ⟨_, rfl⟩ | rfl | rfl | rfl | rfl | rfl | rfl | ⟨_, rfl⟩
    · trivial
    · trivial
    · exact transitionWrite_fixed _ _ _ system
    · exact transitionWrite_fixed _ _ _ system
    · trivial
    · trivial
    · trivial
    · trivial
    · trivial
  obtain ⟨later, found, _, _, ends, _⟩ := reopen_returns_outcome sampleRuntime fixed
    (by rw [finished]; exact List.mem_singleton_self _) rfl rfl rfl
  rw [finished] at found ends
  exact ⟨later, found, ends (by decide)⟩

end QuantFactory.FilterChain
