import QuantFactory.FilterChain.Calls

/-!
# The stages run once and in order

The run id of a stage is determined by the screening run and the stage alone, so
the insert that reserves it succeeds in at most one call, and only that call
starts the adapter.  A call reaches a stage only over the persisted evidence of
every stage before it.
-/

set_option autoImplicit false

namespace QuantFactory.FilterChain

open QuantFactory.Library QuantFactory.Python QuantFactory.Persistence QuantFactory.Launch
open QuantFactory.Validation

def earlierStages (stage : RunStage) : List RunStage :=
  validationStageOrder.takeWhile (· ≠ stage)

theorem earlierStages_of_order {before rest : List RunStage} {stage : RunStage}
    (order : validationStageOrder = before ++ stage :: rest) : earlierStages stage = before := by
  have unique : (before ++ stage :: rest).Nodup := by
    rw [← order]
    decide
  have absent : ∀ other ∈ before, other ≠ stage := by
    intro other member
    exact (List.nodup_append.mp unique).2.2 other member stage List.mem_cons_self
  rw [earlierStages, order, List.takeWhile_append_of_pos (by simpa using absent)]
  simp

section Runs
variable {F : Type} [PyNumber F] (runtime : PythonRuntime F)

/-- The references a call has collected once it has been through these stages. -/
def chainReferences (screeningRunId : String) (stages : List RunStage) :
    List PersistedStageReference :=
  stages.foldl (fun references stage => references ++
    [⟨stage, handoffRunId runtime screeningRunId (lastRunId screeningRunId references) stage⟩]) []

omit [PyNumber F] in
theorem chainReferences_snoc (screeningRunId : String) (stages : List RunStage)
    (stage : RunStage) :
    chainReferences runtime screeningRunId (stages ++ [stage]) =
      chainReferences runtime screeningRunId stages ++ [⟨stage, handoffRunId runtime screeningRunId
        (lastRunId screeningRunId (chainReferences runtime screeningRunId stages)) stage⟩] := by
  simp [chainReferences, List.foldl_append]

/-- The run a stage hands on from: the run of the stage before it, or the screening run. -/
def parentRunId (screeningRunId : String) (stage : RunStage) : String :=
  lastRunId screeningRunId (chainReferences runtime screeningRunId (earlierStages stage))

def stageRunId (screeningRunId : String) (stage : RunStage) : String :=
  handoffRunId runtime screeningRunId (parentRunId runtime screeningRunId stage) stage

/-- The run of a stage is persisted as succeeded, with the configuration and strategy of its
screening run and with the expected parent in its environment. -/
def StageRecorded (store : ChainStore F) (screeningRunId : String) (stage : RunStage) : Prop :=
  ∃ source persisted environment,
    store.db.runs.get screeningRunId = some source ∧
    store.db.runs.get (stageRunId runtime screeningRunId stage) = some persisted ∧
    sameRunIdentity stage source persisted = true ∧
    runtime.jsonLoads persisted.environmentJson = some (.dict environment) ∧
    handoffSource environment = some (.str (parentRunId runtime screeningRunId stage))

def EvidenceProgresses (store : ChainStore F) (screeningRunId : String) (stage : RunStage) :
    Prop :=
  let runId := stageRunId runtime screeningRunId stage
  if stage = .oos then
    ∃ lock, (store.evidence runId).sourceLock = .ok lock ∧ lock.status = .passed
  else ∃ outcome, persistedStageOutcome store runId = .ok outcome ∧
    stageMayProgress stage outcome = true

structure StageReady (store : ChainStore F) (screeningRunId : String) (stage : RunStage) :
    Prop where
  recorded : StageRecorded runtime store screeningRunId stage
  progresses : EvidenceProgresses runtime store screeningRunId stage

/-! ## Reading one stage -/

omit [PyNumber F] in
theorem loadEnvironment_eq_ok {stage : RunStage} {json : String}
    {environment : Entries F} :
    loadEnvironment runtime stage json = .ok environment ↔
      runtime.jsonLoads json = some (.dict environment) := by
  unfold loadEnvironment
  split <;> simp_all [stageError]

omit [PyNumber F] in
theorem text_eq_some {value : Option (PyValue F)} {text : String} :
    value.bind PyValue.text? = some text ↔ value = some (.str text) := by
  cases value with
  | none => simp
  | some value => cases value <;> simp [PyValue.text?]

/-- A validated reference is the one the chain expects, to a recorded run. -/
theorem validate_eq_ok {store : ChainStore F} {context : FilterStageContext}
    {reference : PersistedStageReference} :
    validatePersistedReference runtime store context reference = .ok () ↔
      reference = context.reference ∧ isBlank context.runId = false ∧
      ∃ source persisted environment,
        store.db.runs.get context.screeningRunId = some source ∧
        store.db.runs.get context.runId = some persisted ∧
        sameRunIdentity context.stage source persisted = true ∧
        runtime.jsonLoads persisted.environmentJson = some (.dict environment) ∧
        handoffSource environment = some (.str context.previousRunId) := by
  obtain ⟨stage, runId⟩ := reference
  unfold validatePersistedReference FilterStageContext.reference
  simp only [PersistedStageReference.mk.injEq]
  by_cases sameStage : stage = context.stage
  · by_cases sameRun : runId = context.runId
    · subst sameStage sameRun
      cases blank : isBlank context.runId with
      | true => simp [stageError]
      | false =>
          simp only [Bool.false_eq_true, if_false, ne_eq, not_true_eq_false, true_and,
            and_self]
          cases sourceFound : store.db.runs.get context.screeningRunId with
          | none => simp [stageError]
          | some source =>
              cases persistedFound : store.db.runs.get context.runId with
              | none => simp [stageError]
              | some persisted =>
                  cases same : sameRunIdentity context.stage source persisted with
                  | false => simp [same, stageError]
                  | true =>
                      cases loaded : loadEnvironment runtime context.stage
                          persisted.environmentJson with
                      | error error =>
                          have missing : ∀ environment, runtime.jsonLoads
                              persisted.environmentJson ≠ some (.dict environment) := by
                            intro environment present
                            rw [(loadEnvironment_eq_ok runtime).mpr present] at loaded
                            cases loaded
                          simp [same, loaded, missing]
                      | ok environment =>
                          have present := (loadEnvironment_eq_ok runtime).mp loaded
                          simp [same, loaded, present, text_eq_some, stageError]
    · by_cases blank : isBlank runId = true <;> simp [sameStage, sameRun, blank, stageError]
  · simp [sameStage]

theorem catching_eq_ok {α : Type} {kinds : List ChainErrorKind} {x : Except ChainError α}
    {value : α} : catching kinds x = .ok (.ok value) ↔ x = .ok value := by
  cases x with
  | ok result => simp [catching]
  | error error => by_cases caught : error.kind ∈ kinds <;> simp [catching, caught]

theorem handoff_progresses {store : ChainStore F} {screeningRunId : String} {stage : RunStage}
    {sourceLock next : Option (SourceLockEvidence F)} {handoff : FilterStageHandoff}
    (handed : stageHandoff store ⟨stage, stageRunId runtime screeningRunId stage⟩ sourceLock =
      .ok (handoff, next)) (eligible : handoff.eligibleToProgress = true) :
    EvidenceProgresses runtime store screeningRunId stage := by
  unfold stageHandoff at handed
  unfold EvidenceProgresses
  by_cases isOos : stage = .oos
  · simp only [isOos, if_true] at handed ⊢
    obtain ⟨retrieved, caught, built⟩ := map_eq_ok.mp handed
    obtain ⟨rfl, _⟩ := Prod.mk.inj built
    cases retrieved with
    | error message => simp [lockHandoff] at eligible
    | ok lock =>
        have found := catching_eq_ok.mp caught
        exact ⟨lock, found, by simpa [lockHandoff] using eligible⟩
  · simp only [isOos, if_false] at handed ⊢
    obtain ⟨outcome, persisted, built⟩ := map_eq_ok.mp handed
    obtain ⟨rfl, _⟩ := Prod.mk.inj built
    exact ⟨outcome, persisted, eligible⟩

/-! ## Recorded stages stay recorded -/

theorem sameRunIdentity_kept {stage : RunStage} {source persisted sourceAfter after :
    ExperimentRunRecord} (same : sameRunIdentity stage source persisted = true)
    (sourceKept : RowKept source sourceAfter) (kept : RowKept persisted after) :
    sameRunIdentity stage sourceAfter after = true ∧
      after.environmentJson = persisted.environmentJson := by
  simp only [sameRunIdentity, Bool.and_eq_true, decide_eq_true_eq] at same ⊢
  obtain ⟨⟨⟨⟨sameStage, succeeded⟩, sameConfiguration⟩, sameStrategy⟩, sameVersion⟩ := same
  obtain ⟨status, environment⟩ := kept.succeeded succeeded
  have sourceIdentity := sourceKept.identity
  have identity := kept.identity
  simp only [ExperimentRunRecord.identity, Launch.RunIdentity.mk.injEq] at sourceIdentity identity
  obtain ⟨_, sourceConfiguration, sourceStrategy, sourceVersion, _⟩ := sourceIdentity
  obtain ⟨_, configuration, strategy, version, stageSame⟩ := identity
  exact ⟨⟨⟨⟨⟨stageSame.trans sameStage, status⟩,
    by rw [configuration, sourceConfiguration, sameConfiguration]⟩,
    by rw [strategy, sourceStrategy, sameStrategy]⟩,
    by rw [version, sourceVersion, sameVersion]⟩, environment⟩

theorem stageRecorded_kept {store next : ChainStore F} {screeningRunId : String}
    {stage : RunStage} (recorded : StageRecorded runtime store screeningRunId stage)
    (kept : RunsKept store.db next.db) : StageRecorded runtime next screeningRunId stage := by
  obtain ⟨source, persisted, environment, sourceFound, found, same, loaded, lineage⟩ := recorded
  obtain ⟨sourceAfter, sourceFoundAfter, sourceKept⟩ := kept _ _ sourceFound
  obtain ⟨after, foundAfter, rowKept⟩ := kept _ _ found
  obtain ⟨sameAfter, sameEnvironment⟩ := sameRunIdentity_kept same sourceKept rowKept
  exact ⟨sourceAfter, after, environment, sourceFoundAfter, foundAfter, sameAfter,
    by rw [sameEnvironment, loaded], lineage⟩

end Runs

/-! ## Where a call stands -/

section Order
variable {F : Type} [PyNumber F] (runtime : PythonRuntime F)

structure Placed (screeningRunId : String) (turn : StageTurn F) : Prop where
  order : validationStageOrder = earlierStages turn.stage ++ turn.stage :: turn.rest
  references : turn.progress.references =
    chainReferences runtime screeningRunId (earlierStages turn.stage)

def WasReady (past : ChainSystem F → Prop) (screeningRunId : String) (stage : RunStage) : Prop :=
  ∃ system, past system ∧ StageReady runtime system.store screeningRunId stage

/-- The turn comes at its place, and every earlier stage has been ready. -/
structure TurnReached (past : ChainSystem F → Prop) (screeningRunId : String)
    (turn : StageTurn F) : Prop where
  placed : Placed runtime screeningRunId turn
  ready : ∀ stage ∈ earlierStages turn.stage, WasReady runtime past screeningRunId stage

def RecordedBefore (past : ChainSystem F → Prop) (screeningRunId : String) (turn : StageTurn F) :
    StagePoint → Prop
  | .evidence reference =>
      reference = ⟨turn.stage, stageRunId runtime screeningRunId turn.stage⟩ ∧
      ∃ system, past system ∧ StageRecorded runtime system.store screeningRunId turn.stage
  | _ => True

def HasRead (past : ChainSystem F → Prop) (screeningRunId : String) : ChainPhase F → Prop
  | .stage point turn => TurnReached runtime past screeningRunId turn ∧
      RecordedBefore runtime past screeningRunId turn point
  | _ => True

omit [PyNumber F] in
theorem placed_context {screeningRunId : String} {turn : StageTurn F}
    (placed : Placed runtime screeningRunId turn) :
    (stageContext runtime screeningRunId turn.progress turn.stage).previousRunId =
        parentRunId runtime screeningRunId turn.stage ∧
      (stageContext runtime screeningRunId turn.progress turn.stage).runId =
        stageRunId runtime screeningRunId turn.stage := by
  simp only [stageContext, FilterStageContext.previousRunId, stageRunId, parentRunId,
    placed.references, and_self]

omit [PyNumber F] in
theorem placed_first (screeningRunId : String) (rest : List RunStage)
    (order : validationStageOrder = .oos :: rest) :
    Placed runtime screeningRunId ⟨noProgress F, .oos, rest⟩ where
  order := order
  references := rfl

omit [PyNumber F] in
theorem placed_next {screeningRunId : String} {turn : StageTurn F} {stage : RunStage}
    {rest : List RunStage} (handoff : FilterStageHandoff)
    (sourceLock : Option (SourceLockEvidence F))
    (placed : Placed runtime screeningRunId turn) (more : turn.rest = stage :: rest) :
    earlierStages stage = earlierStages turn.stage ++ [turn.stage] ∧
    Placed runtime screeningRunId ⟨turn.progress.extend
      ⟨turn.stage, stageRunId runtime screeningRunId turn.stage⟩ handoff sourceLock, stage, rest⟩ := by
  have order : validationStageOrder =
      (earlierStages turn.stage ++ [turn.stage]) ++ stage :: rest := by
    rw [placed.order, more]
    simp
  have earlier := earlierStages_of_order order
  refine ⟨earlier, ?_, ?_⟩
  · rw [earlier]
    exact order
  · simp only [ChainProgress.extend, earlier, chainReferences_snoc, placed.references]
    rfl

theorem hasRead_wider {past later : ChainSystem F → Prop} {screeningRunId : String}
    {phase : ChainPhase F} (wider : ∀ system, past system → later system)
    (read : HasRead runtime past screeningRunId phase) :
    HasRead runtime later screeningRunId phase := by
  cases phase with
  | stage point turn =>
      obtain ⟨reached, recorded⟩ := read
      refine ⟨⟨reached.placed, ?_⟩, ?_⟩
      · intro stage member
        obtain ⟨system, visited, ready⟩ := reached.ready stage member
        exact ⟨system, wider system visited, ready⟩
      · cases point with
        | evidence reference =>
            obtain ⟨same, system, visited, row⟩ := recorded
            exact ⟨same, system, wider system visited, row⟩
        | _ => trivial
  | _ => trivial

theorem recordedBefore_within {past : ChainSystem F → Prop} {screeningRunId : String}
    {turn : StageTurn F} {point : StagePoint}
    (notEvidence : ∀ reference, point ≠ .evidence reference) :
    RecordedBefore runtime past screeningRunId turn point := by
  cases point with
  | evidence reference => exact absurd rfl (notEvidence reference)
  | _ => trivial

theorem validated_recorded {store : ChainStore F} {screeningRunId : String} {turn : StageTurn F}
    {reference : PersistedStageReference} (placed : Placed runtime screeningRunId turn)
    (valid : validatePersistedReference runtime store
      (stageContext runtime screeningRunId turn.progress turn.stage) reference = .ok ()) :
    reference = ⟨turn.stage, stageRunId runtime screeningRunId turn.stage⟩ ∧
      StageRecorded runtime store screeningRunId turn.stage := by
  obtain ⟨same, _, source, persisted, environment, sourceFound, found, identity, loaded, lineage⟩ :=
    (validate_eq_ok runtime).mp valid
  obtain ⟨parent, runId⟩ := placed_context runtime placed
  rw [parent] at lineage
  rw [runId] at found
  refine ⟨?_, source, persisted, environment, sourceFound, found, identity, loaded, lineage⟩
  rw [same, FilterStageContext.reference, runId]
  rfl

theorem hasRead_next {past : ChainSystem F → Prop} {screeningRunId : String} {turn : StageTurn F}
    {handoff : FilterStageHandoff} {sourceLock : Option (SourceLockEvidence F)}
    (reached : TurnReached runtime past screeningRunId turn)
    (ready : WasReady runtime past screeningRunId turn.stage) :
    HasRead runtime past screeningRunId (nextTurn (turn.progress.extend
      ⟨turn.stage, stageRunId runtime screeningRunId turn.stage⟩ handoff sourceLock)
      turn.rest) := by
  cases more : turn.rest with
  | nil => trivial
  | cons stage rest =>
      obtain ⟨earlier, placed⟩ := placed_next runtime handoff sourceLock reached.placed more
      refine ⟨⟨placed, ?_⟩, trivial⟩
      intro other member
      change other ∈ earlierStages stage at member
      rw [earlier, List.mem_append, List.mem_singleton] at member
      rcases member with before | rfl
      · exact reached.ready other before
      · exact ready

theorem hasRead_step {past : ChainSystem F → Prop} {system : ChainSystem F} {call : ChainCall}
    {phase : ChainPhase F}
    (rows : ∀ earlier, past earlier → RunsKept earlier.store.db system.store.db)
    (visited : past system) (read : HasRead runtime past call.screeningRunId phase)
    (input : ChainInput F) :
    HasRead runtime past call.screeningRunId
      (chainStep runtime call phase system.store input).1 := by
  cases phase with
  | begin =>
      cases input with
      | proceed now lineage =>
          simp only [chainStep, phaseAfterScreening]
          split <;> trivial
      | _ => trivial
  | ranked =>
      cases input with
      | proceed now lineage =>
          simp only [chainStep, phaseAfterRanked]
          split
          · trivial
          · trivial
          · split
            · trivial
            · refine ⟨⟨placed_first runtime _ _ rfl, ?_⟩, trivial⟩
              intro stage member
              simp [earlierStages, validationStageOrder] at member
      | _ => trivial
  | stage point turn =>
      obtain ⟨reached, recorded⟩ := read
      cases input with
      | proceed now lineage =>
          have move := proceedStage_move runtime call point turn system.store now lineage
          have step : chainStep runtime call (.stage point turn) system.store
              (.proceed now lineage) = proceedStage runtime call point turn system.store now
                lineage := by cases point <;> rfl
          rw [step]
          generalize proceedStage runtime call point turn system.store now lineage = moved
            at move ⊢
          obtain ⟨phase, next⟩ := moved
          cases move with
          | failed error => trivial
          | within after notInvoke notEvidence =>
              exact ⟨reached, recordedBefore_within runtime notEvidence⟩
          | reserved screening db fresh present => exact ⟨reached, trivial⟩
          | validated reference valid =>
              obtain ⟨same, row⟩ := validated_recorded runtime reached.placed valid
              exact ⟨reached, same, system, visited, row⟩
          | handedOn reference handoff sourceLock handed eligible =>
              obtain ⟨rfl, earlier, before, row⟩ := recorded
              have ready : StageReady runtime system.store call.screeningRunId turn.stage :=
                ⟨stageRecorded_kept runtime row (rows earlier before),
                  handoff_progresses runtime handed eligible⟩
              exact hasRead_next runtime reached ⟨system, visited, ready⟩
          | stopped reference handoff sourceLock handed ineligible => trivial
      | adapterReturned reference => cases point <;> exact ⟨reached, recorded⟩
      | adapterRaised => cases point <;> exact ⟨reached, recorded⟩
  | gate progress => cases input <;> trivial
  | finished result => cases input <;> trivial

end Order

/-! ## One start a stage -/

section Once
variable {F : Type} [PyNumber F] (runtime : PythonRuntime F)

/-- The call has reserved the stage and is about to start its adapter. -/
def aboutToInvoke (screeningRunId : String) (stage : RunStage) (process : ChainProcess F) : Bool :=
  match process.phase with
  | .stage .invoke turn => process.call.screeningRunId = screeningRunId && turn.stage = stage
  | _ => false

omit [PyNumber F] in
theorem aboutToInvoke_screening (screeningRunId : String) (stage : RunStage) (call : ChainCall)
    (checked : Except ChainError Unit) :
    aboutToInvoke screeningRunId stage ⟨call, (phaseAfterScreening checked : ChainPhase F)⟩ =
      false := by
  cases checked <;> rfl

omit [PyNumber F] in
theorem aboutToInvoke_ranked (screeningRunId : String) (stage : RunStage) (call : ChainCall)
    (ranked : Except ChainError (Option FilterChainOutcome)) :
    aboutToInvoke screeningRunId stage ⟨call, (phaseAfterRanked call ranked : ChainPhase F)⟩ =
      false := by
  unfold phaseAfterRanked
  split
  · rfl
  · rfl
  · split <;> rfl

structure InvokedOnce (screeningRunId : String) (stage : RunStage) (system : ChainSystem F) :
    Prop where
  once : system.invocations.count (screeningRunId, stage) +
    system.processes.countP (aboutToInvoke screeningRunId stage) ≤ 1
  reserved : 0 < system.invocations.count (screeningRunId, stage) +
      system.processes.countP (aboutToInvoke screeningRunId stage) →
    (system.store.db.runs.get (stageRunId runtime screeningRunId stage)).isSome = true

def AllRead (past : ChainSystem F → Prop) (system : ChainSystem F) : Prop :=
  ∀ process ∈ system.processes, HasRead runtime past process.call.screeningRunId process.phase

structure Reserves (screeningRunId : String) (stage : RunStage) (store next : ChainStore F) :
    Prop where
  fresh : store.db.runs.get (stageRunId runtime screeningRunId stage) = none
  present : (next.db.runs.get (stageRunId runtime screeningRunId stage)).isSome = true

/-- A step starts an adapter that its call was about to start, or reserves a stage, or neither. -/
theorem chainStep_invoke (screeningRunId : String) (stage : RunStage) (store : ChainStore F)
    {past : ChainSystem F → Prop} {process : ChainProcess F}
    (read : HasRead runtime past process.call.screeningRunId process.phase)
    (input : ChainInput F) :
    (startedAdapter process input).count (screeningRunId, stage) +
        (if aboutToInvoke screeningRunId stage { process with
            phase := (chainStep runtime process.call process.phase store input).1 }
          then 1 else 0) ≤
      (if aboutToInvoke screeningRunId stage process then 1 else 0) ∨
    (startedAdapter process input).count (screeningRunId, stage) = 0 ∧
      Reserves runtime screeningRunId stage store
        (chainStep runtime process.call process.phase store input).2 := by
  obtain ⟨call, phase⟩ := process
  cases phase with
  | begin =>
      left
      cases input with
      | proceed now lineage =>
          simp [chainStep, startedAdapter, aboutToInvoke_screening]
      | _ => simp [chainStep, startedAdapter, aboutToInvoke]
  | ranked =>
      left
      cases input with
      | proceed now lineage =>
          simp [chainStep, startedAdapter, aboutToInvoke_ranked]
      | _ => simp [chainStep, startedAdapter, aboutToInvoke]
  | gate progress =>
      left
      cases input <;> simp [chainStep, startedAdapter, aboutToInvoke]
  | finished result =>
      left
      cases input <;> simp [chainStep, startedAdapter, aboutToInvoke]
  | stage point turn =>
      obtain ⟨reached, recorded⟩ := read
      cases input with
      | adapterReturned reference =>
          left
          cases point <;> simp [chainStep, startedAdapter, aboutToInvoke]
      | adapterRaised =>
          left
          cases point <;> simp [chainStep, startedAdapter, aboutToInvoke]
      | proceed now lineage =>
          have step : chainStep runtime call (.stage point turn) store (.proceed now lineage) =
              proceedStage runtime call point turn store now lineage := by cases point <;> rfl
          have move := proceedStage_move runtime call point turn store now lineage
          rw [step]
          by_cases starts : point = .invoke
          · subst starts
            left
            simp [proceedStage, startedAdapter, aboutToInvoke, List.count_singleton]
          · have quiet : startedAdapter ⟨call, .stage point turn⟩ (.proceed now lineage) = [] := by
              cases point with
              | invoke => exact absurd rfl starts
              | _ => rfl
            rw [quiet, List.count_nil]
            generalize proceedStage runtime call point turn store now lineage = moved at move ⊢
            obtain ⟨after, next⟩ := moved
            cases move with
            | failed error => simp [aboutToInvoke]
            | within after notInvoke notEvidence =>
                left
                cases after with
                | invoke => exact absurd rfl notInvoke
                | _ => simp [aboutToInvoke]
            | reserved screening db fresh present =>
                by_cases same : call.screeningRunId = screeningRunId ∧ turn.stage = stage
                · obtain ⟨rfl, rfl⟩ := same
                  obtain ⟨_, runId⟩ := placed_context runtime reached.placed
                  rw [runId] at fresh present
                  exact Or.inr ⟨rfl, fresh, present⟩
                · left
                  simpa [aboutToInvoke] using same
            | validated reference valid => simp [aboutToInvoke]
            | handedOn reference handoff sourceLock handed eligible =>
                left
                cases turn.rest <;> simp [aboutToInvoke]
            | stopped reference handoff sourceLock handed ineligible => simp [aboutToInvoke]

theorem get_isSome_kept {db next : Database} {runId : String} (kept : RunsKept db next)
    (present : (db.runs.get runId).isSome = true) : (next.runs.get runId).isSome = true := by
  obtain ⟨run, found⟩ := Option.isSome_iff_exists.mp present
  obtain ⟨after, foundAfter, _⟩ := kept runId run found
  rw [foundAfter]
  rfl

theorem invokedOnce_step (screeningRunId : String) (stage : RunStage)
    {past : ChainSystem F → Prop} {system : ChainSystem F}
    (read : AllRead runtime past system)
    (holds : InvokedOnce runtime screeningRunId stage system) (action : ChainAction F) :
    InvokedOnce runtime screeningRunId stage (systemStep runtime system action) := by
  have kept := systemStep_kept runtime system action
  cases action with
  | call call =>
      refine ⟨?_, ?_⟩
      · simpa [systemStep, aboutToInvoke] using holds.once
      · intro positive
        exact holds.reserved (by simpa [systemStep, aboutToInvoke] using positive)
  | write write =>
      exact ⟨holds.once, fun positive => get_isSome_kept kept (holds.reserved positive)⟩
  | advance index input =>
      unfold SystemKept at kept
      simp only [systemStep, advanceCall] at kept ⊢
      cases found : system.processes[index]? with
      | none => simpa [found] using holds
      | some process =>
          obtain ⟨inRange, rfl⟩ := List.getElem?_eq_some_iff.mp found
          simp only [found] at kept ⊢
          have present : (if aboutToInvoke screeningRunId stage system.processes[index]
              then 1 else 0) ≤ system.processes.countP (aboutToInvoke screeningRunId stage) :=
            List.boole_getElem_le_countP inRange
          have once := holds.once
          rcases chainStep_invoke runtime screeningRunId stage system.store
              (read _ (List.getElem_mem inRange)) input with uses | ⟨quiet, reserves⟩
          · refine ⟨?_, ?_⟩
            · simp only [List.count_append, List.countP_set inRange]
              omega
            · simp only [List.count_append, List.countP_set inRange]
              intro positive
              exact get_isSome_kept kept (holds.reserved (by omega))
          · have unused : system.invocations.count (screeningRunId, stage) +
                system.processes.countP (aboutToInvoke screeningRunId stage) = 0 := by
              by_contra positive
              have taken := holds.reserved (by omega)
              rw [reserves.fresh] at taken
              cases taken
            have atMost : (if aboutToInvoke screeningRunId stage
                ⟨system.processes[index].call, (chainStep runtime system.processes[index].call
                  system.processes[index].phase system.store input).1⟩ then 1 else 0) ≤ 1 := by
              split <;> omega
            refine ⟨?_, fun _ => reserves.present⟩
            simp only [List.count_append, List.countP_set inRange]
            omega

theorem allRead_step {past : ChainSystem F → Prop} {system : ChainSystem F}
    (rows : ∀ earlier, past earlier → RunsKept earlier.store.db system.store.db)
    (visited : past system) (read : AllRead runtime past system) (action : ChainAction F) :
    AllRead runtime past (systemStep runtime system action) := by
  cases action with
  | call call =>
      intro process member
      rcases List.mem_append.mp member with old | new
      · exact read process old
      · rw [List.mem_singleton.mp new]
        trivial
  | write write => exact read
  | advance index input =>
      simp only [systemStep, advanceCall]
      cases found : system.processes[index]? with
      | none => exact read
      | some process =>
          obtain ⟨inRange, rfl⟩ := List.getElem?_eq_some_iff.mp found
          intro other member
          rcases List.mem_or_eq_of_mem_set member with old | rfl
          · exact read other old
          · exact hasRead_step runtime rows visited (read _ (List.getElem_mem inRange)) input

/-- Each call has read its stages in order, and each stage is started at most once. -/
structure ChainInvariant (past : ChainSystem F → Prop) (system : ChainSystem F) : Prop where
  read : AllRead runtime past system
  once : ∀ screeningRunId stage, InvokedOnce runtime screeningRunId stage system

theorem visited_kept {start earlier : ChainSystem F} {actions : List (ChainAction F)}
    (visited : Visited (systemStep runtime) start actions earlier) :
    SystemKept earlier (run (systemStep runtime) start actions) := by
  obtain ⟨_, rest, _, _, same⟩ := visited_rest (systemStep runtime) visited
  rw [same]
  exact run_kept runtime earlier rest

theorem chainInvariant_wider (past later : ChainSystem F → Prop) (system : ChainSystem F)
    (wider : ∀ earlier, past earlier → later earlier)
    (holds : ChainInvariant runtime past system) : ChainInvariant runtime later system where
  read := fun process member => hasRead_wider runtime wider (holds.read process member)
  once := holds.once

theorem chainInvariant_start (store : ChainStore F) (past : ChainSystem F → Prop) :
    ChainInvariant runtime past (startSystem store) where
  read := fun _ member => absurd member List.not_mem_nil
  once := fun _ _ => ⟨Nat.zero_le 1, fun positive => absurd positive (Nat.lt_irrefl 0)⟩

theorem chainInvariant_step (start : ChainSystem F) (actions : List (ChainAction F))
    (action : ChainAction F)
    (holds : ChainInvariant runtime (Visited (systemStep runtime) start actions)
      (run (systemStep runtime) start actions)) :
    ChainInvariant runtime (Visited (systemStep runtime) start actions)
      (systemStep runtime (run (systemStep runtime) start actions) action) where
  read := allRead_step runtime (fun _ visited => visited_kept runtime visited)
    (visited_last _ _ _) holds.read action
  once := fun screeningRunId stage =>
    invokedOnce_step runtime screeningRunId stage holds.read (holds.once screeningRunId stage) action

theorem chainInvariant_run (store : ChainStore F) (actions : List (ChainAction F)) :
    ChainInvariant runtime (Visited (systemStep runtime) (startSystem store) actions)
      (run (systemStep runtime) (startSystem store) actions) :=
  run_invariant_visited (systemStep runtime) (chainInvariant_wider runtime) (startSystem store)
    (chainInvariant_start runtime store) (chainInvariant_step runtime (startSystem store)) actions

/-! ## The evidence of succeeded runs -/

/-- The evidence and the results of a succeeded run are left as they are. -/
def EvidenceKept (store next : ChainStore F) : Prop :=
  ∀ runId run, store.db.runs.get runId = some run → run.status = .succeeded →
    next.evidence runId = store.evidence runId ∧ next.results runId = store.results runId

structure StoreKept (store next : ChainStore F) : Prop where
  rows : RunsKept store.db next.db
  evidence : EvidenceKept store next

def ChainKept (before after : ChainSystem F) : Prop := StoreKept before.store after.store

def EvidenceFixed (system : ChainSystem F) : ChainAction F → Prop
  | .write write => EvidenceKept system.store (write.apply system.store)
  | _ => True

theorem storeKept_refl (store : ChainStore F) : StoreKept store store :=
  ⟨runsKept_refl _, fun _ _ _ _ => ⟨rfl, rfl⟩⟩

theorem storeKept_trans {first second third : ChainStore F} (before : StoreKept first second)
    (after : StoreKept second third) : StoreKept first third := by
  refine ⟨runsKept_trans before.rows after.rows, ?_⟩
  intro runId run found succeeded
  obtain ⟨middle, middleFound, kept⟩ := before.rows runId run found
  obtain ⟨evidence, results⟩ := before.evidence runId run found succeeded
  obtain ⟨evidenceAfter, resultsAfter⟩ :=
    after.evidence runId middle middleFound (kept.succeeded succeeded).1
  exact ⟨evidenceAfter.trans evidence, resultsAfter.trans results⟩

theorem chainStep_storeKept (call : ChainCall) (phase : ChainPhase F) (store : ChainStore F)
    (input : ChainInput F) : StoreKept store (chainStep runtime call phase store input).2 := by
  obtain ⟨db, same, kept⟩ := chainStep_store runtime call phase store input
  rw [same]
  exact ⟨kept, fun _ _ _ _ => ⟨rfl, rfl⟩⟩

theorem systemStep_storeKept (system : ChainSystem F) (action : ChainAction F)
    (fixed : EvidenceFixed system action) :
    ChainKept system (systemStep runtime system action) := by
  cases action with
  | call call => exact storeKept_refl system.store
  | write write => exact ⟨write.keeps system.store, fixed⟩
  | advance index input =>
      unfold ChainKept
      simp only [systemStep, advanceCall]
      split
      · exact storeKept_refl system.store
      · exact chainStep_storeKept runtime _ _ system.store input

theorem run_storeKept (system : ChainSystem F) (actions : List (ChainAction F))
    (fixed : Along (systemStep runtime) EvidenceFixed system actions) :
    ChainKept system (run (systemStep runtime) system actions) :=
  run_relation_along (systemStep runtime) (systemStep_storeKept runtime)
    (fun system => storeKept_refl system.store) (fun _ _ _ => storeKept_trans) actions system fixed

theorem persistedStageOutcome_kept {store next : ChainStore F} {runId : String}
    {run : ExperimentRunRecord} (kept : StoreKept store next)
    (found : store.db.runs.get runId = some run) (succeeded : run.status = .succeeded) :
    persistedStageOutcome next runId = persistedStageOutcome store runId := by
  obtain ⟨after, foundAfter, rowKept⟩ := kept.rows runId run found
  have sameStage : after.stage = run.stage := congrArg RunIdentity.stage rowKept.identity
  have sameEvidence := (kept.evidence runId run found succeeded).1
  unfold persistedStageOutcome retrieveStage
  rw [found, foundAfter, sameEvidence]
  simp only [orRaise, bind_ok, sameStage]

theorem sameRunIdentity_succeeded {stage : RunStage} {source persisted : ExperimentRunRecord}
    (same : sameRunIdentity stage source persisted = true) : persisted.status = .succeeded := by
  simp only [sameRunIdentity, Bool.and_eq_true, decide_eq_true_eq] at same
  exact same.1.1.1.2

theorem stageReady_kept {store next : ChainStore F} {screeningRunId : String}
    {stage : RunStage} (kept : StoreKept store next)
    (ready : StageReady runtime store screeningRunId stage) :
    StageReady runtime next screeningRunId stage := by
  refine ⟨stageRecorded_kept runtime ready.recorded kept.rows, ?_⟩
  obtain ⟨source, persisted, environment, _, found, same, _, _⟩ := ready.recorded
  have succeeded := sameRunIdentity_succeeded same
  have progresses := ready.progresses
  simp only [EvidenceProgresses] at progresses ⊢
  rw [(kept.evidence _ persisted found succeeded).1,
    persistedStageOutcome_kept kept found succeeded]
  exact progresses

/-- A newly recorded start is the step of a call that was about to make it. -/
theorem started_process {system : ChainSystem F} {action : ChainAction F} {screeningRunId : String}
    {stage : RunStage} (started : (systemStep runtime system action).invocations =
      (screeningRunId, stage) :: system.invocations) :
    ∃ process ∈ system.processes, ∃ turn, process.phase = .stage .invoke turn ∧
      process.call.screeningRunId = screeningRunId ∧ turn.stage = stage := by
  have longer := congrArg List.length started
  cases action with
  | call call => simp [systemStep] at longer
  | write write => simp [systemStep] at longer
  | advance index input =>
      simp only [systemStep, advanceCall] at started longer
      cases found : system.processes[index]? with
      | none => simp [found] at longer
      | some process =>
          simp only [found] at started longer
          obtain ⟨inRange, same⟩ := List.getElem?_eq_some_iff.mp found
          refine ⟨process, same ▸ List.getElem_mem inRange, ?_⟩
          unfold startedAdapter at started longer
          split at started
          · rename_i turn now lineage phase
            simp only [List.cons_append, List.nil_append, List.cons.injEq, Prod.mk.injEq,
              and_true] at started
            exact ⟨turn, phase, started.1, started.2⟩
          · simp at started

/-- Each adapter is started at most once for a screening run, over all calls and whatever the
adapters do.  When one is started, the run of every earlier stage is recorded with its lineage,
and the call has read evidence of it from which the chain may progress; as long as no writer
changes the evidence of a succeeded run, that evidence is the persisted one still. -/
theorem filter_stages_once_in_order (store : ChainStore F) (actions : List (ChainAction F)) :
    let system := run (systemStep runtime) (startSystem store) actions
    (∀ screeningRunId stage, system.invocations.count (screeningRunId, stage) ≤ 1) ∧
    ∀ action screeningRunId stage,
      (systemStep runtime system action).invocations =
        (screeningRunId, stage) :: system.invocations →
      ∀ parent ∈ earlierStages stage,
        StageRecorded runtime system.store screeningRunId parent ∧
        WasReady runtime (Visited (systemStep runtime) (startSystem store) actions)
          screeningRunId parent ∧
        (Along (systemStep runtime) EvidenceFixed (startSystem store) actions →
          StageReady runtime system.store screeningRunId parent) := by
  intro system
  have holds : ChainInvariant runtime (Visited (systemStep runtime) (startSystem store) actions)
    system := chainInvariant_run runtime store actions
  refine ⟨?_, ?_⟩
  · intro screeningRunId stage
    have once := (holds.once screeningRunId stage).once
    omega
  · intro action screeningRunId stage started parent earlier
    obtain ⟨process, member, turn, phase, rfl, rfl⟩ := started_process runtime started
    have read := holds.read process member
    rw [phase] at read
    obtain ⟨visitedSystem, visited, ready⟩ := read.1.ready parent earlier
    refine ⟨stageRecorded_kept runtime ready.recorded (visited_kept runtime visited),
      ⟨visitedSystem, visited, ready⟩, ?_⟩
    intro fixed
    obtain ⟨first, rest, split, reached, same⟩ := visited_rest _ visited
    rw [split, along_append, reached] at fixed
    have kept := run_storeKept runtime visitedSystem rest fixed.2
    unfold ChainKept at kept
    rw [← same] at kept
    exact stageReady_kept runtime kept ready

end Once

end QuantFactory.FilterChain
