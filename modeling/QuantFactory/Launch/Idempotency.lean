import QuantFactory.Library.Lookup
import QuantFactory.Launch.Acknowledgement
import Mathlib.Logic.Relation

/-!
# Claims are atomic and idempotent

A claim call either leaves the database as it was or adds one run, its one
creation event and its one submission.  A later call with the same key re-reads
the stored request: it returns that submission when the intent is the same and
raises when any compared field differs, and writes nothing in either case.
-/

set_option autoImplicit false

namespace QuantFactory.Launch

open QuantFactory.Library QuantFactory.Python QuantFactory.Persistence

/-! ## What a claim adds -/

/-- Every logged event belongs to a run: the foreign key of the event table. -/
def EventsKnown (db : Database) : Prop := ∀ event ∈ db.events, (db.runs.get event.runId).isSome

/-- One new run with one creation event and one submission under the key. -/
structure AddsClaim (db next : Database) (key : String) (run : ExperimentRunRecord)
    (event : RunEventRecord) (row : ResearchRunSubmissionRecord) : Prop where
  rowKey : row.idempotencyKey = key
  rowRun : row.runId = run.runId
  eventRun : event.runId = run.runId
  eventKind : event.eventType = .runCreated
  runs : next.runs.rows = run :: db.runs.rows
  events : next.events = db.events ++ [event]
  submissions : next.submissions.rows = row :: db.submissions.rows
  newRun : ∀ other ∈ db.runs.rows, other.runId ≠ run.runId
  newEvent : ∀ other ∈ db.events, other.runId ≠ run.runId
  newRow : ∀ other ∈ db.submissions.rows, other.idempotencyKey ≠ key ∧ other.runId ≠ run.runId
  strategies : next.strategies = db.strategies
  configurations : next.configurations = db.configurations
  manifests : next.manifests = db.manifests

/-- No trace of a key, or exactly one run, one creation event and one submission for it. -/
def NoneOrOne (db next : Database) (key : String) : Prop :=
  next = db ∨ ∃ run event row, AddsClaim db next key run event row

section Atomic
variable {F : Type} [PyFloat F] (runtime : PythonRuntime F)

theorem createClaim_adds {contract : ResearchLaunchContract} {db next : Database}
    {key environmentJson : String} {arguments : ClaimArguments F} {result : ResearchLaunchClaim}
    (known : EventsKnown db)
    (done : createClaim runtime contract db key environmentJson arguments = .ok (result, next)) :
    ∃ event, AddsClaim db next key result.run event result.submission := by
  unfold createClaim at done
  simp only [bind_eq_ok, orRaise_eq_ok, Prod.exists] at done
  obtain ⟨canonical, _, runId, _, environment, _, stored, _, created, afterRun, runCreated, _, _,
    afterEvent, appended, _, _, submission, afterRow, rowCreated, _, _, finished⟩ := done
  cases Except.ok.inj finished
  obtain ⟨rfl, runs, runInserted, rfl⟩ := runCreate_eq_ok runCreated
  obtain ⟨_, event, eventRun, eventKind, rfl⟩ := append_eq_ok appended
  obtain ⟨rfl, runUnclaimed, submissions, rowInserted, rfl⟩ := submissionCreate_eq_ok rowCreated
  obtain ⟨runAbsent, runRows⟩ := Table.insert_some_iff.mp runInserted
  obtain ⟨rowAbsent, rowRows⟩ := Table.insert_some_iff.mp rowInserted
  refine ⟨event, rfl, rfl, eventRun, eventKind, runRows, rfl, rowRows, ?_, ?_, ?_, rfl, rfl, rfl⟩
  · intro other member same
    exact Table.get_eq_none_iff.mp runAbsent (List.mem_map.mpr ⟨other, member, same⟩)
  · intro other member same
    have isKnown := known other member
    rw [same, runAbsent] at isKnown
    cases isKnown
  · intro other member
    refine ⟨?_, runUnclaimed other member⟩
    intro same
    exact Table.get_eq_none_iff.mp rowAbsent (List.mem_map.mpr ⟨other, member, same⟩)

theorem validateLaunchKey_eq_ok {key named : String}
    (valid : validateLaunchKey key = .ok named) : named = key := by
  unfold validateLaunchKey at valid
  split at valid
  · exact (Except.ok.inj valid).symm
  · cases valid

/-- A claim call changes nothing, or adds one claim under a free key. -/
theorem claim_cases (contract : ResearchLaunchContract) {db : Database}
    (arguments : ClaimArguments F) (known : EventsKnown db) :
    (claim runtime contract arguments db).2 = db ∨
      db.submissions.get arguments.idempotencyKey = none ∧ ∃ run event row,
        AddsClaim db (claim runtime contract arguments db).2 arguments.idempotencyKey run event
          row := by
  unfold claim immediate
  cases outcome : claimBody runtime contract arguments db with
  | error error => exact .inl rfl
  | ok result =>
      obtain ⟨claimed, next⟩ := result
      unfold claimBody at outcome
      simp only [bind_eq_ok] at outcome
      obtain ⟨key, valid, environmentJson, _, done⟩ := outcome
      cases validateLaunchKey_eq_ok valid
      cases found : ResearchRunSubmissionRepository.get db arguments.idempotencyKey with
      | none =>
          rw [found] at done
          obtain ⟨event, adds⟩ := createClaim_adds runtime known done
          exact .inr ⟨found, _, event, _, adds⟩
      | some existing =>
          rw [found] at done
          exact .inl (replayClaim_unchanged runtime contract done).1

theorem AddsClaim.found {db next : Database} {key : String} {run : ExperimentRunRecord}
    {event : RunEventRecord} {row : ResearchRunSubmissionRecord}
    (adds : AddsClaim db next key run event row) : next.submissions.get key = some row := by
  rw [← adds.rowKey]
  refine Table.get_of_mem ?_
  rw [adds.submissions]
  exact List.mem_cons_self

theorem AddsClaim.eventsKnown {db next : Database} {key : String} {run : ExperimentRunRecord}
    {event : RunEventRecord} {row : ResearchRunSubmissionRecord}
    (adds : AddsClaim db next key run event row) (known : EventsKnown db) : EventsKnown next := by
  have inRows : ∀ other ∈ next.runs.rows, (next.runs.get other.runId).isSome := by
    intro other member
    rw [Table.get_of_mem member]
    rfl
  intro logged member
  rw [adds.events] at member
  rcases List.mem_append.mp member with old | new
  · obtain ⟨other, found⟩ := Option.isSome_iff_exists.mp (known logged old)
    rw [← Table.get_some_key found]
    refine inRows other ?_
    rw [adds.runs]
    exact List.mem_cons_of_mem _ (Table.get_some_mem found)
  · rw [List.mem_singleton.mp new, adds.eventRun]
    refine inRows run ?_
    rw [adds.runs]
    exact List.mem_cons_self

/-- The call of a claim under a key, by a service with its own contract. -/
abbrev KeyClaim (F : Type) := ResearchLaunchContract × ClaimArguments F

def claimUnder (key : String) (call : KeyClaim F) (db : Database) :
    Except LaunchError ResearchLaunchClaim × Database :=
  claim runtime call.1 { call.2 with idempotencyKey := key } db

def claimStep (key : String) (db : Database) (call : KeyClaim F) : Database :=
  (claimUnder runtime key call db).2

/-- Any number of claims under one free key, with any injected failures, leave no
trace of it or exactly one. -/
theorem claims_noneOrOne {start : Database} {key : String} (known : EventsKnown start)
    (claims : List (KeyClaim F)) :
    NoneOrOne start (run (claimStep runtime key) start claims) key := by
  have step : ∀ (db : Database) (call : KeyClaim F), NoneOrOne start db key →
      NoneOrOne start (claimStep runtime key db call) key := ?_
  · exact run_invariant (claimStep runtime key) step claims start (.inl rfl)
  intro db call holds
  rcases holds with rfl | ⟨run, event, row, adds⟩
  · rcases claim_cases runtime call.1 { call.2 with idempotencyKey := key } known with
      same | ⟨_, adds⟩
    · exact .inl same
    · exact .inr adds
  · rcases claim_cases runtime call.1 { call.2 with idempotencyKey := key }
      (adds.eventsKnown known) with same | ⟨free, _⟩
    · refine .inr ⟨run, event, row, ?_⟩
      have kept : claimStep runtime key db call = db := same
      rw [kept]
      exact adds
    · rw [adds.found] at free
      cases free

end Atomic

/-! ## The stored request -/

section Stored
variable {F : Type} [PyFloat F] (runtime : PythonRuntime F)

def storedLineage (lineage : Lineage) : Entries F :=
  (lineage.map fun entry => (entry.1, PyValue.str entry.2)).insertionSort keyLe

structure RequestFields (contract : ResearchLaunchContract) (request : NormalizedRequest)
    (configuration : ConfigurationRecord) (lineage : Lineage)
    (document : Entries F) : Prop where
  protocol : document.lookup "protocol_version" = some contract.protocolVersion.toValue
  operation : document.lookup "operation_kind" = some (.str request.operation.value)
  configurationId : document.lookup "configuration_id" = some (.str configuration.configurationId)
  configurationHash : document.lookup "configuration_hash" = some (.str configuration.configHash)
  strategyId : document.lookup "strategy_id" = some (.str configuration.strategyId)
  strategyVersion :
    document.lookup "strategy_version" = some (.str configuration.strategyVersion)
  stage : document.lookup contract.stageField = some (.str contract.stage.value)
  policy : document.lookup "accepted_launch_policy" = some (.str contract.acceptedLaunchPolicy)
  sourceRunId : document.lookup "source_run_id" = some (request.sourceRunId.elim .none .str)
  sourceLineage : document.lookup "source_lineage" = some (.dict (storedLineage lineage))

theorem normalize_lineageValue (lineage : Lineage) :
    Persistence.normalize (lineageValue (F := F) lineage) = .ok (.dict (storedLineage lineage)) := by
  have fixed : normalizeEntries (lineage.map fun entry => (entry.1, PyValue.str (F := F) entry.2)) =
      .ok (lineage.map fun entry => (entry.1, PyValue.str entry.2)) := by
    refine normalizeEntries_eq_self ?_
    intro entry member
    obtain ⟨source, _, rfl⟩ := List.mem_map.mp member
    rfl
  simp only [lineageValue, Persistence.normalize, fixed, storedLineage]

theorem requestFields {contract : ResearchLaunchContract}
    (supported : contract ∈ supportedLaunchContracts) {request : NormalizedRequest}
    {configuration : ConfigurationRecord} {lineage : Lineage} {normalized : PyValue F}
    (done : Persistence.normalize (requestDocument contract request configuration lineage) = .ok normalized) :
    ∃ document, normalized = .dict document ∧
      RequestFields contract request configuration lineage document := by
  obtain ⟨document, rfl⟩ : ∃ document, normalized = .dict document := by
    obtain ⟨written, -, same⟩ := normalize_dict_inv done
    exact ⟨_, same⟩
  refine ⟨document, rfl, ?_⟩
  have source : Persistence.normalize (request.sourceRunId.elim (.none : PyValue F) .str) =
      .ok (request.sourceRunId.elim .none .str) := by
    cases request.sourceRunId <;> rfl
  have protocol : Persistence.normalize (contract.protocolVersion.toValue : PyValue F) =
      .ok contract.protocolVersion.toValue := by
    cases contract.protocolVersion <;> rfl
  unfold requestDocument at done
  have stageField : contract.stageField = "fixture_stage" ∨
      contract.stageField = "candidate_stage" := by
    rcases List.mem_cons.mp supported with rfl | inRest
    · exact .inl rfl
    · rw [List.mem_singleton.mp inRest]
      exact .inr rfl
  have other : ∀ key, key ≠ "fixture_stage" → key ≠ "candidate_stage" →
      (key == contract.stageField) = false := by
    intro key notFixture notCandidate
    rcases stageField with same | same
    · simpa [same] using notFixture
    · simpa [same] using notCandidate
  have stageFound : ∀ key ∈ ["protocol_version", "operation_kind", "configuration_id",
      "configuration_hash", "strategy_id", "strategy_version"],
      (contract.stageField == key) = false := by
    rcases stageField with same | same
    · rw [same]
      decide
    · rw [same]
      decide
  exact {
    protocol := lookup_of_normalize done rfl protocol
    operation := lookup_of_normalize done rfl rfl
    configurationId := lookup_of_normalize done rfl rfl
    configurationHash := lookup_of_normalize done rfl rfl
    strategyId := lookup_of_normalize done rfl rfl
    strategyVersion := lookup_of_normalize done rfl rfl
    stage := lookup_of_normalize done
      (show List.lookup contract.stageField _ = some (.str contract.stage.value) by
        simp [List.lookup_cons, stageFound]) rfl
    policy := lookup_of_normalize done
      (show List.lookup "accepted_launch_policy" _ = some (.str contract.acceptedLaunchPolicy) by
        simp [List.lookup_cons, other]) rfl
    sourceRunId := lookup_of_normalize done (by simp [List.lookup_cons, other]) source
    sourceLineage := lookup_of_normalize done (by simp [List.lookup_cons, other])
      (normalize_lineageValue lineage) }

/-- What a claim leaves for a later one to read: the row's text, the document it was
written from and the rows this names. -/
structure Stored (contract : ResearchLaunchContract) (db : Database) (row : SubmissionIdentity)
    (request : NormalizedRequest) (configuration : ConfigurationRecord) (lineage : Lineage)
    (document : Entries F) : Prop where
  fingerprint : requestFingerprint runtime row.canonicalRequestJson = row.requestFingerprint
  text : row.canonicalRequestJson = runtime.jsonDumps (.dict document)
  reads : runtime.jsonLoads row.canonicalRequestJson = some (.dict document)
  fixed : Persistence.normalize (.dict document) = .ok (.dict document)
  fields : RequestFields contract request configuration lineage document
  configurationFound : db.configurations.get row.configurationId = some configuration
  configurationHash : runtime.sha256Hex configuration.canonicalConfigJson =
    configuration.configHash
  strategyFound : (db.strategies.get
    (configuration.strategyId, configuration.strategyVersion)).isSome
  runFound : ∃ run, db.runs.get row.runId = some run ∧ run.identity =
    ⟨row.runId, row.configurationId, configuration.strategyId, configuration.strategyVersion,
      contract.stage⟩
  requested : request.configurationId = row.configurationId
  derived : deriveSourceLineage runtime db request.operation request.sourceRunId contract.stage
    configuration.configurationId configuration.strategyId configuration.strategyVersion =
      .ok lineage
  unsourced : request.operation = .runTest → request.sourceRunId = none
  sourced : request.operation ≠ .runTest → request.sourceRunId.isSome

/-! ## Later operations keep it -/

/-- Runs keep their identity and their success; no strategy, configuration or manifest is
lost. -/
structure RunsKept (db next : Database) : Prop where
  runs : ∀ id run, db.runs.get id = some run → ∃ after, next.runs.get id = some after ∧
    after.identity = run.identity ∧ (run.status = .succeeded → after.status = .succeeded)
  strategies : ∀ key, (db.strategies.get key).isSome → (next.strategies.get key).isSome
  configurations : ∀ id row, db.configurations.get id = some row →
    next.configurations.get id = some row
  manifests : ∀ id row, db.manifests.get id = some row → next.manifests.get id = some row

theorem RunsKept.of_same {db next : Database} (runs : next.runs = db.runs)
    (strategies : next.strategies = db.strategies)
    (configurations : next.configurations = db.configurations)
    (manifests : next.manifests = db.manifests) : RunsKept db next where
  runs id run found := ⟨run, by rw [runs]; exact found, rfl, fun succeeded => succeeded⟩
  strategies key found := by rw [strategies]; exact found
  configurations id row found := by rw [configurations]; exact found
  manifests id row found := by rw [manifests]; exact found

theorem LaunchEffect.runsKept {db next : Database} (effect : LaunchEffect db next) :
    RunsKept db next := by
  cases effect with
  | unchanged => exact .of_same rfl rfl rfl rfl
  | logged event kind known => exact .of_same rfl rfl rfl rfl
  | created run row event runs submissions _ _ _ _ _ _ runInserted _ _ =>
      have absent := (Table.insert_some_iff.mp runInserted).1
      refine ⟨?_, fun _ found => found, fun _ _ found => found, fun _ _ found => found⟩
      intro id old found
      refine ⟨old, ?_, rfl, fun succeeded => succeeded⟩
      change runs.get id = some old
      rw [Table.get_insert runInserted, if_neg, found]
      rintro rfl
      rw [absent] at found
      cases found
  | moved row change found _ _ _ => exact .of_same rfl rfl rfl rfl
  | settled row run event change changeRun found runFound runCreated _ _ _ _ _ sameRun =>
      refine ⟨?_, fun _ found => found, fun _ _ found => found, fun _ _ found => found⟩
      intro id old oldFound
      change ∃ after, (db.runs.update row.runId changeRun).get id = some after ∧ _
      rw [Table.get_update]
      by_cases same : id = row.runId
      · subst same
        rw [runFound] at oldFound ⊢
        cases oldFound
        refine ⟨changeRun.apply run, by rw [if_pos rfl]; rfl, sameRun, ?_⟩
        intro succeeded
        rw [runCreated] at succeeded
        cases succeeded
      · exact ⟨old, by rw [if_neg same]; exact oldFound, rfl, fun succeeded => succeeded⟩

theorem RunsKept.refl (db : Database) : RunsKept db db := .of_same rfl rfl rfl rfl

theorem RunsKept.trans {first second third : Database} (left : RunsKept first second)
    (right : RunsKept second third) : RunsKept first third where
  runs id run found := by
    obtain ⟨middle, middleFound, middleSame, middleStatus⟩ := left.runs id run found
    obtain ⟨last, lastFound, lastSame, lastStatus⟩ := right.runs id middle middleFound
    exact ⟨last, lastFound, lastSame.trans middleSame,
      fun succeeded => lastStatus (middleStatus succeeded)⟩
  strategies key found := right.strategies key (left.strategies key found)
  configurations id row found := right.configurations id row (left.configurations id row found)
  manifests id row found := right.manifests id row (left.manifests id row found)

theorem reproductionLineage_kept {db next : Database} {source after : ExperimentRunRecord}
    {lineage : Lineage}
    (manifests : ∀ id row, db.manifests.get id = some row → next.manifests.get id = some row)
    (identity : after.identity = source.identity)
    (status : source.status = .succeeded → after.status = .succeeded)
    (derived : reproductionLineage runtime db source = .ok lineage) :
    reproductionLineage runtime next after = .ok lineage := by
  have fields := identity
  simp only [ExperimentRunRecord.identity, Launch.RunIdentity.mk.injEq] at fields
  obtain ⟨runId, configurationId, strategyId, strategyVersion, stage⟩ := fields
  have succeeded : source.status = .succeeded := by
    by_contra other
    rw [reproductionLineage, if_pos other] at derived
    cases derived
  rw [reproductionLineage, if_neg (not_not.mpr succeeded)] at derived
  rw [reproductionLineage, if_neg (not_not.mpr (status succeeded)), runId]
  cases found : db.manifests.get source.runId with
  | none =>
      rw [found] at derived
      cases derived
  | some stored =>
      rw [found] at derived
      rw [manifests _ _ found]
      simp only [derivedIdentities, configurationId, strategyId, strategyVersion] at derived ⊢
      exact derived

theorem deriveSourceLineage_some {db : Database} {operation : ResearchLaunchOperation}
    (notTest : operation ≠ .runTest) {sourceRunId : String} {stage : RunStage}
    {configurationId strategyId strategyVersion : String} :
    deriveSourceLineage runtime db operation (some sourceRunId) stage configurationId strategyId
      strategyVersion =
        match db.runs.get sourceRunId with
        | none => .error (integrityError s!"source run {sourceRunId} does not exist")
        | some source =>
          if source.stage ≠ stage then .error (integrityError
            s!"source run {sourceRunId} is not a {stage.value} run")
          else if source.configurationId ≠ configurationId ∨ source.strategyId ≠ strategyId ∨
              source.strategyVersion ≠ strategyVersion then
            .error (integrityError
              "source run identity does not match the requested saved configuration")
          else if operation = .historicalRelaunch then .ok [("parent_run_id", source.runId)]
          else reproductionLineage runtime db source := by
  cases operation <;> first | rfl | exact absurd rfl notTest

theorem deriveSourceLineage_kept {db next : Database} (kept : RunsKept db next)
    {operation : ResearchLaunchOperation} {sourceRunId : Option String} {stage : RunStage}
    {configurationId strategyId strategyVersion : String} {lineage : Lineage}
    (derived : deriveSourceLineage runtime db operation sourceRunId stage configurationId
      strategyId strategyVersion = .ok lineage) :
    deriveSourceLineage runtime next operation sourceRunId stage configurationId strategyId
      strategyVersion = .ok lineage := by
  by_cases isTest : operation = .runTest
  · subst isTest
    exact derived
  · cases sourceRunId with
    | none => cases operation <;> first | exact absurd rfl isTest | cases derived
    | some sourceRunId =>
        rw [deriveSourceLineage_some _ isTest] at derived ⊢
        cases found : db.runs.get sourceRunId with
        | none =>
            rw [found] at derived
            cases derived
        | some source =>
            obtain ⟨after, afterFound, identity, status⟩ := kept.runs sourceRunId source found
            have fields := identity
            simp only [ExperimentRunRecord.identity, Launch.RunIdentity.mk.injEq] at fields
            obtain ⟨runId, sameConfiguration, sameStrategy, sameVersion, sameStage⟩ := fields
            rw [found] at derived
            rw [afterFound]
            simp only [guard_eq_ok] at derived
            obtain ⟨stageIs, identityIs, derived⟩ := derived
            simp only [sameStage, sameConfiguration, sameStrategy, sameVersion, if_neg stageIs,
              if_neg identityIs, runId]
            split at derived
            · rename_i isHistorical
              rw [if_pos isHistorical]
              exact derived
            · rename_i notHistorical
              rw [if_neg notHistorical]
              exact reproductionLineage_kept runtime kept.manifests identity status derived

theorem Stored.kept {contract : ResearchLaunchContract} {db next : Database}
    {row : SubmissionIdentity} {request : NormalizedRequest} {configuration : ConfigurationRecord}
    {lineage : Lineage} {document : Entries F}
    (stored : Stored runtime contract db row request configuration lineage document)
    (kept : RunsKept db next) :
    Stored runtime contract next row request configuration lineage document := by
  obtain ⟨run, found, identity⟩ := stored.runFound
  obtain ⟨after, afterFound, same, _⟩ := kept.runs row.runId run found
  exact { stored with
    configurationFound := kept.configurations _ _ stored.configurationFound
    strategyFound := kept.strategies _ stored.strategyFound
    runFound := ⟨after, afterFound, same.trans identity⟩
    derived := deriveSourceLineage_kept runtime kept stored.derived }

end Stored

/-! ## Lineages as sets of fields -/

theorem sameLineage_iff {a b : Lineage} (distinct : (b.map Prod.fst).Nodup) :
    sameLineage a b = true ↔ a.length = b.length ∧ ∀ entry ∈ a, entry ∈ b := by
  simp only [sameLineage, Bool.and_eq_true, List.all_eq_true, decide_eq_true_eq]
  refine and_congr_right fun _ => forall₂_congr fun entry _ => ?_
  exact lookup_eq_some_iff_mem distinct

theorem sameLineage_perm {a b c : Lineage} (distinct : (b.map Prod.fst).Nodup)
    (permuted : c.Perm b) : sameLineage a c = sameLineage a b := by
  have distinctToo : (c.map Prod.fst).Nodup := (permuted.map Prod.fst).nodup_iff.mpr distinct
  rw [Bool.eq_iff_iff, sameLineage_iff distinct, sameLineage_iff distinctToo, permuted.length_eq]
  simp only [permuted.mem_iff]

theorem sameLineage_of_perm {b c : Lineage} (distinct : (b.map Prod.fst).Nodup)
    (permuted : c.Perm b) : sameLineage c b = true :=
  (sameLineage_iff distinct).mpr ⟨permuted.length_eq, fun _ member => permuted.mem_iff.mp member⟩

section Lineages
variable {F : Type} [PyFloat F] (runtime : PythonRuntime F)

omit [PyFloat F] in
theorem lineageOfEntries_texts (lineage : Lineage) :
    lineageOfEntries (lineage.map fun entry => (entry.1, PyValue.str (F := F) entry.2)) =
      some lineage := by
  induction lineage with
  | nil => rfl
  | cons entry rest ih =>
      simp only [List.map_cons, lineageOfEntries, ih]
      rfl

omit [PyFloat F] in
theorem lineageOfEntries_stored (lineage : Lineage) :
    ∃ kept, lineageOfEntries (storedLineage (F := F) lineage) = some kept ∧ kept.Perm lineage := by
  refine ⟨lineage.insertionSort fun a b => a.1 ≤ b.1, ?_, List.perm_insertionSort _ _⟩
  rw [storedLineage, ← List.map_insertionSort (fun a b : String × String => a.1 ≤ b.1) keyLe
    (fun entry => (entry.1, PyValue.str (F := F) entry.2)) lineage
    (fun _ _ _ _ => Iff.rfl)]
  exact lineageOfEntries_texts _

theorem reproductionLineage_keys {db : Database} {source : ExperimentRunRecord}
    {lineage : Lineage} (derived : reproductionLineage runtime db source = .ok lineage) :
    (lineage.map Prod.fst).Nodup := by
  unfold reproductionLineage at derived
  split at derived
  · cases derived
  · split at derived
    · cases derived
    · split at derived
      · cases derived
      · simp only [guard_eq_ok] at derived
        obtain ⟨_, _, derived⟩ := derived
        split at derived
        · split at derived
          · cases derived
          · simp only [bind_eq_ok] at derived
            obtain ⟨_, _, _, _, _, _, _, _, _, _, built⟩ := derived
            cases Except.ok.inj built
            simp
        · cases derived

theorem deriveSourceLineage_keys {db : Database} {operation : ResearchLaunchOperation}
    {sourceRunId : Option String} {stage : RunStage}
    {configurationId strategyId strategyVersion : String} {lineage : Lineage}
    (derived : deriveSourceLineage runtime db operation sourceRunId stage configurationId
      strategyId strategyVersion = .ok lineage) : (lineage.map Prod.fst).Nodup := by
  unfold deriveSourceLineage at derived
  split at derived
  · cases Except.ok.inj derived
    exact List.nodup_nil
  · cases derived
  · split at derived
    · cases derived
    · simp only [guard_eq_ok] at derived
      obtain ⟨_, _, derived⟩ := derived
      split at derived
      · cases Except.ok.inj derived
        simp
      · exact reproductionLineage_keys runtime derived

end Lineages

/-! ## Reading the stored request back -/

section Replay
variable {F : Type} [PyFloat F] (runtime : PythonRuntime F)

theorem operation_ofValue (operation : ResearchLaunchOperation) :
    ResearchLaunchOperation.ofValue operation.value = some operation := by
  cases operation <;> decide

omit [PyFloat F] in
theorem isText_str {text other : String} :
    isText (some (.str text : PyValue F)) other = true ↔ text = other := by
  simp [isText]

omit [PyFloat F] in
theorem isOptionalText_stored {stored asked : Option String} :
    isOptionalText (some (stored.elim (.none : PyValue F) .str)) asked = true ↔
      stored = asked := by
  cases stored <;> cases asked <;> simp [isOptionalText, isText, PyValue.isNone]

theorem protocolVersion_matches_self (version : ProtocolVersion) :
    version.matches (some (version.toValue : PyValue F)) = true := by
  cases version <;> simp [ProtocolVersion.matches, ProtocolVersion.toValue]

theorem protocolVersion_matches_other {contract other : ResearchLaunchContract}
    (supported : contract ∈ supportedLaunchContracts)
    (otherSupported : other ∈ supportedLaunchContracts)
    (matched : other.protocolVersion.matches
      (some (contract.protocolVersion.toValue : PyValue F)) = true) : other = contract := by
  simp only [supportedLaunchContracts, List.mem_cons, List.not_mem_nil, or_false]
    at supported otherSupported
  rcases supported with rfl | rfl
  · rcases otherSupported with rfl | rfl
    · rfl
    · cases matched
  · rcases otherSupported with rfl | rfl
    · cases matched
    · rfl

variable {contract : ResearchLaunchContract} {db : Database}
  {row : ResearchRunSubmissionRecord} {request : NormalizedRequest}
  {configuration : ConfigurationRecord} {lineage : Lineage} {document : Entries F}

theorem Stored.loaded
    (stored : Stored runtime contract db row.identity request configuration lineage document)
    (invalid notObject : LaunchError) :
    loadObject runtime row.canonicalRequestJson invalid notObject = .ok document := by
  have reads : runtime.jsonLoads row.canonicalRequestJson = some (.dict document) := stored.reads
  rw [loadObject, reads]

theorem Stored.configuration_id
    (stored : Stored runtime contract db row.identity request configuration lineage document) :
    configuration.configurationId = row.configurationId :=
  Table.get_some_key stored.configurationFound

theorem Stored.runTest_lineage
    (stored : Stored runtime contract db row.identity request configuration lineage document)
    (isTest : request.operation = .runTest) : lineage = [] := by
  have derived := stored.derived
  rw [isTest] at derived
  exact (Except.ok.inj derived).symm

theorem Stored.validates
    (stored : Stored runtime contract db row.identity request configuration lineage document) :
    ∃ run, validatePersistedClaim runtime contract db row false false = .ok run ∧
      db.runs.get row.runId = some run := by
  obtain ⟨run, runFound, identity⟩ := stored.runFound
  obtain ⟨kept, keptRead, permuted⟩ := lineageOfEntries_stored (F := F) lineage
  obtain ⟨strategy, strategyFound⟩ := Option.isSome_iff_exists.mp stored.strategyFound
  have distinct := deriveSourceLineage_keys runtime stored.derived
  have fields := stored.fields
  have fingerprint : requestFingerprint runtime row.canonicalRequestJson =
      row.requestFingerprint := stored.fingerprint
  have text : row.canonicalRequestJson = runtime.jsonDumps (.dict document) := stored.text
  have sameId := stored.configuration_id
  have sourced := stored.sourced
  have unsourced := stored.unsourced
  simp only [ExperimentRunRecord.identity, Launch.RunIdentity.mk.injEq] at identity
  obtain ⟨_, runConfiguration, runStrategy, runVersion, runStage⟩ := identity
  refine ⟨run, ?_, runFound⟩
  unfold validatePersistedClaim
  simp only [bind_eq_ok, raiseIf_eq_ok, orRaise_eq_ok]
  refine ⟨(), ?_, document, stored.loaded runtime _ _, runtime.jsonDumps (.dict document), ?_,
    (), ?_, request.operation, ?_, (), ?_, configuration, stored.configurationFound, (), ?_,
    strategy, strategyFound, (), ?_, run, runFound, (), ?_, (), ?_, request.sourceRunId, ?_,
    kept, ?_, (), ?_, (), ?_, lineage, stored.derived, (), ?_, rfl⟩
  · simp [fingerprint]
  · simp [canonicalJsonOrValueError, canonicalJson, stored.fixed]
  · simp [text]
  · simp [storedOperation, fields.operation, PyValue.text?, operation_ofValue]
  · simp [fields.protocol, fields.policy, fields.stage, fields.configurationId, isText, sameId,
      protocolVersion_matches_self]
  · simp [stored.configurationHash, fields.configurationHash, fields.strategyId,
      fields.strategyVersion, isText]
  · rfl
  · simp [runConfiguration, runStrategy, runVersion, runStage,
      ResearchRunSubmissionRecord.identity]
  · rfl
  · rw [storedSourceRunId, fields.sourceRunId]
    cases request.sourceRunId <;> rfl
  · rw [fields.sourceLineage]
    exact keptRead
  · by_cases isTest : request.operation = .runTest
    · rw [stored.runTest_lineage runtime isTest] at permuted
      simp [isTest, unsourced isTest, List.perm_nil.mp permuted]
    · simp [isTest]
  · by_cases isTest : request.operation = .runTest
    · simp [isTest]
    · simpa [isTest] using sourced isTest
  · simp [sameLineage_of_perm distinct permuted]

theorem Stored.refuses_other {other : ResearchLaunchContract}
    (stored : Stored runtime contract db row.identity request configuration lineage document)
    (supported : contract ∈ supportedLaunchContracts)
    (otherSupported : other ∈ supportedLaunchContracts) {run : ExperimentRunRecord}
    {created launchable : Bool}
    (valid : validatePersistedClaim runtime other db row created launchable = .ok run) :
    other = contract := by
  unfold validatePersistedClaim at valid
  simp only [bind_eq_ok, raiseIf_eq_ok] at valid
  obtain ⟨_, _, read, loaded, _, _, _, _, _, _, _, contractHolds, _⟩ := valid
  rw [stored.loaded runtime] at loaded
  cases Except.ok.inj loaded
  rw [stored.fields.protocol] at contractHolds
  simp only [Bool.or_eq_false_iff, Bool.not_eq_false'] at contractHolds
  exact protocolVersion_matches_other supported otherSupported contractHolds.1.1.1

/-- What a later claim asks for is what the key was claimed for: the same contract, operation,
configuration and source run, and the same lineage when it names one. -/
structure SameIntent (contract other : ResearchLaunchContract) (request asked : NormalizedRequest)
    (lineage : Lineage) : Prop where
  contract : other = contract
  operation : asked.operation = request.operation
  configurationId : asked.configurationId = request.configurationId
  sourceRunId : asked.sourceRunId = request.sourceRunId
  sourceLineage : asked.sourceLineage = [] ∨ sameLineage asked.sourceLineage lineage = true

/-- The comparison of a replay: it lets exactly the same intent through. -/
theorem Stored.replays_iff {other : ResearchLaunchContract} {asking : ResearchLaunchRequest}
    {asked : NormalizedRequest}
    (stored : Stored runtime contract db row.identity request configuration lineage document)
    (supported : contract ∈ supportedLaunchContracts)
    (otherSupported : other ∈ supportedLaunchContracts)
    (normalized : normalizeRequest asking = .ok asked) :
    (∃ result, replayClaim runtime other db row asking = .ok result) ↔
      SameIntent contract other request asked lineage := by
  obtain ⟨kept, keptRead, permuted⟩ := lineageOfEntries_stored (F := F) lineage
  have distinct := deriveSourceLineage_keys runtime stored.derived
  have fields := stored.fields
  have sameId : configuration.configurationId = request.configurationId :=
    (stored.configuration_id runtime).trans stored.requested.symm
  have read : lineageOf (document.lookup "source_lineage") = some kept := by
    rw [fields.sourceLineage]
    exact keptRead
  unfold replayClaim
  simp only [bind_eq_ok, raiseIf_eq_ok, normalized, Except.ok.injEq, stored.loaded runtime,
    exists_eq_left', fields.operation, fields.configurationId, fields.sourceRunId, read,
    Option.any_some, Bool.or_eq_false_iff, Bool.not_eq_false', isText_str, isOptionalText_stored,
    sameLineage_perm distinct permuted]
  constructor
  · rintro ⟨_, _, ⟨⟨⟨operation, configurationId⟩, sourceRunId⟩, sourceLineage⟩, run, valid, _⟩
    refine ⟨stored.refuses_other runtime supported otherSupported valid, ?_, ?_, sourceRunId.symm,
      ?_⟩
    · have back := operation_ofValue request.operation
      rw [operation, operation_ofValue] at back
      exact Option.some.inj back
    · exact configurationId.symm.trans sameId
    · cases empty : asked.sourceLineage with
      | nil => exact .inl rfl
      | cons entry rest => exact .inr (by simpa [empty] using sourceLineage)
  · intro intent
    obtain ⟨run, valid, _⟩ := stored.validates runtime
    refine ⟨_, (), ⟨⟨⟨?_, ?_⟩, intent.sourceRunId.symm⟩, ?_⟩, run, intent.contract ▸ valid, rfl⟩
    · rw [intent.operation]
    · exact sameId.trans intent.configurationId.symm
    · rcases intent.sourceLineage with empty | same
      · simp [empty]
      · simp [same]

end Replay

/-! ## The claim that creates -/

section Creation
variable {F : Type} [PyFloat F] (runtime : PythonRuntime F)

def requestLineage (contract : ResearchLaunchContract) (db : Database)
    (request : NormalizedRequest) : Except LaunchError Lineage :=
  match db.configurations.get request.configurationId with
  | none => .error ⟨.keyError, s!"unknown Quant Factory configuration: {request.configurationId}"⟩
  | some configuration =>
      deriveSourceLineage runtime db request.operation request.sourceRunId contract.stage
        configuration.configurationId configuration.strategyId configuration.strategyVersion

/-- `json.loads(json.dumps(document)) == document` for the document of a request. -/
def ReadsBack (contract : ResearchLaunchContract) (db : Database)
    (asking : ResearchLaunchRequest) : Prop :=
  ∀ request configuration lineage document, normalizeRequest asking = .ok request →
    db.configurations.get request.configurationId = some configuration →
    requestLineage runtime contract db request = .ok lineage →
    Persistence.normalize (requestDocument contract request configuration lineage) = .ok document →
    runtime.jsonLoads (runtime.jsonDumps document) = some document

theorem normalizeRequest_source {asking : ResearchLaunchRequest} {request : NormalizedRequest}
    (normalized : normalizeRequest asking = .ok request) :
    (request.operation = .runTest → request.sourceRunId = none) ∧
      (request.operation ≠ .runTest → request.sourceRunId.isSome) := by
  unfold normalizeRequest at normalized
  simp only [bind_eq_ok, raiseIf_eq_ok] at normalized
  obtain ⟨operation, _, _, _, sourceRunId, _, _, _, lineage, _, _, bare, _, sourced, built⟩ :=
    normalized
  cases Except.ok.inj built
  constructor
  · intro isTest
    simp only at isTest
    exact (show sourceRunId = none ∧ lineage = [] by simpa [isTest] using bare).1
  · intro other
    simp only at other
    simpa [other] using sourced

theorem createClaim_stored {contract : ResearchLaunchContract} {db next : Database}
    {key environmentJson : String} {arguments : ClaimArguments F} {result : ResearchLaunchClaim}
    (supported : contract ∈ supportedLaunchContracts)
    (readsBack : ReadsBack runtime contract db arguments.request)
    (done : createClaim runtime contract db key environmentJson arguments = .ok (result, next)) :
    ∃ request configuration lineage document,
      normalizeRequest arguments.request = .ok request ∧
      requestLineage runtime contract db request = .ok lineage ∧
      Stored runtime contract next result.submission.identity request configuration lineage
        document ∧
      next.runs.get result.submission.runId = some result.run ∧
      next.submissions.get key = some result.submission := by
  have kept := (createClaim_effect runtime contract done).runsKept
  unfold createClaim canonicalRequestForConfiguration at done
  simp only [bind_eq_ok, orRaise_eq_ok, raiseIf_eq_ok, Prod.exists] at done
  obtain ⟨canonical, ⟨request, normalized, configuration, configurationFound, _, hash, _, _, _, _,
    _, _, strategy, strategyFound, _, _, lineage, derived, _, _, serialized, written, built⟩,
    runId, _, environment, _, stored, _, created, afterRun, runCreated, _, _, afterEvent,
    appended, _, _, submission, afterRow, rowCreated, _, _, finished⟩ := done
  cases Except.ok.inj built
  cases Except.ok.inj finished
  obtain ⟨rfl, runs, runInserted, rfl⟩ := runCreate_eq_ok runCreated
  obtain ⟨_, event, _, _, rfl⟩ := append_eq_ok appended
  obtain ⟨rfl, _, submissions, rowInserted, rfl⟩ := submissionCreate_eq_ok rowCreated
  have lineageIs : requestLineage runtime contract db request = .ok lineage := by
    rw [requestLineage, configurationFound]
    exact derived
  have sameId : configuration.configurationId = request.configurationId :=
    Table.get_some_key configurationFound
  obtain ⟨unsourced, sourced⟩ := normalizeRequest_source normalized
  unfold canonicalJsonOrValueError canonicalJson at written
  cases canonicalOf : Persistence.normalize (requestDocument (F := F) contract request configuration lineage)
    with
  | error message =>
      rw [canonicalOf] at written
      cases written
  | ok value =>
      rw [canonicalOf] at written
      cases Except.ok.inj written
      obtain ⟨document, rfl, fields⟩ := requestFields supported canonicalOf
      have runFound : runs.get runId = some _ :=
        (Table.get_insert runInserted runId).trans (if_pos rfl)
      refine ⟨request, configuration, lineage, document, normalized, lineageIs, ?_, runFound,
        (Table.get_insert rowInserted key).trans (if_pos rfl)⟩
      exact {
        fingerprint := rfl
        text := rfl
        reads := readsBack request configuration lineage _ normalized configurationFound lineageIs
          canonicalOf
        fixed := normalize_idempotent _ canonicalOf
        fields := fields
        configurationFound := by
          rw [← sameId] at configurationFound
          exact configurationFound
        configurationHash := (show configuration.configHash = _ by simpa using hash).symm
        strategyFound := Option.isSome_iff_exists.mpr ⟨strategy, strategyFound⟩
        runFound := ⟨_, runFound, rfl⟩
        requested := sameId.symm
        derived := deriveSourceLineage_kept runtime kept derived
        unsourced := unsourced
        sourced := sourced }

/-! ## Later claims -/

/-- A step between two claims: a launch call, or a write of the rest of the repository, which
keeps the runs and leaves the submissions alone. -/
inductive LaterStep (db : Database) : Database → Prop where
  | call (call : Call F) : LaterStep db (applyCall runtime db call)
  | elsewhere {next : Database} (kept : RunsKept db next)
      (same : next.submissions = db.submissions) : LaterStep db next

theorem later_kept {db later : Database}
    (steps : Relation.ReflTransGen (LaterStep runtime) db later) :
    RunsKept db later ∧ IdentitiesKept db later := by
  induction steps with
  | refl => exact ⟨RunsKept.refl db, identitiesKept_refl db⟩
  | @tail middle last _ step ih =>
      obtain ⟨runs, identities⟩ := ih
      cases step with
      | call call =>
          have effect := applyCall_effect runtime middle call
          exact ⟨runs.trans effect.runsKept,
            identitiesKept_trans _ _ _ identities effect.advances.identitiesKept⟩
      | elsewhere kept same =>
          refine ⟨runs.trans kept, identitiesKept_trans _ _ _ identities ?_⟩
          intro key row found
          exact ⟨row, by rw [same]; exact found, rfl⟩

theorem claimBody_of_found {contract : ResearchLaunchContract} {db : Database}
    {arguments : ClaimArguments F} {row : ResearchRunSubmissionRecord} {text : String}
    (valid : validateLaunchKey arguments.idempotencyKey = .ok arguments.idempotencyKey)
    (serializable :
      canonicalJsonOrValueError runtime (.dict arguments.environment) = .ok text)
    (found : db.submissions.get arguments.idempotencyKey = some row) :
    claimBody runtime contract arguments db =
      replayClaim runtime contract db row arguments.request := by
  have read : ResearchRunSubmissionRepository.get db arguments.idempotencyKey = some row := found
  simp only [claimBody, valid, bind_ok, serializable, read]

theorem replayClaim_run {contract : ResearchLaunchContract} {db next : Database}
    {existing : ResearchRunSubmissionRecord} {request : ResearchLaunchRequest}
    {result : ResearchLaunchClaim}
    (replayed : replayClaim runtime contract db existing request = .ok (result, next)) :
    db.runs.get existing.runId = some result.run := by
  unfold replayClaim at replayed
  simp only [bind_eq_ok] at replayed
  obtain ⟨_, _, _, _, _, _, run, valid, built⟩ := replayed
  cases Except.ok.inj built
  exact (validatePersistedClaim_run runtime contract valid).1

section Found
variable {contract : ResearchLaunchContract} {db : Database}
  {row : ResearchRunSubmissionRecord} {request : NormalizedRequest}
  {configuration : ConfigurationRecord} {lineage : Lineage} {document : Entries F}

theorem Stored.claim_same {key text : String} {second : KeyClaim F} {asked : NormalizedRequest}
    (stored : Stored runtime contract db row.identity request configuration lineage document)
    (supported : contract ∈ supportedLaunchContracts)
    (secondSupported : second.1 ∈ supportedLaunchContracts)
    (valid : validateLaunchKey key = .ok key) (found : db.submissions.get key = some row)
    (serializable : canonicalJsonOrValueError runtime (.dict second.2.environment) = .ok text)
    (isAsked : normalizeRequest second.2.request = .ok asked)
    (same : SameIntent contract second.1 request asked lineage) :
    ∃ run, claimUnder runtime key second db = (.ok ⟨row, run, false⟩, db) ∧
      db.runs.get row.runId = some run := by
  obtain ⟨⟨replay, next⟩, replayed⟩ :=
    (stored.replays_iff runtime supported secondSupported isAsked).mpr same
  obtain ⟨unchanged, isRow, notCreated⟩ := replayClaim_unchanged runtime second.1 replayed
  have isRun := replayClaim_run runtime replayed
  have body : claimBody runtime second.1 { second.2 with idempotencyKey := key } db =
      .ok (replay, next) := by
    rw [← replayed]
    exact claimBody_of_found runtime valid serializable found
  obtain ⟨submission, run, created⟩ := replay
  cases isRow
  cases notCreated
  refine ⟨run, ?_, isRun⟩
  rw [claimUnder, claim, immediate, body, unchanged]

theorem Stored.claim_other {key : String} {second : KeyClaim F}
    (stored : Stored runtime contract db row.identity request configuration lineage document)
    (supported : contract ∈ supportedLaunchContracts)
    (secondSupported : second.1 ∈ supportedLaunchContracts)
    (found : db.submissions.get key = some row)
    (differs : ∀ asked, normalizeRequest second.2.request = .ok asked →
      ¬ SameIntent contract second.1 request asked lineage) :
    ∃ error, claimUnder runtime key second db = (.error error, db) := by
  cases again : claimBody runtime second.1 { second.2 with idempotencyKey := key } db with
  | error error => exact ⟨error, by rw [claimUnder, claim, immediate, again]⟩
  | ok replay =>
      unfold claimBody at again
      simp only [bind_eq_ok] at again
      obtain ⟨_, valid, _, _, replayed⟩ := again
      cases validateLaunchKey_eq_ok valid
      have read : ResearchRunSubmissionRepository.get db key = some row := found
      rw [read] at replayed
      obtain ⟨asked, isAsked, _⟩ := bind_eq_ok.mp replayed
      exact absurd ((stored.replays_iff runtime supported secondSupported isAsked).mp
        ⟨replay, replayed⟩) (differs asked isAsked)

end Found

/-- Two claims of one intent, in the database the first was made in. -/
def SameIntentClaims (db : Database) (first second : KeyClaim F) : Prop :=
  ∃ request asked lineage, normalizeRequest first.2.request = .ok request ∧
    normalizeRequest second.2.request = .ok asked ∧
    requestLineage runtime first.1 db request = .ok lineage ∧
    SameIntent first.1 second.1 request asked lineage

theorem sameIntentClaims_iff {db : Database} {first second : KeyClaim F}
    {request : NormalizedRequest} {lineage : Lineage}
    (normalized : normalizeRequest first.2.request = .ok request)
    (lineageIs : requestLineage runtime first.1 db request = .ok lineage) :
    SameIntentClaims runtime db first second ↔
      ∃ asked, normalizeRequest second.2.request = .ok asked ∧
        SameIntent first.1 second.1 request asked lineage := by
  constructor
  · rintro ⟨_, asked, _, again, isAsked, lineageAgain, same⟩
    rw [normalized] at again
    cases Except.ok.inj again
    rw [lineageIs] at lineageAgain
    cases Except.ok.inj lineageAgain
    exact ⟨asked, isAsked, same⟩
  · rintro ⟨asked, isAsked, same⟩
    exact ⟨request, asked, lineage, normalized, isAsked, lineageIs, same⟩

/-- What the next claim under the key does in a later database: it returns the claimed
submission and run when the intent is the same and raises when it differs, and changes nothing. -/
structure Replays (key : String) (db later : Database) (first second : KeyClaim F)
    (result : ResearchLaunchClaim) : Prop where
  sameIntent : SameIntentClaims runtime db first second →
    (∃ text, canonicalJsonOrValueError runtime (.dict second.2.environment) = .ok text) →
    ∃ row run, claimUnder runtime key second later = (.ok ⟨row, run, false⟩, later) ∧
      later.submissions.get key = some row ∧ row.identity = result.submission.identity ∧
      later.runs.get row.runId = some run ∧ run.identity = result.run.identity
  otherIntent : ¬ SameIntentClaims runtime db first second →
    ∃ error, claimUnder runtime key second later = (.error error, later)

/-- A claim that returns a new submission went down the insert path. -/
theorem claimUnder_created {key : String} {db : Database} {first : KeyClaim F}
    {result : ResearchLaunchClaim} (returned : (claimUnder runtime key first db).1 = .ok result)
    (created : result.created = true) :
    validateLaunchKey key = .ok key ∧ ∃ environmentJson,
      createClaim runtime first.1 db key environmentJson
        { first.2 with idempotencyKey := key } =
          .ok (result, (claimUnder runtime key first db).2) := by
  unfold claimUnder claim immediate at returned ⊢
  cases outcome : claimBody runtime first.1 { first.2 with idempotencyKey := key } db with
  | error error =>
      rw [outcome] at returned
      cases returned
  | ok done =>
      obtain ⟨claimed, next⟩ := done
      rw [outcome] at returned
      cases Except.ok.inj returned
      unfold claimBody at outcome
      simp only [bind_eq_ok] at outcome
      obtain ⟨named, valid, environmentJson, _, done⟩ := outcome
      cases validateLaunchKey_eq_ok valid
      cases found : ResearchRunSubmissionRepository.get db key with
      | some existing =>
          rw [found] at done
          rw [(replayClaim_unchanged runtime first.1 done).2.2] at created
          cases created
      | none =>
          rw [found] at done
          exact ⟨valid, environmentJson, done⟩

theorem created_replays {key : String} {db later : Database} {first second : KeyClaim F}
    {result : ResearchLaunchClaim} (supported : first.1 ∈ supportedLaunchContracts)
    (secondSupported : second.1 ∈ supportedLaunchContracts)
    (readsBack : ReadsBack runtime first.1 db first.2.request)
    (returned : (claimUnder runtime key first db).1 = .ok result)
    (created : result.created = true)
    (steps : Relation.ReflTransGen (LaterStep runtime) (claimUnder runtime key first db).2 later) :
    Replays runtime key db later first second result := by
  obtain ⟨valid, _, done⟩ := claimUnder_created runtime returned created
  obtain ⟨request, configuration, lineage, document, normalized, lineageIs, stored, runFound,
    rowFound⟩ := createClaim_stored runtime supported readsBack done
  obtain ⟨runsKept, identitiesKept⟩ := later_kept runtime steps
  obtain ⟨row, laterFound, sameRow⟩ := identitiesKept _ _ rowFound
  have laterStored := stored.kept runtime runsKept
  rw [← sameRow] at laterStored
  have intent : SameIntentClaims runtime db first second ↔ _ :=
    sameIntentClaims_iff runtime normalized lineageIs
  constructor
  · intro same serializable
    obtain ⟨text, serializable⟩ := serializable
    obtain ⟨asked, isAsked, same⟩ := intent.mp same
    obtain ⟨run, replayed, isRun⟩ := laterStored.claim_same runtime supported secondSupported
      valid laterFound serializable isAsked same
    obtain ⟨after, afterFound, sameRun, _⟩ := runsKept.runs _ _ runFound
    have rowRun : row.runId = result.submission.runId :=
      congrArg SubmissionIdentity.runId sameRow
    refine ⟨row, run, replayed, laterFound, sameRow, isRun, ?_⟩
    rw [rowRun, afterFound] at isRun
    cases isRun
    exact sameRun
  · intro differs
    refine laterStored.claim_other runtime supported secondSupported laterFound ?_
    intro asked isAsked same
    exact differs (intent.mpr ⟨asked, isAsked, same⟩)

/-- Claims under one key leave no trace of it or exactly one run, event and submission; once
one of them has created its submission, every later claim of the same intent returns it and
every other one raises, without a write. -/
theorem claim_atomic_idempotent {start : Database} (known : EventsKnown start) (key : String)
    (claims : List (KeyClaim F)) :
    NoneOrOne start (run (claimStep runtime key) start claims) key ∧
      ∀ (first second : KeyClaim F) (result : ResearchLaunchClaim) (later : Database),
        first.1 ∈ supportedLaunchContracts → second.1 ∈ supportedLaunchContracts →
        ReadsBack runtime first.1 (run (claimStep runtime key) start claims) first.2.request →
        (claimUnder runtime key first (run (claimStep runtime key) start claims)).1 = .ok result →
        result.created = true →
        Relation.ReflTransGen (LaterStep runtime)
          (claimUnder runtime key first (run (claimStep runtime key) start claims)).2 later →
        Replays runtime key (run (claimStep runtime key) start claims) later first second result := by
  refine ⟨claims_noneOrOne runtime known claims, ?_⟩
  intro first second result later supported secondSupported readsBack returned created steps
  exact created_replays runtime supported secondSupported readsBack returned created steps

end Creation

/-- A claim that fails once its run is written, then the same claim without the failure. -/
def failedClaim : KeyClaim WholeFloat :=
  (candidateScreeningLaunchContract, sampleClaim (some .afterRunCreate))

def repeatedClaim : KeyClaim WholeFloat := (candidateScreeningLaunchContract, sampleClaim none)

theorem sample_readsBack (db : Database)
    (same : db.configurations = sampleDatabase.configurations) :
    ReadsBack sampleRuntime candidateScreeningLaunchContract db repeatedClaim.2.request := by
  have asked : normalizeRequest repeatedClaim.2.request =
      .ok ⟨.runTest, sampleConfigurationId, none, []⟩ := by decide +kernel
  intro request configuration lineage document normalized found lineageIs written
  rw [asked] at normalized
  cases Except.ok.inj normalized
  rw [same] at found
  have row : sampleDatabase.configurations.get sampleConfigurationId =
      some ⟨sampleConfigurationId, "orb", "1", jsonText sampleConfiguration,
        sampleConfigurationId⟩ := by decide +kernel
  rw [row] at found
  cases found
  rw [requestLineage, same, row] at lineageIs
  cases Except.ok.inj lineageIs
  have document_eq : document = sampleRequestDocument := (Except.ok.inj written).symm
  have others : jsonText sampleRequestDocument ≠ jsonText sampleConfiguration := by decide +kernel
  simp only [document_eq, sampleRuntime, if_neg others, if_true]

theorem claim_atomic_idempotent_sample :
    NoneOrOne sampleDatabase
        (run (claimStep sampleRuntime sampleKey) sampleDatabase [failedClaim]) sampleKey ∧
      ∃ result, (claimUnder sampleRuntime sampleKey repeatedClaim
          (run (claimStep sampleRuntime sampleKey) sampleDatabase [failedClaim])).1 = .ok result ∧
        Replays sampleRuntime sampleKey
          (run (claimStep sampleRuntime sampleKey) sampleDatabase [failedClaim])
          (claimUnder sampleRuntime sampleKey repeatedClaim
            (run (claimStep sampleRuntime sampleKey) sampleDatabase [failedClaim])).2
          repeatedClaim repeatedClaim result := by
  have noEvents : EventsKnown sampleDatabase := by
    intro event member
    cases member
  obtain ⟨atomic, replays⟩ := claim_atomic_idempotent sampleRuntime noEvents sampleKey
    [failedClaim]
  have outcome : (claimUnder sampleRuntime sampleKey repeatedClaim
      (run (claimStep sampleRuntime sampleKey) sampleDatabase [failedClaim])).1.toOption.map
        (fun result => result.created) = some true := by decide +kernel
  cases returned : (claimUnder sampleRuntime sampleKey repeatedClaim
      (run (claimStep sampleRuntime sampleKey) sampleDatabase [failedClaim])).1 with
  | error error =>
      rw [returned] at outcome
      cases outcome
  | ok result =>
      rw [returned] at outcome
      refine ⟨atomic, result, rfl, replays _ _ _ _ (by decide) (by decide)
        (sample_readsBack _ rfl) returned (Option.some.inj outcome) .refl⟩

end QuantFactory.Launch
