import QuantFactory.Persistence.ManifestDocuments
import QuantFactory.Library.Runs
import QuantFactory.Python.Samples

/-!
# Retrieving a run

A retrieval compares the manifest with the artifacts that are not exempt.  Over a
history of registrations it returns exactly when no exempt artifact came before
the manifest, which lists it, and no other after it; a changed file is reported by
its validation.
-/

set_option autoImplicit false

namespace QuantFactory.Persistence

open QuantFactory.Library QuantFactory.Python QuantFactory.Launch

section Retrieval
variable {F Content : Type} [PyFloat F] (runtime : ArtifactRuntime F Content)

def contracts (artifacts : List ArtifactContractRecord) : List ArtifactContract :=
  artifacts.map (·.toArtifactContract)

def comparedRows (store : ArtifactStore Content) (runId : String) : List ArtifactContract :=
  (contracts (listRunArtifacts store runId)).filter fun artifact => !artifact.exempt

def retrievalOf (store : ArtifactStore Content) (runId : String) (row : ManifestRow) :
    RunArtifactRetrieval :=
  ⟨row, listRunArtifacts store runId, (listRunArtifacts store runId).map fun artifact =>
    validateArtifact runtime store artifact.toArtifactContract⟩

def retrievalDocuments (manifest : RunManifest F) (store : ArtifactStore Content)
    (runId : String) : List (PyValue F) :=
  [runManifestDocument manifest true, comparedContracts (contracts manifest.artifacts),
    comparedContracts (comparedRows store runId)]

variable {runtime} {store : ArtifactStore Content} {runId : String} {row : ManifestRow}
  {manifest : RunManifest F}

/-- The row of a manifest holds its document and the checksum of its immutable part. -/
theorem manifestRow_ok (made : manifestRow runtime manifest = .ok row) :
    ∃ lineage, row.runId = manifest.runId ∧
      normalize (runManifestDocument manifest true) =
        .ok (.dict ((storedEntries manifest lineage).insertionSort keyLe)) ∧
      row.manifestJson =
        runtime.jsonDumps (.dict ((storedEntries manifest lineage).insertionSort keyLe)) ∧
      persistedManifestChecksum runtime ((storedEntries manifest lineage).insertionSort keyLe) =
        .ok row.contentChecksum := by
  cases done : normalize (runManifestDocument manifest true) with
  | error message =>
      simp [manifestRow, canonicalText, canonicalJson, done, bind, Except.bind] at made
  | ok stored =>
      obtain ⟨lineage, _, rfl, immutable⟩ := normalize_manifest done
      refine ⟨lineage, ?_⟩
      rw [persistedManifestChecksum_stored immutable]
      simp only [manifestRow, canonicalText_ok done, digestOf, canonicalText_ok immutable,
        bind, Except.bind, Except.map] at made ⊢
      cases Except.ok.inj made
      exact ⟨rfl, trivial, rfl, rfl⟩

theorem retrieve_stored (known : (findRun store runId).isSome = true)
    (stored : store.manifests.get runId = some row)
    (made : manifestRow runtime manifest = .ok row)
    (reads : ∀ document ∈ retrievalDocuments manifest store runId, ReadsBack runtime document) :
    retrieveRunArtifacts runtime store runId =
      if contracts manifest.artifacts = comparedRows store runId then
        .ok (retrievalOf runtime store runId row)
      else .error (valueError
        s!"stored run manifest artifacts do not match database records for run {runId}") := by
  obtain ⟨lineage, named, done, text, checksum⟩ := manifestRow_ok made
  have readsManifest := reads _ (by simp [retrievalDocuments]) _ done
  have readsListed : ReadsBack runtime (comparedContracts (contracts manifest.artifacts)) :=
    reads _ (by simp [retrievalDocuments])
  have readsFound : ReadsBack runtime (comparedContracts (comparedRows store runId)) :=
    reads _ (by simp [retrievalDocuments])
  obtain ⟨identity, found⟩ := Option.isSome_iff_exists.mp known
  have document : manifestDocument runtime row.manifestJson =
      .ok ((storedEntries manifest lineage).insertionSort keyLe) := by
    simp only [manifestDocument, text, readsManifest]
  have owner : ((storedEntries manifest lineage).insertionSort keyLe).lookup "run_id" =
      some (.str runId) := by
    have key : row.runId = runId := Table.get_some_key stored
    rw [lookup_stored, ← key, named]
    simp [storedEntries, manifestEntries, List.lookup_cons]
  have rows : ((listRunArtifacts store runId).filter fun artifact => !artifact.exempt).map
      (fun artifact => artifactContractDocument (F := F) artifact.toArtifactContract) =
      (comparedRows store runId).map artifactContractDocument := by
    simp [comparedRows, contracts, List.filter_map, Function.comp_def]
  have listed : (manifest.artifacts.map fun artifact =>
      sortedContract (F := F) artifact.toArtifactContract) =
      (contracts manifest.artifacts).map sortedContract := by
    simp [contracts]
  have foundText : canonicalText runtime
      (.list ((comparedRows store runId).map artifactContractDocument)) =
      .ok (runtime.jsonDumps (.list ((comparedRows store runId).map sortedContract))) :=
    canonicalText_ok (normalize_compared (comparedRows store runId))
  simp only [retrieveRunArtifacts, found, stored, document, owner, checksum,
    manifestArtifacts_stored, rows, listed, canonicalText_ok (normalize_sorted _), foundText,
    bind, Except.bind]
  have same := compared_eq_iff readsListed readsFound
  by_cases equal : contracts manifest.artifacts = comparedRows store runId
  · simp [equal, PyValue.text?, retrievalOf]
  · have texts := mt same.mp equal
    simp [equal, texts, PyValue.text?]

end Retrieval

/-! ## Histories -/

section History
variable {F Content : Type} [PyFloat F] (runtime : ArtifactRuntime F Content)

inductive ArtifactAction (F Content : Type) where
  | createRun (run : RunIdentity)
  | register (registration : ArtifactRegistration Content)
  | persistManifest (runId : String) (lineage : PyValue F) (createdAt : String)
  | updateAvailability (artifactId : Nat) (availability : ArtifactAvailability)
  | file (location : String) (found : FileAt Content)

def createRun (store : ArtifactStore Content) (run : RunIdentity) :
    Except LaunchError (ArtifactStore Content) :=
  if (findRun store run.runId).isSome then
    .error ⟨.sqliteIntegrity, "UNIQUE constraint failed: runs.run_id"⟩
  else .ok { store with runs := store.runs ++ [run] }

def buildAndPersist (store : ArtifactStore Content) (runId : String) (lineage : PyValue F)
    (createdAt : String) : Except LaunchError (ArtifactStore Content) := do
  let manifest ← buildRunManifest store runId lineage createdAt
  persistRunManifest runtime store manifest

def perform (store : ArtifactStore Content) :
    ArtifactAction F Content → Except LaunchError (ArtifactStore Content)
  | .createRun run => createRun store run
  | .register registration => registerArtifact runtime store registration
  | .persistManifest runId lineage createdAt =>
      buildAndPersist runtime store runId lineage createdAt
  | .updateAvailability artifactId availability =>
      updateArtifactAvailability store artifactId availability
  | .file location found => .ok { store with files := Function.update store.files location found }

def artifactStep (store : ArtifactStore Content) (action : ArtifactAction F Content) :
    ArtifactStore Content :=
  (perform runtime store action).toOption.getD store

def emptyStore : ArtifactStore Content := ⟨[], [], Table.empty, fun _ => .missing⟩

/-- The manifest of the run is persisted, again or for the first time. -/
def Seals (runId : String) (store : ArtifactStore Content) (action : ArtifactAction F Content) :
    Prop :=
  ∃ lineage createdAt, action = .persistManifest runId lineage createdAt ∧
    (buildAndPersist runtime store runId lineage createdAt).isOk = true

variable {runtime}

/-- The rows of artifacts and runs only grow, apart from the availability. -/
structure Grows (store next : ArtifactStore Content) : Prop where
  artifacts : contracts store.artifacts <+: contracts next.artifacts
  runs : store.runs <+: next.runs

theorem grows_refl (store : ArtifactStore Content) : Grows store store :=
  ⟨List.prefix_rfl, List.prefix_rfl⟩

theorem grows_trans {first second third : ArtifactStore Content} (early : Grows first second)
    (late : Grows second third) : Grows first third :=
  ⟨early.artifacts.trans late.artifacts, early.runs.trans late.runs⟩

omit [PyFloat F] in
theorem grows_register {store next : ArtifactStore Content}
    {registration : ArtifactRegistration Content}
    (done : registerArtifact runtime store registration = .ok next) :
    Grows store next ∧ next.manifests = store.manifests := by
  simp only [registerArtifact] at done
  split at done
  · cases done
  · split at done
    · split at done
      · cases done
      · cases Except.ok.inj done
        exact ⟨grows_refl store, rfl⟩
    · split at done
      · cases done
      · cases Except.ok.inj done
        exact ⟨⟨by simp [contracts], List.prefix_rfl⟩, rfl⟩

theorem grows_availability {store next : ArtifactStore Content} {artifactId : Nat}
    {availability : ArtifactAvailability}
    (done : updateArtifactAvailability store artifactId availability = .ok next) :
    Grows store next ∧ next.manifests = store.manifests := by
  simp only [updateArtifactAvailability] at done
  split at done
  · cases Except.ok.inj done
    have same : contracts (store.artifacts.map fun artifact =>
        if artifact.artifactId = artifactId then
          { artifact with availabilityState := availability }
        else artifact) = contracts store.artifacts := by
      rw [contracts, contracts, List.map_map]
      refine List.map_congr_left fun artifact _ => ?_
      simp only [Function.comp_apply]
      split_ifs <;> rfl
    exact ⟨⟨by rw [same], List.prefix_rfl⟩, rfl⟩
  · cases done

structure Sealed (runtime : ArtifactRuntime F Content) (store next : ArtifactStore Content)
    (manifest : RunManifest F) : Prop where
  artifacts : next.artifacts = store.artifacts
  runs : next.runs = store.runs
  row : ∃ row, manifestRow runtime manifest = .ok row ∧
    next.manifests.get manifest.runId = some row
  others : ∀ runId, runId ≠ manifest.runId →
    next.manifests.get runId = store.manifests.get runId

theorem manifestRow_runId {manifest : RunManifest F} {row : ManifestRow}
    (made : manifestRow runtime manifest = .ok row) : row.runId = manifest.runId := by
  obtain ⟨_, named, _⟩ := manifestRow_ok made
  exact named

theorem persistRunManifest_sealed {store next : ArtifactStore Content} {manifest : RunManifest F}
    (done : persistRunManifest runtime store manifest = .ok next) :
    Sealed runtime store next manifest := by
  cases made : manifestRow runtime manifest with
  | error error => simp [persistRunManifest, made, bind, Except.bind] at done
  | ok row =>
      have named := manifestRow_runId made
      simp only [persistRunManifest, made, bind, Except.bind] at done
      cases inserted : store.manifests.insert row with
      | some manifests =>
          simp only [inserted] at done
          cases Except.ok.inj done
          refine ⟨rfl, rfl, ⟨row, made, ?_⟩, fun runId other => ?_⟩
          · rw [Table.get_insert inserted, named, if_pos rfl]
          · rw [Table.get_insert inserted, named, if_neg other]
      | none =>
          simp only [inserted] at done
          split at done
          · cases done
          · cases Except.ok.inj done
            have taken : ∃ old, store.manifests.get manifest.runId = some old := by
              by_contra absent
              have free : store.manifests.get (row.runId) = none := by
                rw [named]
                exact Option.eq_none_iff_forall_not_mem.mpr fun old found => absent ⟨old, found⟩
              rw [Table.insert, dif_neg (Table.get_eq_none_iff.mp free)] at inserted
              cases inserted
            obtain ⟨old, found⟩ := taken
            refine ⟨rfl, rfl, ⟨row, made, ?_⟩, fun runId other => ?_⟩
            · rw [Table.get_update_self, found]
              simp [withManifest, Table.get_some_key found, ← named]
            · exact Table.get_update_of_ne store.manifests manifest.runId (withManifest row) other

omit [PyFloat F] in
theorem buildRunManifest_ok {store : ArtifactStore Content} {runId : String}
    {lineage : PyValue F} {createdAt : String} {manifest : RunManifest F}
    (built : buildRunManifest store runId lineage createdAt = .ok manifest) :
    manifest.runId = runId ∧ manifest.artifacts = listRunArtifacts store runId ∧
      (findRun store runId).isSome = true := by
  cases found : findRun store runId with
  | none => simp [buildRunManifest, found] at built
  | some identity =>
      have owner : identity.runId = runId := by simpa using List.find?_some found
      simp only [buildRunManifest, found] at built
      cases Except.ok.inj built
      exact ⟨owner, rfl, rfl⟩

theorem buildAndPersist_sealed {store next : ArtifactStore Content} {runId : String}
    {lineage : PyValue F} {createdAt : String}
    (done : buildAndPersist runtime store runId lineage createdAt = .ok next) :
    ∃ manifest, buildRunManifest store runId lineage createdAt = .ok manifest ∧
      Sealed runtime store next manifest := by
  cases built : buildRunManifest store runId lineage createdAt with
  | error error => simp [buildAndPersist, built, bind, Except.bind] at done
  | ok manifest =>
      refine ⟨manifest, rfl, persistRunManifest_sealed ?_⟩
      simpa [buildAndPersist, built, bind, Except.bind] using done

theorem grows_perform {store next : ArtifactStore Content} {action : ArtifactAction F Content}
    (done : perform runtime store action = .ok next) : Grows store next := by
  cases action with
  | createRun run =>
      simp only [perform, createRun] at done
      split at done
      · cases done
      · cases Except.ok.inj done
        exact ⟨List.prefix_rfl, List.prefix_append _ _⟩
  | register registration => exact (grows_register done).1
  | persistManifest runId lineage createdAt =>
      obtain ⟨manifest, _, same⟩ := buildAndPersist_sealed done
      exact ⟨by rw [same.artifacts], by rw [same.runs]⟩
  | updateAvailability artifactId availability => exact (grows_availability done).1
  | file location found =>
      cases Except.ok.inj done
      exact ⟨List.prefix_rfl, List.prefix_rfl⟩

theorem grows_step (store : ArtifactStore Content) (action : ArtifactAction F Content) :
    Grows store (artifactStep runtime store action) := by
  unfold artifactStep
  cases done : perform runtime store action with
  | error error => exact grows_refl store
  | ok next => exact grows_perform done

/-- Unless it seals the run, an operation leaves the manifest row of the run alone. -/
theorem manifest_kept {store : ArtifactStore Content} {action : ArtifactAction F Content}
    {runId : String} (unsealed : ¬Seals runtime runId store action) :
    (artifactStep runtime store action).manifests.get runId = store.manifests.get runId := by
  unfold artifactStep
  cases done : perform runtime store action with
  | error error => rfl
  | ok next =>
      change next.manifests.get runId = _
      cases action with
      | createRun run =>
          simp only [perform, createRun] at done
          split at done
          · cases done
          · cases Except.ok.inj done
            rfl
      | register registration => rw [(grows_register done).2]
      | persistManifest owner lineage createdAt =>
          obtain ⟨manifest, built, same⟩ := buildAndPersist_sealed done
          have named := (buildRunManifest_ok built).1
          refine same.others runId fun isOwner => unsealed ⟨lineage, createdAt, ?_, ?_⟩
          · rw [isOwner, named]
          · rw [isOwner, named, show buildAndPersist runtime store owner lineage createdAt =
              .ok next from done]
            rfl
      | updateAvailability artifactId availability => rw [(grows_availability done).2]
      | file location found =>
          cases Except.ok.inj done
          rfl

end History

/-! ## The order of the artifacts -/

section Order

instance : Std.Total contractLe where
  total first second := by
    by_cases same : first.artifactType.value = second.artifactType.value
    · rcases String.le_total first.logicalName second.logicalName with le | ge
      · exact .inl (.inr ⟨same, le⟩)
      · exact .inr (.inr ⟨same.symm, ge⟩)
    · by_cases before : first.artifactType.value < second.artifactType.value
      · exact .inl (.inl before)
      · refine .inr (.inl ?_)
        by_contra after
        exact same (String.le_antisymm after before)

instance : IsTrans ArtifactContract contractLe where
  trans first second third before after := by
    rcases before with before | ⟨same, le⟩ <;> rcases after with after | ⟨same', le'⟩
    · exact .inl (String.lt_trans before after)
    · exact .inl (same' ▸ before)
    · exact .inl (same ▸ after)
    · exact .inr ⟨same.trans same', String.le_trans le le'⟩

variable {Content : Type}

def contractsOf (runId : String) (artifacts : List ArtifactContractRecord) :
    List ArtifactContract :=
  (contracts artifacts).filter fun artifact => artifact.runId = runId

theorem contracts_listed (store : ArtifactStore Content) (runId : String) :
    contracts (listRunArtifacts store runId) =
      (contractsOf runId store.artifacts).insertionSort contractLe := by
  rw [contracts, listRunArtifacts,
    List.map_insertionSort recordLe contractLe _ _ fun _ _ _ _ => Iff.rfl, contractsOf, contracts,
    List.filter_map]
  rfl

theorem comparedRows_eq (store : ArtifactStore Content) (runId : String) :
    comparedRows store runId = ((contractsOf runId store.artifacts).filter
      fun artifact => !artifact.exempt).insertionSort contractLe := by
  rw [comparedRows, contracts_listed, filter_insertionSort]

/-- Sorted, a list is the compared part of a longer one exactly when none of it is exempt
and all the rest is. -/
theorem sorted_eq_compared_iff (base extra : List ArtifactContract) :
    base.insertionSort contractLe =
        ((base ++ extra).filter fun artifact => !artifact.exempt).insertionSort contractLe ↔
      (∀ artifact ∈ base, artifact.exempt = false) ∧ ∀ artifact ∈ extra, artifact.exempt = true := by
  constructor
  · intro same
    have inBase : ∀ artifact ∈ base, artifact.exempt = false := by
      intro artifact member
      have sorted := (List.mem_insertionSort contractLe).mpr member
      rw [same, List.mem_insertionSort, List.mem_filter] at sorted
      simpa using sorted.2
    refine ⟨inBase, fun artifact member => ?_⟩
    have kept : (base.filter fun artifact => !artifact.exempt) = base :=
      List.filter_eq_self.mpr fun other inside => by simp [inBase other inside]
    have lengths := congrArg List.length same
    rw [List.length_insertionSort, List.length_insertionSort, List.filter_append, kept,
      List.length_append] at lengths
    have none : (extra.filter fun artifact => !artifact.exempt) = [] :=
      List.length_eq_zero_iff.mp (by omega)
    simpa using List.filter_eq_nil_iff.mp none artifact member
  · rintro ⟨inBase, inExtra⟩
    congr 1
    have kept : (base.filter fun artifact => !artifact.exempt) = base :=
      List.filter_eq_self.mpr fun other inside => by simp [inBase other inside]
    have none : (extra.filter fun artifact => !artifact.exempt) = [] :=
      List.filter_eq_nil_iff.mpr fun other inside => by simp [inExtra other inside]
    rw [List.filter_append, kept, none, List.append_nil]

end Order

/-! ## What a retrieval accepts -/

section Accepts
variable {F Content : Type} [PyFloat F] {runtime : ArtifactRuntime F Content} {runId : String}

/-- Operations that do not seal the run only add artifacts to what its manifest was. -/
theorem run_unsealed (actions : List (ArtifactAction F Content)) :
    ∀ store : ArtifactStore Content,
      Along (artifactStep runtime) (fun store action => ¬Seals runtime runId store action)
        store actions →
      Grows store (run (artifactStep runtime) store actions) ∧
        (run (artifactStep runtime) store actions).manifests.get runId =
          store.manifests.get runId := by
  induction actions with
  | nil => intro store _; exact ⟨grows_refl store, rfl⟩
  | cons action rest ih =>
      intro store along
      obtain ⟨grows, kept⟩ := ih _ along.2
      exact ⟨grows_trans (grows_step store action) grows, kept.trans (manifest_kept along.1)⟩

theorem findRun_grows {store next : ArtifactStore Content} (grows : Grows store next)
    (known : (findRun store runId).isSome = true) : (findRun next runId).isSome = true := by
  obtain ⟨more, same⟩ := grows.runs
  rw [findRun, ← same, List.find?_append]
  simp only [findRun] at known
  simp [known]

theorem contractsOf_grows {store next : ArtifactStore Content} (grows : Grows store next) :
    contractsOf runId next.artifacts = contractsOf runId store.artifacts ++
      contractsOf runId (next.artifacts.drop store.artifacts.length) := by
  have split := List.prefix_iff_eq_append.mp grows.artifacts
  rw [contractsOf, ← split, List.filter_append, contractsOf, contractsOf]
  simp [contracts]

def Intact (runtime : ArtifactRuntime F Content) (store : ArtifactStore Content)
    (artifact : ArtifactContract) : Prop :=
  unsafeLocation artifact.location = false ∧ ∃ content,
    store.files artifact.location = .regular content ∧
      runtime.size content = artifact.sizeBytes ∧ runtime.checksum content = artifact.checksum

omit [PyFloat F] in
theorem validateArtifact_valid_iff (store : ArtifactStore Content) (artifact : ArtifactContract) :
    (validateArtifact runtime store artifact).valid = true ↔ Intact runtime store artifact := by
  unfold validateArtifact Intact
  cases location : unsafeLocation artifact.location with
  | true => simp
  | false =>
      cases found : store.files artifact.location with
      | regular content =>
          by_cases size : runtime.size content = artifact.sizeBytes
          · by_cases checksum : runtime.checksum content = artifact.checksum <;>
              simp [size, checksum]
          · simp [size]
      | _ => simp

omit [PyFloat F] in
theorem validateArtifact_artifactId (store : ArtifactStore Content) (artifact : ArtifactContract) :
    (validateArtifact runtime store artifact).artifactId = artifact.artifactId := by
  unfold validateArtifact
  split
  · rfl
  · split
    · rfl
    · rfl
    · rfl
    · split_ifs <;> rfl

theorem retrieve_known {store : ArtifactStore Content} {retrieval : RunArtifactRetrieval}
    (returned : retrieveRunArtifacts runtime store runId = .ok retrieval) :
    (findRun store runId).isSome = true := by
  cases found : findRun store runId with
  | some identity => rfl
  | none => simp [retrieveRunArtifacts, found] at returned

theorem sealed_row {store : ArtifactStore Content} {lineage : PyValue F} {createdAt : String}
    {manifest : RunManifest F}
    (built : buildRunManifest store runId lineage createdAt = .ok manifest)
    (seals : Seals runtime runId store (.persistManifest runId lineage createdAt)) :
    let sealed := artifactStep runtime store (.persistManifest runId lineage createdAt)
    Grows store sealed ∧ ∃ row, sealed.manifests.get runId = some row ∧
      manifestRow runtime manifest = .ok row := by
  obtain ⟨_, _, same, ok⟩ := seals
  cases same
  refine ⟨grows_step store _, ?_⟩
  cases done : buildAndPersist runtime store runId lineage createdAt with
  | error error => simp [done, Except.isOk, Except.toBool] at ok
  | ok next =>
      obtain ⟨other, builtOther, result⟩ := buildAndPersist_sealed done
      rw [built] at builtOther
      cases Except.ok.inj builtOther
      obtain ⟨row, made, stored⟩ := result.row
      refine ⟨row, ?_, made⟩
      simp only [artifactStep, perform, done]
      rw [(buildRunManifest_ok built).1] at stored
      exact stored

/-- The last manifest of a run, sealed when `registered` was the store: a retrieval after
any further operations returns exactly when no exempt artifact of the run was registered
before it and no other after it. -/
theorem retrieval_returns_iff {before after : List (ArtifactAction F Content)}
    {lineage : PyValue F} {createdAt : String} {manifest : RunManifest F} :
    let registered := run (artifactStep runtime) emptyStore before
    let persist := ArtifactAction.persistManifest runId lineage createdAt
    let sealed := artifactStep runtime registered persist
    let final := run (artifactStep runtime) sealed after
    buildRunManifest registered runId lineage createdAt = .ok manifest →
    Seals runtime runId registered persist →
    Along (artifactStep runtime) (fun store action => ¬Seals runtime runId store action)
      sealed after →
    (∀ document ∈ retrievalDocuments manifest final runId, ReadsBack runtime document) →
    ((retrieveRunArtifacts runtime final runId).isOk = true ↔
      (∀ artifact ∈ contractsOf runId registered.artifacts, artifact.exempt = false) ∧
      ∀ artifact ∈ contractsOf runId (final.artifacts.drop registered.artifacts.length),
        artifact.exempt = true) := by
  intro registered persist sealed final built seals along reads
  obtain ⟨grows, row, stored, made⟩ := sealed_row built seals
  obtain ⟨later, kept⟩ := run_unsealed after sealed along
  obtain ⟨named, listed, known⟩ := buildRunManifest_ok built
  have grown : Grows registered final := grows_trans grows later
  rw [retrieve_stored (findRun_grows grown known) (kept.trans stored) made reads,
    listed, contracts_listed, comparedRows_eq, contractsOf_grows grown,
    ← sorted_eq_compared_iff]
  split_ifs with same
  · exact iff_of_true rfl same
  · exact iff_of_false (by simp [Except.isOk, Except.toBool]) same

/-- The last manifest of a run, sealed when `registered` was the store and the run had no
exempt artifact: a retrieval after any further operations returns exactly when all artifacts
registered since are exempt.  Whatever has been changed in the store, a retrieval that
returns has found every listed artifact with the contract the manifest records, and the
validation of each says whether its file is intact. -/
theorem manifest_retrieval (runtime : ArtifactRuntime F Content) (runId : String) :
    (∀ before lineage createdAt after manifest,
      let registered := run (artifactStep runtime) emptyStore before
      let persist := ArtifactAction.persistManifest runId lineage createdAt
      let sealed := artifactStep runtime registered persist
      let final := run (artifactStep runtime) sealed after
      buildRunManifest registered runId lineage createdAt = .ok manifest →
      Seals runtime runId registered persist →
      (∀ artifact ∈ contractsOf runId registered.artifacts, artifact.exempt = false) →
      Along (artifactStep runtime) (fun store action => ¬Seals runtime runId store action)
        sealed after →
      (∀ document ∈ retrievalDocuments manifest final runId, ReadsBack runtime document) →
      ((retrieveRunArtifacts runtime final runId).isOk = true ↔
        ∀ artifact ∈ contractsOf runId (final.artifacts.drop registered.artifacts.length),
          artifact.exempt = true)) ∧
    (∀ store manifest row retrieval, store.manifests.get runId = some row →
      manifestRow runtime manifest = .ok row →
      (∀ document ∈ retrievalDocuments manifest store runId, ReadsBack runtime document) →
      retrieveRunArtifacts runtime store runId = .ok retrieval →
      ∀ listed ∈ contracts manifest.artifacts, listed ∈ contracts retrieval.artifacts ∧
        ∃ validation ∈ retrieval.validations, validation.artifactId = listed.artifactId ∧
          (validation.valid = true ↔ Intact runtime store listed)) := by
  constructor
  · intro before lineage createdAt after manifest registered persist sealed final built seals
      compared along reads
    exact (retrieval_returns_iff built seals along reads).trans (and_iff_right compared)
  · intro store manifest row retrieval stored made reads returned listed member
    rw [retrieve_stored (retrieve_known returned) stored made reads] at returned
    split_ifs at returned with same
    cases Except.ok.inj returned
    rw [same, comparedRows] at member
    have present : listed ∈ contracts (listRunArtifacts store runId) :=
      List.mem_of_mem_filter member
    obtain ⟨artifact, inList, rfl⟩ := List.mem_map.mp present
    refine ⟨present, validateArtifact runtime store artifact.toArtifactContract,
      List.mem_map_of_mem inList, validateArtifact_artifactId _ _, validateArtifact_valid_iff _ _⟩

end Accepts

/-! ## A decision after the manifest, a changed file -/

section Sample

def sampleRun : RunIdentity := ⟨"run-1", "configuration-1", "strategy-1", "1.0.0"⟩

def registration (logicalName : String) : ArtifactRegistration String where
  runId := "run-1"
  artifactType := .metrics
  logicalName := logicalName
  mediaType := "application/json"
  format := "json"
  location := "artifacts/" ++ logicalName ++ ".json"
  content := "1"
  schemaVersion := 1
  availabilityState := .available
  now := "2026-01-01"

def readsAmong (documents : List (PyValue WholeFloat)) : ArtifactRuntime WholeFloat String where
  jsonDumps := jsonText
  jsonLoads text := documents.find? fun document => jsonText document = text
  sha256Hex text := text
  checksum content := content
  size := String.length

def registeredRun (names : List String) : List (ArtifactAction WholeFloat String) :=
  .createRun sampleRun :: names.flatMap fun name =>
    [.file (registration name).location (.regular "1"), .register (registration name)]

def registeredStore (runtime : ArtifactRuntime WholeFloat String) (names : List String) :
    ArtifactStore String :=
  run (artifactStep runtime) emptyStore (registeredRun names)

def sampleLineage : PyValue WholeFloat := .dict [("runtime", .str "runtime-1")]

def sampleManifest (names : List String) : RunManifest WholeFloat where
  schemaVersion := runManifestSchemaVersion
  runId := "run-1"
  configurationId := "configuration-1"
  strategyId := "strategy-1"
  strategyVersion := "1.0.0"
  lineage := sampleLineage
  artifacts := listRunArtifacts (registeredStore (readsAmong []) names) "run-1"
  createdAt := "2026-01-02"

def storedManifest (names : List String) : PyValue WholeFloat :=
  (normalize (runManifestDocument (sampleManifest names) true)).toOption.getD .none

def storedContracts (artifacts : List ArtifactContract) : PyValue WholeFloat :=
  .list (artifacts.map sortedContract)

/-- The runtime that reads back what a retrieval of this run compares. -/
def sampleRuntime (names : List String) : ArtifactRuntime WholeFloat String :=
  readsAmong [storedManifest names, storedContracts (contracts (sampleManifest names).artifacts),
    storedContracts ((contracts (sampleManifest names).artifacts).filter (!·.exempt))]

def sealedStore (names : List String) : ArtifactStore String :=
  artifactStep (sampleRuntime names) (registeredStore (sampleRuntime names) names)
    (.persistManifest "run-1" sampleLineage "2026-01-02")

theorem sampleManifest_built :
    buildRunManifest (registeredStore (sampleRuntime ["metrics"]) ["metrics"]) "run-1"
      sampleLineage "2026-01-02" = .ok (sampleManifest ["metrics"]) := by
  have found : findRun (registeredStore (sampleRuntime ["metrics"]) ["metrics"]) "run-1" =
      some sampleRun := by decide +kernel
  have listed : listRunArtifacts (registeredStore (sampleRuntime ["metrics"]) ["metrics"])
      "run-1" = (sampleManifest ["metrics"]).artifacts := by decide +kernel
  simp only [buildRunManifest, found, listed]
  rfl

theorem readsBack_sampleManifest : ReadsBack (sampleRuntime ["metrics"])
    (runManifestDocument (sampleManifest ["metrics"]) true) := by
  intro stored done
  have same : storedManifest ["metrics"] = stored := by rw [storedManifest, done]; rfl
  simp [sampleRuntime, readsAmong, same]

theorem readsBack_sampleContracts : ReadsBack (sampleRuntime ["metrics"])
    (comparedContracts (contracts (sampleManifest ["metrics"]).artifacts)) := by
  intro stored done
  rw [normalize_compared] at done
  cases Except.ok.inj done
  have other : jsonText (storedManifest ["metrics"]) ≠
      jsonText (storedContracts (contracts (sampleManifest ["metrics"]).artifacts)) := by
    decide +kernel
  rw [storedContracts] at other
  simp [sampleRuntime, readsAmong, storedContracts, List.find?_cons, other]

/-- The store after the decision of the sealed run has been registered. -/
def decidedStore : ArtifactStore String :=
  run (artifactStep (sampleRuntime ["metrics"])) (sealedStore ["metrics"])
    [.file (registration evidenceDecisionLogicalName).location (.regular "1"),
      .register (registration evidenceDecisionLogicalName)]

theorem readsBack_decidedStore : ∀ document ∈ retrievalDocuments (sampleManifest ["metrics"])
    decidedStore "run-1", ReadsBack (sampleRuntime ["metrics"]) document := by
  have rows : comparedRows decidedStore "run-1" =
      contracts (sampleManifest ["metrics"]).artifacts := by decide +kernel
  rw [retrievalDocuments, rows]
  simp only [List.forall_mem_cons, List.not_mem_nil, false_imp_iff, implies_true, and_true]
  exact ⟨readsBack_sampleManifest, readsBack_sampleContracts, readsBack_sampleContracts⟩

/-- The retrieval returns, and the file of the metrics is found as it was registered. -/
theorem manifest_retrieval_decided :
    ∃ retrieval, retrieveRunArtifacts (sampleRuntime ["metrics"]) decidedStore "run-1" =
        .ok retrieval ∧
      ∀ listed ∈ contracts (sampleManifest ["metrics"]).artifacts,
        ∃ validation ∈ retrieval.validations, validation.artifactId = listed.artifactId ∧
          (validation.valid = true ↔ Intact (sampleRuntime ["metrics"]) decidedStore listed) := by
  have returns : (retrieveRunArtifacts (sampleRuntime ["metrics"]) decidedStore "run-1").isOk =
      true := by
    refine ((manifest_retrieval (sampleRuntime ["metrics"]) "run-1").1 (registeredRun ["metrics"])
      sampleLineage "2026-01-02" _ _ sampleManifest_built ⟨_, _, rfl, by decide +kernel⟩
      (by decide +kernel) ?_ readsBack_decidedStore).mpr (by decide +kernel)
    refine ⟨?_, ?_, trivial⟩ <;> rintro ⟨lineage, createdAt, same, -⟩ <;> cases same
  have rows : (manifestRow (sampleRuntime ["metrics"]) (sampleManifest ["metrics"])).toOption =
      decidedStore.manifests.get "run-1" := by decide +kernel
  cases returned : retrieveRunArtifacts (sampleRuntime ["metrics"]) decidedStore "run-1" with
  | error raised => rw [returned] at returns; cases returns
  | ok retrieval =>
      refine ⟨retrieval, rfl, fun listed member => ?_⟩
      cases made : manifestRow (sampleRuntime ["metrics"]) (sampleManifest ["metrics"]) with
      | error raised =>
          have present : decidedStore.manifests.get "run-1" ≠ none := by decide +kernel
          rw [made] at rows
          exact absurd rows.symm present
      | ok row =>
          rw [made] at rows
          exact ((manifest_retrieval (sampleRuntime ["metrics"]) "run-1").2 decidedStore _ row
            retrieval rows.symm made readsBack_decidedStore returned listed member).2

/-- A retrieval after the file of a listed artifact has been changed does not raise: it
returns, with a validation that is not valid.  And the retrieval of a run whose decision was
registered before its manifest raises, with all files as they were written. -/
theorem changed_file_is_returned :
    let changed := artifactStep (sampleRuntime ["metrics"]) (sealedStore ["metrics"])
      (.file (registration "metrics").location (.regular "2"))
    let decided := ["metrics", evidenceDecisionLogicalName]
    (retrieveRunArtifacts (sampleRuntime ["metrics"]) changed "run-1").isOk = true ∧
      ((retrieveRunArtifacts (sampleRuntime ["metrics"]) changed "run-1").toOption.map
        fun retrieval => retrieval.validations.map (·.valid)) = some [false] ∧
      (sealedStore decided).manifests.get "run-1" ≠ none ∧
      retrieveRunArtifacts (sampleRuntime decided) (sealedStore decided) "run-1" =
        .error (valueError
          "stored run manifest artifacts do not match database records for run run-1") := by
  decide +kernel

end Sample

end QuantFactory.Persistence
