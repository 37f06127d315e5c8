import QuantFactory.Persistence.Artifacts
import QuantFactory.Library.StableSort

/-!
# The stored manifest and what it is compared with

A manifest that is read back gives the checksum it was stored with, and its
artifacts compare equal to the rows of the database exactly when the contracts
of the two lists are equal.
-/

set_option autoImplicit false

namespace QuantFactory.Persistence

open QuantFactory.Library QuantFactory.Python QuantFactory.Launch

/-! ## Sorted entries -/

section Entries
variable {F : Type}

theorem dropEntry_insertionSort (key : String) (entries : Entries F) :
    PyValue.dropEntry key (entries.insertionSort keyLe) =
      (PyValue.dropEntry key entries).insertionSort keyLe :=
  filter_insertionSort keyLe _ entries

theorem setEntry_eq_map {key : String} (value : PyValue F) {entries : Entries F}
    (unique : (entries.map Prod.fst).Nodup) (present : key ∈ entries.map Prod.fst) :
    PyValue.setEntry key value entries =
      entries.map fun entry => if entry.1 = key then (key, value) else entry := by
  induction entries with
  | nil => cases present
  | cons entry rest ih =>
      obtain ⟨head, old⟩ := entry
      rw [List.map_cons, List.nodup_cons] at unique
      by_cases same : head = key
      · subst same
        have others : ∀ other ∈ rest,
            (if other.1 = head then (head, value) else other) = other := by
          intro other member
          have differs : other.1 ≠ head := by
            intro same
            exact unique.1 (List.mem_map.mpr ⟨other, member, same⟩)
          rw [if_neg differs]
        simp [PyValue.setEntry, List.map_congr_left others]
      · have later : key ∈ rest.map Prod.fst := by
          rcases List.mem_cons.mp present with first | later
          · exact absurd first.symm same
          · exact later
        simp [PyValue.setEntry, same, ih unique.2 later]

theorem setEntry_insertionSort {key : String} (value : PyValue F)
    {entries : Entries F} (unique : (entries.map Prod.fst).Nodup)
    (present : key ∈ entries.map Prod.fst) :
    PyValue.setEntry key value (entries.insertionSort keyLe) =
      (PyValue.setEntry key value entries).insertionSort keyLe := by
  have same := (List.perm_insertionSort keyLe entries).map Prod.fst
  rw [setEntry_eq_map value unique present,
    setEntry_eq_map value (same.nodup_iff.mpr unique) (same.mem_iff.mpr present)]
  refine List.map_insertionSort keyLe keyLe _ _ fun first _ second _ => ?_
  simp only [keyLe]
  split_ifs <;> simp_all

end Entries

/-! ## Normalized documents -/

section Normalized
variable {F : Type} [PyFloat F]

theorem normalize_dict {entries : Entries F}
    (fixed : ∀ entry ∈ entries, normalize entry.2 = .ok entry.2) :
    normalize (.dict entries) = .ok (.dict (entries.insertionSort keyLe)) := by
  simp only [normalize, normalizeEntries_eq_self fixed]

theorem normalizeItems_map {α : Type} {f g : α → PyValue F}
    (each : ∀ item, normalize (f item) = .ok (g item)) (items : List α) :
    normalizeItems (items.map f) = .ok (items.map g) := by
  induction items with
  | nil => rfl
  | cons item rest ih => simp [normalizeItems, each, ih]

def sortedContract (artifact : ArtifactContract) : PyValue F :=
  .dict ((artifactEntries artifact).insertionSort keyLe)

theorem artifactEntries_fixed (artifact : ArtifactContract) :
    ∀ entry ∈ artifactEntries (F := F) artifact, normalize entry.2 = .ok entry.2 := by
  simp [artifactEntries, normalize]

theorem normalize_contract (artifact : ArtifactContract) :
    normalize (artifactContractDocument (F := F) artifact) = .ok (sortedContract artifact) :=
  normalize_dict (artifactEntries_fixed artifact)

def sortedRecord (artifact : ArtifactContractRecord) : PyValue F :=
  .dict ((recordEntries artifact).insertionSort keyLe)

theorem normalize_record (artifact : ArtifactContractRecord) :
    normalize (mutableArtifactDocument (F := F) artifact) = .ok (sortedRecord artifact) := by
  refine normalize_dict fun entry member => ?_
  rcases List.mem_append.mp member with contract | availability
  · exact artifactEntries_fixed _ entry contract
  · obtain rfl := List.mem_singleton.mp availability
    rfl

omit [PyFloat F] in
theorem drop_availability (artifact : ArtifactContractRecord) :
    PyValue.dropEntry "availability_state" (recordEntries (F := F) artifact) =
      artifactEntries artifact.toArtifactContract := by
  simp [PyValue.dropEntry, recordEntries, artifactEntries]

omit [PyFloat F] in
theorem immutableArtifact_record (artifact : ArtifactContractRecord) :
    immutableArtifact (sortedRecord (F := F) artifact) =
      .ok (sortedContract artifact.toArtifactContract) := by
  simp only [immutableArtifact, sortedRecord, dropEntry_insertionSort, drop_availability,
    sortedContract]

omit [PyFloat F] in
theorem immutableArtifacts_records (artifacts : List ArtifactContractRecord) :
    (artifacts.map (sortedRecord (F := F))).mapM immutableArtifact =
      .ok (artifacts.map fun artifact => sortedContract artifact.toArtifactContract) := by
  induction artifacts with
  | nil => rfl
  | cons artifact rest ih =>
      rw [List.map_cons, List.mapM_cons, ih, immutableArtifact_record]
      rfl

end Normalized

/-! ## A contract is read off its document -/

theorem artifactType_value_injective {first second : ArtifactType}
    (same : first.value = second.value) : first = second := by
  cases first <;> cases second <;> first | rfl | simp [ArtifactType.value] at same

theorem sortedContract_injective {F : Type} {first second : ArtifactContract}
    (same : sortedContract (F := F) first = sortedContract second) : first = second := by
  have sorted := PyValue.dict.inj same
  have field : ∀ key, (artifactEntries (F := F) first).lookup key =
      (artifactEntries second).lookup key := by
    intro key
    rw [← lookup_insertionSort key (artifactEntries first), sorted, lookup_insertionSort]
  obtain ⟨id, run, kind, name, version, media, form, algorithm, checksum, size, place, time⟩ := first
  obtain ⟨id', run', kind', name', version', media', form', algorithm', checksum', size', place',
    time'⟩ := second
  have fields : id = id' ∧ run = run' ∧ kind.value = kind'.value ∧ name = name' ∧
      version = version' ∧ media = media' ∧ form = form' ∧ algorithm = algorithm' ∧
      checksum = checksum' ∧ size = size' ∧ place = place' ∧ time = time' := by
    refine ⟨?_, ?_, ?_, ?_, ?_, ?_, ?_, ?_, ?_, ?_, ?_, ?_⟩
    · have found := field "artifact_id"
      simp only [artifactEntries, List.lookup_cons_self, Option.some.injEq, PyValue.int.injEq] at found
      omega
    · simpa [artifactEntries, List.lookup_cons] using field "run_id"
    · simpa [artifactEntries, List.lookup_cons] using field "artifact_type"
    · simpa [artifactEntries, List.lookup_cons] using field "logical_name"
    · simpa [artifactEntries, List.lookup_cons] using field "schema_version"
    · simpa [artifactEntries, List.lookup_cons] using field "media_type"
    · simpa [artifactEntries, List.lookup_cons] using field "format"
    · simpa [artifactEntries, List.lookup_cons] using field "checksum_algorithm"
    · simpa [artifactEntries, List.lookup_cons] using field "checksum"
    · have found := field "size_bytes"
      simp [artifactEntries, List.lookup_cons] at found
      omega
    · simpa [artifactEntries, List.lookup_cons] using field "location"
    · simpa [artifactEntries, List.lookup_cons] using field "created_at"
  obtain ⟨rfl, rfl, kinds, rfl, rfl, rfl, rfl, rfl, rfl, rfl, rfl, rfl⟩ := fields
  rw [artifactType_value_injective kinds]

/-! ## The stored manifest -/

section Stored
variable {F Content : Type} [PyFloat F] {runtime : ArtifactRuntime F Content}

/-- `json.loads(json.dumps(document)) == document`, of a canonical document. -/
def ReadsBack (runtime : ArtifactRuntime F Content) (document : PyValue F) : Prop :=
  ∀ stored, normalize document = .ok stored →
    runtime.jsonLoads (runtime.jsonDumps stored) = some stored

theorem canonicalText_ok {document stored : PyValue F} (done : normalize document = .ok stored) :
    canonicalText runtime document = .ok (runtime.jsonDumps stored) := by
  simp [canonicalText, canonicalJson, done]

def storedEntries (manifest : RunManifest F) (lineage : PyValue F) : Entries F :=
  manifestEntries { manifest with lineage := lineage } (manifest.artifacts.map sortedRecord) ++
    [("created_at", .str manifest.createdAt)]

def immutableEntries (manifest : RunManifest F) (lineage : PyValue F) :
    Entries F :=
  manifestEntries { manifest with lineage := lineage }
    (manifest.artifacts.map fun artifact => sortedContract artifact.toArtifactContract)

theorem normalize_manifest {manifest : RunManifest F} {stored : PyValue F}
    (done : normalize (runManifestDocument manifest true) = .ok stored) :
    ∃ lineage, normalize manifest.lineage = .ok lineage ∧
      stored = .dict ((storedEntries manifest lineage).insertionSort keyLe) ∧
      normalize (runManifestDocument manifest false) =
        .ok (.dict ((immutableEntries manifest lineage).insertionSort keyLe)) := by
  have records := normalizeItems_map (F := F) normalize_record manifest.artifacts
  have contracts := normalizeItems_map (F := F)
    (fun artifact : ArtifactContractRecord => normalize_contract artifact.toArtifactContract)
    manifest.artifacts
  cases inner : normalize manifest.lineage with
  | error message =>
      simp [runManifestDocument, manifestEntries, normalize, normalizeEntries, records, inner]
        at done
  | ok lineage =>
      refine ⟨lineage, rfl, ?_, ?_⟩
      · simpa [runManifestDocument, manifestEntries, normalize, normalizeEntries, records, inner,
          storedEntries] using done.symm
      · simp [runManifestDocument, manifestEntries, normalize, normalizeEntries, contracts, inner,
          immutableEntries]

omit [PyFloat F] in
theorem lookup_stored (manifest : RunManifest F) (lineage : PyValue F) (key : String) :
    ((storedEntries manifest lineage).insertionSort keyLe).lookup key =
      (storedEntries manifest lineage).lookup key :=
  lookup_insertionSort key _

omit [PyFloat F] in
theorem manifestArtifacts_stored (manifest : RunManifest F) (lineage : PyValue F) :
    manifestArtifacts ((storedEntries manifest lineage).insertionSort keyLe) =
      .ok (manifest.artifacts.map fun artifact =>
        sortedContract artifact.toArtifactContract) := by
  have found : (storedEntries manifest lineage).lookup "artifacts" =
      some (.list (manifest.artifacts.map sortedRecord)) := by
    simp [storedEntries, manifestEntries, List.lookup_cons]
  rw [manifestArtifacts, lookup_stored, found]
  exact immutableArtifacts_records manifest.artifacts

omit [PyFloat F] in
theorem immutable_of_stored (manifest : RunManifest F) (lineage : PyValue F) :
    PyValue.setEntry "artifacts" (.list (manifest.artifacts.map fun artifact =>
        sortedContract artifact.toArtifactContract))
      (PyValue.dropEntry "created_at" ((storedEntries manifest lineage).insertionSort keyLe)) =
      (immutableEntries manifest lineage).insertionSort keyLe := by
  have dropped : PyValue.dropEntry "created_at" (storedEntries manifest lineage) =
      manifestEntries { manifest with lineage := lineage }
        (manifest.artifacts.map sortedRecord) := by
    simp [PyValue.dropEntry, storedEntries, manifestEntries]
  rw [dropEntry_insertionSort, dropped, setEntry_insertionSort]
  · congr 1
  · simp [manifestEntries]
  · simp [manifestEntries]

theorem persistedManifestChecksum_stored {manifest : RunManifest F} {lineage : PyValue F}
    (done : normalize (runManifestDocument manifest false) =
      .ok (.dict ((immutableEntries manifest lineage).insertionSort keyLe))) :
    persistedManifestChecksum runtime ((storedEntries manifest lineage).insertionSort keyLe) =
      digestOf runtime (runManifestDocument manifest false) := by
  have again := normalize_idempotent _ done
  simp only [persistedManifestChecksum, manifestArtifacts_stored, immutable_of_stored, digestOf,
    canonicalText_ok again, canonicalText_ok done, bind, Except.bind]

def comparedContracts (contracts : List ArtifactContract) : PyValue F :=
  .list (contracts.map artifactContractDocument)

theorem normalize_compared (contracts : List ArtifactContract) :
    normalize (comparedContracts (F := F) contracts) =
      .ok (.list (contracts.map sortedContract)) := by
  simp only [comparedContracts, normalize, normalizeItems_map normalize_contract]

theorem normalize_sorted (contracts : List ArtifactContract) :
    normalize (.list (contracts.map (sortedContract (F := F)))) =
      .ok (.list (contracts.map sortedContract)) :=
  normalize_idempotent _ (normalize_compared contracts)

/-- Two lists of contracts compare equal exactly when they are. -/
theorem compared_eq_iff {first second : List ArtifactContract}
    (readsFirst : ReadsBack runtime (comparedContracts first))
    (readsSecond : ReadsBack runtime (comparedContracts second)) :
    runtime.jsonDumps (.list (first.map sortedContract)) =
      runtime.jsonDumps (.list (second.map sortedContract)) ↔ first = second := by
  constructor
  · intro same
    have one := readsFirst _ (normalize_compared first)
    have other := readsSecond _ (normalize_compared second)
    rw [same, other] at one
    have lists := PyValue.list.inj (Option.some.inj one)
    exact (List.map_injective_iff.mpr fun _ _ => sortedContract_injective) lists.symm
  · rintro rfl
    rfl

end Stored

end QuantFactory.Persistence
