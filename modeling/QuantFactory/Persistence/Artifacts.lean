import QuantFactory.Persistence.Serialization
import QuantFactory.Launch.Repositories

/-!
# Registered artifacts and the run manifest

`register_artifact`, `build_run_manifest`, `persist_run_manifest`,
`validate_artifact` and `retrieve_run_artifacts` of `persistence/service.py`, and
the documents of `persistence/manifest.py`.  Rows stand in `artifact_id` order.
-/

set_option autoImplicit false

namespace QuantFactory.Persistence

open QuantFactory.Library QuantFactory.Python QuantFactory.Launch

/-! ## Records -/

inductive ArtifactAvailability where
  | available | missing | corrupt | unavailable
  deriving DecidableEq, Repr

def ArtifactAvailability.value : ArtifactAvailability → String
  | .available => "available"
  | .missing => "missing"
  | .corrupt => "corrupt"
  | .unavailable => "unavailable"

inductive ArtifactType where
  | runSummary | parameterResults | tradesOrOrders | metrics | equityCurve
  | validationEvidence | datasetManifest | genericFixtureEvidence
  deriving DecidableEq, Repr

def ArtifactType.value : ArtifactType → String
  | .runSummary => "run_summary"
  | .parameterResults => "parameter_results"
  | .tradesOrOrders => "trades_or_orders"
  | .metrics => "metrics"
  | .equityCurve => "equity_curve"
  | .validationEvidence => "validation_evidence"
  | .datasetManifest => "dataset_manifest"
  | .genericFixtureEvidence => "generic_fixture_evidence"

structure ArtifactContract where
  artifactId : Nat
  runId : String
  artifactType : ArtifactType
  logicalName : String
  schemaVersion : Int
  mediaType : String
  format : String
  checksumAlgorithm : String
  checksum : String
  sizeBytes : Nat
  location : String
  createdAt : String
  deriving DecidableEq, Repr

structure ArtifactContractRecord extends ArtifactContract where
  availabilityState : ArtifactAvailability
  deriving DecidableEq, Repr

def evidenceDecisionLogicalName : String := "evidence_decision_record"
def reviewContextLogicalName : String := "review_context"

def ArtifactContract.exempt (artifact : ArtifactContract) : Bool :=
  artifact.logicalName = evidenceDecisionLogicalName ||
    artifact.logicalName = reviewContextLogicalName

/-! ## Documents -/

section Documents
variable {F : Type}

def artifactEntries (artifact : ArtifactContract) : Entries F :=
  [("artifact_id", .int artifact.artifactId), ("run_id", .str artifact.runId),
    ("artifact_type", .str artifact.artifactType.value),
    ("logical_name", .str artifact.logicalName), ("schema_version", .int artifact.schemaVersion),
    ("media_type", .str artifact.mediaType), ("format", .str artifact.format),
    ("checksum_algorithm", .str artifact.checksumAlgorithm),
    ("checksum", .str artifact.checksum), ("size_bytes", .int artifact.sizeBytes),
    ("location", .str artifact.location), ("created_at", .str artifact.createdAt)]

def artifactContractDocument (artifact : ArtifactContract) : PyValue F :=
  .dict (artifactEntries artifact)

def recordEntries (artifact : ArtifactContractRecord) : Entries F :=
  artifactEntries artifact.toArtifactContract ++
    [("availability_state", .str artifact.availabilityState.value)]

def mutableArtifactDocument (artifact : ArtifactContractRecord) : PyValue F :=
  .dict (recordEntries artifact)

structure RunManifest (F : Type) where
  schemaVersion : Int
  runId : String
  configurationId : String
  strategyId : String
  strategyVersion : String
  lineage : PyValue F
  artifacts : List ArtifactContractRecord
  createdAt : String

def manifestEntries (manifest : RunManifest F) (artifacts : List (PyValue F)) :
    Entries F :=
  [("manifest_schema_version", .int manifest.schemaVersion), ("run_id", .str manifest.runId),
    ("configuration_id", .str manifest.configurationId),
    ("strategy_id", .str manifest.strategyId),
    ("strategy_version", .str manifest.strategyVersion), ("artifacts", .list artifacts),
    ("lineage", manifest.lineage)]

def runManifestDocument (manifest : RunManifest F) (includeMutable : Bool) : PyValue F :=
  if includeMutable then
    .dict (manifestEntries manifest (manifest.artifacts.map mutableArtifactDocument) ++
      [("created_at", .str manifest.createdAt)])
  else .dict (manifestEntries manifest
    (manifest.artifacts.map fun artifact => artifactContractDocument artifact.toArtifactContract))

end Documents

/-! ## The store -/

inductive FileAt (Content : Type) where
  | escapes
  | missing
  | notRegular
  | regular (content : Content)

structure ArtifactRuntime (F Content : Type) extends PythonRuntime F where
  checksum : Content → String
  size : Content → Nat

structure ManifestRow where
  runId : String
  manifestJson : String
  contentChecksum : String
  deriving DecidableEq, Repr

structure RunIdentity where
  runId : String
  configurationId : String
  strategyId : String
  strategyVersion : String
  deriving DecidableEq, Repr

abbrev ManifestTable := Table ManifestRow String (·.runId)
abbrev ManifestChange := KeyedChange ManifestRow String (·.runId)

structure ArtifactStore (Content : Type) where
  runs : List RunIdentity
  artifacts : List ArtifactContractRecord
  manifests : ManifestTable
  files : String → FileAt Content

section Service
variable {F Content : Type} [PyFloat F] (runtime : ArtifactRuntime F Content)

/-- The text of a document; a non-finite float makes `canonical_json` raise. -/
def canonicalText (document : PyValue F) : Except LaunchError String :=
  match canonicalJson runtime.toPythonRuntime document with
  | .ok text => .ok text
  | .error message => .error (valueError message)

def digestOf (document : PyValue F) : Except LaunchError String :=
  (canonicalText runtime document).map runtime.sha256Hex

def findRun (store : ArtifactStore Content) (runId : String) : Option RunIdentity :=
  store.runs.find? fun run => run.runId = runId

/-- `ORDER BY artifact_type, logical_name, artifact_id`, of rows in `artifact_id` order. -/
def contractLe (first second : ArtifactContract) : Prop :=
  first.artifactType.value < second.artifactType.value ∨
    (first.artifactType.value = second.artifactType.value ∧
      first.logicalName ≤ second.logicalName)

instance : DecidableRel contractLe := fun first second =>
  inferInstanceAs (Decidable (first.artifactType.value < second.artifactType.value ∨
    (first.artifactType.value = second.artifactType.value ∧
      first.logicalName ≤ second.logicalName)))

def recordLe (first second : ArtifactContractRecord) : Prop :=
  contractLe first.toArtifactContract second.toArtifactContract

instance : DecidableRel recordLe := fun first second =>
  inferInstanceAs (Decidable (contractLe first.toArtifactContract second.toArtifactContract))

def listRunArtifacts (store : ArtifactStore Content) (runId : String) :
    List ArtifactContractRecord :=
  (store.artifacts.filter fun artifact => artifact.runId = runId).insertionSort recordLe

structure ArtifactRegistration (Content : Type) where
  runId : String
  artifactType : ArtifactType
  logicalName : String
  mediaType : String
  format : String
  location : String
  content : Content
  schemaVersion : Int
  availabilityState : ArtifactAvailability
  now : String

def registeredRow (registration : ArtifactRegistration Content) (artifactId : Nat) :
    ArtifactContractRecord where
  artifactId := artifactId
  runId := registration.runId
  artifactType := registration.artifactType
  logicalName := registration.logicalName
  schemaVersion := registration.schemaVersion
  mediaType := registration.mediaType
  format := registration.format
  checksumAlgorithm := "sha256"
  checksum := runtime.checksum registration.content
  sizeBytes := runtime.size registration.content
  location := registration.location
  createdAt := registration.now
  availabilityState := registration.availabilityState

/-- The fields `identity_key` is the digest of. -/
def sameIdentity (registration : ArtifactRegistration Content)
    (artifact : ArtifactContractRecord) : Bool :=
  artifact.runId = registration.runId && artifact.artifactType = registration.artifactType &&
    artifact.logicalName = registration.logicalName &&
    artifact.schemaVersion = registration.schemaVersion

/-- `register_artifact`: the new store, which is the old one when the artifact is known. -/
def registerArtifact (store : ArtifactStore Content)
    (registration : ArtifactRegistration Content) :
    Except LaunchError (ArtifactStore Content) :=
  let row := registeredRow runtime registration (store.artifacts.length + 1)
  if registration.logicalName.isEmpty || registration.mediaType.isEmpty ||
      registration.format.isEmpty || registration.location.isEmpty ||
      registration.schemaVersion < 1 then
    .error (valueError "artifact metadata must be non-empty and schema_version positive")
  else match store.artifacts.find? (sameIdentity registration) with
    | some existing =>
        if { existing.toArtifactContract with
            artifactId := row.artifactId, createdAt := row.createdAt } ≠ row.toArtifactContract then
          .error (valueError "immutable artifact identity conflicts with existing artifact")
        else .ok store
    | none =>
        if (findRun store registration.runId).isNone then
          .error ⟨.sqliteIntegrity, "FOREIGN KEY constraint failed"⟩
        else .ok { store with artifacts := store.artifacts ++ [row] }

def updateArtifactAvailability (store : ArtifactStore Content) (artifactId : Nat)
    (availability : ArtifactAvailability) : Except LaunchError (ArtifactStore Content) :=
  if store.artifacts.any fun artifact => artifact.artifactId = artifactId then
    .ok { store with artifacts := store.artifacts.map fun artifact =>
      if artifact.artifactId = artifactId then
        { artifact with availabilityState := availability }
      else artifact }
  else .error ⟨.keyError, s!"unknown artifact {artifactId}"⟩

def runManifestSchemaVersion : Int := 3

/-- `build_run_manifest`, with the lineage that `get_run_lineage` returns. -/
def buildRunManifest (store : ArtifactStore Content) (runId : String) (lineage : PyValue F)
    (createdAt : String) : Except LaunchError (RunManifest F) :=
  match findRun store runId with
  | none => .error ⟨.keyError, s!"unknown run {runId}"⟩
  | some run => .ok ⟨runManifestSchemaVersion, run.runId, run.configurationId, run.strategyId,
      run.strategyVersion, lineage, listRunArtifacts store runId, createdAt⟩

/-- The row of `run_manifests` for a manifest. -/
def manifestRow (manifest : RunManifest F) : Except LaunchError ManifestRow := do
  let manifestJson ← canonicalText runtime (runManifestDocument manifest true)
  let contentChecksum ← digestOf runtime (runManifestDocument manifest false)
  .ok ⟨manifest.runId, manifestJson, contentChecksum⟩

def withManifest (row : ManifestRow) : ManifestChange where
  apply existing := { row with runId := existing.runId }
  keeps _ := rfl

def persistRunManifest (store : ArtifactStore Content) (manifest : RunManifest F) :
    Except LaunchError (ArtifactStore Content) := do
  let row ← manifestRow runtime manifest
  match store.manifests.insert row with
  | some manifests => .ok { store with manifests := manifests }
  | none =>
      if (store.manifests.get manifest.runId).map (·.contentChecksum) ≠
          some row.contentChecksum then
        .error (valueError "persisted run manifest conflicts with proposed immutable lineage")
      else .ok { store with manifests := store.manifests.update manifest.runId (withManifest row) }

/-! ## Retrieval -/

structure ArtifactValidationResult where
  artifactId : Nat
  availabilityState : ArtifactAvailability
  valid : Bool
  reason : String
  deriving DecidableEq, Repr

/-- `relative.is_absolute() or ".." in relative.parts`. -/
def unsafeLocation (location : String) : Bool :=
  location.toList.head? = some '/' || (location.toList.splitOn '/').contains ['.', '.']

def validateArtifact (store : ArtifactStore Content) (artifact : ArtifactContract) :
    ArtifactValidationResult :=
  let result := ArtifactValidationResult.mk artifact.artifactId
  if unsafeLocation artifact.location then result .corrupt false "unsafe_artifact_location"
  else match store.files artifact.location with
    | .escapes => result .corrupt false "artifact_location_escapes_root"
    | .missing => result .missing false "artifact_missing"
    | .notRegular => result .corrupt false "artifact_not_regular_file"
    | .regular content =>
        if runtime.size content ≠ artifact.sizeBytes then
          result .corrupt false "artifact_size_mismatch"
        else if runtime.checksum content ≠ artifact.checksum then
          result .corrupt false "artifact_checksum_mismatch"
        else result .available true "validated"

def immutableArtifact : PyValue F → Except LaunchError (PyValue F)
  | .dict entries => .ok (.dict (PyValue.dropEntry "availability_state" entries))
  | _ => .error (valueError "stored run manifest artifact is not a JSON object")

def manifestArtifacts (document : Entries F) :
    Except LaunchError (List (PyValue F)) :=
  match (document.lookup "artifacts").bind PyValue.items? with
  | none => .error (valueError "stored run manifest artifacts are not a JSON array")
  | some artifacts => artifacts.mapM immutableArtifact

/-- `_persisted_manifest_checksum`, of the document that is read back. -/
def persistedManifestChecksum (document : Entries F) :
    Except LaunchError String := do
  let artifacts ← manifestArtifacts document
  digestOf runtime (.dict (PyValue.setEntry "artifacts" (.list artifacts)
    (PyValue.dropEntry "created_at" document)))

/-- `_json_document`, of a text that must hold an object. -/
def manifestDocument (manifestJson : String) : Except LaunchError (Entries F) :=
  match runtime.jsonLoads manifestJson with
  | none => .error (valueError "stored canonical JSON is invalid")
  | some (.dict document) => .ok document
  | some _ => .error (valueError "stored run manifest is not a JSON object")

structure RunArtifactRetrieval where
  manifest : ManifestRow
  artifacts : List ArtifactContractRecord
  validations : List ArtifactValidationResult
  deriving DecidableEq, Repr

def retrieveRunArtifacts (store : ArtifactStore Content) (runId : String) :
    Except LaunchError RunArtifactRetrieval := do
  match findRun store runId with
  | none => .error ⟨.keyError, s!"unknown run {runId}"⟩
  | some _ => match store.manifests.get runId with
      | none => .error ⟨.runtimeError, s!"run {runId} has no persisted manifest"⟩
      | some row =>
          let document ← manifestDocument runtime row.manifestJson
          if (document.lookup "run_id").bind PyValue.text? ≠ some runId then
            .error (valueError
              s!"stored run manifest identity does not match requested run {runId}")
          else
            let computed ← persistedManifestChecksum runtime document
            if computed ≠ row.contentChecksum then
              .error (valueError s!"stored run manifest checksum mismatch for run {runId}")
            else
              let artifacts := listRunArtifacts store runId
              let listed ← (manifestArtifacts document) >>= fun listed =>
                canonicalText runtime (.list listed)
              let found ← canonicalText runtime (.list ((artifacts.filter fun artifact =>
                !artifact.exempt).map fun artifact =>
                  artifactContractDocument artifact.toArtifactContract))
              if listed ≠ found then
                .error (valueError
                  s!"stored run manifest artifacts do not match database records for run {runId}")
              else .ok ⟨row, artifacts, artifacts.map fun artifact =>
                validateArtifact runtime store artifact.toArtifactContract⟩

end Service

end QuantFactory.Persistence
