import QuantFactory.Launch.Repositories

/-!
# Launch identity

The checks of `orchestration/research_launch_claims.py` that decide what one
durable claim means: the texts a caller passes, the request document built from
a saved configuration, and `_validate_persisted_claim`, which re-derives that
document from the database.
-/

set_option autoImplicit false

namespace QuantFactory.Launch

open QuantFactory.Library QuantFactory.Python QuantFactory.Persistence

/-! ## Texts -/

def isKeyChar (c : Char) : Bool := c.isAlphanum || c == '_' || c == '-'
def isRunIdChar (c : Char) : Bool := c.isAlphanum || c == '_' || c == '.' || c == ':' || c == '-'

def validateLaunchKey (value : String) : Except LaunchError String :=
  if 16 ≤ value.length && value.length ≤ 128 && value.toList.all isKeyChar then .ok value
  else .error ⟨.launchKeyError,
    "research launch key must contain 16-128 letters, digits, '_' or '-'"⟩

def validateRunId (value : String) : Except LaunchError String :=
  if 1 ≤ value.length && value.length ≤ 160 && value.toList.all isRunIdChar then .ok value
  else .error (valueError "research run ID has an invalid format")

def isHexDigit (c : Char) : Bool := c.isDigit || ('a' ≤ c && c ≤ 'f') || ('A' ≤ c && c ≤ 'F')

def isUuidText : List Char → Nat → Bool
  | [], position => position == 36
  | c :: rest, position =>
      (if position == 8 || position == 13 || position == 18 || position == 23 then c == '-'
        else isHexDigit c) && isUuidText rest (position + 1)

def isBrace (c : Char) : Bool := c == '{' || c == '}'

/-- `text.replace(old, "")`, with the characters of a match still to be dropped. -/
def removeText (old : List Char) : Nat → List Char → List Char
  | _, [] => []
  | dropped + 1, _ :: rest => removeText old dropped rest
  | 0, c :: rest =>
      if old.isPrefixOf (c :: rest) then removeText old (old.length - 1) rest
      else c :: removeText old 0 rest

/-- The 32 digits `uuid.UUID` reads once it has dropped prefixes, braces and hyphens. -/
def uuidDigits (value : String) : List Char :=
  let bare := removeText "uuid:".toList 0 (removeText "urn:".toList 0 value.toList)
  (((bare.dropWhile isBrace).reverse.dropWhile isBrace).reverse).filter fun c => c != '-'

/-- `str(UUID(value)) == value.lower()`: canonical text, in either case. -/
def validateDispatcherId (value : String) : Except LaunchError String :=
  if !((uuidDigits value).length == 32 && (uuidDigits value).all isHexDigit) then
    .error (valueError "dispatcher instance ID must be a UUID")
  else if isUuidText value.toList 0 then .ok value
  else .error (valueError "dispatcher instance ID must use canonical UUID text")

def boundedText (value label : String) (maximum : Nat) : Except LaunchError String :=
  let normalized := strip value
  if normalized.isEmpty || normalized.length > maximum ||
      normalized.toList.any (fun c => c.toNat < 32) then
    .error (valueError s!"{label} must be non-empty printable text up to {maximum} characters")
  else .ok normalized

def optionalBoundedText (value : Option String) (label : String) (maximum : Nat) :
    Except LaunchError (Option String) :=
  match value with
  | none => .ok none
  | some text => (boundedText text label maximum).map some

/-! ## Contracts and requests -/

inductive ProtocolVersion where
  | number (value : Int)
  | name (value : String)
  deriving DecidableEq, Repr

structure ResearchLaunchContract where
  protocolVersion : ProtocolVersion
  acceptedLaunchPolicy : String
  stage : RunStage
  requiredStrategyLifecycle : StrategyLifecycle
  stageField : String
  createdEventMessage : String
  startedEventMessage : String
  deriving DecidableEq, Repr

def fixtureLaunchContract : ResearchLaunchContract where
  protocolVersion := .number 1
  acceptedLaunchPolicy := "milestone23_infrastructure_fixture_only"
  stage := .fixture
  requiredStrategyLifecycle := .infrastructureFixture
  stageField := "fixture_stage"
  createdEventMessage := "Run created for durable research fixture submission."
  startedEventMessage := "Run started through acknowledged Prefect fixture execution."

def candidateScreeningLaunchContract : ResearchLaunchContract where
  protocolVersion := .name "candidate_screening_v1"
  acceptedLaunchPolicy := "owner_approved_candidate_screening_only"
  stage := .screening
  requiredStrategyLifecycle := .candidate
  stageField := "candidate_stage"
  createdEventMessage := "Run created for explicit candidate screening submission."
  startedEventMessage := "Run started through acknowledged Prefect candidate screening execution."

def supportedLaunchContracts : List ResearchLaunchContract :=
  [fixtureLaunchContract, candidateScreeningLaunchContract]

abbrev Lineage := List (String × String)

def allowedLineageKeys : List String :=
  ["parent_run_id", "reproduction_of_run_id", "source_manifest_checksum",
    "source_runtime_identity", "source_dataset_identity",
    "source_execution_assumptions_identity"]

structure ResearchLaunchRequest where
  operation : String
  configurationId : String
  sourceRunId : Option String
  sourceLineage : Lineage
  deriving DecidableEq, Repr

structure NormalizedRequest where
  operation : ResearchLaunchOperation
  configurationId : String
  sourceRunId : Option String
  sourceLineage : Lineage
  deriving DecidableEq, Repr

def normalizeLineage : Lineage → Except LaunchError Lineage
  | [] => .ok []
  | (key, value) :: rest => do
      let name ← boundedText key "source lineage key" 64
      let text ← boundedText value s!"source lineage {key}" 256
      let others ← normalizeLineage rest
      .ok ((name, text) :: others)

def normalizeRequest (request : ResearchLaunchRequest) : Except LaunchError NormalizedRequest := do
  let operation ← orRaise (ResearchLaunchOperation.ofValue request.operation)
    (valueError "unsupported research launch operation")
  let configurationId ← boundedText request.configurationId "configuration ID" 200
  let sourceRunId ← optionalBoundedText request.sourceRunId "source run ID" 160
  raiseIf (request.sourceLineage.any fun entry => !allowedLineageKeys.contains entry.1)
    (valueError "source lineage contains unsupported identity fields")
  let lineage ← normalizeLineage request.sourceLineage
  raiseIf (operation = .runTest && (sourceRunId.isSome || !lineage.isEmpty))
    (valueError "run_test cannot carry source-run lineage")
  raiseIf (operation ≠ .runTest && sourceRunId.isNone)
    (valueError s!"{operation.value} requires an immutable source run")
  .ok { operation, configurationId, sourceRunId, sourceLineage := lineage }

/-! ## Documents -/

section Documents
variable {F : Type} [PyFloat F]

/-- `value == text` for a text on the right. -/
def isText (value : Option (PyValue F)) (text : String) : Bool :=
  match value with
  | some (.str other) => other = text
  | _ => false

/-- `document.get(field) == text` where the text may be `None`. -/
def isOptionalText (value : Option (PyValue F)) : Option String → Bool
  | some text => isText value text
  | none => match value with
      | none => true
      | some other => other.isNone

def ProtocolVersion.matches (version : ProtocolVersion) (value : Option (PyValue F)) : Bool :=
  match version, value with
  | .number n, some (.int m) => m = n
  | .number n, some (.bool b) => (if b then 1 else 0) = n
  | .number n, some (.float x) => match PyFloat.ofInt (F := F) n with
      | some y => PyFloat.eq x y
      | none => false
  | .name text, some (.str other) => other = text
  | _, _ => false

def ProtocolVersion.toValue : ProtocolVersion → PyValue F
  | .number n => .int n
  | .name text => .str text

/-- `==` of two `dict[str, str]`, whatever the order of their entries. -/
def sameLineage (a b : Lineage) : Bool :=
  a.length = b.length && a.all fun entry => b.lookup entry.1 = some entry.2

def lineageOfEntries : Entries F → Option Lineage
  | [] => some []
  | (key, value) :: rest => do
      let text ← value.text?
      let others ← lineageOfEntries rest
      some ((key, text) :: others)

def lineageOf : Option (PyValue F) → Option Lineage
  | some (.dict entries) => lineageOfEntries entries
  | _ => none

def lineageValue (lineage : Lineage) : PyValue F :=
  .dict (lineage.map fun entry => (entry.1, .str entry.2))

def truthy : PyValue F → Bool
  | .none => false
  | .bool b => b
  | .int n => n ≠ 0
  | .float x => !PyFloat.eq x (PyFloat.literal 0)
  | .str s => !s.isEmpty
  | .list items => !items.isEmpty
  | .dict entries => !entries.isEmpty

variable (runtime : PythonRuntime F)

def canonicalJsonOrValueError (value : PyValue F) : Except LaunchError String :=
  match canonicalJson runtime value with
  | .error message => .error (valueError message)
  | .ok text => .ok text

/-- `json.loads` of a text that has to hold an object. -/
def loadObject (text : String) (invalid notObject : LaunchError) :
    Except LaunchError (Entries F) :=
  match runtime.jsonLoads text with
  | none => .error invalid
  | some (.dict document) => .ok document
  | some _ => .error notObject

def requestFingerprint (canonicalRequestJson : String) : String :=
  runtime.sha256Hex canonicalRequestJson

def immutableArtifacts : List (PyValue F) → Option (List (PyValue F))
  | [] => some []
  | .dict entries :: rest => do
      let others ← immutableArtifacts rest
      some (.dict (PyValue.dropEntry "availability_state" entries) :: others)
  | _ :: _ => none

def manifestChecksum (manifestJson : String) :
    Except LaunchError (Entries F × String) :=
  match runtime.jsonLoads manifestJson with
  | none => .error (integrityError "source run manifest is not valid JSON")
  | some (.dict document) =>
      let immutable := PyValue.dropEntry "created_at" document
      match immutable.lookup "artifacts" with
      | some (.list artifacts) =>
          match immutableArtifacts artifacts with
          | none => .error (integrityError "source run manifest contains an invalid artifact")
          | some kept =>
              match canonicalJsonOrValueError runtime
                  (.dict (PyValue.setEntry "artifacts" (.list kept) immutable)) with
              | .error error => .error error
              | .ok text => .ok (document, runtime.sha256Hex text)
      | _ => .error (integrityError "source run manifest artifacts are invalid")
  | some _ => .error (integrityError "source run manifest is not a JSON object")

/-- `lineage[section][field]`; any missing step is a `KeyError` or `TypeError`. -/
def lineageField (lineage : PyValue F) (part field : String) : Option (PyValue F) := do
  let inner ← lineage.get? part
  inner.get? field

def boundedTextValue (value : PyValue F) (label : String) (maximum : Nat) :
    Except LaunchError String :=
  match value with
  | .str text => (boundedText text label maximum).map fun _ => text
  | _ => .error (valueError s!"{label} must be text")

structure DerivedIdentities (F : Type) where
  runtimeIdentity : PyValue F
  datasetIdentity : PyValue F
  executionIdentity : PyValue F

def derivedIdentities (source : ExperimentRunRecord) (lineage : PyValue F) :
    Option (DerivedIdentities F) := do
  let configurationId ← lineageField lineage "configuration" "configuration_id"
  let configHash ← lineageField lineage "configuration" "config_hash"
  if !isText (some configurationId) source.configurationId || !truthy configHash then none
  else
    let runtimeIdentity ← lineageField lineage "runtime" "runtime_identity"
    let datasetIdentity ← lineageField lineage "data" "dataset_identity"
    let executionIdentity ←
      lineageField lineage "execution_assumptions" "execution_assumptions_identity"
    some { runtimeIdentity, datasetIdentity, executionIdentity }

def reproductionLineage (db : Database) (source : ExperimentRunRecord) :
    Except LaunchError Lineage :=
  if source.status ≠ .succeeded then
    .error (integrityError s!"source run {source.runId} is not succeeded and cannot be reproduced")
  else match db.manifests.get source.runId with
  | none => .error (integrityError s!"source run {source.runId} has no persisted manifest")
  | some stored =>
    match manifestChecksum runtime stored.manifestJson with
    | .error error => .error error
    | .ok (manifest, checksum) =>
      if checksum ≠ stored.contentChecksum then
        .error (integrityError s!"source run {source.runId} manifest checksum is invalid")
      else if !isText (manifest.lookup "run_id") source.runId ||
          !isText (manifest.lookup "configuration_id") source.configurationId ||
          !isText (manifest.lookup "strategy_id") source.strategyId ||
          !isText (manifest.lookup "strategy_version") source.strategyVersion then
        .error (integrityError s!"source run {source.runId} manifest identity is mismatched")
      else match manifest.lookup "lineage" with
        | some (.dict entries) =>
          match derivedIdentities source (.dict entries) with
          | none =>
              .error (integrityError s!"source run {source.runId} manifest lineage is incomplete")
          | some identities => do
              let _ ← boundedText source.runId "reproduction_of_run_id" 256
              let _ ← boundedText stored.contentChecksum "source_manifest_checksum" 256
              let runtimeText ←
                boundedTextValue identities.runtimeIdentity "source_runtime_identity" 256
              let datasetText ←
                boundedTextValue identities.datasetIdentity "source_dataset_identity" 256
              let executionText ← boundedTextValue identities.executionIdentity
                "source_execution_assumptions_identity" 256
              .ok [("reproduction_of_run_id", source.runId),
                ("source_manifest_checksum", stored.contentChecksum),
                ("source_runtime_identity", runtimeText),
                ("source_dataset_identity", datasetText),
                ("source_execution_assumptions_identity", executionText)]
        | _ => .error
            (integrityError s!"source run {source.runId} manifest has no complete lineage")

def deriveSourceLineage (db : Database) (operation : ResearchLaunchOperation)
    (sourceRunId : Option String) (sourceStage : RunStage)
    (configurationId strategyId strategyVersion : String) : Except LaunchError Lineage :=
  match operation, sourceRunId with
  | .runTest, _ => .ok []
  | _, none => .error ⟨.attributeError, "source run ID is missing"⟩
  | operation, some sourceRunId =>
    match db.runs.get sourceRunId with
    | none => .error (integrityError s!"source run {sourceRunId} does not exist")
    | some source =>
      if source.stage ≠ sourceStage then
        .error (integrityError s!"source run {sourceRunId} is not a {sourceStage.value} run")
      else if source.configurationId ≠ configurationId ∨ source.strategyId ≠ strategyId ∨
          source.strategyVersion ≠ strategyVersion then
        .error (integrityError
          "source run identity does not match the requested saved configuration")
      else if operation = .historicalRelaunch then .ok [("parent_run_id", source.runId)]
      else reproductionLineage runtime db source

/-! ## The canonical request -/

structure CanonicalRequest where
  serialized : String
  fingerprint : String
  configurationId : String
  strategyId : String
  strategyVersion : String

def requestDocument (contract : ResearchLaunchContract) (request : NormalizedRequest)
    (configuration : ConfigurationRecord) (sourceLineage : Lineage) : PyValue F :=
  .dict [
    ("protocol_version", contract.protocolVersion.toValue),
    ("operation_kind", .str request.operation.value),
    ("configuration_id", .str configuration.configurationId),
    ("configuration_hash", .str configuration.configHash),
    ("strategy_id", .str configuration.strategyId),
    ("strategy_version", .str configuration.strategyVersion),
    (contract.stageField, .str contract.stage.value),
    ("accepted_launch_policy", .str contract.acceptedLaunchPolicy),
    ("source_run_id", request.sourceRunId.elim .none .str),
    ("source_lineage", lineageValue sourceLineage)]

def notLaunchable (contract : ResearchLaunchContract) (configurationId : String) : LaunchError :=
  ⟨.launchError,
    if contract = fixtureLaunchContract then
      s!"saved configuration {configurationId} is not an approved infrastructure fixture"
    else
      s!"saved configuration {configurationId} is not approved for {contract.stage.value} launch"⟩

def canonicalRequestForConfiguration (contract : ResearchLaunchContract) (db : Database)
    (request : ResearchLaunchRequest) : Except LaunchError CanonicalRequest := do
  let normalized ← normalizeRequest request
  let id := normalized.configurationId
  let configuration ← orRaise (db.configurations.get id)
    ⟨.keyError, s!"unknown Quant Factory configuration: {id}"⟩
  raiseIf (configuration.configHash ≠ runtime.sha256Hex configuration.canonicalConfigJson)
    (integrityError s!"saved configuration {id} failed its immutable hash check")
  let document ← loadObject runtime configuration.canonicalConfigJson
    (integrityError s!"saved configuration {id} has invalid canonical JSON")
    (integrityError "saved configuration is not a JSON object")
  raiseIf (!isText (document.lookup "strategy_id") configuration.strategyId ||
      !isText (document.lookup "strategy_version") configuration.strategyVersion)
    (integrityError s!"saved configuration {id} has mismatched strategy identity")
  raiseIf ((document.lookup "parameters").isNone || (document.lookup "execution").isNone)
    (integrityError s!"saved configuration {id} lacks launch inputs")
  let strategy ← orRaise
    (db.strategies.get (configuration.strategyId, configuration.strategyVersion))
    (integrityError s!"saved configuration {id} references an unregistered strategy")
  raiseIf (!strategy.active || strategy.lifecycle ≠ contract.requiredStrategyLifecycle)
    (notLaunchable contract id)
  let sourceLineage ← deriveSourceLineage runtime db normalized.operation normalized.sourceRunId
    contract.stage configuration.configurationId configuration.strategyId
    configuration.strategyVersion
  raiseIf (!normalized.sourceLineage.isEmpty && !sameLineage normalized.sourceLineage sourceLineage)
    (integrityError "provided source lineage does not match persisted source evidence")
  let serialized ← canonicalJsonOrValueError runtime
    (requestDocument contract normalized configuration sourceLineage)
  .ok {
    serialized
    fingerprint := requestFingerprint runtime serialized
    configurationId := configuration.configurationId
    strategyId := configuration.strategyId
    strategyVersion := configuration.strategyVersion }

/-! ## The persisted claim -/

def storedOperation (document : Entries F) : Option ResearchLaunchOperation :=
  ((document.lookup "operation_kind").bind PyValue.text?).bind ResearchLaunchOperation.ofValue

/-- `document.get("source_run_id")`: a text, or nothing; anything else is invalid. -/
def storedSourceRunId (document : Entries F) : Option (Option String) :=
  match document.lookup "source_run_id" with
  | none => some none
  | some .none => some none
  | some (.str text) => some (some text)
  | some _ => none

def validatePersistedClaim (contract : ResearchLaunchContract) (db : Database)
    (submission : ResearchRunSubmissionRecord)
    (requireCreatedRun requireLaunchableConfiguration : Bool) :
    Except LaunchError ExperimentRunRecord := do
  raiseIf (requestFingerprint runtime submission.canonicalRequestJson ≠
      submission.requestFingerprint)
    (integrityError "stored research submission fingerprint is invalid")
  let document ← loadObject runtime submission.canonicalRequestJson
    (integrityError "stored research submission request is invalid JSON")
    (integrityError "stored research submission request is not canonical")
  let canonical ← canonicalJsonOrValueError runtime (.dict document)
  raiseIf (canonical ≠ submission.canonicalRequestJson)
    (integrityError "stored research submission request is not canonical")
  let operation ← orRaise (storedOperation document)
    (integrityError "stored research submission operation is invalid")
  raiseIf (!contract.protocolVersion.matches (document.lookup "protocol_version") ||
      !isText (document.lookup "accepted_launch_policy") contract.acceptedLaunchPolicy ||
      !isText (document.lookup contract.stageField) contract.stage.value ||
      !isText (document.lookup "configuration_id") submission.configurationId)
    (integrityError "stored research submission request contract is invalid")
  let configuration ← orRaise (db.configurations.get submission.configurationId)
    (integrityError "research submission references a missing saved configuration")
  raiseIf (runtime.sha256Hex configuration.canonicalConfigJson ≠ configuration.configHash ||
      !isText (document.lookup "configuration_hash") configuration.configHash ||
      !isText (document.lookup "strategy_id") configuration.strategyId ||
      !isText (document.lookup "strategy_version") configuration.strategyVersion)
    (integrityError "research submission saved-configuration identity is inconsistent")
  let strategy ← orRaise
    (db.strategies.get (configuration.strategyId, configuration.strategyVersion))
    (integrityError "research submission references a missing strategy")
  raiseIf (requireLaunchableConfiguration &&
      (!strategy.active || strategy.lifecycle ≠ contract.requiredStrategyLifecycle))
    (integrityError "research submission configuration is no longer launchable")
  let run ← orRaise (db.runs.get submission.runId)
    (integrityError "research submission references a missing run")
  raiseIf (run.configurationId ≠ submission.configurationId ||
      run.strategyId ≠ configuration.strategyId ||
      run.strategyVersion ≠ configuration.strategyVersion || run.stage ≠ contract.stage)
    (integrityError "research submission run identity is inconsistent")
  raiseIf (requireCreatedRun && run.status ≠ .created)
    (integrityError "research submission run is not in Created state")
  let sourceRunId ← orRaise (storedSourceRunId document)
    (integrityError "stored research submission source-run identity is invalid")
  let sourceLineage ← orRaise (lineageOf (document.lookup "source_lineage"))
    (integrityError "stored research submission source lineage is invalid")
  raiseIf (operation = .runTest && (sourceRunId.isSome || !sourceLineage.isEmpty))
    (integrityError "run_test submission contains prohibited source lineage")
  raiseIf (operation ≠ .runTest && sourceRunId.isNone)
    (integrityError s!"{operation.value} submission has no source run")
  let derivedLineage ← deriveSourceLineage runtime db operation sourceRunId contract.stage
    configuration.configurationId configuration.strategyId configuration.strategyVersion
  raiseIf (!sameLineage sourceLineage derivedLineage)
    (integrityError "stored research submission source lineage is inconsistent")
  .ok run

end Documents

end QuantFactory.Launch
