import Mathlib
import QuantFactory.Persistence.Serialization
import QuantFactory.WalkForward.Evidence

/-!
# Walk-forward evidence documents

The adapter that turns a walk-forward result into an evidence record, the
builder of the persisted document (`walk_forward_artifacts/builder.py`) and the
validator that reads it back (`walk_forward_artifacts/validator.py`).
-/

set_option autoImplicit false

namespace QuantFactory.WalkForward

open QuantFactory.Library QuantFactory.Python QuantFactory.Persistence

/-! ## The live record -/

inductive EvidenceStatus where
  | passed | failed | insufficientEvidence | invalid
  deriving DecidableEq, Repr

def EvidenceStatus.value : EvidenceStatus → String
  | .passed => "passed"
  | .failed => "failed"
  | .insufficientEvidence => "insufficient_evidence"
  | .invalid => "invalid"

structure NormalizedEvidenceRecord where
  stageIdentity : String
  status : EvidenceStatus
  reasons : List String
  protectedDataState : String
  deriving DecidableEq, Repr

def NormalizedEvidenceRecord.eligibleToProgress (record : NormalizedEvidenceRecord) : Bool :=
  record.status = .passed &&
    (record.protectedDataState = "not_applicable" || record.protectedDataState = "spent")

structure Statistic (F : Type) where
  probability : F
  splits : Int
  returnsBasis : Option String

structure IdeaOverfitting (F : Type) where
  deflatedSharpe : Option (Statistic F)
  overfittingPbo : Option (Statistic F)
  trials : Option Int

structure WalkForwardResult (F : Type) where
  folds : List (WalkForwardFoldResult F)
  overfitting : Option (IdeaOverfitting F)

/-- `_reasons`: blank reasons are dropped, the others stripped. -/
def normalizedReasons (values : List String) (fallback : String) : List String :=
  let preserved := (values.map strip).filter fun text => !text.isEmpty
  if preserved.isEmpty then [fallback] else preserved

def walkForwardRecord (status : EvidenceStatus) (reasons : List String) :
    NormalizedEvidenceRecord where
  stageIdentity := "walk_forward"
  status := status
  reasons := normalizedReasons reasons s!"walk_forward returned {status.value}"
  protectedDataState := "not_applicable"

def invalidRecord (reason : String) : NormalizedEvidenceRecord where
  stageIdentity := "walk_forward"
  status := .invalid
  reasons := [reason]
  protectedDataState := "not_applicable"

/-- `fold.failure_reason or "fold failed without a reason"`. -/
def failureText (reason : Option String) : String :=
  match reason with
  | none => "fold failed without a reason"
  | some text => if text.isEmpty then "fold failed without a reason" else text

def noDecision : String :=
  "successful walk-forward folds do not define an overall acceptance decision"

/-- The exceptions `_fail_closed_adapter` turns into an invalid record. -/
def failsClosed (kind : WindowErrorKind) : Bool :=
  kind = .attributeError || kind = .keyError || kind = .typeError || kind = .valueError

section Live
variable {F : Type} (library : TimeLibrary)

def failureReasons (folds : List (WalkForwardFoldResult F)) : List String :=
  (folds.filter fun fold => fold.status = .failed).map fun fold =>
    s!"{fold.foldId}: {failureText fold.failureReason}"

def evidenceOfFolds (folds : List (WalkForwardFoldResult F)) : NormalizedEvidenceRecord :=
  if (failureReasons folds).isEmpty then walkForwardRecord .insufficientEvidence [noDecision]
  else walkForwardRecord .failed (failureReasons folds)

def normalizeWalkForwardEvidence (result : WalkForwardResult F)
    (rules : WalkForwardWindowRules) : Except WindowError NormalizedEvidenceRecord :=
  if result.folds.isEmpty then .ok (invalidRecord "walk-forward result contains no folds")
  else match validateWalkForwardWindows library rules result.folds with
    | .ok () => .ok (evidenceOfFolds result.folds)
    | .error error =>
        if failsClosed error.kind then
          .ok (invalidRecord s!"malformed walk_forward result: {error.message}")
        else .error error

end Live

/-! ## Building the document -/

section Build
variable {F : Type} [PyFloat F]

def optionalText : Option String → PyValue F
  | none => .none
  | some text => .str text

def optionalDict : Option (Entries F) → PyValue F
  | none => .none
  | some entries => .dict entries

def TrainingMode.value : TrainingMode → String
  | .rolling => "rolling"
  | .expanding => "expanding"

def IncompleteWindowPolicy.value : IncompleteWindowPolicy → String
  | .drop => "drop"
  | .included => "include"

def FoldStatus.value : FoldStatus → String
  | .successful => "successful"
  | .failed => "failed"

def optionalSize : Option Nat → PyValue F
  | none => .none
  | some size => .int size

def rulesDocument (rules : WindowRuleSettings) : PyValue F :=
  .dict [
    ("training_window_size", .int rules.trainingWindowSize),
    ("selection_window_size", optionalSize rules.selectionWindowSize),
    ("test_window_size", .int rules.testWindowSize),
    ("step_size", .int rules.stepSize),
    ("training_mode", .str rules.trainingMode.value),
    ("minimum_rows_per_window", .int rules.minimumRowsPerWindow),
    ("incomplete_final_window", .str rules.incompleteFinalWindow.value)]

def partitionDocument (part : DataPartition) : PyValue F :=
  .dict [
    ("name", .str part.name),
    ("start", .str part.startLabel),
    ("end", .str part.endLabel),
    ("row_count", .int part.rowCount)]

def selectionDocument : Option DataPartition → PyValue F
  | none => .none
  | some part => partitionDocument part

def foldDocument (fold : WalkForwardFoldResult F) : PyValue F :=
  .dict [
    ("fold_id", .str fold.foldId),
    ("train", partitionDocument fold.window.train),
    ("selection", selectionDocument fold.window.selection),
    ("test", partitionDocument fold.window.test),
    ("status", .str fold.status.value),
    ("failure_reason", optionalText fold.failureReason),
    ("parameter_lock_id", optionalText fold.parameterLockId),
    ("selected_parameters", optionalDict fold.selectedParameters),
    ("test_metrics", .dict fold.testMetrics)]

/-- `_recorded`: an undefined statistic is recorded as null. -/
def recorded : Option F → PyValue F
  | none => .none
  | some statistic => if PyFloat.isFinite statistic then .float statistic else .none

def optionalInt : Option Int → PyValue F
  | none => .none
  | some value => .int value

def returnsBasis (overfitting : IdeaOverfitting F) : Option String :=
  let nonempty (statistic : Option (Statistic F)) : Option String :=
    (statistic.bind Statistic.returnsBasis).filter fun text => !text.isEmpty
  nonempty overfitting.deflatedSharpe <|> nonempty overfitting.overfittingPbo

def ideaOverfittingDocument (overfitting : Option (IdeaOverfitting F)) : PyValue F :=
  let dsr := overfitting.bind IdeaOverfitting.deflatedSharpe
  let pbo := overfitting.bind IdeaOverfitting.overfittingPbo
  .dict ([
    ("deflated_sharpe_probability", recorded (dsr.map Statistic.probability)),
    ("trial_count", optionalInt (overfitting.bind IdeaOverfitting.trials)),
    ("pbo", recorded (pbo.map Statistic.probability)),
    ("pbo_split_count", optionalInt (pbo.map Statistic.splits))] ++
    match overfitting.bind returnsBasis with
    | none => []
    | some basis => [("returns_basis", .str basis)])

def normalizedDocument (record : NormalizedEvidenceRecord) : PyValue F :=
  .dict [
    ("stage_identity", .str record.stageIdentity),
    ("status", .str record.status.value),
    ("reasons", .list (record.reasons.map .str)),
    ("protected_data_state", .str record.protectedDataState),
    ("eligible_to_progress", .bool record.eligibleToProgress)]

def alignmentDocument (alignment : SessionAlignment) : PyValue F :=
  .dict [("exchange_calendar", .str alignment.exchangeCalendar),
    ("interval", .str alignment.interval)]

def documentAlignment (folds : List (WalkForwardFoldResult F)) : Option SessionAlignment :=
  folds.head?.bind fun fold => fold.window.sessionAlignment

def alignmentEntry (alignment : Option SessionAlignment) : Entries F :=
  match alignment with
  | none => []
  | some alignment => [("session_alignment", alignmentDocument alignment)]

def evidencePayload (result : WalkForwardResult F) (rules : WindowRuleSettings)
    (record : NormalizedEvidenceRecord) : Entries F :=
  [("declared_walk_forward_rules", rulesDocument rules),
    ("folds", .list (result.folds.map foldDocument)),
    ("normalized_evidence", normalizedDocument record)] ++
    alignmentEntry (documentAlignment result.folds) ++
    [("idea_overfitting", ideaOverfittingDocument result.overfitting)]

variable (runtime : PythonRuntime F)

def canonicalText (value : PyValue F) : Except WindowError String :=
  match canonicalJson runtime value with
  | .error message => .error (windowError message)
  | .ok text => .ok text

/-- `_identity`. -/
def evidenceIdentity (entries : Entries F) : Except WindowError String :=
  (canonicalText runtime (.dict entries)).map runtime.sha256Hex

def evidenceDocument (source payload : Entries F) (identity : String) :
    Entries F :=
  [("artifact_schema_version", .int 1),
    ("artifact_kind", .str "generic_walk_forward_evidence"),
    ("artifact", .dict [
      ("logical_name", .str "walk_forward_evidence"),
      ("artifact_type", .str "validation_evidence"),
      ("format", .str "json"),
      ("evidence_identity", .str identity)]),
    ("source", .dict source),
    ("evidence", .dict payload)]

def buildWalkForwardEvidenceDocument (library : TimeLibrary)
    (source : Entries F) (result : WalkForwardResult F)
    (rules : WalkForwardWindowRules) : Except WindowError (PyValue F) := do
  let record ← normalizeWalkForwardEvidence library result rules
  raiseIf (record.status = .invalid)
    (windowError ("walk-forward result does not satisfy declared rules: " ++
      "; ".intercalate record.reasons))
  let payload := evidencePayload result rules.toWindowRuleSettings record
  let identity ← evidenceIdentity runtime payload
  let text ← canonicalText runtime (.dict (evidenceDocument source payload identity))
  orRaise (runtime.jsonLoads text) (windowError "document is not valid JSON")

end Build

/-! ## Validating a document -/

def keyError (key : String) : WindowError := ⟨.keyError, key⟩
def attributeError (message : String) : WindowError := ⟨.attributeError, message⟩

section Validate
variable {F : Type}

def missingFields (required : List String) (entries : Entries F) : List String :=
  required.filter fun key => (entries.lookup key).isNone

/-- `isinstance(value, str) and value.strip()`. -/
def nonBlankText : Option (PyValue F) → Option String
  | some (.str text) => if isBlank text then none else some text
  | _ => none

/-- `isinstance(value, int) and not isinstance(value, bool) and value >= 1`. -/
def positiveInt : Option (PyValue F) → Option Nat
  | some (.int value) => if value < 1 then none else some value.toNat
  | _ => none

structure PartitionRecord where
  start : String
  «end» : String
  rowCount : Nat

/-- `_partition_bounds` of the persisted validator, on a partition object. -/
def partitionRecord (name : String) (entries : Entries F) :
    Except WindowError PartitionRecord := do
  let missing := missingFields ["name", "start", "end", "row_count"] entries
  raiseIf (!missing.isEmpty)
    (windowError s!"{name} partition missing fields: {commaSeparated missing}")
  let _ ← orRaise (nonBlankText (entries.lookup "name"))
    (windowError s!"{name} partition identity is missing")
  let start ← orRaise (nonBlankText (entries.lookup "start"))
    (windowError s!"{name} partition start is missing")
  let stop ← orRaise (nonBlankText (entries.lookup "end"))
    (windowError s!"{name} partition end is missing")
  let rowCount ← orRaise (positiveInt (entries.lookup "row_count"))
    (windowError s!"{name} partition row_count must be a positive integer")
  raiseIf (stop < start) (windowError s!"{name} partition is not chronological")
  .ok ⟨start, stop, rowCount⟩

def documentPartition (name : String) :
    Option (PyValue F) → Except WindowError (Option PartitionRecord)
  | some (.dict entries) => (partitionRecord name entries).map some
  | some .none => .ok none
  | some _ => .error (windowError s!"{name} partition is not an object")
  | none => .error (keyError name)

/-- `assert … is not None`. -/
def presentPartition (name : String) (value : Option (PyValue F)) :
    Except WindowError PartitionRecord := do
  let found ← documentPartition name value
  orRaise found ⟨.assertionError, ""⟩

structure DocumentState where
  previousTestEnd : Option String
  previousTrainStart : Option String
  expectedTrainSize : Nat
  failedReasons : List String

def checkDocumentTrain (rules : WindowRuleSettings) (foldId : String) (state : DocumentState)
    (train : PartitionRecord) (grid : Option SessionGrid) : Except WindowError Unit :=
  match rules.trainingMode with
  | .rolling =>
      raiseIf (!sizeWithin train.rowCount rules.trainingWindowSize grid false)
        (windowError s!"{foldId}: rolling train window has {train.rowCount} rows; expected {rules.trainingWindowSize}")
  | .expanding => do
      raiseIf (!sizeWithin train.rowCount state.expectedTrainSize grid true)
        (windowError s!"{foldId}: expanding train window has {train.rowCount} rows; expected {state.expectedTrainSize}")
      raiseIf (state.previousTrainStart.any (· ≠ train.start))
        (windowError s!"{foldId}: expanding train window start changed")

def checkDocumentSelection (library : TimeLibrary) (rules : WindowRuleSettings) (foldId : String)
    (train test : PartitionRecord) (selection : Option (PyValue F)) (grid : Option SessionGrid) :
    Except WindowError Unit :=
  match rules.selectionWindowSize with
  | none => do
      raiseIf (!selection.any PyValue.isNone)
        (windowError s!"{foldId}: selection window is not declared")
      raiseIf (!decide (train.end < test.start)) (windowError s!"{foldId}: test overlaps train period")
      requireSessionBoundary library foldId (.label train.end) (.label test.start) grid
  | some declared => do
      let found ← documentPartition s!"{foldId}:selection" selection
      let part ← orRaise found (windowError s!"{foldId}:selection partition is missing")
      raiseIf (!sizeWithin part.rowCount declared grid false)
        (windowError s!"{foldId}: selection window has {part.rowCount} rows; expected {declared}")
      raiseIf (!decide (train.end < part.start))
        (windowError s!"{foldId}: selection overlaps train period")
      raiseIf (!decide (part.end < test.start))
        (windowError s!"{foldId}: test overlaps selection period")
      requireSessionBoundary library foldId (.label train.end) (.label part.start) grid
      requireSessionBoundary library foldId (.label part.end) (.label test.start) grid

def checkDocumentPrior (library : TimeLibrary) (foldId : String) (previousTestEnd : Option String)
    (testStart : String) (grid : Option SessionGrid) : Except WindowError Unit :=
  match previousTestEnd with
  | none => .ok ()
  | some previous => do
      raiseIf (!decide (previous < testStart))
        (windowError s!"{foldId}: test window overlaps a prior test window")
      requireSessionBoundary library foldId (.label previous) (.label testStart) grid

def foldFields : List String :=
  ["fold_id", "train", "selection", "test", "status", "failure_reason", "parameter_lock_id",
    "selected_parameters", "test_metrics"]

def documentStatus : Option (PyValue F) → Option FoldStatus
  | some (.str "successful") => some .successful
  | some (.str "failed") => some .failed
  | _ => none

/-- `f"{fold_id}: {reason}"` for `fold["failure_reason"] or …`, on a failed fold. -/
def documentFailure (status : FoldStatus) (foldId : String) :
    Option (PyValue F) → Except WindowError (List String)
  | some (.str text) =>
      .ok (if status = .failed then [s!"{foldId}: {failureText (some text)}"] else [])
  | some .none => .ok (if status = .failed then [s!"{foldId}: {failureText none}"] else [])
  | _ => if status = .failed then .error ⟨.typeError, "failure reason is not a text"⟩ else .ok []

def documentLockMissing (status : FoldStatus) (entries : Entries F) : Bool :=
  status = .successful && !(entries.lookup "selected_parameters").any PyValue.isNone &&
    (nonBlankText (entries.lookup "parameter_lock_id")).isNone

def validateDocumentFold (library : TimeLibrary) (rules : WindowRuleSettings)
    (grid : Option SessionGrid) (state : DocumentState) (entries : Entries F) :
    Except WindowError DocumentState := do
  let missing := missingFields foldFields entries
  raiseIf (!missing.isEmpty)
    (windowError s!"walk-forward fold missing fields: {commaSeparated missing}")
  let foldId ← orRaise (nonBlankText (entries.lookup "fold_id"))
    (windowError "walk-forward fold identity is missing")
  let status ← orRaise (documentStatus (entries.lookup "status"))
    (windowError "walk-forward fold status is unsupported")
  let train ← presentPartition s!"{foldId}:train" (entries.lookup "train")
  let test ← presentPartition s!"{foldId}:test" (entries.lookup "test")
  checkDocumentTrain rules foldId state train grid
  checkDocumentSelection library rules foldId train test (entries.lookup "selection") grid
  -- no exception here for the short final test the live validator allows
  raiseIf (!sizeWithin test.rowCount rules.testWindowSize grid false)
    (windowError s!"{foldId}: test window has {test.rowCount} rows; expected {rules.testWindowSize}")
  checkDocumentPrior library foldId state.previousTestEnd test.start grid
  raiseIf (documentLockMissing status entries)
    (windowError s!"{foldId}: successful fold with selected parameters lacks a parameter lock")
  let reasons ← documentFailure status foldId (entries.lookup "failure_reason")
  .ok {
    previousTestEnd := some test.end
    previousTrainStart := state.previousTrainStart <|> some train.start
    expectedTrainSize := match rules.trainingMode with
      | .rolling => state.expectedTrainSize
      | .expanding => state.expectedTrainSize + rules.stepSize
    failedReasons := state.failedReasons ++ reasons }

def validateDocumentFolds (library : TimeLibrary) (rules : WindowRuleSettings)
    (grid : Option SessionGrid) :
    DocumentState → List (PyValue F) → Except WindowError DocumentState
  | state, [] => .ok state
  | state, .dict entries :: rest => do
      let next ← validateDocumentFold library rules grid state entries
      validateDocumentFolds library rules grid next rest
  | _, _ :: _ => .error (windowError "walk-forward fold is not an object")

/-- The texts among the start and end labels of the train and test partitions. -/
def foldLabels (fold : PyValue F) : List String :=
  [fold.get? "train", fold.get? "test"].flatMap fun part =>
    ["start", "end"].filterMap fun key => (part.bind (PyValue.get? key)).bind PyValue.text?

def smallerText (a b : String) : String := if b < a then b else a
def largerText (a b : String) : String := if a < b then b else a

def minText : List String → Option String
  | [] => none
  | text :: rest => some (rest.foldl smallerText text)

def maxText : List String → Option String
  | [] => none
  | text :: rest => some (rest.foldl largerText text)

def malformedAlignment : WindowError :=
  windowError "walk-forward session alignment is malformed"

def alignmentOf : PyValue F → Except WindowError SessionAlignment
  | .dict [(firstKey, first), (secondKey, second)] =>
      match [(firstKey, first), (secondKey, second)].lookup "exchange_calendar",
          [(firstKey, first), (secondKey, second)].lookup "interval" with
      | some (.str calendar), some (.str interval) => .ok ⟨calendar, interval⟩
      | some _, some _ => .error ⟨.typeError, "session alignment is not text"⟩
      | _, _ => .error malformedAlignment
  | _ => .error malformedAlignment

def gridForLabels (library : TimeLibrary) (alignment : Option (PyValue F))
    (labels : List String) : Except WindowError (Option SessionGrid) :=
  match alignment with
  | none => .ok none
  | some .none => .ok none
  | some value => do
      let alignment ← alignmentOf value
      let firstLabel ← orRaise (minText labels) (windowError "min() arg is an empty sequence")
      let lastLabel ← orRaise (maxText labels) (windowError "max() arg is an empty sequence")
      let first ← (Bound.label firstLabel).time library
      let last ← (Bound.label lastLabel).time library
      (sessionGrid library alignment first last).map some

/-- `document.get("evidence", {})`. -/
def evidenceOf (document : PyValue F) : Except WindowError (Entries F) :=
  match document.get? "evidence" with
  | none => .ok []
  | some (.dict entries) => .ok entries
  | some _ => .error (attributeError "evidence has no attribute 'get'")

def initialDocumentState (rules : WindowRuleSettings) : DocumentState where
  previousTestEnd := none
  previousTrainStart := none
  expectedTrainSize := rules.trainingWindowSize
  failedReasons := []

def foldsMissing : WindowError := windowError "walk-forward evidence folds are missing"

/-- `_validate_folds_document`: the status and reasons the folds give. -/
def validateFoldsDocument (library : TimeLibrary) (evidence : Entries F)
    (rules : WindowRuleSettings) : Except WindowError (EvidenceStatus × List String) :=
  match evidence.lookup "folds" with
  | some (.list folds) => do
      raiseIf folds.isEmpty foldsMissing
      let grid ← gridForLabels library (evidence.lookup "session_alignment")
        (folds.flatMap foldLabels)
      let final ← validateDocumentFolds library rules grid (initialDocumentState rules) folds
      .ok (if final.failedReasons.isEmpty then (.insufficientEvidence, [noDecision])
        else (.failed, final.failedReasons))
  | _ => .error foldsMissing

/-! ### Rules, identity and the whole document -/

def ruleInt (name : String) (value : Option (PyValue F)) : Except WindowError Nat :=
  match value with
  | none => .error (keyError name)
  | some value => orRaise (positiveInt (some value))
      (windowError s!"{name} must be a positive integer")

def optionalRuleInt (name : String) (value : Option (PyValue F)) :
    Except WindowError (Option Nat) :=
  match value with
  | some .none => .ok none
  | value => (ruleInt name value).map some

def ruleMode : Option (PyValue F) → Except WindowError TrainingMode
  | some (.str "rolling") => .ok .rolling
  | some (.str "expanding") => .ok .expanding
  | some _ => .error (windowError "unsupported training_mode")
  | none => .error (keyError "training_mode")

def rulePolicy : Option (PyValue F) → Except WindowError IncompleteWindowPolicy
  | some (.str "drop") => .ok .drop
  | some (.str "include") => .ok .included
  | some _ => .error (windowError "incomplete_final_window must be 'drop' or 'include'")
  | none => .error (keyError "incomplete_final_window")

def rulesOfEntries (entries : Entries F) :
    Except WindowError WindowRuleSettings := do
  let trainingWindowSize ← ruleInt "training_window_size" (entries.lookup "training_window_size")
  let testWindowSize ← ruleInt "test_window_size" (entries.lookup "test_window_size")
  let stepSize ← ruleInt "step_size" (entries.lookup "step_size")
  let minimumRowsPerWindow ←
    ruleInt "minimum_rows_per_window" (entries.lookup "minimum_rows_per_window")
  let selectionWindowSize ←
    optionalRuleInt "selection_window_size" (entries.lookup "selection_window_size")
  let trainingMode ← ruleMode (entries.lookup "training_mode")
  let incompleteFinalWindow ← rulePolicy (entries.lookup "incomplete_final_window")
  let rules : WindowRuleSettings := ⟨trainingWindowSize, selectionWindowSize, testWindowSize,
    stepSize, trainingMode, minimumRowsPerWindow, incompleteFinalWindow⟩
  rulesPostInit rules
  .ok rules

def rulesFromDocument (evidence : Entries F) :
    Except WindowError WindowRuleSettings :=
  match evidence.lookup "declared_walk_forward_rules" with
  | some (.dict entries) => rulesOfEntries entries
  | _ => .error (windowError "declared walk-forward rules are missing")

/-- The message texts that are reported as rules inconsistent with the folds. -/
def inconsistencyTexts : List String :=
  ["expected", "overlaps", "training mode", "selection window is not declared",
    "expanding train window start changed", "splits an exchange session"]

def reportInconsistency (error : WindowError) : WindowError :=
  if error.kind = .valueError &&
      inconsistencyTexts.any (fun text => decide (text.toList <:+: error.message.toList)) then
    windowError "declared walk-forward rules are inconsistent with persisted folds"
  else error

def foldsOutcome (library : TimeLibrary) (evidence : Entries F)
    (rules : WindowRuleSettings) : Except WindowError (EvidenceStatus × List String) :=
  match validateFoldsDocument library evidence rules with
  | .ok outcome => .ok outcome
  | .error error => .error (reportInconsistency error)

def storedMatches (stored : Entries F) (status : EvidenceStatus)
    (reasons : List String) : Bool :=
  (stored.lookup "status").bind PyValue.text? = some status.value &&
    match stored.lookup "reasons" with
    | some (.list items) => items.map PyValue.text? = reasons.map some
    | _ => false

/-- `document["evidence"][key]`, where it is one of the identified parts. -/
def identifiedEntries (evidence : Entries F) : Entries F :=
  ["declared_walk_forward_rules", "folds", "normalized_evidence", "session_alignment",
    "idea_overfitting"].filterMap fun key => (evidence.lookup key).map fun value => (key, value)

structure ArtifactContract where
  logicalName : String
  artifactType : String

def walkForwardArtifact : ArtifactContract := ⟨"walk_forward_evidence", "validation_evidence"⟩

def textIs (value : Option (PyValue F)) (text : String) : Bool :=
  value.bind PyValue.text? = some text

def entriesOf (value : Option (PyValue F)) (error : WindowError) :
    Except WindowError (Entries F) :=
  match value with
  | some (.dict entries) => .ok entries
  | _ => .error error

variable [PyFloat F] (runtime : PythonRuntime F)

def validateWalkForwardEvidenceDocument (library : TimeLibrary) (document : PyValue F)
    (runId : String) (artifact : ArtifactContract) : Except WindowError Unit := do
  raiseIf ((document.get? "artifact_schema_version").bind PyValue.int? ≠ some 1)
    (windowError "unsupported walk-forward evidence schema version")
  raiseIf (!textIs (document.get? "artifact_kind") "generic_walk_forward_evidence")
    (windowError "unsupported walk-forward evidence artifact kind")
  let artifactEntries ← entriesOf (document.get? "artifact")
    (windowError "walk-forward evidence artifact identity is missing")
  raiseIf (!textIs (artifactEntries.lookup "logical_name") artifact.logicalName)
    (windowError "walk-forward evidence logical name mismatch")
  raiseIf (!textIs (artifactEntries.lookup "artifact_type") artifact.artifactType)
    (windowError "walk-forward evidence artifact type mismatch")
  let sourceEntries ← entriesOf (document.get? "source")
    (windowError "walk-forward evidence source run mismatch")
  raiseIf (!textIs (sourceEntries.lookup "run_id") runId)
    (windowError "walk-forward evidence source run mismatch")
  let evidence ← evidenceOf document
  let rules ← rulesFromDocument evidence
  let outcome ← foldsOutcome library evidence rules
  let stored ← entriesOf (evidence.lookup "normalized_evidence")
    (windowError "walk-forward normalized evidence is missing")
  raiseIf (!storedMatches stored outcome.1 outcome.2)
    (windowError "walk-forward normalized evidence does not match folds")
  let expectedIdentity ← evidenceIdentity runtime (identifiedEntries evidence)
  raiseIf (!textIs (artifactEntries.lookup "evidence_identity") expectedIdentity)
    (windowError "walk-forward evidence identity mismatch")

end Validate

end QuantFactory.WalkForward
