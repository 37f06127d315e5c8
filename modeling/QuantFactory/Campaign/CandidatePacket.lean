import QuantFactory.Launch.Claims
import QuantFactory.RuleLanguage.Validation

/-!
# Candidate packets

`validate_candidate_packet` of `research_intake/qf_candidate.py`, and what the
campaign reads from a packet: `_eligible_packet`, `packet_market` and
`packet_requested_start`.  A packet is whatever JSON document a draft stores, so
every function here can raise, and the class of the exception is kept.
-/

set_option autoImplicit false

namespace QuantFactory.Campaign

open QuantFactory.Library QuantFactory.Python QuantFactory.Persistence QuantFactory.RuleLanguage
open QuantFactory.Launch (truthy)

/-- The exception classes that some handler names; a subclass counts as its base. -/
inductive ExceptionClass where
  | osError | sqliteError | keyError | valueError | runtimeError
  | other
  deriving DecidableEq, Repr

/-- An exception, with the name of its own class and its text. -/
structure Raised where
  base : ExceptionClass
  name : String
  text : String
  deriving DecidableEq, Repr

namespace Raised

/-- `(OSError, sqlite3.Error, KeyError, ValueError, RuntimeError)`. -/
def isListed (raised : Raised) : Bool := raised.base ≠ .other

def value (text : String) : Raised := ⟨.valueError, "ValueError", text⟩

def candidatePacket (text : String) : Raised := ⟨.valueError, "CandidatePacketError", text⟩

/-- What leaves a rule check that is not a `RuleSpecError`. -/
def ofRuleError : RuleError → Raised
  | .ruleSpecError path reason => ⟨.valueError, "RuleSpecError", path ++ ": " ++ reason⟩
  | .overflowError => ⟨.other, "OverflowError", "int too large to convert to float"⟩
  | .keyError key => ⟨.keyError, "KeyError", key⟩
  | .recursionError => ⟨.runtimeError, "RecursionError", "maximum recursion depth exceeded"⟩

end Raised

/-- Why `json.loads` raised: the text is no JSON, an integer of it has too many
digits, or it is nested too deep. -/
inductive LoadFailure where
  | decodeError | tooManyDigits | tooDeep
  deriving DecidableEq, Repr

def LoadFailure.raised : LoadFailure → Raised
  | .decodeError => ⟨.valueError, "JSONDecodeError", "invalid JSON"⟩
  | .tooManyDigits => .value "Exceeds the limit (4300 digits) for integer string conversion"
  | .tooDeep => ⟨.runtimeError, "RecursionError", "maximum recursion depth exceeded"⟩

structure SplitUrl where
  scheme : String
  netloc : String
  username : Option String
  password : Option String

/-- The interpreter and the standard library as the packet code uses them. -/
structure PacketRuntime (F : Type) extends PythonRuntime F, RuleRuntime F where
  /-- What `json.loads` raises where it returns nothing. -/
  loadFailure : String → LoadFailure
  lower : String → String
  /-- `urlsplit`, which raises `ValueError`. -/
  urlSplit : String → Option SplitUrl
  stackFits : PyValue F → Bool
  /-- `date.fromisoformat(text).isoformat()`, which raises `ValueError`. -/
  isoDate : String → Option String

variable {F : Type} [PyFloat F] (runtime : PacketRuntime F)

/-! ## Reading a document -/

def str : PyValue F → String
  | .str text => text
  | value => runtime.repr value

def text : Option (PyValue F) → String
  | none => ""
  | some .none => ""
  | some value => strip (str runtime value)

def mapping : Option (PyValue F) → Entries F
  | some (.dict entries) => entries
  | _ => []

/-- `value or {}`, `value or []` and the like, by its truth. -/
def holds (value : Option (PyValue F)) : Bool := value.any truthy

inductive Severity where
  | error | warning
  deriving DecidableEq, Repr

structure CandidateIssue where
  severity : Severity
  code : String
  path : String
  message : String
  deriving DecidableEq, Repr

def issueError (code path message : String) : CandidateIssue := ⟨.error, code, path, message⟩

def issueWarning (code path message : String) : CandidateIssue := ⟨.warning, code, path, message⟩

def issueIf (condition : Bool) (issue : CandidateIssue) : List CandidateIssue :=
  if condition then [issue] else []

def qfCandidateSchema : String := "qf_candidate_v1"
def maxPacketChars : Nat := 100000
def maxVariableValues : Nat := 64
def maxParameterCombinations : Nat := 10000

def allowedStatuses : List String := ["draft", "needs_clarification", "ready_for_review",
  "owner_approved", "implemented", "rejected", "retired"]

def allowedImportance : List String := ["high", "medium", "low"]

def forbiddenControlKeys : List String := ["auto_launch", "execute_now", "submit_order",
  "place_order", "paper_trade", "live_trade", "capital_allocation", "python_code",
  "vectorbt_code"]

/-! ## The checks, in their order -/

section Checks
variable (doc : Entries F)

def schemaIssues : List CandidateIssue :=
  issueIf ((doc.lookup "schema").bind PyValue.text? ≠ some qfCandidateSchema)
    (issueError "schema" "schema" s!"schema must be '{qfCandidateSchema}'")

def candidateIssues : List CandidateIssue :=
  let candidate := mapping (doc.lookup "candidate")
  let title := text runtime (candidate.lookup "title")
  let given := text runtime (candidate.lookup "status")
  let status := if given.isEmpty then "draft" else given
  (if title.isEmpty then
      [issueError "candidate_title" "candidate.title" "candidate title is required"]
    else issueIf (160 < title.length)
      (issueError "candidate_title_length" "candidate.title" "candidate title is too long")) ++
  issueIf (status ∉ allowedStatuses)
    (issueError "candidate_status" "candidate.status" "candidate status is not recognized")

def hypothesisIssues : List CandidateIssue :=
  let hypothesis := mapping (doc.lookup "hypothesis")
  issueIf (text runtime (hypothesis.lookup "behavior")).isEmpty
    (issueError "hypothesis" "hypothesis.behavior"
      "a falsifiable behavior hypothesis is required") ++
  issueIf (!holds (hypothesis.lookup "failure_theory"))
    (issueWarning "failure_theory_missing" "hypothesis.failure_theory"
      "record why the proposed edge might fail before approval")

def isFalse : Option (PyValue F) → Bool
  | some (.bool false) => true
  | _ => false

def marketIssues : List CandidateIssue :=
  let market := mapping (doc.lookup "market")
  issueIf (runtime.lower (text runtime (market.lookup "holding_style")) ≠ "intraday")
    (issueError "holding_style" "market.holding_style"
      "current Quant Factory mandate requires holding_style: intraday") ++
  issueIf (!isFalse (market.lookup "overnight_positions"))
    (issueError "overnight_positions" "market.overnight_positions"
      "current Quant Factory mandate requires overnight_positions: false")

def rulesIssues : List CandidateIssue :=
  issueIf (mapping (doc.lookup "rules")).isEmpty
    (issueError "rules" "rules" "testable strategy rules are required")

def validPublicUrl (url : String) : Bool :=
  match runtime.urlSplit url with
  | none => false
  | some parsed => decide (parsed.scheme = "http" ∨ parsed.scheme = "https") &&
      !parsed.netloc.isEmpty && parsed.username.isNone && parsed.password.isNone

def sourceIssues (index : Nat) : PyValue F → List CandidateIssue
  | .dict source =>
      let sourceType := runtime.lower (text runtime (source.lookup "type"))
      let url := text runtime (source.lookup "url")
      issueIf sourceType.isEmpty
        (issueError "source_kind" s!"sources[{index}].type" "source type is required") ++
      issueIf (!url.isEmpty && !validPublicUrl runtime url)
        (issueError "source_url" s!"sources[{index}].url"
          "source URL must be http/https without embedded credentials") ++
      issueIf (url.isEmpty && sourceType ≠ "owner_observation")
        (issueWarning "source_reference_missing" s!"sources[{index}]"
          "non-owner sources should retain a URL or equivalent reference")
  | _ => [issueError "source_type" s!"sources[{index}]" "each source must be an object"]

def indexed (check : Nat → PyValue F → List CandidateIssue) (items : List (PyValue F)) :
    List CandidateIssue :=
  (items.mapIdx check).flatten

def sourcesIssues : List CandidateIssue :=
  match doc.lookup "sources" with
  | none => []
  | some .none => []
  | some (.list sources) => indexed (sourceIssues runtime) sources
  | some _ => [issueError "sources_type" "sources" "sources must be a list"]

/-- The values of a variable as texts; a value whose text cannot be written raises. -/
def valueTexts (values : List (PyValue F)) : Except Raised (List String) :=
  collect (fun value => (canonicalJson runtime.toPythonRuntime value).mapError Raised.value) values

/-- An issue with a variable, which then adds nothing to the grid. -/
def refuseVariable (code path message : String) : Except Raised (List CandidateIssue × Nat) :=
  .ok ([issueError code path message], 1)

def variableValues (path : String) (values : List (PyValue F)) :
    Except Raised (List CandidateIssue × Nat) :=
  if values.isEmpty then
    refuseVariable "variable_values" path "variable must define a non-empty bounded values list"
  else if maxVariableValues < values.length then
    refuseVariable "variable_too_wide" path
      s!"variable may contain at most {maxVariableValues} values"
  else if values.any fun value => !value.isScalar then
    refuseVariable "variable_scalar" path "variable values must be scalar JSON values"
  else match valueTexts runtime values with
    | .error raised => .error raised
    | .ok texts =>
        if texts.dedup.length ≠ values.length then
          refuseVariable "variable_duplicate" path "variable values must be unique"
        else .ok ([], values.length)

def variableIssues (entry : String × PyValue F) : Except Raised (List CandidateIssue × Nat) :=
  let path := s!"variables.{entry.1}"
  match entry.2 with
  | .dict specification =>
      match specification.lookup "values" with
      | some (.list values) => variableValues runtime s!"{path}.values" values
      | _ => refuseVariable "variable_values" s!"{path}.values"
          "variable must define a non-empty bounded values list"
  | _ => refuseVariable "variable_spec" path "variable definition must be an object"

/-- The digits of a number, the last first, with a comma after every third. -/
def groupDigits : List Char → List Char
  | a :: b :: c :: d :: rest => a :: b :: c :: ',' :: groupDigits (d :: rest)
  | digits => digits

/-- `f"{number:,}"`. -/
def thousands (number : Nat) : String :=
  String.ofList (groupDigits (toString number).toList.reverse).reverse

def variablesIssues : Except Raised (List CandidateIssue × Nat) := do
  let checked ← collect (variableIssues runtime) (mapping (doc.lookup "variables"))
  let combinations := (checked.map Prod.snd).foldl (· * ·) 1
  .ok ((checked.map Prod.fst).flatten ++ issueIf (maxParameterCombinations < combinations)
    (issueWarning "large_parameter_space" "variables" ("bounded grid expands to " ++
      thousands combinations ++ " combinations; review before execution")),
    combinations)

def candidateRuleSpec : Except RuleError (Option (PyValue F)) :=
  match doc.lookup "rule_spec" with
  | none => .ok none
  | some .none => .ok none
  | some raw => do
      let spec ← validateRuleSpec runtime.toRuleRuntime raw
        (.dict (mapping (doc.lookup "variables")))
      let timeframe := text runtime ((mapping (doc.lookup "market")).lookup "timeframe")
      let bar ← item (mapping (some spec)) "bar"
      let wanted := if timeframe.isEmpty then "missing" else timeframe
      raiseIf (bar.text? ≠ some timeframe) (.ruleSpecError "rule_spec.bar"
        (runtime.repr bar ++ " must equal market.timeframe (" ++ runtime.repr (.str wanted) ++ ")"))
      .ok (some spec)

/-- `_rule_spec_issues`: only a `RuleSpecError` becomes an issue. -/
def ruleSpecIssues : Except Raised (List CandidateIssue) :=
  match candidateRuleSpec runtime doc with
  | .ok _ => .ok []
  | .error (.ruleSpecError path reason) =>
      .ok [issueError "rule_spec" path (Raised.ofRuleError (.ruleSpecError path reason)).text]
  | .error raised => .error (.ofRuleError raised)

def variantIssues : Nat → List String → List (PyValue F) → List CandidateIssue
  | _, _, [] => []
  | index, seen, .dict variant :: rest =>
      let id := text runtime (variant.lookup "id")
      (if id.isEmpty then [issueError "variant_id" s!"variants[{index}].id"
          "structural variant id is required"]
        else issueIf (id ∈ seen) (issueError "variant_duplicate" s!"variants[{index}].id"
          "structural variant ids must be unique")) ++
      issueIf (text runtime (variant.lookup "difference")).isEmpty
        (issueWarning "variant_difference" s!"variants[{index}].difference"
          "state how this structural variant differs from the base hypothesis") ++
      variantIssues (index + 1) (if id.isEmpty then seen else id :: seen) rest
  | index, seen, _ :: rest =>
      issueError "variant_type" s!"variants[{index}]" "each structural variant must be an object" ::
        variantIssues (index + 1) seen rest

def variantsIssues : List CandidateIssue :=
  if !holds (doc.lookup "variants") then []
  else match doc.lookup "variants" with
    | some (.list variants) => variantIssues runtime 0 [] variants
    | _ => [issueError "variants_type" "variants" "variants must be a list"]

def questionIssues (index : Nat) : PyValue F → List CandidateIssue
  | .dict question =>
      let given := runtime.lower (text runtime (question.lookup "importance"))
      let importance := if given.isEmpty then "medium" else given
      issueIf (text runtime (question.lookup "question")).isEmpty
        (issueError "question_text" s!"open_questions[{index}].question"
          "question text is required") ++
      issueIf (importance ∉ allowedImportance)
        (issueError "question_importance" s!"open_questions[{index}].importance"
          "importance must be high, medium, or low")
  | _ => [issueError "question_type" s!"open_questions[{index}]" "each question must be an object"]

def questionsIssues : List CandidateIssue :=
  if !holds (doc.lookup "open_questions") then []
  else match doc.lookup "open_questions" with
    | some (.list questions) => indexed (questionIssues runtime) questions
    | _ => [issueError "questions_type" "open_questions" "open_questions must be a list"]

def executionIssues : List CandidateIssue :=
  match doc.lookup "execution" with
  | none => []
  | some .none => []
  | some (.dict execution) =>
      match execution.lookup "use_qf_defaults" with
      | none => []
      | some (.bool _) => []
      | some _ => [issueError "execution_defaults" "execution.use_qf_defaults"
          "use_qf_defaults must be true or false"]
  | some _ => [issueError "execution_type" "execution" "execution must be an object"]

end Checks

mutual

/-- `_walk_items`: every entry of every object inside a value, with its path. -/
def walkItems (path : String) : PyValue F → List (String × String × PyValue F)
  | .dict entries => walkEntries path entries
  | .list items => walkList path 0 items
  | _ => []

def walkEntries (path : String) :
    List (String × PyValue F) → List (String × String × PyValue F)
  | [] => []
  | (key, value) :: rest => (s!"{path}.{key}", key, value) ::
      (walkItems s!"{path}.{key}" value ++ walkEntries path rest)

def walkList (path : String) (index : Nat) :
    List (PyValue F) → List (String × String × PyValue F)
  | [] => []
  | value :: rest => walkItems s!"{path}[{index}]" value ++ walkList path (index + 1) rest

end

/-- The values `value in (None, False, "", [], {})` holds of are the false ones. -/
def controlIssues (found : String × String × PyValue F) : List CandidateIssue :=
  issueIf (decide (found.2.1 ∈ forbiddenControlKeys) && truthy found.2.2)
    (issueError "forbidden_control" found.1 (found.2.1 ++
      " is not allowed in a QF Candidate packet; intake cannot execute or authorize trading")) ++
  issueIf (match found.2.2 with
      | .float number => !PyFloat.isFinite number
      | _ => false)
    (issueError "non_finite" found.1 "candidate packet cannot contain NaN or infinite values")

structure CandidateValidation (F : Type) where
  document : Entries F
  canonicalJson : String
  issues : List CandidateIssue
  parameterCombinations : Nat

def CandidateValidation.errors (validation : CandidateValidation F) : List CandidateIssue :=
  validation.issues.filter fun issue => issue.severity = .error

/-- `_plain`, which returns the JSON document it is given, or raises on a float that is not
finite. -/
def plain (doc : Entries F) : Except Raised Unit := do
  raiseIf (!runtime.stackFits (.dict doc)) LoadFailure.tooDeep.raised
  raiseIf (!allFinite (.dict doc))
    (.candidatePacket "candidate packet cannot contain NaN or infinite values")

def validateCandidatePacket (doc : Entries F) :
    Except Raised (CandidateValidation F) := do
  plain runtime doc
  let grid ← variablesIssues runtime doc
  let ruleSpec ← ruleSpecIssues runtime doc
  let canonical ← (canonicalJson runtime.toPythonRuntime (.dict doc)).mapError Raised.value
  .ok {
    document := doc
    canonicalJson := canonical
    issues := schemaIssues doc ++ candidateIssues runtime doc ++ hypothesisIssues runtime doc ++
      marketIssues runtime doc ++ rulesIssues doc ++ sourcesIssues runtime doc ++ grid.1 ++
      ruleSpec ++ variantsIssues runtime doc ++ questionsIssues runtime doc ++
      executionIssues doc ++ ((walkItems "$" (.dict doc)).map controlIssues).flatten ++
      issueIf (maxPacketChars < canonical.length) (issueError "packet_size" "$"
        ("canonical candidate packet exceeds " ++ thousands maxPacketChars ++ " characters"))
    parameterCombinations :=
      if (mapping (doc.lookup "variables")).isEmpty then 0 else grid.2 }

/-! ## What the campaign reads -/

/-- A packet that passed intake, or failed it only on its `rule_spec`. -/
abbrev EligiblePacket (F : Type) := Entries F × Option String

/-- `_eligible_packet`: only a `JSONDecodeError` is handled. -/
def eligiblePacket (candidateJson : String) : Except Raised (Option (EligiblePacket F)) :=
  match runtime.jsonLoads candidateJson with
  | none => if runtime.loadFailure candidateJson = .decodeError then .ok none
      else .error (runtime.loadFailure candidateJson).raised
  | some (.dict doc) => do
      let validation ← validateCandidatePacket runtime doc
      if validation.errors.isEmpty then .ok (some (validation.document, none))
      else if validation.errors.all fun issue => issue.code = "rule_spec" then
        .ok (some (validation.document,
          some ("; ".intercalate (validation.errors.map CandidateIssue.message))))
      else .ok none
  | some _ => .ok none

/-- A packet whose checks find no error is eligible, when its text is short enough in bytes. -/
theorem eligiblePacket_of_checks {runtime : PacketRuntime F}
    {text canonical : String} {doc : Entries F} {combinations : Nat}
    (loaded : runtime.jsonLoads text = some (.dict doc)) (isPlain : plain runtime doc = .ok ())
    (expanded : variablesIssues runtime doc = .ok ([], combinations))
    (checked : ruleSpecIssues runtime doc = .ok [])
    (written : canonicalJson runtime.toPythonRuntime (.dict doc) = .ok canonical)
    (short : canonical.utf8ByteSize ≤ maxPacketChars)
    (clean : (schemaIssues doc ++ candidateIssues runtime doc ++ hypothesisIssues runtime doc ++
      marketIssues runtime doc ++ rulesIssues doc ++ sourcesIssues runtime doc ++
      variantsIssues runtime doc ++ questionsIssues runtime doc ++ executionIssues doc ++
      ((walkItems "$" (.dict doc)).map controlIssues).flatten).filter
        (fun issue => issue.severity = .error) = []) :
    eligiblePacket runtime text = .ok (some (doc, none)) := by
  have small : ¬ maxPacketChars < canonical.length :=
    Nat.not_lt.mpr (Nat.le_trans (length_le_utf8ByteSize canonical) short)
  unfold eligiblePacket validateCandidatePacket
  rw [loaded]
  simp only [isPlain, expanded, checked, written, bind_ok, Except.mapError]
  simp only [List.filter_append, List.append_eq_nil_iff] at clean
  simp [CandidateValidation.errors, issueIf, small, clean]

/-- `preferred[0]` of a true value: an object has no key `0`, and a number or `True` has no
items. -/
def firstItem : PyValue F → Except Raised (PyValue F)
  | .list (value :: _) => .ok value
  | .list [] => .error ⟨.other, "IndexError", "list index out of range"⟩
  | .str text => match text.toList with
      | first :: _ => .ok (.str (String.singleton first))
      | [] => .error ⟨.other, "IndexError", "string index out of range"⟩
  | .dict _ => .error ⟨.keyError, "KeyError", "0"⟩
  | _ => .error ⟨.other, "TypeError", "the object is not subscriptable"⟩

/-- `str(value or "")`. -/
def strOrEmpty (value : Option (PyValue F)) : String :=
  match value with
  | some value => if truthy value then str runtime value else ""
  | none => ""

/-- `market.instruments.preferred` of a packet. -/
def preferredInstruments (packet : Entries F) : Option (PyValue F) :=
  (mapping ((mapping (packet.lookup "market")).lookup "instruments")).lookup "preferred"

/-- `(preferred or [""])[0]`. -/
def firstPreferred (preferred : Option (PyValue F)) : Except Raised (PyValue F) :=
  match preferred.filter truthy with
  | some value => firstItem value
  | none => .ok (.str "")

def packetMarket (packet : Entries F) : Except Raised (String × String) := do
  let preferred ← firstPreferred (preferredInstruments packet)
  .ok (strOrEmpty runtime (some preferred),
    strOrEmpty runtime ((mapping (packet.lookup "market")).lookup "timeframe"))

def packetRequestedStart (packet : Entries F) : Except Raised (Option String) :=
  let market := mapping (packet.lookup "market")
  let given (value : Option (PyValue F)) : Option (PyValue F) :=
    value.filter fun value => !value.isNone
  if (given (market.lookup "requested_start")).isSome then .error (.value
    ("market.requested_start is not a packet field; put the start date in " ++
      "data_needs.requested_start"))
  else match given ((mapping (packet.lookup "data_needs")).lookup "requested_start") with
    | none => .ok none
    | some requested =>
        match runtime.isoDate (String.ofList ((str runtime requested).toList.take 10)) with
        | some date => .ok (some date)
        | none => .error (.value
            ("data_needs.requested_start " ++ runtime.repr requested ++ " is not an ISO date"))

/-- `_draft_market`: any `ValueError` of `json.loads` is handled. -/
def draftMarket (candidateJson : String) : Except Raised (Option (String × String)) :=
  match runtime.jsonLoads candidateJson with
  | none =>
      if (runtime.loadFailure candidateJson).raised.base = .valueError then .ok none
      else .error (runtime.loadFailure candidateJson).raised
  | some (.dict document) => (packetMarket runtime document).map some
  | some _ => .ok none

end QuantFactory.Campaign
