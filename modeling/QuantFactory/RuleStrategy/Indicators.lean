import QuantFactory.RuleStrategy.Arrays
import QuantFactory.RuleLanguage.Validation

/-!
# Series functions and indicators

The bars of a setting with its parameters, the array functions of
`strategies/rule_spec_evaluation.py`, and the indicators of
`strategies/rule_spec_indicators.py`.
-/

set_option autoImplicit false

namespace QuantFactory.RuleStrategy

open QuantFactory.Library QuantFactory.Python QuantFactory.RuleLanguage

variable {F : Type} [PyFloat F]

/-! ## Nodes -/

/-- `_MODIFIERS`: keys of a series node that are not its operator. -/
def modifiers : List String := ["params", "inputs", "length", "across_sessions", "bars", "time",
  "fast", "slow", "signal", "std_mult", "output", "k_length", "k_smooth", "d_length",
  "atr_length", "mult"]

/-- The variable named by an entry `"param": name`. -/
def namedParameter (key : String) (value : PyValue F) : List String :=
  if key = "param" then value.text?.toList else []

mutual

/-- `_referenced_parameters`: the variables a node names by `{"param": name}`. -/
def referencedParameters : PyValue F → List String
  | .list items => referencedInItems items
  | .dict entries => referencedInEntries entries
  | _ => []

def referencedInItems : List (PyValue F) → List String
  | [] => []
  | item :: rest => referencedParameters item ++ referencedInItems rest

def referencedInEntries : List (String × PyValue F) → List String
  | [] => []
  | (key, value) :: rest =>
      namedParameter key value ++ referencedParameters value ++ referencedInEntries rest

end

/-- `clock_minutes`. -/
def minutesAt (value : PyValue F) : Except EvaluationError Nat :=
  orRaise (value.text?.bind clockMinutes) (.valueError "not a valid HH:MM time")

def barPosition (bar : Bar) (value : PyValue F) : Except EvaluationError Int :=
  (minutesAt value).map fun minutes => ((minutes : Int) - bar.firstBarEndMinutes) / bar.minutes

/-- `node["across_sessions"]`. -/
def acrossSessions (entries : Entries F) : Except EvaluationError Bool :=
  match entries.lookup "across_sessions" with
  | some (.bool across) => .ok across
  | some _ => .error (.typeError "across_sessions")
  | none => .error (.keyError "across_sessions")

/-- `node.get("across_sessions", False)`. -/
def acrossSessionsOrNot (entries : Entries F) : Except EvaluationError Bool :=
  if (entries.lookup "across_sessions").isNone then .ok false else acrossSessions entries

inductive NodeKind where
  | series | condition | distance | sides
  deriving DecidableEq, Repr

def NodeKind.text : NodeKind → String
  | series => "series"
  | condition => "condition"
  | distance => "distance"
  | sides => "sides"

structure SessionBars (R F : Type) where
  shape : Shape
  open_ : R
  high : R
  low : R
  close : R
  volume : R
  tickSize : F
  bar : Bar
  parameters : Entries F

namespace SessionBars
variable {R : Type} (bars : SessionBars R F)

def fields : List (String × R) :=
  [("open", bars.open_), ("high", bars.high), ("low", bars.low), ("close", bars.close),
    ("volume", bars.volume)]

/-- `parameters[node["param"]]`. -/
def parameter (entries : Entries F) : Except EvaluationError (PyValue F) := do
  let name ← orRaise (entries.lookup "param") (.keyError "param")
  let name ← orRaise name.text? (.typeError "param")
  orRaise (bars.parameters.lookup name) (.keyError name)

def count (interpreter : Interpreter F) : PyValue F → Except EvaluationError Int
  | .dict entries => do interpreter.int (← bars.parameter entries)
  | node => interpreter.int node

def amount (interpreter : Interpreter F) : PyValue F → Except EvaluationError F
  | .dict entries => do interpreter.float (← bars.parameter entries)
  | node => interpreter.float node

def parameterValue (name : String) : Except EvaluationError (String × PyValue F) :=
  (orRaise (bars.parameters.lookup name) (.keyError name)).map fun value => (name, value)

def key (interpreter : Interpreter F) (kind : NodeKind) (node : PyValue F) :
    Except EvaluationError String := do
  let names := (referencedParameters node).dedup.mergeSort fun a b => decide (a ≤ b)
  let values ← collect bars.parameterValue names
  canonicalRuleSpecJson interpreter (.list [.str kind.text, node, .dict values])

end SessionBars

/-! ## Array functions -/

section Machine
variable {m : Type → Type} [Monad m] {R : Type} (machine : ArrayMachine F m R)

def elementwise (function : NumpyFunction) (args : List R) : m R :=
  machine.call (.elementwise function) args

def withNumber (function : NumpyFunction) (value : F) (operand : R) : m R :=
  machine.call (.withScalar function (.float value)) [operand]

/-- `np.full(shape, value)`. -/
def filled (shape : Shape) (value : F) : m R := machine.call (.full shape (.float value)) []

def shiftBars (values : R) (bars : Int) : m R := machine.call (.shift bars) [values]

def rolling (values : R) (operator : String) (length : Int) (across : Bool) : m R :=
  machine.call (.rolling operator length across) [values]

/-- `_divide`: undefined where the divisor is zero or the quotient is not finite. -/
def divide (left right : R) : m R := do
  let result ← elementwise machine .divide [left, right]
  let zero ← withNumber machine .equal (PyFloat.literal 0) right
  let finite ← elementwise machine .isfinite [result]
  let infinite ← elementwise machine .logicalNot [finite]
  let undefined ← elementwise machine .logicalOr [zero, infinite]
  machine.write result (.fillWhere .nan) [undefined]

/-- `_signs`. -/
def signsOf (values : R) : m R := do
  let signs ← elementwise machine .sign [values]
  let finite ← elementwise machine .isfinite [signs]
  let infinite ← elementwise machine .logicalNot [finite]
  machine.write signs (.fillWhere (.float (PyFloat.literal 0))) [infinite]

def fromRow (shape : Shape) (values : R) (row : Int) : m R := do
  let result ← machine.call (.full shape .nan) []
  machine.write result (.rowsFrom row) [values]

def sameSignRun (shape : Shape) (values : R) : m R := do
  let signs ← signsOf machine values
  let flat ← machine.call .flatSeries [signs]
  let starts ← machine.call (.fullFlat (shape.bars * shape.sessions) (.bool false)) []
  let starts ← machine.write starts (.fillEvery shape.bars (.bool true)) []
  let runs ← machine.call .runCounts [flat, starts]
  let counted ← withNumber machine .notEqual (PyFloat.literal 0) flat
  let product ← elementwise machine .multiply [runs, counted]
  machine.call (.unflattened shape) [product]

def each {α β : Type} (f : α → m β) : List α → m (List β)
  | [] => pure []
  | item :: rest => do
      let first ← f item
      let others ← each f rest
      pure (first :: others)

variable (interpreter : Interpreter F) (bars : SessionBars R F)

/-- `RuleEvaluator.atr`. -/
def simpleAtr (length : Int) : m R := do
  let previousClose ← shiftBars machine bars.close 1
  let high ← elementwise machine .subtract [bars.high, previousClose]
  let high ← elementwise machine .absolute [high]
  let low ← elementwise machine .subtract [bars.low, previousClose]
  let low ← elementwise machine .absolute [low]
  let gaps ← elementwise machine .fmax [high, low]
  let range ← elementwise machine .subtract [bars.high, bars.low]
  let trueRange ← elementwise machine .fmax [range, gaps]
  rolling machine trueRange "sma" length false

/-! ## Indicators -/

/-- `_frames`: the price fields as frames, with other series in the place of some. -/
def frames (across : Bool) (sources : List (String × R)) : m (List (String × R)) :=
  let prices := bars.fields.map fun field => (field.1, (sources.lookup field.1).getD field.2)
  let others := sources.filter fun source => decide (source.1 ∉ priceInputs)
  each (fun field => do
    let frame ← machine.call (.frame across) [field.2]
    pure (field.1, frame)) (prices ++ others)

/-- `_Scope.array`. -/
def scopeArray (across : Bool) (frame : R) : m R := do
  let values ← machine.call .fromFrame [frame]
  let infinite ← elementwise machine .isinf [values]
  let values ← machine.call (.fillWhere .nan) [values, infinite]
  if across then machine.call (.reshaped bars.shape across) [values] else pure values

def frameOf (data : List (String × R)) (name : String) : Except EvaluationError R :=
  orRaise (data.lookup name) (.keyError name)

def requireVectorbtpro : Except EvaluationError Unit :=
  if interpreter.vbt.isSome then .ok () else .error (.library "VectorBT PRO is not installed")

def runLibrary (name : String) (inputs : List String) (data : List (String × R))
    (params : List (String × Scalar F)) (output : String) : m R := do
  let args ← machine.raised _ (collect (frameOf data) inputs)
  let _ ← machine.raised _ (requireVectorbtpro interpreter)
  machine.call (.runLibrary name inputs params output) args

/-- `_atr`. -/
def libraryAtr (data : List (String × R)) (length : Int) (wtype : String) : m R :=
  runLibrary machine interpreter "vbt:ATR" ["high", "low", "close"] data
    [("window", .int length), ("wtype", .text wtype)] "atr"

def intParam (params : List (String × Scalar F)) (key : String) : Except EvaluationError Int :=
  match params.lookup key with
  | some (.int value) => .ok value
  | _ => .error (.keyError key)

def floatParam (params : List (String × Scalar F)) (key : String) : Except EvaluationError F :=
  match params.lookup key with
  | some (.float value) => .ok value
  | _ => .error (.keyError key)

/-- `_keltner`, and the band that is asked for. -/
def keltner (data : List (String × R)) (params : List (String × Scalar F)) (output : String) :
    m R := do
  let length ← machine.raised _ (intParam params "length")
  let atrLength ← machine.raised _ (intParam params "atr_length")
  let mult ← machine.raised _ (floatParam params "mult")
  let middle ← runLibrary machine interpreter "vbt:MA" ["close"] data
    [("window", .int length), ("wtype", .text "exp")] "ma"
  let atr ← libraryAtr machine interpreter data atrLength "wilder"
  let band ← withNumber machine .multiply mult atr
  let upper ← elementwise machine .add [middle, band]
  let lower ← elementwise machine .subtract [middle, band]
  machine.raised _ (frameOf [("upper", upper), ("middle", middle), ("lower", lower)] output)

/-- `_donchian`, and the band that is asked for. -/
def donchian (data : List (String × R)) (params : List (String × Scalar F)) (output : String) :
    m R := do
  let _ ← machine.raised _ (requireVectorbtpro interpreter)
  let length ← machine.raised _ (intParam params "length")
  let high ← machine.raised _ (frameOf data "high")
  let upper ← machine.call (.rollingMax length) [high]
  let low ← machine.raised _ (frameOf data "low")
  let lower ← machine.call (.rollingMin length) [low]
  let sum ← elementwise machine .add [upper, lower]
  let middle ← withNumber machine .divide (PyFloat.literal 2) sum
  machine.raised _ (frameOf [("upper", upper), ("lower", lower), ("middle", middle)] output)

def combined (operator : String) (data : List (String × R)) (params : List (String × Scalar F))
    (output : String) : m R :=
  if operator = "keltner" then keltner machine interpreter data params output
  else if operator = "donchian" then donchian machine interpreter data params output
  else machine.raised _ (.error (.keyError operator))

def indicatorValue (entries : Entries F) (declared : String × IndicatorParam) :
    Except EvaluationError (String × Scalar F) := do
  let value ← orRaise (entries.lookup declared.1) (.keyError declared.1)
  match declared.2 with
  | .count _ => (bars.count interpreter value).map fun count => (declared.1, .int count)
  | .amount => (bars.amount interpreter value).map fun amount => (declared.1, .float amount)

def namedOutput (spec : IndicatorSpec) (entries : Entries F) :
    Except EvaluationError String :=
  if spec.outputs.isEmpty then .ok "value"
  else orRaise ((entries.lookup "output").bind PyValue.text?) (.keyError "output")

def libraryArguments (spec : IndicatorSpec) (params : List (String × Scalar F)) :
    List (String × Scalar F) :=
  (spec.fixed.map fun entry => (entry.1, .text entry.2)) ++
    (params.zip spec.libraryParams).map fun pair => (pair.2, pair.1.2)

def outputInLibrary (spec : IndicatorSpec) (output : String) : Except EvaluationError String :=
  if spec.outputs.isEmpty then orRaise spec.libraryOutputs.head? (.library "no output")
  else orRaise ((spec.outputs.zip spec.libraryOutputs).lookup output) (.valueError output)

/-- `library_indicator`, which has to know the name. -/
def knownIndicator (name : String) : Except EvaluationError LibraryIndicator :=
  orRaise (libraryIndicator interpreter.vbt name) (.attributeError "inputs")

section Series
variable (recurse : PyValue F → m R)

/-- The series that takes the place of the library's first input, where there is one. -/
def indicatorSources (spec : IndicatorSpec) (library : LibraryIndicator) (value : PyValue F) :
    m (List (String × R)) :=
  if spec.takesSeries then do
    let input ← machine.raised _ (orRaise library.inputs.head? (.library "no input"))
    let source ← recurse value
    pure [(input, source)]
  else pure []

def indicatorSeries (operator : String) (spec : IndicatorSpec) (value : PyValue F)
    (entries : Entries F) : m R := do
  let params ← machine.raised _ (collect (indicatorValue interpreter bars entries) spec.params)
  let across ← machine.raised _ (acrossSessions entries)
  let output ← machine.raised _ (namedOutput spec entries)
  match spec.library with
  | none => do
      let data ← frames machine bars across []
      let band ← combined machine interpreter operator data params output
      scopeArray machine bars across band
  | some name => do
      let library ← machine.raised _ (knownIndicator interpreter name)
      let sources ← indicatorSources machine recurse spec library value
      let data ← frames machine bars across sources
      let libraryOutput ← machine.raised _ (outputInLibrary spec output)
      let frame ← runLibrary machine interpreter name library.inputs data
        (libraryArguments spec params) libraryOutput
      scopeArray machine bars across frame

def libraryValue (library : LibraryIndicator) (param : String × PyValue F) :
    Except EvaluationError (String × Scalar F) := do
  match ← orRaise (library.params.lookup param.1) (.keyError param.1) with
  | .count => (bars.count interpreter param.2).map fun count => (param.1, .int count)
  | .number => (bars.amount interpreter param.2).map fun amount => (param.1, .float amount)

def objectUnder (key : String) (entries : Entries F) :
    Except EvaluationError (Entries F) :=
  match entries.lookup key with
  | some (.dict inner) => .ok inner
  | some _ => .error (.attributeError "items")
  | none => .error (.keyError key)

def textUnder (key : String) (entries : Entries F) :
    Except EvaluationError String :=
  orRaise ((entries.lookup key).bind PyValue.text?) (.keyError key)

def librarySeries (entries : Entries F) : m R := do
  let name ← machine.raised _ (textUnder "indicator" entries)
  let library ← machine.raised _ (knownIndicator interpreter name)
  let given ← machine.raised _ (objectUnder "params" entries)
  let params ← machine.raised _ (collect (libraryValue interpreter bars library) given)
  let across ← machine.raised _ (acrossSessions entries)
  let inputs ← machine.raised _ (objectUnder "inputs" entries)
  let sources ← each (fun input => do
    let source ← recurse input.2
    pure (input.1, source)) inputs
  let data ← frames machine bars across sources
  let output ← machine.raised _ (textUnder "output" entries)
  let frame ← runLibrary machine interpreter name library.inputs data params output
  scopeArray machine bars across frame

end Series

/-- `node.get("smoothing", "sma")`. -/
def smoothingOf (entries : Entries F) : PyValue F :=
  (entries.lookup "smoothing").getD (.str "sma")

def atrSeries (value : PyValue F) : m R := do
  let entries ← machine.raised _ (match value with
    | .dict entries => .ok entries
    | _ => .error (.typeError "atr"))
  let length ← machine.raised _ (do
    let node ← orRaise (entries.lookup "length") (.keyError "length")
    bars.count interpreter node)
  let across ← machine.raised _ (acrossSessionsOrNot entries)
  if (smoothingOf entries).text? = some "sma" ∧ across = false then simpleAtr machine bars length
  else do
    let data ← frames machine bars across []
    let wilder := (smoothingOf entries).text? = some "wilder"
    let frame ← libraryAtr machine interpreter data length (if wilder then "wilder" else "simple")
    scopeArray machine bars across frame

end Machine

end QuantFactory.RuleStrategy
