import QuantFactory.RuleLanguage.Syntax

/-!
# Validation

The `_Validator` of `rule_language/validation.py`.  Every check returns the
normalized node with the variables it uses, which the source collects in
`self.used`.  The checks of expressions recurse to a given depth; a document's
own depth is always enough.
-/

set_option autoImplicit false

namespace QuantFactory.RuleLanguage

open QuantFactory.Library QuantFactory.Python

variable {F : Type} [PyFloat F]

/-- How the values of a variable are checked where it is used. -/
inductive ParamCheck where
  | number
  | count (minimum maximum : Nat)
  | amount (maximum : Option Nat)
  deriving DecidableEq, Repr

structure Validator (F : Type) where
  runtime : RuleRuntime F
  packetVariables : Entries F
  bar : Bar

/-- Part of a check of a node: its result and where it stands. -/
abbrev Check (F : Type) := PyValue F → String → Except RuleError (Checked F)

namespace Validator
variable (v : Validator F)

/-! ## Numbers and variables -/

def ParamCheck.accepts (check : ParamCheck) (value : PyValue F) : Except RuleError Bool :=
  match check with
  | .number => isNumber value
  | .count minimum maximum =>
      .ok (isCount value minimum (if maximum = 0 then maxWindowBars else maximum))
  | .amount maximum => isAmount value maximum

def belowText : Option Nat → String
  | none => ""
  | some maximum => s!" and below {maximum}"

def ParamCheck.requirement : ParamCheck → String
  | .number => "finite numbers"
  | .count minimum maximum =>
      s!"whole numbers from {minimum} to {if maximum = 0 then maxWindowBars else maximum}"
  | .amount maximum => "numbers greater than zero" ++ belowText maximum

def checkValue (name path : String) (check : ParamCheck) (value : PyValue F) :
    Except RuleError Unit := do
  let valid ← ParamCheck.accepts check value
  raiseIf (!valid) (.ruleSpecError path (s!"variable {v.runtime.repr (.str name)} value " ++
    s!"{v.runtime.repr value} cannot be used here; it needs {ParamCheck.requirement check}"))

/-- The declared values of a variable, where it declares a list of some. -/
def declaredValues (definition : PyValue F) : Option (List (PyValue F)) :=
  match definition.get? "values" with
  | some (.list values) => if values.isEmpty then none else some values
  | _ => none

def param (name : PyValue F) (path : String) (check : ParamCheck) :
    Except RuleError String := do
  let name ← orRaise (name.text?.filter fun text => !text.isEmpty)
    (.ruleSpecError path "must be a variable name")
  let declared := if v.packetVariables.isEmpty then "none" else sortedText (v.packetVariables.map Prod.fst)
  let definition ← orRaise (v.packetVariables.lookup name) (.ruleSpecError path
    s!"{v.runtime.repr (.str name)} is not a declared packet variable (declared: {declared})")
  let values ← orRaise (declaredValues definition) (.ruleSpecError path
    s!"variable {v.runtime.repr (.str name)} has no valid non-empty \"values\" list")
  let _ ← collect (v.checkValue name path check) values
  let floats ← collect toFloat values
  raiseIf (!allDistinct floats) (.ruleSpecError path
    s!"variable {v.runtime.repr (.str name)} values must be distinct numbers")
  .ok name

def numeric (check : ParamCheck) (reason : String) : Check F := fun node path =>
  match node with
  | .dict _ => do
      let entries ← checkObject v.runtime node path ["param"] []
      let value ← item entries "param"
      let name ← v.param value s!"{path}.param" check
      .ok ⟨.dict [("param", .str name)], [name]⟩
  | _ => do
      let valid ← ParamCheck.accepts check node
      raiseIf (!valid) (.ruleSpecError path reason)
      .ok ⟨node, []⟩

def number : Check F :=
  v.numeric .number "must be a finite number or \x7b\"param\": \"<variable>\"\x7d"

def count (minimum maximum : Nat) : Check F :=
  v.numeric (.count minimum maximum)
    (s!"must be a whole number from {minimum} to {maximum} or " ++
      "\x7b\"param\": \"<variable>\"\x7d")

def amount (maximum : Option Nat) : Check F :=
  v.numeric (.amount maximum) ("must be a number greater than zero" ++ belowText maximum ++
    " or \x7b\"param\": \"<variable>\"\x7d")

/-! ## Series -/

def longestWindow (across : Bool) : Nat := if across then maxWindowBars else v.bar.barsPerSession

def clockWithin (value : PyValue F) (path : String) (earliest latest : Nat) :
    Except RuleError String :=
  clock v.runtime value path earliest latest v.bar.minutes

def barEnd (value : PyValue F) (path : String) : Except RuleError String :=
  v.clockWithin value path v.bar.firstBarEndMinutes sessionCloseMinutes

section Series
variable (recurse : Check F)

def prevNode : Check F := fun node path => do
  let entries ← checkObject v.runtime node path ["prev", "bars"] []
  let value ← item entries "prev"
  let bars ← item entries "bars"
  let operand ← recurse value s!"{path}.prev"
  let bars ← v.count 1 (v.bar.barsPerSession - 1) bars s!"{path}.bars"
  .ok ⟨.dict [("prev", operand.node), ("bars", bars.node)], operand.used ++ bars.used⟩

def rollingNode (operator : String) : Check F := fun node path => do
  let entries ← checkObject v.runtime node path [operator, "length"] ["across_sessions"]
  let value ← item entries operator
  let across ← flag entries "across_sessions" path
  let length ← item entries "length"
  let length ← v.count (if operator = "std" then 2 else 1) (v.longestWindow across) length
    s!"{path}.length"
  let operand ← recurse value s!"{path}.{operator}"
  .ok ⟨.dict [(operator, operand.node), ("length", length.node), ("across_sessions", .bool across)],
    length.used ++ operand.used⟩

def valueAtNode : Check F := fun node path => do
  let entries ← checkObject v.runtime node path ["value_at", "time"] []
  let value ← item entries "value_at"
  let time ← item entries "time"
  let time ← v.barEnd time s!"{path}.time"
  let operand ← recurse value s!"{path}.value_at"
  .ok ⟨.dict [("value_at", operand.node), ("time", .str time)], operand.used⟩

def indicatorOperand (takesSeries : Bool) (value : PyValue F) (where_ : String) :
    Except RuleError (Checked F) :=
  if takesSeries then recurse value where_
  else match value with
    | .dict [] => .ok ⟨.dict [], []⟩
    | _ => ruleSpecError where_
        "must be an empty object \x7b\x7d (it reads high, low, close and volume)"

def indicatorParam (entries : Entries F) (path : String) (across : Bool)
    (declared : String × IndicatorParam) : Except RuleError (String × Checked F) := do
  let value ← item entries declared.1
  let checked ← match declared.2 with
    | .count minimum =>
        v.count minimum (v.longestWindow across) value s!"{path}.{declared.1}"
    | .amount => v.amount (some maxMultiplier) value s!"{path}.{declared.1}"
  .ok (declared.1, checked)

def choiceEntry (key : String) (choices : List String) (required : Bool)
    (entries : Entries F) (path : String) :
    Except RuleError (Entries F) :=
  let refused := ruleSpecError s!"{path}.{key}" s!"must be one of: {commaSeparated choices}"
  match entries.lookup key with
  | some (.str choice) => if choice ∈ choices then .ok [(key, .str choice)] else refused
  | some _ => refused
  | none => if required then .error (.keyError key) else .ok []

def outputEntry (outputs : List String) (entries : Entries F) (path : String) :
    Except RuleError (Entries F) :=
  if outputs.isEmpty then .ok [] else choiceEntry "output" outputs true entries path

def checkedEntries (checked : List (String × Checked F)) : Entries F :=
  checked.map fun entry => (entry.1, entry.2.node)

def usedBy (checked : List (String × Checked F)) : List String :=
  checked.flatMap fun entry => entry.2.used

/-- `_Validator.indicator`. -/
def indicatorNode (operator : String) (spec : IndicatorSpec) : Check F := fun node path => do
  let entries ← checkObject v.runtime node path
    ([operator] ++ spec.params.map Prod.fst ++ if spec.outputs.isEmpty then [] else ["output"])
    ["across_sessions"]
  let across ← flag entries "across_sessions" path
  let value ← item entries operator
  let operand ← indicatorOperand recurse spec.takesSeries value s!"{path}.{operator}"
  let params ← collect (v.indicatorParam entries path across) spec.params
  let output ← outputEntry spec.outputs entries path
  .ok ⟨.dict ([(operator, operand.node)] ++ checkedEntries params ++
    [("across_sessions", .bool across)] ++ output), operand.used ++ usedBy params⟩

def libraryParam (entries : Entries F) (path : String) (across : Bool)
    (declared : String × ParamKind) : Except RuleError (String × Checked F) := do
  let value ← item entries declared.1
  let where_ := s!"{path}.params.{declared.1}"
  let checked ← match declared.2 with
    | .count => v.count 0 (v.longestWindow across) value where_
    | .number => v.number value where_
  .ok (declared.1, checked)

def libraryInput (entries : Entries F) (path : String) (key : String) :
    Except RuleError (String × Checked F) := do
  let value ← item entries key
  let operand ← recurse value s!"{path}.inputs.{key}"
  .ok (key, operand)

def libraryOutput (spec : LibraryIndicator) (entries : Entries F)
    (path : String) : Except RuleError String :=
  let output := match entries.lookup "output", spec.outputs with
    | some output, _ => output
    | none, [only] => .str only
    | none, _ => .none
  match output with
  | .str output =>
      if output ∈ spec.outputs then .ok output
      else ruleSpecError s!"{path}.output"
        s!"{spec.name} needs one of: {commaSeparated spec.outputs}"
  | _ => ruleSpecError s!"{path}.output"
      s!"{spec.name} needs one of: {commaSeparated spec.outputs}"

/-- `_Validator.library_indicator`. -/
def libraryNode : Check F := fun node path => do
  let entries ← checkObject v.runtime node path ["indicator", "params"]
    ["inputs", "output", "across_sessions"]
  let name ← item entries "indicator"
  let missing := if v.runtime.vbt.isSome then ""
    else "; VectorBT PRO is not installed here, so none are available"
  let spec ← orRaise (name.text?.bind (libraryIndicator v.runtime.vbt))
    (.ruleSpecError s!"{path}.indicator" (s!"{v.runtime.repr name} is not a usable library " ++
      s!"indicator (names look like \"talib:RSI\" or \"vbt:MACD\"){missing}"))
  let across ← flag entries "across_sessions" path
  let params ← item entries "params"
  let params ← checkObject v.runtime params s!"{path}.params" (spec.params.map Prod.fst) []
  let params ← collect (v.libraryParam params path across) spec.params
  let inputs ← checkObject v.runtime ((entries.lookup "inputs").getD (.dict [])) s!"{path}.inputs"
    [] spec.inputs
  let inputs ← collect (libraryInput recurse inputs path)
    (spec.inputs.filter fun key => (inputs.lookup key).isSome)
  let output ← libraryOutput spec entries path
  .ok ⟨.dict [("indicator", .str spec.name), ("params", .dict (checkedEntries params)),
      ("inputs", .dict (checkedEntries inputs)), ("output", .str output),
      ("across_sessions", .bool across)],
    usedBy params ++ usedBy inputs⟩

/-- `_Validator.atr_series`. -/
def atrNode (value : PyValue F) (path : String) : Except RuleError (Checked F) := do
  let atr ← checkObject v.runtime value path ["length"] ["smoothing", "across_sessions"]
  let across ← flag atr "across_sessions" path
  let length ← item atr "length"
  let length ← v.count 1 (v.longestWindow across) length s!"{path}.length"
  let smoothing ← choiceEntry "smoothing" atrSmoothings false atr path
  .ok ⟨.dict ([("length", length.node)] ++ smoothing ++
    if (atr.lookup "across_sessions").isSome then [("across_sessions", .bool across)] else []),
    length.used⟩

def rangeNode (operator : String) (value : PyValue F) (path : String) :
    Except RuleError (Checked F) := do
  let window ← checkObject v.runtime value path ["from", "to"] []
  let start ← item window "from"
  let start ← v.clockWithin start s!"{path}.from" sessionOpenMinutes v.bar.lastExit
  let stop ← item window "to"
  let stop ← v.barEnd stop s!"{path}.to"
  raiseIf (!decide (minutesOf start < minutesOf stop))
    (.ruleSpecError path s!"from {start} must be before to {stop}")
  .ok ⟨.dict [(operator, .dict [("from", .str start), ("to", .str stop)])], []⟩

def plainNode (operator : String) : Check F := fun node path => do
  let entries ← checkObject v.runtime node path [operator] []
  let value ← item entries operator
  let where_ := s!"{path}.{operator}"
  if operator = "param" then
    let name ← v.param value where_ .number
    .ok ⟨.dict [("param", .str name)], [name]⟩
  else if operator ∈ binaryOperators then
    let operands ← pair value where_
    let left ← recurse operands.1 s!"{where_}[0]"
    let right ← recurse operands.2 s!"{where_}[1]"
    .ok ⟨.dict [(operator, .list [left.node, right.node])], left.used ++ right.used⟩
  else if operator ∈ unaryOperators then
    let operand ← recurse value where_
    .ok ⟨.dict [(operator, operand.node)], operand.used⟩
  else if operator = "atr" then
    let atr ← v.atrNode value where_
    .ok ⟨.dict [("atr", atr.node)], atr.used⟩
  else if operator ∈ sessionOperators then
    match value with
    | .dict [] => .ok ⟨.dict [(operator, .dict [])], []⟩
    | _ => ruleSpecError where_ "must be an empty object \x7b\x7d"
  else v.rangeNode operator value where_

def operatorNode (operator : String) : Check F :=
  if operator = "prev" then v.prevNode recurse
  else if operator ∈ rollingOperators then v.rollingNode recurse operator
  else if operator = "value_at" then v.valueAtNode recurse
  else match indicators.lookup operator with
    | some spec => v.indicatorNode recurse operator spec
    | none =>
        if operator = "indicator" then v.libraryNode recurse else v.plainNode recurse operator

end Series

def series : Nat → Check F
  | 0, _, _ => .error .recursionError
  | depth + 1, node, path =>
      match node with
      | .bool _ => ruleSpecError path "true/false is not a number or series"
      | .int n => (floatOfInt (F := F) n).map fun _ => ⟨.int n, []⟩
      | .float x =>
          if PyFloat.isFinite x then .ok ⟨.float x, []⟩
          else ruleSpecError path "numbers must be finite"
      | .str text =>
          if text ∈ priceFields then .ok ⟨.str text, []⟩
          else ruleSpecError path (s!"unknown price field {v.runtime.repr (.str text)} " ++
            s!"(allowed: {sortedText priceFields})")
      | _ => do
          let operator ← operatorOf v.runtime node path seriesOperators .series
          v.operatorNode (series depth) operator node path

/-! ## Conditions and sides -/

section Condition
variable (seriesCheck recurse : Check F)

def everyMinutesNode (value : PyValue F) (path : String) : Except RuleError (Checked F) := do
  let refused : RuleError := .ruleSpecError path
    (s!"must be a whole number of minutes, a multiple of the {v.bar.minutes}-minute bar, " ++
      "up to 390")
  raiseIf (!isCount value v.bar.minutes (sessionCloseMinutes - sessionOpenMinutes)) refused
  let minutes ← orRaise value.int? refused
  raiseIf (minutes % v.bar.minutes ≠ 0) refused
  .ok ⟨.dict [("every_minutes", .int minutes)], []⟩

def timeBetweenNode (value : PyValue F) (path : String) : Except RuleError (Checked F) := do
  let times ← pair value path
  let start ← v.barEnd times.1 s!"{path}[0]"
  let stop ← v.barEnd times.2 s!"{path}[1]"
  raiseIf (decide (minutesOf stop < minutesOf start))
    (.ruleSpecError path s!"start {start} is after end {stop}")
  .ok ⟨.dict [("time_between", .list [.str start, .str stop])], []⟩

def conditionsNode (operator : String) (value : PyValue F) (path : String) :
    Except RuleError (Checked F) := do
  let items ← orRaise (value.items?.filter fun items => !items.isEmpty)
    (.ruleSpecError path "must be a non-empty list of conditions")
  let checked ← collect (fun item => recurse item.1 s!"{path}[{item.2}]") items.zipIdx
  .ok ⟨.dict [(operator, .list (checked.map Checked.node))], checked.flatMap Checked.used⟩

def comparisonNode (operator : String) (value : PyValue F) (path : String) :
    Except RuleError (Checked F) := do
  let operands ← pair value path
  let left ← seriesCheck operands.1 s!"{path}[0]"
  let right ← seriesCheck operands.2 s!"{path}[1]"
  .ok ⟨.dict [(operator, .list [left.node, right.node])], left.used ++ right.used⟩

def conditionNode (operator : String) : Check F := fun node path => do
  let entries ← checkObject v.runtime node path [operator] []
  let value ← item entries operator
  let where_ := s!"{path}.{operator}"
  if operator ∈ comparisonOperators ++ crossOperators then
    comparisonNode seriesCheck operator value where_
  else if operator ∈ ["all", "any"] then conditionsNode recurse operator value where_
  else if operator = "not" then
    let inner ← recurse value where_
    .ok ⟨.dict [("not", inner.node)], inner.used⟩
  else if operator = "every_minutes" then v.everyMinutesNode value where_
  else if operator = "time_is" then
    let time ← v.barEnd value where_
    .ok ⟨.dict [("time_is", .str time)], []⟩
  else v.timeBetweenNode value where_

end Condition

def condition : Nat → Check F
  | 0, _, _ => .error .recursionError
  | depth + 1, node, path => do
      let operator ← operatorOf v.runtime node path conditionOperators .condition
      v.conditionNode (v.series depth) (condition depth) operator node path

def side (depth : Nat) : Check F := fun node path =>
  let refused : Except RuleError (Checked F) := ruleSpecError path
    ("must be \"long\", \"short\", \x7b\"sign_of\": <series>\x7d or " ++
      "\x7b\"opposite_sign_of\": <series>\x7d")
  match node with
  | .str text => if text ∈ ["long", "short"] then .ok ⟨.str text, []⟩ else refused
  | .dict [(key, value)] =>
      if key ∈ sideOperators then do
        let operand ← v.series depth value s!"{path}.{key}"
        .ok ⟨.dict [(key, operand.node)], operand.used⟩
      else refused
  | _ => refused

/-! ## Distances and exits -/

def atrDistance (value : PyValue F) (path : String) : Except RuleError (Checked F) := do
  let atr ← checkObject v.runtime value path ["length", "multiple"] []
  let length ← item atr "length"
  let length ← v.count 1 v.bar.barsPerSession length s!"{path}.length"
  let multiple ← item atr "multiple"
  let multiple ← v.amount none multiple s!"{path}.multiple"
  .ok ⟨.dict [("length", length.node), ("multiple", multiple.node)],
    length.used ++ multiple.used⟩

/-- `stop_loss: {"signal_bar": true}`. -/
def signalBar (value : PyValue F) (path : String) : Except RuleError (Checked F) :=
  match value with
  | .bool true => .ok ⟨.bool true, []⟩
  | _ => ruleSpecError path
      "must be true: the stop sits at the signal bar's low (long) or high (short)"

def stopOnlyDistance (depth : Nat) (kind stop : String) (stops : List String) (value : PyValue F)
    (path : String) : Except RuleError (Checked F) := do
  raiseIf (!decide (stop ∈ stops))
    (.ruleSpecError path ("is allowed only in " ++ " or ".intercalate stops))
  if kind = "signal_bar" then signalBar value path
  else if kind = "level" then v.series depth value path
  else v.amount none value path

def distanceValue (depth : Nat) (stop kind : String) (value : PyValue F) (path : String) :
    Except RuleError (Checked F) :=
  match stopOnlyKinds.lookup kind with
  | some stops => v.stopOnlyDistance depth kind stop stops value path
  | none =>
      if kind = "atr" then v.atrDistance value path
      else v.amount (if kind = "percent" then some 100 else none) value path

def distance (depth : Nat) (stop : String) : Check F := fun node path => do
  let kind ← operatorOf v.runtime node path (distanceKinds ++ stopOnlyKinds.map Prod.fst) .distance
  let entries ← checkObject v.runtime node path [kind] []
  let value ← item entries kind
  let checked ← v.distanceValue depth stop kind value s!"{path}.{kind}"
  .ok ⟨.dict [(kind, checked.node)], checked.used⟩

structure CheckedEntries (F : Type) where
  entries : Entries F
  used : List String

def CheckedEntries.join (parts : List (CheckedEntries F)) : CheckedEntries F where
  entries := parts.flatMap CheckedEntries.entries
  used := parts.flatMap CheckedEntries.used

def optionalEntry (entries : Entries F) (path key : String) (check : Check F) :
    Except RuleError (CheckedEntries F) :=
  match entries.lookup key with
  | none => .ok ⟨[], []⟩
  | some value => (check value s!"{path}.{key}").map fun checked =>
      ⟨[(key, checked.node)], checked.used⟩

def clockCheck (earliest latest : Nat) : Check F := fun value path =>
  (v.clockWithin value path earliest latest).map fun time => ⟨.str time, []⟩

def exitWhen (depth : Nat) : Check F := fun node path => do
  let entries ← checkObject v.runtime node path [] ["long", "short"]
  raiseIf entries.isEmpty
    (.ruleSpecError path "needs \"long\", \"short\" or both, each a condition")
  let long ← optionalEntry entries path "long" (v.condition depth)
  let short ← optionalEntry entries path "short" (v.condition depth)
  .ok ⟨.dict (long.entries ++ short.entries), long.used ++ short.used⟩

def lacksStopLoss (result : Entries F) (key : String) : Bool :=
  ((result.lookup key).bind (PyValue.get? "r_multiple")).isSome &&
    (result.lookup "stop_loss").isNone

def checkMultiples (result : Entries F) (path : String) :
    Except RuleError Unit := do
  let reason := "needs a stop_loss: R is the stop-loss distance"
  raiseIf (lacksStopLoss result "take_profit")
    (.ruleSpecError s!"{path}.take_profit.r_multiple" reason)
  raiseIf (lacksStopLoss result "trail_after")
    (.ruleSpecError s!"{path}.trail_after.r_multiple" reason)
  raiseIf ((result.lookup "trail_after").isSome && (result.lookup "trailing_stop").isNone)
    (.ruleSpecError s!"{path}.trail_after"
      "needs a trailing_stop: it is the gain that switches the trailing stop on")

def exitKeys : List String := ["after_bars", "at_time", "on_opposite_signal"] ++ stopKeys ++
  ["exit_when"]

def longestHold (flatAt : Option Nat) : Nat :=
  if flatAt.isSome then v.bar.barsPerSession - 1 else maxWindowBars

/-- The first time at which a position can be closed by the clock. -/
def earliestExit : Nat := v.bar.firstBarEndMinutes + v.bar.minutes

def exit (depth : Nat) (flatAt : Option Nat) : Check F := fun node path => do
  let entries ← checkObject v.runtime node path [] exitKeys
  let afterBars ← optionalEntry entries path "after_bars" (v.count 1 (v.longestHold flatAt))
  let atTime ← optionalEntry entries path "at_time"
    (v.clockCheck v.earliestExit (flatAt.getD v.bar.lastExit))
  let opposite ← flag entries "on_opposite_signal" path
  let stops ← collect (fun key => optionalEntry entries path key (v.distance depth key)) stopKeys
  let stops := CheckedEntries.join stops
  checkMultiples stops.entries path
  let exitWhen ← optionalEntry entries path "exit_when" (v.exitWhen depth)
  .ok ⟨.dict (afterBars.entries ++ atTime.entries ++ [("on_opposite_signal", .bool opposite)] ++
      stops.entries ++ exitWhen.entries),
    afterBars.used ++ atTime.used ++ stops.used ++ exitWhen.used⟩

/-! ## The whole specification -/

def signal (depth : Nat) : Check F := fun node path => do
  let entries ← checkObject v.runtime node path ["when", "side"] []
  let whenNode ← item entries "when"
  let sideNode ← item entries "side"
  let whenOk ← v.condition depth whenNode s!"{path}.when"
  let sideOk ← v.side depth sideNode s!"{path}.side"
  .ok ⟨.dict [("when", whenOk.node), ("side", sideOk.node)], whenOk.used ++ sideOk.used⟩

def supportedSession : List (String × String) :=
  [("timezone", "America/New_York"), ("open", "09:30"), ("close", "16:00")]

def sessionDocument : PyValue F := .dict (supportedSession.map fun entry =>
  (entry.1, .str entry.2))

def checkSessionEntry (runtime : RuleRuntime F) (entries : Entries F)
    (path : String) (expected : String × String) : Except RuleError Unit := do
  let value ← item entries expected.1
  raiseIf (value.text? ≠ some expected.2) (.ruleSpecError s!"{path}.{expected.1}"
    (s!"{ruleLanguage} supports only the America/New_York 09:30-16:00 regular session; " ++
      s!"got {runtime.repr value}"))

def skipDayCalendars : List String := ["cpi", "fomc"]

/-- The names of `skip_days`, where it is a list of distinct calendars. -/
def skipDayNames (value : PyValue F) : Option (List String) := do
  let items ← value.items?
  let names := items.filterMap PyValue.text?
  if names.length = items.length ∧ names.Nodup ∧ ∀ name ∈ names, name ∈ skipDayCalendars then
    some names
  else none

def skipDays (entries : Entries F) (path : String) :
    Except RuleError (Entries F) :=
  match entries.lookup "skip_days" with
  | none => .ok []
  | some value =>
      match skipDayNames value with
      | none => ruleSpecError s!"{path}.skip_days"
          "must be a list without duplicates drawn from ['cpi', 'fomc']"
      | some [] => .ok []
      | some names => .ok [("skip_days", .list (names.map .str))]

def topLevelKeys : List String :=
  ["language", "bar", "tick_size", "session", "signals", "max_trades_per_session"]

def checkBar (runtime : RuleRuntime F) (value : PyValue F) (path : String) :
    Except RuleError Bar :=
  orRaise (value.text?.bind Bar.ofText) (.ruleSpecError s!"{path}.bar"
    s!"must be \"1m\" or \"5m\" in {ruleLanguage}; got {runtime.repr value}")

def flatAtEntry (entries : Entries F) (path : String) :
    Except RuleError (CheckedEntries F) :=
  optionalEntry entries path "flat_at" (v.clockCheck v.earliestExit v.bar.lastExit)

/-- The minutes of a checked `flat_at`. -/
def flatAtMinutes (flatAt : CheckedEntries F) : Option Nat :=
  (flatAt.entries.lookup "flat_at").bind fun value => value.text?.bind clockMinutes

def signals (depth : Nat) (value : PyValue F) (path : String) :
    Except RuleError (List (Checked F)) := do
  let items ← orRaise (value.items?.filter fun items => !items.isEmpty)
    (.ruleSpecError s!"{path}.signals"
      "must be a non-empty list of \x7b\"when\": ..., \"side\": ...\x7d objects")
  collect (fun item => v.signal depth item.1 s!"{path}.signals[{item.2}]") items.zipIdx

/-- `_Validator.spec`, once the bar size is known. -/
def specEntries (depth : Nat) (entries : Entries F) :
    Except RuleError (Checked F) := do
  let path := "rule_spec"
  let tickSize ← item entries "tick_size"
  let tickOk ← isAmount tickSize none
  raiseIf (!tickOk) (.ruleSpecError s!"{path}.tick_size" "must be a number greater than zero")
  let session ← item entries "session"
  let session ← checkObject v.runtime session s!"{path}.session" (supportedSession.map Prod.fst) []
  let _ ← collect (checkSessionEntry v.runtime session s!"{path}.session") supportedSession
  let flatAt ← v.flatAtEntry entries path
  let signalsNode ← item entries "signals"
  let signals ← v.signals depth signalsNode path
  let maxTrades ← item entries "max_trades_per_session"
  raiseIf (!isCount maxTrades 1 v.bar.barsPerSession)
    (.ruleSpecError s!"{path}.max_trades_per_session"
      s!"must be a whole number from 1 to {v.bar.barsPerSession}")
  let skipDays ← skipDays entries path
  let exitOk ← v.exit depth (flatAtMinutes flatAt) ((entries.lookup "exit").getD (.dict []))
    s!"{path}.exit"
  .ok ⟨.dict ([("language", .str ruleLanguage), ("bar", .str v.bar.text), ("tick_size", tickSize),
      ("session", sessionDocument), ("signals", .list (signals.map Checked.node)),
      ("exit", exitOk.node), ("max_trades_per_session", maxTrades)] ++ flatAt.entries ++ skipDays),
    signals.flatMap Checked.used ++ exitOk.used⟩

end Validator

/-- `_Validator.spec`. -/
def specNode (runtime : RuleRuntime F) (packetVariables : Entries F)
    (spec : PyValue F) : Except RuleError (Checked F) := do
  let path := "rule_spec"
  let entries ← checkObject runtime spec path Validator.topLevelKeys
    ["exit", "skip_days", "flat_at"]
  let language ← item entries "language"
  raiseIf (language.text? ≠ some ruleLanguage)
    (.ruleSpecError s!"{path}.language" s!"must be {runtime.repr (.str ruleLanguage)}")
  let barNode ← item entries "bar"
  let bar ← Validator.checkBar runtime barNode path
  (Validator.mk runtime packetVariables bar).specEntries spec.depth entries

/-- `_check_size`, with the elements still allowed and those still to visit. -/
def checkSizeLoop : Nat → List (PyValue F × Nat) → Except RuleError Unit
  | _, [] => .ok ()
  | 0, _ :: _ => ruleSpecError "rule_spec"
      s!"has more than {maxRuleNodes} elements; simplify the rules"
  | allowance + 1, (value, depth) :: stack =>
      if maxRuleDepth < depth then
        ruleSpecError "rule_spec" s!"is nested more than {maxRuleDepth} levels deep"
      else checkSizeLoop allowance
        (value.children.reverse.map (fun child => (child, depth + 1)) ++ stack)

def checkSize (spec : PyValue F) : Except RuleError Unit := checkSizeLoop maxRuleNodes [(spec, 1)]

def valueCount (definition : String × PyValue F) : Except RuleError Nat := do
  let values ← orRaise ((definition.2.get? "values").bind PyValue.items?) (.keyError "values")
  .ok values.length

def checkGridSize (packetVariables : Entries F) : Except RuleError Unit := do
  let counts ← collect valueCount packetVariables
  let combinations := counts.foldl (· * ·) 1
  raiseIf (decide (maxVariableGrid < combinations)) (.ruleSpecError "variables"
    (s!"grid has {combinations} combinations (product of each variable's value count); " ++
      s!"the limit is {maxVariableGrid}. Remove values or variables"))

def variableEntries (packetVariables : PyValue F) :
    Except RuleError (Entries F) :=
  match packetVariables with
  | .none => .ok []
  | .dict entries => .ok entries
  | _ => ruleSpecError "variables"
      "must be an object mapping names to \x7b\"values\": [...]\x7d"

def unusedVariables (packetVariables : Entries F) (used : List String) :
    List String :=
  ((packetVariables.map Prod.fst).filter (· ∉ used)).mergeSort fun a b => decide (a ≤ b)

def checkUnused (packetVariables : Entries F) (used : List String) :
    Except RuleError Unit :=
  match unusedVariables packetVariables used with
  | [] => .ok ()
  | name :: _ => ruleSpecError s!"variables.{name}"
      (s!"is declared but rule_spec never uses it; reference it with " ++
        "\x7b\"param\": \"" ++ name ++ "\"\x7d or remove it")

def validateRuleSpec (runtime : RuleRuntime F) (spec packetVariables : PyValue F) :
    Except RuleError (PyValue F) := do
  raiseIf (!spec.isDict) (.ruleSpecError "rule_spec" "must be an object")
  let declared ← variableEntries packetVariables
  checkSize spec
  let normalized ← specNode runtime declared spec
  checkUnused declared normalized.used
  checkGridSize declared
  .ok normalized.node

end QuantFactory.RuleLanguage
