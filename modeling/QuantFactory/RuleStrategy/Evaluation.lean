import QuantFactory.RuleStrategy.Indicators

/-!
# Rule evaluation

`RuleEvaluator` of `strategies/rule_spec_evaluation.py`.  A dictionary node is
evaluated through the cache, under a key that carries the values of the
parameters the node refers to.  The evaluation recurses to a given depth; a
document's own depth is enough.
-/

set_option autoImplicit false

namespace QuantFactory.RuleStrategy

open QuantFactory.Library QuantFactory.Python QuantFactory.RuleLanguage

variable {F : Type} [PyFloat F]

section Machine
variable {m : Type → Type} [Monad m] {R : Type} (machine : ArrayMachine F m R)
  (interpreter : Interpreter F) (bars : SessionBars R F)

/-- `RuleEvaluator.cached`. -/
def cachedNode (kind : NodeKind) (node : PyValue F) (compute : m R) : m R := do
  let key ← machine.raised _ (bars.key interpreter kind node)
  machine.cached key compute

def operandPair (value : PyValue F) : Except EvaluationError (PyValue F × PyValue F) :=
  match value with
  | .list (first :: second :: _) => .ok (first, second)
  | _ => .error (.typeError "operands")

def nodeUnder (key : String) (entries : Entries F) :
    Except EvaluationError (PyValue F) := orRaise (entries.lookup key) (.keyError key)

/-! ## Series -/

section Series
variable (recurse : PyValue F → m R)

/-- The calls of `add`, `sub` and `mul`; `div` is `_divide`. -/
def arithmetic (operator : String) (left right : R) : m R :=
  if operator = "div" then divide machine left right
  else if operator = "add" then elementwise machine .add [left, right]
  else if operator = "sub" then elementwise machine .subtract [left, right]
  else elementwise machine .multiply [left, right]

def unarySeries (operator : String) (operand : R) : m R :=
  if operator = "ticks" then withNumber machine .divide bars.tickSize operand
  else if operator = "abs" then elementwise machine .absolute [operand]
  else if operator = "sign" then elementwise machine .sign [operand]
  else if operator = "neg" then elementwise machine .negative [operand]
  else if operator = "same_sign_run" then sameSignRun machine bars.shape operand
  else do
    let previous ← shiftBars machine operand 1
    let change ← elementwise machine .subtract [operand, previous]
    if operator = "change" then pure change else divide machine change previous

def vwap : m R := do
  let sum ← elementwise machine .add [bars.high, bars.low]
  let sum ← elementwise machine .add [sum, bars.close]
  let typical ← withNumber machine .divide (PyFloat.literal 3) sum
  let traded ← elementwise machine .multiply [typical, bars.volume]
  let turnover ← machine.call .cumsum [traded]
  let volume ← machine.call .cumsum [bars.volume]
  elementwise machine .divide [turnover, volume]

def sessionSeries (operator : String) : m R :=
  if operator = "vwap" then vwap machine bars
  else if operator = "session_open" then do
    let first ← machine.call (.row 0) [bars.open_]
    machine.call (.broadcastCopy bars.shape) [first]
  else do
    let numbers ← machine.call (.barNumbers bars.shape.bars) []
    machine.call (.broadcastCopy bars.shape) [numbers]

def rangeSeries (operator : String) (value : PyValue F) : m R := do
  let window ← machine.raised _ (match value with
    | .dict entries => .ok entries
    | _ => .error (.typeError "range"))
  let start ← machine.raised _ (do barPosition bars.bar (← nodeUnder "from" window))
  let last ← machine.raised _ (do barPosition bars.bar (← nodeUnder "to" window))
  let extreme ← if operator = "range_high" then machine.call (.rowsMax (start + 1) last) [bars.high]
    else machine.call (.rowsMin (start + 1) last) [bars.low]
  fromRow machine bars.shape extreme last

/-- `RuleEvaluator._operator`. -/
def operatorSeries (operator : String) (value : PyValue F) (entries : Entries F) :
    m R :=
  if operator = "param" then do
    let amount ← machine.raised _ (bars.amount interpreter (.dict entries))
    filled machine bars.shape amount
  else if operator ∈ binaryOperators then do
    let operands ← machine.raised _ (operandPair value)
    let left ← recurse operands.1
    let right ← recurse operands.2
    arithmetic machine operator left right
  else if operator ∈ unaryOperators then do
    let operand ← recurse value
    unarySeries machine bars operator operand
  else if operator = "prev" then do
    let operand ← recurse value
    let lag ← machine.raised _ (do bars.count interpreter (← nodeUnder "bars" entries))
    shiftBars machine operand lag
  else if operator ∈ rollingOperators then do
    let length ← machine.raised _ (do bars.count interpreter (← nodeUnder "length" entries))
    let operand ← recurse value
    let across ← machine.raised _ (acrossSessions entries)
    rolling machine operand operator length across
  else if operator = "atr" then atrSeries machine interpreter bars value
  else match indicators.lookup operator with
    | some spec => indicatorSeries machine interpreter bars recurse operator spec value entries
    | none =>
        if operator = "indicator" then librarySeries machine interpreter bars recurse entries
        else if operator ∈ sessionOperators then sessionSeries machine bars operator
        else if operator = "value_at" then do
          let operand ← recurse value
          let row ← machine.raised _ (do barPosition bars.bar (← nodeUnder "time" entries))
          let values ← machine.call (.row row) [operand]
          fromRow machine bars.shape values row
        else rangeSeries machine bars operator value

end Series

/-- `getattr(bars, name)`. -/
def fieldOf (name : String) : Except EvaluationError R :=
  orRaise (bars.fields.lookup name) (.attributeError name)

def operatorEntry (entries : Entries F) : Option (String × PyValue F) :=
  entries.find? fun entry => decide (entry.1 ∉ modifiers)

def series : Nat → PyValue F → m R
  | 0, _ => machine.raised _ (.error .recursionError)
  | depth + 1, node =>
      match node with
      | .str name => machine.raised _ (fieldOf bars name)
      | .dict entries =>
          match operatorEntry entries with
          | none => machine.raised _ (.error .stopIteration)
          | some (operator, value) =>
              cachedNode machine interpreter bars .series node
                (operatorSeries machine interpreter bars (series depth) operator value entries)
      | number => do
          let value ← machine.raised _ (interpreter.float number)
          filled machine bars.shape value

/-! ## Conditions -/

section Condition
variable (recurse : PyValue F → m R) (depth : Nat)

def comparisonFunction (operator : String) : NumpyFunction :=
  if operator = "gt" then .greater
  else if operator = "gte" then .greaterEqual
  else if operator = "lt" then .less
  else if operator = "lte" then .lessEqual
  else .equal

/-- One series past the other, on the other side of it a bar earlier. -/
def crossing (before now : NumpyFunction) (left right : R) : m R := do
  let leftBefore ← shiftBars machine left 1
  let rightBefore ← shiftBars machine right 1
  let was ← elementwise machine before [leftBefore, rightBefore]
  let is ← elementwise machine now [left, right]
  elementwise machine .logicalAnd [was, is]

def comparison (operator : String) (left right : R) : m R :=
  if operator = "crosses_above" then crossing machine .lessEqual .greater left right
  else if operator = "crosses_below" then crossing machine .greaterEqual .less left right
  else do
    let compared ← elementwise machine (comparisonFunction operator) [left, right]
    machine.call (.broadcastCopy bars.shape) [compared]

def conditionItems (value : PyValue F) : Except EvaluationError (List (PyValue F)) :=
  orRaise value.items? (.typeError "conditions")

def minuteCount (value : PyValue F) : Except EvaluationError Int :=
  orRaise value.int? (.valueError "minutes")

def clockCondition (operator : String) (value : PyValue F) : m R := do
  let mask ← machine.call (.full bars.shape (.bool false)) []
  if operator = "every_minutes" then
    let minutes ← machine.raised _ (minuteCount value)
    let grid ← machine.call (.onMinuteGrid bars.shape.bars bars.bar minutes) []
    machine.write mask (.fillWhere (.bool true)) [grid]
  else if operator = "time_is" then
    let row ← machine.raised _ (barPosition bars.bar value)
    machine.write mask (.fillRow row (.bool true)) []
  else
    let times ← machine.raised _ (operandPair value)
    let first ← machine.raised _ (barPosition bars.bar times.1)
    let last ← machine.raised _ (barPosition bars.bar times.2)
    machine.write mask (.fillRows first last (.bool true)) []

/-- `RuleEvaluator._condition`. -/
def operatorCondition (operator : String) (value : PyValue F) : m R :=
  if operator ∈ comparisonOperators ++ crossOperators then do
    let operands ← machine.raised _ (operandPair value)
    let left ← series machine interpreter bars depth operands.1
    let right ← series machine interpreter bars depth operands.2
    comparison machine bars operator left right
  else if operator = "all" then do
    let items ← machine.raised _ (conditionItems value)
    let masks ← each recurse items
    machine.call .logicalAndReduce masks
  else if operator = "any" then do
    let items ← machine.raised _ (conditionItems value)
    let masks ← each recurse items
    machine.call .logicalOrReduce masks
  else if operator = "not" then do
    let mask ← recurse value
    elementwise machine .logicalNot [mask]
  else clockCondition machine bars operator value

end Condition

/-- `next(iter(node.items()))`. -/
def firstEntry (node : PyValue F) : Except EvaluationError (String × PyValue F) :=
  match node with
  | .dict (entry :: _) => .ok entry
  | .dict [] => .error .stopIteration
  | _ => .error (.attributeError "items")

def condition : Nat → PyValue F → m R
  | 0, _ => machine.raised _ (.error .recursionError)
  | depth + 1, node => cachedNode machine interpreter bars .condition node (do
      let entry ← machine.raised _ (firstEntry node)
      operatorCondition machine interpreter bars (condition depth) depth entry.1 entry.2)

/-! ## Sides and distances -/

def side (depth : Nat) (node : PyValue F) : m R :=
  if node.text? = some "long" then filled machine bars.shape (PyFloat.literal 1)
  else if node.text? = some "short" then do
    let ones ← filled machine bars.shape (PyFloat.literal 1)
    elementwise machine .negative [ones]
  else do
    let entry ← machine.raised _ (firstEntry node)
    let values ← series machine interpreter bars depth entry.2
    let signs ← signsOf machine values
    if entry.1 = "sign_of" then pure signs else elementwise machine .negative [signs]

/-- `RuleEvaluator.level_fraction`: the distance of a level from the next bar's open. -/
def levelFraction (depth : Nat) (node : PyValue F) : m R := do
  let entryOpen ← machine.call (.full bars.shape .nan) []
  let entryOpen ← machine.write entryOpen .nextRows [bars.open_]
  let level ← series machine interpreter bars depth node
  let distance ← elementwise machine .subtract [entryOpen, level]
  divide machine distance entryOpen

def signalBarFraction (depth : Nat) (sides : R) : m R := do
  let long ← withNumber machine .greater (PyFloat.literal 0) sides
  let low ← levelFraction machine interpreter bars depth (.str "low")
  let short ← withNumber machine .less (PyFloat.literal 0) sides
  let high ← levelFraction machine interpreter bars depth (.str "high")
  let high ← elementwise machine .negative [high]
  let nowhere ← machine.call (.full bars.shape .nan) []
  let shortOrNone ← machine.call .chosen [short, high, nowhere]
  machine.call .chosen [long, low, shortOrNone]

/-- The distance of an `atr` stop, in points. -/
def atrDistance (value : PyValue F) : m R := do
  let entries ← machine.raised _ (match value with
    | .dict entries => .ok entries
    | _ => .error (.typeError "atr"))
  let multiple ← machine.raised _ (do bars.amount interpreter (← nodeUnder "multiple" entries))
  let length ← machine.raised _ (do bars.count interpreter (← nodeUnder "length" entries))
  let atr ← simpleAtr machine bars length
  withNumber machine .multiply multiple atr

def pointDistance (kind : String) (value : PyValue F) : m R :=
  if kind = "points" then do
    let amount ← machine.raised _ (bars.amount interpreter value)
    filled machine bars.shape amount
  else if kind = "ticks" then do
    let amount ← machine.raised _ (bars.amount interpreter value)
    filled machine bars.shape (interpreter.multiply amount bars.tickSize)
  else atrDistance machine interpreter bars value

/-- `RuleEvaluator._distance_fraction`. -/
def kindFraction (depth : Nat) (kind : String) (value : PyValue F) : m R :=
  if kind = "level" then do
    let fraction ← levelFraction machine interpreter bars depth value
    elementwise machine .absolute [fraction]
  else if kind = "r_multiple" then do
    let amount ← machine.raised _ (bars.amount interpreter value)
    filled machine bars.shape amount
  else if kind = "percent" then do
    let amount ← machine.raised _ (bars.amount interpreter value)
    filled machine bars.shape (interpreter.divide amount (PyFloat.literal 100))
  else do
    let distance ← pointDistance machine interpreter bars kind value
    divide machine distance bars.close

def distanceFraction (depth : Nat) (node : PyValue F) : m R :=
  cachedNode machine interpreter bars .distance node (do
    let entry ← machine.raised _ (firstEntry node)
    kindFraction machine interpreter bars depth entry.1 entry.2)

/-! ## Signals -/

/-- The sides decided so far, and the bars no signal has fired on. -/
def signalStep (depth : Nat) (state : R × R) (signal : PyValue F) : m (R × R) := do
  let sideNode ← machine.raised _ (orRaise (signal.get? "side") (.keyError "side"))
  let side ← side machine interpreter bars depth sideNode
  let whenNode ← machine.raised _ (orRaise (signal.get? "when") (.keyError "when"))
  let holds ← condition machine interpreter bars depth whenNode
  let pointed ← withNumber machine .notEqual (PyFloat.literal 0) side
  let fired ← elementwise machine .logicalAnd [holds, pointed]
  let take ← elementwise machine .logicalAnd [state.2, fired]
  let sides ← machine.write state.1 .copyWhere [take, side]
  let quiet ← elementwise machine .logicalNot [fired]
  let undecided ← machine.write state.2 (.elementwise .logicalAnd) [quiet]
  pure (sides, undecided)

def signalLoop (depth : Nat) : R × R → List (PyValue F) → m R
  | state, [] => pure state.1
  | state, signal :: rest => do
      let next ← signalStep machine interpreter bars depth state signal
      signalLoop depth next rest

/-- `bar_sides`: where the first signal that fires points. -/
def barSides (depth : Nat) (signals : List (PyValue F)) : m R := do
  let sides ← filled machine bars.shape (PyFloat.literal 0)
  let undecided ← machine.call (.full bars.shape (.bool true)) []
  signalLoop machine interpreter bars depth (sides, undecided) signals

/-- `evaluator.cached("sides", spec["signals"], ...)`. -/
def sidesOf (depth : Nat) (signals : List (PyValue F)) : m R :=
  cachedNode machine interpreter bars .sides (.list signals)
    (barSides machine interpreter bars depth signals)

end Machine

end QuantFactory.RuleStrategy
