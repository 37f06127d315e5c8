import Mathlib
import QuantFactory.RuleStrategy.Batch

/-!
# NumPy arrays

The array calls of the evaluator with their documented meaning, on arrays of two
axes.  An array of one axis has one row where it runs over the sessions and one
column where it runs over bars.  Float arithmetic, pandas' windows and the
indicators of VectorBT PRO are functions.
-/

set_option autoImplicit false

namespace QuantFactory.RuleStrategy

open QuantFactory.Library QuantFactory.Python QuantFactory.RuleLanguage

variable {F : Type}

inductive Contents (F : Type) where
  | floats (at_ : Nat → Nat → F)
  | ints (at_ : Nat → Nat → Int)
  | bools (at_ : Nat → Nat → Bool)

structure NdArray (F : Type) where
  rows : Nat
  columns : Nat
  contents : Contents F

/-- What is computed elsewhere: float arithmetic, `rolling` and `ewm` on a column, and the
indicators on the rows of their inputs. -/
structure Numerics (F : Type) where
  nan : F
  add : F → F → F
  subtract : F → F → F
  multiply : F → F → F
  divide : F → F → F
  fmax : F → F → F
  maximum : F → F → F
  minimum : F → F → F
  absolute : F → F
  sign : F → F
  negative : F → F
  isinf : F → Bool
  window : String → Int → Except EvaluationError (List F → List F)
  rollingMax : Int → Except EvaluationError (List F → List F)
  rollingMin : Int → Except EvaluationError (List F → List F)
  indicator : String → List String → List (String × Scalar F) → String →
    Except EvaluationError (List (List F) → List F)
  /-- An index or a bound outside its axis raises, and so does a lag below one bar.  NumPy and
  pandas are not strict. -/
  strict : Bool

def dtypeError {α : Type} : Except EvaluationError α :=
  .error (.library "the dtypes of the operands are not supported")

def shapeError {α : Type} : Except EvaluationError α :=
  .error (.library "operands could not be broadcast together")

def indexError {α : Type} : Except EvaluationError α :=
  .error (.library "index is out of bounds")

/-! ## Indices -/

/-- `array[i]` on an axis of some length: a negative index counts from the end. -/
def pythonIndex (strict : Bool) (length : Nat) (i : Int) : Option Nat :=
  let k := if i < 0 ∧ strict = false then i + length else i
  if 0 ≤ k ∧ k < length then some k.toNat else none

def sliceBound (strict : Bool) (length : Nat) (i : Int) : Except EvaluationError Nat := do
  raiseIf (strict && (i < 0 || (length : Int) < i)) (.library "slice is out of bounds")
  .ok (((if i < 0 then i + length else i).toNat).min length)

/-- The axis two operands have in common: an axis of length one is stretched. -/
def broadcastAxis (first second : Nat) : Option Nat :=
  if first = second then some first
  else if first = 1 then some second
  else if second = 1 then some first
  else none

def stretched (length i : Nat) : Nat := if length = 1 then 0 else i

/-! ## Elements -/

section Elements
variable [PyFloat F] (numerics : Numerics F)

def floatOf (n : Int) : F := (PyFloat.ofInt n).getD numerics.nan

def NdArray.asFloats (array : NdArray F) : Nat → Nat → F :=
  match array.contents with
  | .floats f => f
  | .ints f => fun r c => floatOf numerics (f r c)
  | .bools f => fun r c => floatOf numerics (if f r c then 1 else 0)

def NdArray.bools? (array : NdArray F) : Except EvaluationError (Nat → Nat → Bool) :=
  match array.contents with
  | .bools f => .ok f
  | _ => dtypeError

def NdArray.ints? (array : NdArray F) : Except EvaluationError (Nat → Nat → Int) :=
  match array.contents with
  | .ints f => .ok f
  | _ => dtypeError

def Scalar.constant : Scalar F → Except EvaluationError (Contents F)
  | .nan => .ok (.floats fun _ _ => numerics.nan)
  | .float value => .ok (.floats fun _ _ => value)
  | .int value => .ok (.ints fun _ _ => value)
  | .bool value => .ok (.bools fun _ _ => value)
  | .text _ => dtypeError

def broadcastShape (left right : NdArray F) : Except EvaluationError (Nat × Nat) :=
  match broadcastAxis left.rows right.rows, broadcastAxis left.columns right.columns with
  | some rows, some columns => .ok (rows, columns)
  | _, _ => shapeError

def pointwise {α β : Type} (left right : NdArray F) (f g : Nat → Nat → α) (op : α → α → β)
    (r c : Nat) : β :=
  op (f (stretched left.rows r) (stretched left.columns c))
    (g (stretched right.rows r) (stretched right.columns c))

def onFloats (op : F → F → F) (left right : NdArray F) : Except EvaluationError (NdArray F) := do
  let shape ← broadcastShape left right
  .ok ⟨shape.1, shape.2, .floats (pointwise left right (left.asFloats numerics)
    (right.asFloats numerics) op)⟩

def comparing (op : F → F → Bool) (left right : NdArray F) : Except EvaluationError (NdArray F) := do
  let shape ← broadcastShape left right
  .ok ⟨shape.1, shape.2, .bools (pointwise left right (left.asFloats numerics)
    (right.asFloats numerics) op)⟩

omit [PyFloat F] in
def onBools (op : Bool → Bool → Bool) (left right : NdArray F) :
    Except EvaluationError (NdArray F) := do
  let f ← left.bools?
  let g ← right.bools?
  let shape ← broadcastShape left right
  .ok ⟨shape.1, shape.2, .bools (pointwise left right f g op)⟩

def mapFloats (op : F → F) (array : NdArray F) : NdArray F :=
  { array with contents := .floats fun r c => op (array.asFloats numerics r c) }

def testFloats (op : F → Bool) (array : NdArray F) : NdArray F :=
  { array with contents := .bools fun r c => op (array.asFloats numerics r c) }

def binaryFunction : NumpyFunction → NdArray F → NdArray F → Except EvaluationError (NdArray F)
  | .add => onFloats numerics numerics.add
  | .subtract => onFloats numerics numerics.subtract
  | .multiply => onFloats numerics numerics.multiply
  | .divide => onFloats numerics numerics.divide
  | .fmax => onFloats numerics numerics.fmax
  | .greater => comparing numerics fun a b => PyFloat.lt b a
  | .greaterEqual => comparing numerics fun a b => PyFloat.lt b a || PyFloat.eq a b
  | .less => comparing numerics fun a b => PyFloat.lt a b
  | .lessEqual => comparing numerics fun a b => PyFloat.lt a b || PyFloat.eq a b
  | .equal => comparing numerics fun a b => PyFloat.eq a b
  | .notEqual => comparing numerics fun a b => !PyFloat.eq a b
  | .logicalAnd => onBools (· && ·)
  | .logicalOr => onBools (· || ·)
  | _ => fun _ _ => dtypeError

def unaryFunction (function : NumpyFunction) (array : NdArray F) :
    Except EvaluationError (NdArray F) :=
  match function with
  | .absolute => .ok (mapFloats numerics numerics.absolute array)
  | .sign => .ok (mapFloats numerics numerics.sign array)
  | .negative => .ok (mapFloats numerics numerics.negative array)
  | .isfinite => .ok (testFloats numerics PyFloat.isFinite array)
  | .isinf => .ok (testFloats numerics numerics.isinf array)
  | .logicalNot => do
      let f ← array.bools?
      .ok { array with contents := .bools fun r c => !f r c }
  | _ => dtypeError

/-- `np.logical_and.reduce` and `np.logical_or.reduce`, from what is reduced so far. -/
def reduceBools (op : Bool → Bool → Bool) :
    NdArray F → List (NdArray F) → Except EvaluationError (NdArray F)
  | reduced, [] => .ok reduced
  | reduced, mask :: rest => do
      let next ← onBools op reduced mask
      reduceBools op next rest

/-- `np.where(mask, first, second)`, on operands of one shape. -/
def whereArrays (mask first second : NdArray F) : Except EvaluationError (NdArray F) := do
  let chosen ← mask.bools?
  raiseIf (mask.rows ≠ first.rows || mask.columns ≠ first.columns || mask.rows ≠ second.rows ||
    mask.columns ≠ second.columns) (.library "operands could not be broadcast together")
  .ok ⟨mask.rows, mask.columns, .floats fun r c =>
    if chosen r c then first.asFloats numerics r c else second.asFloats numerics r c⟩

/-! ## Columns -/

/-- `np.cumsum(values, axis=0)`. -/
def cumulative (f : Nat → Nat → F) : Nat → Nat → F
  | 0, c => f 0 c
  | r + 1, c => numerics.add (cumulative f r c) (f (r + 1) c)

/-- `DataFrame.shift`. -/
def shifted (rows : Nat) (bars : Int) (f : Nat → Nat → F) (r c : Nat) : F :=
  let source := (r : Int) - bars
  if 0 ≤ source ∧ source < rows then f source.toNat c else numerics.nan

omit [PyFloat F] in
def columnOf {α : Type} (rows : Nat) (f : Nat → Nat → α) (c : Nat) : List α :=
  (List.range rows).map fun r => f r c

omit [PyFloat F] in
/-- `values.reshape(-1, order="F")`: the columns one after the other. -/
def flattened {α : Type} (rows : Nat) (f : Nat → Nat → α) (k : Nat) : α := f (k % rows) (k / rows)

omit [PyFloat F] in
def flatList {α : Type} (rows columns : Nat) (f : Nat → Nat → α) : List α :=
  (List.range (rows * columns)).map (flattened rows f)

def byColumn {α : Type} (rows : Nat) (f : List α → List F) (values : Nat → Nat → α) (r c : Nat) :
    F := (f (columnOf rows values c))[r]?.getD numerics.nan

def acrossColumns {α : Type} (rows columns : Nat) (f : List α → List F) (values : Nat → Nat → α)
    (r c : Nat) : F := (f (flatList rows columns values))[c * rows + r]?.getD numerics.nan

def flatArray (array : NdArray F) : NdArray F :=
  ⟨array.rows * array.columns, 1, .floats fun k _ =>
    flattened array.rows (array.asFloats numerics) k⟩

/-- `flat.reshape(shape, order="F")`. -/
def unflattened (shape : Shape) (flat : NdArray F) : Except EvaluationError (NdArray F) := do
  raiseIf (flat.rows ≠ shape.bars * shape.sessions) (.library "cannot reshape array")
  .ok ⟨shape.bars, shape.sessions, .floats fun r c =>
    flat.asFloats numerics (c * shape.bars + r) 0⟩

/-- Where a group starts: where the value differs from the one before, and at every mark. -/
def startsRun (values : Nat → F) (marks : Nat → Bool) : Nat → Bool
  | 0 => true
  | k + 1 => !PyFloat.eq (values (k + 1)) (values k) || marks (k + 1)

/-- `cumcount() + 1` in the groups. -/
def runLength (values : Nat → F) (marks : Nat → Bool) : Nat → Nat
  | 0 => 1
  | k + 1 => if startsRun values marks (k + 1) then 1 else runLength values marks k + 1

def rowsExtreme (op : F → F → F) (first last : Int) (array : NdArray F) :
    Except EvaluationError (NdArray F) := do
  let start ← sliceBound numerics.strict array.rows first
  let stop ← sliceBound numerics.strict array.rows (last + 1)
  match List.range' start (stop - start) with
  | [] => .error (.valueError "zero-size array to reduction operation which has no identity")
  | row :: rest => .ok ⟨1, array.columns, .floats fun _ c =>
      rest.foldl (fun extreme r => op extreme (array.asFloats numerics r c))
        (array.asFloats numerics row c)⟩

def inputRows (arrays : List (NdArray F)) (r c : Nat) : List F :=
  arrays.map fun array => array.asFloats numerics r c

def indicatorArray (f : List (List F) → List F) :
    List (NdArray F) → Except EvaluationError (NdArray F)
  | [] => .error (.library "no input")
  | first :: rest => do
      raiseIf (rest.any fun other => other.rows ≠ first.rows || other.columns ≠ first.columns)
        (.library "inputs must have the same shape")
      .ok ⟨first.rows, first.columns, .floats
        (byColumn numerics first.rows f (inputRows numerics (first :: rest)))⟩

/-! ## Assignments -/

omit [PyFloat F] in
def Contents.assigned (hit : Nat → Nat → Bool) :
    Contents F → Contents F → Except EvaluationError (Contents F)
  | .floats f, .floats g => .ok (.floats fun r c => if hit r c then g r c else f r c)
  | .ints f, .ints g => .ok (.ints fun r c => if hit r c then g r c else f r c)
  | .bools f, .bools g => .ok (.bools fun r c => if hit r c then g r c else f r c)
  | _, _ => dtypeError

omit [PyFloat F] in
def Contents.moved (place : Nat → Nat → Nat × Nat) : Contents F → Contents F
  | .floats f => .floats fun r c => f (place r c).1 (place r c).2
  | .ints f => .ints fun r c => f (place r c).1 (place r c).2
  | .bools f => .bools fun r c => f (place r c).1 (place r c).2

omit [PyFloat F] in
def NdArray.assign (array : NdArray F) (hit : Nat → Nat → Bool) (source : Contents F) :
    Except EvaluationError (NdArray F) :=
  (array.contents.assigned hit source).map fun contents => { array with contents := contents }

def NdArray.fill (array : NdArray F) (hit : Nat → Nat → Bool) (value : Scalar F) :
    Except EvaluationError (NdArray F) := do
  let source ← Scalar.constant numerics value
  array.assign hit source

omit [PyFloat F] in
/-- The places of a mask over an array: of its shape, or over its rows. -/
def maskHits (array mask : NdArray F) : Except EvaluationError (Nat → Nat → Bool) := do
  let hit ← mask.bools?
  raiseIf (mask.rows ≠ array.rows || (mask.columns ≠ array.columns && mask.columns ≠ 1))
    (.library "boolean index did not match indexed array")
  .ok fun r c => hit (stretched mask.rows r) (stretched mask.columns c)

def places (rows columns : Nat) : List (Nat × Nat) :=
  (List.range rows).flatMap fun r => (List.range columns).map fun c => (r, c)

def indexedPlaces (flat positions mask : NdArray F) :
    Except EvaluationError (List (Nat × (Nat × Nat))) := do
  let hit ← mask.bools?
  let position ← positions.ints?
  raiseIf (mask.rows ≠ positions.rows || mask.columns ≠ positions.columns)
    (.library "boolean index did not match indexed array")
  collect (fun place =>
    (orRaise (pythonIndex numerics.strict flat.rows (position place.1 place.2))
      (.library "index is out of bounds")).map fun k => (k, place))
    ((places mask.rows mask.columns).filter fun place => hit place.1 place.2)

omit [PyFloat F] in
/-- `array[positions[mask]] = source[mask]`: of several writes to one index the last stays. -/
def copyIndexed (flat source : NdArray F) (indexed : List (Nat × (Nat × Nat))) :
    Except EvaluationError (NdArray F) :=
  flat.assign (fun k _ => (indexed.reverse.lookup k).isSome)
    (source.contents.moved fun k _ => (indexed.reverse.lookup k).getD (0, 0))

/-! ## The calls -/

def rowOf (array : NdArray F) (row : Int) : Except EvaluationError (NdArray F) :=
  match pythonIndex numerics.strict array.rows row with
  | none => indexError
  | some k => .ok ⟨1, array.columns, array.contents.moved fun _ c => (k, c)⟩

omit [PyFloat F] in
def broadcastTo (shape : Shape) (array : NdArray F) : Except EvaluationError (NdArray F) := do
  raiseIf (broadcastAxis array.rows shape.bars ≠ some shape.bars ||
      broadcastAxis array.columns shape.sessions ≠ some shape.sessions)
    (.library "operands could not be broadcast together")
  .ok ⟨shape.bars, shape.sessions, array.contents.moved fun r c =>
    (stretched array.rows r, stretched array.columns c)⟩

def rollingArray (operator : String) (length : Int) (across : Bool) (array : NdArray F) :
    Except EvaluationError (NdArray F) := do
  let f ← numerics.window operator length
  .ok ⟨array.rows, array.columns, .floats (
    if across then acrossColumns numerics array.rows array.columns f (array.asFloats numerics)
    else byColumn numerics array.rows f (array.asFloats numerics))⟩

def accessorArray (f : Except EvaluationError (List F → List F)) (array : NdArray F) :
    Except EvaluationError (NdArray F) := do
  let f ← f
  .ok ⟨array.rows, array.columns,
    .floats (byColumn numerics array.rows f (array.asFloats numerics))⟩

omit [PyFloat F] in
/-- The bar ends on the grid of that many minutes; the grid is anchored at midnight. -/
def minuteGrid (bars : Nat) (bar : Bar) (minutes : Int) : Except EvaluationError (NdArray F) := do
  raiseIf (minutes ≤ 0) (.valueError "frequency must be positive")
  .ok ⟨bars, 1, .bools fun r _ =>
    ((bar.firstBarEndMinutes + r * bar.minutes : Nat) : Int) % minutes = 0⟩

/-- The days to skip: the New York date of the index's bar at a position is in one of the
calendars. -/
abbrev SkipDates := List String → Int → Bool

def skippedColumns (dates : SkipDates) (calendars : List String) (positions : NdArray F) :
    Except EvaluationError (NdArray F) := do
  let position ← positions.ints?
  raiseIf (positions.rows = 0) (.library "index is out of bounds")
  .ok ⟨1, positions.columns, .bools fun _ c => dates calendars (position 0 c)⟩

omit [PyFloat F] in
def totalOf (mask : NdArray F) : Except EvaluationError (NdArray F) := do
  let hit ← mask.bools?
  .ok ⟨1, 1, .ints fun _ _ => ((places mask.rows mask.columns).filter fun place => hit place.1 place.2).length⟩

def runCountArray (flat marks : NdArray F) : Except EvaluationError (NdArray F) := do
  let marked ← marks.bools?
  raiseIf (flat.rows ≠ marks.rows) (.library "operands could not be broadcast together")
  .ok ⟨flat.rows, 1, .floats fun k _ => floatOf numerics
    (runLength (fun k => flat.asFloats numerics k 0) (fun k => marked k 0) k)⟩

/-- `array[row:] = values`, of values that run over the columns. -/
def assignRowsFrom (row : Int) (array values : NdArray F) : Except EvaluationError (NdArray F) := do
  raiseIf (values.rows ≠ 1 || values.columns ≠ array.columns)
    (.library "operands could not be broadcast together")
  let start ← sliceBound numerics.strict array.rows row
  array.assign (fun r _ => start ≤ r)
    (values.contents.moved fun _ c => (0, c))

/-- `array[:-1] = values[1:]`. -/
def assignNextRows (array values : NdArray F) : Except EvaluationError (NdArray F) := do
  raiseIf (values.rows ≠ array.rows || values.columns ≠ array.columns)
    (.library "operands could not be broadcast together")
  array.assign (fun r _ => r + 1 < array.rows) (values.contents.moved fun r c => (r + 1, c))

def assignRow (row : Int) (value : Scalar F) (array : NdArray F) :
    Except EvaluationError (NdArray F) :=
  match pythonIndex numerics.strict array.rows row with
  | none => indexError
  | some k => array.fill numerics (fun r _ => r = k) value

def numpy (dates : SkipDates) : ArrayLibrary F (NdArray F)
  | .full shape value, [] => (Scalar.constant numerics value).map fun contents =>
      ⟨shape.bars, shape.sessions, contents⟩
  | .fullFlat length value, [] => (Scalar.constant numerics value).map fun contents =>
      ⟨length, 1, contents⟩
  | .elementwise function, [array] => unaryFunction numerics function array
  | .elementwise function, [left, right] => binaryFunction numerics function left right
  | .withScalar function value, [array] => do
      let contents ← Scalar.constant numerics value
      binaryFunction numerics function array ⟨1, 1, contents⟩
  | .chosen, [mask, first, second] => whereArrays numerics mask first second
  | .logicalAndReduce, [] => .ok ⟨1, 1, .bools fun _ _ => true⟩
  | .logicalAndReduce, first :: rest => reduceBools (· && ·) first rest
  | .logicalOrReduce, [] => .ok ⟨1, 1, .bools fun _ _ => false⟩
  | .logicalOrReduce, first :: rest => reduceBools (· || ·) first rest
  | .cumsum, [array] => .ok ⟨array.rows, array.columns,
      .floats (cumulative numerics (array.asFloats numerics))⟩
  | .shift bars, [array] => do
      raiseIf (numerics.strict && bars < 1) (.library "the lag is below one bar")
      .ok ⟨array.rows, array.columns,
        .floats (shifted numerics array.rows bars (array.asFloats numerics))⟩
  | .rolling operator length across, [array] => rollingArray numerics operator length across array
  | .row row, [array] => rowOf numerics array row
  | .rowsMax first last, [array] => rowsExtreme numerics numerics.maximum first last array
  | .rowsMin first last, [array] => rowsExtreme numerics numerics.minimum first last array
  | .broadcastCopy shape, [array] => broadcastTo shape array
  | .barNumbers bars, [] => .ok ⟨bars, 1, .floats fun r _ => floatOf numerics (r + 1)⟩
  | .flatSeries, [array] => .ok (flatArray numerics array)
  | .runCounts, [flat, marks] => runCountArray numerics flat marks
  | .unflattened shape, [flat] => unflattened numerics shape flat
  | .frame across, [array] => .ok (if across then flatArray numerics array
      else mapFloats numerics id array)
  | .fromFrame, [array] => .ok (mapFloats numerics id array)
  | .reshaped shape _, [array] => unflattened numerics shape array
  | .runLibrary name inputs params output, arrays => do
      let f ← numerics.indicator name inputs params output
      indicatorArray numerics f arrays
  | .rollingMax length, [array] => accessorArray numerics (numerics.rollingMax length) array
  | .rollingMin length, [array] => accessorArray numerics (numerics.rollingMin length) array
  | .onMinuteGrid bars bar minutes, [] => minuteGrid bars bar minutes
  | .skippedSessions calendars, [positions] => skippedColumns dates calendars positions
  | .total, [mask] => totalOf mask
  | .fillWhere value, [array, mask] => do
      let hit ← maskHits array mask
      array.fill numerics hit value
  | .copyWhere, [array, mask, source] => do
      let hit ← maskHits array mask
      raiseIf (source.rows ≠ array.rows || source.columns ≠ array.columns)
        (.library "boolean index did not match indexed array")
      array.assign hit source.contents
  | .fillAt value, [flat, positions, mask] => do
      let indexed ← indexedPlaces numerics flat positions mask
      flat.fill numerics (fun k _ => (indexed.lookup k).isSome) value
  | .copyAt, [flat, positions, mask, source] => do
      let indexed ← indexedPlaces numerics flat positions mask
      raiseIf (source.rows ≠ mask.rows || source.columns ≠ mask.columns)
        (.library "boolean index did not match indexed array")
      copyIndexed flat source indexed
  | .fillRow row value, [array] => assignRow numerics row value array
  | .fillRows first last value, [array] => do
      let start ← sliceBound numerics.strict array.rows first
      let stop ← sliceBound numerics.strict array.rows (last + 1)
      array.fill numerics (fun r _ => start ≤ r && r < stop) value
  | .fillEvery step value, [array] => do
      raiseIf (step = 0) (.valueError "slice step cannot be zero")
      array.fill numerics (fun r _ => r % step = 0) value
  | .fillFrom row value, [array] => do
      let start ← sliceBound numerics.strict array.rows row
      array.fill numerics (fun r _ => start ≤ r) value
  | .rowsFrom row, [array, values] => assignRowsFrom numerics row array values
  | .nextRows, [array, values] => assignNextRows array values
  | .fillAll value, [array] => array.fill numerics (fun _ _ => true) value
  | _, _ => .error (.library "wrong number of arguments")

end Elements

/-- The libraries of two runs: the same numerics, and the days to skip of each. -/
structure Libraries (F : Type) where
  numerics : Numerics F
  dates : SkipDates
  otherDates : SkipDates

namespace Libraries
variable [PyFloat F] (lib : Libraries F)

def one : ArrayLibrary F (NdArray F) := numpy lib.numerics lib.dates

def other : ArrayLibrary F (NdArray F) := numpy lib.numerics lib.otherDates

end Libraries

end QuantFactory.RuleStrategy
