import QuantFactory.Library.MemoStore
import QuantFactory.Persistence.Serialization
import QuantFactory.RuleLanguage.Syntax

/-!
# Arrays of the rule evaluator

The arrays are NumPy's and stay abstract, and so is what a library call computes
from the contents of its arguments.  A call returns a new array and leaves its
arguments as they are; the evaluator itself writes into some arrays it has made.
`ArrayMachine` is what the evaluator does to arrays: it is run by references into
a heap with a node cache, and, for comparison, by plain contents.
-/

set_option autoImplicit false

namespace QuantFactory.RuleStrategy

open QuantFactory.Library QuantFactory.Python QuantFactory.Persistence QuantFactory.RuleLanguage

inductive EvaluationError where
  | keyError (key : String)
  | valueError (message : String)
  | typeError (message : String)
  | attributeError (name : String)
  | overflowError
  | stopIteration
  | recursionError
  | library (message : String)
  | dangling
  deriving DecidableEq, Repr

/-- `(bars, sessions)`, the shape of every series. -/
structure Shape where
  bars : Nat
  sessions : Nat
  deriving DecidableEq, Repr

inductive Scalar (F : Type) where
  | nan
  | float (value : F)
  | int (value : Int)
  | bool (value : Bool)
  | text (value : String)

inductive NumpyFunction where
  | add | subtract | multiply | divide | fmax
  | absolute | sign | negative | isfinite | isinf
  | greater | greaterEqual | less | lessEqual | equal | notEqual
  | logicalAnd | logicalOr | logicalNot
  deriving DecidableEq, Repr

/-- The library calls of the evaluator, with their arguments that are no arrays. -/
inductive ArrayCall (F : Type) where
  /-- `np.full(shape, value)`, `np.zeros` and `np.ones`. -/
  | full (shape : Shape) (value : Scalar F)
  /-- `np.full(length, value)`. -/
  | fullFlat (length : Nat) (value : Scalar F)
  | elementwise (function : NumpyFunction)
  | withScalar (function : NumpyFunction) (value : Scalar F)
  /-- `np.where(mask, first, second)`. -/
  | chosen
  | logicalAndReduce
  | logicalOrReduce
  | cumsum
  /-- `pd.DataFrame(values, dtype=float).shift(bars)`. -/
  | shift (bars : Int)
  /-- `rolling` with one of the window functions. -/
  | rolling (operator : String) (length : Int) (acrossSessions : Bool)
  /-- `values[row]`. -/
  | row (row : Int)
  /-- `values[first : last + 1].max(axis=0)`. -/
  | rowsMax (first last : Int)
  | rowsMin (first last : Int)
  /-- `np.broadcast_to(values, shape).copy()`. -/
  | broadcastCopy (shape : Shape)
  /-- `np.arange(1.0, bars + 1.0)[:, None]`. -/
  | barNumbers (bars : Nat)
  /-- `pd.Series(values.reshape(-1, order="F"))`. -/
  | flatSeries
  /-- `flat.groupby((flat.ne(flat.shift()) | session_start).cumsum()).cumcount() + 1`. -/
  | runCounts
  | unflattened (shape : Shape)
  | frame (acrossSessions : Bool)
  | fromFrame
  | reshaped (shape : Shape) (acrossSessions : Bool)
  /-- `vbt.IF.get_indicator(name).run(**inputs, **params)`, and one of its outputs. -/
  | runLibrary (name : String) (inputs : List String) (params : List (String × Scalar F))
      (output : String)
  | rollingMax (length : Int)
  | rollingMin (length : Int)
  | onMinuteGrid (bars : Nat) (bar : Bar) (minutes : Int)
  /-- `skipped_sessions`, from the positions of the sessions. -/
  | skippedSessions (calendars : List String)
  /-- `values.sum()`. -/
  | total
  /-- `array[mask] = value`, on the array and the mask. -/
  | fillWhere (value : Scalar F)
  /-- `array[mask] = source[mask]`. -/
  | copyWhere
  /-- `array[positions[mask]] = value`. -/
  | fillAt (value : Scalar F)
  /-- `array[positions[mask]] = source[mask]`. -/
  | copyAt
  /-- `array[row] = value`. -/
  | fillRow (row : Int) (value : Scalar F)
  /-- `array[first : last + 1] = value`. -/
  | fillRows (first last : Int) (value : Scalar F)
  /-- `array[::step] = value`. -/
  | fillEvery (step : Nat) (value : Scalar F)
  /-- `array[row:] = value`. -/
  | fillFrom (row : Int) (value : Scalar F)
  /-- `array[row:] = values`. -/
  | rowsFrom (row : Int)
  /-- `array[:-1] = values[1:]`. -/
  | nextRows
  /-- `array[:] = value`. -/
  | fillAll (value : Scalar F)

/-- What the evaluator does to arrays of which it holds an `R`. -/
structure ArrayMachine (F : Type) (m : Type → Type) (R : Type) where
  call : ArrayCall F → List R → m R
  write : R → ArrayCall F → List R → m R
  cached : String → m R → m R
  raised : (α : Type) → Except EvaluationError α → m α

variable {F A : Type}

abbrev ArrayLibrary (F A : Type) := ArrayCall F → List A → Except EvaluationError A

abbrev ArrayRun (A : Type) := MemoStore.Run String A EvaluationError

def heapMachine (library : ArrayLibrary F A) (bound : MemoStore.Bound A) :
    ArrayMachine F (ArrayRun A) Nat where
  call function := MemoStore.allocate (library function) .dangling
  write target function := MemoStore.overwrite (library function) .dangling target
  cached key compute := MemoStore.memo bound (.keyError key) key compute
  raised _ outcome := MemoStore.fromExcept outcome

def valueMachine (library : ArrayLibrary F A) :
    ArrayMachine F (Except EvaluationError) A where
  call function := library function
  write contents function args := library function (contents :: args)
  cached _ compute := compute
  raised _ outcome := outcome

/-! ## Numbers -/

/-- The interpreter a strategy runs in: number parsing, float arithmetic, `json.dumps`, and the
indicator library where it is installed. -/
structure Interpreter (F : Type) where
  vbt : Option (VectorBT F)
  jsonDumps : PyValue F → String
  truncate : F → Except EvaluationError Int
  intOfText : String → Except EvaluationError Int
  floatOfText : String → Except EvaluationError F
  multiply : F → F → F
  divide : F → F → F

variable [PyFloat F] (interpreter : Interpreter F)

def Interpreter.int : PyValue F → Except EvaluationError Int
  | .int value => .ok value
  | .bool value => .ok (if value then 1 else 0)
  | .float value => interpreter.truncate value
  | .str text => interpreter.intOfText text
  | _ => .error (.typeError "int() argument must be a string, a bytes-like object or a real number")

def Interpreter.float : PyValue F → Except EvaluationError F
  | .int value => orRaise (PyFloat.ofInt value) .overflowError
  | .bool value => orRaise (PyFloat.ofInt (if value then 1 else 0)) .overflowError
  | .float value => .ok value
  | .str text => interpreter.floatOfText text
  | _ => .error (.typeError "float() argument must be a string or a real number")

def canonicalRuleSpecJson (value : PyValue F) : Except EvaluationError String :=
  match Persistence.normalize value with
  | .error _ => .error (.valueError "Out of range float values are not JSON compliant")
  | .ok normalized => .ok (interpreter.jsonDumps normalized)

end QuantFactory.RuleStrategy
