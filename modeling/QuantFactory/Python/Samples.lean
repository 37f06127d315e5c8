import QuantFactory.Python.Equality

/-!
# Sample values

A small type of floats and the JSON text of its values, for documents that are
evaluated in full.
-/

set_option autoImplicit false

namespace QuantFactory.Python

inductive WholeFloat where
  | nan | whole (value : Int)
  deriving DecidableEq

instance : PyFloat WholeFloat where
  isFinite value := value != .nan
  ofInt value := some (.whole value)
  literal value := .whole value
  eq a b := a == b && a != .nan
  lt
    | .whole a, .whole b => a < b
    | _, _ => false

instance : PyNumber WholeFloat where
  eqInt value n := value == .whole n

instance : LawfulPyNumber WholeFloat where
  finite_of_eq x y same finite := by
    have sameValue : x = y := by
      simp only [PyFloat.eq, Bool.and_eq_true, beq_iff_eq] at same
      exact same.1
    rw [sameValue]
    exact finite
  finite_of_eqInt x n same := by
    have isWhole : x = .whole n := by simpa [PyNumber.eqInt] using same
    rw [isWhole]
    rfl

mutual

/-- `json.dumps` with compact separators, on texts that need no escapes. -/
def jsonText : PyValue WholeFloat → String
  | .none => "null"
  | .bool value => if value then "true" else "false"
  | .int value => toString value
  | .float .nan => "NaN"
  | .float (.whole value) => toString value ++ ".0"
  | .str text => "\"" ++ text ++ "\""
  | .list items => "[" ++ ",".intercalate (jsonItems items) ++ "]"
  | .dict entries => "\x7b" ++ ",".intercalate (jsonEntries entries) ++ "\x7d"

def jsonItems : List (PyValue WholeFloat) → List String
  | [] => []
  | item :: rest => jsonText item :: jsonItems rest

def jsonEntries : List (String × PyValue WholeFloat) → List String
  | [] => []
  | (key, value) :: rest => ("\"" ++ key ++ "\":" ++ jsonText value) :: jsonEntries rest

end

end QuantFactory.Python
