import QuantFactory.Python.Value

/-!
# Python equality

`==` on plain data: two mappings are equal whatever the order of their entries,
and numbers of different types are equal when their values are.
-/

set_option autoImplicit false

namespace QuantFactory.Python

class PyNumber (F : Type) extends PyFloat F where
  eqInt : F → Int → Bool

class LawfulPyNumber (F : Type) [PyNumber F] : Prop where
  finite_of_eq : ∀ x y : F, PyFloat.eq x y = true → PyFloat.isFinite y = true →
    PyFloat.isFinite x = true
  finite_of_eqInt : ∀ (x : F) (n : Int), PyNumber.eqInt x n = true → PyFloat.isFinite x = true

variable {F : Type}

/-- The integer a value counts as; `True` is one. -/
def PyValue.asInt? : PyValue F → Option Int
  | .int n => some n
  | .bool b => some (if b then 1 else 0)
  | _ => Option.none

variable [PyNumber F]

def eqNumber (a b : PyValue F) : Bool :=
  match a, b with
  | .float x, .float y => PyFloat.eq x y
  | .float x, other => other.asInt?.any (PyNumber.eqInt x)
  | other, .float y => other.asInt?.any (PyNumber.eqInt y)
  | a, b => match a.asInt?, b.asInt? with
      | some n, some m => n = m
      | _, _ => false

mutual

def pyEq : PyValue F → PyValue F → Bool
  | .none, b => b.isNone
  | .str text, b => b.text? = some text
  | .list items, b => match b with
      | .list others => pyEqItems items others
      | _ => false
  | .dict entries, b => match b with
      | .dict others => entries.length = others.length && pyEqEntries entries others
      | _ => false
  | .bool value, b => eqNumber (.bool value) b
  | .int value, b => eqNumber (.int value) b
  | .float value, b => eqNumber (.float value) b

def pyEqItems : List (PyValue F) → List (PyValue F) → Bool
  | [], others => others.isEmpty
  | item :: rest, others => match others with
      | other :: others => pyEq item other && pyEqItems rest others
      | [] => false

def pyEqEntries : List (String × PyValue F) → List (String × PyValue F) → Bool
  | [], _ => true
  | (key, value) :: rest, others =>
      (match others.lookup key with
        | some other => pyEq value other
        | none => false) && pyEqEntries rest others

end

end QuantFactory.Python
