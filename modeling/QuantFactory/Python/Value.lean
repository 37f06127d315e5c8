import Mathlib.Data.List.Sort

/-!
# Python data

`PyValue F` is the plain data the repository reads and writes as JSON, over an
arbitrary type `F` of floats.  Only the operations on floats that the documents
need are named, and no law is assumed of them, so every result holds for the
machine's arithmetic.
-/

set_option autoImplicit false

namespace QuantFactory.Python

/-- The float operations the document code uses.  `ofInt` is `float(n)`, which
raises `OverflowError` (here `none`) on an integer that is too large. -/
class PyFloat (F : Type) where
  isFinite : F → Bool
  ofInt : Int → Option F
  literal : Nat → F
  eq : F → F → Bool
  lt : F → F → Bool

inductive PyValue (F : Type) where
  | none
  | bool (value : Bool)
  | int (value : Int)
  | float (value : F)
  | str (value : String)
  | list (items : List (PyValue F))
  | dict (entries : List (String × PyValue F))

abbrev Entries (F : Type) := List (String × PyValue F)

namespace PyValue

variable {F : Type}

/-- `entries.get(key)` on a `dict`. -/
def get? (key : String) : PyValue F → Option (PyValue F)
  | dict entries => entries.lookup key
  | _ => Option.none

def isDict : PyValue F → Bool
  | dict _ => true
  | _ => false

def isScalar : PyValue F → Bool
  | list _ => false
  | dict _ => false
  | _ => true

def isNone : PyValue F → Bool
  | none => true
  | _ => false

/-- The text of a `str`, when the value is one. -/
def text? : PyValue F → Option String
  | str value => some value
  | _ => Option.none

def int? : PyValue F → Option Int
  | int value => some value
  | _ => Option.none

def items? : PyValue F → Option (List (PyValue F))
  | list items => some items
  | _ => Option.none

/-- `d[key] = value`: an existing key keeps its place. -/
def setEntry (key : String) (value : PyValue F) :
    Entries F → Entries F
  | [] => [(key, value)]
  | (k, v) :: rest => if k = key then (key, value) :: rest else (k, v) :: setEntry key value rest

/-- `d.pop(key, None)`. -/
def dropEntry (key : String) (entries : Entries F) : Entries F :=
  entries.filter fun entry => decide (entry.1 ≠ key)

def children : PyValue F → List (PyValue F)
  | list items => items
  | dict entries => entries.map Prod.snd
  | _ => []

mutual

/-- The levels of a value; a value that holds no other has one. -/
def depth : PyValue F → Nat
  | list items => 1 + depthItems items
  | dict entries => 1 + depthEntries entries
  | _ => 1

def depthItems : List (PyValue F) → Nat
  | [] => 0
  | item :: rest => max item.depth (depthItems rest)

def depthEntries : List (String × PyValue F) → Nat
  | [] => 0
  | (_, value) :: rest => max value.depth (depthEntries rest)

end

mutual

def size : PyValue F → Nat
  | list items => 1 + sizeItems items
  | dict entries => 1 + sizeEntries entries
  | _ => 1

def sizeItems : List (PyValue F) → Nat
  | [] => 0
  | item :: rest => item.size + sizeItems rest

def sizeEntries : List (String × PyValue F) → Nat
  | [] => 0
  | (_, value) :: rest => value.size + sizeEntries rest

end

end PyValue

end QuantFactory.Python
