import Mathlib
import QuantFactory.Library.TwoRuns
import QuantFactory.RuleStrategy.Numpy

/-!
# Arrays of two runs

What every array call keeps of the agreement of its arguments: the shapes of both
runs, and equal elements wherever the bars behind them are known.
-/

set_option autoImplicit false

namespace QuantFactory.RuleStrategy

open QuantFactory.Library QuantFactory.Python QuantFactory.RuleLanguage

variable {F : Type}

/-! ## Extents -/

/-- Where the arrays of two runs are compared: their shapes, and the places that are known. -/
structure Extent where
  rows : Nat
  columns : Nat
  otherRows : Nat
  otherColumns : Nat
  known : Nat → Nat → Prop
  inside : ∀ r c, known r c → r < rows ∧ c < columns ∧ r < otherRows ∧ c < otherColumns

namespace Extent
variable (extent : Extent)

def Floats (a b : NdArray F) : Prop :=
  ∃ f g, a = ⟨extent.rows, extent.columns, .floats f⟩ ∧
    b = ⟨extent.otherRows, extent.otherColumns, .floats g⟩ ∧ ∀ r c, extent.known r c → f r c = g r c

def Bools (a b : NdArray F) : Prop :=
  ∃ f g, a = ⟨extent.rows, extent.columns, .bools f⟩ ∧
    b = ⟨extent.otherRows, extent.otherColumns, .bools g⟩ ∧ ∀ r c, extent.known r c → f r c = g r c

end Extent

/-! ## Element by element -/

theorem broadcastAxis_self (n : Nat) : broadcastAxis n n = some n := if_pos rfl

theorem broadcastAxis_one (n : Nat) : broadcastAxis n 1 = some n := by
  by_cases one : n = 1 <;> simp [broadcastAxis, one]

theorem one_broadcastAxis (n : Nat) : broadcastAxis 1 n = some n := by
  by_cases one : 1 = n <;> simp [broadcastAxis, one]

theorem stretched_of_lt {n i : Nat} (inside : i < n) : stretched n i = i := by
  unfold stretched
  split_ifs with one
  · omega
  · rfl

theorem stretched_one (i : Nat) : stretched 1 i = 0 := if_pos rfl

section Pointwise
variable [PyFloat F] {numerics : Numerics F} {allowed : EvaluationError → Prop} {extent : Extent}
  {a b a' b' : NdArray F}

theorem onFloats_alike (op : F → F → F) (first : extent.Floats a b)
    (second : extent.Floats a' b') :
    Alike allowed extent.Floats (onFloats numerics op a a') (onFloats numerics op b b') := by
  obtain ⟨f, g, rfl, rfl, same⟩ := first
  obtain ⟨f', g', rfl, rfl, same'⟩ := second
  simp only [onFloats, broadcastShape, broadcastAxis_self, bind_ok]
  refine .returned ⟨_, _, rfl, rfl, fun r c isKnown => ?_⟩
  obtain ⟨inRows, inColumns, inRows', inColumns'⟩ := extent.inside r c isKnown
  simp only [pointwise, NdArray.asFloats, stretched_of_lt inRows, stretched_of_lt inColumns,
    stretched_of_lt inRows', stretched_of_lt inColumns', same r c isKnown, same' r c isKnown]

theorem comparing_alike (op : F → F → Bool) (first : extent.Floats a b)
    (second : extent.Floats a' b') :
    Alike allowed extent.Bools (comparing numerics op a a') (comparing numerics op b b') := by
  obtain ⟨f, g, rfl, rfl, same⟩ := first
  obtain ⟨f', g', rfl, rfl, same'⟩ := second
  simp only [comparing, broadcastShape, broadcastAxis_self, bind_ok]
  refine .returned ⟨_, _, rfl, rfl, fun r c isKnown => ?_⟩
  obtain ⟨inRows, inColumns, inRows', inColumns'⟩ := extent.inside r c isKnown
  simp only [pointwise, NdArray.asFloats, stretched_of_lt inRows, stretched_of_lt inColumns,
    stretched_of_lt inRows', stretched_of_lt inColumns', same r c isKnown, same' r c isKnown]

theorem onFloats_number_alike (op : F → F → F) (value : F) (first : extent.Floats a b) :
    Alike allowed extent.Floats (onFloats numerics op a ⟨1, 1, .floats fun _ _ => value⟩)
      (onFloats numerics op b ⟨1, 1, .floats fun _ _ => value⟩) := by
  obtain ⟨f, g, rfl, rfl, same⟩ := first
  simp only [onFloats, broadcastShape, broadcastAxis_one, bind_ok]
  refine .returned ⟨_, _, rfl, rfl, fun r c isKnown => ?_⟩
  obtain ⟨inRows, inColumns, inRows', inColumns'⟩ := extent.inside r c isKnown
  simp only [pointwise, NdArray.asFloats, stretched_of_lt inRows, stretched_of_lt inColumns,
    stretched_of_lt inRows', stretched_of_lt inColumns', same r c isKnown]

theorem comparing_number_alike (op : F → F → Bool) (value : F) (first : extent.Floats a b) :
    Alike allowed extent.Bools (comparing numerics op a ⟨1, 1, .floats fun _ _ => value⟩)
      (comparing numerics op b ⟨1, 1, .floats fun _ _ => value⟩) := by
  obtain ⟨f, g, rfl, rfl, same⟩ := first
  simp only [comparing, broadcastShape, broadcastAxis_one, bind_ok]
  refine .returned ⟨_, _, rfl, rfl, fun r c isKnown => ?_⟩
  obtain ⟨inRows, inColumns, inRows', inColumns'⟩ := extent.inside r c isKnown
  simp only [pointwise, NdArray.asFloats, stretched_of_lt inRows, stretched_of_lt inColumns,
    stretched_of_lt inRows', stretched_of_lt inColumns', same r c isKnown]

theorem mapFloats_alike (op : F → F) (array : extent.Floats a b) :
    extent.Floats (mapFloats numerics op a) (mapFloats numerics op b) := by
  obtain ⟨f, g, rfl, rfl, same⟩ := array
  exact ⟨_, _, rfl, rfl, fun r c isKnown => congrArg op (same r c isKnown)⟩

theorem testFloats_alike (op : F → Bool) (array : extent.Floats a b) :
    extent.Bools (testFloats numerics op a) (testFloats numerics op b) := by
  obtain ⟨f, g, rfl, rfl, same⟩ := array
  exact ⟨_, _, rfl, rfl, fun r c isKnown => congrArg op (same r c isKnown)⟩

def floatFunctions : List NumpyFunction := [.add, .subtract, .multiply, .divide, .fmax]

def comparisons : List NumpyFunction :=
  [.greater, .greaterEqual, .less, .lessEqual, .equal, .notEqual]

def floatMaps : List NumpyFunction := [.absolute, .sign, .negative]

def floatTests : List NumpyFunction := [.isfinite, .isinf]

variable (numerics) in
theorem binaryFunction_floats {function : NumpyFunction} (member : function ∈ floatFunctions) :
    ∃ op, binaryFunction numerics function = onFloats numerics op := by
  cases function <;> first | exact ⟨_, rfl⟩ | exact absurd member (by decide)

variable (numerics) in
theorem binaryFunction_compares {function : NumpyFunction} (member : function ∈ comparisons) :
    ∃ op, binaryFunction numerics function = comparing numerics op := by
  cases function <;> first | exact ⟨_, rfl⟩ | exact absurd member (by decide)

variable (lib : Libraries F)

theorem floats_call (function : NumpyFunction) (member : function ∈ floatFunctions)
    (first : extent.Floats a b) (second : extent.Floats a' b') :
    Alike allowed extent.Floats (lib.one (.elementwise function) [a, a'])
      (lib.other (.elementwise function) [b, b']) := by
  obtain ⟨op, isOp⟩ := binaryFunction_floats lib.numerics member
  simp only [Libraries.one, Libraries.other, numpy, isOp]
  exact onFloats_alike op first second

theorem comparison_call (function : NumpyFunction) (member : function ∈ comparisons)
    (first : extent.Floats a b) (second : extent.Floats a' b') :
    Alike allowed extent.Bools (lib.one (.elementwise function) [a, a'])
      (lib.other (.elementwise function) [b, b']) := by
  obtain ⟨op, isOp⟩ := binaryFunction_compares lib.numerics member
  simp only [Libraries.one, Libraries.other, numpy, isOp]
  exact comparing_alike op first second

theorem number_call (function : NumpyFunction) (member : function ∈ floatFunctions) (value : F)
    (first : extent.Floats a b) :
    Alike allowed extent.Floats (lib.one (.withScalar function (.float value)) [a])
      (lib.other (.withScalar function (.float value)) [b]) := by
  obtain ⟨op, isOp⟩ := binaryFunction_floats lib.numerics member
  simp only [Libraries.one, Libraries.other, numpy, isOp, Scalar.constant, bind_ok]
  exact onFloats_number_alike op value first

theorem numberTest_call (function : NumpyFunction) (member : function ∈ comparisons) (value : F)
    (first : extent.Floats a b) :
    Alike allowed extent.Bools (lib.one (.withScalar function (.float value)) [a])
      (lib.other (.withScalar function (.float value)) [b]) := by
  obtain ⟨op, isOp⟩ := binaryFunction_compares lib.numerics member
  simp only [Libraries.one, Libraries.other, numpy, isOp, Scalar.constant, bind_ok]
  exact comparing_number_alike op value first

theorem map_call (function : NumpyFunction) (member : function ∈ floatMaps)
    (array : extent.Floats a b) :
    Alike allowed extent.Floats (lib.one (.elementwise function) [a])
      (lib.other (.elementwise function) [b]) := by
  cases function <;> first
    | exact .returned (mapFloats_alike _ array)
    | exact absurd member (by decide)

theorem test_call (function : NumpyFunction) (member : function ∈ floatTests)
    (array : extent.Floats a b) :
    Alike allowed extent.Bools (lib.one (.elementwise function) [a])
      (lib.other (.elementwise function) [b]) := by
  cases function <;> first
    | exact .returned (testFloats_alike _ array)
    | exact absurd member (by decide)

theorem not_call (array : extent.Bools a b) :
    Alike allowed extent.Bools (lib.one (.elementwise .logicalNot) [a])
      (lib.other (.elementwise .logicalNot) [b]) := by
  obtain ⟨f, g, rfl, rfl, same⟩ := array
  refine .returned ⟨_, _, rfl, rfl, fun r c isKnown => ?_⟩
  rw [same r c isKnown]

end Pointwise

/-! ## Masks -/

namespace Extent

/-- An extent that is stretched over another where the two are broadcast. -/
structure Covers (small big : Extent) : Prop where
  rows : small.rows = big.rows ∨ small.rows = 1
  columns : small.columns = big.columns ∨ small.columns = 1
  otherRows : small.otherRows = big.otherRows ∨ small.otherRows = 1
  otherColumns : small.otherColumns = big.otherColumns ∨ small.otherColumns = 1
  known : ∀ r c, big.known r c →
    small.known (stretched small.rows r) (stretched small.columns c) ∧
      stretched small.otherRows r = stretched small.rows r ∧
      stretched small.otherColumns c = stretched small.columns c

theorem Covers.refl (extent : Extent) : extent.Covers extent where
  rows := .inl rfl
  columns := .inl rfl
  otherRows := .inl rfl
  otherColumns := .inl rfl
  known := by
    intro r c isKnown
    obtain ⟨inRows, inColumns, inRows', inColumns'⟩ := extent.inside r c isKnown
    simp only [stretched_of_lt inRows, stretched_of_lt inColumns, stretched_of_lt inRows',
      stretched_of_lt inColumns', and_self, and_true]
    exact isKnown

end Extent

theorem broadcastAxis_covered {big small : Nat} (covered : small = big ∨ small = 1) :
    broadcastAxis big small = some big := by
  rcases covered with rfl | rfl
  · exact broadcastAxis_self small
  · exact broadcastAxis_one big

theorem broadcastAxis_covering {big small : Nat} (covered : small = big ∨ small = 1) :
    broadcastAxis small big = some big := by
  rcases covered with rfl | rfl
  · exact broadcastAxis_self small
  · exact one_broadcastAxis big

section Masks
variable {numerics : Numerics F} {lib : Libraries F} {allowed : EvaluationError → Prop} {extent small : Extent}
  {a b a' b' : NdArray F}

theorem onBools_left_alike (op : Bool → Bool → Bool) (covers : small.Covers extent)
    (first : small.Bools a b) (second : extent.Bools a' b') :
    Alike allowed extent.Bools (onBools op a a') (onBools op b b') := by
  obtain ⟨f, g, rfl, rfl, same⟩ := first
  obtain ⟨f', g', rfl, rfl, same'⟩ := second
  simp only [onBools, NdArray.bools?, broadcastShape, broadcastAxis_covering covers.rows,
    broadcastAxis_covering covers.columns, broadcastAxis_covering covers.otherRows,
    broadcastAxis_covering covers.otherColumns, bind_ok]
  refine .returned ⟨_, _, rfl, rfl, fun r c isKnown => ?_⟩
  obtain ⟨inRows, inColumns, inRows', inColumns'⟩ := extent.inside r c isKnown
  obtain ⟨isKnown', sameRow, sameColumn⟩ := covers.known r c isKnown
  simp only [pointwise, sameRow, sameColumn, same _ _ isKnown', stretched_of_lt inRows,
    stretched_of_lt inColumns, stretched_of_lt inRows', stretched_of_lt inColumns',
    same' r c isKnown]

theorem reduceBools_alike (op : Bool → Bool → Bool) {masks others : List (NdArray F)}
    (each : List.Forall₂ extent.Bools masks others) (reduced : extent.Bools a b) :
    Alike allowed extent.Bools (reduceBools op a masks) (reduceBools op b others) := by
  induction each generalizing a b with
  | nil => exact .returned reduced
  | cons first rest ih =>
      exact (onBools_left_alike op (.refl extent) reduced first).andThen fun _ _ next => ih next

variable [PyFloat F]

variable (lib) in
theorem logical_call (function : NumpyFunction) (member : function ∈ [.logicalAnd, .logicalOr])
    (covers : small.Covers extent) (first : small.Bools a b) (second : extent.Bools a' b') :
    Alike allowed extent.Bools (lib.one (.elementwise function) [a, a'])
      (lib.other (.elementwise function) [b, b']) := by
  cases function <;> first
    | exact onBools_left_alike _ covers first second
    | exact absurd member (by decide)

omit [PyFloat F] in
theorem maskHits_alike (rowMask : small = extent ∨ small.rows = extent.rows ∧ small.columns = 1 ∧
      small.otherRows = extent.otherRows ∧ small.otherColumns = 1) (covers : small.Covers extent)
    {contents contents' : Contents F} (mask : small.Bools a b) :
    Alike allowed (fun f g => ∀ r c, extent.known r c → f r c = g r c)
      (maskHits ⟨extent.rows, extent.columns, contents⟩ a)
      (maskHits ⟨extent.otherRows, extent.otherColumns, contents'⟩ b) := by
  obtain ⟨f, g, rfl, rfl, same⟩ := mask
  have shaped : small.rows = extent.rows ∧ (small.columns = extent.columns ∨ small.columns = 1) ∧
      small.otherRows = extent.otherRows ∧
        (small.otherColumns = extent.otherColumns ∨ small.otherColumns = 1) := by
    rcases rowMask with rfl | ⟨rows, columns, otherRows, otherColumns⟩
    · exact ⟨rfl, .inl rfl, rfl, .inl rfl⟩
    · exact ⟨rows, .inr columns, otherRows, .inr otherColumns⟩
  obtain ⟨rows, columns, otherRows, otherColumns⟩ := shaped
  have fits : (decide (small.rows ≠ extent.rows) ||
      (decide (small.columns ≠ extent.columns) && decide (small.columns ≠ 1))) = false := by
    simp only [rows, ne_eq, not_true_eq_false, decide_false, Bool.false_or]
    rcases columns with same | one
    · simp [same]
    · simp [one]
  have fits' : (decide (small.otherRows ≠ extent.otherRows) ||
      (decide (small.otherColumns ≠ extent.otherColumns) &&
        decide (small.otherColumns ≠ 1))) = false := by
    simp only [otherRows, ne_eq, not_true_eq_false, decide_false, Bool.false_or]
    rcases otherColumns with same | one
    · simp [same]
    · simp [one]
  simp only [maskHits, NdArray.bools?, bind_ok, fits, fits', raiseIf, Bool.false_eq_true, if_false]
  refine .returned fun r c isKnown => ?_
  obtain ⟨isKnown', sameRow, sameColumn⟩ := covers.known r c isKnown
  rw [sameRow, sameColumn, same _ _ isKnown']

def FloatScalar (numerics : Numerics F) (value : Scalar F) : Prop :=
  ∃ x, Scalar.constant numerics value = .ok (.floats fun _ _ => x)

omit [PyFloat F] in
theorem floatScalar_nan : FloatScalar numerics .nan := ⟨_, rfl⟩

omit [PyFloat F] in
theorem floatScalar_float (x : F) : FloatScalar numerics (.float x) := ⟨_, rfl⟩

variable (lib) in
theorem fillWhere_call {value : Scalar F} (isFloat : FloatScalar lib.numerics value)
    (array : extent.Floats a b) (mask : extent.Bools a' b') :
    Alike allowed extent.Floats (lib.one (.fillWhere value) [a, a'])
      (lib.other (.fillWhere value) [b, b']) := by
  obtain ⟨x, constant⟩ := isFloat
  obtain ⟨f, g, rfl, rfl, same⟩ := array
  refine (maskHits_alike (.inl rfl) (.refl extent) mask).andThen fun hit hit' sameHits => ?_
  simp only [NdArray.fill, constant, bind_ok, NdArray.assign, Contents.assigned, Except.map]
  refine .returned ⟨_, _, rfl, rfl, fun r c isKnown => ?_⟩
  rw [sameHits r c isKnown, same r c isKnown]

variable (lib) in
theorem copyWhere_call {source source' : NdArray F} (array : extent.Floats a b)
    (mask : extent.Bools a' b') (from_ : extent.Floats source source') :
    Alike allowed extent.Floats (lib.one .copyWhere [a, a', source])
      (lib.other .copyWhere [b, b', source']) := by
  obtain ⟨f, g, rfl, rfl, same⟩ := array
  obtain ⟨f', g', rfl, rfl, same'⟩ := from_
  refine (maskHits_alike (.inl rfl) (.refl extent) mask).andThen fun hit hit' sameHits => ?_
  simp only [ne_eq, not_true_eq_false, decide_false, Bool.or_self, raiseIf, Bool.false_eq_true,
    if_false, bind_ok, NdArray.assign, Contents.assigned, Except.map]
  refine .returned ⟨_, _, rfl, rfl, fun r c isKnown => ?_⟩
  rw [sameHits r c isKnown, same r c isKnown, same' r c isKnown]

variable (lib) in
theorem chosen_call {mask mask' : NdArray F} (isMask : extent.Bools mask mask')
    (first : extent.Floats a b) (second : extent.Floats a' b') :
    Alike allowed extent.Floats (lib.one .chosen [mask, a, a'])
      (lib.other .chosen [mask', b, b']) := by
  obtain ⟨hit, hit', rfl, rfl, sameHits⟩ := isMask
  obtain ⟨f, g, rfl, rfl, same⟩ := first
  obtain ⟨f', g', rfl, rfl, same'⟩ := second
  simp only [Libraries.one, Libraries.other, numpy, whereArrays, NdArray.bools?, bind_ok, ne_eq, not_true_eq_false, decide_false,
    Bool.or_self, raiseIf, Bool.false_eq_true, if_false]
  refine .returned ⟨_, _, rfl, rfl, fun r c isKnown => ?_⟩
  simp only [NdArray.asFloats, sameHits r c isKnown, same r c isKnown, same' r c isKnown]

end Masks

end QuantFactory.RuleStrategy
