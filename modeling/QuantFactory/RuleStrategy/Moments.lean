import Mathlib
import QuantFactory.RuleStrategy.ArrayAgreement

/-!
# A moment of two runs

Two histories of full sessions that agree on every session before one of them, and on
its bars before a row.  The calls that move values from bar to bar only move them
forward, so what they compute at a known bar is the same in both.
-/

set_option autoImplicit false

namespace QuantFactory.RuleStrategy

open QuantFactory.Library QuantFactory.Python QuantFactory.RuleLanguage

variable {F : Type}

/-- The number of sessions in each history, and how many sessions and how many bars of the
next one are known. -/
structure Moment where
  bars : Nat
  sessions : Nat
  others : Nat
  session : Nat
  row : Nat
  someBars : 0 < bars
  inBars : row ≤ bars
  inSessions : session ≤ sessions
  inOthers : session ≤ others
  here : row = 0 ∨ session < sessions ∧ session < others

namespace Moment
variable (moment : Moment)

/-- The bars of earlier sessions, and those of the session before the row. -/
def Known (r c : Nat) : Prop :=
  r < moment.bars ∧ (c < moment.session ∨ c = moment.session ∧ r < moment.row)

/-- The number of known bars, where the sessions stand one after the other. -/
def count : Nat := moment.session * moment.bars + moment.row

theorem count_le {sessions : Nat} (inside : moment.session ≤ sessions)
    (here : moment.row = 0 ∨ moment.session < sessions) :
    moment.count ≤ moment.bars * sessions := by
  have row := moment.inBars
  rw [count, Nat.mul_comm moment.bars]
  rcases here with none | before
  · rw [none]
    exact Nat.mul_le_mul_right _ inside
  · have next : (moment.session + 1) * moment.bars ≤ sessions * moment.bars :=
      Nat.mul_le_mul_right _ before
    rw [Nat.add_mul, Nat.one_mul] at next
    omega

theorem count_le_sessions : moment.count ≤ moment.bars * moment.sessions :=
  moment.count_le moment.inSessions (moment.here.imp_right And.left)

theorem count_le_others : moment.count ≤ moment.bars * moment.others :=
  moment.count_le moment.inOthers (moment.here.imp_right And.right)

def grid : Extent where
  rows := moment.bars
  columns := moment.sessions
  otherRows := moment.bars
  otherColumns := moment.others
  known := moment.Known
  inside := by
    rintro r c ⟨inRows, earlier⟩
    have inSessions := moment.inSessions
    have inOthers := moment.inOthers
    have here := moment.here
    exact ⟨inRows, by omega, inRows, by omega⟩

def flat : Extent where
  rows := moment.bars * moment.sessions
  columns := 1
  otherRows := moment.bars * moment.others
  otherColumns := 1
  known k c := k < moment.count ∧ c = 0
  inside := by
    rintro k c ⟨upTo, rfl⟩
    have inSessions := moment.count_le_sessions
    have inOthers := moment.count_le_others
    exact ⟨by omega, by omega, by omega, by omega⟩

def fromRow (row : Nat) : Extent where
  rows := 1
  columns := moment.sessions
  otherRows := 1
  otherColumns := moment.others
  known r c := r = 0 ∧ (c < moment.session ∨ c = moment.session ∧ row < moment.row)
  inside := by
    rintro r c ⟨rfl, earlier⟩
    have inSessions := moment.inSessions
    have inOthers := moment.inOthers
    have here := moment.here
    exact ⟨by omega, by omega, by omega, by omega⟩

def clock : Extent where
  rows := moment.bars
  columns := 1
  otherRows := moment.bars
  otherColumns := 1
  known r c := r < moment.bars ∧ c = 0
  inside := by
    rintro r c ⟨inRows, rfl⟩
    exact ⟨inRows, by omega, inRows, by omega⟩

def frame (across : Bool) : Extent := if across then moment.flat else moment.grid

theorem clock_covers : moment.clock.Covers moment.grid where
  rows := .inl rfl
  columns := .inr rfl
  otherRows := .inl rfl
  otherColumns := .inr rfl
  known := by
    rintro r c ⟨inRows, _⟩
    simp [clock, stretched_of_lt inRows, stretched_one, inRows]

theorem flat_known {k : Nat} (upTo : k < moment.count) :
    moment.Known (k % moment.bars) (k / moment.bars) := by
  have row := moment.inBars
  have positive := moment.someBars
  refine ⟨Nat.mod_lt _ positive, ?_⟩
  have split := Nat.div_add_mod k moment.bars
  have small := Nat.mod_lt k positive
  unfold count at upTo
  rcases Nat.lt_trichotomy (k / moment.bars) moment.session with before | same | after
  · exact .inl before
  · refine .inr ⟨same, ?_⟩
    rw [same, Nat.mul_comm] at split
    omega
  · exfalso
    have next : (moment.session + 1) * moment.bars ≤ k / moment.bars * moment.bars :=
      Nat.mul_le_mul_right _ after
    rw [Nat.add_mul, Nat.one_mul] at next
    rw [Nat.mul_comm] at split
    omega

theorem known_flat {r c : Nat} (known : moment.Known r c) :
    c * moment.bars + r < moment.count := by
  obtain ⟨inRows, before | ⟨rfl, upTo⟩⟩ := known
  · have next : (c + 1) * moment.bars ≤ moment.session * moment.bars :=
      Nat.mul_le_mul_right _ before
    rw [Nat.add_mul, Nat.one_mul] at next
    unfold count
    omega
  · unfold count
    omega

theorem Known.earlier {r c : Nat} (known : moment.Known r c) {source : Nat} (before : source ≤ r) :
    moment.Known source c := by
  obtain ⟨inRows, session | ⟨same, upTo⟩⟩ := known
  · exact ⟨by omega, .inl session⟩
  · exact ⟨by omega, .inr ⟨same, by omega⟩⟩

end Moment

section Calls
variable [PyFloat F] (numerics : Numerics F) (lib : Libraries F) {allowed : EvaluationError → Prop} {moment : Moment}
  {a b a' b' : NdArray F}

/-! ## Constants -/

theorem full_call {value : Scalar F} (isFloat : FloatScalar lib.numerics value) :
    Alike allowed moment.grid.Floats
      (lib.one (.full ⟨moment.bars, moment.sessions⟩ value) [])
      (lib.other (.full ⟨moment.bars, moment.others⟩ value) []) := by
  obtain ⟨x, constant⟩ := isFloat
  simp only [Libraries.one, Libraries.other, numpy, constant, Except.map]
  exact .returned ⟨_, _, rfl, rfl, fun _ _ _ => rfl⟩

theorem full_bools_call (value : Bool) :
    Alike allowed moment.grid.Bools
      (lib.one (.full ⟨moment.bars, moment.sessions⟩ (.bool value)) [])
      (lib.other (.full ⟨moment.bars, moment.others⟩ (.bool value)) []) :=
  .returned ⟨_, _, rfl, rfl, fun _ _ _ => rfl⟩

/-! ## Bars before -/

theorem cumsum_call (array : moment.grid.Floats a b) :
    Alike allowed moment.grid.Floats (lib.one .cumsum [a]) (lib.other .cumsum [b]) := by
  obtain ⟨f, g, rfl, rfl, same⟩ := array
  refine .returned ⟨_, _, rfl, rfl, fun r c known => ?_⟩
  induction r with
  | zero => exact same 0 c known
  | succ r ih =>
      simp only [cumulative, NdArray.asFloats] at ih ⊢
      rw [ih (known.earlier moment (Nat.le_succ r)), same (r + 1) c known]

theorem shift_call {bars : Int} (forward : 1 ≤ bars) (array : moment.grid.Floats a b) :
    Alike allowed moment.grid.Floats (lib.one (.shift bars) [a])
      (lib.other (.shift bars) [b]) := by
  obtain ⟨f, g, rfl, rfl, same⟩ := array
  have lagged : (lib.numerics.strict && decide (bars < 1)) = false := by
    rw [decide_eq_false (by omega), Bool.and_false]
  simp only [Libraries.one, Libraries.other, numpy, lagged, raiseIf, Bool.false_eq_true, if_false, bind_ok]
  refine .returned ⟨_, _, rfl, rfl, fun r c known => ?_⟩
  change shifted lib.numerics moment.bars bars f r c = shifted lib.numerics moment.bars bars g r c
  simp only [shifted]
  by_cases inside : 0 ≤ (r : Int) - bars ∧ (r : Int) - bars < moment.bars
  · have before : ((r : Int) - bars).toNat ≤ r := by omega
    rw [if_pos inside, if_pos inside, same _ c (known.earlier moment before)]
  · rw [if_neg inside, if_neg inside]

omit [PyFloat F] in
theorem byColumn_alike {α : Type} {f : List α → List F}
    (causal : ∀ r c, moment.Known r c → Causal f)
    {values others : Nat → Nat → α} (same : ∀ r c, moment.Known r c → values r c = others r c)
    {r c : Nat} (known : moment.Known r c) :
    byColumn numerics moment.bars f values r c = byColumn numerics moment.bars f others r c := by
  unfold byColumn columnOf
  rw [(causal r c known).getElem? (Nat.lt_succ_self r)]
  refine take_map_range rfl fun k before inside => ?_
  exact same k c (known.earlier moment (by omega))

omit [PyFloat F] in
theorem acrossColumns_alike {α : Type} {f : List α → List F}
    (causal : ∀ r c, moment.Known r c → Causal f)
    {values others : Nat → Nat → α} (same : ∀ r c, moment.Known r c → values r c = others r c)
    {r c : Nat} (known : moment.Known r c) :
    acrossColumns numerics moment.bars moment.sessions f values r c =
      acrossColumns numerics moment.bars moment.others f others r c := by
  have upTo := moment.known_flat known
  have inside := moment.count_le_sessions
  have inside' := moment.count_le_others
  unfold acrossColumns flatList
  rw [(causal r c known).getElem? (Nat.lt_succ_self (c * moment.bars + r))]
  refine take_map_range (by omega) fun k before _ => ?_
  have known := moment.flat_known (show k < moment.count by omega)
  exact same _ _ known

theorem rolling_call {operator : String} {length : Int} {f : List F → List F}
    (isWindow : lib.numerics.window operator length = .ok f)
    (causal : ∀ r c, moment.Known r c → Causal f) (across : Bool)
    (array : moment.grid.Floats a b) :
    Alike allowed moment.grid.Floats (lib.one (.rolling operator length across) [a])
      (lib.other (.rolling operator length across) [b]) := by
  obtain ⟨g, g', rfl, rfl, same⟩ := array
  simp only [Libraries.one, Libraries.other, numpy, rollingArray, isWindow, bind_ok]
  refine .returned ⟨_, _, rfl, rfl, fun r c known => ?_⟩
  cases across with
  | true => exact acrossColumns_alike lib.numerics causal same known
  | false => exact byColumn_alike lib.numerics causal same known

/-! ## Rows -/

omit [PyFloat F] in
theorem pythonIndex_inside (strict : Bool) {length : Nat} {i : Int} (lower : 0 ≤ i)
    (upper : i < length) : pythonIndex strict length i = some i.toNat := by
  have notNegative : ¬ i < 0 := by omega
  simp [pythonIndex, notNegative, lower, upper]

omit [PyFloat F] in
theorem sliceBound_inside (strict : Bool) (length : Nat) {i : Int} (lower : 0 ≤ i)
    (upper : i ≤ length) : sliceBound strict length i = .ok i.toNat := by
  have notNegative : ¬ i < 0 := by omega
  have notPast : ¬ (length : Int) < i := by omega
  have bound : min i.toNat length = i.toNat := Nat.min_eq_left (by omega)
  simp [sliceBound, raiseIf, notNegative, notPast, bound, bind, Except.bind]

theorem row_call {row : Int} (lower : 0 ≤ row) (upper : row < moment.bars)
    (array : moment.grid.Floats a b) :
    Alike allowed (moment.fromRow row.toNat).Floats (lib.one (.row row) [a])
      (lib.other (.row row) [b]) := by
  obtain ⟨f, g, rfl, rfl, same⟩ := array
  simp only [Libraries.one, Libraries.other, numpy, rowOf, Moment.grid, pythonIndex_inside _ lower upper]
  refine .returned ⟨_, _, rfl, rfl, ?_⟩
  rintro r c ⟨rfl, earlier⟩
  exact same row.toNat c ⟨by omega, earlier⟩

theorem rowsExtreme_alike (op : F → F → F) {first last : Int} (lower : 0 ≤ first)
    (ordered : first ≤ last) (upper : last < moment.bars) (array : moment.grid.Floats a b) :
    Alike allowed (moment.fromRow last.toNat).Floats (rowsExtreme numerics op first last a)
      (rowsExtreme numerics op first last b) := by
  obtain ⟨f, g, rfl, rfl, same⟩ := array
  have start := sliceBound_inside numerics.strict moment.bars lower
    (show first ≤ (moment.bars : Int) by omega)
  have stop := sliceBound_inside numerics.strict moment.bars (show 0 ≤ last + 1 by omega)
    (show last + 1 ≤ (moment.bars : Int) by omega)
  have some_rows : (last + 1).toNat - first.toNat = last.toNat - first.toNat + 1 := by omega
  simp only [rowsExtreme, Moment.grid, start, stop, bind_ok, some_rows, List.range'_succ]
  refine .returned ⟨_, _, rfl, rfl, ?_⟩
  rintro r c ⟨rfl, earlier⟩
  have known : ∀ k, k ≤ last.toNat → f k c = g k c := by
    intro k upTo
    refine same k c ⟨by omega, ?_⟩
    omega
  simp only [NdArray.asFloats]
  rw [known first.toNat (by omega)]
  refine List.foldl_ext _ _ _ fun extreme k member => ?_
  have inRange := List.mem_range'_1.mp member
  rw [known k (by omega)]

theorem rowsFrom_call {row : Int} (lower : 0 ≤ row) (upper : row ≤ moment.bars)
    (array : moment.grid.Floats a b) (values : (moment.fromRow row.toNat).Floats a' b') :
    Alike allowed moment.grid.Floats (lib.one (.rowsFrom row) [a, a'])
      (lib.other (.rowsFrom row) [b, b']) := by
  obtain ⟨f, g, rfl, rfl, same⟩ := array
  obtain ⟨f', g', rfl, rfl, same'⟩ := values
  simp only [Libraries.one, Libraries.other, numpy, assignRowsFrom, Moment.grid, Moment.fromRow, ne_eq, not_true_eq_false,
    decide_false, Bool.or_self, raiseIf, Bool.false_eq_true, if_false, bind_ok, NdArray.assign,
    Contents.assigned, Contents.moved, Except.map, sliceBound_inside _ _ lower upper]
  refine .returned ⟨_, _, rfl, rfl, ?_⟩
  rintro r c known
  by_cases from_ : row.toNat ≤ r
  · have isKnown : (moment.fromRow row.toNat).known 0 c := by
      obtain ⟨inRows, before | ⟨here, upTo⟩⟩ := known
      · exact ⟨rfl, .inl before⟩
      · exact ⟨rfl, .inr ⟨here, by omega⟩⟩
    simp [from_, same' 0 c isKnown]
  · simp [from_, same r c known]

/-! ## Broadcasts -/

theorem broadcast_session_call (array : (moment.fromRow 0).Floats a b) :
    Alike allowed moment.grid.Floats
      (lib.one (.broadcastCopy ⟨moment.bars, moment.sessions⟩) [a])
      (lib.other (.broadcastCopy ⟨moment.bars, moment.others⟩) [b]) := by
  obtain ⟨f, g, rfl, rfl, same⟩ := array
  simp only [Libraries.one, Libraries.other, numpy, broadcastTo, Moment.fromRow, one_broadcastAxis, broadcastAxis_self, ne_eq,
    not_true_eq_false, decide_false, Bool.or_self, raiseIf, Bool.false_eq_true, if_false, bind_ok,
    Contents.moved]
  refine .returned ⟨_, _, rfl, rfl, ?_⟩
  rintro r c known
  obtain ⟨_, inColumns, _, inColumns'⟩ := moment.grid.inside r c known
  change c < moment.sessions at inColumns
  change c < moment.others at inColumns'
  rw [stretched_one, stretched_of_lt inColumns, stretched_of_lt inColumns']
  refine same 0 c ⟨rfl, ?_⟩
  obtain ⟨_, before | ⟨here, upTo⟩⟩ := known
  · exact .inl before
  · exact .inr ⟨here, by omega⟩

theorem barNumbers_call :
    Alike allowed moment.clock.Floats (lib.one (.barNumbers moment.bars) [])
      (lib.other (.barNumbers moment.bars) []) :=
  .returned ⟨_, _, rfl, rfl, fun _ _ _ => rfl⟩

theorem broadcast_clock_call (array : moment.clock.Floats a b) :
    Alike allowed moment.grid.Floats
      (lib.one (.broadcastCopy ⟨moment.bars, moment.sessions⟩) [a])
      (lib.other (.broadcastCopy ⟨moment.bars, moment.others⟩) [b]) := by
  obtain ⟨f, g, rfl, rfl, same⟩ := array
  simp only [Libraries.one, Libraries.other, numpy, broadcastTo, Moment.clock, one_broadcastAxis, broadcastAxis_self, ne_eq,
    not_true_eq_false, decide_false, Bool.or_self, raiseIf, Bool.false_eq_true, if_false, bind_ok,
    Contents.moved]
  refine .returned ⟨_, _, rfl, rfl, ?_⟩
  rintro r c ⟨inRows, _⟩
  rw [stretched_one, stretched_of_lt inRows]
  exact same r 0 ⟨inRows, rfl⟩

theorem broadcast_mask_call (array : moment.grid.Bools a b) :
    Alike allowed moment.grid.Bools
      (lib.one (.broadcastCopy ⟨moment.bars, moment.sessions⟩) [a])
      (lib.other (.broadcastCopy ⟨moment.bars, moment.others⟩) [b]) := by
  obtain ⟨f, g, rfl, rfl, same⟩ := array
  simp only [Libraries.one, Libraries.other, numpy, broadcastTo, Moment.grid, broadcastAxis_self, ne_eq, not_true_eq_false,
    decide_false, Bool.or_self, raiseIf, Bool.false_eq_true, if_false, bind_ok, Contents.moved]
  refine .returned ⟨_, _, rfl, rfl, fun r c known => ?_⟩
  obtain ⟨inRows, inColumns, _, inColumns'⟩ := moment.grid.inside r c known
  change r < moment.bars at inRows
  change c < moment.sessions at inColumns
  change c < moment.others at inColumns'
  rw [stretched_of_lt inRows, stretched_of_lt inColumns, stretched_of_lt inColumns']
  exact same r c known

/-! ## Frames -/

theorem frame_call (across : Bool) (array : moment.grid.Floats a b) :
    Alike allowed (moment.frame across).Floats (lib.one (.frame across) [a])
      (lib.other (.frame across) [b]) := by
  cases across with
  | true =>
      obtain ⟨f, g, rfl, rfl, same⟩ := array
      refine .returned ⟨_, _, rfl, rfl, ?_⟩
      rintro k c ⟨upTo, rfl⟩
      exact same _ _ (moment.flat_known upTo)
  | false => exact .returned (mapFloats_alike id array)

theorem fromFrame_call {extent : Extent} (array : extent.Floats a b) :
    Alike allowed extent.Floats (lib.one .fromFrame [a]) (lib.other .fromFrame [b]) :=
  .returned (mapFloats_alike id array)

theorem unflattened_alike (array : moment.flat.Floats a b) :
    Alike allowed moment.grid.Floats (unflattened numerics ⟨moment.bars, moment.sessions⟩ a)
      (unflattened numerics ⟨moment.bars, moment.others⟩ b) := by
  obtain ⟨f, g, rfl, rfl, same⟩ := array
  simp only [unflattened, Moment.flat, ne_eq, not_true_eq_false, decide_false, raiseIf,
    Bool.false_eq_true, if_false, bind_ok]
  refine .returned ⟨_, _, rfl, rfl, fun r c known => ?_⟩
  exact same _ 0 ⟨moment.known_flat known, rfl⟩

omit [PyFloat F] in
theorem frame_byColumn_alike {α : Type} {f : List α → List F}
    (causal : ∀ r c, moment.Known r c → Causal f) (across : Bool)
    {values others : Nat → Nat → α}
    (same : ∀ r c, (moment.frame across).known r c → values r c = others r c) {r c : Nat}
    (known : (moment.frame across).known r c) :
    byColumn numerics (moment.frame across).rows f values r c =
      byColumn numerics (moment.frame across).otherRows f others r c := by
  cases across with
  | true =>
      obtain ⟨upTo, rfl⟩ := known
      have inside := moment.count_le_sessions
      have inside' := moment.count_le_others
      unfold byColumn columnOf
      rw [(causal _ _ (moment.flat_known upTo)).getElem? (Nat.lt_succ_self r)]
      refine take_map_range ?_ fun k before _ => same k 0 ⟨?_, rfl⟩
      · change min (r + 1) (moment.bars * moment.sessions) =
          min (r + 1) (moment.bars * moment.others)
        omega
      · omega
  | false => exact byColumn_alike numerics causal same known

theorem accessor_call {across : Bool} {f : List F → List F}
    (causal : ∀ r c, moment.Known r c → Causal f)
    (array : (moment.frame across).Floats a b) :
    Alike allowed (moment.frame across).Floats (accessorArray numerics (.ok f) a)
      (accessorArray numerics (.ok f) b) := by
  obtain ⟨g, g', rfl, rfl, same⟩ := array
  simp only [accessorArray, bind_ok]
  exact .returned ⟨_, _, rfl, rfl, fun r c known =>
    frame_byColumn_alike numerics causal across same known⟩

theorem inputRows_alike {extent : Extent} {arrays others : List (NdArray F)}
    (each : List.Forall₂ extent.Floats arrays others) {r c : Nat} (known : extent.known r c) :
    inputRows numerics arrays r c = inputRows numerics others r c := by
  induction each with
  | nil => rfl
  | cons first rest ih =>
      obtain ⟨f, g, rfl, rfl, same⟩ := first
      simp only [inputRows, List.map_cons, NdArray.asFloats] at ih ⊢
      rw [ih, same r c known]

omit [PyFloat F] in
theorem floats_shapes {extent : Extent} {arrays others : List (NdArray F)}
    (each : List.Forall₂ extent.Floats arrays others) :
    (∀ array ∈ arrays, array.rows = extent.rows ∧ array.columns = extent.columns) ∧
      ∀ array ∈ others, array.rows = extent.otherRows ∧ array.columns = extent.otherColumns := by
  induction each with
  | nil => simp
  | cons first rest ih =>
      obtain ⟨f, g, rfl, rfl, same⟩ := first
      exact ⟨List.forall_mem_cons.mpr ⟨⟨rfl, rfl⟩, ih.1⟩, List.forall_mem_cons.mpr ⟨⟨rfl, rfl⟩, ih.2⟩⟩

theorem indicator_alike {across : Bool} {f : List (List F) → List F}
    (causal : ∀ r c, moment.Known r c → Causal f)
    {arrays others : List (NdArray F)} (some : arrays ≠ [])
    (each : List.Forall₂ (moment.frame across).Floats arrays others) :
    Alike allowed (moment.frame across).Floats (indicatorArray numerics f arrays)
      (indicatorArray numerics f others) := by
  have rows := fun {r c} known => inputRows_alike numerics each (r := r) (c := c) known
  cases each with
  | nil => exact absurd rfl some
  | @cons first other rest others isFirst isRest =>
      obtain ⟨g, g', rfl, rfl, same⟩ := isFirst
      have fits : ∀ {R C : Nat} {arrays : List (NdArray F)},
          (∀ array ∈ arrays, array.rows = R ∧ array.columns = C) →
          arrays.any (fun array => array.rows ≠ R || array.columns ≠ C) = false := by
        intro R C arrays shaped
        rw [List.any_eq_false]
        intro array member
        simp [(shaped array member).1, (shaped array member).2]
      obtain ⟨left, right⟩ := floats_shapes isRest
      simp only [indicatorArray, fits left, fits right, raiseIf, Bool.false_eq_true, if_false,
        bind_ok]
      exact .returned ⟨_, _, rfl, rfl, fun r c known =>
        frame_byColumn_alike numerics causal across (fun _ _ isKnown => rows isKnown) known⟩

/-! ## Runs of one sign -/

theorem fullFlat_call (value : Bool) :
    Alike allowed moment.flat.Bools
      (lib.one (.fullFlat (moment.bars * moment.sessions) (.bool value)) [])
      (lib.other (.fullFlat (moment.bars * moment.others) (.bool value)) []) :=
  .returned ⟨_, _, rfl, rfl, fun _ _ _ => rfl⟩

theorem fillEvery_call (array : moment.flat.Bools a b) :
    Alike allowed moment.flat.Bools (lib.one (.fillEvery moment.bars (.bool true)) [a])
      (lib.other (.fillEvery moment.bars (.bool true)) [b]) := by
  obtain ⟨f, g, rfl, rfl, same⟩ := array
  have some_bars := moment.someBars.ne'
  simp only [Libraries.one, Libraries.other, numpy, some_bars, decide_false, raiseIf, Bool.false_eq_true, if_false, bind_ok,
    NdArray.fill, Scalar.constant, NdArray.assign, Contents.assigned, Except.map]
  refine .returned ⟨_, _, rfl, rfl, fun k c known => ?_⟩
  rw [same k c known]

theorem runCounts_call (values : moment.flat.Floats a b) (marks : moment.flat.Bools a' b') :
    Alike allowed moment.flat.Floats (lib.one .runCounts [a, a'])
      (lib.other .runCounts [b, b']) := by
  obtain ⟨f, g, rfl, rfl, same⟩ := values
  obtain ⟨f', g', rfl, rfl, same'⟩ := marks
  simp only [Libraries.one, Libraries.other, numpy, runCountArray, NdArray.bools?, ne_eq, not_true_eq_false, decide_false, raiseIf,
    Bool.false_eq_true, if_false, bind_ok]
  refine .returned ⟨_, _, rfl, rfl, ?_⟩
  rintro k c ⟨upTo, rfl⟩
  refine congrArg (fun n : Nat => floatOf lib.numerics n) ?_
  simp only [NdArray.asFloats]
  induction k with
  | zero => rfl
  | succ k ih =>
      have here : moment.flat.known (k + 1) 0 := ⟨upTo, rfl⟩
      have before : moment.flat.known k 0 := ⟨by omega, rfl⟩
      have starts : startsRun (fun k => f k 0) (fun k => f' k 0) (k + 1) =
          startsRun (fun k => g k 0) (fun k => g' k 0) (k + 1) := by
        simp only [startsRun, same _ _ here, same _ _ before, same' _ _ here]
      rw [runLength, runLength, starts, ih (by omega)]

theorem masked_call {extent : Extent} (values : extent.Floats a b) (mask : extent.Bools a' b') :
    Alike allowed extent.Floats (lib.one (.elementwise .multiply) [a, a'])
      (lib.other (.elementwise .multiply) [b, b']) := by
  obtain ⟨f, g, rfl, rfl, same⟩ := values
  obtain ⟨f', g', rfl, rfl, same'⟩ := mask
  simp only [Libraries.one, Libraries.other, numpy, binaryFunction, onFloats, broadcastShape, broadcastAxis_self, bind_ok]
  refine .returned ⟨_, _, rfl, rfl, fun r c known => ?_⟩
  obtain ⟨inRows, inColumns, inRows', inColumns'⟩ := extent.inside r c known
  simp only [pointwise, NdArray.asFloats, stretched_of_lt inRows, stretched_of_lt inColumns,
    stretched_of_lt inRows', stretched_of_lt inColumns', same r c known, same' r c known]

/-! ## Masks of the clock -/

variable (allowed) in
omit [PyFloat F] in
theorem fillBools_alike {extent : Extent} (value : Bool) {hit hit' : Nat → Nat → Bool}
    (sameHits : ∀ r c, extent.known r c → hit r c = hit' r c) (mask : extent.Bools a b) :
    Alike allowed extent.Bools (a.fill numerics hit (.bool value)) (b.fill numerics hit' (.bool value)) := by
  obtain ⟨f, g, rfl, rfl, same⟩ := mask
  simp only [NdArray.fill, Scalar.constant, bind_ok, NdArray.assign, Contents.assigned, Except.map]
  refine .returned ⟨_, _, rfl, rfl, fun r c known => ?_⟩
  rw [sameHits r c known, same r c known]

theorem minuteGrid_call {minutes : Int} (positive : 0 < minutes) (bar : Bar) :
    Alike allowed moment.clock.Bools (lib.one (.onMinuteGrid moment.bars bar minutes) [])
      (lib.other (.onMinuteGrid moment.bars bar minutes) []) := by
  simp only [Libraries.one, Libraries.other, numpy, minuteGrid, Int.not_le.mpr positive, decide_false, raiseIf, Bool.false_eq_true,
    if_false, bind_ok]
  exact .returned ⟨_, _, rfl, rfl, fun _ _ _ => rfl⟩

theorem fillWhere_clock_call (value : Bool) (array : moment.grid.Bools a b)
    (mask : moment.clock.Bools a' b') :
    Alike allowed moment.grid.Bools (lib.one (.fillWhere (.bool value)) [a, a'])
      (lib.other (.fillWhere (.bool value)) [b, b']) := by
  obtain ⟨f, g, rfl, rfl, same⟩ := array
  refine (maskHits_alike (by exact .inr ⟨rfl, rfl, rfl, rfl⟩) moment.clock_covers mask).andThen
    fun hit hit' sameHits => ?_
  exact fillBools_alike lib.numerics allowed value sameHits ⟨f, g, rfl, rfl, same⟩

theorem fillRow_call {extent : Extent} (sameRows : extent.rows = extent.otherRows) (value : Bool)
    {row : Int} (lower : 0 ≤ row) (upper : row < extent.rows) (array : extent.Bools a b) :
    Alike allowed extent.Bools (lib.one (.fillRow row (.bool value)) [a])
      (lib.other (.fillRow row (.bool value)) [b]) := by
  have upper' : row < extent.otherRows := sameRows ▸ upper
  have filled := fillBools_alike lib.numerics allowed value
    (fun r _ _ => Eq.refl (decide (r = row.toNat))) array
  obtain ⟨f, g, rfl, rfl, same⟩ := array
  simp only [Libraries.one, Libraries.other, numpy, assignRow, pythonIndex_inside _ lower upper, pythonIndex_inside _ lower upper']
  exact filled

theorem fillRows_call {extent : Extent} (sameRows : extent.rows = extent.otherRows) (value : Bool)
    {first last : Int} (lower : 0 ≤ first) (ordered : first ≤ last) (upper : last < extent.rows)
    (array : extent.Bools a b) :
    Alike allowed extent.Bools (lib.one (.fillRows first last (.bool value)) [a])
      (lib.other (.fillRows first last (.bool value)) [b]) := by
  have start := fun {length : Nat} (isRows : length = extent.rows) =>
    sliceBound_inside lib.numerics.strict length lower (by omega)
  have stop := fun {length : Nat} (isRows : length = extent.rows) =>
    sliceBound_inside lib.numerics.strict length
      (show 0 ≤ last + 1 by omega) (by omega)
  have filled := fillBools_alike lib.numerics allowed value
    (fun r _ _ => Eq.refl (decide (first.toNat ≤ r) && decide (r < (last + 1).toNat))) array
  obtain ⟨f, g, rfl, rfl, same⟩ := array
  simp only [Libraries.one, Libraries.other, numpy, start rfl, stop rfl, start sameRows.symm, stop sameRows.symm, bind_ok]
  exact filled

end Calls

end QuantFactory.RuleStrategy
