import Mathlib
import QuantFactory.RuleStrategy.CausalFunctions

/-!
# Writes onto the bar index

Sessions stand at distinct positions of the continuous index.  What is written there
under a mask is at each position the value of the one bar that stands at it.
-/

set_option autoImplicit false

namespace QuantFactory.RuleStrategy

open QuantFactory.Library QuantFactory.Python QuantFactory.RuleLanguage

variable {F : Type}

/-- The bars of each session at positions of an index of some length, no two at one. -/
structure Placed (bars sessions length : Nat) (position : Nat → Nat → Int) : Prop where
  inside : ∀ r c, r < bars → c < sessions → 0 ≤ position r c ∧ position r c < length
  distinct : ∀ r c r' c', r < bars → c < sessions → r' < bars → c' < sessions →
    position r c = position r' c' → r = r' ∧ c = c'

theorem mem_places {rows columns r c : Nat} : (r, c) ∈ places rows columns ↔ r < rows ∧ c < columns := by
  simp [places]

theorem places_nodup (rows columns : Nat) : (places rows columns).Nodup := by
  unfold places
  rw [List.nodup_flatMap]
  refine ⟨fun r _ => List.nodup_range.map fun c c' same => (Prod.mk.inj same).2, ?_⟩
  refine List.nodup_range.imp fun {r r'} differ => ?_
  rw [Function.onFun, List.disjoint_left]
  intro place inFirst inSecond
  obtain ⟨c, _, rfl⟩ := List.mem_map.mp inFirst
  obtain ⟨c', _, same⟩ := List.mem_map.mp inSecond
  exact differ (Prod.mk.inj same).1.symm

def placed (bars sessions : Nat) (position : Nat → Nat → Int) (hit : Nat → Nat → Bool) :
    List (Nat × (Nat × Nat)) :=
  ((places bars sessions).filter fun place => hit place.1 place.2).map fun place =>
    ((position place.1 place.2).toNat, place)

def flagsOf (bars sessions : Nat) (position : Nat → Nat → Int) (hit : Nat → Nat → Bool) (k : Nat) :
    Bool := ((placed bars sessions position hit).lookup k).isSome

/-- The values of the bars a mask holds on, and NaN elsewhere. -/
def levelsOf (numerics : Numerics F) (bars sessions : Nat) (position : Nat → Nat → Int)
    (hit : Nat → Nat → Bool) (values : Nat → Nat → F) (k : Nat) : F :=
  (((placed bars sessions position hit).lookup k).map fun place =>
    values place.1 place.2).getD numerics.nan

section Writes
variable {numerics : Numerics F} {bars sessions length : Nat} {position : Nat → Nat → Int}
  {hit : Nat → Nat → Bool}

theorem placed_keys_nodup (placedBars : Placed bars sessions length position) :
    ((placed bars sessions position hit).map Prod.fst).Nodup := by
  unfold placed
  rw [List.map_map]
  refine ((places_nodup _ _).filter _).map_on fun place inPlaces other inOthers same => ?_
  obtain ⟨inRows, inColumns⟩ := mem_places.mp (List.mem_filter.mp inPlaces).1
  obtain ⟨inRows', inColumns'⟩ := mem_places.mp (List.mem_filter.mp inOthers).1
  have inside := placedBars.inside _ _ inRows inColumns
  have inside' := placedBars.inside _ _ inRows' inColumns'
  change (position place.1 place.2).toNat = (position other.1 other.2).toNat at same
  obtain ⟨sameRow, sameColumn⟩ := placedBars.distinct _ _ _ _ inRows inColumns inRows' inColumns'
    (by omega)
  exact Prod.ext sameRow sameColumn

theorem lookup_placed (placedBars : Placed bars sessions length position) {k : Nat}
    {place : Nat × Nat} : (placed bars sessions position hit).lookup k = some place ↔
      place.1 < bars ∧ place.2 < sessions ∧ hit place.1 place.2 = true ∧
        position place.1 place.2 = k := by
  rw [lookup_eq_some_iff_mem (placed_keys_nodup placedBars)]
  unfold placed
  rw [List.mem_map]
  constructor
  · rintro ⟨other, inFilter, same⟩
    obtain ⟨isKey, rfl⟩ := Prod.mk.inj same
    obtain ⟨inPlaces, isHit⟩ := List.mem_filter.mp inFilter
    obtain ⟨inRows, inColumns⟩ := mem_places.mp inPlaces
    have inside := placedBars.inside _ _ inRows inColumns
    exact ⟨inRows, inColumns, isHit, by omega⟩
  · rintro ⟨inRows, inColumns, isHit, isKey⟩
    exact ⟨place, List.mem_filter.mpr ⟨mem_places.mpr ⟨inRows, inColumns⟩, isHit⟩,
      by rw [isKey, Int.toNat_natCast]⟩

/-- No position is written to twice, so the order of the writes does not matter. -/
theorem lookup_placed_reverse (placedBars : Placed bars sessions length position) (k : Nat) :
    (placed bars sessions position hit).reverse.lookup k =
      (placed bars sessions position hit).lookup k := by
  have keys : ((placed bars sessions position hit).map Prod.fst).Nodup :=
    placed_keys_nodup placedBars
  have reversed : ((placed bars sessions position hit).reverse.map Prod.fst).Nodup := by
    rw [List.map_reverse]
    exact List.nodup_reverse.mpr keys
  refine Option.ext fun place => ?_
  rw [lookup_eq_some_iff_mem reversed, lookup_eq_some_iff_mem keys, List.mem_reverse]

theorem placed_congr {other : Nat → Nat → Bool}
    (same : ∀ r c, r < bars → c < sessions → hit r c = other r c) :
    placed bars sessions position hit = placed bars sessions position other := by
  unfold placed
  refine congrArg (List.map _) (List.filter_congr fun place member => ?_)
  obtain ⟨inRows, inColumns⟩ := mem_places.mp member
  exact same _ _ inRows inColumns

theorem flagsOf_eq_true (placedBars : Placed bars sessions length position) {k : Nat} :
    flagsOf bars sessions position hit k = true ↔
      ∃ r c, r < bars ∧ c < sessions ∧ hit r c = true ∧ position r c = k := by
  rw [flagsOf, Option.isSome_iff_exists]
  constructor
  · rintro ⟨place, found⟩
    exact ⟨place.1, place.2, (lookup_placed placedBars).mp found⟩
  · rintro ⟨r, c, isPlace⟩
    exact ⟨(r, c), (lookup_placed placedBars).mpr isPlace⟩

theorem levelsOf_placed (placedBars : Placed bars sessions length position)
    {values : Nat → Nat → F} {r c : Nat} (inRows : r < bars) (inColumns : c < sessions)
    (isHit : hit r c = true) {k : Nat} (isPosition : position r c = k) :
    levelsOf numerics bars sessions position hit values k = values r c := by
  have found : (placed bars sessions position hit).lookup k = some (r, c) :=
    (lookup_placed placedBars).mpr ⟨inRows, inColumns, isHit, isPosition⟩
  rw [levelsOf, found]
  rfl

theorem levelsOf_absent {values : Nat → Nat → F} {k : Nat}
    (none : flagsOf bars sessions position hit k = false) :
    levelsOf numerics bars sessions position hit values k = numerics.nan := by
  rw [flagsOf, Option.isSome_eq_false_iff, Option.isNone_iff_eq_none] at none
  rw [levelsOf, none]
  rfl

theorem levelsOf_congr {other : Nat → Nat → Bool} {values values' : Nat → Nat → F}
    (placedBars : Placed bars sessions length position)
    (same : ∀ r c, r < bars → c < sessions → hit r c = other r c)
    (sameValues : ∀ r c, r < bars → c < sessions → values r c = values' r c) :
    levelsOf numerics bars sessions position hit values =
      levelsOf numerics bars sessions position other values' := by
  funext k
  unfold levelsOf
  rw [placed_congr same]
  cases found : (placed bars sessions position other).lookup k with
  | none => rfl
  | some place =>
      obtain ⟨inRows, inColumns, _⟩ := (lookup_placed placedBars).mp found
      exact sameValues _ _ inRows inColumns

theorem indexedPlaces_placed (placedBars : Placed bars sessions length position)
    {flat : Contents F} :
    indexedPlaces numerics ⟨length, 1, flat⟩ ⟨bars, sessions, .ints position⟩
        ⟨bars, sessions, .bools hit⟩ = .ok (placed bars sessions position hit) := by
  simp only [indexedPlaces, NdArray.bools?, NdArray.ints?, bind_ok, ne_eq, not_true_eq_false,
    decide_false, Bool.or_self, raiseIf, Bool.false_eq_true, if_false]
  have each : ∀ chosen : List (Nat × Nat), (∀ place ∈ chosen, place.1 < bars ∧ place.2 < sessions) →
      collect (fun place : Nat × Nat =>
        (orRaise (pythonIndex numerics.strict length (position place.1 place.2))
          (EvaluationError.library "index is out of bounds")).map fun k => (k, place)) chosen =
        .ok (chosen.map fun place => ((position place.1 place.2).toNat, place)) := by
    intro chosen
    induction chosen with
    | nil => exact fun _ => rfl
    | cons place rest ih =>
        intro inside
        obtain ⟨inRows, inColumns⟩ := inside place List.mem_cons_self
        obtain ⟨lower, upper⟩ := placedBars.inside _ _ inRows inColumns
        rw [collect, pythonIndex_inside _ lower upper,
          ih fun other member => inside other (List.mem_cons_of_mem _ member)]
        rfl
  refine each _ fun place member => ?_
  exact mem_places.mp (List.mem_filter.mp member).1

/-! ## What is written -/

variable [PyFloat F] {dates : SkipDates}

theorem fillAt_call (placedBars : Placed bars sessions length position) :
    numpy numerics dates (.fillAt (.bool true)) [⟨length, 1, .bools fun _ _ => false⟩,
        ⟨bars, sessions, .ints position⟩, ⟨bars, sessions, .bools hit⟩] =
      .ok ⟨length, 1, .bools fun k _ => flagsOf bars sessions position hit k⟩ := by
  simp only [numpy, indexedPlaces_placed placedBars, bind_ok, NdArray.fill, Scalar.constant,
    NdArray.assign, Contents.assigned, Except.map]
  refine congrArg Except.ok (congrArg (NdArray.mk _ _) (congrArg Contents.bools ?_))
  funext k _
  unfold flagsOf
  cases (placed bars sessions position hit).lookup k <;> rfl

theorem copyAt_call (placedBars : Placed bars sessions length position) (values : Nat → Nat → F) :
    numpy numerics dates .copyAt [⟨length, 1, .floats fun _ _ => numerics.nan⟩,
        ⟨bars, sessions, .ints position⟩, ⟨bars, sessions, .bools hit⟩,
        ⟨bars, sessions, .floats values⟩] =
      .ok ⟨length, 1, .floats fun k _ => levelsOf numerics bars sessions position hit values k⟩ := by
  simp only [numpy, indexedPlaces_placed placedBars, bind_ok, ne_eq, not_true_eq_false,
    decide_false, Bool.or_self, raiseIf, Bool.false_eq_true, if_false, copyIndexed, NdArray.assign,
    Contents.moved, Contents.assigned, Except.map, lookup_placed_reverse placedBars]
  refine congrArg Except.ok (congrArg (NdArray.mk _ _) (congrArg Contents.floats ?_))
  funext k _
  unfold levelsOf
  cases (placed bars sessions position hit).lookup k <;> rfl

end Writes

end QuantFactory.RuleStrategy
