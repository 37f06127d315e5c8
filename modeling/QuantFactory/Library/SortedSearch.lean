import Mathlib

/-!
# Searching sorted lists

`searchSortedLeft xs v` and `searchSortedRight xs v` are the insertion points of
`v` in a sorted list: the number of entries below `v`, and at most `v`.  On a
sorted list they split the positions, and a run of equal entries is no longer
than the count of its value.
-/

set_option autoImplicit false

namespace QuantFactory.Library

universe u

variable {α : Type u}

/-- Positions below the count are those that satisfy a predicate that, once
false, stays false along the list. -/
theorem lt_countP_iff {p : α → Bool} {xs : List α}
    (closed : xs.Pairwise fun a b => p b = true → p a = true) {i : Nat} (inside : i < xs.length) :
    i < xs.countP p ↔ p xs[i] = true := by
  induction xs generalizing i with
  | nil => simp at inside
  | cons x rest ih =>
      obtain ⟨head, tail⟩ := List.pairwise_cons.mp closed
      by_cases holds : p x = true
      · rw [List.countP_cons_of_pos holds]
        cases i with
        | zero => simp [holds]
        | succ i =>
            rw [Nat.add_lt_add_iff_right, ih tail (by simpa using inside)]
            rfl
      · have none : rest.countP p = 0 := by
          rw [List.countP_eq_zero]
          intro y member satisfied
          exact holds (head y member satisfied)
        rw [List.countP_cons_of_neg holds, none]
        cases i with
        | zero => simp [holds]
        | succ i =>
            have member : getElem rest i (by simpa using inside) ∈ rest := List.getElem_mem _
            simp only [List.getElem_cons_succ, Nat.not_lt_zero, false_iff]
            intro satisfied
            exact holds (head _ member satisfied)

section LinearOrder
variable [LinearOrder α]

/-- `searchsorted(side="right")`. -/
def searchSortedRight (xs : List α) (v : α) : Nat := xs.countP fun x => decide (x ≤ v)

/-- `searchsorted(side="left")`. -/
def searchSortedLeft (xs : List α) (v : α) : Nat := xs.countP fun x => decide (x < v)

theorem searchSortedRight_le_length (xs : List α) (v : α) : searchSortedRight xs v ≤ xs.length :=
  List.countP_le_length

theorem searchSortedLeft_le_length (xs : List α) (v : α) : searchSortedLeft xs v ≤ xs.length :=
  List.countP_le_length

section Sorted
variable {xs : List α} (sorted : xs.Pairwise (· ≤ ·)) {v : α} {i : Nat} (inside : i < xs.length)

include sorted

theorem lt_searchSortedRight_iff : i < searchSortedRight xs v ↔ xs[i] ≤ v := by
  have closed : xs.Pairwise fun a b => decide (b ≤ v) = true → decide (a ≤ v) = true :=
    sorted.imp fun le below => decide_eq_true (le.trans (of_decide_eq_true below))
  rw [searchSortedRight, lt_countP_iff closed inside, decide_eq_true_iff]

theorem lt_searchSortedLeft_iff : i < searchSortedLeft xs v ↔ xs[i] < v := by
  have closed : xs.Pairwise fun a b => decide (b < v) = true → decide (a < v) = true :=
    sorted.imp fun le below => decide_eq_true (le.trans_lt (of_decide_eq_true below))
  rw [searchSortedLeft, lt_countP_iff closed inside, decide_eq_true_iff]

theorem getElem_le_of_le {j : Nat} (le : i ≤ j) (within : j < xs.length) :
    xs[i] ≤ xs[j] := by
  rcases Nat.eq_or_lt_of_le le with rfl | lt
  · exact le_refl _
  · exact List.pairwise_iff_getElem.mp sorted i j inside within lt

/-- The entries from the next one on that equal this one are what the right insertion
point leaves behind. -/
theorem searchSortedRight_getElem :
    searchSortedRight xs xs[i] = i + 1 + (xs.drop (i + 1)).count xs[i] := by
  have before : (xs.take (i + 1)).countP (fun x => decide (x ≤ xs[i])) = i + 1 := by
    rw [List.countP_eq_length.mpr, List.length_take, Nat.min_eq_left inside]
    intro x member
    obtain ⟨j, within, rfl⟩ := List.mem_take_iff_getElem.mp member
    exact decide_eq_true (getElem_le_of_le sorted (by omega) (by omega) inside)
  have after : (xs.drop (i + 1)).countP (fun x => decide (x ≤ xs[i])) =
      (xs.drop (i + 1)).count xs[i] := by
    refine List.countP_congr fun x member => ?_
    obtain ⟨j, within, rfl⟩ := List.mem_drop_iff_getElem.mp member
    have above := getElem_le_of_le sorted inside (show i ≤ i + 1 + j by omega) (by omega)
    simp only [decide_eq_true_eq, beq_iff_eq]
    exact ⟨fun below => le_antisymm below above, le_of_eq⟩
  have split : searchSortedRight xs xs[i] =
      (xs.take (i + 1)).countP (fun x => decide (x ≤ xs[i])) +
        (xs.drop (i + 1)).countP (fun x => decide (x ≤ xs[i])) := by
    rw [← List.countP_append, List.take_append_drop, searchSortedRight]
  omega

/-- The entries before this one that equal it are what the left insertion point skips. -/
theorem searchSortedLeft_getElem_add :
    searchSortedLeft xs xs[i] + (xs.take i).count xs[i] = i := by
  have before : (xs.take i).countP (fun x => decide (x < xs[i])) +
      (xs.take i).count xs[i] = i := by
    have size : (xs.take i).length = i := by
      rw [List.length_take, Nat.min_eq_left inside.le]
    conv_rhs => rw [← size, List.length_eq_countP_add_countP (fun x => decide (x < xs[i]))]
    congr 1
    refine List.countP_congr fun x member => ?_
    obtain ⟨j, within, rfl⟩ := List.mem_take_iff_getElem.mp member
    have below := getElem_le_of_le sorted (show j < xs.length by omega)
      (show j ≤ i by omega) inside
    simp only [decide_eq_true_eq, beq_iff_eq, not_lt]
    exact ⟨fun same => same.ge, fun above => le_antisymm below above⟩
  have after : (xs.drop i).countP (fun x => decide (x < xs[i])) = 0 := by
    rw [List.countP_eq_zero]
    intro x member
    obtain ⟨j, within, rfl⟩ := List.mem_drop_iff_getElem.mp member
    have above := getElem_le_of_le sorted inside (show i ≤ i + j by omega) (by omega)
    simpa using above
  have split : searchSortedLeft xs xs[i] =
      (xs.take i).countP (fun x => decide (x < xs[i])) +
        (xs.drop i).countP (fun x => decide (x < xs[i])) := by
    rw [← List.countP_append, List.take_append_drop, searchSortedLeft]
  omega

end Sorted

/-- The halving loop of `bisect_left`.  Each turn shortens the range, so its length is
enough fuel. -/
def bisectLoop (xs : List α) (v : α) : Nat → Nat → Nat → Nat
  | 0, lo, _ => lo
  | fuel + 1, lo, hi =>
      if lo < hi then
        let mid := (lo + hi) / 2
        match xs[mid]? with
        | none => lo
        | some x =>
            if x < v then bisectLoop xs v fuel (mid + 1) hi else bisectLoop xs v fuel lo mid
      else lo

def bisectLeft (xs : List α) (v : α) : Nat := bisectLoop xs v xs.length 0 xs.length

theorem bisectLoop_eq {xs : List α} (sorted : xs.Pairwise (· ≤ ·)) {v : α} {fuel lo hi : Nat}
    (enough : hi - lo ≤ fuel) (within : hi ≤ xs.length) (above : lo ≤ searchSortedLeft xs v)
    (below : searchSortedLeft xs v ≤ hi) : bisectLoop xs v fuel lo hi = searchSortedLeft xs v := by
  induction fuel generalizing lo hi with
  | zero =>
      rw [bisectLoop]
      omega
  | succ fuel ih =>
      rw [bisectLoop]
      by_cases open_range : lo < hi
      · have inside : (lo + hi) / 2 < xs.length := by omega
        have split := lt_searchSortedLeft_iff sorted (v := v) inside
        rw [if_pos open_range]
        dsimp only
        rw [List.getElem?_eq_getElem inside]
        dsimp only
        by_cases less : xs[(lo + hi) / 2] < v
        · rw [if_pos less]
          have left := split.mpr less
          exact ih (by omega) within (by omega) below
        · rw [if_neg less]
          have right := mt split.mp less
          exact ih (by omega) (by omega) above (by omega)
      · rw [if_neg open_range]
        omega

theorem bisectLeft_eq {xs : List α} (sorted : xs.Pairwise (· ≤ ·)) (v : α) :
    bisectLeft xs v = searchSortedLeft xs v :=
  bisectLoop_eq sorted (by omega) (le_refl _) (Nat.zero_le _) (searchSortedLeft_le_length xs v)

/-- The entry at the insertion point is the value exactly when the list has it. -/
theorem getElem?_searchSortedLeft_eq_some {xs : List α} (sorted : xs.Pairwise (· ≤ ·)) {v : α} :
    xs[searchSortedLeft xs v]? = some v ↔ v ∈ xs := by
  constructor
  · exact List.mem_of_getElem?
  · intro member
    obtain ⟨i, inside, rfl⟩ := List.mem_iff_getElem.mp member
    have not_past : ¬i < searchSortedLeft xs xs[i] := by
      rw [lt_searchSortedLeft_iff sorted inside]
      exact lt_irrefl _
    have within : searchSortedLeft xs xs[i] < xs.length := by omega
    have not_below : ¬xs[searchSortedLeft xs xs[i]] < xs[i] := by
      rw [← lt_searchSortedLeft_iff sorted within]
      exact Nat.lt_irrefl _
    have at_most := getElem_le_of_le sorted within (Nat.le_of_not_lt not_past) inside
    rw [List.getElem?_eq_getElem within]
    exact congrArg some (le_antisymm at_most (not_lt.mp not_below))

theorem searchSortedRight_mono (xs : List α) {v w : α} (le : v ≤ w) :
    searchSortedRight xs v ≤ searchSortedRight xs w := by
  refine List.countP_mono_left fun x _ below => ?_
  exact decide_eq_true ((of_decide_eq_true below).trans le)

theorem searchSortedLeft_mono (xs : List α) {v w : α} (le : v ≤ w) :
    searchSortedLeft xs v ≤ searchSortedLeft xs w := by
  refine List.countP_mono_left fun x _ below => ?_
  exact decide_eq_true ((of_decide_eq_true below).trans_le le)

/-- Two insertion points differ exactly when an entry lies between the values. -/
theorem searchSortedRight_lt_iff (xs : List α) {v w : α} (le : v ≤ w) :
    searchSortedRight xs v < searchSortedRight xs w ↔ ∃ x ∈ xs, v < x ∧ x ≤ w := by
  induction xs with
  | nil => simp [searchSortedRight]
  | cons x rest ih =>
      have mono := searchSortedRight_mono rest le
      unfold searchSortedRight at ih mono ⊢
      simp only [List.countP_cons, decide_eq_true_eq, List.mem_cons, exists_eq_or_imp]
      by_cases first : x ≤ v
      · have second : x ≤ w := first.trans le
        simp only [first, second, if_true, Nat.add_lt_add_iff_right, ih]
        simp [not_lt.mpr first]
      · by_cases second : x ≤ w
        · simp only [first, second, if_true, if_false, not_le.mp first, true_and, true_or, iff_true]
          omega
        · simp only [first, second, if_false, Nat.add_zero, ih, and_false, false_or]

end LinearOrder

section Runs
variable [DecidableEq α]

/-- A stretch of equal entries is at most as long as their value is frequent. -/
theorem length_le_count_of_eq {xs : List α} {v : α} {first last : Nat} (ordered : first ≤ last)
    (within : last ≤ xs.length)
    (equal : ∀ i (inside : i < xs.length), first ≤ i → i < last → xs[i] = v) :
    last - first ≤ xs.count v := by
  have slice : (xs.drop first).take (last - first) = List.replicate (last - first) v := by
    refine List.ext_getElem (by simp; omega) fun i lower upper => ?_
    simp only [List.length_take, List.length_drop] at lower
    rw [List.getElem_take, List.getElem_drop, List.getElem_replicate]
    exact equal (first + i) (by omega) (by omega) (by omega)
  have sub : List.Sublist ((xs.drop first).take (last - first)) xs :=
    (List.take_sublist _ _).trans (List.drop_sublist _ _)
  have counted := sub.count_le v
  rw [slice, List.count_replicate_self] at counted
  exact counted

end Runs

end QuantFactory.Library
