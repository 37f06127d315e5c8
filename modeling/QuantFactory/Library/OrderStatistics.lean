import Mathlib

/-!
# Order statistics of a list

The value of a given rank, what removing one value does to the ranks of the others,
and sorting with missing values last.
-/

set_option autoImplicit false

namespace QuantFactory.Library

universe u

variable {α : Type u} [LinearOrder α]

def ascending (xs : List α) : List α := xs.insertionSort (· ≤ ·)

@[simp] theorem ascending_nil : ascending ([] : List α) = [] := rfl

theorem ascending_cons (x : α) (xs : List α) :
    ascending (x :: xs) = (ascending xs).orderedInsert (· ≤ ·) x := rfl

theorem ascending_perm (xs : List α) : (ascending xs).Perm xs := List.perm_insertionSort _ xs

theorem ascending_sorted (xs : List α) : (ascending xs).Pairwise (· ≤ ·) :=
  List.pairwise_insertionSort _ xs

@[simp] theorem length_ascending (xs : List α) : (ascending xs).length = xs.length :=
  (ascending_perm xs).length_eq

theorem ascending_eq_of_perm {xs ys : List α} (perm : xs.Perm ys) : ascending xs = ascending ys :=
  List.Perm.eq_of_pairwise (fun _ _ _ _ below above => le_antisymm below above)
    (ascending_sorted xs) (ascending_sorted ys)
    ((ascending_perm xs).trans (perm.trans (ascending_perm ys).symm))

section Removal

/-- Up to the place of the inserted value the ranks are the old ones, after it they are
moved by one. -/
theorem rank_of_orderedInsert {x : α} {xs : List α} (sorted : xs.Pairwise (· ≤ ·)) {m : Nat}
    {low : α} (at_rank : (xs.orderedInsert (· ≤ ·) x)[m]? = some low) :
    (x ≤ low → (xs.orderedInsert (· ≤ ·) x)[m + 1]? = xs[m]?) ∧
      (¬ x ≤ low → xs[m]? = some low) := by
  induction xs generalizing m with
  | nil =>
      cases m with
      | zero =>
          have same : x = low := by simpa using at_rank
          exact ⟨fun _ => rfl, fun above => absurd (le_of_eq same) above⟩
      | succ m => simp at at_rank
  | cons y rest ih =>
      obtain ⟨least, sortedRest⟩ := List.pairwise_cons.mp sorted
      rw [List.orderedInsert_cons] at at_rank ⊢
      by_cases before : x ≤ y
      · rw [if_pos before] at at_rank ⊢
        refine ⟨fun _ => rfl, fun above => ?_⟩
        cases m with
        | zero =>
            have same : x = low := by simpa using at_rank
            exact absurd (le_of_eq same) above
        | succ m =>
            have member : low ∈ y :: rest := List.mem_of_getElem? at_rank
            rcases List.mem_cons.mp member with rfl | inRest
            · exact absurd before above
            · exact absurd (before.trans (least low inRest)) above
      · rw [if_neg before] at at_rank ⊢
        cases m with
        | zero =>
            have same : y = low := by simpa using at_rank
            exact ⟨fun below => absurd (same ▸ below) before, fun _ => by simp [same]⟩
        | succ m =>
            simpa only [List.getElem?_cons_succ] using ih sortedRest at_rank

theorem rank_without {x : α} {others all : List α} (perm : all.Perm (x :: others)) {m : Nat}
    {low high : α} (at_low : (ascending all)[m]? = some low)
    (at_high : (ascending all)[m + 1]? = some high) :
    (ascending others)[m]? = some (if x ≤ low then high else low) := by
  rw [ascending_eq_of_perm perm, ascending_cons] at at_low at_high
  obtain ⟨moved, kept⟩ := rank_of_orderedInsert (ascending_sorted others) at_low
  by_cases below : x ≤ low
  · rw [if_pos below, ← moved below, at_high]
  · rw [if_neg below, kept below]

end Removal

section MissingLast

def missingLast : Option α → Option α → Bool
  | some a, some b => decide (a ≤ b)
  | none, some _ => false
  | _, none => true

@[simp] theorem missingLast_present (a b : α) :
    missingLast (some a) (some b) = decide (a ≤ b) := rfl

@[simp] theorem missingLast_missing (b : α) : missingLast none (some b) = false := rfl

def ascendingMissingLast (xs : List (Option α)) : List (Option α) :=
  xs.insertionSort fun a b => missingLast a b = true

theorem insert_present (x : α) (present : List α) (missing : Nat) :
    (present.map some ++ List.replicate missing none).orderedInsert
        (fun a b => missingLast a b = true) (some x) =
      (present.orderedInsert (· ≤ ·) x).map some ++ List.replicate missing none := by
  induction present with
  | nil =>
      cases missing with
      | zero => rfl
      | succ missing => simp [List.replicate_succ, List.orderedInsert_cons, missingLast]
  | cons y rest ih =>
      simp only [List.map_cons, List.cons_append, List.orderedInsert_cons,
        missingLast_present, decide_eq_true_eq]
      split
      · rfl
      · rw [ih]
        rfl

theorem insert_missing (present : List α) (missing : Nat) :
    (present.map some ++ List.replicate missing none).orderedInsert
        (fun a b => missingLast a b = true) none =
      present.map some ++ List.replicate (missing + 1) none := by
  induction present with
  | nil =>
      cases missing with
      | zero => rfl
      | succ missing => simp [List.replicate_succ, List.orderedInsert_cons, missingLast]
  | cons y rest ih =>
      simp only [List.map_cons, List.cons_append, List.orderedInsert_cons,
        missingLast_missing, Bool.false_eq_true, if_false, ih]

theorem ascendingMissingLast_eq (xs : List (Option α)) :
    ascendingMissingLast xs =
      (ascending xs.reduceOption).map some ++
        List.replicate (xs.length - xs.reduceOption.length) none := by
  induction xs with
  | nil => rfl
  | cons x rest ih =>
      have shorter := rest.reduceOption_length_le
      rw [ascendingMissingLast, List.insertionSort_cons, ← ascendingMissingLast, ih]
      cases x with
      | some x =>
          rw [insert_present, List.reduceOption_cons_of_some, ascending_cons]
          simp only [List.length_cons, Nat.add_sub_add_right]
      | none =>
          rw [insert_missing, List.reduceOption_cons_of_none, List.length_cons]
          congr 2
          omega

/-- The ranks below the number of values present are theirs. -/
theorem getElem?_ascendingMissingLast {xs : List (Option α)} {rank : Nat}
    (present : rank < xs.reduceOption.length) :
    (ascendingMissingLast xs)[rank]? = ((ascending xs.reduceOption)[rank]?).map some := by
  have within : rank < ((ascending xs.reduceOption).map some).length := by
    rw [List.length_map, length_ascending]
    exact present
  rw [ascendingMissingLast_eq, List.getElem?_append_left within, List.getElem?_map]

end MissingLast

end QuantFactory.Library
