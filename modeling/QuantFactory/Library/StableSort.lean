import Mathlib.Data.List.Sort

/-!
# Filtering a sorted list

Insertion sort is stable, so filtering after it is filtering before it.
-/

set_option autoImplicit false

namespace QuantFactory.Library

universe u

variable {α : Type u} (r : α → α → Prop) [DecidableRel r] (p : α → Bool)

theorem filter_orderedInsert_of_neg {x : α} (refused : p x = false) (xs : List α) :
    (xs.orderedInsert r x).filter p = xs.filter p := by
  induction xs with
  | nil => simp [refused]
  | cons y rest ih =>
      rw [List.orderedInsert_cons]
      split
      · rw [List.filter_cons_of_neg (by simp [refused])]
      · by_cases kept : p y = true
        · rw [List.filter_cons_of_pos kept, List.filter_cons_of_pos kept, ih]
        · rw [List.filter_cons_of_neg kept, List.filter_cons_of_neg kept, ih]

variable [IsTrans α r]

theorem filter_orderedInsert_of_pos {x : α} (kept : p x = true) {xs : List α}
    (sorted : xs.Pairwise r) :
    (xs.orderedInsert r x).filter p = (xs.filter p).orderedInsert r x := by
  induction xs with
  | nil => simp [kept]
  | cons y rest ih =>
      obtain ⟨least, sortedRest⟩ := List.pairwise_cons.mp sorted
      rw [List.orderedInsert_cons]
      split
      · rename_i before
        have first : ∀ z ∈ (y :: rest).filter p, r x z := by
          intro z member
          rcases List.mem_cons.mp (List.mem_of_mem_filter member) with rfl | inRest
          · exact before
          · exact IsTrans.trans _ _ _ before (least z inRest)
        rw [List.filter_cons_of_pos kept]
        cases shape : (y :: rest).filter p with
        | nil => rfl
        | cons z zs =>
            rw [List.orderedInsert_cons, if_pos (first z (shape ▸ List.mem_cons_self))]
      · rename_i after
        by_cases keptHead : p y = true
        · rw [List.filter_cons_of_pos keptHead, List.filter_cons_of_pos keptHead,
            List.orderedInsert_cons, if_neg after, ih sortedRest]
        · rw [List.filter_cons_of_neg keptHead, List.filter_cons_of_neg keptHead, ih sortedRest]

variable [Std.Total r]

theorem filter_insertionSort (xs : List α) :
    (xs.insertionSort r).filter p = (xs.filter p).insertionSort r := by
  induction xs with
  | nil => rfl
  | cons x rest ih =>
      rw [List.insertionSort_cons]
      by_cases kept : p x = true
      · rw [filter_orderedInsert_of_pos r p kept (List.pairwise_insertionSort r rest), ih,
          List.filter_cons_of_pos kept, List.insertionSort_cons]
      · rw [filter_orderedInsert_of_neg r p (by simpa using kept), ih,
          List.filter_cons_of_neg kept]

end QuantFactory.Library
