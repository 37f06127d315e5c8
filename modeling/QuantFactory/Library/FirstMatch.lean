import Mathlib.Data.List.Basic
import Mathlib.Data.List.Nodup

/-!
# The first match

A loop that goes through positions, leaves at a stop, skips what does not match and returns the
first match, against a mask over all positions and the index of its first set entry.
-/

set_option autoImplicit false

namespace QuantFactory.Library

universe u v

section Loops
variable {α : Type u}

/-- Goes through the items; a stop ends the loop with nothing, a match ends it with the item. -/
def firstUntil (stop hit : α → Bool) : List α → Option α
  | [] => none
  | item :: rest => if stop item then none else if hit item then some item else firstUntil stop hit rest

/-- A loop with a stop finds what a search finds whose hits all come before the stop. -/
theorem firstUntil_eq_find? {stop hit : α → Bool} (mask : α → Bool) {items : List α}
    (going : ∀ item ∈ items, stop item = false → hit item = mask item)
    (stopped : ∀ item ∈ items, stop item = true → mask item = false)
    (after : items.Pairwise fun earlier later => stop earlier = true → mask later = false) :
    firstUntil stop hit items = items.find? mask := by
  induction items with
  | nil => rfl
  | cons item rest ih =>
      obtain ⟨head, tail⟩ := List.pairwise_cons.mp after
      have later := ih (fun other member => going other (List.mem_cons_of_mem _ member))
        (fun other member => stopped other (List.mem_cons_of_mem _ member)) tail
      cases halted : stop item with
      | true =>
          have none : (item :: rest).find? mask = none := by
            apply List.find?_eq_none.mpr
            intro other member
            rcases List.mem_cons.mp member with rfl | inRest
            · simp [stopped other List.mem_cons_self halted]
            · simp [head other inRest halted]
          rw [none, firstUntil, if_pos halted]
      | false =>
          have same := going item List.mem_cons_self halted
          cases found : mask item with
          | true => simp [firstUntil, halted, same, found]
          | false => simp [firstUntil, halted, same, found, later]

/-- The number of refused hits before the first accepted one, and that one. -/
def firstAccepted (hit accepts : α → Bool) : Nat → List α → Option α × Nat
  | refused, [] => (none, refused)
  | refused, item :: rest =>
      if !hit item then firstAccepted hit accepts refused rest
      else if !accepts item then firstAccepted hit accepts (refused + 1) rest
      else (some item, refused)

theorem firstAccepted_eq {hit accepts : α → Bool} (refused : Nat) (items : List α) :
    firstAccepted hit accepts refused items =
      ((items.filter hit).find? accepts, refused + (items.filter hit).findIdx accepts) := by
  induction items generalizing refused with
  | nil => rfl
  | cons item rest ih =>
      cases here : hit item with
      | false => simp [firstAccepted, here, ih]
      | true =>
          cases taken : accepts item with
          | false =>
              simp only [firstAccepted, here, taken, Bool.not_true, Bool.not_false, Bool.false_eq_true,
                if_false, if_true, ih, List.filter_cons_of_pos, List.find?_cons, List.findIdx_cons,
                cond_false]
              rw [Nat.add_right_comm, Nat.add_assoc]
          | true => simp [firstAccepted, here, taken, List.findIdx_cons]

end Loops

/-! ## Masks -/

/-- `mask.any()` and `mask.idxmax()`: the first set entry. -/
def firstTrue (mask : List Bool) : Option Nat := mask.findIdx? id

theorem firstTrue_map {α : Type u} (mask : α → Bool) (items : List α) :
    firstTrue (items.map mask) = items.findIdx? mask := by
  rw [firstTrue, List.findIdx?_map]
  rfl

theorem findIdx?_range (mask : Nat → Bool) (n : Nat) :
    (List.range n).findIdx? mask = (List.range n).find? mask := by
  induction n generalizing mask with
  | zero => rfl
  | succ n ih =>
      rw [List.range_succ_eq_map, List.findIdx?_cons, List.find?_cons]
      cases mask 0 with
      | true => rfl
      | false =>
          rw [List.findIdx?_map, List.find?_map]
          have later := ih (mask ∘ Nat.succ)
          simp only [Bool.false_eq_true, if_false, later]

theorem firstTrue_eq_find? (mask : List Bool) :
    firstTrue mask = (List.range mask.length).find? fun position => mask.getD position false := by
  have spread : mask = (List.range mask.length).map fun position => mask.getD position false := by
    apply List.ext_getElem?
    intro position
    rw [List.getElem?_map]
    rcases Nat.lt_or_ge position mask.length with inside | outside
    · rw [List.getElem?_range inside, List.getElem?_eq_getElem inside]
      simp [inside]
    · rw [List.getElem?_eq_none outside, List.getElem?_eq_none (by rw [List.length_range]; exact outside)]
      rfl
  conv_lhs => rw [spread]
  rw [firstTrue_map, findIdx?_range]

theorem and_getD (a b : List Bool) (position : Nat) :
    (List.zipWith (· && ·) a b).getD position false =
      (a.getD position false && b.getD position false) := by
  rw [List.getD_eq_getElem?_getD, List.getElem?_zipWith, List.getD_eq_getElem?_getD,
    List.getD_eq_getElem?_getD]
  cases a[position]? with
  | none => simp
  | some first =>
      cases b[position]? with
      | none => simp
      | some second => rfl

theorem or_getD {a b : List Bool} (same : a.length = b.length) (position : Nat) :
    (List.zipWith (· || ·) a b).getD position false =
      (a.getD position false || b.getD position false) := by
  rw [List.getD_eq_getElem?_getD, List.getElem?_zipWith, List.getD_eq_getElem?_getD,
    List.getD_eq_getElem?_getD]
  rcases Nat.lt_or_ge position a.length with inside | outside
  · rw [List.getElem?_eq_getElem inside, List.getElem?_eq_getElem (same ▸ inside)]
    rfl
  · rw [List.getElem?_eq_none outside, List.getElem?_eq_none (same ▸ outside)]
    rfl

theorem find?_of_same_hits {p : Nat → Bool} {xs ys : List Nat} (sorted : xs.Pairwise (· < ·))
    (alsoSorted : ys.Pairwise (· < ·)) (same : ∀ i, p i = true → (i ∈ xs ↔ i ∈ ys)) :
    xs.find? p = ys.find? p := by
  rw [← List.head?_filter, ← List.head?_filter]
  have keptSorted := sorted.sublist (List.filter_sublist (p := p))
  have otherSorted := alsoSorted.sublist (List.filter_sublist (p := p))
  have perm : (xs.filter p).Perm (ys.filter p) := by
    apply (List.perm_ext_iff_of_nodup (keptSorted.imp fun less => Nat.ne_of_lt less)
      (otherSorted.imp fun less => Nat.ne_of_lt less)).mpr
    intro i
    rw [List.mem_filter, List.mem_filter]
    exact and_congr_left fun hit => same i hit
  rw [perm.eq_of_pairwise (fun a b _ _ ab ba => absurd ab (Nat.lt_asymm ba)) keptSorted otherSorted]

/-! ## The last match -/

theorem find?_reverse_range_eq_some {p : Nat → Bool} {count i : Nat}
    (found : (List.range count).reverse.find? p = some i) :
    p i = true ∧ i < count ∧ ∀ later, i < later → later < count → p later = false := by
  induction count with
  | zero => cases found
  | succ count ih =>
      rw [List.range_succ, List.reverse_append, List.reverse_singleton, List.singleton_append,
        List.find?_cons] at found
      cases hit : p count with
      | true =>
          rw [hit] at found
          cases found
          refine ⟨hit, Nat.lt_succ_self _, ?_⟩
          intro later above below
          omega
      | false =>
          rw [hit] at found
          obtain ⟨holds, inside, last⟩ := ih found
          refine ⟨holds, Nat.lt_succ_of_lt inside, ?_⟩
          intro later above below
          rcases Nat.lt_succ_iff_lt_or_eq.mp below with earlier | rfl
          · exact last later above earlier
          · exact hit

end QuantFactory.Library
