import Mathlib.Data.List.Induction

/-!
# Append-only histories

The last entry of a kind, the entries after it, and the last entry of every key
of a list that only grows at its end.
-/

set_option autoImplicit false

namespace QuantFactory.Library

universe u v

variable {Entry : Type u} {Key : Type v}

def lastWhere (kind : Entry → Bool) (history : List Entry) : Option Entry :=
  (history.filter kind).getLast?

/-- The entries after the last one of a kind; all of them when there is none. -/
def afterLast (kind : Entry → Bool) (history : List Entry) : List Entry :=
  (history.reverse.takeWhile fun entry => !kind entry).reverse

/-- The entries that no later entry shares its key with, in their order. -/
def lastOfEach [DecidableEq Key] (key : Entry → Key) : List Entry → List Entry
  | [] => []
  | entry :: rest =>
      if rest.any fun later => key later = key entry then lastOfEach key rest
      else entry :: lastOfEach key rest

section Kind
variable (kind : Entry → Bool)

@[simp] theorem lastWhere_nil : lastWhere kind [] = none := rfl

theorem lastWhere_snoc (history : List Entry) (entry : Entry) :
    lastWhere kind (history ++ [entry]) =
      if kind entry = true then some entry else lastWhere kind history := by
  unfold lastWhere
  rw [List.filter_append]
  by_cases hit : kind entry = true
  · rw [List.filter_cons_of_pos hit, if_pos hit]
    simp
  · rw [List.filter_cons_of_neg hit, if_neg hit]
    simp

theorem lastWhere_some {history : List Entry} {entry : Entry}
    (found : lastWhere kind history = some entry) : entry ∈ history ∧ kind entry = true :=
  List.mem_filter.mp (List.mem_of_getLast? found)

@[simp] theorem afterLast_nil : afterLast kind [] = [] := rfl

theorem afterLast_snoc (history : List Entry) (entry : Entry) :
    afterLast kind (history ++ [entry]) =
      if kind entry = true then [] else afterLast kind history ++ [entry] := by
  unfold afterLast
  rw [List.reverse_append, List.reverse_singleton, List.singleton_append]
  by_cases hit : kind entry = true
  · rw [List.takeWhile_cons_of_neg (by simp [hit]), if_pos hit, List.reverse_nil]
  · rw [List.takeWhile_cons_of_pos (by simp [hit]), if_neg hit, List.reverse_cons]

/-- A window without an entry of the kind lies after the last such entry. -/
theorem countP_window (counted : Entry → Bool) (before window : List Entry)
    (outside : ∀ entry ∈ window, kind entry = false) :
    window.countP counted ≤ (afterLast kind (before ++ window)).countP counted := by
  induction window using List.reverseRecOn with
  | nil => exact Nat.zero_le _
  | append_singleton window entry ih =>
      have inside := ih fun other member => outside other (List.mem_append_left _ member)
      have miss := outside entry (List.mem_append_right _ List.mem_cons_self)
      rw [← List.append_assoc, afterLast_snoc, if_neg (by simp [miss]), List.countP_append,
        List.countP_append]
      omega

end Kind

theorem mem_lastOfEach [DecidableEq Key] (key : Entry → Key) {history : List Entry}
    {entry : Entry} {k : Key}
    (found : lastWhere (fun other => decide (key other = k)) history = some entry) :
    entry ∈ lastOfEach key history := by
  induction history with
  | nil => cases found
  | cons head rest ih =>
      have sameKey : key entry = k := by simpa using (lastWhere_some _ found).2
      by_cases later : rest.any (fun other => decide (key other = k)) = true
      · have inRest : lastWhere (fun other => decide (key other = k)) rest = some entry := by
          obtain ⟨other, member, hit⟩ := List.any_eq_true.mp later
          have nonempty : rest.filter (fun other => decide (key other = k)) ≠ [] :=
            List.ne_nil_of_mem (List.mem_filter.mpr ⟨member, hit⟩)
          unfold lastWhere at found ⊢
          by_cases hit : key head = k
          · rwa [List.filter_cons_of_pos (by simpa using hit),
              List.getLast?_cons_of_ne_nil nonempty] at found
          · rwa [List.filter_cons_of_neg (by simpa using hit)] at found
        have member := ih inRest
        rw [lastOfEach]
        split
        · exact member
        · exact List.mem_cons_of_mem head member
      · have none : rest.filter (fun other => decide (key other = k)) = [] := by
          rw [List.filter_eq_nil_iff]
          intro other member hit
          exact later (List.any_eq_true.mpr ⟨other, member, hit⟩)
        unfold lastWhere at found
        by_cases hit : key head = k
        · rw [List.filter_cons_of_pos (by simpa using hit), none] at found
          obtain rfl : head = entry := by simpa using found
          rw [lastOfEach, if_neg (by rw [hit]; exact later)]
          exact List.mem_cons_self
        · rw [List.filter_cons_of_neg (by simpa using hit), none] at found
          cases found

theorem mem_lastOfEach_snoc [DecidableEq Key] (key : Entry → Key) {history : List Entry}
    {entry added : Entry} (member : entry ∈ lastOfEach key (history ++ [added])) :
    entry ∈ lastOfEach key history ∨ entry = added := by
  induction history with
  | nil => exact Or.inr (by simpa [lastOfEach] using member)
  | cons head rest ih =>
      have widen : entry ∈ lastOfEach key rest → entry ∈ lastOfEach key (head :: rest) := by
        intro inRest
        rw [lastOfEach]
        split
        · exact inRest
        · exact List.mem_cons_of_mem head inRest
      rw [List.cons_append, lastOfEach] at member
      split at member
      · exact (ih member).imp_left widen
      · rename_i unshared
        rcases List.mem_cons.mp member with rfl | inRest
        · left
          have alone : ¬ rest.any (fun later => key later = key entry) = true := by
            intro shared
            apply unshared
            rw [List.any_append, shared]
            rfl
          rw [lastOfEach, if_neg alone]
          exact List.mem_cons_self
        · exact (ih inRest).imp_left widen

end QuantFactory.Library
