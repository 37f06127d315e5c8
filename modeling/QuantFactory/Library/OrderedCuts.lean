import Mathlib

/-!
# Cutting a sorted list by its distinct keys

The distinct keys of a sorted list, in order of appearance, are strictly sorted.  Keeping
the entries whose key is among the first so many of them keeps an initial segment, so the
kept and the refused entries put together again are the list.
-/

set_option autoImplicit false

namespace QuantFactory.Library

universe u v

section Filter
variable {α : Type u}

/-- A property that is never gained later holds of an initial segment. -/
theorem filter_append_filter_not {p : α → Bool} {xs : List α}
    (lost : xs.Pairwise fun a b => p b = true → p a = true) :
    xs.filter p ++ xs.filter (fun a => !p a) = xs := by
  induction xs with
  | nil => rfl
  | cons x rest ih =>
      obtain ⟨head, tail⟩ := List.pairwise_cons.mp lost
      cases holds : p x with
      | true =>
          rw [List.filter_cons_of_pos holds, List.filter_cons_of_neg (by simp [holds]),
            List.cons_append, ih tail]
      | false =>
          have never : ∀ y ∈ rest, p y = false := by
            intro y member
            by_contra held
            have back := head y member (by simpa using held)
            rw [holds] at back
            cases back
          have refused : rest.filter p = [] := by
            apply List.filter_eq_nil_iff.mpr
            intro y member
            simp [never y member]
          rw [List.filter_cons_of_neg (by simp [holds]), refused,
            List.filter_cons_of_pos (by simp [holds]), List.nil_append]
          congr 1
          apply List.filter_eq_self.mpr
          intro y member
          simp [never y member]

end Filter

theorem eraseDups_nodup {κ : Type v} [DecidableEq κ] (keys : List κ) : keys.eraseDups.Nodup := by
  generalize size : keys.length = n
  induction n using Nat.strongRecOn generalizing keys with
  | _ n ih =>
      cases keys with
      | nil => exact List.nodup_nil
      | cons key rest =>
          rw [List.eraseDups_cons, List.nodup_cons]
          constructor
          · intro again
            have kept := (List.mem_filter.mp (List.mem_eraseDups.mp again)).2
            simp at kept
          · have shorter : (rest.filter fun other => !other == key).length < n := by
              have atMost := List.length_filter_le (fun other => !other == key) rest
              rw [List.length_cons] at size
              omega
            exact ih _ shorter _ rfl

section Keys
variable {κ : Type v} [LinearOrder κ]

theorem pairwise_filter_lt {key : κ} {keys : List κ} (after : ∀ other ∈ keys, key ≤ other) :
    ∀ other ∈ keys.filter (fun other => !other == key), key < other := by
  intro other member
  obtain ⟨listed, differs⟩ := List.mem_filter.mp member
  have distinct : other ≠ key := by
    intro same
    rw [same] at differs
    simp at differs
  exact lt_of_le_of_ne (after other listed) distinct.symm

theorem eraseDups_sorted (keys : List κ) (sorted : keys.Pairwise (· ≤ ·)) :
    keys.eraseDups.Pairwise (· < ·) := by
  generalize size : keys.length = n
  induction n using Nat.strongRecOn generalizing keys with
  | _ n ih =>
      cases keys with
      | nil => exact List.Pairwise.nil
      | cons key rest =>
          obtain ⟨after, sortedRest⟩ := List.pairwise_cons.mp sorted
          rw [List.eraseDups_cons, List.pairwise_cons]
          constructor
          · intro other member
            exact pairwise_filter_lt after other (List.mem_eraseDups.mp member)
          · have shorter : (rest.filter fun other => !other == key).length < n := by
              have atMost := List.length_filter_le (fun other => !other == key) rest
              rw [List.length_cons] at size
              omega
            exact ih _ shorter _ (sortedRest.filter _) rfl

/-- An initial segment of a strictly sorted list holds all that is below one of its keys. -/
theorem mem_take_of_le {keys : List κ} (sorted : keys.Pairwise (· < ·)) {count : Nat}
    {key other : κ} (listed : other ∈ keys) (below : other ≤ key) (taken : key ∈ keys.take count) :
    other ∈ keys.take count := by
  rw [← List.take_append_drop count keys] at listed sorted
  rcases List.mem_append.mp listed with first | later
  · exact first
  · have above := (List.pairwise_append.mp sorted).2.2 key taken other later
    exact absurd below (not_le.mpr above)

theorem not_mem_take_of_mem_drop {keys : List κ} (sorted : keys.Pairwise (· < ·)) {count : Nat}
    {key : κ} (dropped : key ∈ keys.drop count) : key ∉ keys.take count := by
  intro taken
  rw [← List.take_append_drop count keys] at sorted
  exact lt_irrefl key ((List.pairwise_append.mp sorted).2.2 key taken key dropped)

theorem getLast?_sorted_iff {keys : List κ} (sorted : keys.Pairwise (· < ·)) {key : κ} :
    keys.getLast? = some key ↔ key ∈ keys ∧ ∀ other ∈ keys, other ≤ key := by
  constructor
  · intro last
    obtain ⟨front, rfl⟩ := List.getLast?_eq_some_iff.mp last
    refine ⟨by simp, ?_⟩
    intro other member
    rcases List.mem_append.mp member with before | here
    · exact ((List.pairwise_append.mp sorted).2.2 other before key (by simp)).le
    · exact (List.mem_singleton.mp here).le
  · rintro ⟨member, greatest⟩
    cases last : keys.getLast? with
    | none =>
        rw [List.getLast?_eq_none_iff] at last
        rw [last] at member
        cases member
    | some top =>
        obtain ⟨front, rfl⟩ := List.getLast?_eq_some_iff.mp last
        have below := greatest top (by simp)
        rcases List.mem_append.mp member with before | here
        · have less := (List.pairwise_append.mp sorted).2.2 key before top (by simp)
          exact absurd below (not_le.mpr less)
        · rw [List.mem_singleton.mp here]

theorem head?_sorted_iff {keys : List κ} (sorted : keys.Pairwise (· < ·)) {key : κ} :
    keys.head? = some key ↔ key ∈ keys ∧ ∀ other ∈ keys, key ≤ other := by
  cases keys with
  | nil => simp
  | cons first rest =>
      obtain ⟨least, -⟩ := List.pairwise_cons.mp sorted
      rw [List.head?_cons, Option.some_inj]
      constructor
      · rintro rfl
        refine ⟨List.mem_cons_self, ?_⟩
        intro other member
        rcases List.mem_cons.mp member with rfl | inRest
        · exact le_rfl
        · exact (least other inRest).le
      · rintro ⟨member, below⟩
        rcases List.mem_cons.mp member with same | inRest
        · exact same.symm
        · exact absurd (below first List.mem_cons_self) (not_le.mpr (least key inRest))

end Keys

end QuantFactory.Library
