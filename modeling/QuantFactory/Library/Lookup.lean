import Mathlib.Data.List.Nodup

/-!
# Association lists

What a lookup finds is in the list, and in a list with distinct keys it finds what is there.
-/

set_option autoImplicit false

namespace QuantFactory.Library

variable {K V : Type} [BEq K] [LawfulBEq K] {entries : List (K × V)} {key : K} {value : V}

theorem mem_of_lookup (found : entries.lookup key = some value) : (key, value) ∈ entries := by
  obtain ⟨before, after, split, _⟩ := List.lookup_eq_some_iff.mp found
  rw [split]
  exact List.mem_append_right _ List.mem_cons_self

theorem lookup_isSome_iff : (entries.lookup key).isSome = true ↔ key ∈ entries.map Prod.fst := by
  rw [List.lookup_isSome_iff, List.mem_map]
  exact exists_congr fun entry => and_congr_right fun _ => beq_iff_eq.trans eq_comm

/-- The only entry of a key is the one a lookup finds. -/
theorem lookup_eq_some_iff_mem (distinct : (entries.map Prod.fst).Nodup) :
    entries.lookup key = some value ↔ (key, value) ∈ entries := by
  refine ⟨mem_of_lookup, fun member => ?_⟩
  obtain ⟨found, isFound⟩ := Option.isSome_iff_exists.mp
    (lookup_isSome_iff.mpr (List.mem_map_of_mem member))
  rw [isFound, (Prod.mk.inj
    (List.inj_on_of_nodup_map distinct (mem_of_lookup isFound) member rfl)).2]

theorem lookup_of_nodup (distinct : (entries.map Prod.fst).Nodup)
    (member : (key, value) ∈ entries) : entries.lookup key = some value :=
  (lookup_eq_some_iff_mem distinct).mpr member

end QuantFactory.Library
