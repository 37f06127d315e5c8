import Mathlib.Data.List.Basic

/-!
# Lists taken in chunks

A list is cut at the multiples of a size, the last slice being what is left, and a loop
takes one slice after the other.  When what the loop adds for a slice is what its items
give one by one, the whole run gives what all items give one by one: the size is not seen.
-/

set_option autoImplicit false

namespace QuantFactory.Library

universe u v w

section Slices
variable {α : Type u}

/-- `range(0, length, size)`. -/
def chunkStarts (length size : Nat) : List Nat :=
  (List.range ((length + size - 1) / size)).map (· * size)

/-- `items[start : start + size]` for each start. -/
def slices (size : Nat) (items : List α) : List (List α) :=
  (chunkStarts items.length size).map fun start => (items.drop start).take size

theorem chunkStarts_zero (size : Nat) : chunkStarts 0 size = [] := by
  have none : (0 + size - 1) / size = 0 := by
    rcases Nat.eq_zero_or_pos size with rfl | positive
    · rfl
    · exact Nat.div_eq_of_lt (by omega)
  rw [chunkStarts, none]
  rfl

theorem chunkStarts_pos {length size : Nat} (positive : 0 < size) (some : 0 < length) :
    chunkStarts length size = 0 :: (chunkStarts (length - size) size).map (· + size) := by
  have count : (length + size - 1) / size = (length - size + size - 1) / size + 1 := by
    rcases Nat.lt_or_ge length size with short | long
    · have one : (length + size - 1) / size = 1 :=
        Nat.div_eq_of_lt_le (by omega) (by omega)
      have zero : (length - size + size - 1) / size = 0 := Nat.div_eq_of_lt (by omega)
      omega
    · have shifted : length + size - 1 = (length - size + size - 1) + size := by omega
      rw [shifted, Nat.add_div_right _ positive]
  simp only [chunkStarts, count, List.range_succ_eq_map, List.map_cons, Nat.zero_mul,
    List.map_map, List.cons.injEq, true_and]
  refine List.map_congr_left fun row _ => ?_
  simp only [Function.comp_apply]
  exact Nat.succ_mul row size

theorem slices_nil (size : Nat) : slices size ([] : List α) = [] := by
  rw [slices, List.length_nil, chunkStarts_zero]
  rfl

theorem slices_step {size : Nat} (positive : 0 < size) {items : List α} (some : items ≠ []) :
    slices size items = items.take size :: slices size (items.drop size) := by
  have length := List.length_pos_iff.mpr some
  rw [slices, chunkStarts_pos positive length, List.map_cons, List.drop_zero, List.map_map,
    slices, List.length_drop]
  congr 1
  refine List.map_congr_left fun start _ => ?_
  simp only [Function.comp_apply, List.drop_drop]
  rw [Nat.add_comm]

theorem slices_flatten {size : Nat} (positive : 0 < size) (items : List α) :
    (slices size items).flatten = items := by
  induction length : items.length using Nat.strongRecOn generalizing items with
  | ind n ih =>
      by_cases none : items = []
      · rw [none, slices_nil]
        rfl
      · have some := List.length_pos_iff.mpr none
        rw [slices_step positive none, List.flatten_cons,
          ih (items.drop size).length (by rw [List.length_drop]; omega) _ rfl]
        exact List.take_append_drop size items

theorem slices_nonempty {size : Nat} {items chunk : List α}
    (member : chunk ∈ slices size items) : chunk ≠ [] := by
  obtain ⟨start, started, rfl⟩ := List.mem_map.mp member
  obtain ⟨row, below, rfl⟩ := List.mem_map.mp started
  have within := List.mem_range.mp below
  have positive : 0 < size := by
    rcases Nat.eq_zero_or_pos size with rfl | positive
    · simp at within
    · exact positive
  have inside : row * size < items.length := by
    have enough := (Nat.lt_div_iff_mul_lt positive).mp within
    omega
  intro empty
  have zero := congrArg List.length empty
  simp only [List.length_take, List.length_drop, List.length_nil] at zero
  omega

end Slices

section Loop
variable {α γ : Type u} {ε : Type v} {σ ρ : Type u}
variable (step : σ → List α → Except ε (σ × ρ)) (add : ρ → ρ → ρ)

/-- One slice after the other; each adds to what the earlier ones gave. -/
def chunkLoop : List (List α) → σ → ρ → Except ε (σ × ρ)
  | [], state, total => .ok (state, total)
  | chunk :: rest, state, total =>
      match step state chunk with
      | .error raised => .error raised
      | .ok (next, part) => chunkLoop rest next (add total part)

/-- What a slice adds is what its items give, from every state the loop can be in. -/
structure ItemByItem (Inv : σ → Prop) (item : α → Option γ) (gather : List γ → ρ) : Prop where
  gathered : ∀ first second, gather (first ++ second) = add (gather first) (gather second)
  adds : ∀ state chunk, Inv state → chunk ≠ [] →
    (step state chunk).toOption.map Prod.snd = (chunk.mapM item).map gather
  keeps : ∀ state chunk next part, Inv state → step state chunk = .ok (next, part) → Inv next

theorem chunkLoop_eq {Inv : σ → Prop} {item : α → Option γ} {gather : List γ → ρ}
    (itemwise : ItemByItem step add Inv item gather) {chunks : List (List α)}
    (nonempty : ∀ chunk ∈ chunks, chunk ≠ []) : ∀ (state : σ) (done : List γ), Inv state →
    (chunkLoop step add chunks state (gather done)).toOption.map Prod.snd =
      (chunks.flatten.mapM item).map fun more => gather (done ++ more) := by
  induction chunks with
  | nil =>
      intro state done _
      simp [chunkLoop, Except.toOption]
  | cons chunk rest ih =>
      intro state done holds
      have added := itemwise.adds state chunk holds (nonempty chunk List.mem_cons_self)
      rw [List.flatten_cons, List.mapM_append]
      cases stepped : step state chunk with
      | error raised =>
          rw [stepped] at added
          have none : chunk.mapM item = none := by
            cases items : chunk.mapM item with
            | none => rfl
            | some results => simp [items, Except.toOption] at added
          simp [chunkLoop, stepped, none, Except.toOption]
      | ok result =>
          obtain ⟨next, part⟩ := result
          rw [stepped] at added
          cases items : chunk.mapM item with
          | none => simp [items, Except.toOption] at added
          | some results =>
              have same : part = gather results := by
                simpa [items, Except.toOption] using added
              have later := ih (fun other member => nonempty other (List.mem_cons_of_mem _ member))
                next (done ++ results) (itemwise.keeps state chunk next part holds stepped)
              simp only [chunkLoop, stepped]
              rw [same, ← itemwise.gathered, later]
              cases others : rest.flatten.mapM item with
              | none => simp
              | some more => simp

/-- Two positive sizes give the same run. -/
theorem chunkLoop_slices {Inv : σ → Prop} {item : α → Option γ} {gather : List γ → ρ}
    (itemwise : ItemByItem step add Inv item gather) {size : Nat} (positive : 0 < size)
    (items : List α) {state : σ} (holds : Inv state) :
    (chunkLoop step add (slices size items) state (gather [])).toOption.map Prod.snd =
      (items.mapM item).map gather := by
  rw [chunkLoop_eq step add itemwise (fun chunk member => slices_nonempty member) state [] holds,
    slices_flatten positive]
  rfl

end Loop

end QuantFactory.Library
