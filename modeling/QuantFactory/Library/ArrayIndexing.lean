import Mathlib
import QuantFactory.Library.OrderedCuts

/-!
# Indexing of arrays

Gathering and scattering by lists of positions, the stable sorting permutation and its
inverse, repetition by counts, and the bounds of the blocks of equal keys.
-/

set_option autoImplicit false

namespace QuantFactory.Library

universe u v

section Gather
variable {α : Type u} {β : Type v}

/-- `xs[index]`. -/
def taken (xs : List α) (index : List Nat) : List α := index.filterMap (xs[·]?)

theorem getElem?_taken {xs : List α} {index : List Nat} (valid : ∀ j ∈ index, j < xs.length)
    (i : Nat) : (taken xs index)[i]? = index[i]?.bind (xs[·]?) := by
  induction index generalizing i with
  | nil => rfl
  | cons j rest ih =>
      have within := valid j List.mem_cons_self
      have tail := ih fun j member => valid j (List.mem_cons_of_mem _ member)
      rw [taken, List.filterMap_cons_some (List.getElem?_eq_getElem within), ← taken]
      cases i with
      | zero => simp [within]
      | succ i => simpa only [List.getElem?_cons_succ] using tail i

theorem taken_range (xs : List α) : taken xs (List.range xs.length) = xs := by
  apply List.ext_getElem?
  intro i
  rw [getElem?_taken fun j member => List.mem_range.mp member]
  rcases lt_or_ge i xs.length with within | past
  · rw [List.getElem?_range within, Option.bind_some]
  · rw [List.getElem?_eq_none past, List.getElem?_eq_none (by simpa using past), Option.bind_none]

theorem length_taken_le (xs : List α) (index : List Nat) : (taken xs index).length ≤ index.length :=
  List.length_filterMap_le _ _

theorem taken_of_entries {xs : List α} {entries : List (α × Nat)} (f : α → β)
    (from_xs : ∀ entry ∈ entries, xs[entry.2]? = some entry.1) :
    taken (xs.map f) (entries.map Prod.snd) = entries.map fun entry => f entry.1 := by
  induction entries with
  | nil => rfl
  | cons entry rest ih =>
      have head := from_xs entry List.mem_cons_self
      have read : (xs.map f)[entry.2]? = some (f entry.1) := by rw [List.getElem?_map, head]; rfl
      rw [List.map_cons, taken, List.filterMap_cons_some read, ← taken, List.map_cons,
        ih fun entry member => from_xs entry (List.mem_cons_of_mem _ member)]

end Gather

section Scatter
variable {α : Type u}

/-- `target[rows] = xs`. -/
def scatter (target : List α) (rows : List Nat) (xs : List α) : List α :=
  (rows.zip xs).foldl (fun target entry => target.set entry.1 entry.2) target

@[simp] theorem length_scatter (target : List α) (rows : List Nat) (xs : List α) :
    (scatter target rows xs).length = target.length := by
  rw [scatter]
  generalize rows.zip xs = entries
  induction entries generalizing target with
  | nil => rfl
  | cons entry rest ih => rw [List.foldl_cons, ih, List.length_set]

/-- What is scattered is a function of the row, so a row given twice gets one value. -/
theorem getElem?_scatter {target : List α} {rows : List Nat} (f : Nat → α) {i : Nat}
    (within : i < target.length) :
    (scatter target rows (rows.map f))[i]? = if i ∈ rows then some (f i) else target[i]? := by
  induction rows generalizing target with
  | nil => rfl
  | cons row rest ih =>
      have step : scatter target (row :: rest) ((row :: rest).map f) =
          scatter (target.set row (f row)) rest (rest.map f) := rfl
      rw [step, ih (by rw [List.length_set]; exact within)]
      by_cases later : i ∈ rest
      · rw [if_pos later, if_pos (List.mem_cons_of_mem _ later)]
      · rw [if_neg later]
        by_cases here : row = i
        · subst here
          rw [if_pos List.mem_cons_self, List.getElem?_set_self within]
        · have absent : i ∉ row :: rest := by
            intro member
            rcases List.mem_cons.mp member with rfl | inRest
            · exact here rfl
            · exact later inRest
          rw [if_neg absent, List.getElem?_set_ne here]

end Scatter

section Argsort
variable {α : Type u} {κ : Type v} [LinearOrder κ]

/-- The positions of the keys in ascending order, positions of equal keys in their order. -/
def argsort (keys : List κ) : List Nat :=
  (keys.zipIdx.insertionSort fun a b => a.1 ≤ b.1).map Prod.snd

def sortedEntries (key : α → κ) (xs : List α) : List (α × Nat) :=
  xs.zipIdx.insertionSort fun a b => key a.1 ≤ key b.1

variable (key : α → κ) (xs : List α)

theorem sortedEntries_perm : (sortedEntries key xs).Perm xs.zipIdx := List.perm_insertionSort _ _

theorem sortedEntries_sorted :
    (sortedEntries key xs).Pairwise fun a b => key a.1 ≤ key b.1 := by
  have trans : IsTrans (α × Nat) fun a b => key a.1 ≤ key b.1 := ⟨fun _ _ _ => le_trans⟩
  have total : Std.Total fun a b : α × Nat => key a.1 ≤ key b.1 :=
    ⟨fun a b => le_total (key a.1) (key b.1)⟩
  exact List.pairwise_insertionSort _ _

variable {key xs} in
theorem mem_sortedEntries {entry : α × Nat} :
    entry ∈ sortedEntries key xs ↔ xs[entry.2]? = some entry.1 := by
  rw [(sortedEntries_perm key xs).mem_iff, List.mem_zipIdx_iff_getElem?]

theorem argsort_map : argsort (xs.map key) = (sortedEntries key xs).map Prod.snd := by
  have paired : (xs.map key).zipIdx = xs.zipIdx.map (Prod.map key id) := by
    rw [List.zipIdx_map]
  rw [argsort, paired, ← List.map_insertionSort (fun a b : α × Nat => key a.1 ≤ key b.1), List.map_map]
  · rfl
  · intros
    rfl

theorem taken_argsort {β : Type v} (f : α → β) :
    taken (xs.map f) (argsort (xs.map key)) = (sortedEntries key xs).map fun entry => f entry.1 := by
  rw [argsort_map key xs]
  exact taken_of_entries f fun entry member => mem_sortedEntries.mp member

theorem argsort_perm (keys : List κ) : (argsort keys).Perm (List.range keys.length) := by
  have perm := (List.perm_insertionSort (fun a b : κ × Nat => a.1 ≤ b.1) keys.zipIdx).map Prod.snd
  rwa [List.zipIdx_map_snd, ← List.range_eq_range'] at perm

theorem getElem?_argsort_of_perm {order : List Nat} {n : Nat} (perm : order.Perm (List.range n))
    {k i : Nat} (at_k : order[k]? = some i) : (argsort order)[i]? = some k := by
  have keys : (sortedEntries id order).map Prod.fst = List.range n := by
    apply List.Perm.eq_of_pairwise (fun _ _ _ _ below above => le_antisymm below above)
    · exact List.pairwise_map.mpr (sortedEntries_sorted id order)
    · exact List.pairwise_le_range
    · have fst := (sortedEntries_perm id order).map Prod.fst
      rw [List.zipIdx_map_fst] at fst
      exact fst.trans perm
  have below : i < n := List.mem_range.mp (perm.mem_iff.mp (List.mem_of_getElem? at_k))
  have length : (sortedEntries id order).length = n := by
    have same := congrArg List.length keys
    rwa [List.length_map, List.length_range] at same
  have there := List.getElem?_eq_getElem (length.symm ▸ below : i < (sortedEntries id order).length)
  generalize (sortedEntries id order)[i] = entry at there
  have fst : entry.1 = i := by
    have read := congrArg (·[i]?) keys
    simp only [List.getElem?_map, there, List.getElem?_range below, Option.map_some,
      Option.some.injEq] at read
    exact read
  have position := mem_sortedEntries.mp (List.mem_of_getElem? there)
  have snd : entry.2 = k := by
    have nodup : order.Nodup := perm.nodup_iff.mpr List.nodup_range
    have within : entry.2 < order.length := (List.getElem?_eq_some_iff.mp position).1
    apply (List.getElem?_inj within nodup).mp
    rw [position, at_k, fst]
  have sorted : argsort order = (sortedEntries id order).map Prod.snd := by
    have as_map := argsort_map id order
    rwa [List.map_id] at as_map
  rw [sorted, List.getElem?_map, there, Option.map_some, snd]

/-- Values computed in sorted order, put back where their entries came from. -/
theorem getElem?_taken_argsort {order : List Nat} {n : Nat} (perm : order.Perm (List.range n))
    {flags : List α} (length : n ≤ flags.length) {k i : Nat} (at_k : order[k]? = some i) :
    (taken flags (argsort order))[i]? = flags[k]? := by
  have count : order.length = n := by rw [perm.length_eq, List.length_range]
  rw [getElem?_taken, getElem?_argsort_of_perm perm at_k, Option.bind_some]
  intro j member
  have below := List.mem_range.mp ((argsort_perm order).mem_iff.mp member)
  omega

end Argsort

section Repeat
variable {α : Type u}

/-- `np.repeat(items, counts)`. -/
def repeated (items : List α) (counts : List Nat) : List α :=
  (items.zip counts).flatMap fun entry => List.replicate entry.2 entry.1

theorem repeated_append {items more : List α} {counts rest : List Nat}
    (same : items.length = counts.length) :
    repeated (items ++ more) (counts ++ rest) = repeated items counts ++ repeated more rest := by
  rw [repeated, List.zip_append same, List.flatMap_append]
  rfl

theorem repeated_cons (item : α) (items : List α) (count : Nat) (counts : List Nat) :
    repeated (item :: items) (count :: counts) =
      List.replicate count item ++ repeated items counts := rfl

theorem length_repeated {items : List α} {counts : List Nat}
    (same : items.length = counts.length) : (repeated items counts).length = counts.sum := by
  induction items generalizing counts with
  | nil =>
      cases counts with
      | nil => rfl
      | cons count rest => simp at same
  | cons item rest ih =>
      cases counts with
      | nil => simp at same
      | cons count counts =>
          rw [repeated_cons, List.length_append, List.length_replicate,
            ih (Nat.succ.inj same), List.sum_cons]

theorem mem_of_mem_repeated {items : List α} {counts : List Nat} {item : α}
    (member : item ∈ repeated items counts) : item ∈ items := by
  obtain ⟨entry, inZip, copies⟩ := List.mem_flatMap.mp member
  rw [List.eq_of_mem_replicate copies]
  exact (List.of_mem_zip inZip).1

end Repeat

section Differences
variable {α : Type u} [Sub α]

/-- `np.diff(xs)`. -/
def differences (xs : List α) : List α := List.zipWith (fun a b => b - a) xs xs.tail

@[simp] theorem differences_cons_cons (a b : α) (rest : List α) :
    differences (a :: b :: rest) = (b - a) :: differences (b :: rest) := rfl

@[simp] theorem length_differences (xs : List α) : (differences xs).length = xs.length - 1 := by
  rw [differences, List.length_zipWith, List.length_tail]
  omega

theorem getElem?_differences (xs : List α) (i : Nat) :
    (differences xs)[i]? = xs[i]?.bind fun a => (xs[i + 1]?).map (· - a) := by
  rw [differences, List.getElem?_zipWith, List.getElem?_tail]
  cases xs[i]? <;> cases xs[i + 1]? <;> rfl

theorem differences_append (xs : List α) (b : α) (rest : List α) :
    differences (xs ++ b :: rest) = differences (xs ++ [b]) ++ differences (b :: rest) := by
  induction xs with
  | nil => rfl
  | cons a xs ih =>
      cases xs with
      | nil => rfl
      | cons c xs =>
          simp only [List.cons_append, differences_cons_cons] at ih ⊢
          rw [ih]

end Differences

/-- The steps of an ascending list add up to its whole rise. -/
theorem sum_differences {a b : Nat} {xs : List Nat} (sorted : (a :: xs).Pairwise (· ≤ ·))
    (last : (a :: xs).getLast? = some b) : a + (differences (a :: xs)).sum = b := by
  induction xs generalizing a with
  | nil =>
      have same : a = b := by simpa using last
      simp [differences, same]
  | cons c rest ih =>
      obtain ⟨least, tail⟩ := List.pairwise_cons.mp sorted
      have step := least c List.mem_cons_self
      have below := ih tail (by simpa using last)
      rw [differences_cons_cons, List.sum_cons]
      omega

section Blocks

def flatnonzero (xs : List Int) : List Nat :=
  (xs.zipIdx.filter fun entry => decide (entry.1 ≠ 0)).map Prod.snd

/-- `np.concatenate([[0], np.flatnonzero(np.diff(keys)) + 1, [len(keys)]])`. -/
def blockBounds (keys : List Int) : List Nat :=
  0 :: (flatnonzero (differences keys)).map (· + 1) ++ [keys.length]

theorem mem_flatnonzero {xs : List Int} {i : Nat} :
    i ∈ flatnonzero xs ↔ ∃ x, xs[i]? = some x ∧ x ≠ 0 := by
  rw [flatnonzero, List.mem_map]
  constructor
  · rintro ⟨⟨x, j⟩, member, rfl⟩
    obtain ⟨inZip, nonzero⟩ := List.mem_filter.mp member
    exact ⟨x, List.mem_zipIdx_iff_getElem?.mp inZip, of_decide_eq_true nonzero⟩
  · rintro ⟨x, there, nonzero⟩
    refine ⟨(x, i), List.mem_filter.mpr ⟨?_, decide_eq_true nonzero⟩, rfl⟩
    exact List.mem_zipIdx_iff_getElem?.mpr there

theorem flatnonzero_sorted (xs : List Int) : (flatnonzero xs).Pairwise (· < ·) := by
  have positions : (xs.zipIdx.map Prod.snd).Pairwise (· < ·) := by
    rw [List.zipIdx_map_snd, ← List.range_eq_range']
    exact List.pairwise_lt_range
  exact positions.sublist (List.filter_sublist.map Prod.snd)

theorem mem_flatnonzero_differences {keys : List Int} {i : Nat} :
    i ∈ flatnonzero (differences keys) ↔
      ∃ a b, keys[i]? = some a ∧ keys[i + 1]? = some b ∧ a ≠ b := by
  rw [mem_flatnonzero, getElem?_differences]
  cases keys[i]? with
  | none => simp
  | some a =>
      cases keys[i + 1]? with
      | none => simp
      | some b =>
          have moved : b - a ≠ 0 ↔ a ≠ b := by omega
          simp only [Option.map_some, Option.bind_some, Option.some.injEq, exists_eq_left', moved,
            exists_and_left]

theorem blockBounds_sorted {keys : List Int} (nonempty : keys ≠ []) :
    (blockBounds keys).Pairwise (· < ·) := by
  have change : ∀ b ∈ (flatnonzero (differences keys)).map (· + 1), 0 < b ∧ b < keys.length := by
    intro b member
    obtain ⟨i, at_i, rfl⟩ := List.mem_map.mp member
    obtain ⟨-, next, -, there, -⟩ := mem_flatnonzero_differences.mp at_i
    exact ⟨Nat.succ_pos i, (List.getElem?_eq_some_iff.mp there).1⟩
  have positive := List.length_pos_iff.mpr nonempty
  rw [blockBounds, List.cons_append, List.pairwise_cons, List.pairwise_append]
  refine ⟨?_, ?_, List.pairwise_singleton _ _, ?_⟩
  · intro b member
    rcases List.mem_append.mp member with inside | last
    · exact (change b inside).1
    · rw [List.mem_singleton.mp last]
      exact positive
  · rw [List.pairwise_map]
    apply (flatnonzero_sorted _).imp
    intro a b below
    omega
  · intro b inside last member
    rw [List.mem_singleton.mp member]
    exact (change b inside).2

/-- Two entries of a strictly sorted list with nothing between them stand side by side. -/
theorem exists_consecutive {xs : List Nat} (sorted : xs.Pairwise (· < ·)) {a b : Nat}
    (first : a ∈ xs) (second : b ∈ xs) (below : a < b)
    (between : ∀ c ∈ xs, c ≤ a ∨ b ≤ c) :
    ∃ front back, xs = front ++ a :: b :: back := by
  obtain ⟨front, tail, rfl⟩ := List.append_of_mem first
  obtain ⟨-, sortedTail, apart⟩ := List.pairwise_append.mp sorted
  obtain ⟨after, sortedRest⟩ := List.pairwise_cons.mp sortedTail
  have inTail : b ∈ tail := by
    rcases List.mem_append.mp second with inFront | inRest
    · have early := apart b inFront a List.mem_cons_self
      omega
    · rcases List.mem_cons.mp inRest with rfl | inTail
      · omega
      · exact inTail
  cases tail with
  | nil => simp at inTail
  | cons c rest =>
      have least : b ≤ c := by
        have later := after c List.mem_cons_self
        rcases between c (by simp) with early | late
        · omega
        · exact late
      have same : b = c := by
        rcases List.mem_cons.mp inTail with equal | inRest
        · exact equal
        · have later := (List.pairwise_cons.mp sortedRest).1 b inRest
          omega
      exact ⟨front, rest, by rw [same]⟩

/-- A block of one key between other keys has its two ends side by side in the bounds. -/
theorem blockBounds_of_block {before block after : List Int} {key : Int} (some : block ≠ [])
    (same : ∀ k ∈ block, k = key) (earlier : ∀ k ∈ before, k ≠ key) (later : ∀ k ∈ after, k ≠ key) :
    ∃ front back, blockBounds (before ++ (block ++ after)) =
      front ++ before.length :: (before.length + block.length) :: back := by
  have length := List.length_pos_iff.mpr some
  have inside : ∀ i, before.length ≤ i → i < before.length + block.length →
      (before ++ (block ++ after))[i]? = Option.some key := by
    intro i low high
    rw [List.getElem?_append_right low, List.getElem?_append_left (by omega)]
    have within : i - before.length < block.length := by omega
    rw [List.getElem?_eq_getElem within, same _ (List.getElem_mem within)]
  have inBounds : ∀ i, i ∈ flatnonzero (differences (before ++ (block ++ after))) →
      i + 1 ∈ blockBounds (before ++ (block ++ after)) := by
    intro i member
    rw [blockBounds, List.cons_append]
    exact List.mem_cons_of_mem _
      (List.mem_append_left _ (List.mem_map.mpr ⟨i, member, rfl⟩))
  apply exists_consecutive (blockBounds_sorted (by simp [some]))
  · cases position : before.length with
    | zero => exact List.mem_cons_self
    | succ i =>
        apply inBounds
        have within : i < before.length := by omega
        rw [mem_flatnonzero_differences]
        refine ⟨before[i], key, ?_, inside (i + 1) (by omega) (by omega),
          earlier _ (List.getElem_mem within)⟩
        rw [List.getElem?_append_left within, List.getElem?_eq_getElem within]
  · cases rest : after with
    | nil => simp [blockBounds]
    | cons next tail =>
        obtain ⟨i, last⟩ : ∃ i, before.length + block.length = i + 1 :=
          ⟨before.length + block.length - 1, by omega⟩
        rw [last, ← rest]
        apply inBounds
        rw [mem_flatnonzero_differences]
        refine ⟨key, next, inside i (by omega) (by omega), ?_, ?_⟩
        · rw [List.getElem?_append_right (by omega), List.getElem?_append_right (by omega), rest]
          have zero : i + 1 - before.length - block.length = 0 := by omega
          rw [zero]
          rfl
        · exact (later next (rest ▸ List.mem_cons_self)).symm
  · omega
  · intro c member
    rw [blockBounds, List.cons_append, List.mem_cons, List.mem_append] at member
    rcases member with rfl | change | last
    · omega
    · obtain ⟨i, at_i, rfl⟩ := List.mem_map.mp change
      obtain ⟨a, b, here, next, differ⟩ := mem_flatnonzero_differences.mp at_i
      by_contra strictly
      have low : before.length ≤ i := by omega
      rw [inside i low (by omega), Option.some.injEq] at here
      rw [inside (i + 1) (by omega) (by omega), Option.some.injEq] at next
      exact differ (here.symm.trans next)
    · rw [List.mem_singleton.mp last]
      simp only [List.length_append]
      omega

theorem repeated_block {α : Type u} {front back : List Nat} {a b : Nat} {bounds : List Nat}
    (shape : bounds = front ++ a :: b :: back) (start : bounds.head? = some 0)
    (sorted : bounds.Pairwise (· < ·)) (early : List α) (item : α) (late : List α)
    (same : early.length = front.length) :
    ∃ head tail, repeated (early ++ item :: late) (differences bounds) =
        head ++ (List.replicate (b - a) item ++ tail) ∧
      head.length = a ∧ (∀ x ∈ head, x ∈ early) ∧ ∀ x ∈ tail, x ∈ late := by
  have counted : early.length = (differences (front ++ [a])).length := by
    rw [length_differences, List.length_append, List.length_singleton, same]
    omega
  have cut : differences bounds =
      differences (front ++ [a]) ++ ((b - a) :: differences (b :: back)) := by
    rw [shape, differences_append, differences_cons_cons]
  refine ⟨repeated early (differences (front ++ [a])), repeated late (differences (b :: back)),
    ?_, ?_, fun x => mem_of_mem_repeated, fun x => mem_of_mem_repeated⟩
  · rw [cut, repeated_append counted, repeated_cons]
  · rw [length_repeated counted]
    have whole : (front ++ [a]).Pairwise (· ≤ ·) := by
      have weak := sorted.imp fun below => Nat.le_of_lt below
      rw [shape, List.append_cons] at weak
      exact (List.pairwise_append.mp weak).1
    cases front with
    | nil =>
        have zero : a = 0 := by simpa [shape] using start
        simp [differences, zero]
    | cons c rest =>
        have zero : c = 0 := by simpa [shape] using start
        have last : (c :: (rest ++ [a])).getLast? = some a := by
          rw [← List.cons_append, List.getLast?_append_cons]
          rfl
        have rise := sum_differences whole last
        rw [zero, Nat.zero_add] at rise
        rw [zero]
        exact rise

end Blocks

section SplitAtKey
variable {α : Type u} {κ : Type v} [LinearOrder κ]

/-- The entries of one key stand together in a list sorted by key. -/
theorem filter_lt_append_eq_append_gt {key : α → κ} {xs : List α}
    (sorted : xs.Pairwise fun a b => key a ≤ key b) (k : κ) :
    xs.filter (fun x => decide (key x < k)) ++
      (xs.filter (fun x => decide (key x = k)) ++ xs.filter (fun x => decide (k < key x))) = xs := by
  have cut : xs.filter (fun x => decide (key x < k)) ++
      xs.filter (fun x => !decide (key x < k)) = xs := by
    apply filter_append_filter_not
    apply sorted.imp
    intro a b below held
    exact decide_eq_true (below.trans_lt (of_decide_eq_true held))
  have rest : (xs.filter fun x => !decide (key x < k)).filter (fun x => decide (key x ≤ k)) ++
      (xs.filter fun x => !decide (key x < k)).filter (fun x => !decide (key x ≤ k)) =
        xs.filter fun x => !decide (key x < k) := by
    apply filter_append_filter_not
    apply (sorted.sublist List.filter_sublist).imp
    intro a b below held
    exact decide_eq_true (below.trans (of_decide_eq_true held))
  rw [List.filter_filter, List.filter_filter] at rest
  have equal : ∀ x, (decide (key x ≤ k) && !decide (key x < k)) = decide (key x = k) := by
    intro x
    rw [← decide_not, ← Bool.decide_and, decide_eq_decide, not_lt]
    exact ⟨fun both => le_antisymm both.1 both.2, fun equal => ⟨equal.le, equal.ge⟩⟩
  have above : ∀ x, (!decide (key x ≤ k) && !decide (key x < k)) = decide (k < key x) := by
    intro x
    rw [← decide_not, ← decide_not, ← Bool.decide_and, decide_eq_decide, not_le, not_lt]
    exact ⟨fun both => both.1, fun above => ⟨above, above.le⟩⟩
  simp only [equal, above] at rest
  rw [rest, cut]

end SplitAtKey

end QuantFactory.Library
