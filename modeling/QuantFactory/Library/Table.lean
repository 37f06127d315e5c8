import Mathlib.Data.List.Nodup
import Mathlib.Data.List.Basic

/-!
# Keyed tables

A table is a list of rows no two of which share a key: the rows of a relational
table with a primary key.  Inserting fails on a taken key; updating rewrites the
rows of one key by a key-preserving function, so every table reached from a
table is a table again.
-/

set_option autoImplicit false

namespace QuantFactory.Library

universe u v

structure Table (Row : Type u) (Key : Type v) (key : Row → Key) where
  rows : List Row
  unique : (rows.map key).Nodup

structure KeyedChange (Row : Type u) (Key : Type v) (key : Row → Key) where
  apply : Row → Row
  keeps : ∀ row, key (apply row) = key row

def KeyedChange.andThen {Row : Type u} {Key : Type v} {key : Row → Key}
    (first second : KeyedChange Row Key key) : KeyedChange Row Key key :=
  ⟨fun row => second.apply (first.apply row),
    fun row => (second.keeps _).trans (first.keeps row)⟩

namespace Table

variable {Row : Type u} {Key : Type v} {key : Row → Key} [DecidableEq Key]

def empty : Table Row Key key := ⟨[], List.nodup_nil⟩

def get (table : Table Row Key key) (k : Key) : Option Row :=
  table.rows.find? fun row => decide (key row = k)

def insert (table : Table Row Key key) (row : Row) : Option (Table Row Key key) :=
  if fresh : key row ∈ table.rows.map key then none
  else some ⟨row :: table.rows, List.nodup_cons.mpr ⟨fresh, table.unique⟩⟩

def rewrite (key : Row → Key) (k : Key) (f : Row → Row) (row : Row) : Row :=
  if key row = k then f row else row

/-- `UPDATE … WHERE key = k`. -/
def update (table : Table Row Key key) (k : Key) (change : KeyedChange Row Key key) :
    Table Row Key key :=
  ⟨table.rows.map (rewrite key k change.apply), by
    have same : (table.rows.map (rewrite key k change.apply)).map key = table.rows.map key := by
      rw [List.map_map]
      refine List.map_congr_left fun row _ => ?_
      simp only [Function.comp_apply, rewrite]
      split
      · exact change.keeps row
      · rfl
    rw [same]
    exact table.unique⟩

/-- `DELETE … WHERE key = k`. -/
def remove (table : Table Row Key key) (k : Key) : Table Row Key key :=
  ⟨table.rows.filter fun row => decide (key row ≠ k),
    List.Nodup.sublist (List.filter_sublist.map key) table.unique⟩

theorem get_some_key {table : Table Row Key key} {k : Key} {row : Row}
    (found : table.get k = some row) : key row = k := by
  simpa using List.find?_some found

theorem get_some_mem {table : Table Row Key key} {k : Key} {row : Row}
    (found : table.get k = some row) : row ∈ table.rows :=
  List.mem_of_find?_eq_some found

theorem get_of_mem {table : Table Row Key key} {row : Row} (member : row ∈ table.rows) :
    table.get (key row) = some row := by
  obtain ⟨rows, unique⟩ := table
  simp only [get]
  induction rows with
  | nil => simp at member
  | cons head rest ih =>
      rw [List.map_cons, List.nodup_cons] at unique
      rcases List.mem_cons.mp member with rfl | inRest
      · simp
      · have differs : key head ≠ key row := by
          intro same
          exact unique.1 (same ▸ List.mem_map_of_mem inRest)
        rw [List.find?_cons_of_neg (by simpa using differs)]
        exact ih unique.2 inRest

theorem get_eq_none_iff {table : Table Row Key key} {k : Key} :
    table.get k = none ↔ k ∉ table.rows.map key := by
  simp [get, List.find?_eq_none]

@[simp] theorem get_empty (k : Key) : (empty : Table Row Key key).get k = none := rfl

theorem insert_some_iff {table next : Table Row Key key} {row : Row} :
    table.insert row = some next ↔
      table.get (key row) = none ∧ next.rows = row :: table.rows := by
  obtain ⟨rows, unique⟩ := next
  rw [get_eq_none_iff]
  unfold insert
  by_cases taken : key row ∈ table.rows.map key
  · simp [taken]
  · rw [dif_neg taken]
    simp only [Option.some.injEq, mk.injEq, taken, not_false_eq_true, true_and]
    exact eq_comm

theorem get_insert {table next : Table Row Key key} {row : Row}
    (inserted : table.insert row = some next) (k : Key) :
    next.get k = if k = key row then some row else table.get k := by
  obtain ⟨_, rows⟩ := insert_some_iff.mp inserted
  simp only [get, rows]
  by_cases same : k = key row
  · simp [same]
  · rw [if_neg same, List.find?_cons_of_neg (by simpa using fun e => same e.symm)]

theorem insert_mem {table next : Table Row Key key} {row other : Row}
    (inserted : table.insert row = some next) :
    other ∈ next.rows ↔ other = row ∨ other ∈ table.rows := by
  rw [(insert_some_iff.mp inserted).2, List.mem_cons]

theorem get_remove (table : Table Row Key key) (k other : Key) :
    (table.remove k).get other = if other = k then none else table.get other := by
  simp only [get, remove]
  induction table.rows with
  | nil => simp
  | cons head rest ih =>
      by_cases gone : key head = k
      · rw [List.filter_cons_of_neg (by simpa using gone), ih]
        by_cases same : other = k
        · rw [if_pos same, if_pos same]
        · rw [if_neg same, if_neg same, List.find?_cons_of_neg]
          simpa [gone] using fun e => same e.symm
      · rw [List.filter_cons_of_pos (by simpa using gone), List.find?_cons, List.find?_cons, ih]
        by_cases hit : key head = other
        · have differs : other ≠ k := fun e => gone (hit.trans e)
          simp [hit, differs]
        · simp [hit]

section Update
variable (table : Table Row Key key) (k : Key) (change : KeyedChange Row Key key)

theorem get_update_self : (table.update k change).get k = (table.get k).map change.apply := by
  simp only [get, update]
  induction table.rows with
  | nil => rfl
  | cons head rest ih =>
      by_cases same : key head = k
      · have hit : key (rewrite key k change.apply head) = k := by
          simp [rewrite, same, change.keeps]
        rw [List.map_cons, List.find?_cons_of_pos (by simpa using hit),
          List.find?_cons_of_pos (by simpa using same)]
        simp [rewrite, same]
      · have miss : rewrite key k change.apply head = head := by simp [rewrite, same]
        rw [List.map_cons, miss, List.find?_cons_of_neg (by simpa using same),
          List.find?_cons_of_neg (by simpa using same), ih]

theorem get_update_of_ne {other : Key} (differs : other ≠ k) :
    (table.update k change).get other = table.get other := by
  simp only [get, update]
  induction table.rows with
  | nil => rfl
  | cons head rest ih =>
      by_cases same : key head = k
      · have miss : key (rewrite key k change.apply head) ≠ other := by
          simp only [rewrite, same, if_true, change.keeps]
          exact fun e => differs e.symm
        have missHead : key head ≠ other := by rw [same]; exact fun e => differs e.symm
        rw [List.map_cons, List.find?_cons_of_neg (by simpa using miss),
          List.find?_cons_of_neg (by simpa using missHead), ih]
      · have stays : rewrite key k change.apply head = head := by simp [rewrite, same]
        rw [List.map_cons, stays, List.find?_cons, List.find?_cons, ih]

theorem get_update (other : Key) :
    (table.update k change).get other =
      if other = k then (table.get k).map change.apply else table.get other := by
  by_cases same : other = k
  · subst same
    rw [if_pos rfl, get_update_self]
  · rw [if_neg same, get_update_of_ne table k change same]

theorem update_update (second : KeyedChange Row Key key) :
    (table.update k change).update k second = table.update k (change.andThen second) := by
  simp only [update, mk.injEq, List.map_map]
  refine List.map_congr_left fun row _ => ?_
  by_cases same : key row = k
  · simp [rewrite, same, change.keeps, KeyedChange.andThen]
  · simp [rewrite, same]

theorem update_mem {row : Row} : row ∈ (table.update k change).rows ↔
    ∃ old ∈ table.rows, row = if key old = k then change.apply old else old := by
  simp only [update, List.mem_map, rewrite]
  exact exists_congr fun old => and_congr_right fun _ => eq_comm

end Update

end Table

end QuantFactory.Library
