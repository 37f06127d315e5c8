import QuantFactory.Python.Value

/-!
# Deterministic JSON serialization

`persistence/serialization.py`: `_normalize` sorts every mapping by key and
refuses non-finite floats, and `canonical_json` writes the result.  The text
itself is `json.dumps` of the normalized value, `json.loads` reads it back and
`hashlib.sha256` digests it; the three are taken as functions of the runtime.
-/

set_option autoImplicit false

namespace QuantFactory.Persistence

open QuantFactory.Python

structure PythonRuntime (F : Type) where
  jsonDumps : PyValue F → String
  jsonLoads : String → Option (PyValue F)
  sha256Hex : String → String

variable {F : Type} [PyFloat F]

def keyLe (a b : String × PyValue F) : Prop := a.1 ≤ b.1

instance : DecidableRel (keyLe (F := F)) := fun a b => inferInstanceAs (Decidable (a.1 ≤ b.1))

def nonFiniteFloat : String := "canonical JSON cannot serialize non-finite floats"

mutual

def normalize : PyValue F → Except String (PyValue F)
  | .none => .ok .none
  | .bool value => .ok (.bool value)
  | .int value => .ok (.int value)
  | .float value => if PyFloat.isFinite value then .ok (.float value) else .error nonFiniteFloat
  | .str value => .ok (.str value)
  | .list items =>
      match normalizeItems items with
      | .error message => .error message
      | .ok normalized => .ok (.list normalized)
  | .dict entries =>
      match normalizeEntries entries with
      | .error message => .error message
      | .ok normalized => .ok (.dict (normalized.insertionSort keyLe))

def normalizeItems : List (PyValue F) → Except String (List (PyValue F))
  | [] => .ok []
  | item :: rest =>
      match normalize item, normalizeItems rest with
      | .ok head, .ok tail => .ok (head :: tail)
      | .error message, _ => .error message
      | .ok _, .error message => .error message

def normalizeEntries : List (String × PyValue F) → Except String (List (String × PyValue F))
  | [] => .ok []
  | (key, value) :: rest =>
      match normalize value, normalizeEntries rest with
      | .ok head, .ok tail => .ok ((key, head) :: tail)
      | .error message, _ => .error message
      | .ok _, .error message => .error message

end

def canonicalJson (runtime : PythonRuntime F) (value : PyValue F) : Except String String :=
  match normalize value with
  | .error message => .error message
  | .ok normalized => .ok (runtime.jsonDumps normalized)

theorem normalize_list_inv {items : List (PyValue F)} {normalized : PyValue F}
    (done : normalize (.list items) = .ok normalized) :
    ∃ written, normalizeItems items = .ok written ∧ normalized = .list written := by
  unfold normalize at done
  split at done
  · cases done
  · rename_i written isWritten
    exact ⟨written, isWritten, (Except.ok.inj done).symm⟩

theorem normalize_dict_inv {entries : Entries F} {normalized : PyValue F}
    (done : normalize (.dict entries) = .ok normalized) :
    ∃ written, normalizeEntries entries = .ok written ∧
      normalized = .dict (written.insertionSort keyLe) := by
  unfold normalize at done
  split at done
  · cases done
  · rename_i written isWritten
    exact ⟨written, isWritten, (Except.ok.inj done).symm⟩

theorem normalizeItems_inv {item : PyValue F} {rest normalized : List (PyValue F)}
    (done : normalizeItems (item :: rest) = .ok normalized) :
    ∃ head tail, normalize item = .ok head ∧ normalizeItems rest = .ok tail ∧
      normalized = head :: tail := by
  unfold normalizeItems at done
  split at done
  · rename_i head tail isHead isTail
    exact ⟨head, tail, isHead, isTail, (Except.ok.inj done).symm⟩
  · cases done
  · cases done

theorem normalizeEntries_inv {key : String} {value : PyValue F} {rest normalized : Entries F}
    (done : normalizeEntries ((key, value) :: rest) = .ok normalized) :
    ∃ head tail, normalize value = .ok head ∧ normalizeEntries rest = .ok tail ∧
      normalized = (key, head) :: tail := by
  unfold normalizeEntries at done
  split at done
  · rename_i head tail isHead isTail
    exact ⟨head, tail, isHead, isTail, (Except.ok.inj done).symm⟩
  · cases done
  · cases done

/-! ## What normalization keeps -/

mutual

def allFinite : PyValue F → Bool
  | .float value => PyFloat.isFinite value
  | .list items => allFiniteItems items
  | .dict entries => allFiniteEntries entries
  | _ => true

def allFiniteItems : List (PyValue F) → Bool
  | [] => true
  | item :: rest => allFinite item && allFiniteItems rest

def allFiniteEntries : List (String × PyValue F) → Bool
  | [] => true
  | (_, value) :: rest => allFinite value && allFiniteEntries rest

end

theorem allFiniteEntries_eq_all (entries : Entries F) :
    allFiniteEntries entries = entries.all fun entry => allFinite entry.2 := by
  induction entries with
  | nil => rfl
  | cons entry rest ih => simp [allFiniteEntries, ih]

theorem allFiniteEntries_append (first second : Entries F) :
    allFiniteEntries (first ++ second) = (allFiniteEntries first && allFiniteEntries second) := by
  simp [allFiniteEntries_eq_all]

theorem allFiniteItems_map {α : Type} (items : List α) (f : α → PyValue F) :
    allFiniteItems (items.map f) = items.all fun item => allFinite (f item) := by
  induction items with
  | nil => rfl
  | cons item rest ih => simp [allFiniteItems, ih]

mutual

theorem normalize_ok_iff (value : PyValue F) :
    (∃ normalized, normalize value = .ok normalized) ↔ allFinite value = true := by
  cases value with
  | float value => by_cases finite : PyFloat.isFinite value = true <;> simp [normalize, allFinite, finite]
  | list items =>
      have inner := normalizeItems_ok_iff items
      rw [allFinite, ← inner]
      cases outcome : normalizeItems items <;> simp [normalize, outcome]
  | dict entries =>
      have inner := normalizeEntries_ok_iff entries
      rw [allFinite, ← inner]
      cases outcome : normalizeEntries entries <;> simp [normalize, outcome]
  | _ => simp [normalize, allFinite]

theorem normalizeItems_ok_iff (items : List (PyValue F)) :
    (∃ normalized, normalizeItems items = .ok normalized) ↔ allFiniteItems items = true := by
  cases items with
  | nil => simp [normalizeItems, allFiniteItems]
  | cons item rest =>
      have head := normalize_ok_iff item
      have tail := normalizeItems_ok_iff rest
      rw [allFiniteItems, Bool.and_eq_true, ← head, ← tail]
      cases first : normalize item <;> cases later : normalizeItems rest <;>
        simp [normalizeItems, first, later]

theorem normalizeEntries_ok_iff (entries : List (String × PyValue F)) :
    (∃ normalized, normalizeEntries entries = .ok normalized) ↔
      allFiniteEntries entries = true := by
  cases entries with
  | nil => simp [normalizeEntries, allFiniteEntries]
  | cons entry rest =>
      obtain ⟨key, value⟩ := entry
      have head := normalize_ok_iff value
      have tail := normalizeEntries_ok_iff rest
      rw [allFiniteEntries, Bool.and_eq_true, ← head, ← tail]
      cases first : normalize value <;> cases later : normalizeEntries rest <;>
        simp [normalizeEntries, first, later]

end

instance : Std.Total (keyLe (F := F)) := ⟨fun a b => String.le_total a.1 b.1⟩

instance : IsTrans (String × PyValue F) keyLe :=
  ⟨fun a b c (ab : a.1 ≤ b.1) (bc : b.1 ≤ c.1) => String.le_trans ab bc⟩

omit [PyFloat F] in
theorem lookup_insertionSort (key : String) (entries : Entries F) :
    (entries.insertionSort keyLe).lookup key = entries.lookup key := by
  have insert : ∀ (entry : String × PyValue F) (sorted : Entries F),
      (sorted.orderedInsert keyLe entry).lookup key = (entry :: sorted).lookup key := by
    intro entry sorted
    induction sorted with
    | nil => rfl
    | cons head rest ih =>
        rw [List.orderedInsert_cons]
        split
        · rfl
        · rename_i after
          have differs : head.1 ≠ entry.1 := by
            intro same
            exact after (by simp [keyLe, same])
          obtain ⟨headKey, headValue⟩ := head
          obtain ⟨entryKey, entryValue⟩ := entry
          rw [List.lookup_cons, ih]
          simp only [List.lookup_cons] at differs ⊢
          by_cases first : key = headKey
          · subst first
            have other : (key == entryKey) = false := by simpa using differs
            simp [other]
          · have other : (key == headKey) = false := by simpa using first
            simp [other]
  induction entries with
  | nil => rfl
  | cons entry rest ih =>
      rw [List.insertionSort_cons, insert]
      obtain ⟨entryKey, entryValue⟩ := entry
      simp only [List.lookup_cons, ih]

theorem normalizeItems_eq_self {items : List (PyValue F)}
    (fixed : ∀ item ∈ items, normalize item = .ok item) : normalizeItems items = .ok items := by
  induction items with
  | nil => rfl
  | cons item rest ih =>
      have tail := ih fun other member => fixed other (List.mem_cons_of_mem _ member)
      simp [normalizeItems, fixed item List.mem_cons_self, tail]

theorem normalizeEntries_eq_self {entries : Entries F}
    (fixed : ∀ entry ∈ entries, normalize entry.2 = .ok entry.2) :
    normalizeEntries entries = .ok entries := by
  induction entries with
  | nil => rfl
  | cons entry rest ih =>
      have tail := ih fun other member => fixed other (List.mem_cons_of_mem _ member)
      obtain ⟨key, value⟩ := entry
      simp [normalizeEntries, fixed (key, value) List.mem_cons_self, tail]

mutual

theorem normalize_idempotent (value : PyValue F) {normalized : PyValue F}
    (done : normalize value = .ok normalized) : normalize normalized = .ok normalized := by
  cases value with
  | float value =>
      unfold normalize at done
      split at done
      · rename_i finite
        cases Except.ok.inj done
        simp [normalize, finite]
      · cases done
  | list items =>
      obtain ⟨inner, same, rfl⟩ := normalize_list_inv done
      simp [normalize, normalizeItems_eq_self (normalizeItems_fixed items same)]
  | dict entries =>
      obtain ⟨inner, same, rfl⟩ := normalize_dict_inv done
      have fixed : ∀ entry ∈ inner.insertionSort keyLe, normalize entry.2 = .ok entry.2 :=
        fun entry member => normalizeEntries_fixed entries same entry
          ((List.mem_insertionSort keyLe).mp member)
      simp only [normalize, normalizeEntries_eq_self fixed]
      rw [(inner.pairwise_insertionSort keyLe).insertionSort_eq]
  | _ =>
      cases Except.ok.inj done
      rfl

theorem normalizeItems_fixed (items : List (PyValue F)) {normalized : List (PyValue F)}
    (done : normalizeItems items = .ok normalized) :
    ∀ item ∈ normalized, normalize item = .ok item := by
  cases items with
  | nil =>
      cases Except.ok.inj done
      simp
  | cons item rest =>
      obtain ⟨head, tail, first, later, rfl⟩ := normalizeItems_inv done
      intro other member
      rcases List.mem_cons.mp member with rfl | inRest
      · exact normalize_idempotent item first
      · exact normalizeItems_fixed rest later other inRest

theorem normalizeEntries_fixed (entries : List (String × PyValue F))
    {normalized : List (String × PyValue F)}
    (done : normalizeEntries entries = .ok normalized) :
    ∀ entry ∈ normalized, normalize entry.2 = .ok entry.2 := by
  cases entries with
  | nil =>
      cases Except.ok.inj done
      simp
  | cons entry rest =>
      obtain ⟨key, value⟩ := entry
      obtain ⟨head, tail, first, later, rfl⟩ := normalizeEntries_inv done
      intro other member
      rcases List.mem_cons.mp member with rfl | inRest
      · exact normalize_idempotent value first
      · exact normalizeEntries_fixed rest later other inRest

end

theorem lookup_normalizeEntries {entries normalized : Entries F}
    (done : normalizeEntries entries = .ok normalized) (key : String) :
    match entries.lookup key with
    | none => normalized.lookup key = none
    | some value => ∃ field, normalize value = .ok field ∧ normalized.lookup key = some field := by
  induction entries generalizing normalized with
  | nil =>
      cases Except.ok.inj done
      rfl
  | cons entry rest ih =>
      obtain ⟨entryKey, value⟩ := entry
      obtain ⟨head, tail, first, later, rfl⟩ := normalizeEntries_inv done
      simp only [List.lookup_cons]
      by_cases same : key = entryKey
      · subst same
        simp [first]
      · have other : (key == entryKey) = false := by simpa using same
        simp only [other]
        exact ih later

theorem get?_normalize {entries : Entries F} {normalized : PyValue F}
    (done : normalize (.dict entries) = .ok normalized) (key : String) :
    match entries.lookup key with
    | none => normalized.get? key = none
    | some value => ∃ field, normalize value = .ok field ∧ normalized.get? key = some field := by
  obtain ⟨inner, same, rfl⟩ := normalize_dict_inv done
  simp only [PyValue.get?, lookup_insertionSort]
  exact lookup_normalizeEntries same key

theorem lookup_of_normalize {entries document : Entries F} {key : String}
    {value field : PyValue F} (done : normalize (.dict entries) = .ok (.dict document))
    (found : entries.lookup key = some value) (read : normalize value = .ok field) :
    document.lookup key = some field := by
  have fields := get?_normalize done key
  rw [found] at fields
  obtain ⟨other, readOther, present⟩ := fields
  rw [read] at readOther
  cases Except.ok.inj readOther
  exact present

end QuantFactory.Persistence
