import QuantFactory.RuleLanguage.Accepted

/-!
# Copies of documents

Two documents that differ in the order of their keys at most.  What the checks
read of an object (its keys, what stands under one, a flag, a choice) is the
same in a copy.
-/

set_option autoImplicit false

namespace QuantFactory.RuleLanguage

open QuantFactory.Library QuantFactory.Python Validator

variable {F : Type}

/-! ## Objects as they are written -/

theorem hasKeys_of_append {entries : Entries F} {required optional : List String}
    (same : entries.map Prod.fst = required ++ optional) : HasKeys entries required optional :=
  ⟨fun _ member => same ▸ member, fun _ member => same ▸ List.mem_append_left _ member⟩

theorem hasKeys_of_eq {entries : Entries F} {required optional : List String}
    (same : entries.map Prod.fst = required) : HasKeys entries required optional :=
  ⟨fun _ member => List.mem_append_left _ (same ▸ member), fun _ member => same ▸ member⟩

theorem heads_single {key : String} {value : PyValue F} {allowed : List String}
    (member : key ∈ allowed) :
    ([(key, value)].map Prod.fst).filter (fun head => decide (head ∈ allowed)) = [key] := by
  simp [member]

/-! ## Depth -/

section Depth

theorem depth_pos (value : PyValue F) : 1 ≤ value.depth := by
  cases value <;> simp [PyValue.depth]

theorem depth_le_entries {entries : Entries F} {key : String} {value : PyValue F}
    (member : (key, value) ∈ entries) : value.depth ≤ PyValue.depthEntries entries := by
  induction entries with
  | nil => cases member
  | cons entry rest ih =>
      obtain ⟨head, first⟩ := entry
      rcases List.mem_cons.mp member with same | inRest
      · cases same
        exact Nat.le_max_left _ _
      · exact (ih inRest).trans (Nat.le_max_right _ _)

theorem depth_le_items {items : List (PyValue F)} {item : PyValue F} (member : item ∈ items) :
    item.depth ≤ PyValue.depthItems items := by
  induction items with
  | nil => cases member
  | cons first rest ih =>
      rcases List.mem_cons.mp member with rfl | inRest
      · exact Nat.le_max_left _ _
      · exact (ih inRest).trans (Nat.le_max_right _ _)

theorem depth_le_of_lookup {entries : Entries F} {key : String}
    {value : PyValue F} (found : entries.lookup key = some value) :
    value.depth ≤ PyValue.depthEntries entries := depth_le_entries (mem_of_lookup found)

theorem depthEntries_le {entries : Entries F} {bound : Nat}
    (each : ∀ entry ∈ entries, entry.2.depth ≤ bound) : PyValue.depthEntries entries ≤ bound := by
  induction entries with
  | nil => exact Nat.zero_le _
  | cons entry rest ih =>
      obtain ⟨key, value⟩ := entry
      exact Nat.max_le.mpr ⟨each (key, value) List.mem_cons_self,
        ih fun other member => each other (List.mem_cons_of_mem _ member)⟩

theorem depthItems_le {items : List (PyValue F)} {bound : Nat}
    (each : ∀ item ∈ items, item.depth ≤ bound) : PyValue.depthItems items ≤ bound := by
  induction items with
  | nil => exact Nat.zero_le _
  | cons item rest ih =>
      exact Nat.max_le.mpr ⟨each item List.mem_cons_self,
        ih fun other member => each other (List.mem_cons_of_mem _ member)⟩

theorem depth_entry {entries : Entries F} {key : String} {value : PyValue F}
    {depth : Nat} (within : (PyValue.dict entries).depth ≤ depth + 1)
    (member : (key, value) ∈ entries) : value.depth ≤ depth := by
  have inside := depth_le_entries member
  rw [PyValue.depth] at within
  omega

theorem depth_item {items : List (PyValue F)} {item : PyValue F} {depth : Nat}
    (within : (PyValue.list items).depth ≤ depth + 1) (member : item ∈ items) :
    item.depth ≤ depth := by
  have inside := depth_le_items member
  rw [PyValue.depth] at within
  omega

theorem depth_item_le {items : List (PyValue F)} {item : PyValue F} (member : item ∈ items) :
    item.depth ≤ (PyValue.list items).depth := by
  have inside := depth_le_items member
  rw [PyValue.depth]
  omega

end Depth

/-! ## Copies -/

structure EntriesCopied (copy : PyValue F → PyValue F → Prop)
    (entries copied : Entries F) : Prop where
  keys : (copied.map Prod.fst).Perm (entries.map Prod.fst)
  values : ∀ key value, entries.lookup key = some value →
    ∃ other, copied.lookup key = some other ∧ copy value other

/-- A relation whose copies differ in the order of keys at most. -/
structure Copies (copy : PyValue F → PyValue F → Prop) : Prop where
  scalar : ∀ {value other : PyValue F}, copy value other → value.isScalar = true → other = value
  list : ∀ {items : List (PyValue F)} {other : PyValue F}, copy (.list items) other →
    ∃ copied, other = .list copied ∧ List.Forall₂ copy items copied
  dict : ∀ {entries : Entries F} {other : PyValue F}, copy (.dict entries) other →
    ∃ copied, other = .dict copied ∧ EntriesCopied copy entries copied

theorem copies_eq : Copies (Eq (α := PyValue F)) where
  scalar same _ := same.symm
  list same := ⟨_, same.symm, List.forall₂_refl _⟩
  dict same := ⟨_, same.symm, List.Perm.refl _, fun _ value found => ⟨value, found, rfl⟩⟩

section Copied
variable {copy : PyValue F → PyValue F → Prop} {entries copied : Entries F}

theorem EntriesCopied.hasKeys (same : EntriesCopied copy entries copied)
    {required optional : List String} (keys : HasKeys entries required optional) :
    HasKeys copied required optional where
  allowed key member := keys.allowed key (same.keys.mem_iff.mp member)
  present key member := same.keys.mem_iff.mpr (keys.present key member)

theorem EntriesCopied.isSome (same : EntriesCopied copy entries copied) (key : String) :
    (copied.lookup key).isSome = (entries.lookup key).isSome := by
  rw [Bool.eq_iff_iff, lookup_isSome_iff, lookup_isSome_iff]
  exact same.keys.mem_iff

theorem EntriesCopied.absent (same : EntriesCopied copy entries copied) {key : String}
    (absent : entries.lookup key = none) : copied.lookup key = none := by
  have isSome := same.isSome key
  rw [absent] at isSome
  simpa using isSome

theorem EntriesCopied.heads (same : EntriesCopied copy entries copied) {allowed : List String}
    {operator : String}
    (heads : (entries.map Prod.fst).filter (fun head => decide (head ∈ allowed)) = [operator]) :
    (copied.map Prod.fst).filter (fun head => decide (head ∈ allowed)) = [operator] := by
  have permuted := same.keys.filter fun head => decide (head ∈ allowed)
  rw [heads] at permuted
  exact List.perm_singleton.mp permuted

theorem EntriesCopied.scalar (same : EntriesCopied copy entries copied) (copies : Copies copy)
    {key : String} {value : PyValue F} (found : entries.lookup key = some value)
    (scalar : value.isScalar = true) : copied.lookup key = some value := by
  obtain ⟨other, present, copied⟩ := same.values key value found
  rw [present, copies.scalar copied scalar]

theorem EntriesCopied.text (same : EntriesCopied copy entries copied) (copies : Copies copy)
    {key text : String} (found : entries.lookup key = some (.str text)) :
    copied.lookup key = some (.str text) := same.scalar copies found rfl

theorem EntriesCopied.flag (same : EntriesCopied copy entries copied) (copies : Copies copy)
    {key : String} {value : Bool} (flag : FlagIs entries key value) : FlagIs copied key value := by
  rcases flag with present | ⟨absent, plain⟩
  · exact .inl (same.scalar copies present rfl)
  · exact .inr ⟨same.absent absent, plain⟩

theorem EntriesCopied.choice (same : EntriesCopied copy entries copied) (copies : Copies copy)
    {key : String} {choices : List String} {required : Bool} {written : Entries F}
    (choice : ChoiceIs key choices required entries written) :
    ChoiceIs key choices required copied written := by
  rcases choice with ⟨text, member, present, isWritten⟩ | ⟨absent, optional, isWritten⟩
  · exact .inl ⟨text, member, same.text copies present, isWritten⟩
  · exact .inr ⟨same.absent absent, optional, isWritten⟩

end Copied

end QuantFactory.RuleLanguage
