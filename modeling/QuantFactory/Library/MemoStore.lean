import Mathlib.Data.List.Basic
import Mathlib.Order.Nat
import QuantFactory.Library.Lookup

/-!
# A memo table over a heap of cells

A computation allocates cells, overwrites cells of its own, and looks results up
in a table that holds references under keys and is emptied whenever its weight
would pass a limit.  `Computes` compares a run with the value the computation has
without any memory.  The two agree whatever the table holds, as long as what it
holds under a key is a value of that key.
-/

set_option autoImplicit false

namespace QuantFactory.Library

/-- The first `pinned` cells belong to the caller; the entries refer to cells. -/
structure MemoStore (K A : Type) where
  cells : List A
  entries : List (K × Nat)
  weight : Nat

namespace MemoStore
variable {K A ε : Type} [DecidableEq K]

/-- `table[key] = ref`: an existing key keeps its place. -/
def setKey (key : K) (ref : Nat) : List (K × Nat) → List (K × Nat)
  | [] => [(key, ref)]
  | (other, found) :: rest =>
      if other = key then (key, ref) :: rest else (other, found) :: setKey key ref rest

theorem lookup_setKey (key : K) (ref : Nat) (entries : List (K × Nat)) :
    (setKey key ref entries).lookup key = some ref := by
  induction entries with
  | nil => simp [setKey]
  | cons entry rest ih =>
      obtain ⟨other, found⟩ := entry
      by_cases same : other = key
      · simp [setKey, same]
      · have differs : (key == other) = false := by simpa using Ne.symm same
        simp only [setKey, if_neg same, List.lookup_cons, differs, ih]

theorem mem_setKey {key : K} {ref : Nat} {entries : List (K × Nat)} {entry : K × Nat}
    (member : entry ∈ setKey key ref entries) : entry = (key, ref) ∨ entry ∈ entries := by
  induction entries with
  | nil => exact .inl (List.mem_singleton.mp member)
  | cons first rest ih =>
      obtain ⟨other, found⟩ := first
      simp only [setKey] at member
      split at member
      · rcases List.mem_cons.mp member with same | inRest
        · exact .inl same
        · exact .inr (List.mem_cons_of_mem _ inRest)
      · rcases List.mem_cons.mp member with same | inRest
        · exact .inr (same ▸ List.mem_cons_self)
        · rcases ih inRest with same | old
          · exact .inl same
          · exact .inr (List.mem_cons_of_mem _ old)

/-! ## Operations -/

abbrev Run (K A ε α : Type) := StateT (MemoStore K A) (Except ε) α

def readAll (store : MemoStore K A) : List Nat → Option (List A)
  | [] => some []
  | ref :: rest =>
      match store.cells[ref]?, store.readAll rest with
      | some value, some values => some (value :: values)
      | _, _ => none

def allocate (compute : List A → Except ε A) (dangling : ε) (refs : List Nat) :
    Run K A ε Nat := fun store =>
  match store.readAll refs with
  | none => .error dangling
  | some values =>
      match compute values with
      | .error raised => .error raised
      | .ok value => .ok (store.cells.length, { store with cells := store.cells ++ [value] })

/-- New contents for a cell, computed from its own and from others. -/
def overwrite (compute : List A → Except ε A) (dangling : ε) (target : Nat) (refs : List Nat) :
    Run K A ε Nat := fun store =>
  match store.readAll (target :: refs) with
  | none => .error dangling
  | some values =>
      match compute values with
      | .error raised => .error raised
      | .ok value => .ok (target, { store with cells := store.cells.set target value })

/-- What the table does when it stores a reference: past the limit it is emptied first. -/
structure Bound (A : Type) where
  limit : Option Nat
  weigh : A → Nat

def remember (bound : Bound A) (key : K) (ref : Nat) (store : MemoStore K A) : MemoStore K A :=
  let size := (store.cells[ref]?).elim 0 bound.weigh
  let passes := bound.limit.any fun limit => decide (limit < store.weight + size)
  let kept := if passes then { store with entries := [], weight := 0 } else store
  { kept with entries := setKey key ref kept.entries, weight := kept.weight + size }

theorem remember_cells (bound : Bound A) (key : K) (ref : Nat) (store : MemoStore K A) :
    (store.remember bound key ref).cells = store.cells := by
  simp only [remember]
  split <;> rfl

theorem remember_lookup (bound : Bound A) (key : K) (ref : Nat) (store : MemoStore K A) :
    (store.remember bound key ref).entries.lookup key = some ref := lookup_setKey key ref _

theorem mem_remember {bound : Bound A} {key : K} {ref : Nat} {store : MemoStore K A}
    {entry : K × Nat} (member : entry ∈ (store.remember bound key ref).entries) :
    entry = (key, ref) ∨ entry ∈ store.entries := by
  refine (mem_setKey member).imp_right fun old => ?_
  split at old
  · cases old
  · exact old

def memo (bound : Bound A) (missing : ε) (key : K) (compute : Run K A ε Nat) : Run K A ε Nat :=
  fun store =>
    match store.entries.lookup key with
    | some ref => .ok (ref, store)
    | none =>
        match compute store with
        | .error raised => .error raised
        | .ok (ref, after) =>
            let stored := after.remember bound key ref
            match stored.entries.lookup key with
            | some found => .ok (found, stored)
            | none => .error missing

def fromExcept {α : Type} (outcome : Except ε α) : Run K A ε α := fun store =>
  match outcome with
  | .error raised => .error raised
  | .ok value => .ok (value, store)

/-! ## What a run keeps -/

def Holds (store : MemoStore K A) (ref : Nat) (value : A) : Prop := store.cells[ref]? = some value

def HoldsAll (store : MemoStore K A) : List (Nat × A) → Prop
  | [] => True
  | (ref, value) :: rest => store.Holds ref value ∧ store.HoldsAll rest

variable (pinned : Nat)

def Shared (store : MemoStore K A) (ref : Nat) : Prop :=
  ref < pinned ∨ ∃ key, (key, ref) ∈ store.entries

/-- Later in a run: the cells there were are unchanged, and none of them has become shared. -/
structure Grown (before after : MemoStore K A) : Prop where
  longer : before.cells.length ≤ after.cells.length
  kept : ∀ ref, ref < before.cells.length → after.cells[ref]? = before.cells[ref]?
  shared : ∀ ref, ref < before.cells.length → Shared pinned after ref → Shared pinned before ref

/-- A cell allocated since the start of a run, which nothing else refers to. -/
structure Fresh (start store : MemoStore K A) (ref : Nat) (value : A) : Prop where
  holds : store.Holds ref value
  recent : start.cells.length ≤ ref
  own : ¬ Shared pinned store ref

/-- What a run may return: a cell that was shared at its start, or one allocated since. -/
structure Returned (start store : MemoStore K A) (ref : Nat) (value : A) : Prop where
  holds : store.Holds ref value
  known : ref < start.cells.length → Shared pinned start ref

variable {pinned}

omit [DecidableEq K] in
theorem Holds.lt {store : MemoStore K A} {ref : Nat} {value : A} (holds : store.Holds ref value) :
    ref < store.cells.length := (List.getElem?_eq_some_iff.mp holds).1

omit [DecidableEq K] in
theorem Grown.refl (store : MemoStore K A) : Grown pinned store store :=
  ⟨le_refl _, fun _ _ => rfl, fun _ _ shared => shared⟩

omit [DecidableEq K] in
theorem Grown.trans {first second third : MemoStore K A} (before : Grown pinned first second)
    (after : Grown pinned second third) : Grown pinned first third where
  longer := before.longer.trans after.longer
  kept ref old := by
    rw [after.kept ref (old.trans_le before.longer), before.kept ref old]
  shared ref old isShared :=
    before.shared ref old (after.shared ref (old.trans_le before.longer) isShared)

omit [DecidableEq K] in
theorem Grown.holds {before after : MemoStore K A} (grown : Grown pinned before after) {ref : Nat}
    {value : A} (holds : before.Holds ref value) : after.Holds ref value := by
  rw [Holds, grown.kept ref holds.lt]
  exact holds

omit [DecidableEq K] in
theorem Grown.holdsAll {before after : MemoStore K A} (grown : Grown pinned before after)
    {args : List (Nat × A)} (held : before.HoldsAll args) : after.HoldsAll args := by
  induction args with
  | nil => trivial
  | cons arg rest ih => exact ⟨grown.holds held.1, ih held.2⟩

omit [DecidableEq K] in
theorem HoldsAll.mem {store : MemoStore K A} {context : List (Nat × A)}
    (held : store.HoldsAll context) {ref : Nat} {value : A} (member : (ref, value) ∈ context) :
    store.Holds ref value := by
  induction context with
  | nil => cases member
  | cons first rest ih =>
      rcases List.mem_cons.mp member with rfl | inRest
      · exact held.1
      · exact ih held.2 inRest

omit [DecidableEq K] in
theorem HoldsAll.of_mem {store : MemoStore K A} {context : List (Nat × A)}
    (each : ∀ ref value, (ref, value) ∈ context → store.Holds ref value) :
    store.HoldsAll context := by
  induction context with
  | nil => trivial
  | cons first rest ih =>
      exact ⟨each _ _ List.mem_cons_self,
        ih fun ref value member => each ref value (List.mem_cons_of_mem _ member)⟩

omit [DecidableEq K] in
theorem HoldsAll.subset {store : MemoStore K A} {context args : List (Nat × A)}
    (held : store.HoldsAll context) (known : ∀ arg ∈ args, arg ∈ context) :
    store.HoldsAll args := .of_mem fun _ _ member => held.mem (known _ member)

omit [DecidableEq K] in
theorem Fresh.later {start before after : MemoStore K A} {ref : Nat} {value : A}
    (fresh : Fresh pinned start before ref value) (grown : Grown pinned before after) :
    Fresh pinned start after ref value where
  holds := grown.holds fresh.holds
  recent := fresh.recent
  own isShared := fresh.own (grown.shared ref fresh.holds.lt isShared)

omit [DecidableEq K] in
theorem Fresh.returned {start store : MemoStore K A} {ref : Nat} {value : A}
    (fresh : Fresh pinned start store ref value) : Returned pinned start store ref value :=
  ⟨fresh.holds, fun old => absurd old (Nat.not_lt.mpr fresh.recent)⟩

omit [DecidableEq K] in
theorem Returned.later {start before after : MemoStore K A} {ref : Nat} {value : A}
    (returned : Returned pinned start before ref value) (grown : Grown pinned before after) :
    Returned pinned start after ref value := ⟨grown.holds returned.holds, returned.known⟩

omit [DecidableEq K] in
theorem Fresh.widen {start before after : MemoStore K A} {ref : Nat} {value : A}
    (grown : Grown pinned start before) (fresh : Fresh pinned before after ref value) :
    Fresh pinned start after ref value :=
  ⟨fresh.holds, grown.longer.trans fresh.recent, fresh.own⟩

omit [DecidableEq K] in
theorem Returned.widen {start before after : MemoStore K A} {ref : Nat} {value : A}
    (grown : Grown pinned start before) (returned : Returned pinned before after ref value) :
    Returned pinned start after ref value :=
  ⟨returned.holds, fun old => grown.shared ref old
    (returned.known (old.trans_le grown.longer))⟩

/-! ## Runs and values -/

variable (pinned) (meaning : K → A → Prop)

/-- The pinned cells are there, and every entry holds a value of its key. -/
structure Sound (store : MemoStore K A) : Prop where
  filled : pinned ≤ store.cells.length
  entries : ∀ key ref, (key, ref) ∈ store.entries →
    ∃ value, store.Holds ref value ∧ meaning key value

/-- A run and a value come to the same: both fail alike, or the run ends soundly with a result
related to the value. -/
def Computes {α β : Type} (start : MemoStore K A) (post : MemoStore K A → α → β → Prop)
    (run : Except ε (α × MemoStore K A)) (value : Except ε β) : Prop :=
  match run, value with
  | .ok (result, after), .ok expected =>
      Grown pinned start after ∧ Sound pinned meaning after ∧ post after result expected
  | .error raised, .error expected => raised = expected
  | _, _ => False

variable {pinned} {meaning} {start store : MemoStore K A}

omit [DecidableEq K] in
theorem Computes.ended {α β : Type} {post : MemoStore K A → α → β → Prop} {result : α}
    {after : MemoStore K A} {value : Except ε β}
    (computes : Computes pinned meaning start post (.ok (result, after)) value) :
    Grown pinned start after ∧ Sound pinned meaning after := by
  cases value with
  | error expected => exact computes.elim
  | ok expected => exact ⟨computes.1, computes.2.1⟩

omit [DecidableEq K] in
theorem Computes.outcome {α : Type} {run : Except ε (α × MemoStore K A)} {value : Except ε α}
    (computes : Computes pinned meaning start (fun _ result expected => result = expected) run
      value) : run.map Prod.fst = value := by
  cases run with
  | error raised =>
      cases value with
      | error expected => exact congrArg Except.error computes
      | ok expected => exact computes.elim
  | ok outcome =>
      cases value with
      | error expected => exact computes.elim
      | ok expected => exact congrArg Except.ok computes.2.2

section Rules
variable {α β γ δ : Type} {post : MemoStore K A → α → β → Prop}

omit [DecidableEq K] in
theorem Computes.bind {m : Run K A ε α} {f : α → Run K A ε γ} {x : Except ε β}
    {g : β → Except ε δ} {next : MemoStore K A → γ → δ → Prop}
    (first : Computes pinned meaning start post (m store) x)
    (rest : ∀ result after expected, Grown pinned start after → Sound pinned meaning after →
      post after result expected →
        Computes pinned meaning start next (f result after) (g expected)) :
    Computes pinned meaning start next ((m >>= f) store) (x >>= g) := by
  have unfolded : (m >>= f) store = (m store >>= fun outcome => f outcome.1 outcome.2) := rfl
  rw [unfolded]
  cases run : m store with
  | error raised =>
      cases x with
      | error expected =>
          rw [run] at first
          exact first
      | ok expected =>
          rw [run] at first
          exact first.elim
  | ok outcome =>
      obtain ⟨result, after⟩ := outcome
      cases x with
      | error expected =>
          rw [run] at first
          exact first.elim
      | ok expected =>
          rw [run] at first
          exact rest result after expected first.1 first.2.1 first.2.2

omit [DecidableEq K] in
theorem Computes.widen {run : Except ε (α × MemoStore K A)} {value : Except ε β}
    {wider : MemoStore K A → α → β → Prop} (grown : Grown pinned start store)
    (computes : Computes pinned meaning store post run value)
    (weaken : ∀ after result expected, Grown pinned store after → post after result expected →
      wider after result expected) : Computes pinned meaning start wider run value := by
  unfold Computes at computes ⊢
  split at computes
  · obtain ⟨later, sound, related⟩ := computes
    exact ⟨grown.trans later, sound, weaken _ _ _ later related⟩
  · exact computes
  · exact computes.elim

omit [DecidableEq K] in
/-- The same where the first part counts from a start of its own. -/
theorem Computes.andThen {earlier : MemoStore K A} {m : Run K A ε α} {f : α → Run K A ε γ}
    {x : Except ε β} {g : β → Except ε δ} {next : MemoStore K A → γ → δ → Prop}
    (grown : Grown pinned start earlier)
    (first : Computes pinned meaning earlier post (m store) x)
    (rest : ∀ result after expected, Grown pinned start after → Grown pinned earlier after →
      Sound pinned meaning after → post after result expected →
        Computes pinned meaning start next (f result after) (g expected)) :
    Computes pinned meaning start next ((m >>= f) store) (x >>= g) := by
  refine Computes.bind (first.widen grown fun after result expected step related =>
    And.intro step related) fun result after expected total sound related => ?_
  exact rest result after expected total related.1 sound related.2

omit [DecidableEq K] in
theorem Computes.pure {result : α} {expected : β} (grown : Grown pinned start store)
    (sound : Sound pinned meaning store) (related : post store result expected) :
    Computes pinned meaning start post ((Pure.pure result : Run K A ε α) store)
      (Pure.pure expected) :=
  ⟨grown, sound, related⟩

end Rules

omit [DecidableEq K] in
theorem readAll_eq {args : List (Nat × A)} (held : store.HoldsAll args) :
    store.readAll (args.map Prod.fst) = some (args.map Prod.snd) := by
  induction args with
  | nil => rfl
  | cons arg rest ih =>
      obtain ⟨ref, value⟩ := arg
      have first : store.cells[ref]? = some value := held.1
      simp only [List.map_cons, readAll, first, ih held.2]

omit [DecidableEq K] in
theorem allocate_computes {compute : List A → Except ε A} {dangling : ε}
    (sound : Sound pinned meaning store) {args : List (Nat × A)} (held : store.HoldsAll args) :
    Computes pinned meaning store (Fresh pinned store)
      ((allocate compute dangling (args.map Prod.fst) : Run K A ε Nat) store)
      (compute (args.map Prod.snd)) := by
  unfold allocate
  rw [readAll_eq held]
  cases computed : compute (args.map Prod.snd) with
  | error raised =>
      simp only [computed]
      exact rfl
  | ok value =>
      simp only [computed]
      have later : Grown pinned store { store with cells := store.cells ++ [value] } := by
        refine ⟨by simp, fun ref old => List.getElem?_append_left old, fun _ _ shared => shared⟩
      have isNew : ¬ Shared pinned { store with cells := store.cells ++ [value] }
          store.cells.length := by
        rintro (isPinned | ⟨key, member⟩)
        · exact absurd sound.filled (Nat.not_le.mpr isPinned)
        · obtain ⟨old, holds, _⟩ := sound.entries key _ member
          exact absurd holds.lt (lt_irrefl _)
      refine ⟨later, ⟨sound.filled.trans later.longer, ?_⟩, ⟨by simp [Holds], le_refl _, isNew⟩⟩
      intro key ref member
      obtain ⟨old, holds, means⟩ := sound.entries key ref member
      exact ⟨old, later.holds holds, means⟩

omit [DecidableEq K] in
/-- Overwriting a cell of one's own changes no other. -/
theorem overwrite_computes {compute : List A → Except ε A} {dangling : ε}
    (grown : Grown pinned start store) (sound : Sound pinned meaning store) {target : Nat}
    {contents : A} (own : Fresh pinned start store target contents) {args : List (Nat × A)}
    (held : store.HoldsAll args) :
    Computes pinned meaning start
      (fun after ref value => ref = target ∧ Fresh pinned start after target value ∧
        (∀ other kept, other ≠ target → store.Holds other kept → after.Holds other kept) ∧
        after.entries = store.entries)
      ((overwrite compute dangling target (args.map Prod.fst) : Run K A ε Nat) store)
      (compute (contents :: args.map Prod.snd)) := by
  unfold overwrite
  have read : store.readAll (target :: args.map Prod.fst) =
      some (contents :: args.map Prod.snd) := by
    have all : store.HoldsAll ((target, contents) :: args) := ⟨own.holds, held⟩
    exact readAll_eq all
  rw [read]
  cases computed : compute (contents :: args.map Prod.snd) with
  | error raised =>
      simp only [computed]
      exact rfl
  | ok value =>
      simp only [computed]
      have others : ∀ other, other ≠ target →
          (store.cells.set target value)[other]? = store.cells[other]? :=
        fun other differs => List.getElem?_set_ne (Ne.symm differs)
      refine ⟨⟨by simpa using grown.longer, fun ref old => ?_, grown.shared⟩,
        ⟨by simpa using sound.filled, fun key ref member => ?_⟩, rfl,
        ⟨by simp [Holds, own.holds.lt], own.recent, own.own⟩,
        fun other kept differs holds => (others other differs).trans holds, rfl⟩
      · have differs : ref ≠ target := by
          have recent := own.recent
          omega
        exact (others ref differs).trans (grown.kept ref old)
      · have differs : ref ≠ target := by
          rintro rfl
          exact own.own (.inr ⟨key, member⟩)
        obtain ⟨old, holds, means⟩ := sound.entries key ref member
        exact ⟨old, (others ref differs).trans holds, means⟩

theorem memo_computes {bound : Bound A} {missing : ε} {key : K} {compute : Run K A ε Nat}
    {value : Except ε A} (sound : Sound pinned meaning store)
    (known : ∀ found, meaning key found → value = .ok found)
    (run : Computes pinned meaning store (Returned pinned store) (compute store) value)
    (learned : ∀ ref after found, compute store = .ok (ref, after) → after.Holds ref found →
      meaning key found) :
    Computes pinned meaning store (Returned pinned store)
      (memo bound missing key compute store) value := by
  unfold memo
  cases recalled : store.entries.lookup key with
  | some ref =>
      obtain ⟨found, holds, means⟩ := sound.entries key ref (mem_of_lookup recalled)
      rw [known found means]
      exact ⟨Grown.refl store, sound, ⟨holds, fun _ => .inr ⟨key, mem_of_lookup recalled⟩⟩⟩
  | none =>
      cases computed : compute store with
      | error raised =>
          rw [computed] at run
          exact run
      | ok outcome =>
          obtain ⟨ref, after⟩ := outcome
          rw [computed] at run
          cases value with
          | error expected => exact run.elim
          | ok expected =>
              obtain ⟨grown, soundAfter, returned⟩ := run
              have means := learned ref after expected computed returned.holds
              have cells := remember_cells bound key ref after
              simp only [remember_lookup]
              refine ⟨⟨cells ▸ grown.longer, fun old within => ?_, fun old within shared => ?_⟩,
                ⟨cells ▸ soundAfter.filled, fun other old inTable => ?_⟩, ?_, returned.known⟩
              · rw [cells]
                exact grown.kept old within
              · rcases shared with isPinned | ⟨other, inTable⟩
                · exact .inl isPinned
                · rcases mem_remember inTable with same | isOld
                  · obtain ⟨rfl, rfl⟩ := Prod.mk.inj same
                    exact returned.known within
                  · exact grown.shared old within (.inr ⟨other, isOld⟩)
              · simp only [Holds, cells]
                rcases mem_remember inTable with same | isOld
                · obtain ⟨rfl, rfl⟩ := Prod.mk.inj same
                  exact ⟨expected, returned.holds, means⟩
                · exact soundAfter.entries other old isOld
              · rw [Holds, cells]
                exact returned.holds

end MemoStore

end QuantFactory.Library
