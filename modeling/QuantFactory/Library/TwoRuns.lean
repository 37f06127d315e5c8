import Mathlib
import QuantFactory.Library.Outcome

/-!
# Two runs

One computation on two inputs that agree on what is known so far.  `Alike` relates
the two outcomes step by step, and a `Causal` map of histories tells no two of them
apart before their first difference.
-/

set_option autoImplicit false

namespace QuantFactory.Library

/-! ## Outcomes -/

section Alike
variable {ε α β γ δ : Type} {allowed : ε → Prop} {related : α → β → Prop}

/-- Both computations return related results, or both raise one error of a kind. -/
inductive Alike (allowed : ε → Prop) (related : α → β → Prop) :
    Except ε α → Except ε β → Prop
  | returned {a : α} {b : β} (isRelated : related a b) : Alike allowed related (.ok a) (.ok b)
  | raised {error : ε} (isAllowed : allowed error) :
      Alike allowed related (.error error) (.error error)

theorem Alike.bind {next : γ → δ → Prop} {x : Except ε α} {y : Except ε β}
    {f : α → Except ε γ} {g : β → Except ε δ} (first : Alike allowed related x y)
    (rest : ∀ a b, x = .ok a → y = .ok b → related a b → Alike allowed next (f a) (g b)) :
    Alike allowed next (x >>= f) (y >>= g) := by
  cases first with
  | returned isRelated => exact rest _ _ rfl rfl isRelated
  | raised isAllowed => exact .raised isAllowed

theorem Alike.andThen {next : γ → δ → Prop} {x : Except ε α} {y : Except ε β}
    {f : α → Except ε γ} {g : β → Except ε δ} (first : Alike allowed related x y)
    (rest : ∀ a b, related a b → Alike allowed next (f a) (g b)) :
    Alike allowed next (x >>= f) (y >>= g) :=
  first.bind fun a b _ _ isRelated => rest a b isRelated

theorem Alike.imp {weaker : α → β → Prop} {x : Except ε α} {y : Except ε β}
    (both : Alike allowed related x y) (implied : ∀ a b, related a b → weaker a b) :
    Alike allowed weaker x y := by
  cases both with
  | returned isRelated => exact .returned (implied _ _ isRelated)
  | raised isAllowed => exact .raised isAllowed

theorem Alike.weaken {wider : ε → Prop} {x : Except ε α} {y : Except ε β}
    (both : Alike allowed related x y) (implied : ∀ error, allowed error → wider error) :
    Alike wider related x y := by
  cases both with
  | returned isRelated => exact .returned isRelated
  | raised isAllowed => exact .raised (implied _ isAllowed)

theorem Alike.same {x : Except ε α} (known : ∀ error, x = .error error → allowed error) :
    Alike allowed Eq x x := by
  cases x with
  | ok a => exact .returned rfl
  | error error => exact .raised (known error rfl)

theorem Alike.with_left {holds : α → Prop} {x : Except ε α} {y : Except ε β}
    (both : Alike allowed related x y) (known : ∀ a, x = .ok a → holds a) :
    Alike allowed (fun a b => related a b ∧ holds a) x y := by
  cases both with
  | returned isRelated => exact .returned ⟨isRelated, known _ rfl⟩
  | raised isAllowed => exact .raised isAllowed

theorem Alike.of_yields {holds : α → Prop} {others : β → Prop} {x : Except ε α} {y : Except ε β}
    (one : Yields (fun _ => False) holds x) (other : Yields (fun _ => False) others y) :
    Alike allowed (fun a b => holds a ∧ others b) x y := by
  cases x with
  | error error => exact one.elim
  | ok a =>
      cases y with
      | error error => exact other.elim
      | ok b => exact .returned ⟨one, other⟩

/-- What two runs of one computation have in common holds of its result. -/
theorem Alike.yields {related : α → α → Prop} {x : Except ε α} (both : Alike allowed related x x) :
    Yields allowed (fun a => related a a) x := by
  cases x with
  | ok a =>
      cases both with
      | returned isRelated => exact isRelated
  | error error =>
      cases both with
      | raised isAllowed => exact isAllowed

theorem Yields.andThen {holds : α → Prop} {next : γ → Prop} {x : Except ε α}
    {f : α → Except ε γ} (first : Yields allowed holds x)
    (rest : ∀ a, holds a → Yields allowed next (f a)) : Yields allowed next (x >>= f) :=
  yields_bind.mpr (first.mono fun a _ isHeld => rest a isHeld)

end Alike

/-! ## Histories -/

section Causal
variable {α β γ : Type}

/-- Every entry of the result is determined by the entries of the history up to its own. -/
structure Causal (f : List α → List β) : Prop where
  length : ∀ history, (f history).length = history.length
  past : ∀ history other n, history.take n = other.take n →
    (f history).take n = (f other).take n

theorem Causal.getElem? {f : List α → List β} (causal : Causal f) {history other : List α}
    {k n : Nat} (earlier : k < n) (same : history.take n = other.take n) :
    (f history)[k]? = (f other)[k]? := by
  have past := causal.past history other n same
  rw [← List.getElem?_take_of_lt earlier, past, List.getElem?_take_of_lt earlier]

theorem Causal.map (f : α → β) : Causal (List.map f) where
  length history := List.length_map f
  past history other n same := by rw [← List.map_take, same, List.map_take]

theorem Causal.comp {f : List α → List β} {g : List β → List γ} (second : Causal g)
    (first : Causal f) : Causal (g ∘ f) where
  length history := (second.length _).trans (first.length history)
  past history other n same := second.past _ _ n (first.past history other n same)

theorem take_map_range {f g : Nat → α} {length other n : Nat}
    (reached : min n length = min n other)
    (same : ∀ k < n, k < length → f k = g k) :
    ((List.range length).map f).take n = ((List.range other).map g).take n := by
  rw [← List.map_take, ← List.map_take, List.take_range, List.take_range, ← reached]
  refine List.map_congr_left fun k member => ?_
  have inRange := List.mem_range.mp member
  exact same k (by omega) (by omega)

end Causal

end QuantFactory.Library
