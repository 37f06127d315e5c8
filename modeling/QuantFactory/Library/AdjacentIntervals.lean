import Mathlib

/-!
# Intervals that meet end to end

Half-open intervals in a list, each of positive length and each beginning where the one before
it ends.  Every point from the first beginning to the last end is in exactly one of them.
-/

set_option autoImplicit false

namespace QuantFactory.Library

universe u v

section Intervals
variable {ι : Type u} {α : Type v} [LinearOrder α] (start stop : ι → α)

def Adjacent (intervals : List ι) : Prop :=
  (∀ interval ∈ intervals, start interval < stop interval) ∧
    ∀ pair ∈ intervals.zip intervals.tail, start pair.2 = stop pair.1

def Spanned (intervals : List ι) (point : α) : Prop :=
  (∃ first, intervals.head? = some first ∧ start first ≤ point) ∧
    ∃ last, intervals.getLast? = some last ∧ point < stop last

variable {start stop}

theorem Adjacent.tail {interval : ι} {rest : List ι}
    (adjacent : Adjacent start stop (interval :: rest)) : Adjacent start stop rest := by
  constructor
  · intro other member
    exact adjacent.1 other (List.mem_cons_of_mem _ member)
  · intro pair member
    cases rest with
    | nil => simp at member
    | cons next tail => exact adjacent.2 pair (List.mem_cons_of_mem _ member)

theorem Adjacent.next {interval next : ι} {rest : List ι}
    (adjacent : Adjacent start stop (interval :: next :: rest)) : start next = stop interval :=
  adjacent.2 (interval, next) List.mem_cons_self

/-- The later intervals begin no earlier than the first one ends. -/
theorem Adjacent.stop_le {interval : ι} {rest : List ι}
    (adjacent : Adjacent start stop (interval :: rest)) :
    ∀ later ∈ rest, stop interval ≤ start later := by
  induction rest generalizing interval with
  | nil => intro later member; cases member
  | cons next tail ih =>
      intro later member
      rcases List.mem_cons.mp member with rfl | inTail
      · exact adjacent.next.ge
      · have positive := adjacent.1 next (List.mem_cons_of_mem _ List.mem_cons_self)
        have further := ih adjacent.tail later inTail
        exact adjacent.next.ge.trans (positive.le.trans further)

theorem Adjacent.exactly_one {intervals : List ι} (adjacent : Adjacent start stop intervals)
    {point : α} (spanned : Spanned start stop intervals point) :
    ∃ interval, intervals.filter
      (fun item => decide (start item ≤ point) && decide (point < stop item)) = [interval] := by
  induction intervals with
  | nil =>
      obtain ⟨⟨first, absent, -⟩, -⟩ := spanned
      cases absent
  | cons interval rest ih =>
      obtain ⟨⟨first, found, begun⟩, last, ending, before⟩ := spanned
      rw [List.head?_cons, Option.some.injEq] at found
      rw [← found] at begun
      rcases lt_or_ge point (stop interval) with inside | past
      · -- the later intervals have not begun
        have none : rest.filter
            (fun item => decide (start item ≤ point) && decide (point < stop item)) = [] := by
          apply List.filter_eq_nil_iff.mpr
          intro later member held
          rw [Bool.and_eq_true, decide_eq_true_eq] at held
          exact absurd (adjacent.stop_le later member) (not_le.mpr (held.1.trans_lt inside))
        refine ⟨interval, ?_⟩
        rw [List.filter_cons_of_pos (by simp [begun, inside]), none]
      · rw [List.filter_cons_of_neg (by simp [past])]
        cases rest with
        | nil =>
            rw [List.getLast?_singleton, Option.some.injEq] at ending
            rw [← ending] at before
            exact absurd before (not_lt.mpr past)
        | cons next tail =>
            apply ih adjacent.tail
            refine ⟨⟨next, rfl, ?_⟩, last, ?_, before⟩
            · rw [adjacent.next]
              exact past
            · rwa [List.getLast?_cons_cons] at ending

end Intervals

end QuantFactory.Library
