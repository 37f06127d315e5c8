import Mathlib.Data.List.Basic

/-!
# Positions within runs

A run begins at a mark.  Counting the marks so far numbers the runs, and the position of an entry
among the entries of its number is its position since the last mark.  Where every segment of a list
begins with a mark, the positions are those of the segments one by one.
-/

set_option autoImplicit false

namespace QuantFactory.Library

/-- `marks.cumsum()`, from a count so far. -/
def marksSoFar (count : Nat) : List Bool → List Nat
  | [] => []
  | mark :: rest =>
      let next := count + (if mark then 1 else 0)
      next :: marksSoFar next rest

/-- `groupby(numbers).cumcount()`: how often the number occurred before. -/
def earlierOfGroup (seen : List Nat) : List Nat → List Nat
  | [] => []
  | number :: rest => seen.count number :: earlierOfGroup (seen ++ [number]) rest

/-- The position since the last mark, a run of the given length being under way. -/
def positionsInRun (length : Nat) : List Bool → List Nat
  | [] => []
  | mark :: rest =>
      let position := if mark then 0 else length
      position :: positionsInRun (position + 1) rest

theorem length_positionsInRun (length : Nat) (marks : List Bool) :
    (positionsInRun length marks).length = marks.length := by
  induction marks generalizing length with
  | nil => rfl
  | cons mark rest ih => simp [positionsInRun, ih]

theorem earlierOfGroup_marksSoFar {seen : List Nat} {count : Nat}
    (bounded : ∀ number ∈ seen, number ≤ count) (marks : List Bool) :
    earlierOfGroup seen (marksSoFar count marks) = positionsInRun (seen.count count) marks := by
  induction marks generalizing seen count with
  | nil => rfl
  | cons mark rest ih =>
      cases mark with
      | true =>
          have fresh : seen.count (count + 1) = 0 := by
            apply List.count_eq_zero.mpr
            intro member
            have atMost := bounded _ member
            omega
          have next : ∀ number ∈ seen ++ [count + 1], number ≤ count + 1 := by
            intro number member
            rcases List.mem_append.mp member with earlier | new
            · have atMost := bounded number earlier
              omega
            · exact Nat.le_of_eq (List.mem_singleton.mp new)
          have one : (seen ++ [count + 1]).count (count + 1) = 1 := by
            rw [List.count_append, fresh, List.count_singleton_self]
          simp only [marksSoFar, earlierOfGroup, positionsInRun, if_true, fresh, ih next, one]
      | false =>
          have next : ∀ number ∈ seen ++ [count], number ≤ count := by
            intro number member
            rcases List.mem_append.mp member with earlier | new
            · exact bounded number earlier
            · exact Nat.le_of_eq (List.mem_singleton.mp new)
          have more : (seen ++ [count]).count count = seen.count count + 1 := by
            rw [List.count_append, List.count_singleton_self]
          simp only [marksSoFar, earlierOfGroup, positionsInRun, Bool.false_eq_true, if_false,
            Nat.add_zero, ih next, more]

theorem positionsInRun_append (length : Nat) (front back : List Bool) :
    positionsInRun length (front ++ true :: back) =
      positionsInRun length front ++ positionsInRun 0 (true :: back) := by
  induction front generalizing length with
  | nil => rfl
  | cons mark rest ih => simp [positionsInRun, ih]

theorem positionsInRun_flatten (length : Nat) {segments : List (List Bool)}
    (begun : ∀ segment ∈ segments, segment.head? = some true) :
    positionsInRun length segments.flatten = (segments.map (positionsInRun 0)).flatten := by
  induction segments generalizing length with
  | nil => rfl
  | cons segment rest ih =>
      have later := fun n => ih n fun other member => begun other (List.mem_cons_of_mem _ member)
      have start := begun segment List.mem_cons_self
      cases segment with
      | nil => cases start
      | cons mark tail =>
          obtain rfl := Option.some.inj start
          rw [List.flatten_cons, List.map_cons, List.flatten_cons]
          cases rest with
          | nil => simp [positionsInRun]
          | cons next others =>
              have nextStart := begun next (List.mem_cons_of_mem _ List.mem_cons_self)
              cases next with
              | nil => cases nextStart
              | cons nextMark nextTail =>
                  obtain rfl := Option.some.inj nextStart
                  rw [← later 0]
                  exact positionsInRun_append length (true :: tail) (nextTail ++ others.flatten)

end QuantFactory.Library
