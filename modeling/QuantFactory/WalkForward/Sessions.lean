import QuantFactory.Library.SortedSearch
import QuantFactory.WalkForward.Models

/-!
# Session cuts

Cuts of an index move to session boundaries.  A session assignment gives every
bar its session (a calendar date, or the ordinal of an exchange session) and
does not decrease along the index; `_day_start` and `_session_floor` search it.
-/

set_option autoImplicit false

namespace QuantFactory.WalkForward

open QuantFactory.Library

/-- The source's `dates`: one session for every bar. -/
structure SessionAssignment (index : List Int) where
  dates : List Int
  length_eq : dates.length = index.length
  monotone : dates.Pairwise (· ≤ ·)

/-- First row at or after `position` that opens a new session. -/
def dayStart (dates : List Int) (position : Nat) : Nat :=
  if inside : 0 < position ∧ position < dates.length then
    searchSortedRight dates dates[position - 1]
  else position

/-- First row of the session that holds `position`. -/
def sessionFloor (dates : List Int) (position : Nat) : Nat :=
  if inside : position < dates.length then searchSortedLeft dates dates[position] else position

def longestSession (dates : List Int) : Nat :=
  (dates.map dates.count).foldr max 0

/-- Every row before the cut is in an earlier session than every row from it on. -/
def IsCut (dates : List Int) (cut : Nat) : Prop :=
  ∀ i j (before : i < dates.length) (after : j < dates.length), i < cut → cut ≤ j →
    dates[i] < dates[j]

theorem count_le_longestSession {dates : List Int} {date : Int} (member : date ∈ dates) :
    dates.count date ≤ longestSession dates := by
  have bound : ∀ counts : List Nat, ∀ n ∈ counts, n ≤ counts.foldr max 0 := by
    intro counts
    induction counts with
    | nil => simp
    | cons head rest ih =>
        intro n inCounts
        rcases List.mem_cons.mp inCounts with rfl | inRest
        · exact Nat.le_max_left _ _
        · exact (ih n inRest).trans (Nat.le_max_right _ _)
  exact bound _ _ (List.mem_map_of_mem member)

theorem isCut_zero (dates : List Int) : IsCut dates 0 :=
  fun _ _ _ _ before _ => absurd before (Nat.not_lt_zero _)

theorem isCut_length (dates : List Int) : IsCut dates dates.length :=
  fun _ _ _ inside _ after => absurd inside (Nat.not_lt.mpr after)

section Sorted
variable {dates : List Int} (sorted : dates.Pairwise (· ≤ ·)) (position : Nat)

include sorted

theorem le_dayStart : position ≤ dayStart dates position := by
  unfold dayStart
  split
  · rename_i inside
    by_contra less
    have index : searchSortedRight dates dates[position - 1] ≤ position - 1 := by omega
    have bound := (lt_searchSortedRight_iff (v := dates[position - 1]) sorted
      (i := position - 1) (by omega)).mpr (le_refl _)
    omega
  · exact le_refl _

theorem dayStart_isCut (bounded : position ≤ dates.length) :
    IsCut dates (dayStart dates position) := by
  unfold dayStart
  split
  · intro i j before after isBefore isAfter
    have low := (lt_searchSortedRight_iff sorted before).mp isBefore
    have high := mt (lt_searchSortedRight_iff sorted after).mpr (Nat.not_lt.mpr isAfter)
    omega
  · rename_i outside
    obtain rfl | atEnd : position = 0 ∨ position = dates.length := by omega
    · exact isCut_zero dates
    · rw [atEnd]
      exact isCut_length dates

omit sorted in
theorem dayStart_le_length (bounded : position ≤ dates.length) :
    dayStart dates position ≤ dates.length := by
  unfold dayStart
  split
  · exact searchSortedRight_le_length _ _
  · exact bounded

theorem dayStart_lt (nonempty : dates ≠ []) :
    dayStart dates position < position + longestSession dates := by
  have positive : 0 < longestSession dates := by
    obtain ⟨date, member⟩ := List.exists_mem_of_ne_nil dates nonempty
    exact (List.count_pos_iff.mpr member).trans_le (count_le_longestSession member)
  unfold dayStart
  split
  · rename_i inside
    have last := searchSortedRight_le_length dates dates[position - 1]
    have run : searchSortedRight dates dates[position - 1] - (position - 1) ≤
        dates.count dates[position - 1] := by
      by_cases ordered : position - 1 ≤ searchSortedRight dates dates[position - 1]
      · refine length_le_count_of_eq ordered last fun i within low high => ?_
        have above := (lt_searchSortedRight_iff sorted within).mp high
        have below := getElem_le_of_le sorted (i := position - 1) (by omega) low within
        omega
      · omega
    have longest := count_le_longestSession (List.getElem_mem (l := dates) (n := position - 1)
      (by omega))
    omega
  · omega

theorem sessionFloor_le : sessionFloor dates position ≤ position := by
  unfold sessionFloor
  split
  · rename_i inside
    have excluded := mt (lt_searchSortedLeft_iff sorted inside).mp (lt_irrefl dates[position])
    omega
  · exact le_refl _

theorem sessionFloor_isCut (inside : position < dates.length) :
    IsCut dates (sessionFloor dates position) := by
  unfold sessionFloor
  rw [dif_pos inside]
  intro i j before after isBefore isAfter
  have low := (lt_searchSortedLeft_iff sorted before).mp isBefore
  have high := mt (lt_searchSortedLeft_iff sorted after).mpr (Nat.not_lt.mpr isAfter)
  omega

theorem sessionFloor_mono {later : Nat} (le : position ≤ later) (inside : later < dates.length) :
    sessionFloor dates position ≤ sessionFloor dates later := by
  unfold sessionFloor
  rw [dif_pos (le.trans_lt inside), dif_pos inside]
  exact searchSortedLeft_mono dates (getElem_le_of_le sorted (le.trans_lt inside) le inside)

theorem lt_sessionFloor_add (inside : position < dates.length) :
    position < sessionFloor dates position + longestSession dates := by
  have floor := sessionFloor_le sorted position
  unfold sessionFloor at floor ⊢
  rw [dif_pos inside] at floor ⊢
  have run : position + 1 - searchSortedLeft dates dates[position] ≤
      dates.count dates[position] := by
    refine length_le_count_of_eq (by omega) (by omega) fun i within low high => ?_
    have above := mt (lt_searchSortedLeft_iff (v := dates[position]) sorted within).mpr
      (Nat.not_lt.mpr low)
    have below := getElem_le_of_le sorted within (show i ≤ position by omega) inside
    omega
  have longest := count_le_longestSession (List.getElem_mem inside)
  omega

end Sorted

end QuantFactory.WalkForward
