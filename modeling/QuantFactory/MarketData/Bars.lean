import Mathlib.Data.List.Basic
import Mathlib.Data.List.Pairwise
import QuantFactory.Library.SortedSearch

/-!
# Stored one-minute bars

The bars of one symbol, the checks of a candidate file (`validate_bars` of
`market_data/providers/alpaca_sip.py`), the comparisons between a fetched and a stored
frame, and the cut at the last listing gap (`market_data/listing_gap.py`).
-/

set_option autoImplicit false

namespace QuantFactory.MarketData

open QuantFactory.Library

/-- The numbers of a float column, up to `==`; a null is one value. -/
class BarNumber (F : Type) where
  zero : F
  isNull : F → Bool
  /-- `<`, false where a side is null. -/
  below : F → F → Bool
  /-- `<=`, false where a side is null. -/
  atMost : F → F → Bool
  /-- `np.isclose(first, stored, rtol=1e-6, atol=0.0)`. -/
  isClose : F → F → Bool

structure RawBar (F : Type) where
  timestamp : Int
  openPrice : F
  high : F
  low : F
  closePrice : F
  volume : F
  tradeCount : Option Int
  vwap : F
  deriving DecidableEq

structure Bar (F : Type) extends RawBar F where
  session : String
  deriving DecidableEq

structure MarketClock where
  sessionStart : Int → Int
  day : Int → Int
  /-- `pre`, `regular`, `post` or `closed` by the schedule. -/
  sessionLabel : Int → String
  validDaysBetween : Int → Int → Nat

def sessionValues : List String := ["pre", "regular", "post", "closed"]

def nanosecondsPerMinute : Int := 60000000000

section Bars
variable {F : Type}

def RawBar.prices (bar : RawBar F) : List F :=
  [bar.openPrice, bar.high, bar.low, bar.closePrice]

/-- The columns the prefix check and `same_bars` compare. -/
def RawBar.keys (bar : RawBar F) : Int × List F × F := (bar.timestamp, bar.prices, bar.volume)

def markSessions (clock : MarketClock) (frame : List (RawBar F)) : List (Bar F) :=
  frame.map fun bar => { bar with session := clock.sessionLabel bar.timestamp }

/-! ## The checks of a candidate -/

inductive BarProblem where
  | noBars
  | nullValues (counts : List Nat)
  | nonPositivePrices
  | highLowBounds (count : Nat)
  | negativeVolume
  | duplicateTimestamps (count : Nat)
  | notIncreasing
  | notAligned
  | afterEnd (endOfData : Int)
  | unknownSessions (labels : List String)
  | prefixChanged
  deriving DecidableEq, Repr

def duplicated : List Int → List Int → Nat
  | _, [] => 0
  | seen, timestamp :: rest =>
      (if timestamp ∈ seen then 1 else 0) + duplicated (timestamp :: seen) rest

def isMonotonicIncreasing : List Int → Bool
  | first :: second :: rest => decide (first ≤ second) && isMonotonicIncreasing (second :: rest)
  | _ => true

section Numbers
variable [BarNumber F]

open BarNumber

def nullCounts (frame : List (Bar F)) : List Nat :=
  let count (column : RawBar F → F) : Nat := frame.countP fun bar => isNull (column bar.toRawBar)
  [0, count (·.openPrice), count (·.high), count (·.low), count (·.closePrice), count (·.volume), 0]

def hasNonPositivePrice (bar : RawBar F) : Bool := bar.prices.any fun price => atMost price zero

/-- `high` is below the largest price, or `low` above the smallest. -/
def violatesBounds (bar : RawBar F) : Bool :=
  (bar.prices.any fun price => below bar.high price) ||
    bar.prices.any fun price => below price bar.low

variable [DecidableEq F]

def prefixProblems (frame previous : List (Bar F)) : List BarProblem :=
  let head := frame.take previous.length
  if head.map (·.keys) = previous.map (·.keys) then [] else [.prefixChanged]

def validateBars (frame : List (Bar F)) (endOfData : Int) (previous : Option (List (Bar F))) :
    List BarProblem :=
  if frame = [] then [.noBars] else
  let timestamps := frame.map (·.timestamp)
  let unknown := (frame.map (·.session)).filter (· ∉ sessionValues)
  (if (nullCounts frame).any (· ≠ 0) then [.nullValues (nullCounts frame)] else []) ++
  (if frame.any (hasNonPositivePrice ·.toRawBar) then [.nonPositivePrices] else []) ++
  (if frame.any (violatesBounds ·.toRawBar) then
    [.highLowBounds (frame.countP (violatesBounds ·.toRawBar))] else []) ++
  (if frame.any (below ·.volume zero) then [.negativeVolume] else []) ++
  (if duplicated [] timestamps ≠ 0 then [.duplicateTimestamps (duplicated [] timestamps)]
    else []) ++
  (if isMonotonicIncreasing timestamps then [] else [.notIncreasing]) ++
  (if timestamps.any (· % nanosecondsPerMinute ≠ 0) then [.notAligned] else []) ++
  (if timestamps.any (endOfData < ·) then [.afterEnd endOfData] else []) ++
  (if unknown ≠ [] then [.unknownSessions unknown.dedup] else []) ++
  match previous with
  | some (first :: rest) => prefixProblems frame (first :: rest)
  | _ => []

end Numbers

/-! ## Comparisons with the stored bars -/

def endsAtOrAfter (frame existing : List (Bar F)) : Bool :=
  match frame.getLast?, existing.getLast? with
  | some last, some stored => decide (stored.timestamp ≤ last.timestamp)
  | _, _ => false

/-- `np.array_equal` column by column: a null equals nothing. -/
def sameBars [BarNumber F] [DecidableEq F] (frame other : List (Bar F)) : Bool :=
  decide (frame.map (·.keys) = other.map (·.keys)) &&
    frame.all fun bar => (bar.volume :: bar.prices).all fun value => !BarNumber.isNull value

def overlapMatches [BarNumber F] (anchor : Bar F) (fetched : List (Bar F)) : Bool :=
  match fetched with
  | [] => false
  | first :: _ => decide (first.timestamp = anchor.timestamp) &&
      (List.zipWith BarNumber.isClose first.prices anchor.prices).all id

def keptBars (clock : MarketClock) (existing : List (Bar F)) : List (Bar F) :=
  match existing.getLast? with
  | none => []
  | some lastStored =>
      existing.take (searchSortedLeft (existing.map (·.timestamp))
        (clock.sessionStart lastStored.timestamp))

/-! ## The cut at a listing gap -/

def maxSuspensionSessions : Nat := 10

/-- The row starts a new date after a silence of more than ten sessions. -/
def isListingGap (clock : MarketClock) (frame : List (Bar F)) (row : Nat) : Bool :=
  match frame[row - 1]?, frame[row]? with
  | some before, some after =>
      let previousDay := clock.day before.timestamp
      let nextDay := clock.day after.timestamp
      decide (0 < row ∧ previousDay ≠ nextDay) &&
        decide ((maxSuspensionSessions : Int) + 4 ≤ nextDay - previousDay) &&
        decide (maxSuspensionSessions < clock.validDaysBetween previousDay nextDay)
  | _, _ => false

def listingGapRow (clock : MarketClock) (frame : List (Bar F)) : Option Nat :=
  (List.range frame.length).reverse.find? (isListingGap clock frame)

/-- The kept rows, and the number of discarded ones when the frame is cut. -/
def cutAtLastListingGap (clock : MarketClock) (frame : List (Bar F)) :
    List (Bar F) × Option Nat :=
  match listingGapRow clock frame with
  | none => (frame, none)
  | some row => (frame.drop row, some row)

/-! ## What an accepted frame is -/

theorem isMonotonicIncreasing_pairwise {timestamps : List Int}
    (increasing : isMonotonicIncreasing timestamps = true) : timestamps.Pairwise (· ≤ ·) := by
  rw [← List.isChain_iff_pairwise]
  induction timestamps with
  | nil => exact List.IsChain.nil
  | cons first rest ih =>
      cases rest with
      | nil => exact List.IsChain.singleton first
      | cons second others =>
          rw [isMonotonicIncreasing, Bool.and_eq_true] at increasing
          obtain ⟨step, tail⟩ := increasing
          exact List.isChain_cons_cons.mpr ⟨of_decide_eq_true step, ih tail⟩

theorem duplicated_eq_zero {timestamps : List Int} : ∀ {seen : List Int},
    duplicated seen timestamps = 0 → timestamps.Nodup ∧ ∀ t ∈ timestamps, t ∉ seen := by
  induction timestamps with
  | nil => intro seen _; simp
  | cons first rest ih =>
      intro seen none
      simp only [duplicated, Nat.add_eq_zero_iff] at none
      obtain ⟨head, tail⟩ := none
      have fresh : first ∉ seen := by
        intro member
        simp [member] at head
      obtain ⟨nodup, apart⟩ := ih tail
      constructor
      · refine List.nodup_cons.mpr ⟨?_, nodup⟩
        intro member
        exact apart first member List.mem_cons_self
      · intro t member
        rcases List.mem_cons.mp member with rfl | inRest
        · exact fresh
        · intro inSeen
          exact apart t inRest (List.mem_cons_of_mem first inSeen)

def Increasing (frame : List (Bar F)) : Prop :=
  (frame.map (·.timestamp)).Pairwise (· < ·)

section Accepted
variable [BarNumber F] [DecidableEq F] {frame : List (Bar F)} {endOfData : Int}
variable {previous : Option (List (Bar F))}

theorem validateBars_nonempty (accepted : validateBars frame endOfData previous = []) :
    frame ≠ [] := by
  intro empty
  simp [validateBars, empty] at accepted

theorem validateBars_increasing (accepted : validateBars frame endOfData previous = []) :
    Increasing frame := by
  have nonempty := validateBars_nonempty accepted
  simp only [validateBars, nonempty, if_false, List.append_eq_nil_iff] at accepted
  obtain ⟨⟨⟨⟨⟨⟨-, unique⟩, increasing⟩, -⟩, -⟩, -⟩, -⟩ := accepted
  have none : duplicated [] (frame.map (·.timestamp)) = 0 := by
    by_contra some
    simp [some] at unique
  have ordered : isMonotonicIncreasing (frame.map (·.timestamp)) = true := by
    by_contra unordered
    simp [unordered] at increasing
  have le := isMonotonicIncreasing_pairwise ordered
  have ne : (frame.map (·.timestamp)).Pairwise (· ≠ ·) := (duplicated_eq_zero none).1
  exact (le.and ne).imp fun both => lt_of_le_of_ne both.1 both.2

/-- The first rows agree with the kept ones in the compared columns. -/
theorem validateBars_prefix {kept : List (Bar F)}
    (accepted : validateBars frame endOfData (some kept) = []) :
    (frame.take kept.length).map (·.keys) = kept.map (·.keys) := by
  cases kept with
  | nil => simp
  | cons first rest =>
      have nonempty := validateBars_nonempty accepted
      simp only [validateBars, nonempty, if_false, List.append_eq_nil_iff] at accepted
      have last : prefixProblems frame (first :: rest) = [] := accepted.2
      unfold prefixProblems at last
      by_contra different
      rw [if_neg different] at last
      cases last

end Accepted

/-! ## What the cut keeps -/

theorem listingGapRow_inside {clock : MarketClock} {frame : List (Bar F)} {row : Nat}
    (found : listingGapRow clock frame = some row) : row < frame.length := by
  have member := List.mem_of_find?_eq_some found
  simpa using member

theorem cut_getLast? (clock : MarketClock) (frame : List (Bar F)) :
    (cutAtLastListingGap clock frame).1.getLast? = frame.getLast? := by
  unfold cutAtLastListingGap
  cases found : listingGapRow clock frame with
  | none => rfl
  | some row =>
      have inside := listingGapRow_inside found
      simp only [List.getLast?_drop]
      rw [if_neg (by omega)]

theorem cut_subset (clock : MarketClock) (frame : List (Bar F)) :
    (cutAtLastListingGap clock frame).1 ⊆ frame := by
  unfold cutAtLastListingGap
  cases listingGapRow clock frame with
  | none => exact List.Subset.refl frame
  | some row => exact List.drop_subset row frame

theorem endsAtOrAfter_cut (clock : MarketClock) (frame existing : List (Bar F)) :
    endsAtOrAfter (cutAtLastListingGap clock frame).1 existing = endsAtOrAfter frame existing := by
  unfold endsAtOrAfter
  rw [cut_getLast?]

/-! ## The bars before the last stored session -/

def BeforeLastSession (clock : MarketClock) (existing : List (Bar F)) (bar : Bar F) : Prop :=
  ∃ lastStored, existing.getLast? = some lastStored ∧
    bar.timestamp < clock.sessionStart lastStored.timestamp

theorem mem_keptBars {clock : MarketClock} {existing : List (Bar F)} {bar : Bar F}
    (increasing : Increasing existing) (stored : bar ∈ existing)
    (before : BeforeLastSession clock existing bar) : bar ∈ keptBars clock existing := by
  obtain ⟨lastStored, last, earlier⟩ := before
  obtain ⟨row, inside, rfl⟩ := List.mem_iff_getElem.mp stored
  have sorted : (existing.map (·.timestamp)).Pairwise (· ≤ ·) := increasing.imp le_of_lt
  have position := lt_searchSortedLeft_iff sorted
    (v := clock.sessionStart lastStored.timestamp) (i := row) (by simpa using inside)
  rw [List.getElem_map] at position
  have below := position.mpr earlier
  simp only [keptBars, last]
  rw [List.mem_iff_getElem]
  refine ⟨row, by simp only [List.length_take]; omega, ?_⟩
  simp

end Bars

end QuantFactory.MarketData
