import QuantFactory.Library.FirstMatch
import QuantFactory.MarketData.Bars

/-!
# What the cut at a listing gap keeps

`market_data/listing_gap.py`: the rows kept are those behind the last silence of more than ten
exchange sessions.  The test of the calendar days in front of the session count hides no such
silence as long as any twelve days in a row have two without a session.
-/

set_option autoImplicit false

namespace QuantFactory.MarketData

open QuantFactory.Library

/-! ## The calendar -/

def sessionsBetween (isSession : Int → Bool) (previousDay nextDay : Int) : Nat :=
  (List.range (nextDay - previousDay - 1).toNat).countP fun offset : Nat =>
    isSession (previousDay + 1 + offset)

/-- The exchange is closed on two days at least of any twelve in a row. -/
def ClosedTwoInTwelve (isSession : Int → Bool) : Prop :=
  ∀ day : Int, 2 ≤ (List.range 12).countP fun offset : Nat => !isSession (day + offset)

/-- `valid_days` lists the sessions of the exchange. -/
def MarketClock.Follows (clock : MarketClock) (isSession : Int → Bool) : Prop :=
  ∀ previousDay nextDay,
    clock.validDaysBetween previousDay nextDay = sessionsBetween isSession previousDay nextDay

section Calendar
variable {isSession : Int → Bool} (closed : ClosedTwoInTwelve isSession)
include closed

theorem sessions_in_twelve (day : Int) {count : Nat} (few : count ≤ 12) :
    (List.range count).countP (fun offset : Nat => isSession (day + offset)) ≤ 10 := by
  have part : (List.range count).Sublist (List.range 12) := List.range_sublist.mpr few
  have fewer := part.countP_le (p := fun offset : Nat => isSession (day + offset))
  have all := List.length_eq_countP_add_countP (fun offset : Nat => isSession (day + offset))
    (l := List.range 12)
  have off := closed day
  simp only [List.length_range, Bool.decide_eq_false, Bool.not_eq_true] at all
  omega

theorem fourteen_days_of_sessions {previousDay nextDay : Int}
    (silent : maxSuspensionSessions < sessionsBetween isSession previousDay nextDay) :
    (maxSuspensionSessions : Int) + 4 ≤ nextDay - previousDay := by
  by_contra near
  have few : (nextDay - previousDay - 1).toNat ≤ 12 := by
    simp only [maxSuspensionSessions] at near
    omega
  have bound := sessions_in_twelve closed (previousDay + 1) few
  simp only [maxSuspensionSessions, sessionsBetween] at silent
  omega

end Calendar

/-! ## Silences -/

section Cut
variable {F : Type} {clock : MarketClock} {isSession : Int → Bool} {frame : List (Bar F)}

/-- More than ten sessions lie strictly between the date of a row and that of the one before. -/
def SilentBefore (clock : MarketClock) (isSession : Int → Bool) (frame : List (Bar F))
    (row : Nat) : Prop :=
  ∃ before after : Bar F, 0 < row ∧ frame[row - 1]? = some before ∧ frame[row]? = some after ∧
    maxSuspensionSessions <
      sessionsBetween isSession (clock.day before.timestamp) (clock.day after.timestamp)

theorem isListingGap_iff (follows : clock.Follows isSession)
    (closed : ClosedTwoInTwelve isSession) (row : Nat) :
    isListingGap clock frame row = true ↔ SilentBefore clock isSession frame row := by
  constructor
  · intro gap
    unfold isListingGap at gap
    split at gap
    · rename_i before after first second
      simp only [Bool.and_eq_true, decide_eq_true_eq] at gap
      obtain ⟨⟨⟨positive, -⟩, -⟩, sessions⟩ := gap
      rw [follows] at sessions
      exact ⟨before, after, positive, first, second, sessions⟩
    · cases gap
  · rintro ⟨before, after, positive, first, second, sessions⟩
    have apart := fourteen_days_of_sessions closed sessions
    have different : clock.day before.timestamp ≠ clock.day after.timestamp := by
      intro same
      simp only [same, Int.sub_self, maxSuspensionSessions] at apart
      omega
    simp only [isListingGap, first, second, Bool.and_eq_true, decide_eq_true_eq]
    exact ⟨⟨⟨positive, different⟩, apart⟩, by rw [follows]; exact sessions⟩

theorem isListingGap_inside {row : Nat} (gap : isListingGap clock frame row = true) :
    row < frame.length := by
  by_contra outside
  have none : frame[row]? = none := List.getElem?_eq_none (Nat.le_of_not_lt outside)
  unfold isListingGap at gap
  rw [none] at gap
  split at gap
  · contradiction
  · cases gap

theorem isListingGap_pos {row : Nat} (gap : isListingGap clock frame row = true) : 0 < row := by
  by_contra zero
  obtain rfl : row = 0 := by omega
  unfold isListingGap at gap
  split at gap <;> simp at gap

theorem listingGapRow_eq_some {row : Nat} (found : listingGapRow clock frame = some row) :
    isListingGap clock frame row = true ∧
      ∀ later, row < later → isListingGap clock frame later = false := by
  obtain ⟨gap, -, last⟩ := find?_reverse_range_eq_some found
  refine ⟨gap, fun later above => ?_⟩
  by_contra hit
  have other := Bool.of_not_eq_false hit
  exact hit (last later above (isListingGap_inside other))

theorem listingGapRow_eq_none (none : listingGapRow clock frame = none) (row : Nat) :
    isListingGap clock frame row = false := by
  by_contra hit
  have gap := Bool.of_not_eq_false hit
  have missed := List.find?_eq_none.mp none row (by simpa using isListingGap_inside gap)
  exact missed gap

theorem isListingGap_drop {row : Nat} (first : Nat)
    (gap : isListingGap clock (frame.drop first) row = true) :
    isListingGap clock frame (first + row) = true := by
  have positive := isListingGap_pos gap
  have before : first + (row - 1) = first + row - 1 := by omega
  unfold isListingGap at gap ⊢
  rw [List.getElem?_drop, List.getElem?_drop, before] at gap
  split at gap
  · simp only [Bool.and_eq_true, decide_eq_true_eq] at gap ⊢
    exact ⟨⟨⟨by omega, gap.1.1.2⟩, gap.1.2⟩, gap.2⟩
  · cases gap

theorem cut_again (clock : MarketClock) (frame : List (Bar F)) :
    cutAtLastListingGap clock (cutAtLastListingGap clock frame).1 =
      ((cutAtLastListingGap clock frame).1, none) := by
  have kept : listingGapRow clock (cutAtLastListingGap clock frame).1 = none := by
    refine List.find?_eq_none.mpr fun row _ gap => ?_
    cases found : listingGapRow clock frame with
    | none =>
        simp only [cutAtLastListingGap, found] at gap
        exact absurd gap (by simp [listingGapRow_eq_none found row])
    | some cut =>
        simp only [cutAtLastListingGap, found] at gap
        have later := isListingGap_drop cut gap
        have positive := isListingGap_pos gap
        have none := (listingGapRow_eq_some found).2 (cut + row) (by omega)
        rw [none] at later
        cases later
  generalize (cutAtLastListingGap clock frame).1 = rest at kept
  rw [cutAtLastListingGap, kept]

/-- The cut keeps the rows behind the last silence, and all rows when there is none. -/
structure KeepsAfterLastSilence (clock : MarketClock) (isSession : Int → Bool)
    (frame kept : List (Bar F)) : Prop where
  whole : (∀ row, ¬ SilentBefore clock isSession frame row) → kept = frame
  behind : ∀ row, SilentBefore clock isSession frame row →
    (∀ later, row < later → ¬ SilentBefore clock isSession frame later) → kept = frame.drop row

theorem cut_keeps (follows : clock.Follows isSession) (closed : ClosedTwoInTwelve isSession)
    (frame : List (Bar F)) :
    KeepsAfterLastSilence clock isSession frame (cutAtLastListingGap clock frame).1 := by
  have silent (row : Nat) : isListingGap clock frame row = true ↔
      SilentBefore clock isSession frame row := isListingGap_iff follows closed row
  cases found : listingGapRow clock frame with
  | none =>
      refine ⟨fun _ => by simp [cutAtLastListingGap, found], fun row hit _ => ?_⟩
      have gap := (silent row).mpr hit
      rw [listingGapRow_eq_none found row] at gap
      cases gap
  | some cut =>
      obtain ⟨gap, last⟩ := listingGapRow_eq_some found
      refine ⟨fun nowhere => absurd ((silent cut).mp gap) (nowhere cut), fun row hit final => ?_⟩
      have same : row = cut := by
        rcases Nat.lt_trichotomy row cut with less | same | more
        · exact absurd ((silent cut).mp gap) (final cut less)
        · exact same
        · have none := last row more
          rw [(silent row).mpr hit] at none
          cases none
      simp [cutAtLastListingGap, found, same]

end Cut

end QuantFactory.MarketData
