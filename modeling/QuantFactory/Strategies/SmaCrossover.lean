import QuantFactory.Strategies.SessionDays

/-!
# The intraday SMA crossover

`strategies/mes_sma_crossover_candidate.py` finds a session's first cross of the 10 and the 30 bar
mean with masks over its bars; the loop it replaced went through the bars and left at the exit
signal.
-/

set_option autoImplicit false

namespace QuantFactory.Strategies

open QuantFactory.Library

/-- `series.shift(1)`. -/
def shiftedOne {F : Type} (nan : F) (series : Nat → F) : Nat → F
  | 0 => nan
  | position + 1 => series position

section Model
variable {F : Type} (arithmetic : BarArithmetic F) (data : List (PriceBar F))

/-- `rolling(length, min_periods=length).mean()` of the closes. -/
def meanOfCloses (length : Nat) (day : List (PriceBar F)) (position : Nat) : F :=
  (arithmetic.rollingMean length (day.map PriceBar.closePrice)).getD position arithmetic.nan

def exitSignalOf (session : TradingSession) : Int := session.marketClose - minutes 10

section Cross
variable (fast slow : Nat → F) (session : TradingSession) (bars : Nat)

def eligibleForCross (position : Nat) : Bool :=
  decide (30 ≤ position) && decide (position < bars - 2) &&
    decide (barTime session position < exitSignalOf session)

def crossedUp : List Bool :=
  (List.range bars).map fun position =>
    arithmetic.lessEq (shiftedOne arithmetic.nan fast position)
        (shiftedOne arithmetic.nan slow position) &&
      arithmetic.less (slow position) (fast position) && eligibleForCross session bars position

def crossedDown : List Bool :=
  (List.range bars).map fun position =>
    arithmetic.lessEq (shiftedOne arithmetic.nan slow position)
        (shiftedOne arithmetic.nan fast position) &&
      arithmetic.less (fast position) (slow position) && eligibleForCross session bars position

/-- `first_cross.idxmax()` and its direction. -/
def firstCross : Option (Int × Side) :=
  let up := crossedUp arithmetic fast slow session bars
  let down := crossedDown arithmetic fast slow session bars
  (firstTrue (List.zipWith (· || ·) up down)).map fun position =>
    (barTime session position, if up.getD position false then .long else .short)

def crossesUp (position : Nat) : Bool :=
  arithmetic.lessEq (fast (position - 1)) (slow (position - 1)) &&
    arithmetic.less (slow position) (fast position)

def crossesDown (position : Nat) : Bool :=
  arithmetic.lessEq (slow (position - 1)) (fast (position - 1)) &&
    arithmetic.less (fast position) (slow position)

def referenceCross : List Nat → Option (Int × Side)
  | [] => none
  | position :: rest =>
      let timestamp := barTime session position
      if exitSignalOf session ≤ timestamp then none
      else if crossesUp arithmetic fast slow position then some (timestamp, .long)
      else if crossesDown arithmetic fast slow position then some (timestamp, .short)
      else referenceCross rest

end Cross

def smaTrade (session : TradingSession) : Option (Int × Side) :=
  (fullSession arithmetic data session).bind fun day =>
    firstCross arithmetic (meanOfCloses arithmetic 10 day) (meanOfCloses arithmetic 30 day) session
      day.length

/-- `_reference_sma_cross`, on `range(30, len(day) - 2)`. -/
def referenceSmaTrade (session : TradingSession) : Option (Int × Side) :=
  (fullSession arithmetic data session).bind fun day =>
    referenceCross arithmetic (meanOfCloses arithmetic 10 day) (meanOfCloses arithmetic 30 day) session
      (List.range' 30 (day.length - 2 - 30))

def writeSmaTrade (trade : TradingSession → Option (Int × Side)) (series : SignalSeries)
    (session : TradingSession) : SignalSeries :=
  match trade session with
  | none => series
  | some (timestamp, side) => series.trade side timestamp (exitSignalOf session)

/-- `generate_candidate_signals`. -/
def generateSmaSignals (schedule : List TradingSession) : Except StrategyError SignalSeries := do
  raiseIf (!decide (Chronological data))
    (.valueError "MES SMA timestamps must be unique and chronological")
  .ok (schedule.foldl (writeSmaTrade (smaTrade arithmetic data)) (SignalSeries.none (times data)))

def referenceSmaSignals (schedule : List TradingSession) : SignalSeries :=
  schedule.foldl (writeSmaTrade (referenceSmaTrade arithmetic data)) (SignalSeries.none (times data))

end Model

section Parity
variable {F : Type} {arithmetic : BarArithmetic F} {data : List (PriceBar F)}
  {fast slow : Nat → F} {session : TradingSession}

theorem referenceCross_eq (positions : List Nat) :
    referenceCross arithmetic fast slow session positions =
      (firstUntil (fun position => decide (exitSignalOf session ≤ barTime session position))
        (fun position => crossesUp arithmetic fast slow position ||
          crossesDown arithmetic fast slow position) positions).map fun position =>
        (barTime session position, if crossesUp arithmetic fast slow position then .long else .short) := by
  induction positions with
  | nil => rfl
  | cons position rest ih =>
      simp only [referenceCross, firstUntil, decide_eq_true_eq]
      split
      · rfl
      · rw [ih]
        by_cases up : crossesUp arithmetic fast slow position = true
        · simp [up]
        · by_cases down : crossesDown arithmetic fast slow position = true
          · simp [up, down]
          · simp [up, down]

/-- Up to the exit signal the masks are the tests of the loop. -/
theorem crossed_getD (bars position : Nat) :
    (crossedUp arithmetic fast slow session bars).getD position false =
        (decide (position < bars) && (crossesUp arithmetic fast slow position &&
          eligibleForCross session bars position)) ∧
      (crossedDown arithmetic fast slow session bars).getD position false =
        (decide (position < bars) && (crossesDown arithmetic fast slow position &&
          eligibleForCross session bars position)) := by
  rcases Nat.lt_or_ge position bars with inside | outside
  · cases position with
    | zero => simp [crossedUp, crossedDown, eligibleForCross, inside]
    | succ before => simp [crossedUp, crossedDown, inside, crossesUp, crossesDown, shiftedOne]
  · have past : ¬ position < bars := by omega
    simp [crossedUp, crossedDown, past]

theorem firstCross_eq_reference (bars : Nat) :
    firstCross arithmetic fast slow session bars =
      referenceCross arithmetic fast slow session (List.range' 30 (bars - 2 - 30)) := by
  have masks : List.zipWith (· || ·) (crossedUp arithmetic fast slow session bars)
      (crossedDown arithmetic fast slow session bars) =
        (List.range bars).map fun position => (crossesUp arithmetic fast slow position ||
          crossesDown arithmetic fast slow position) && eligibleForCross session bars position := by
    rw [crossedUp, crossedDown, List.zipWith_map, List.zipWith_self]
    apply List.map_congr_left
    intro position _
    cases position with
    | zero => simp [eligibleForCross]
    | succ before => simp [crossesUp, crossesDown, shiftedOne, Bool.and_or_distrib_right]
  have found : firstUntil (fun position => decide (exitSignalOf session ≤ barTime session position))
      (fun position => crossesUp arithmetic fast slow position ||
        crossesDown arithmetic fast slow position) (List.range' 30 (bars - 2 - 30)) =
      (List.range bars).find? fun position => (crossesUp arithmetic fast slow position ||
        crossesDown arithmetic fast slow position) && eligibleForCross session bars position := by
    rw [firstUntil_eq_find? fun position => (crossesUp arithmetic fast slow position ||
      crossesDown arithmetic fast slow position) && eligibleForCross session bars position]
    · apply find?_of_same_hits
      · exact List.pairwise_lt_range'
      · exact List.pairwise_lt_range
      · intro position hit
        simp only [eligibleForCross, Bool.and_eq_true, decide_eq_true_eq] at hit
        rw [List.mem_range'_1, List.mem_range]
        omega
    · intro position member going
      rw [List.mem_range'_1] at member
      have before : barTime session position < exitSignalOf session := by simpa using going
      simp only [eligibleForCross, before, decide_true, Bool.and_true]
      have eligible : (decide (30 ≤ position) && decide (position < bars - 2)) = true := by
        simp only [Bool.and_eq_true, decide_eq_true_eq]
        omega
      rw [eligible, Bool.and_true]
    · intro position _ halted
      have late : exitSignalOf session ≤ barTime session position := by simpa using halted
      simp [eligibleForCross, not_lt.mpr late]
    · apply (List.pairwise_lt_range').imp
      intro earlier later before halted
      have late : exitSignalOf session ≤ barTime session earlier := by simpa using halted
      have further := barTime_lt session before
      simp [eligibleForCross, not_lt.mpr (late.trans further.le)]
  rw [referenceCross_eq, found, firstCross, masks, firstTrue_map, findIdx?_range]
  cases hit : (List.range bars).find? _ with
  | none => rfl
  | some position =>
      have kept := List.find?_some hit
      have inside := List.mem_range.mp (List.mem_of_find?_eq_some hit)
      rw [Bool.and_eq_true] at kept
      rw [Option.map_some, Option.map_some, (crossed_getD bars position).1, kept.2, Bool.and_true,
        decide_eq_true inside, Bool.true_and]

theorem smaSignals_eq_reference (ordered : Chronological data) (schedule : List TradingSession) :
    generateSmaSignals arithmetic data schedule =
      .ok (referenceSmaSignals arithmetic data schedule) := by
  have same : smaTrade arithmetic data = referenceSmaTrade arithmetic data := by
    funext session
    simp only [smaTrade, referenceSmaTrade, firstCross_eq_reference]
  simp only [generateSmaSignals, referenceSmaSignals, same, raiseIf, decide_eq_true ordered,
    Bool.not_true, Bool.false_eq_true, if_false, bind_ok]

end Parity

end QuantFactory.Strategies
