import QuantFactory.Library.FirstMatch
import QuantFactory.Strategies.SessionScan

/-!
# Strategies over whole sessions

What the SMA crossover, the run exhaustion and the VWAP breakout share: the five-minute bars of a
session, the tests that a session is complete, and the signal series that an accepted session
writes.  A series takes a time that its index does not have as a new row.
-/

set_option autoImplicit false

namespace QuantFactory.Strategies

open QuantFactory.Library

structure BarArithmetic (F : Type) where
  nan : F
  literal : Rat → F
  add : F → F → F
  subtract : F → F → F
  multiply : F → F → F
  divide : F → F → F
  absolute : F → F
  maximum : List F → F
  minimum : List F → F
  less : F → F → Bool
  lessEq : F → F → Bool
  equal : F → F → Bool
  finite : F → Bool
  /-- `Series.rolling(n, min_periods=n).mean()`. -/
  rollingMean : Nat → List F → List F
  /-- `Series.cumsum()`. -/
  cumulativeSum : List F → List F

def BarArithmetic.isNumber {F : Type} (arithmetic : BarArithmetic F) (value : F) : Bool :=
  arithmetic.equal value value

/-- What the comparisons of floats promise: they are total on numbers, the difference of two finite
floats is a number, and so is a product of two constants. -/
structure BarArithmetic.Documented {F : Type} (arithmetic : BarArithmetic F) : Prop where
  total : ∀ a b, arithmetic.isNumber a = true → arithmetic.isNumber b = true →
    arithmetic.lessEq b a = !arithmetic.less a b
  difference : ∀ a b, arithmetic.finite a = true → arithmetic.finite b = true →
    arithmetic.isNumber (arithmetic.absolute (arithmetic.subtract a b)) = true
  constant : ∀ value, arithmetic.isNumber (arithmetic.literal value) = true
  product : ∀ a b, arithmetic.isNumber
    (arithmetic.multiply (arithmetic.literal a) (arithmetic.literal b)) = true

/-- `SignalResult`'s four series, each a list of rows. -/
structure SignalSeries where
  entries : List (Int × Bool)
  exits : List (Int × Bool)
  shortEntries : List (Int × Bool)
  shortExits : List (Int × Bool)
  deriving DecidableEq, Repr

/-- `pd.Series(False, index=index)` four times. -/
def SignalSeries.none (index : List Int) : SignalSeries :=
  ⟨index.map (·, false), index.map (·, false), index.map (·, false), index.map (·, false)⟩

/-- `series.at[timestamp] = value`: the row of the time, or a new row. -/
def setAt {V : Type} (series : List (Int × V)) (timestamp : Int) (value : V) : List (Int × V) :=
  if series.any fun row => decide (row.1 = timestamp) then
    series.map fun row => if row.1 = timestamp then (row.1, value) else row
  else series ++ [(timestamp, value)]

def SignalSeries.trade (series : SignalSeries) (side : Side) (entry exit : Int) : SignalSeries :=
  match side with
  | .long =>
      { series with
        entries := setAt series.entries entry true
        exits := setAt series.exits exit true }
  | .short =>
      { series with
        shortEntries := setAt series.shortEntries entry true
        shortExits := setAt series.shortExits exit true }

section Days
variable {F : Type} (arithmetic : BarArithmetic F) (data : List (PriceBar F))

def barTime (session : TradingSession) (position : Nat) : Int :=
  session.marketOpen + position * fiveMinutes

def barCount (session : TradingSession) : Nat :=
  ((session.marketClose - session.marketOpen + (fiveMinutes - 1)) / fiveMinutes).toNat

/-- `pd.date_range(session_open, session_close, freq=FIVE_MINUTES, inclusive="left")`. -/
def expectedBars (session : TradingSession) : List Int :=
  (List.range (barCount session)).map (barTime session)

/-- `frame.loc[expected]`. -/
def dayRows (session : TradingSession) : List (PriceBar F) :=
  (expectedBars session).filterMap (barAt data)

def PriceBar.prices (bar : PriceBar F) : List F := [bar.openPrice, bar.high, bar.low, bar.closePrice]

/-- A full regular session with usable bars: the sessions that the crossover and the run exhaustion
do not skip. -/
def fullSession (session : TradingSession) : Option (List (PriceBar F)) :=
  if session.marketClose - session.marketOpen ≠ minutes 390 then none
  else if !(expectedBars session).all fun time => (times data).contains time then none
  else
    let day := dayRows data session
    if !day.all fun bar => (bar.volume :: bar.prices).all arithmetic.finite then none
    else if day.any (fun bar => arithmetic.lessEq bar.volume (arithmetic.literal 0)) ||
        day.any (fun bar => bar.prices.any fun price => arithmetic.lessEq price (arithmetic.literal 0))
      then none
    else some day

variable {arithmetic data} {session : TradingSession}

variable (session) in
theorem barTime_lt {earlier later : Nat} (before : earlier < later) :
    barTime session earlier < barTime session later := by
  unfold barTime fiveMinutes minutes
  omega

theorem fullSession_eq_some {day : List (PriceBar F)}
    (full : fullSession arithmetic data session = some day) :
    session.marketClose - session.marketOpen = minutes 390 ∧ day = dayRows data session ∧
      (∀ time ∈ expectedBars session, time ∈ times data) ∧
      ∀ bar ∈ day, ∀ price ∈ bar.prices, arithmetic.finite price = true := by
  unfold fullSession at full
  split at full
  · cases full
  · rename_i length
    split at full
    · cases full
    · rename_i present
      dsimp only at full
      split at full
      · cases full
      · rename_i finite
        split at full
        · cases full
        · rw [← Option.some.inj full]
          refine ⟨not_not.mp length, rfl, ?_, ?_⟩
          · simpa using present
          · intro bar member price among
            have each : ∀ bar ∈ dayRows data session,
                (bar.volume :: bar.prices).all arithmetic.finite = true := by simpa using finite
            exact List.all_eq_true.mp (each bar member) price (List.mem_cons_of_mem _ among)

end Days

end QuantFactory.Strategies
