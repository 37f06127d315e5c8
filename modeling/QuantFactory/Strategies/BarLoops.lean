import Mathlib.Algebra.Order.Ring.Unbundled.Rat
import QuantFactory.RuleStrategy.RowLoops
import QuantFactory.Strategies.RunExhaustion
import QuantFactory.Strategies.SmaCrossover
import QuantFactory.Strategies.VwapBreakout

/-!
# Vectorised strategies and their bar loops

The parity tests keep the loops that the crossover, the run exhaustion, the VWAP breakout and the two
array helpers of the rule evaluator had before.  The vectorised forms agree with them on every
input, arrays of no bars and bars whose ratio is no number apart.
-/

set_option autoImplicit false

namespace QuantFactory.Strategies

open QuantFactory.Library QuantFactory.RuleStrategy.RowLoops

/-- The signals, stops, targets and entry issues of the three strategies, and the two helpers, are
those of the loops. -/
theorem vectorised_equals_the_bar_loops {F : Type} {arithmetic : BarArithmetic F}
    (documented : arithmetic.Documented) {timeOfDay : Int → Int}
    (window : WindowNotReentered timeOfDay) {data : List (PriceBar F)} (ordered : Chronological data)
    (schedule : List TradingSession) :
    generateSmaSignals arithmetic data schedule =
        .ok (referenceSmaSignals arithmetic data schedule) ∧
      (∀ parameters normalized, validateRunParameters parameters = .ok normalized →
        ∃ runLength ticks, integerSetting parameters "run_length" = .ok runLength ∧
          integerSetting parameters "minimum_ticks_per_bar" = .ok ticks ∧
          generateExhaustionSignals arithmetic timeOfDay data parameters schedule =
            .ok (referenceExhaustionSignals arithmetic timeOfDay data runLength ticks schedule)) ∧
      (RatiosAreNumbers arithmetic data → schedule ≠ [] →
        ∃ bundle, generateBreakoutBundle arithmetic data schedule = .ok bundle ∧
          bundle.series = (referenceBreakoutSeries arithmetic data schedule).1 ∧
          bundle.issues.countP isEntryIssue = (referenceBreakoutSeries arithmetic data schedule).2) ∧
      ∀ (sign : F → Int) (values : SessionArray F),
        (∀ bars, shiftBars arithmetic.nan values bars =
          referenceShiftBars arithmetic.nan values bars) ∧
        (values.rows ≠ [] → sameSignRun sign values = .ok (referenceSameSignRun sign values)) := by
  refine ⟨smaSignals_eq_reference ordered schedule, ?_, ?_, ?_⟩
  · intro parameters normalized validated
    exact exhaustionSignals_eq_reference documented window ordered validated schedule
  · intro numbers some_sessions
    exact breakoutSeries_eq_reference documented ordered numbers some_sessions
  · intro sign values
    exact ⟨shiftBars_eq_reference arithmetic.nan values, sameSignRun_eq_reference⟩

section Samples

inductive SampleFloat where
  | nan
  | infinite (negative : Bool)
  | finite (value : Rat)
  deriving DecidableEq

def SampleFloat.rounded (value : Rat) : SampleFloat :=
  if 2 ^ 1024 ≤ value then .infinite false
  else if value ≤ -2 ^ 1024 then .infinite true
  else .finite value

def SampleFloat.isNegative : SampleFloat → Bool
  | .nan => false
  | .infinite negative => negative
  | .finite value => decide (value < 0)

def SampleFloat.negate : SampleFloat → SampleFloat
  | .nan => .nan
  | .infinite negative => .infinite (!negative)
  | .finite value => .finite (-value)

def SampleFloat.add : SampleFloat → SampleFloat → SampleFloat
  | .finite a, .finite b => .rounded (a + b)
  | .infinite a, .infinite b => if a = b then .infinite a else .nan
  | .infinite a, .finite _ => .infinite a
  | .finite _, .infinite b => .infinite b
  | _, _ => .nan

def SampleFloat.multiply : SampleFloat → SampleFloat → SampleFloat
  | .nan, _ => .nan
  | _, .nan => .nan
  | .finite a, .finite b => .rounded (a * b)
  | a, b => if a = .finite 0 ∨ b = .finite 0 then .nan else .infinite (a.isNegative != b.isNegative)

def SampleFloat.divide : SampleFloat → SampleFloat → SampleFloat
  | .finite a, .finite b =>
      if b ≠ 0 then .rounded (a / b) else if a = 0 then .nan else .infinite (decide (a < 0))
  | .finite _, .infinite _ => .finite 0
  | .infinite a, .finite b => .infinite (a != decide (b < 0))
  | _, _ => .nan

def SampleFloat.less : SampleFloat → SampleFloat → Bool
  | .finite a, .finite b => decide (a < b)
  | .infinite a, .finite _ => a
  | .finite _, .infinite b => !b
  | .infinite a, .infinite b => a && !b
  | _, _ => false

def SampleFloat.equal : SampleFloat → SampleFloat → Bool
  | .finite a, .finite b => decide (a = b)
  | .infinite a, .infinite b => a == b
  | _, _ => false

def sampleBarArithmetic : BarArithmetic SampleFloat where
  nan := .nan
  literal value := .finite value
  add := SampleFloat.add
  subtract a b := a.add b.negate
  multiply := SampleFloat.multiply
  divide := SampleFloat.divide
  absolute a := if a.isNegative then a.negate else a
  maximum values := values.foldl (fun best value => if best.less value then value else best)
    (.infinite true)
  minimum values := values.foldl (fun best value => if value.less best then value else best)
    (.infinite false)
  less := SampleFloat.less
  lessEq a b := a.less b || a.equal b
  equal := SampleFloat.equal
  finite
    | .finite _ => true
    | _ => false
  rollingMean length values := (List.range values.length).map fun position =>
    if position + 1 < length then .nan
    else (((values.drop (position + 1 - length)).take length).foldl SampleFloat.add
      (.finite 0)).divide (.finite length)
  cumulativeSum values := (values.scanl SampleFloat.add (.finite 0)).tail

theorem SampleFloat.equal_self {value : SampleFloat} (number : value ≠ .nan) :
    value.equal value = true := by
  cases value with
  | nan => exact absurd rfl number
  | infinite negative => simp [SampleFloat.equal]
  | finite value => simp [SampleFloat.equal]

theorem SampleFloat.rounded_ne_nan (value : Rat) : SampleFloat.rounded value ≠ .nan := by
  unfold SampleFloat.rounded
  split
  · simp
  · split
    · simp
    · simp

theorem SampleFloat.negate_ne_nan {value : SampleFloat} (number : value ≠ .nan) :
    value.negate ≠ .nan := by
  cases value with
  | nan => exact absurd rfl number
  | infinite negative => simp [SampleFloat.negate]
  | finite value => simp [SampleFloat.negate]

theorem sampleBarArithmetic_documented : sampleBarArithmetic.Documented where
  total a b numberA numberB := by
    cases a with
    | nan => cases numberA
    | infinite a =>
        cases b with
        | nan => cases numberB
        | infinite b => cases a <;> cases b <;> rfl
        | finite b => cases a <;> rfl
    | finite a =>
        cases b with
        | nan => cases numberB
        | infinite b => cases b <;> rfl
        | finite b =>
            show (decide (b < a) || decide (b = a)) = !decide (a < b)
            rw [← Bool.decide_or, ← decide_not, decide_eq_decide, not_lt, le_iff_lt_or_eq]
  difference a b finiteA finiteB := by
    cases a with
    | nan => cases finiteA
    | infinite a => cases finiteA
    | finite a =>
        cases b with
        | nan => cases finiteB
        | infinite b => cases finiteB
        | finite b =>
            apply SampleFloat.equal_self
            show (if (SampleFloat.rounded (a + -b)).isNegative then
              (SampleFloat.rounded (a + -b)).negate else SampleFloat.rounded (a + -b)) ≠ .nan
            split
            · exact SampleFloat.negate_ne_nan (SampleFloat.rounded_ne_nan _)
            · exact SampleFloat.rounded_ne_nan _
  constant value := by
    show (SampleFloat.finite value).equal (.finite value) = true
    exact SampleFloat.equal_self (by simp)
  product a b := SampleFloat.equal_self (SampleFloat.rounded_ne_nan (a * b))

def sampleTimeOfDay (instant : Int) : Int := instant % minutes 1440

theorem sampleTimeOfDay_window : WindowNotReentered sampleTimeOfDay := by
  intro earlier later ordered near past held
  simp only [sampleTimeOfDay, minutes] at *
  omega

def regularSession : TradingSession := ⟨0, minutes 570, minutes 960⟩

/-- Flat bars, one bar of the given shape at 09:45 and the open after it. -/
def dayWith (openPrice high low closePrice nextOpen : Rat) : List (PriceBar SampleFloat) :=
  (List.range 78).map fun position =>
    let time := minutes (570 + 5 * position)
    if position = 3 then ⟨time, .finite openPrice, .finite high, .finite low, .finite closePrice,
      .finite 1⟩
    else if position = 4 then
      ⟨time, .finite nextOpen, .finite 103, .finite 99, .finite 100, .finite 1⟩
    else ⟨time, .finite 100, .finite 100, .finite 100, .finite 100, .finite 1⟩

def breakoutDay : List (PriceBar SampleFloat) := dayWith 100 102 100 102 102

def overflowingDay : List (PriceBar SampleFloat) :=
  dayWith (10 ^ 308) (10 ^ 308) (-10 ^ 308) (-10 ^ 308) 99

/-- The breakout is found by the masks and by the loop. -/
theorem breakout_day_agrees :
    generateSmaSignals sampleBarArithmetic breakoutDay [regularSession] =
        .ok (referenceSmaSignals sampleBarArithmetic breakoutDay [regularSession]) ∧
      generateExhaustionSignals sampleBarArithmetic sampleTimeOfDay breakoutDay
          [("run_length", .int 4), ("minimum_ticks_per_bar", .int 1)] [regularSession] =
        .ok (referenceExhaustionSignals sampleBarArithmetic sampleTimeOfDay breakoutDay 4 1
          [regularSession]) ∧
      ∃ bundle, generateBreakoutBundle sampleBarArithmetic breakoutDay [regularSession] = .ok bundle ∧
        bundle.series =
          (referenceBreakoutSeries sampleBarArithmetic breakoutDay [regularSession]).1 ∧
        bundle.series.signals.entries.countP Prod.snd = 1 := by
  have ordered : Chronological breakoutDay := by decide +kernel
  obtain ⟨crossover, exhaustion, breakout, -⟩ := vectorised_equals_the_bar_loops
    sampleBarArithmetic_documented sampleTimeOfDay_window ordered [regularSession]
  refine ⟨crossover, ?_, ?_⟩
  · obtain ⟨runLength, ticks, readLength, readTicks, same⟩ :=
      exhaustion [("run_length", .int 4), ("minimum_ticks_per_bar", .int 1)] _ rfl
    rw [same, ← Except.ok.inj readLength, ← Except.ok.inj readTicks]
  · have numbers : (breakoutDay.all fun bar => !bar.prices.all sampleBarArithmetic.finite ||
        sampleBarArithmetic.isNumber (bodyRatio sampleBarArithmetic bar)) = true := by decide +kernel
    obtain ⟨bundle, ran, series, -⟩ := breakout (fun bar member finite => by
      simpa [finite] using List.all_eq_true.mp numbers bar member) (by simp)
    refine ⟨bundle, ran, series, ?_⟩
    rw [series]
    decide +kernel

/-- An array of no bars raises, and a bar whose ratio is no number is a signal of the loop only. -/
theorem empty_arrays_and_overflowing_bars_differ :
    (sameSignRun Int.sign ⟨1, [], by simp⟩ ≠ .ok (referenceSameSignRun Int.sign ⟨1, [], by simp⟩)) ∧
      ∃ bundle, generateBreakoutBundle sampleBarArithmetic overflowingDay [regularSession] =
          .ok bundle ∧
        bundle.series ≠
          (referenceBreakoutSeries sampleBarArithmetic overflowingDay [regularSession]).1 := by
  constructor
  · decide
  · have ran : ((generateBreakoutBundle sampleBarArithmetic overflowingDay
        [regularSession]).toOption.map fun bundle =>
          bundle.series.signals.shortEntries.countP Prod.snd) = some 0 := by decide +kernel
    have loop : (referenceBreakoutSeries sampleBarArithmetic overflowingDay
        [regularSession]).1.signals.shortEntries.countP Prod.snd = 1 := by decide +kernel
    cases run : generateBreakoutBundle sampleBarArithmetic overflowingDay [regularSession] with
    | error raised =>
        rw [run] at ran
        cases ran
    | ok bundle =>
        rw [run] at ran
        refine ⟨bundle, rfl, fun same => ?_⟩
        rw [← same] at loop
        have none : bundle.series.signals.shortEntries.countP Prod.snd = 0 := Option.some.inj ran
        rw [none] at loop
        cases loop

end Samples

end QuantFactory.Strategies
