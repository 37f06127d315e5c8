import QuantFactory.Strategies.Parameters
import QuantFactory.Strategies.SessionDays

/-!
# The run exhaustion

`strategies/mes_five_bar_run_exhaustion.py` finds the first run of bars of one sign that is completed
between 10:00 and 14:00 with rolling counts; the loop it replaced tested the last bars of each
position.
-/

set_option autoImplicit false

namespace QuantFactory.Strategies

open QuantFactory.Library

def runLengthDefinition : ParameterDefinition where
  name := "run_length"
  valueType := .int
  default := .int 5
  allowedValues := [.int 4, .int 5, .int 6]
  minimum := none
  maximum := none

def minimumTicksDefinition : ParameterDefinition where
  name := "minimum_ticks_per_bar"
  valueType := .int
  default := .int 1
  allowedValues := [.int 1, .int 2]
  minimum := none
  maximum := none

def runExhaustionParameters : List ParameterDefinition := [runLengthDefinition, minimumTicksDefinition]

/-- `_validate_parameters`: both parameters, no other, each an allowed value. -/
def validateRunParameters (parameters : List (String × Setting)) :
    Except StrategyError (List (String × Setting)) := do
  let names := runExhaustionParameters.map (·.name)
  raiseIf (!(names.all fun name => (parameters.map Prod.fst).contains name) ||
      !((parameters.map Prod.fst).all fun name => names.contains name))
    (.valueError "run_length and minimum_ticks_per_bar are both required")
  let _ ← collect (fun definition : ParameterDefinition => do
    let value ← orRaise (parameters.lookup definition.name) .keyError
    definition.validate value) runExhaustionParameters
  .ok parameters

section Model
variable {F : Type} (arithmetic : BarArithmetic F) (timeOfDay : Int → Int) (data : List (PriceBar F))

/-- `Close - Open`. -/
def bodyOf (bar : PriceBar F) : F := arithmetic.subtract bar.closePrice bar.openPrice

/-- When a bar is completed, as the time of day in New York. -/
def completedAt (session : TradingSession) (position : Nat) : Int :=
  timeOfDay (barTime session position + fiveMinutes)

section Runs
variable (minimumPoints : F) (runLength : Nat) (session : TradingSession) (day : List (PriceBar F))

/-- `counting`, for a body: at least the minimum size and not zero. -/
def countingBody (body : F) : Bool :=
  arithmetic.lessEq minimumPoints (arithmetic.absolute body) &&
    !arithmetic.equal body (arithmetic.literal 0)

/-- `flags.rolling(length).sum()`: the set flags of the last bars, once there are so many bars. -/
def rollingSum (length : Nat) (flags : List Bool) : List (Option Nat) :=
  (List.range flags.length).map fun position =>
    if position + 1 < length then none
    else some (((flags.drop (position + 1 - length)).take length).count true)

/-- `in_window`, the bars completed from 10:00 to 14:00. -/
def inWindow (position : Nat) : Bool :=
  decide (minutes 600 ≤ completedAt timeOfDay session position) &&
    decide (completedAt timeOfDay session position ≤ minutes 840)

def risingRuns : List Bool :=
  (rollingSum runLength (day.map fun bar =>
    arithmetic.less (arithmetic.literal 0) (bodyOf arithmetic bar) &&
      countingBody arithmetic minimumPoints (bodyOf arithmetic bar))).map
    fun sum => decide (sum = some runLength)

def fallingRuns : List Bool :=
  (rollingSum runLength (day.map fun bar =>
    arithmetic.less (bodyOf arithmetic bar) (arithmetic.literal 0) &&
      countingBody arithmetic minimumPoints (bodyOf arithmetic bar))).map
    fun sum => decide (sum = some runLength)

/-- `exhausted.idxmax()` and its direction. -/
def firstExhaustion : Option (Int × Side) :=
  let rising := risingRuns arithmetic minimumPoints runLength day
  let falling := fallingRuns arithmetic minimumPoints runLength day
  let window := (List.range day.length).map (inWindow timeOfDay session)
  let exhausted := List.zipWith (· && ·) (List.zipWith (· || ·) rising falling) window
  (firstTrue exhausted).map fun position =>
    (barTime session position, if rising.getD position false then .short else .long)

def lastBodies (position : Nat) : List F :=
  ((day.drop (position + 1 - runLength)).take runLength).map (bodyOf arithmetic)

/-- What the loop selects at a position: a run whose bodies are large enough and of one sign. -/
def selectedAt (position : Nat) : Option Side :=
  let run := lastBodies arithmetic runLength day position
  if run.any (fun body => arithmetic.less (arithmetic.absolute body) minimumPoints) ||
      run.any (fun body => arithmetic.equal body (arithmetic.literal 0)) then none
  else if run.all fun body => arithmetic.less (arithmetic.literal 0) body then some .short
  else if run.all fun body => arithmetic.less body (arithmetic.literal 0) then some .long
  else none

def referenceRunLoop : List Nat → Option (Int × Side)
  | [] => none
  | position :: rest =>
      if completedAt timeOfDay session position < minutes 600 then referenceRunLoop rest
      else if minutes 840 < completedAt timeOfDay session position then none
      else match selectedAt arithmetic minimumPoints runLength day position with
        | some side => some (barTime session position, side)
        | none => referenceRunLoop rest

end Runs

section Sessions
variable (runLength : Nat) (minimumPoints : F)

def exhaustionTrade (session : TradingSession) : Option (Int × Side) :=
  (fullSession arithmetic data session).bind
    (firstExhaustion arithmetic timeOfDay minimumPoints runLength session)

/-- `_reference_run_exhaustion`, on `range(run_length - 1, len(day))`. -/
def referenceExhaustionTrade (session : TradingSession) : Option (Int × Side) :=
  (fullSession arithmetic data session).bind fun day =>
    referenceRunLoop arithmetic timeOfDay minimumPoints runLength session day
      (List.range' (runLength - 1) (day.length - (runLength - 1)))

/-- The trade of a session written into the series, when its two later bars are there. -/
def writeExhaustion (trade : TradingSession → Option (Int × Side)) (series : SignalSeries)
    (session : TradingSession) : SignalSeries :=
  match trade session with
  | none => series
  | some (signalTime, side) =>
      let entryTime := signalTime + fiveMinutes
      let exitSignalTime := min (entryTime + fiveMinutes) (session.marketClose - minutes 15)
      if !(times data).contains entryTime || !(times data).contains exitSignalTime then series
      else series.trade side signalTime exitSignalTime

end Sessions

/-- `normalized["minimum_ticks_per_bar"] * MES_TICK_SIZE`. -/
def minimumPointsOf (ticks : Int) : F :=
  arithmetic.multiply (arithmetic.literal ticks) (arithmetic.literal (1 / 4))

/-- `generate_signals`. -/
def generateExhaustionSignals (parameters : List (String × Setting))
    (schedule : List TradingSession) : Except StrategyError SignalSeries := do
  let normalized ← validateRunParameters parameters
  raiseIf (!decide (Chronological data))
    (.valueError "MES run-exhaustion timestamps must be unique and chronological")
  let runLength ← integerSetting normalized "run_length"
  let ticks ← integerSetting normalized "minimum_ticks_per_bar"
  .ok (schedule.foldl (writeExhaustion data (exhaustionTrade arithmetic timeOfDay data
    runLength.toNat (minimumPointsOf arithmetic ticks))) (SignalSeries.none (times data)))

def referenceExhaustionSignals (runLength ticks : Int) (schedule : List TradingSession) :
    SignalSeries :=
  schedule.foldl (writeExhaustion data (referenceExhaustionTrade arithmetic timeOfDay data
    runLength.toNat (minimumPointsOf arithmetic ticks))) (SignalSeries.none (times data))

end Model

/-- Within one session's length no time of day from 10:00 to 14:00 follows one after 14:00. -/
def WindowNotReentered (timeOfDay : Int → Int) : Prop :=
  ∀ earlier later : Int, earlier ≤ later → later ≤ earlier + minutes 390 →
    minutes 840 < timeOfDay earlier →
      ¬ (minutes 600 ≤ timeOfDay later ∧ timeOfDay later ≤ minutes 840)

section Parity
variable {F : Type} {arithmetic : BarArithmetic F} {timeOfDay : Int → Int}
  {data : List (PriceBar F)} {minimumPoints : F} {runLength : Nat} {session : TradingSession}
  {day : List (PriceBar F)}

theorem rollingSum_full {flags : List Bool} {position : Nat} (inside : position < flags.length)
    (enough : runLength ≤ position + 1) :
    (rollingSum runLength flags)[position]? = some (some runLength) ↔
      ∀ flag ∈ (flags.drop (position + 1 - runLength)).take runLength, flag = true := by
  have size : ((flags.drop (position + 1 - runLength)).take runLength).length = runLength := by
    rw [List.length_take, List.length_drop]
    omega
  rw [rollingSum, List.getElem?_map, List.getElem?_range inside, Option.map_some,
    if_neg (by omega), Option.some.injEq, Option.some.injEq]
  constructor
  · intro full flag member
    have all := List.count_eq_length.mp (full.trans size.symm)
    exact (all flag member).symm
  · intro all
    rw [List.count_eq_length.mpr fun flag member => (all flag member).symm, size]

theorem all_lastBodies (body : F → Bool) {position : Nat} :
    (∀ flag ∈ ((day.map fun bar => body (bodyOf arithmetic bar)).drop (position + 1 - runLength)).take
        runLength, flag = true) ↔
      (lastBodies arithmetic runLength day position).all body = true := by
  rw [lastBodies, List.all_map, List.all_eq_true, ← List.map_drop, ← List.map_take,
    List.forall_mem_map]
  rfl

theorem oneSign_getD (sign : F → Bool) (position : Nat) :
    ((rollingSum runLength (day.map fun bar => sign (bodyOf arithmetic bar) &&
        countingBody arithmetic minimumPoints (bodyOf arithmetic bar))).map
      fun sum => decide (sum = some runLength)).getD position false =
      (decide (runLength ≤ position + 1) && decide (position < day.length) &&
        ((lastBodies arithmetic runLength day position).all sign &&
          (lastBodies arithmetic runLength day position).all
            (countingBody arithmetic minimumPoints))) := by
  rw [List.getD_eq_getElem?_getD, List.getElem?_map]
  rcases Nat.lt_or_ge position day.length with inside | outside
  · rcases Nat.lt_or_ge (position + 1) runLength with few | enough
    · have fewer : ¬ runLength ≤ position + 1 := by omega
      simp [rollingSum, inside, few, fewer]
    · have flags : position < (day.map fun bar => sign (bodyOf arithmetic bar) &&
          countingBody arithmetic minimumPoints (bodyOf arithmetic bar)).length := by
        rwa [List.length_map]
      have full := (rollingSum_full flags enough).trans (all_lastBodies
        fun body => sign body && countingBody arithmetic minimumPoints body)
      have split : (lastBodies arithmetic runLength day position).all
          (fun body => sign body && countingBody arithmetic minimumPoints body) =
            ((lastBodies arithmetic runLength day position).all sign &&
              (lastBodies arithmetic runLength day position).all
                (countingBody arithmetic minimumPoints)) := by
        induction lastBodies arithmetic runLength day position with
        | nil => rfl
        | cons body rest ih =>
            rw [List.all_cons, List.all_cons, List.all_cons, ih]
            simp only [Bool.and_assoc, Bool.and_left_comm]
      rw [decide_eq_true enough, decide_eq_true inside, Bool.true_and, Bool.true_and, ← split]
      obtain ⟨sum, there⟩ : ∃ sum, (rollingSum runLength (day.map fun bar =>
          sign (bodyOf arithmetic bar) &&
            countingBody arithmetic minimumPoints (bodyOf arithmetic bar)))[position]? = some sum := by
        rw [rollingSum, List.getElem?_map, List.getElem?_range flags]
        exact ⟨_, rfl⟩
      rw [there, Option.some.injEq, split] at full
      rw [there, Option.map_some, Option.getD_some, split, Bool.eq_iff_iff, decide_eq_true_eq]
      exact full
  · have past : ¬ position < day.length := by omega
    simp [rollingSum, past]

theorem risingRuns_getD (position : Nat) :
    (risingRuns arithmetic minimumPoints runLength day).getD position false =
      (decide (runLength ≤ position + 1) && decide (position < day.length) &&
        ((lastBodies arithmetic runLength day position).all (arithmetic.less (arithmetic.literal 0)) &&
          (lastBodies arithmetic runLength day position).all
            (countingBody arithmetic minimumPoints))) :=
  oneSign_getD (arithmetic.less (arithmetic.literal 0)) position

theorem fallingRuns_getD (position : Nat) :
    (fallingRuns arithmetic minimumPoints runLength day).getD position false =
      (decide (runLength ≤ position + 1) && decide (position < day.length) &&
        ((lastBodies arithmetic runLength day position).all
            (fun body => arithmetic.less body (arithmetic.literal 0)) &&
          (lastBodies arithmetic runLength day position).all
            (countingBody arithmetic minimumPoints))) :=
  oneSign_getD (fun body => arithmetic.less body (arithmetic.literal 0)) position

section Selected
variable (documented : arithmetic.Documented)
  (points : arithmetic.isNumber minimumPoints = true)
  (numbers : ∀ bar ∈ day, arithmetic.isNumber (arithmetic.absolute (bodyOf arithmetic bar)) = true)

include documented points numbers in
/-- The loop's skip test is the counting mask over the last bars. -/
theorem skip_eq_counting (position : Nat) :
    ((lastBodies arithmetic runLength day position).any
        (fun body => arithmetic.less (arithmetic.absolute body) minimumPoints) ||
      (lastBodies arithmetic runLength day position).any
        (fun body => arithmetic.equal body (arithmetic.literal 0))) =
      !(lastBodies arithmetic runLength day position).all
        (countingBody arithmetic minimumPoints) := by
  have each : ∀ body ∈ lastBodies arithmetic runLength day position,
      arithmetic.isNumber (arithmetic.absolute body) = true := by
    intro body member
    obtain ⟨bar, inWindow, rfl⟩ := List.mem_map.mp member
    exact numbers bar (List.mem_of_mem_drop (List.mem_of_mem_take inWindow))
  generalize lastBodies arithmetic runLength day position = run at each
  induction run with
  | nil => rfl
  | cons body rest ih =>
      have here := documented.total (arithmetic.absolute body) minimumPoints
        (each body List.mem_cons_self) points
      have later := ih fun other member => each other (List.mem_cons_of_mem _ member)
      rw [List.any_cons, List.any_cons, List.all_cons, Bool.not_and, ← later, countingBody, here]
      simp [Bool.or_left_comm, Bool.or_assoc]

include documented points numbers in
theorem selectedAt_eq {position : Nat} (enough : runLength ≤ position + 1)
    (inside : position < day.length) :
    selectedAt arithmetic minimumPoints runLength day position =
      if (risingRuns arithmetic minimumPoints runLength day).getD position false then some .short
      else if (fallingRuns arithmetic minimumPoints runLength day).getD position false then some .long
      else none := by
  rw [selectedAt, skip_eq_counting documented points numbers, risingRuns_getD, fallingRuns_getD,
    decide_eq_true enough, decide_eq_true inside]
  cases (lastBodies arithmetic runLength day position).all (countingBody arithmetic minimumPoints) with
  | true => simp
  | false => simp

end Selected

theorem referenceRunLoop_eq (positions : List Nat) :
    referenceRunLoop arithmetic timeOfDay minimumPoints runLength session day positions =
      (firstUntil (fun position => decide (minutes 840 < completedAt timeOfDay session position))
        (fun position => decide (minutes 600 ≤ completedAt timeOfDay session position) &&
          (selectedAt arithmetic minimumPoints runLength day position).isSome) positions).bind
        fun position => (selectedAt arithmetic minimumPoints runLength day position).map
          fun side => (barTime session position, side) := by
  induction positions with
  | nil => rfl
  | cons position rest ih =>
      simp only [referenceRunLoop, firstUntil, decide_eq_true_eq]
      rcases lt_or_ge (completedAt timeOfDay session position) (minutes 600) with early | late
      · have notPast : ¬ minutes 840 < completedAt timeOfDay session position := by
          unfold minutes at *
          omega
        rw [if_pos early, if_neg notPast, if_neg (by simp [not_le.mpr early]), ih]
      · rw [if_neg (not_lt.mpr late)]
        simp only [decide_eq_true late, Bool.true_and]
        split
        · rfl
        · cases chosen : selectedAt arithmetic minimumPoints runLength day position with
          | none => simp [ih]
          | some side => simp [chosen]

theorem length_risingRuns :
    (risingRuns arithmetic minimumPoints runLength day).length = day.length := by
  simp [risingRuns, rollingSum]

theorem length_fallingRuns :
    (fallingRuns arithmetic minimumPoints runLength day).length = day.length := by
  simp [fallingRuns, rollingSum]

/-- Bars of one session that are completed after 14:00 are followed by none in the window. -/
theorem inWindow_after (window : WindowNotReentered timeOfDay)
    (length : session.marketClose - session.marketOpen = minutes 390) {earlier later : Nat}
    (before : earlier < later) (inside : later < barCount session)
    (halted : minutes 840 < completedAt timeOfDay session earlier) :
    inWindow timeOfDay session later = false := by
  have bars : barCount session = 78 := by
    rw [barCount, length]
    decide
  have close : barTime session later + fiveMinutes ≤
      barTime session earlier + fiveMinutes + minutes 390 := by
    unfold barTime fiveMinutes minutes
    omega
  have apart := window (barTime session earlier + fiveMinutes) (barTime session later + fiveMinutes)
    (by have less := barTime_lt session before; omega) close halted
  apply Bool.eq_false_iff.mpr
  intro held
  rw [inWindow, Bool.and_eq_true, decide_eq_true_eq, decide_eq_true_eq] at held
  exact apart held

section Whole
variable (documented : arithmetic.Documented)
  (points : arithmetic.isNumber minimumPoints = true) (window : WindowNotReentered timeOfDay)

include documented points window in
theorem firstExhaustion_eq_reference (long : 0 < runLength)
    (length : session.marketClose - session.marketOpen = minutes 390)
    (size : day.length ≤ barCount session)
    (numbers : ∀ bar ∈ day,
      arithmetic.isNumber (arithmetic.absolute (bodyOf arithmetic bar)) = true) :
    firstExhaustion arithmetic timeOfDay minimumPoints runLength session day =
      referenceRunLoop arithmetic timeOfDay minimumPoints runLength session day
        (List.range' (runLength - 1) (day.length - (runLength - 1))) := by
  let mask : Nat → Bool := fun position =>
    ((risingRuns arithmetic minimumPoints runLength day).getD position false ||
      (fallingRuns arithmetic minimumPoints runLength day).getD position false) &&
      ((List.range day.length).map (inWindow timeOfDay session)).getD position false
  have inMask : ∀ position, mask position = true →
      runLength ≤ position + 1 ∧ position < day.length := by
    intro position marked
    have either := (Bool.and_eq_true_iff.mp marked).1
    rw [risingRuns_getD, fallingRuns_getD, ← Bool.and_or_distrib_left, Bool.and_eq_true,
      Bool.and_eq_true, decide_eq_true_eq, decide_eq_true_eq] at either
    exact either.1
  have windowAt : ∀ position, position < day.length →
      ((List.range day.length).map (inWindow timeOfDay session)).getD position false =
        inWindow timeOfDay session position := by
    intro position inside
    simp [inside]
  have search : firstTrue (List.zipWith (· && ·)
      (List.zipWith (· || ·) (risingRuns arithmetic minimumPoints runLength day)
        (fallingRuns arithmetic minimumPoints runLength day))
      ((List.range day.length).map (inWindow timeOfDay session))) =
        (List.range day.length).find? mask := by
    rw [firstTrue_eq_find?]
    simp only [and_getD, or_getD (length_risingRuns.trans length_fallingRuns.symm),
      List.length_zipWith, List.length_map, List.length_range, length_risingRuns, length_fallingRuns,
      Nat.min_self]
    rfl
  have found : firstUntil
      (fun position => decide (minutes 840 < completedAt timeOfDay session position))
      (fun position => decide (minutes 600 ≤ completedAt timeOfDay session position) &&
        (selectedAt arithmetic minimumPoints runLength day position).isSome)
      (List.range' (runLength - 1) (day.length - (runLength - 1))) =
        (List.range day.length).find? mask := by
    rw [firstUntil_eq_find? mask]
    · apply find?_of_same_hits (List.pairwise_lt_range') List.pairwise_lt_range
      intro position marked
      obtain ⟨enough, inside⟩ := inMask position marked
      rw [List.mem_range'_1, List.mem_range]
      omega
    · intro position member going
      rw [List.mem_range'_1] at member
      have enough : runLength ≤ position + 1 := by omega
      have inside : position < day.length := by omega
      have notPast : completedAt timeOfDay session position ≤ minutes 840 := by simpa using going
      show _ = (_ && _)
      rw [windowAt position inside, inWindow, decide_eq_true notPast, Bool.and_true, Bool.and_comm,
        selectedAt_eq documented points numbers enough inside]
      congr 1
      cases (risingRuns arithmetic minimumPoints runLength day).getD position false with
      | true => simp
      | false =>
          cases (fallingRuns arithmetic minimumPoints runLength day).getD position false with
          | true => simp
          | false => simp
    · intro position member halted
      rw [List.mem_range'_1] at member
      have inside : position < day.length := by omega
      have past : ¬ completedAt timeOfDay session position ≤ minutes 840 := by simpa using halted
      show (_ && _) = false
      rw [windowAt position inside, inWindow, decide_eq_false past, Bool.and_false, Bool.and_false]
    · apply (List.pairwise_lt_range').imp
      intro earlier later before halted
      apply Bool.eq_false_iff.mpr
      intro marked
      obtain ⟨-, inside⟩ := inMask later marked
      have never := inWindow_after window length before (inside.trans_le size)
        (of_decide_eq_true halted)
      have among := (Bool.and_eq_true_iff.mp marked).2
      rw [windowAt later inside, never] at among
      cases among
  rw [referenceRunLoop_eq, found, firstExhaustion, search]
  cases hit : (List.range day.length).find? mask with
  | none => rfl
  | some position =>
      have marked := List.find?_some hit
      obtain ⟨enough, inside⟩ := inMask position marked
      have either := (Bool.and_eq_true_iff.mp marked).1
      rw [Option.map_some, Option.bind_some, selectedAt_eq documented points numbers enough inside]
      cases up : (risingRuns arithmetic minimumPoints runLength day).getD position false with
      | true => rfl
      | false =>
          rw [up, Bool.false_or] at either
          rw [either]
          rfl

include documented points window in
theorem exhaustionTrade_eq_reference (long : 0 < runLength) (session : TradingSession) :
    exhaustionTrade arithmetic timeOfDay data runLength minimumPoints session =
      referenceExhaustionTrade arithmetic timeOfDay data runLength minimumPoints session := by
  rw [exhaustionTrade, referenceExhaustionTrade]
  cases full : fullSession arithmetic data session with
  | none => rfl
  | some day =>
      obtain ⟨length, rfl, -, finite⟩ := fullSession_eq_some full
      apply firstExhaustion_eq_reference documented points window long length
      · rw [dayRows]
        have fewer := List.length_filterMap_le (barAt data) (expectedBars session)
        rwa [expectedBars, List.length_map, List.length_range] at fewer
      · intro bar member
        exact documented.difference _ _ (finite bar member bar.closePrice (by simp [PriceBar.prices]))
          (finite bar member bar.openPrice (by simp [PriceBar.prices]))

end Whole

theorem integer_of_validate (position : Nat) (definition : ParameterDefinition)
    {parameters normalized : List (String × Setting)}
    (ok : validateRunParameters parameters = .ok normalized) (there : runExhaustionParameters[position]? = some definition)
    (integers : ∀ value ∈ definition.allowedValues, ∃ number, value = .int number) :
    ∃ number, integerSetting parameters definition.name = .ok number ∧
      .int number ∈ definition.allowedValues := by
  obtain ⟨-, ok⟩ := raiseIf_bind_eq_ok.mp ok
  obtain ⟨checked, valid, -⟩ := bind_eq_ok.mp ok
  obtain ⟨answer, -, answered⟩ := collect_getElem? valid there
  obtain ⟨value, found, validated⟩ := bind_eq_ok.mp answered
  have allowed := definition.allowed_of_validate validated
  obtain ⟨number, rfl⟩ := integers value allowed
  rw [orRaise_eq_ok] at found
  refine ⟨number, ?_, allowed⟩
  rw [integerSetting, found]

theorem normalized_of_validate {parameters normalized : List (String × Setting)}
    (ok : validateRunParameters parameters = .ok normalized) : normalized = parameters := by
  obtain ⟨-, ok⟩ := raiseIf_bind_eq_ok.mp ok
  obtain ⟨-, -, done⟩ := bind_eq_ok.mp ok
  exact (Except.ok.inj done).symm

/-- Under every approved setting the module's series are those of the loop. -/
theorem exhaustionSignals_eq_reference (documented : arithmetic.Documented)
    (window : WindowNotReentered timeOfDay) (ordered : Chronological data)
    {parameters normalized : List (String × Setting)}
    (validated : validateRunParameters parameters = .ok normalized) (schedule : List TradingSession) :
    ∃ runLength ticks, integerSetting parameters "run_length" = .ok runLength ∧
      integerSetting parameters "minimum_ticks_per_bar" = .ok ticks ∧
      generateExhaustionSignals arithmetic timeOfDay data parameters schedule =
        .ok (referenceExhaustionSignals arithmetic timeOfDay data runLength ticks schedule) := by
  obtain ⟨length, readLength, allowed⟩ := integer_of_validate 0
    runLengthDefinition validated rfl (by simp [runLengthDefinition])
  obtain ⟨ticks, readTicks, -⟩ := integer_of_validate 1
    minimumTicksDefinition validated rfl (by simp [minimumTicksDefinition])
  have long : 0 < length.toNat := by
    simp only [runLengthDefinition, List.mem_cons, Setting.int.injEq, List.not_mem_nil,
      or_false] at allowed
    omega
  have trades : exhaustionTrade arithmetic timeOfDay data length.toNat
      (minimumPointsOf arithmetic ticks) =
        referenceExhaustionTrade arithmetic timeOfDay data length.toNat
          (minimumPointsOf arithmetic ticks) := by
    funext session
    exact exhaustionTrade_eq_reference documented (documented.product _ _) window long session
  have named : runLengthDefinition.name = "run_length" := rfl
  have alsoNamed : minimumTicksDefinition.name = "minimum_ticks_per_bar" := rfl
  rw [named] at readLength
  rw [alsoNamed] at readTicks
  refine ⟨length, ticks, readLength, readTicks, ?_⟩
  simp only [generateExhaustionSignals, validated, bind_ok, normalized_of_validate validated, raiseIf,
    decide_eq_true ordered, Bool.not_true, Bool.false_eq_true, if_false, readLength, readTicks, trades,
    referenceExhaustionSignals]

end Parity

end QuantFactory.Strategies
