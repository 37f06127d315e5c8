import QuantFactory.Strategies.SessionDays

/-!
# The VWAP opening-range breakout

`strategies/mes_vwap_orb_candidate.py` marks all signal bars of a session at once and takes the first
whose entry on the next bar keeps a positive risk; the loop it replaced tested the bars one by one.
-/

set_option autoImplicit false

namespace QuantFactory.Strategies

open QuantFactory.Library

structure CandidateSessionIssue where
  sessionDate : Int
  reason : String
  deriving DecidableEq, Repr

structure BreakoutCandidate (F : Type) where
  bar : PriceBar F
  vwap : F

structure BreakoutTrade (F : Type) where
  timestamp : Int
  side : Side
  entryPrice : F
  risk : F
  deriving DecidableEq

structure BreakoutRange (F : Type) where
  sessionDate : Int
  sessionOpen : Int
  sessionClose : Int
  rangeEnd : Int
  rangeHigh : F
  rangeLow : F
  entryConfirmation : Option Int
  entryDirection : Option Side

structure BreakoutSeries (F : Type) where
  signals : SignalSeries
  stopLoss : List (Int × F)
  takeProfit : List (Int × F)

structure BreakoutBundle (F : Type) where
  series : BreakoutSeries F
  openingRanges : List (BreakoutRange F)
  issues : List CandidateSessionIssue

def invalidatedReason : String := "next-bar entry invalidates the opening-range stop"

/-- `np.argmin` of a boolean array: its first unset entry. -/
def argminFlags (flags : List Bool) : Nat := (flags.findIdx? (!·)).getD 0

section Model
variable {F : Type} (arithmetic : BarArithmetic F) (data : List (PriceBar F))

/-- The bars of a session that is evaluated, or why it is not. -/
def usableDay (session : TradingSession) : Except String (List (PriceBar F)) :=
  let missing := (expectedBars session).filter fun time => !(times data).contains time
  if !missing.isEmpty then
    .error ("missing or non-contiguous regular-session bars (" ++ toString missing.length ++ ")")
  else if session.marketClose - session.marketOpen < minutes 385 then
    .error "early close before 15:55 ET"
  else
    let day := dayRows data session
    if !(day.all fun bar => arithmetic.finite bar.volume) ||
        day.any fun bar => arithmetic.lessEq bar.volume (arithmetic.literal 0) then
      .error "missing or unusable volume"
    else if !day.all fun bar => bar.prices.all arithmetic.finite then
      .error "missing or invalid OHLC values"
    else .ok day

/-- `(typical_price * volumes).cumsum() / cumulative_volume`. -/
def sessionVwap (day : List (PriceBar F)) : List F :=
  let typicalPrice := day.map fun bar => arithmetic.divide
    (arithmetic.add (arithmetic.add bar.high bar.low) bar.closePrice) (arithmetic.literal 3)
  let volumes := day.map PriceBar.volume
  List.zipWith arithmetic.divide
    (arithmetic.cumulativeSum (List.zipWith arithmetic.multiply typicalPrice volumes))
    (arithmetic.cumulativeSum volumes)

/-- The rows of `range_index`. -/
def rangeRows (session : TradingSession) (day : List (PriceBar F)) : List (PriceBar F) :=
  (List.range 3).filterMap fun position => barAt day (barTime session position)

def rangeHighOf (session : TradingSession) (day : List (PriceBar F)) : F :=
  arithmetic.maximum ((rangeRows session day).map PriceBar.high)

def rangeLowOf (session : TradingSession) (day : List (PriceBar F)) : F :=
  arithmetic.minimum ((rangeRows session day).map PriceBar.low)

def rangeEndOf (session : TradingSession) : Int := session.marketOpen + minutes 15

/-- The bars from the end of the range to before the exit signal. -/
def candidatesOf (session : TradingSession) (day : List (PriceBar F)) : List (BreakoutCandidate F) :=
  ((List.zipWith BreakoutCandidate.mk day (sessionVwap arithmetic day)).filter fun candidate =>
    decide (rangeEndOf session ≤ candidate.bar.timestamp) &&
      decide (candidate.bar.timestamp < session.marketClose - minutes 10))

def bodyRatio (bar : PriceBar F) : F :=
  let height := arithmetic.subtract bar.high bar.low
  if arithmetic.less (arithmetic.literal 0) height then
    arithmetic.divide (arithmetic.absolute (arithmetic.subtract bar.closePrice bar.openPrice)) height
  else arithmetic.literal 0

def minimumBodyRatio : F := arithmetic.literal (55 / 100)

/-- `BREAKOUT_BUFFER_TICKS * MES_TICK_SIZE`. -/
def breakoutPoints : F := arithmetic.multiply (arithmetic.literal 4) (arithmetic.literal (1 / 4))

section Candidates
variable (rangeHigh rangeLow : F) (candidate : BreakoutCandidate F)

def longSignal : Bool :=
  arithmetic.lessEq (arithmetic.add rangeHigh (breakoutPoints arithmetic)) candidate.bar.closePrice &&
    arithmetic.less candidate.vwap candidate.bar.closePrice

def shortSignal : Bool :=
  arithmetic.lessEq candidate.bar.closePrice (arithmetic.subtract rangeLow (breakoutPoints arithmetic)) &&
    arithmetic.less candidate.bar.closePrice candidate.vwap

def nextPresent : Bool := (times data).contains (candidate.bar.timestamp + fiveMinutes)

/-- `frame["Open"]` of the next bar. -/
def nextOpen : F :=
  ((barAt data (candidate.bar.timestamp + fiveMinutes)).map PriceBar.openPrice).getD arithmetic.nan

def entryRisk : F :=
  if longSignal arithmetic rangeHigh candidate then
    arithmetic.subtract (nextOpen arithmetic data candidate) rangeLow
  else arithmetic.subtract rangeHigh (nextOpen arithmetic data candidate)

def signalled : Bool :=
  nextPresent data candidate &&
    arithmetic.lessEq (minimumBodyRatio arithmetic) (bodyRatio arithmetic candidate.bar) &&
    (longSignal arithmetic rangeHigh candidate || shortSignal arithmetic rangeLow candidate)

def breakoutTradeOf : BreakoutTrade F :=
  ⟨candidate.bar.timestamp,
    if longSignal arithmetic rangeHigh candidate then .long else .short,
    nextOpen arithmetic data candidate, entryRisk arithmetic data rangeHigh rangeLow candidate⟩

/-- `risk <= 0 or entry_price <= 0`. -/
def entryInvalid : Bool :=
  arithmetic.lessEq (entryRisk arithmetic data rangeHigh rangeLow candidate) (arithmetic.literal 0) ||
    arithmetic.lessEq (nextOpen arithmetic data candidate) (arithmetic.literal 0)

end Candidates

/-- The first valid signal bar and the number of invalid ones before it. -/
def firstBreakout (rangeHigh rangeLow : F) (candidates : List (BreakoutCandidate F)) :
    Option (BreakoutTrade F) × Nat :=
  let signals := candidates.filter (signalled arithmetic data rangeHigh rangeLow)
  let invalid := signals.map (entryInvalid arithmetic data rangeHigh rangeLow)
  let firstValid := if !invalid.all id then argminFlags invalid else invalid.length
  (if firstValid < invalid.length then
      (signals[firstValid]?).map (breakoutTradeOf arithmetic data rangeHigh rangeLow)
    else none, firstValid)

/-- `_reference_vwap_orb`. -/
def referenceBreakout (rangeHigh rangeLow : F) (issues : Nat) :
    List (BreakoutCandidate F) → Option (BreakoutTrade F) × Nat
  | [] => (none, issues)
  | candle :: rest =>
      if !nextPresent data candle then referenceBreakout rangeHigh rangeLow issues rest
      else if arithmetic.less (bodyRatio arithmetic candle.bar) (minimumBodyRatio arithmetic) then
        referenceBreakout rangeHigh rangeLow issues rest
      else if !longSignal arithmetic rangeHigh candle && !shortSignal arithmetic rangeLow candle then
        referenceBreakout rangeHigh rangeLow issues rest
      else if entryInvalid arithmetic data rangeHigh rangeLow candle then
        referenceBreakout rangeHigh rangeLow (issues + 1) rest
      else (some (breakoutTradeOf arithmetic data rangeHigh rangeLow candle), issues)

/-- `issue.reason.startswith("next-bar entry")`. -/
def isEntryIssue (issue : CandidateSessionIssue) : Bool :=
  "next-bar entry".toList.isPrefixOf issue.reason.toList

def writeBreakout (session : TradingSession) (series : BreakoutSeries F) :
    Option (BreakoutTrade F) → BreakoutSeries F
  | none => series
  | some trade =>
      let riskFraction := arithmetic.divide trade.risk trade.entryPrice
      { signals := series.signals.trade trade.side trade.timestamp (session.marketClose - minutes 10)
        stopLoss := setAt series.stopLoss trade.timestamp riskFraction
        takeProfit := setAt series.takeProfit trade.timestamp
          (arithmetic.multiply (arithmetic.literal (3 / 2)) riskFraction) }

def emptySeries : BreakoutSeries F :=
  ⟨SignalSeries.none (times data), (times data).map (·, arithmetic.nan),
    (times data).map (·, arithmetic.nan)⟩

def breakoutSession (bundle : BreakoutBundle F) (session : TradingSession) : BreakoutBundle F :=
  match usableDay arithmetic data session with
  | .error reason => { bundle with issues := bundle.issues ++ [⟨session.date, reason⟩] }
  | .ok day =>
      let rangeHigh := rangeHighOf arithmetic session day
      let rangeLow := rangeLowOf arithmetic session day
      let (selected, firstValid) :=
        firstBreakout arithmetic data rangeHigh rangeLow (candidatesOf arithmetic session day)
      { series := writeBreakout arithmetic session bundle.series selected
        openingRanges := bundle.openingRanges ++
          [⟨session.date, session.marketOpen, session.marketClose, rangeEndOf session, rangeHigh,
            rangeLow, selected.map BreakoutTrade.timestamp, selected.map BreakoutTrade.side⟩]
        issues := bundle.issues ++ List.replicate firstValid ⟨session.date, invalidatedReason⟩ }

/-- `generate_candidate_signals`. -/
def generateBreakoutBundle (schedule : List TradingSession) :
    Except StrategyError (BreakoutBundle F) := do
  raiseIf (!decide (Chronological data))
    (.valueError "MES VWAP ORB timestamps must be unique and chronological")
  let bundle := schedule.foldl (breakoutSession arithmetic data) ⟨emptySeries arithmetic data, [], []⟩
  raiseIf (bundle.openingRanges.isEmpty && bundle.issues.isEmpty)
    (.valueError "No exchange sessions are available in the MES VWAP ORB data")
  .ok bundle

/-- The bars of the parity test's session, where it is not passed over. -/
def referenceDay (session : TradingSession) : Option (List (PriceBar F)) :=
  if !((expectedBars session).filter fun time => !(times data).contains time).isEmpty ||
      decide (session.marketClose - session.marketOpen < minutes 385) then none
  else
    let day := dayRows data session
    if !(day.all fun bar => (bar.volume :: bar.prices).all arithmetic.finite) ||
        day.any fun bar => arithmetic.lessEq bar.volume (arithmetic.literal 0) then none
    else some day

/-- One session of the parity test: the expected series and the issues counted so far. -/
def referenceSession (state : BreakoutSeries F × Nat) (session : TradingSession) :
    BreakoutSeries F × Nat :=
  match referenceDay arithmetic data session with
  | none => state
  | some day =>
      let (selected, issues) := referenceBreakout arithmetic data (rangeHighOf arithmetic session day)
        (rangeLowOf arithmetic session day) 0 (candidatesOf arithmetic session day)
      (writeBreakout arithmetic session state.1 selected, state.2 + issues)

def referenceBreakoutSeries (schedule : List TradingSession) : BreakoutSeries F × Nat :=
  schedule.foldl (referenceSession arithmetic data) (emptySeries arithmetic data, 0)

end Model

section Parity
variable {F : Type} {arithmetic : BarArithmetic F} {data : List (PriceBar F)}
  {rangeHigh rangeLow : F} {session : TradingSession}

theorem firstUnset (flags : List Bool) :
    (if !flags.all id then argminFlags flags else flags.length) = flags.findIdx (!·) := by
  rw [List.findIdx_eq_getD_findIdx?]
  cases found : flags.findIdx? (!·) with
  | none =>
      have all : flags.all id = true := by
        apply List.all_eq_true.mpr
        intro flag member
        have set := List.findIdx?_eq_none_iff.mp found flag member
        simpa using set
      rw [all]
      rfl
  | some position =>
      have unset : flags.all id = false := by
        apply Bool.eq_false_iff.mpr
        intro all
        have none : flags.findIdx? (!·) = none := by
          apply List.findIdx?_eq_none_iff.mpr
          intro flag member
          have set := List.all_eq_true.mp all flag member
          simpa using set
        rw [found] at none
        cases none
      rw [unset, argminFlags, found]
      rfl

theorem firstBreakout_eq (candidates : List (BreakoutCandidate F)) :
    firstBreakout arithmetic data rangeHigh rangeLow candidates =
      (((candidates.filter (signalled arithmetic data rangeHigh rangeLow)).find?
          fun candidate => !entryInvalid arithmetic data rangeHigh rangeLow candidate).map
            (breakoutTradeOf arithmetic data rangeHigh rangeLow),
        (candidates.filter (signalled arithmetic data rangeHigh rangeLow)).findIdx
          fun candidate => !entryInvalid arithmetic data rangeHigh rangeLow candidate) := by
  rw [firstBreakout]
  generalize candidates.filter (signalled arithmetic data rangeHigh rangeLow) = signals
  rw [firstUnset, List.findIdx_map, List.length_map, List.find?_eq_getElem?_findIdx]
  show (if signals.findIdx (fun candidate =>
      !entryInvalid arithmetic data rangeHigh rangeLow candidate) < signals.length then _ else none, _) = _
  split
  · rfl
  · rename_i past
    rw [List.getElem?_eq_none (not_lt.mp past)]
    rfl

def candleHits (arithmetic : BarArithmetic F) (data : List (PriceBar F)) (rangeHigh rangeLow : F)
    (candle : BreakoutCandidate F) : Bool :=
  nextPresent data candle &&
    !arithmetic.less (bodyRatio arithmetic candle.bar) (minimumBodyRatio arithmetic) &&
    (longSignal arithmetic rangeHigh candle || shortSignal arithmetic rangeLow candle)

theorem referenceBreakout_eq (issues : Nat) (candidates : List (BreakoutCandidate F)) :
    referenceBreakout arithmetic data rangeHigh rangeLow issues candidates =
      ((firstAccepted (candleHits arithmetic data rangeHigh rangeLow)
          (fun candle => !entryInvalid arithmetic data rangeHigh rangeLow candle) issues candidates).1.map
            (breakoutTradeOf arithmetic data rangeHigh rangeLow),
        (firstAccepted (candleHits arithmetic data rangeHigh rangeLow)
          (fun candle => !entryInvalid arithmetic data rangeHigh rangeLow candle) issues candidates).2) := by
  induction candidates generalizing issues with
  | nil => rfl
  | cons candle rest ih =>
      rw [referenceBreakout, firstAccepted, candleHits]
      by_cases next : nextPresent data candle = true
      · by_cases small : arithmetic.less (bodyRatio arithmetic candle.bar)
            (minimumBodyRatio arithmetic) = true
        · simp [next, small, ih]
        · by_cases signal : (longSignal arithmetic rangeHigh candle ||
              shortSignal arithmetic rangeLow candle) = true
          · have both : (!longSignal arithmetic rangeHigh candle &&
                !shortSignal arithmetic rangeLow candle) = false := by
              rw [← Bool.not_or, signal]
              rfl
            by_cases invalid : entryInvalid arithmetic data rangeHigh rangeLow candle = true
            · simp [next, small, signal, both, invalid, ih]
            · simp [next, small, signal, both, invalid]
          · have both : (!longSignal arithmetic rangeHigh candle &&
                !shortSignal arithmetic rangeLow candle) = true := by
              rw [← Bool.not_or]
              simpa using signal
            simp [next, small, signal, both, ih]
      · simp [next, ih]

/-- A bar of finite prices has a body ratio that is a number: its body and its height do not both
overflow. -/
def RatiosAreNumbers (arithmetic : BarArithmetic F) (data : List (PriceBar F)) : Prop :=
  ∀ bar ∈ data, bar.prices.all arithmetic.finite = true →
    arithmetic.isNumber (bodyRatio arithmetic bar) = true

theorem bar_of_candidate {day : List (PriceBar F)} {vwap : List F}
    {candidate : BreakoutCandidate F} (member : candidate ∈ List.zipWith BreakoutCandidate.mk day vwap) :
    candidate.bar ∈ day := by
  induction day generalizing vwap with
  | nil => simp at member
  | cons bar rest ih =>
      cases vwap with
      | nil => simp at member
      | cons value others =>
          rw [List.zipWith_cons_cons] at member
          rcases List.mem_cons.mp member with rfl | inRest
          · exact List.mem_cons_self
          · exact List.mem_cons_of_mem _ (ih inRest)

theorem mem_of_dayRows {bar : PriceBar F} (member : bar ∈ dayRows data session) : bar ∈ data := by
  obtain ⟨time, -, found⟩ := List.mem_filterMap.mp member
  exact List.mem_of_find?_eq_some found

theorem firstBreakout_eq_reference (documented : arithmetic.Documented)
    {candidates : List (BreakoutCandidate F)}
    (numbers : ∀ candidate ∈ candidates,
      arithmetic.isNumber (bodyRatio arithmetic candidate.bar) = true) :
    firstBreakout arithmetic data rangeHigh rangeLow candidates =
      referenceBreakout arithmetic data rangeHigh rangeLow 0 candidates := by
  have same : candidates.filter (signalled arithmetic data rangeHigh rangeLow) =
      candidates.filter (candleHits arithmetic data rangeHigh rangeLow) := by
    apply List.filter_congr
    intro candidate member
    rw [signalled, candleHits, documented.total (bodyRatio arithmetic candidate.bar)
      (minimumBodyRatio arithmetic) (numbers candidate member) (documented.constant _)]
  rw [firstBreakout_eq, referenceBreakout_eq, firstAccepted_eq, same, Nat.zero_add]

theorem usableDay_toOption (arithmetic : BarArithmetic F) (data : List (PriceBar F)) (session : TradingSession) :
    (usableDay arithmetic data session).toOption = referenceDay arithmetic data session := by
  rw [usableDay, referenceDay]
  by_cases missing : (!((expectedBars session).filter
      fun time => !(times data).contains time).isEmpty) = true
  · simp only [missing, if_true, Bool.true_or]
    rfl
  · simp only [missing, Bool.false_eq_true, if_false, Bool.false_or, decide_eq_true_eq]
    split
    · rfl
    · have split_finite : (dayRows data session).all
          (fun bar => (bar.volume :: bar.prices).all arithmetic.finite) =
            ((dayRows data session).all (fun bar => arithmetic.finite bar.volume) &&
              (dayRows data session).all fun bar => bar.prices.all arithmetic.finite) := by
        induction dayRows data session with
        | nil => rfl
        | cons bar rest ih =>
            rw [List.all_cons, List.all_cons, List.all_cons, ih, List.all_cons]
            simp only [Bool.and_assoc, Bool.and_left_comm]
      rw [split_finite]
      cases (dayRows data session).all (fun bar => arithmetic.finite bar.volume) with
      | false => rfl
      | true =>
          cases (dayRows data session).any
              (fun bar => arithmetic.lessEq bar.volume (arithmetic.literal 0)) with
          | true =>
              simp
              rfl
          | false =>
              cases (dayRows data session).all fun bar => bar.prices.all arithmetic.finite with
              | true => rfl
              | false => rfl

/-- The bars of an evaluated session are bars of the frame, of finite prices. -/
theorem usableDay_rows {day : List (PriceBar F)}
    (usable : usableDay arithmetic data session = .ok day) :
    day = dayRows data session ∧ ∀ bar ∈ day, bar.prices.all arithmetic.finite = true := by
  unfold usableDay at usable
  dsimp only at usable
  split at usable
  · cases usable
  · split at usable
    · cases usable
    · split at usable
      · cases usable
      · split at usable
        · cases usable
        · rename_i finite
          rw [← Except.ok.inj usable]
          refine ⟨rfl, ?_⟩
          exact List.all_eq_true.mp (by simpa using finite)

theorem not_entryIssue_of_usable {reason : String}
    (unusable : usableDay arithmetic data session = .error reason) (date : Int) :
    isEntryIssue ⟨date, reason⟩ = false := by
  unfold usableDay at unusable
  dsimp only at unusable
  split at unusable
  · rw [← Except.error.inj unusable, isEntryIssue, String.toList_append, String.toList_append]
    rfl
  · split at unusable
    · rw [← Except.error.inj unusable, isEntryIssue]
      dsimp only
      decide
    · split at unusable
      · rw [← Except.error.inj unusable, isEntryIssue]
        dsimp only
        decide
      · split at unusable
        · rw [← Except.error.inj unusable, isEntryIssue]
          dsimp only
          decide
        · cases unusable

theorem entryIssue_invalidated (date : Int) : isEntryIssue ⟨date, invalidatedReason⟩ = true := by
  rw [isEntryIssue, invalidatedReason]
  dsimp only
  decide

def Matches (bundle : BreakoutBundle F) (state : BreakoutSeries F × Nat) : Prop :=
  bundle.series = state.1 ∧ bundle.issues.countP isEntryIssue = state.2

theorem matches_session (documented : arithmetic.Documented)
    (numbers : RatiosAreNumbers arithmetic data) {bundle : BreakoutBundle F}
    {state : BreakoutSeries F × Nat} (matched : Matches bundle state) (session : TradingSession) :
    Matches (breakoutSession arithmetic data bundle session)
      (referenceSession arithmetic data state session) := by
  obtain ⟨series, issues⟩ := matched
  have days := usableDay_toOption arithmetic data session
  cases usable : usableDay arithmetic data session with
  | error reason =>
      rw [usable] at days
      rw [breakoutSession, usable, referenceSession, ← days]
      refine ⟨series, ?_⟩
      show (bundle.issues ++ [_]).countP isEntryIssue = state.2
      rw [List.countP_append, issues, List.countP_singleton,
        not_entryIssue_of_usable usable session.date]
      rfl
  | ok day =>
      rw [usable] at days
      obtain ⟨rows, finite⟩ := usableDay_rows usable
      have candidates : ∀ candidate ∈ candidatesOf arithmetic session day,
          arithmetic.isNumber (bodyRatio arithmetic candidate.bar) = true := by
        intro candidate member
        have inDay := bar_of_candidate (List.mem_filter.mp member).1
        have inDays : candidate.bar ∈ dayRows data session := by rwa [rows] at inDay
        exact numbers candidate.bar (mem_of_dayRows inDays) (finite candidate.bar inDay)
      have same : firstBreakout arithmetic data (rangeHighOf arithmetic session day)
          (rangeLowOf arithmetic session day) (candidatesOf arithmetic session day) =
            referenceBreakout arithmetic data (rangeHighOf arithmetic session day)
              (rangeLowOf arithmetic session day) 0 (candidatesOf arithmetic session day) :=
        firstBreakout_eq_reference documented candidates
      rw [breakoutSession, usable, referenceSession, ← days]
      dsimp only [Except.toOption]
      rw [← same]
      constructor
      · show writeBreakout arithmetic session bundle.series _ =
          writeBreakout arithmetic session state.1 _
        rw [series]
      · show (bundle.issues ++ List.replicate _ _).countP isEntryIssue = state.2 + _
        rw [List.countP_append, issues, List.countP_replicate, if_pos (entryIssue_invalidated _)]

theorem matches_run (documented : arithmetic.Documented)
    (numbers : RatiosAreNumbers arithmetic data) (schedule : List TradingSession) :
    Matches (schedule.foldl (breakoutSession arithmetic data) ⟨emptySeries arithmetic data, [], []⟩)
      (referenceBreakoutSeries arithmetic data schedule) := by
  suffices kept : ∀ (bundle : BreakoutBundle F) (state : BreakoutSeries F × Nat),
      Matches bundle state → Matches (schedule.foldl (breakoutSession arithmetic data) bundle)
        (schedule.foldl (referenceSession arithmetic data) state) from
    kept _ _ ⟨rfl, rfl⟩
  induction schedule with
  | nil => exact fun _ _ matched => matched
  | cons session rest ih =>
      intro bundle state matched
      exact ih _ _ (matches_session documented numbers matched session)

theorem gathered_session (arithmetic : BarArithmetic F) (data : List (PriceBar F)) (bundle : BreakoutBundle F) (session : TradingSession) :
    bundle.openingRanges.length + bundle.issues.length <
      (breakoutSession arithmetic data bundle session).openingRanges.length +
        (breakoutSession arithmetic data bundle session).issues.length := by
  rw [breakoutSession]
  cases usableDay arithmetic data session with
  | error reason =>
      simp only [List.length_append, List.length_singleton]
      omega
  | ok day =>
      simp only [List.length_append, List.length_singleton]
      omega

theorem gathered_run (arithmetic : BarArithmetic F) (data : List (PriceBar F)) (bundle : BreakoutBundle F) (schedule : List TradingSession) :
    bundle.openingRanges.length + bundle.issues.length + schedule.length ≤
      (schedule.foldl (breakoutSession arithmetic data) bundle).openingRanges.length +
        (schedule.foldl (breakoutSession arithmetic data) bundle).issues.length := by
  induction schedule generalizing bundle with
  | nil => exact le_refl _
  | cons session rest ih =>
      have here := gathered_session arithmetic data bundle session
      have later := ih (breakoutSession arithmetic data bundle session)
      rw [List.foldl_cons, List.length_cons]
      omega

/-- On a schedule that has a session the module's series and entry issues are those of the loop. -/
theorem breakoutSeries_eq_reference (documented : arithmetic.Documented)
    (ordered : Chronological data) (numbers : RatiosAreNumbers arithmetic data)
    {schedule : List TradingSession} (some_sessions : schedule ≠ []) :
    ∃ bundle, generateBreakoutBundle arithmetic data schedule = .ok bundle ∧
      bundle.series = (referenceBreakoutSeries arithmetic data schedule).1 ∧
      bundle.issues.countP isEntryIssue = (referenceBreakoutSeries arithmetic data schedule).2 := by
  obtain ⟨series, issues⟩ := matches_run documented numbers schedule
  refine ⟨_, ?_, series, issues⟩
  have gathered := gathered_run arithmetic data ⟨emptySeries arithmetic data, [], []⟩ schedule
  have positive := List.length_pos_iff.mpr some_sessions
  have found : ((schedule.foldl (breakoutSession arithmetic data)
      ⟨emptySeries arithmetic data, [], []⟩).openingRanges.isEmpty &&
        (schedule.foldl (breakoutSession arithmetic data)
          ⟨emptySeries arithmetic data, [], []⟩).issues.isEmpty) = false := by
    apply Bool.eq_false_iff.mpr
    intro none
    rw [Bool.and_eq_true, List.isEmpty_iff, List.isEmpty_iff] at none
    rw [none.1, none.2] at gathered
    simp only [List.length_nil] at gathered
    omega
  simp only [generateBreakoutBundle, raiseIf, decide_eq_true ordered, Bool.not_true,
    Bool.false_eq_true, if_false, bind_ok, found]

end Parity

end QuantFactory.Strategies
