import QuantFactory.Strategies.Parameters

/-!
# The opening-range breakout

`strategies/mes_opening_range_breakout.py`: one breakout trade a session, confirmed by a
completed close outside the opening range and left at the session's last five-minute bar.
Completed-bar signals fill at the open of the next row.
-/

set_option autoImplicit false

namespace QuantFactory.Strategies

open QuantFactory.Library

structure BreakoutArithmetic (F : Type) where
  /-- `Series.max` and `Series.min`. -/
  maximum : List F → F
  minimum : List F → F
  /-- `level + ticks * MES_TICK_SIZE` and `level - ticks * MES_TICK_SIZE`. -/
  raised : F → Int → F
  lowered : F → Int → F
  /-- `a < b`, false beside a NaN. -/
  less : F → F → Bool

structure OpeningRange (F : Type) where
  sessionDate : Int
  sessionOpen : Int
  sessionClose : Int
  rangeEnd : Int
  rangeHigh : F
  rangeLow : F
  entryConfirmation : Option Int

/-- `ORBSessionIssue`. -/
structure SessionIssue where
  sessionDate : Int
  reason : String
  deriving DecidableEq, Repr

structure OrbSignals where
  entries : List Bool
  exits : List Bool
  shortEntries : Option (List Bool)
  shortExits : Option (List Bool)
  parameters : List (String × Setting)

structure OrbBundle (F : Type) where
  signals : OrbSignals
  openingRanges : List (OpeningRange F)
  issues : List SessionIssue
  calendarSessionCount : Nat
  eligibleSessionCount : Nat

section Model
variable {F : Type} (arithmetic : BreakoutArithmetic F) (data : List (PriceBar F))

def breaksRange (direction : Side) (offsetTicks : Int) (rangeHigh rangeLow : F)
    (bar : PriceBar F) : Bool :=
  match direction with
  | .long => arithmetic.less (arithmetic.raised rangeHigh offsetTicks) bar.closePrice
  | .short => arithmetic.less bar.closePrice (arithmetic.lowered rangeLow offsetTicks)

/-- `pd.date_range(session_open, periods=range_bars, freq=five_minutes)`. -/
def expectedRange (rangeMinutes sessionOpen : Int) : List Int :=
  (List.range (rangeMinutes / 5).toNat).map fun bar : Nat => sessionOpen + bar * fiveMinutes

/-- The times of the candidates that are confirmed with the next row five minutes later. -/
def qualifyingTimes (direction : Side) (offsetTicks : Int) (rangeHigh rangeLow : F)
    (rangeEnd exitSignal : Int) : List Int :=
  let index := times data
  let start := searchSortedLeft index rangeEnd
  let stop := searchSortedLeft index exitSignal
  let candidates := (data.drop start).take (stop - start)
  let nextTimestamps := (index.drop (start + 1)).take (stop + 1 - (start + 1))
  let contiguous := List.zipWith (fun next (bar : PriceBar F) =>
    decide (next = bar.timestamp + fiveMinutes)) nextTimestamps candidates
  let confirmed := candidates.map (breaksRange arithmetic direction offsetTicks rangeHigh rangeLow)
  ((candidates.zip (confirmed.zip contiguous)).filter fun row => row.2.1 && row.2.2).map
    fun row => row.1.timestamp

def orbVerdict (direction : Side) (rangeMinutes offsetTicks : Int) (session : TradingSession) :
    Except StrategyError (Verdict (OpeningRange F) SessionIssue) :=
  let index := times data
  let expected := expectedRange rangeMinutes session.marketOpen
  let missing := expected.filter fun timestamp => !index.contains timestamp
  let exitSignal := session.marketClose - fiveMinutes
  if !index.contains session.marketOpen then
    .ok (.excluded ⟨session.date, "missing 09:30 session anchor"⟩)
  else if !missing.isEmpty then
    .ok (.excluded ⟨session.date,
      "opening range missing " ++ toString missing.length ++ " required bar(s)"⟩)
  else if !index.contains exitSignal || !index.contains session.marketClose then
    .ok (.excluded ⟨session.date, "missing bar required for same-session boundary exit"⟩)
  else
    let rangeData := expected.filterMap (barAt data)
    let rangeHigh := arithmetic.maximum (rangeData.map PriceBar.high)
    let rangeLow := arithmetic.minimum (rangeData.map PriceBar.low)
    let rangeEnd := session.marketOpen + minutes rangeMinutes
    let entryTime := (qualifyingTimes arithmetic data direction offsetTicks rangeHigh rangeLow rangeEnd
      exitSignal).head?
    .ok (.accepted
      ⟨session.date, session.marketOpen, session.marketClose, rangeEnd, rangeHigh, rangeLow, entryTime⟩
      (entryTime.map fun entry => ⟨session.date, direction, entry, exitSignal⟩))

/-- `generate_orb_signal_bundle` under the parameters of a specification. -/
def generateOrbSignalBundle (definitions : List ParameterDefinition)
    (parameters : List (String × Setting)) (direction : Side) (schedule : List TradingSession) :
    Except StrategyError (OrbBundle F) := do
  let normalized ← validateParameters definitions parameters
  raiseIf (!decide (Chronological data))
    (.valueError "MES ORB timestamps must be unique and chronological")
  let rangeMinutes ← integerSetting normalized "range_minutes"
  let offsetTicks ← integerSetting normalized "breakout_offset_ticks"
  let scan ← scanSessions (times data)
    (orbVerdict arithmetic data direction rangeMinutes offsetTicks) schedule
  raiseIf scan.accepted.isEmpty
    (.valueError "No complete sessions can construct the approved opening range")
  let short (column : List Bool) := if direction = .short then some column else none
  .ok {
    signals := ⟨scan.signals.longEntries, scan.signals.longExits, short scan.signals.shortEntries,
      short scan.signals.shortExits, normalized⟩
    openingRanges := scan.accepted
    issues := scan.excluded
    calendarSessionCount := schedule.length
    eligibleSessionCount := scan.accepted.length }

end Model

/-! ## The candidates of a session -/

section Candidates
variable {F : Type} {arithmetic : BreakoutArithmetic F} {data : List (PriceBar F)}

theorem take_of_times (sorted : Chronological data) (bound : Int) :
    data.take (searchSortedLeft (times data) bound) =
      data.filter fun bar => decide (bar.timestamp < bound) := by
  have count : searchSortedLeft (times data) bound =
      (data.filter fun bar => decide (bar.timestamp < bound)).length := by
    rw [searchSortedLeft, times, List.countP_map, List.countP_eq_length_filter]
    rfl
  have cut : data.filter (fun bar => decide (bar.timestamp < bound)) ++
      data.filter (fun bar => !decide (bar.timestamp < bound)) = data := by
    apply filter_append_filter_not
    apply (List.pairwise_map.mp sorted).imp
    intro a b earlier held
    exact decide_eq_true (earlier.trans (of_decide_eq_true held))
  have front := congrArg (List.take (data.filter fun bar => decide (bar.timestamp < bound)).length) cut
  rw [List.take_left] at front
  rw [count, ← front]

theorem rows_between (sorted : Chronological data) (first last : Int) :
    (data.drop (searchSortedLeft (times data) first)).take
        (searchSortedLeft (times data) last - searchSortedLeft (times data) first) =
      data.filter fun bar => decide (first ≤ bar.timestamp) && decide (bar.timestamp < last) := by
  rw [← List.drop_take, take_of_times sorted last]
  rcases lt_or_ge last first with backwards | forwards
  · have none : data.filter (fun bar =>
        decide (first ≤ bar.timestamp) && decide (bar.timestamp < last)) = [] := by
      apply List.filter_eq_nil_iff.mpr
      intro bar _ held
      simp only [Bool.and_eq_true, decide_eq_true_eq] at held
      omega
    have few : (data.filter fun bar => decide (bar.timestamp < last)).length ≤
        searchSortedLeft (times data) first := by
      rw [← take_of_times sorted last, List.length_take]
      have fewer := searchSortedLeft_mono (times data) backwards.le
      omega
    rw [none, List.drop_of_length_le few]
  · have early : searchSortedLeft (times data) first =
        ((data.filter fun bar => decide (bar.timestamp < last)).filter
          fun bar => decide (bar.timestamp < first)).length := by
      rw [List.filter_filter, searchSortedLeft, times, List.countP_map,
        List.countP_eq_length_filter]
      congr 1
      apply List.filter_congr
      intro bar _
      simp only [Function.comp_apply, ← Bool.decide_and, decide_eq_decide]
      omega
    have split : (data.filter fun bar => decide (bar.timestamp < last)).filter
          (fun bar => decide (bar.timestamp < first)) ++
        (data.filter fun bar => decide (bar.timestamp < last)).filter
          (fun bar => !decide (bar.timestamp < first)) =
        data.filter fun bar => decide (bar.timestamp < last) := by
      apply filter_append_filter_not
      apply ((List.pairwise_map.mp sorted).sublist List.filter_sublist).imp
      intro a b earlier held
      exact decide_eq_true (earlier.trans (of_decide_eq_true held))
    have back := congrArg (List.drop ((data.filter fun bar => decide (bar.timestamp < last)).filter
      fun bar => decide (bar.timestamp < first)).length) split
    rw [List.drop_left] at back
    rw [early, ← back, List.filter_filter]
    apply List.filter_congr
    intro bar _
    simp only [← decide_not, not_lt]

theorem contiguous_eq (sorted : Chronological data) {rangeEnd exitSignal : Int}
    (present : exitSignal ∈ times data) :
    List.zipWith (fun next (bar : PriceBar F) => decide (next = bar.timestamp + fiveMinutes))
        (((times data).drop (searchSortedLeft (times data) rangeEnd + 1)).take
          (searchSortedLeft (times data) exitSignal + 1 -
            (searchSortedLeft (times data) rangeEnd + 1)))
        ((data.drop (searchSortedLeft (times data) rangeEnd)).take
          (searchSortedLeft (times data) exitSignal - searchSortedLeft (times data) rangeEnd)) =
      ((data.drop (searchSortedLeft (times data) rangeEnd)).take
          (searchSortedLeft (times data) exitSignal - searchSortedLeft (times data) rangeEnd)).map
        fun bar => decide (nextBar (times data) bar.timestamp = some (bar.timestamp + fiveMinutes)) := by
  generalize searchSortedLeft (times data) rangeEnd = start
  have inside : searchSortedLeft (times data) exitSignal < (times data).length := by
    obtain ⟨position, within, here⟩ := List.getElem_of_mem present
    have weak : (times data).Pairwise (· ≤ ·) := sorted.imp fun earlier => le_of_lt earlier
    by_contra past
    have below := (lt_searchSortedLeft_iff (v := exitSignal) weak within).mp (by omega)
    rw [here] at below
    exact lt_irrefl _ below
  generalize searchSortedLeft (times data) exitSignal = stop at inside
  have length : (times data).length = data.length := List.length_map _
  apply List.ext_getElem?
  intro j
  rw [List.getElem?_zipWith, List.getElem?_map]
  rcases lt_or_ge j (stop - start) with within | past
  · have row : start + j < data.length := by omega
    have time : (times data)[start + j]? = some (data[start + j]).timestamp := by
      rw [times, List.getElem?_map, List.getElem?_eq_getElem row]
      rfl
    have next : start + 1 + j < (times data).length := by omega
    have following := nextBar_getElem? sorted time
    have shifted : start + j + 1 = start + 1 + j := by omega
    rw [shifted, List.getElem?_eq_getElem next] at following
    rw [List.getElem?_take_of_lt (by omega), List.getElem?_take_of_lt within, List.getElem?_drop,
      List.getElem?_drop, List.getElem?_eq_getElem row, List.getElem?_eq_getElem next]
    simp only [Option.map_some, following, Option.some.injEq]
  · rw [List.getElem?_eq_none (by rw [List.length_take]; omega),
      List.getElem?_eq_none (by rw [List.length_take]; omega)]
    rfl

theorem zip_maps {α β γ : Type} (f : α → β) (g : α → γ) (xs : List α) :
    xs.zip ((xs.map f).zip (xs.map g)) = xs.map fun x => (x, f x, g x) := by
  induction xs with
  | nil => rfl
  | cons x rest ih => rw [List.map_cons, List.map_cons, List.zip_cons_cons, List.zip_cons_cons, ih]; rfl

/-- A bar that may confirm the entry: after the range, before the exit signal, its close outside
the range and the next row five minutes later. -/
def confirmsEntry (arithmetic : BreakoutArithmetic F) (data : List (PriceBar F)) (direction : Side)
    (offsetTicks : Int) (range : OpeningRange F) (bar : PriceBar F) : Bool :=
  decide (range.rangeEnd ≤ bar.timestamp) &&
    decide (bar.timestamp < range.sessionClose - fiveMinutes) &&
    breaksRange arithmetic direction offsetTicks range.rangeHigh range.rangeLow bar &&
    decide (nextBar (times data) bar.timestamp = some (bar.timestamp + fiveMinutes))

theorem qualifyingTimes_eq (sorted : Chronological data) (direction : Side) (offsetTicks : Int)
    (range : OpeningRange F) (present : range.sessionClose - fiveMinutes ∈ times data) :
    qualifyingTimes arithmetic data direction offsetTicks range.rangeHigh range.rangeLow
        range.rangeEnd (range.sessionClose - fiveMinutes) =
      (data.filter (confirmsEntry arithmetic data direction offsetTicks range)).map
        PriceBar.timestamp := by
  rw [qualifyingTimes, contiguous_eq sorted present, rows_between sorted, zip_maps, List.filter_map,
    List.map_map, List.filter_filter]
  congr 1
  apply List.filter_congr
  intro bar _
  simp only [Function.comp_apply, confirmsEntry]
  rw [Bool.and_comm, Bool.and_assoc, Bool.and_assoc, Bool.and_assoc]

theorem bar_of_time (sorted : Chronological data) {bar other : PriceBar F} (inData : bar ∈ data)
    (otherIn : other ∈ data) (same : bar.timestamp = other.timestamp) : bar = other := by
  have distinct : (times data).Nodup := sorted.imp fun earlier => ne_of_lt earlier
  exact List.inj_on_of_nodup_map distinct inData otherIn same

/-- A bar that should confirm the entry: after the range, before the exit signal, its close
outside the range and the next five-minute bar present. -/
def breaksWithNext (arithmetic : BreakoutArithmetic F) (data : List (PriceBar F)) (direction : Side)
    (offsetTicks : Int) (range : OpeningRange F) (bar : PriceBar F) : Bool :=
  decide (range.rangeEnd ≤ bar.timestamp) &&
    decide (bar.timestamp < range.sessionClose - fiveMinutes) &&
    breaksRange arithmetic direction offsetTicks range.rangeHigh range.rangeLow bar &&
    (times data).contains (bar.timestamp + fiveMinutes)

theorem nextBar_fiveMinutes_iff (sorted : Chronological data) (time : Int) :
    nextBar (times data) time = some (time + fiveMinutes) ↔
      time + fiveMinutes ∈ times data ∧
        ∀ row ∈ times data, ¬ (time < row ∧ row < time + fiveMinutes) := by
  have later : time < time + fiveMinutes := by
    unfold fiveMinutes minutes
    omega
  constructor
  · intro next
    refine ⟨List.mem_of_find?_eq_some next, fun row listed between => ?_⟩
    obtain ⟨first, found, -, atMost⟩ := nextBar_le sorted listed between.1
    rw [next, Option.some.injEq] at found
    omega
  · rintro ⟨present, clear⟩
    obtain ⟨next, found, after, atMost⟩ := nextBar_le sorted present later
    have notBefore := clear next (List.mem_of_find?_eq_some found)
    rw [found, Option.some.injEq]
    omega

def NoRowBetween (data : List (PriceBar F)) (bar : PriceBar F) : Prop :=
  ∀ row ∈ times data, ¬ (bar.timestamp < row ∧ row < bar.timestamp + fiveMinutes)

theorem confirmsEntry_iff (sorted : Chronological data) {offsetTicks : Int} {direction : Side}
    {range : OpeningRange F} {bar : PriceBar F} :
    confirmsEntry arithmetic data direction offsetTicks range bar = true ↔
      breaksWithNext arithmetic data direction offsetTicks range bar = true ∧
        NoRowBetween data bar := by
  simp only [confirmsEntry, breaksWithNext, Bool.and_eq_true, decide_eq_true_eq,
    List.contains_iff_mem, nextBar_fiveMinutes_iff sorted, NoRowBetween, and_assoc]

/-- The first bar that passes a stricter test is the first one that passes the test exactly when
that bar passes both. -/
theorem head?_filter_eq_iff {α : Type} {test strict : α → Bool} {xs : List α}
    (stricter : ∀ x, strict x = true → test x = true) :
    (xs.filter strict).head? = (xs.filter test).head? ↔
      ∀ x, (xs.filter test).head? = some x → strict x = true := by
  have both : xs.filter strict = (xs.filter test).filter strict := by
    rw [List.filter_filter]
    apply List.filter_congr
    intro x _
    cases passes : strict x with
    | false => rfl
    | true => rw [stricter x passes]; rfl
  rw [both]
  cases rest : xs.filter test with
  | nil => simp
  | cons x others =>
      simp only [List.head?_cons, Option.some.injEq, forall_eq']
      constructor
      · intro same
        exact (List.mem_filter.mp (List.mem_of_head? same)).2
      · intro passes
        rw [List.filter_cons_of_pos passes, List.head?_cons]

end Candidates

/-! ## The sessions of the breakout -/

section Sessions
variable {F : Type} {arithmetic : BreakoutArithmetic F} {data : List (PriceBar F)}
  {direction : Side} {rangeMinutes offsetTicks : Int} {session : TradingSession}

def OpeningRange.trade? (direction : Side) (range : OpeningRange F) : Option SessionTrade :=
  range.entryConfirmation.map fun entry =>
    ⟨range.sessionDate, direction, entry, range.sessionClose - fiveMinutes⟩

def BreakoutBars (data : List (PriceBar F)) (rangeMinutes : Int) (session : TradingSession) :
    Prop :=
  (session.marketOpen ∈ times data ∧
    ∀ time ∈ expectedRange rangeMinutes session.marketOpen, time ∈ times data) ∧
  session.marketClose - fiveMinutes ∈ times data ∧ session.marketClose ∈ times data

def openingRange (arithmetic : BreakoutArithmetic F) (data : List (PriceBar F)) (rangeMinutes : Int)
    (session : TradingSession) : OpeningRange F :=
  let rangeData := (expectedRange rangeMinutes session.marketOpen).filterMap (barAt data)
  ⟨session.date, session.marketOpen, session.marketClose, session.marketOpen + minutes rangeMinutes,
    arithmetic.maximum (rangeData.map PriceBar.high), arithmetic.minimum (rangeData.map PriceBar.low),
    none⟩

/-- An opening range is that of a session whose boundary bars are there, and its entry is the first
bar that confirms it. -/
structure RangeOf (arithmetic : BreakoutArithmetic F) (data : List (PriceBar F)) (direction : Side)
    (rangeMinutes offsetTicks : Int) (session : TradingSession) (range : OpeningRange F) : Prop where
  date : range.sessionDate = session.date
  sessionOpen : range.sessionOpen = session.marketOpen
  sessionClose : range.sessionClose = session.marketClose
  rangeEnd : range.rangeEnd = session.marketOpen + minutes rangeMinutes
  rangeHigh : range.rangeHigh = arithmetic.maximum
    (((expectedRange rangeMinutes session.marketOpen).filterMap (barAt data)).map PriceBar.high)
  rangeLow : range.rangeLow = arithmetic.minimum
    (((expectedRange rangeMinutes session.marketOpen).filterMap (barAt data)).map PriceBar.low)
  bars : BreakoutBars data rangeMinutes session
  entry : range.entryConfirmation =
    ((data.filter (confirmsEntry arithmetic data direction offsetTicks range)).map
      PriceBar.timestamp).head?

theorem orbVerdict_cases (sorted : Chronological data)
    {verdict : Verdict (OpeningRange F) SessionIssue}
    (ok : orbVerdict arithmetic data direction rangeMinutes offsetTicks session = .ok verdict) :
    (¬ BreakoutBars data rangeMinutes session ∧
        ∃ reason, verdict = .excluded ⟨session.date, reason⟩) ∨
      ∃ range, verdict = .accepted range (range.trade? direction) ∧
        RangeOf arithmetic data direction rangeMinutes offsetTicks session range := by
  rw [orbVerdict] at ok
  split at ok
  · rename_i anchor
    refine .inl ⟨fun bars => ?_, _, (Except.ok.inj ok).symm⟩
    simp [bars.1.1] at anchor
  · rename_i anchor
    split at ok
    · rename_i incomplete
      refine .inl ⟨fun bars => ?_, _, (Except.ok.inj ok).symm⟩
      have absent : ∃ time ∈ expectedRange rangeMinutes session.marketOpen,
          time ∉ times data := by simpa using incomplete
      obtain ⟨time, listed, missing⟩ := absent
      exact missing (bars.1.2 time listed)
    · rename_i complete
      split at ok
      · rename_i boundary
        refine .inl ⟨fun bars => ?_, _, (Except.ok.inj ok).symm⟩
        simp [bars.2.1, bars.2.2] at boundary
      · rename_i boundary
        have exitBars : session.marketClose - fiveMinutes ∈ times data ∧
            session.marketClose ∈ times data := by simpa using boundary
        have rangeBars : ∀ time ∈ expectedRange rangeMinutes session.marketOpen,
            time ∈ times data := by simpa using complete
        exact .inr ⟨_, (Except.ok.inj ok).symm,
          { date := rfl
            sessionOpen := rfl
            sessionClose := rfl
            rangeEnd := rfl
            rangeHigh := rfl
            rangeLow := rfl
            bars := ⟨⟨by simpa using anchor, rangeBars⟩, exitBars⟩
            entry := congrArg List.head?
              (qualifyingTimes_eq sorted direction offsetTicks ⟨session.date, session.marketOpen, _, _, _, _,
                none⟩ exitBars.1) }⟩

def EntersFirst (arithmetic : BreakoutArithmetic F) (data : List (PriceBar F)) (direction : Side)
    (offsetTicks : Int) (range : OpeningRange F) : Prop :=
  range.entryConfirmation =
    ((data.filter (breaksWithNext arithmetic data direction offsetTicks range)).map
      PriceBar.timestamp).head?

instance (direction : Side) (offsetTicks : Int) (range : OpeningRange F) :
    Decidable (EntersFirst arithmetic data direction offsetTicks range) :=
  inferInstanceAs (Decidable (_ = _))

/-- No row lies between the first bar that should confirm the entry of a session and the
five-minute bar after it. -/
def FirstBreakIsContiguous (arithmetic : BreakoutArithmetic F) (data : List (PriceBar F))
    (direction : Side) (rangeMinutes offsetTicks : Int) (session : TradingSession) : Prop :=
  ∀ bar, (data.filter (breaksWithNext arithmetic data direction offsetTicks
    (openingRange arithmetic data rangeMinutes session))).head? = some bar → NoRowBetween data bar

theorem RangeOf.entersFirst_iff (sorted : Chronological data) {range : OpeningRange F}
    (of : RangeOf arithmetic data direction rangeMinutes offsetTicks session range) :
    EntersFirst arithmetic data direction offsetTicks range ↔
      FirstBreakIsContiguous arithmetic data direction rangeMinutes offsetTicks session := by
  have sameBars : breaksWithNext arithmetic data direction offsetTicks
      (openingRange arithmetic data rangeMinutes session) =
      breaksWithNext arithmetic data direction offsetTicks range := by
    funext bar
    simp only [breaksWithNext, openingRange, of.rangeEnd, of.sessionClose, of.rangeHigh,
      of.rangeLow]
    rfl
  have broken : ∀ bar, confirmsEntry arithmetic data direction offsetTicks range bar = true →
      breaksWithNext arithmetic data direction offsetTicks range bar = true :=
    fun bar confirms => ((confirmsEntry_iff sorted).mp confirms).1
  have first := @head?_filter_eq_iff _ _ _ data broken
  rw [EntersFirst, FirstBreakIsContiguous, of.entry, sameBars, List.head?_map, List.head?_map]
  constructor
  · intro same bar found
    rw [found] at same
    obtain ⟨entered, confirms, time⟩ := Option.map_eq_some_iff.mp same
    have inConfirmed := List.mem_filter.mp (List.mem_of_head? confirms)
    have inBroken := List.mem_filter.mp (List.mem_of_head? found)
    obtain rfl := bar_of_time sorted inConfirmed.1 inBroken.1 time
    exact ((confirmsEntry_iff sorted).mp inConfirmed.2).2
  · intro contiguous
    rw [first.mpr fun bar found => (confirmsEntry_iff sorted).mpr
      ⟨(List.mem_filter.mp (List.mem_of_head? found)).2, contiguous bar found⟩]

/-- The trade of a session is entered and left between its open and its close. -/
theorem RangeOf.held (sorted : Chronological data) (long : 5 ≤ rangeMinutes)
    {range : OpeningRange F}
    (of : RangeOf arithmetic data direction rangeMinutes offsetTicks session range)
    {trade : SessionTrade} (marked : range.trade? direction = some trade) :
    trade.date = session.date ∧ HeldIn (nextBar (times data)) (times data) session trade := by
  obtain ⟨entry, confirmed, rfl⟩ := Option.map_eq_some_iff.mp marked
  rw [of.entry] at confirmed
  obtain ⟨bar, member, rfl⟩ := List.mem_map.mp (List.mem_of_mem_head? confirmed)
  obtain ⟨inData, confirms⟩ := List.mem_filter.mp member
  simp only [confirmsEntry, Bool.and_eq_true, decide_eq_true_eq] at confirms
  obtain ⟨⟨⟨afterRange, beforeExit⟩, -⟩, next⟩ := confirms
  rw [of.rangeEnd] at afterRange
  rw [of.sessionClose] at beforeExit
  obtain ⟨-, exitRow, closeRow⟩ := of.bars
  have beforeClose : session.marketClose - fiveMinutes < session.marketClose := by
    unfold fiveMinutes minutes
    omega
  obtain ⟨left, leftFound, afterSignal, inSession⟩ := nextBar_le sorted closeRow beforeClose
  obtain ⟨entered, enteredFound, -, beforeSignal⟩ := nextBar_le sorted exitRow beforeExit
  rw [next, Option.some.injEq] at enteredFound
  refine ⟨of.date, List.mem_map.mpr ⟨bar, inData, rfl⟩, ?_, ?_, ?_⟩
  · rw [of.sessionClose]
    exact exitRow
  · rw [of.sessionClose]
    exact beforeExit
  · refine ⟨_, left, next, by rw [of.sessionClose]; exact leftFound, ?_, ?_, inSession⟩
    · unfold fiveMinutes minutes at *
      omega
    · omega

end Sessions

section Runs
variable {F : Type} {arithmetic : BreakoutArithmetic F} {data : List (PriceBar F)}
  {definitions : List ParameterDefinition} {parameters : List (String × Setting)}
  {direction : Side} {schedule : List TradingSession} {bundle : OrbBundle F}

def OrbBundle.trades (direction : Side) (bundle : OrbBundle F) : List SessionTrade :=
  bundle.openingRanges.filterMap (OpeningRange.trade? direction)

def OrbBundle.columns (index : List Int) (bundle : OrbBundle F) : SignalColumns :=
  ⟨bundle.signals.entries, bundle.signals.exits,
    bundle.signals.shortEntries.getD (index.map fun _ => false),
    bundle.signals.shortExits.getD (index.map fun _ => false)⟩

theorem flagsOf_short_of_long {index : List Int} {time : SessionTrade → Int}
    {trades : List SessionTrade} (long : ∀ trade ∈ trades, trade.side = .long) :
    flagsOf index .short time trades = index.map fun _ => false := by
  apply List.map_congr_left
  intro row _
  apply List.any_eq_false.mpr
  intro trade member
  simp [long trade member]

theorem orb_sessionBound
    (approved : definitions = orbParameters ∨ definitions = orbGridParameters)
    (ok : generateOrbSignalBundle arithmetic data definitions parameters direction schedule =
      .ok bundle) :
    SessionBound (nextBar (times data)) (times data) schedule
        (bundle.openingRanges.map (·.sessionDate)) (bundle.issues.map (·.sessionDate))
        (bundle.trades direction) (bundle.columns (times data)) ∧
      ∃ rangeMinutes offsetTicks,
        integerSetting bundle.signals.parameters "range_minutes" = .ok rangeMinutes ∧
        integerSetting bundle.signals.parameters "breakout_offset_ticks" = .ok offsetTicks ∧
        (∀ range ∈ bundle.openingRanges, ∃ session ∈ schedule,
          RangeOf arithmetic data direction rangeMinutes offsetTicks session range) ∧
        ∀ session ∈ schedule, BreakoutBars data rangeMinutes session →
          ∃ range ∈ bundle.openingRanges,
            RangeOf arithmetic data direction rangeMinutes offsetTicks session range := by
  obtain ⟨normalized, valid, ok⟩ := bind_eq_ok.mp ok
  obtain ⟨ordered, ok⟩ := raiseIf_bind_eq_ok.mp ok
  obtain ⟨rangeMinutes, readRange, ok⟩ := bind_eq_ok.mp ok
  obtain ⟨offsetTicks, readOffset, ok⟩ := bind_eq_ok.mp ok
  obtain ⟨scan, scanned, ok⟩ := bind_eq_ok.mp ok
  obtain ⟨-, ok⟩ := raiseIf_bind_eq_ok.mp ok
  have sorted : Chronological data := by simpa using ordered
  have long := rangeMinutes_of_validate approved valid readRange
  obtain ⟨verdicts, pairs, rfl⟩ := scanSessions_ok scanned
  have dated : List.Forall₂ (fun (session : TradingSession)
      (verdict : Verdict (OpeningRange F) SessionIssue) =>
        verdict.Dated (·.sessionDate) (·.sessionDate) session.date) schedule verdicts := by
    apply pairs.imp
    intro session verdict answered
    rcases orbVerdict_cases sorted answered with ⟨-, reason, rfl⟩ | ⟨range, rfl, of⟩
    · rfl
    · exact ⟨of.date, fun marked found => (of.held sorted long found).1⟩
  obtain ⟨classified, atMostOne⟩ := classified_once dated
  have ranges : ∀ range ∈ verdicts.filterMap Verdict.row?, ∃ session ∈ schedule,
      RangeOf arithmetic data direction rangeMinutes offsetTicks session range := by
    intro range member
    obtain ⟨verdict, inVerdicts, accepted⟩ := List.mem_filterMap.mp member
    obtain ⟨session, inSchedule, answered⟩ := forall₂_mem_right pairs inVerdicts
    rcases orbVerdict_cases sorted answered with ⟨-, reason, rfl⟩ | ⟨other, rfl, of⟩
    · cases accepted
    · cases accepted
      exact ⟨session, inSchedule, of⟩
  have traded : ∀ session ∈ schedule, BreakoutBars data rangeMinutes session →
      ∃ range ∈ verdicts.filterMap Verdict.row?,
        RangeOf arithmetic data direction rangeMinutes offsetTicks session range := by
    intro session inSchedule bars
    obtain ⟨verdict, inVerdicts, answered⟩ := forall₂_mem_left pairs inSchedule
    rcases orbVerdict_cases sorted answered with ⟨missing, -⟩ | ⟨range, rfl, of⟩
    · exact absurd bars missing
    · exact ⟨range, List.mem_filterMap.mpr ⟨_, inVerdicts, rfl⟩, of⟩
  have trades : verdicts.filterMap Verdict.trade? =
      (verdicts.filterMap Verdict.row?).filterMap (OpeningRange.trade? direction) := by
    rw [List.filterMap_filterMap]
    apply List.filterMap_congr
    intro verdict inVerdicts
    obtain ⟨session, -, answered⟩ := forall₂_mem_right pairs inVerdicts
    rcases orbVerdict_cases sorted answered with ⟨-, reason, rfl⟩ | ⟨other, rfl, -⟩
    · rfl
    · rfl
  have sides : ∀ trade ∈ verdicts.filterMap Verdict.trade?, trade.side = direction := by
    intro trade member
    rw [trades] at member
    obtain ⟨range, -, marked⟩ := List.mem_filterMap.mp member
    obtain ⟨entry, -, rfl⟩ := Option.map_eq_some_iff.mp marked
    rfl
  rw [← Except.ok.inj ok]
  refine ⟨⟨classified, ?_, ?_, ?_⟩, rangeMinutes, offsetTicks, readRange, readOffset, ranges, traded⟩
  · rw [OrbBundle.trades, ← trades]
    exact atMostOne
  · rw [OrbBundle.trades, ← trades]
    cases direction with
    | long =>
        simp only [OrbBundle.columns, columnsOf, flagsOf_short_of_long sides]
        rfl
    | short => rfl
  · intro trade member
    obtain ⟨range, inRanges, marked⟩ := List.mem_filterMap.mp member
    obtain ⟨session, inSchedule, of⟩ := ranges range inRanges
    obtain ⟨date, held⟩ := of.held sorted long marked
    exact ⟨session, inSchedule, date.symm, held⟩

end Runs

end QuantFactory.Strategies
