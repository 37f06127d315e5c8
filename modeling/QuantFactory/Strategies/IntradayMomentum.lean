import QuantFactory.Strategies.OpeningRangeBreakout

/-!
# The intraday momentum transfer test

`strategies/spym_intraday_momentum.py` and the mixed prices of its screen: the close of the
prior session at 15:59 against the close at 09:59 decides a position from 15:30 to 15:59,
filled at the signal bars themselves.
-/

set_option autoImplicit false

namespace QuantFactory.Strategies

open QuantFactory.Library

structure MomentumSession (F : Type) where
  sessionDate : Int
  previousSessionDate : Int
  previousClose : F
  currentClose : F
  signal : Side
  entryTimestamp : Int
  exitTimestamp : Int

structure MomentumBundle (F : Type) where
  signals : SignalColumns
  eligibleSessions : List (MomentumSession F)
  excludedSessions : List SessionIssue
  calendarSessionCount : Nat

section Model
variable {F : Type} (clock : WallClock) (less : F → F → Bool) (data : List (PriceBar F))

/-- `required`, the four boundary bars of a session with their labels. -/
def requiredBars (previous session : TradingSession) : List (Int × String) :=
  [(clock.wall previous.date "15:59",
      "prior regular-session 15:59 (" ++ clock.dateText previous.date ++ ")"),
    (clock.wall session.date "09:59", "current 09:59"),
    (clock.wall session.date "15:30", "current 15:30"),
    (clock.wall session.date "15:59", "current 15:59")]

/-- `float(data.at[timestamp, "Close"])`. -/
def closeAt (timestamp : Int) : Except StrategyError F :=
  (orRaise (barAt data timestamp) .keyError).map PriceBar.closePrice

def momentumVerdict (session : Option TradingSession × TradingSession) :
    Except StrategyError (Verdict (MomentumSession F) SessionIssue) :=
  match session with
  | (none, current) => .ok (.excluded ⟨current.date, "no prior regular session"⟩)
  | (some previous, current) =>
      let missing := ((requiredBars clock previous current).filter fun bar =>
        !(times data).contains bar.1).map Prod.snd
      if !missing.isEmpty then
        .ok (.excluded ⟨current.date,
          "missing required boundary bar(s): " ++ ", ".intercalate missing⟩)
      else do
        let previousClose ← closeAt data (clock.wall previous.date "15:59")
        let currentClose ← closeAt data (clock.wall current.date "09:59")
        let signal := if less previousClose currentClose then Side.long else Side.short
        .ok (.accepted
          ⟨current.date, previous.date, previousClose, currentClose, signal,
            clock.wall current.date "15:30", clock.wall current.date "15:59"⟩
          (some ⟨current.date, signal, clock.wall current.date "15:30",
            clock.wall current.date "15:59"⟩))

def generateIntradayMomentumSignalBundle (parameters : List (String × Setting))
    (schedule : List TradingSession) : Except StrategyError (MomentumBundle F) := do
  raiseIf (!parameters.isEmpty)
    (.valueError "SPYM intraday momentum has no tunable parameters")
  raiseIf (!decide (Chronological data))
    (.valueError "SPYM intraday momentum timestamps must be unique and chronological")
  let scan ← scanSessions (times data) (momentumVerdict clock less data) (withPrior schedule)
  .ok ⟨scan.signals, scan.accepted, scan.excluded, schedule.length⟩

/-- `exact_execution_prices` of the screen: the open of an entry bar, the close of any other. -/
def exactExecutionPrices (signals : SignalColumns) : Except StrategyError (List F) := do
  let entries := List.zipWith (· || ·) signals.longEntries signals.shortEntries
  let exits := List.zipWith (· || ·) signals.longExits signals.shortExits
  let buyOrders := List.zipWith (· || ·) signals.longEntries signals.shortExits
  let sellOrders := List.zipWith (· || ·) signals.longExits signals.shortEntries
  raiseIf ((List.zipWith (· && ·) buyOrders sellOrders).any id)
    (.runtimeError "mixed-price adapter cannot price simultaneous buy and sell orders")
  .ok ((data.zip (entries.zip exits)).map fun (bar, entry, exit) =>
    if exit then bar.closePrice else if entry then bar.openPrice else bar.closePrice)

end Model

section Sessions
variable {F : Type} {clock : WallClock} {less : F → F → Bool} {data : List (PriceBar F)}

def MomentumSession.trade (session : MomentumSession F) : SessionTrade :=
  ⟨session.sessionDate, session.signal, session.entryTimestamp, session.exitTimestamp⟩

def BoundaryBars (clock : WallClock) (data : List (PriceBar F))
    (previous session : TradingSession) : Prop :=
  ∀ bar ∈ requiredBars clock previous session, bar.1 ∈ times data

theorem missing_isEmpty_iff {previous session : TradingSession} :
    (((requiredBars clock previous session).filter fun bar =>
      !(times data).contains bar.1).map Prod.snd).isEmpty = true ↔
        BoundaryBars clock data previous session := by
  rw [List.isEmpty_iff, List.map_eq_nil_iff, List.filter_eq_nil_iff]
  apply forall₂_congr
  intro bar _
  simp

theorem momentumVerdict_cases {session : Option TradingSession × TradingSession}
    {verdict : Verdict (MomentumSession F) SessionIssue}
    (ok : momentumVerdict clock less data session = .ok verdict) :
    (∃ reason, verdict = .excluded ⟨session.2.date, reason⟩ ∧
      ∀ previous, session.1 = some previous → ¬ BoundaryBars clock data previous session.2) ∨
    ∃ previous row, session.1 = some previous ∧ BoundaryBars clock data previous session.2 ∧
      verdict = .accepted row (some row.trade) ∧ row.sessionDate = session.2.date ∧
      row.entryTimestamp = clock.wall session.2.date "15:30" ∧
      row.exitTimestamp = clock.wall session.2.date "15:59" := by
  obtain ⟨prior, current⟩ := session
  cases prior with
  | none =>
      refine .inl ⟨_, (Except.ok.inj ok).symm, ?_⟩
      intro previous found
      cases found
  | some previous =>
      simp only [momentumVerdict] at ok
      split at ok
      · rename_i lacking
        refine .inl ⟨_, (Except.ok.inj ok).symm, ?_⟩
        intro other found bars
        cases found
        rw [missing_isEmpty_iff.mpr bars] at lacking
        cases lacking
      · rename_i complete
        have bars : BoundaryBars clock data previous current :=
          missing_isEmpty_iff.mp (by simpa using complete)
        obtain ⟨previousClose, -, ok⟩ := bind_eq_ok.mp ok
        obtain ⟨currentClose, -, ok⟩ := bind_eq_ok.mp ok
        exact .inr ⟨previous, _, rfl, bars, (Except.ok.inj ok).symm, rfl, rfl, rfl⟩

theorem BoundaryBars.rows {previous session : TradingSession}
    (bars : BoundaryBars clock data previous session) :
    clock.wall session.date "15:30" ∈ times data ∧ clock.wall session.date "15:59" ∈ times data := by
  constructor
  · exact bars (clock.wall session.date "15:30", "current 15:30") (by simp [requiredBars])
  · exact bars (clock.wall session.date "15:59", "current 15:59") (by simp [requiredBars])

end Sessions

section Runs
variable {F : Type} {clock : WallClock} {less : F → F → Bool} {data : List (PriceBar F)}
  {parameters : List (String × Setting)} {schedule : List TradingSession} {bundle : MomentumBundle F}

def MomentumBundle.trades (bundle : MomentumBundle F) : List SessionTrade :=
  bundle.eligibleSessions.map MomentumSession.trade

/-- The sessions whose boundary bars are all there are open from 15:30 to 15:59. -/
def HoursCoverTheTrade (clock : WallClock) (data : List (PriceBar F))
    (schedule : List TradingSession) : Prop :=
  ∀ pair ∈ withPrior schedule, ∀ previous, pair.1 = some previous →
    BoundaryBars clock data previous pair.2 →
      pair.2.marketOpen ≤ clock.wall pair.2.date "15:30" ∧
        clock.wall pair.2.date "15:59" ≤ pair.2.marketClose

structure MomentumRun (clock : WallClock) (data : List (PriceBar F)) (schedule : List TradingSession)
    (bundle : MomentumBundle F) : Prop where
  chronological : Chronological data
  classified : (bundle.eligibleSessions.map (·.sessionDate) ++
    bundle.excludedSessions.map (·.sessionDate)).Perm (schedule.map TradingSession.date)
  columns : bundle.signals = columnsOf (times data) bundle.trades
  eligible : ∀ row ∈ bundle.eligibleSessions, ∃ pair ∈ withPrior schedule, ∃ previous,
    pair.1 = some previous ∧ BoundaryBars clock data previous pair.2 ∧
      row.sessionDate = pair.2.date ∧ row.entryTimestamp = clock.wall pair.2.date "15:30" ∧
      row.exitTimestamp = clock.wall pair.2.date "15:59"
  complete : ∀ pair ∈ withPrior schedule, ∀ previous, pair.1 = some previous →
    BoundaryBars clock data previous pair.2 → ∃ row ∈ bundle.eligibleSessions,
      row.sessionDate = pair.2.date ∧ row.entryTimestamp = clock.wall pair.2.date "15:30" ∧
      row.exitTimestamp = clock.wall pair.2.date "15:59"

theorem momentum_run
    (ok : generateIntradayMomentumSignalBundle clock less data parameters schedule = .ok bundle) :
    MomentumRun clock data schedule bundle := by
  obtain ⟨-, ok⟩ := raiseIf_bind_eq_ok.mp ok
  obtain ⟨ordered, ok⟩ := raiseIf_bind_eq_ok.mp ok
  obtain ⟨scan, scanned, ok⟩ := bind_eq_ok.mp ok
  have sorted : Chronological data := by simpa using ordered
  obtain ⟨verdicts, pairs, rfl⟩ := scanSessions_ok scanned
  have dated : List.Forall₂ (fun (session : Option TradingSession × TradingSession)
      (verdict : Verdict (MomentumSession F) SessionIssue) =>
        verdict.Dated (·.sessionDate) (·.sessionDate) session.2.date) (withPrior schedule) verdicts := by
    apply pairs.imp
    intro session verdict answered
    rcases momentumVerdict_cases answered with
      ⟨reason, rfl, -⟩ | ⟨previous, row, -, -, rfl, date, -, -⟩
    · rfl
    · refine ⟨date, fun marked found => ?_⟩
      rw [← Option.some.inj found]
      exact date
  have trades : verdicts.filterMap Verdict.trade? =
      (verdicts.filterMap Verdict.row?).map MomentumSession.trade := by
    rw [← List.filterMap_eq_map, List.filterMap_filterMap]
    apply List.filterMap_congr
    intro verdict inVerdicts
    obtain ⟨session, -, answered⟩ := forall₂_mem_right pairs inVerdicts
    rcases momentumVerdict_cases answered with ⟨reason, rfl, -⟩ | ⟨previous, row, -, -, rfl, -⟩
    · rfl
    · rfl
  have sessions : (withPrior schedule).map (fun pair => pair.2.date) =
      schedule.map TradingSession.date := by
    conv_rhs => rw [← withPrior_sessions schedule, List.map_map]
    rfl
  have classified := (classified_once dated).1
  rw [sessions] at classified
  rw [← Except.ok.inj ok]
  refine ⟨sorted, classified, ?_, ?_, ?_⟩
  · rw [MomentumBundle.trades, ← trades]
  · intro row member
    obtain ⟨verdict, inVerdicts, accepted⟩ := List.mem_filterMap.mp member
    obtain ⟨pair, inPairs, answered⟩ := forall₂_mem_right pairs inVerdicts
    rcases momentumVerdict_cases answered with
      ⟨reason, rfl, -⟩ | ⟨previous, other, prior, bars, rfl, date, entry, exit⟩
    · cases accepted
    · cases accepted
      exact ⟨pair, inPairs, previous, prior, bars, date, entry, exit⟩
  · intro pair inPairs previous prior bars
    obtain ⟨position, within, here⟩ := List.getElem_of_mem inPairs
    have inVerdicts : position < verdicts.length := by
      rwa [← pairs.length_eq]
    have answered := (List.forall₂_iff_get.mp pairs).2 position within inVerdicts
    rw [List.get_eq_getElem, List.get_eq_getElem, here] at answered
    rcases momentumVerdict_cases answered with
      ⟨reason, -, lacking⟩ | ⟨other, row, -, -, accepted, date, entry, exit⟩
    · exact absurd bars (lacking previous prior)
    · refine ⟨row, List.mem_filterMap.mpr ⟨_, List.getElem_mem inVerdicts, ?_⟩, date, entry, exit⟩
      rw [accepted]
      rfl

theorem DisjointSessions.dates_nodup (disjoint : DisjointSessions schedule) :
    (schedule.map TradingSession.date).Nodup :=
  List.pairwise_map.mpr (disjoint.2.imp fun later => later.1.ne)

variable (run : MomentumRun clock data schedule bundle) (dates : clock.Documented)
  (disjoint : DisjointSessions schedule)

include run dates disjoint in
/-- The momentum trades are held within their sessions exactly when the hours cover the trade. -/
theorem momentum_sessionBound_iff :
    SessionBound some (times data) schedule (bundle.eligibleSessions.map (·.sessionDate))
        (bundle.excludedSessions.map (·.sessionDate)) bundle.trades bundle.signals ↔
      HoursCoverTheTrade clock data schedule := by
  constructor
  · intro bound pair inPairs previous prior bars
    obtain ⟨row, eligible, date, entry, exit⟩ := run.complete pair inPairs previous prior bars
    obtain ⟨session, inSchedule, same, held⟩ :=
      bound.held row.trade (List.mem_map_of_mem eligible)
    have equal : session = pair.2 :=
      List.inj_on_of_nodup_map disjoint.dates_nodup inSchedule (mem_of_withPrior inPairs)
        (same.trans date)
    obtain ⟨entered, left, enteredAt, leftAt, afterOpen, -, beforeClose⟩ := held.filled
    rw [← Option.some.inj enteredAt, equal] at afterOpen
    rw [← Option.some.inj leftAt, equal] at beforeClose
    rw [← entry, ← exit]
    exact ⟨afterOpen, beforeClose⟩
  · intro covered
    refine ⟨run.classified, ?_, run.columns, ?_⟩
    · rw [MomentumBundle.trades, List.map_map]
      exact List.Sublist.refl _
    · intro trade member
      obtain ⟨row, eligible, rfl⟩ := List.mem_map.mp member
      obtain ⟨pair, inPairs, previous, prior, bars, date, entry, exit⟩ := run.eligible row eligible
      obtain ⟨afterOpen, beforeClose⟩ := covered pair inPairs previous prior bars
      obtain ⟨entryRow, exitRow⟩ := bars.rows
      have ordered := dates.afterEntry pair.2.date
      rw [← entry] at entryRow afterOpen ordered
      rw [← exit] at exitRow beforeClose ordered
      exact ⟨pair.2, mem_of_withPrior inPairs, date.symm, entryRow, exitRow, ordered,
        row.entryTimestamp, row.exitTimestamp, rfl, rfl, afterOpen, ordered, beforeClose⟩

include run dates in
theorem entry_ne_exit {trade other : SessionTrade} (member : trade ∈ bundle.trades)
    (otherMember : other ∈ bundle.trades) : trade.entry ≠ other.exit := by
  obtain ⟨row, eligible, rfl⟩ := List.mem_map.mp member
  obtain ⟨otherRow, otherEligible, rfl⟩ := List.mem_map.mp otherMember
  obtain ⟨pair, -, -, -, -, -, entry, -⟩ := run.eligible row eligible
  obtain ⟨otherPair, -, -, -, -, -, -, exit⟩ := run.eligible otherRow otherEligible
  intro same
  have times : clock.wall pair.2.date "15:30" = clock.wall otherPair.2.date "15:59" := by
    rw [← entry, ← exit]
    exact same
  rcases lt_trichotomy pair.2.date otherPair.2.date with earlier | equal | later
  · exact absurd times (dates.laterDate _ _ "15:30" "15:59" earlier).ne
  · rw [equal] at times
    exact absurd times (dates.afterEntry _).ne
  · exact absurd times (dates.laterDate _ _ "15:59" "15:30" later).ne'

include run dates disjoint in
theorem trade_of_time {trade other : SessionTrade} (member : trade ∈ bundle.trades)
    (otherMember : other ∈ bundle.trades)
    (same : trade.entry = other.entry ∨ trade.exit = other.exit) : trade = other := by
  obtain ⟨row, eligible, rfl⟩ := List.mem_map.mp member
  obtain ⟨otherRow, otherEligible, rfl⟩ := List.mem_map.mp otherMember
  obtain ⟨pair, -, -, -, -, date, entry, exit⟩ := run.eligible row eligible
  obtain ⟨otherPair, -, -, -, -, otherDate, otherEntry, otherExit⟩ :=
    run.eligible otherRow otherEligible
  have oneTime : ∃ time, clock.wall pair.2.date time = clock.wall otherPair.2.date time := by
    rcases same with atEntry | atExit
    · exact ⟨"15:30", by rw [← entry, ← otherEntry]; exact atEntry⟩
    · exact ⟨"15:59", by rw [← exit, ← otherExit]; exact atExit⟩
  obtain ⟨time, times⟩ := oneTime
  have dateEqual : row.sessionDate = otherRow.sessionDate := by
    rw [date, otherDate]
    rcases lt_trichotomy pair.2.date otherPair.2.date with earlier | equal | later
    · exact absurd times (dates.laterDate _ _ time time earlier).ne
    · exact equal
    · exact absurd times (dates.laterDate _ _ time time later).ne'
  have nodup : (bundle.eligibleSessions.map (·.sessionDate)).Nodup :=
    (List.nodup_append.mp (run.classified.nodup_iff.mpr disjoint.dates_nodup)).1
  rw [List.inj_on_of_nodup_map nodup eligible otherEligible dateEqual]

theorem any_sides (trades : List SessionTrade) (time : SessionTrade → Int) (row : Int) :
    (trades.any (fun trade => decide (trade.side = .long) && decide (row = time trade)) ||
      trades.any (fun trade => decide (trade.side = .short) && decide (row = time trade))) =
        trades.any fun trade => decide (row = time trade) := by
  induction trades with
  | nil => rfl
  | cons trade rest ih =>
      rw [List.any_cons, List.any_cons, List.any_cons, ← ih]
      cases trade.side <;> simp [Bool.or_left_comm, Bool.or_assoc]

include run dates disjoint in
/-- The mixed-price adapter prices every trade of a run at the open of its entry bar and the close
of its exit bar. -/
theorem exactExecutionPrices_of_run :
    ∃ prices, exactExecutionPrices data bundle.signals = .ok prices ∧
      ∀ trade ∈ bundle.trades, ∀ position : Nat,
        ((times data)[position]? = some trade.entry →
          prices[position]? = (data[position]?).map PriceBar.openPrice) ∧
        ((times data)[position]? = some trade.exit →
          prices[position]? = (data[position]?).map PriceBar.closePrice) := by
  have apart : ∀ row : Int,
      ((bundle.trades.any (fun trade => decide (trade.side = .long) && decide (row = trade.entry)) ||
        bundle.trades.any (fun trade => decide (trade.side = .short) && decide (row = trade.exit))) &&
      (bundle.trades.any (fun trade => decide (trade.side = .long) && decide (row = trade.exit)) ||
        bundle.trades.any (fun trade => decide (trade.side = .short) && decide (row = trade.entry)))) =
        false := by
    intro row
    apply Bool.eq_false_iff.mpr
    simp only [ne_eq, Bool.and_eq_true, Bool.or_eq_true, List.any_eq_true, decide_eq_true_eq]
    rintro ⟨⟨trade, member, side, time⟩ | ⟨trade, member, side, time⟩,
      ⟨other, otherMember, otherSide, otherTime⟩ | ⟨other, otherMember, otherSide, otherTime⟩⟩
    · exact entry_ne_exit run dates member otherMember (time.symm.trans otherTime)
    · have same := trade_of_time run dates disjoint member otherMember (.inl (time.symm.trans otherTime))
      rw [same, otherSide] at side
      cases side
    · have same := trade_of_time run dates disjoint member otherMember (.inr (time.symm.trans otherTime))
      rw [same, otherSide] at side
      cases side
    · exact entry_ne_exit run dates otherMember member (otherTime.symm.trans time)
  have noConflict : (List.zipWith (· && ·)
      (List.zipWith (· || ·) bundle.signals.longEntries bundle.signals.shortExits)
      (List.zipWith (· || ·) bundle.signals.longExits bundle.signals.shortEntries)).any id = false := by
    rw [run.columns]
    simp only [columnsOf, flagsOf, List.zipWith_map, List.zipWith_self, List.any_map, apart,
      Function.comp_def, id_eq, List.any_eq_false, Bool.false_eq_true, not_false_eq_true, implies_true]
  have prices : exactExecutionPrices data bundle.signals = .ok (data.map fun bar =>
      if bundle.trades.any fun trade => decide (bar.timestamp = trade.exit) then bar.closePrice
      else if bundle.trades.any fun trade => decide (bar.timestamp = trade.entry) then bar.openPrice
      else bar.closePrice) := by
    simp only [exactExecutionPrices, noConflict, raiseIf, Bool.false_eq_true, if_false, bind_ok]
    rw [run.columns]
    simp only [columnsOf, flagsOf, List.zipWith_map, List.zipWith_self, times, List.map_map, zip_maps]
    congr 1
    apply List.map_congr_left
    intro bar _
    simp only [Function.comp_apply, any_sides]
  refine ⟨_, prices, fun trade member position => ⟨fun at_entry => ?_, fun at_exit => ?_⟩⟩
  · obtain ⟨bar, there, time⟩ := Option.map_eq_some_iff.mp ((List.getElem?_map ..).symm.trans at_entry)
    have notExit : (bundle.trades.any fun other => decide (bar.timestamp = other.exit)) = false := by
      apply List.any_eq_false.mpr
      intro other otherMember held
      exact entry_ne_exit run dates member otherMember (time.symm.trans (of_decide_eq_true held))
    have entry : (bundle.trades.any fun other => decide (bar.timestamp = other.entry)) = true :=
      List.any_eq_true.mpr ⟨trade, member, decide_eq_true time⟩
    rw [List.getElem?_map, there]
    simp only [Option.map_some, notExit, entry, Bool.false_eq_true, if_false, if_true]
  · obtain ⟨bar, there, time⟩ := Option.map_eq_some_iff.mp ((List.getElem?_map ..).symm.trans at_exit)
    have exit : (bundle.trades.any fun other => decide (bar.timestamp = other.exit)) = true :=
      List.any_eq_true.mpr ⟨trade, member, decide_eq_true time⟩
    rw [List.getElem?_map, there]
    simp only [Option.map_some, exit, if_true]

end Runs

/-- For every frame, schedule and approved setting: the breakout is bound to its sessions, and
enters at the first bar that should confirm exactly when no row lies between that bar and the
five-minute bar after it; the momentum test is bound to its sessions exactly when those it
trades are open from 15:30 to 15:59. -/
theorem fixed_strategies_hold_within_the_session {F : Type} {clock : WallClock}
    (dates : clock.Documented) (arithmetic : BreakoutArithmetic F) (data : List (PriceBar F))
    (parameters : List (String × Setting)) {schedule : List TradingSession}
    (disjoint : DisjointSessions schedule) :
    (∀ (definitions : List ParameterDefinition) (direction : Side) (bundle : OrbBundle F),
      definitions = orbParameters ∨ definitions = orbGridParameters →
      generateOrbSignalBundle arithmetic data definitions parameters direction schedule = .ok bundle →
        SessionBound (nextBar (times data)) (times data) schedule
            (bundle.openingRanges.map (·.sessionDate)) (bundle.issues.map (·.sessionDate))
            (bundle.trades direction) (bundle.columns (times data)) ∧
          ∃ rangeMinutes offsetTicks,
            integerSetting bundle.signals.parameters "range_minutes" = .ok rangeMinutes ∧
            integerSetting bundle.signals.parameters "breakout_offset_ticks" = .ok offsetTicks ∧
            (∀ range ∈ bundle.openingRanges, ∃ session ∈ schedule,
              RangeOf arithmetic data direction rangeMinutes offsetTicks session range) ∧
            ((∀ range ∈ bundle.openingRanges,
                EntersFirst arithmetic data direction offsetTicks range) ↔
              ∀ session ∈ schedule, BreakoutBars data rangeMinutes session →
                FirstBreakIsContiguous arithmetic data direction rangeMinutes offsetTicks
                  session)) ∧
    ∀ bundle : MomentumBundle F,
      generateIntradayMomentumSignalBundle clock arithmetic.less data parameters schedule =
        .ok bundle →
      (SessionBound some (times data) schedule (bundle.eligibleSessions.map (·.sessionDate))
          (bundle.excludedSessions.map (·.sessionDate)) bundle.trades bundle.signals ↔
        HoursCoverTheTrade clock data schedule) ∧
      ∃ prices, exactExecutionPrices data bundle.signals = .ok prices ∧
        ∀ trade ∈ bundle.trades, ∀ position : Nat,
          ((times data)[position]? = some trade.entry →
            prices[position]? = (data[position]?).map PriceBar.openPrice) ∧
          ((times data)[position]? = some trade.exit →
            prices[position]? = (data[position]?).map PriceBar.closePrice) := by
  refine ⟨fun definitions direction bundle approved ok => ?_, fun bundle ok => ?_⟩
  · obtain ⟨bound, rangeMinutes, offsetTicks, readRange, readOffset, ranges, traded⟩ :=
      orb_sessionBound approved ok
    have sorted : Chronological data := by
      obtain ⟨_, -, ok⟩ := bind_eq_ok.mp ok
      obtain ⟨ordered, -⟩ := raiseIf_bind_eq_ok.mp ok
      simpa using ordered
    refine ⟨bound, rangeMinutes, offsetTicks, readRange, readOffset, ranges, ?_, ?_⟩
    · intro enters session inSchedule bars
      obtain ⟨range, inRanges, of⟩ := traded session inSchedule bars
      exact (of.entersFirst_iff sorted).mp (enters range inRanges)
    · intro contiguous range inRanges
      obtain ⟨session, inSchedule, of⟩ := ranges range inRanges
      exact (of.entersFirst_iff sorted).mpr (contiguous session inSchedule of.bars)
  · have run := momentum_run ok
    exact ⟨momentum_sessionBound_iff run dates disjoint,
      exactExecutionPrices_of_run run dates disjoint⟩

section Samples

/-- Dates of one day of minutes each; the times of the strategies, and any other at midnight. -/
def sampleClock : WallClock where
  wall date time := minutes (1440 * date + match time with
    | "09:59" => 599
    | "15:30" => 930
    | "15:59" => 959
    | _ => 0)
  dateText date := toString date

theorem sampleClock_documented : sampleClock.Documented where
  afterSignal date := by
    simp only [sampleClock, minutes]
    omega
  afterEntry date := by
    simp only [sampleClock, minutes]
    omega
  laterDate date later time laterTime earlier := by
    have within : ∀ text : String, 0 ≤ (match text with
        | "09:59" => (599 : Int)
        | "15:30" => 930
        | "15:59" => 959
        | _ => 0) ∧ (match text with
        | "09:59" => (599 : Int)
        | "15:30" => 930
        | "15:59" => 959
        | _ => 0) < 1440 := by
      intro text
      split <;> omega
    have first := within time
    have second := within laterTime
    simp only [sampleClock, minutes]
    omega

def sampleArithmetic : BreakoutArithmetic Int where
  maximum values := values.foldl max 0
  minimum values := values.foldl min 1000
  raised level ticks := level + ticks
  lowered level ticks := level - ticks
  less a b := decide (a < b)

def minuteBar (date minute price : Int) : PriceBar Int :=
  ⟨minutes (1440 * date + minute), price, price, price, price, 1⟩

def twoSessions (lastMinute : Int) : List TradingSession :=
  [⟨1, minutes (1440 + 570), minutes (1440 + 960)⟩,
    ⟨2, minutes (2880 + 570), minutes (2880 + lastMinute)⟩]

/-- The boundary bars of the second session, some bars outside its shorter hours, and the
five-minute bars that a breakout of fifteen minutes needs. -/
def sampleFrame : List (PriceBar Int) :=
  [minuteBar 1 959 100, minuteBar 2 570 100, minuteBar 2 575 100, minuteBar 2 580 100,
    minuteBar 2 585 105, minuteBar 2 590 105, minuteBar 2 599 105, minuteBar 2 930 106,
    minuteBar 2 955 107, minuteBar 2 959 108, minuteBar 2 960 108]

def sampleMomentum (lastMinute : Int) : Except StrategyError (MomentumBundle Int) :=
  generateIntradayMomentumSignalBundle sampleClock sampleArithmetic.less sampleFrame []
    (twoSessions lastMinute)

def sampleBreakout (data : List (PriceBar Int)) : Except StrategyError (OrbBundle Int) :=
  generateOrbSignalBundle sampleArithmetic data orbGridParameters [] .long (twoSessions 960)

/-- The frame with one row more, off the five-minute grid, after the bar that breaks the range. -/
def offGridFrame : List (PriceBar Int) :=
  sampleFrame.take 5 ++ minuteBar 2 587 105 :: sampleFrame.drop 5

def tradesOf {B : Type} (trades : B → List SessionTrade) (run : Except StrategyError B) :
    List SessionTrade :=
  match run with
  | .ok bundle => trades bundle
  | .error _ => []

theorem exists_of_tradesOf {B : Type} {trades : B → List SessionTrade}
    {run : Except StrategyError B} (some_trade : tradesOf trades run ≠ []) :
    ∃ bundle, run = .ok bundle ∧ trades bundle ≠ [] := by
  cases run with
  | ok bundle => exact ⟨bundle, rfl, some_trade⟩
  | error raised => exact absurd rfl some_trade

theorem twoSessions_disjoint (lastMinute : Int) (after : 570 < lastMinute) :
    DisjointSessions (twoSessions lastMinute) := by
  simp only [DisjointSessions, twoSessions, minutes, List.mem_cons, List.not_mem_nil, or_false,
    forall_eq_or_imp, forall_eq, List.pairwise_cons, List.Pairwise.nil, and_true,
    IsEmpty.forall_iff, implies_true]
  omega

/-- Whether a run of the breakout has a range that is not entered at its first break. -/
def missesABreak (data : List (PriceBar Int)) : Bool :=
  match sampleBreakout data with
  | .ok bundle => match integerSetting bundle.signals.parameters "breakout_offset_ticks" with
      | .ok offsetTicks => bundle.openingRanges.any fun range =>
          !decide (EntersFirst sampleArithmetic data .long offsetTicks range)
      | .error _ => false
  | .error _ => false

theorem firstBreak_of_sampleFrame : ∀ session ∈ twoSessions 960,
    FirstBreakIsContiguous sampleArithmetic sampleFrame .long 15 0 session := by
  have second : (sampleFrame.filter (breaksWithNext sampleArithmetic sampleFrame .long 0
      (openingRange sampleArithmetic sampleFrame 15
        ⟨2, minutes (2880 + 570), minutes (2880 + 960)⟩))).head? = some (minuteBar 2 585 105) := by
    decide +kernel
  have first : (sampleFrame.filter (breaksWithNext sampleArithmetic sampleFrame .long 0
      (openingRange sampleArithmetic sampleFrame 15
        ⟨1, minutes (1440 + 570), minutes (1440 + 960)⟩))).head? = none := by
    decide +kernel
  intro session member bar found
  simp only [twoSessions, List.mem_cons, List.not_mem_nil, or_false] at member
  rcases member with rfl | rfl
  · rw [first] at found
    cases found
  · rw [second] at found
    cases found
    unfold NoRowBetween
    decide +kernel

/-- A full session is traded by both strategies, within its hours. -/
theorem full_session_holds :
    (∃ bundle, sampleBreakout sampleFrame = .ok bundle ∧ bundle.trades .long ≠ [] ∧
      SessionBound (nextBar (times sampleFrame)) (times sampleFrame) (twoSessions 960)
        (bundle.openingRanges.map (·.sessionDate)) (bundle.issues.map (·.sessionDate))
        (bundle.trades .long) (bundle.columns (times sampleFrame)) ∧
      ∀ range ∈ bundle.openingRanges,
        EntersFirst sampleArithmetic sampleFrame .long 0 range) ∧
    ∃ bundle, sampleMomentum 960 = .ok bundle ∧ bundle.trades ≠ [] ∧
      SessionBound some (times sampleFrame) (twoSessions 960)
        (bundle.eligibleSessions.map (·.sessionDate))
        (bundle.excludedSessions.map (·.sessionDate)) bundle.trades bundle.signals := by
  obtain ⟨breakout, momentum⟩ := fixed_strategies_hold_within_the_session sampleClock_documented
    sampleArithmetic sampleFrame [] (twoSessions_disjoint 960 (by decide))
  constructor
  · obtain ⟨bundle, ran, traded⟩ : ∃ bundle, sampleBreakout sampleFrame = .ok bundle ∧
        bundle.trades .long ≠ [] := exists_of_tradesOf (by decide +kernel)
    obtain ⟨bound, rangeMinutes, offsetTicks, readRange, readOffset, -, enters⟩ :=
      breakout _ _ _ (.inr rfl) ran
    have settings : (sampleBreakout sampleFrame).toOption.map (fun bundle =>
        ((integerSetting bundle.signals.parameters "range_minutes").toOption,
          (integerSetting bundle.signals.parameters "breakout_offset_ticks").toOption)) =
        some (some 15, some 0) := by decide +kernel
    rw [ran] at settings
    simp only [Except.toOption, Option.map_some, readRange, readOffset, Option.some.injEq,
      Prod.mk.injEq] at settings
    obtain ⟨rfl, rfl⟩ := settings
    exact ⟨bundle, ran, traded, bound, enters.mpr fun session member _ =>
      firstBreak_of_sampleFrame session member⟩
  · obtain ⟨bundle, ran, traded⟩ : ∃ bundle, sampleMomentum 960 = .ok bundle ∧
        bundle.trades ≠ [] := exists_of_tradesOf (by decide +kernel)
    refine ⟨bundle, ran, traded, (momentum bundle ran).1.mpr ?_⟩
    intro pair member previous prior _
    simp only [withPrior, twoSessions, List.map_cons, List.map_nil, List.zip_cons_cons,
      List.zip_nil_right, List.mem_cons, List.not_mem_nil, or_false] at member
    rcases member with rfl | rfl
    · cases prior
    · decide

/-- A session that closes at 13:00 is traded at 15:30 when its frame has the later bars, and a
row off the grid makes the breakout skip a bar whose next five-minute bar is present. -/
theorem early_close_is_traded_after_the_close :
    (∃ bundle, sampleMomentum 780 = .ok bundle ∧
      ¬ SessionBound some (times sampleFrame) (twoSessions 780)
        (bundle.eligibleSessions.map (·.sessionDate))
        (bundle.excludedSessions.map (·.sessionDate)) bundle.trades bundle.signals) ∧
    missesABreak offGridFrame = true := by
  refine ⟨?_, by decide +kernel⟩
  obtain ⟨bundle, ran, -⟩ : ∃ bundle, sampleMomentum 780 = .ok bundle ∧
      bundle.trades ≠ [] := exists_of_tradesOf (by decide +kernel)
  refine ⟨bundle, ran, fun bound => ?_⟩
  have covered := (momentum_sessionBound_iff (momentum_run ran) sampleClock_documented
    (twoSessions_disjoint 780 (by decide))).mp bound
  have bars : BoundaryBars sampleClock sampleFrame ⟨1, minutes (1440 + 570), minutes (1440 + 960)⟩
      ⟨2, minutes (2880 + 570), minutes (2880 + 780)⟩ :=
    missing_isEmpty_iff.mp (by decide +kernel)
  exact absurd (covered (some _, _) (by decide) _ rfl bars).2 (by decide)

end Samples

end QuantFactory.Strategies
