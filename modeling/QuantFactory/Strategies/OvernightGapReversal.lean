import QuantFactory.Python.Samples
import QuantFactory.Strategies.ContractMapping
import QuantFactory.Strategies.Parameters

/-!
# The overnight-gap reversal

`generate_mes_overnight_gap_reversal_bundle`: each scheduled session is excluded with a reason
or traded from 09:35 to 10:00 against the gap from the prior 15:55 close, in one contract.
-/

set_option autoImplicit false

namespace QuantFactory.Strategies

open QuantFactory.Library QuantFactory.Python

/-- A row's `market_close`, where the schedule has the column. -/
inductive CloseTime where
  | naive
  | aware (instant : Int)

structure GapSession where
  date : Int
  marketClose : Option CloseTime

structure GapClock extends WallClock where
  timeOfDay : Int → Int
  isoformat : Int → String

structure GapArithmetic (F : Type) where
  literal : Rat → F
  add : F → F → F
  subtract : F → F → F
  multiply : F → F → F
  divide : F → F → F
  less : F → F → Bool
  equal : F → F → Bool
  finite : F → Bool

inductive GapExclusionReason where
  | missingPriorSessionBoundary
  | priorSessionEarlyClose (priorSessionDate : Int)
  | missingRequiredBoundaryBar (details : List String)
  | invalidRequiredBoundaryBar (details : List String)
  | rollMappingBoundary (priorInstrumentId currentInstrumentId : String)
  | zeroGap
  deriving DecidableEq, Repr

structure GapExclusion where
  sessionDate : Int
  reason : GapExclusionReason
  deriving DecidableEq, Repr

structure GapTrade (F : Type) where
  sessionDate : Int
  priorSessionDate : Int
  mappingInstrumentId : String
  gap : F
  direction : Side
  directionValue : Int
  entryTimestamp : Int
  exitTimestamp : Int
  entryRaw : F
  exitRaw : F
  entryFill : F
  exitFill : F
  feePerSide : F
  netPnl : F

structure GapBundle (F : Type) where
  signals : SignalColumns
  scheduledSessions : List Int
  completedTrades : List (GapTrade F)
  excludedSessions : List GapExclusion
  dailyNetPnl : List F

def currentRequiredTimes : List String :=
  ["09:30", "09:35", "09:40", "09:45", "09:50", "09:55", "10:00"]

section Model
variable {F : Type} (clock : GapClock) (arithmetic : GapArithmetic F) (data : List (PriceBar F))
  (intervals : List MappingInterval)

def isEarlyClose (session : GapSession) : Except StrategyError Bool :=
  match session.marketClose with
  | none => .ok false
  | some .naive =>
      .error (.valueError "NYSE schedule market_close timestamps must be timezone-aware")
  | some (.aware instant) => .ok (decide (clock.timeOfDay instant < minutes 960))

def barIsValid (bar : PriceBar F) : Bool :=
  [bar.openPrice, bar.high, bar.low, bar.closePrice].all (fun price =>
    arithmetic.finite price && arithmetic.less (arithmetic.literal 0) price) &&
  (arithmetic.finite bar.volume && (arithmetic.less (arithmetic.literal 0) bar.volume ||
    arithmetic.equal bar.volume (arithmetic.literal 0)))

/-- `required`, the times of the prior close and of the current bars. -/
def requiredTimes (prior current : GapSession) : List Int :=
  clock.wall prior.date "15:55" :: currentRequiredTimes.map (clock.wall current.date)

/-- `data.loc[timestamp]`. -/
def rowAt (timestamp : Int) : Except StrategyError (PriceBar F) :=
  orRaise (barAt data timestamp) .keyError

def gapTradeVerdict (prior current : GapSession) (currentMapping : MappingInterval) :
    Except StrategyError (Verdict (GapTrade F) GapExclusion) := do
  let entryTimestamp := clock.wall current.date "09:35"
  let exitTimestamp := clock.wall current.date "10:00"
  let priorClose := (← rowAt data (clock.wall prior.date "15:55")).closePrice
  let currentOpen := (← rowAt data (clock.wall current.date "09:30")).openPrice
  let gap := arithmetic.subtract (arithmetic.divide currentOpen priorClose) (arithmetic.literal 1)
  if arithmetic.equal gap (arithmetic.literal 0) then
    .ok (.excluded ⟨current.date, .zeroGap⟩)
  else
    let directionValue : Int := if arithmetic.less (arithmetic.literal 0) gap then -1 else 1
    let direction : Side := if directionValue < 0 then .short else .long
    let adverse := arithmetic.multiply (arithmetic.literal directionValue) (arithmetic.literal (1 / 4))
    let entryRaw := (← rowAt data entryTimestamp).openPrice
    let exitRaw := (← rowAt data exitTimestamp).openPrice
    let entryFill := arithmetic.add entryRaw adverse
    let exitFill := arithmetic.subtract exitRaw adverse
    let feePerSide := arithmetic.literal (62 / 100)
    let netPnl := arithmetic.subtract
      (arithmetic.multiply (arithmetic.multiply (arithmetic.literal directionValue)
        (arithmetic.subtract exitFill entryFill)) (arithmetic.literal 5))
      (arithmetic.multiply (arithmetic.literal 2) feePerSide)
    .ok (.accepted
      ⟨current.date, prior.date, currentMapping.instrumentId, gap, direction, directionValue,
        entryTimestamp, exitTimestamp, entryRaw, exitRaw, entryFill, exitFill, feePerSide, netPnl⟩
      (some ⟨current.date, direction, entryTimestamp, exitTimestamp⟩))

def mappedVerdict (prior current : GapSession) :
    Except StrategyError (Verdict (GapTrade F) GapExclusion) := do
  let priorMapping ← mappingForDate intervals prior.date
  let currentMapping ← mappingForDate intervals current.date
  if priorMapping ≠ currentMapping then
    .ok (.excluded ⟨current.date,
      .rollMappingBoundary priorMapping.instrumentId currentMapping.instrumentId⟩)
  else gapTradeVerdict clock arithmetic data prior current currentMapping

def boundaryVerdict (prior current : GapSession) :
    Except StrategyError (Verdict (GapTrade F) GapExclusion) := do
  let required := requiredTimes clock prior current
  let missing := required.filter fun item => !(times data).contains item
  if !missing.isEmpty then
    .ok (.excluded ⟨current.date, .missingRequiredBoundaryBar (missing.map clock.isoformat)⟩)
  else
    let rows ← collect (rowAt data) required
    let invalid := (required.zip rows).filter fun item => !barIsValid arithmetic item.2
    if !invalid.isEmpty then
      .ok (.excluded ⟨current.date,
        .invalidRequiredBoundaryBar (invalid.map fun item => clock.isoformat item.1)⟩)
    else mappedVerdict clock arithmetic data intervals prior current

def gapVerdict (session : Option GapSession × GapSession) :
    Except StrategyError (Verdict (GapTrade F) GapExclusion) :=
  match session with
  | (none, current) => .ok (.excluded ⟨current.date, .missingPriorSessionBoundary⟩)
  | (some prior, current) => do
      if ← isEarlyClose clock prior then
        .ok (.excluded ⟨current.date, .priorSessionEarlyClose prior.date⟩)
      else boundaryVerdict clock arithmetic data intervals prior current

/-- `daily_pnl.at[session_label] = net_pnl`. -/
def setDaily (labels : List Int) (daily : List F) : Verdict (GapTrade F) GapExclusion → List F
  | .excluded _ => daily
  | .accepted trade _ => List.zipWith (fun label value =>
      if label = trade.sessionDate then trade.netPnl else value) labels daily

def generateMesOvernightGapReversalBundle (parameters : List (String × Setting))
    (schedule : List GapSession) : Except StrategyError (GapBundle F) := do
  raiseIf (!parameters.isEmpty)
    (.valueError "MES overnight-gap reversal has no tunable parameters")
  raiseIf (!decide (Chronological data))
    (.valueError "MES gap timestamps must be unique and chronological")
  let labels := schedule.map GapSession.date
  let verdicts ← collect (gapVerdict clock arithmetic data intervals) (withPrior schedule)
  let scan := verdicts.foldl (Scan.take (times data)) ⟨noSignals (times data), [], []⟩
  let dailyPnl := verdicts.foldl (setDaily labels) (labels.map fun _ => arithmetic.literal 0)
  .ok ⟨scan.signals, labels, scan.accepted, scan.excluded, dailyPnl⟩

end Model

/-! ## One session -/

section Sessions
variable {F : Type} {clock : GapClock} {arithmetic : GapArithmetic F} {data : List (PriceBar F)}
  {intervals : List MappingInterval} {prior current : GapSession}

def GapTrade.mark (trade : GapTrade F) : SessionTrade :=
  ⟨trade.sessionDate, trade.direction, trade.entryTimestamp, trade.exitTimestamp⟩

def BoundaryBarsValid (clock : GapClock) (arithmetic : GapArithmetic F) (data : List (PriceBar F))
    (prior current : GapSession) : Prop :=
  ∀ timestamp ∈ requiredTimes clock prior current,
    ∃ bar, barAt data timestamp = some bar ∧ barIsValid arithmetic bar = true

theorem boundaryBarsValid_iff (prior current : GapSession) :
    BoundaryBarsValid clock arithmetic data prior current ↔
      ((requiredTimes clock prior current).all fun timestamp =>
        (barAt data timestamp).any (barIsValid arithmetic)) = true := by
  simp [BoundaryBarsValid, Option.any_eq_true]

/-- What a trade is: from 09:35 to 10:00 of its session, on bars that are there, in the contract of
the interval that holds both its dates. -/
structure TradeOf (clock : GapClock) (data : List (PriceBar F)) (intervals : List MappingInterval)
    (prior current : GapSession) (trade : GapTrade F) : Prop where
  sessionDate : trade.sessionDate = current.date
  priorSessionDate : trade.priorSessionDate = prior.date
  entryTimestamp : trade.entryTimestamp = clock.wall current.date "09:35"
  exitTimestamp : trade.exitTimestamp = clock.wall current.date "10:00"
  entryRow : trade.entryTimestamp ∈ times data
  exitRow : trade.exitTimestamp ∈ times data
  oneContract : ∃ interval ∈ intervals, interval.contains prior.date = true ∧
    interval.contains current.date = true ∧ trade.mappingInstrumentId = interval.instrumentId

structure AtMappingBoundary (clock : GapClock) (arithmetic : GapArithmetic F)
    (data : List (PriceBar F)) (intervals : List MappingInterval) (prior current : GapSession) :
    Prop where
  notEarly : isEarlyClose clock prior = .ok false
  bars : BoundaryBarsValid clock arithmetic data prior current
  apart : ∃ priorMapping currentMapping, mappingForDate intervals prior.date = .ok priorMapping ∧
    mappingForDate intervals current.date = .ok currentMapping ∧ priorMapping ≠ currentMapping

theorem gapTradeVerdict_cases {currentMapping : MappingInterval}
    {verdict : Verdict (GapTrade F) GapExclusion}
    (ok : gapTradeVerdict clock arithmetic data prior current currentMapping = .ok verdict) :
    verdict = .excluded ⟨current.date, .zeroGap⟩ ∨
      ∃ trade : GapTrade F, verdict = .accepted trade (some trade.mark) ∧
        trade.sessionDate = current.date ∧ trade.priorSessionDate = prior.date ∧
        trade.entryTimestamp = clock.wall current.date "09:35" ∧
        trade.exitTimestamp = clock.wall current.date "10:00" ∧
        trade.mappingInstrumentId = currentMapping.instrumentId := by
  obtain ⟨priorRow, -, ok⟩ := bind_eq_ok.mp ok
  obtain ⟨openRow, -, ok⟩ := bind_eq_ok.mp ok
  dsimp only at ok
  split at ok
  · exact .inl (Except.ok.inj ok).symm
  · obtain ⟨entryRow, -, ok⟩ := bind_eq_ok.mp ok
    obtain ⟨exitRow, -, ok⟩ := bind_eq_ok.mp ok
    exact .inr ⟨_, (Except.ok.inj ok).symm, rfl, rfl, rfl, rfl, rfl⟩

theorem required_present (bars : BoundaryBarsValid clock arithmetic data prior current) {time : Int}
    (required : time ∈ requiredTimes clock prior current) : time ∈ times data := by
  obtain ⟨bar, found, -⟩ := bars time required
  have here : bar.timestamp = time := by simpa using List.find?_some found
  exact List.mem_map.mpr ⟨bar, List.mem_of_find?_eq_some found, here⟩

theorem rowAt_of_present {time : Int} (present : time ∈ times data) :
    ∃ bar, barAt data time = some bar ∧ rowAt data time = .ok bar := by
  obtain ⟨bar, found, -⟩ := barAt_isSome present
  exact ⟨bar, found, by rw [rowAt, found]; rfl⟩

theorem mem_requiredTimes_prior : clock.wall prior.date "15:55" ∈ requiredTimes clock prior current :=
  List.mem_cons_self

theorem mem_requiredTimes {time : String} (required : time ∈ currentRequiredTimes) :
    clock.wall current.date time ∈ requiredTimes clock prior current :=
  List.mem_cons_of_mem _ (List.mem_map_of_mem required)

theorem invalid_isEmpty_iff {required : List Int} {rows : List (PriceBar F)}
    (read : collect (rowAt data) required = .ok rows) :
    ((required.zip rows).filter fun item => !barIsValid arithmetic item.2).isEmpty = true ↔
      ∀ timestamp ∈ required,
        ∃ bar, barAt data timestamp = some bar ∧ barIsValid arithmetic bar = true := by
  have pairs := collect_eq_ok.mp read
  clear read
  rw [List.isEmpty_iff]
  induction pairs with
  | nil => simp
  | @cons timestamp bar required rows head _ ih =>
      have found : barAt data timestamp = some bar := orRaise_eq_ok.mp head
      rw [List.zip_cons_cons, List.forall_mem_cons]
      refine Iff.trans ?_ (and_congr_right fun _ => ih)
      cases valid : barIsValid arithmetic bar with
      | true => simp [valid, found]
      | false => simp [valid, found]

theorem mappedVerdict_cases {verdict : Verdict (GapTrade F) GapExclusion}
    (notEarly : isEarlyClose clock prior = .ok false)
    (bars : BoundaryBarsValid clock arithmetic data prior current)
    (ok : mappedVerdict clock arithmetic data intervals prior current = .ok verdict) :
    (AtMappingBoundary clock arithmetic data intervals prior current ∧
      ∃ priorId currentId, verdict = .excluded ⟨current.date, .rollMappingBoundary priorId currentId⟩) ∨
    verdict = .excluded ⟨current.date, .zeroGap⟩ ∨
    ∃ trade : GapTrade F, verdict = .accepted trade (some trade.mark) ∧
      TradeOf clock data intervals prior current trade := by
  obtain ⟨priorMapping, priorFound, ok⟩ := bind_eq_ok.mp ok
  obtain ⟨currentMapping, currentFound, ok⟩ := bind_eq_ok.mp ok
  split at ok
  · rename_i apart
    exact .inl ⟨⟨notEarly, bars, priorMapping, currentMapping, priorFound, currentFound, apart⟩,
      _, _, (Except.ok.inj ok).symm⟩
  · rename_i same
    rw [ne_eq, not_not] at same
    rcases gapTradeVerdict_cases ok with zero | ⟨trade, accepted, date, priorDate, entry, exit, id⟩
    · exact .inr (.inl zero)
    · refine .inr (.inr ⟨trade, accepted, date, priorDate, entry, exit, ?_, ?_, ?_⟩)
      · rw [entry]
        exact required_present bars (mem_requiredTimes (by simp [currentRequiredTimes]))
      · rw [exit]
        exact required_present bars (mem_requiredTimes (by simp [currentRequiredTimes]))
      · obtain ⟨member, contains, -⟩ := mappingForDate_mem currentFound
        rw [← same] at member contains id
        obtain ⟨-, priorContains, -⟩ := mappingForDate_mem priorFound
        exact ⟨priorMapping, member, priorContains, contains, id⟩

theorem gapVerdict_cases {session : Option GapSession × GapSession}
    {verdict : Verdict (GapTrade F) GapExclusion}
    (ok : gapVerdict clock arithmetic data intervals session = .ok verdict) :
    (∃ reason, verdict = .excluded ⟨session.2.date, reason⟩ ∧
      ∀ priorId currentId, reason = .rollMappingBoundary priorId currentId → ∃ prior,
        session.1 = some prior ∧
          AtMappingBoundary clock arithmetic data intervals prior session.2) ∨
    ∃ prior trade, session.1 = some prior ∧ verdict = .accepted trade (some trade.mark) ∧
      TradeOf clock data intervals prior session.2 trade := by
  obtain ⟨before, current⟩ := session
  cases before with
  | none => exact .inl ⟨_, (Except.ok.inj ok).symm, fun _ _ roll => by cases roll⟩
  | some prior =>
      obtain ⟨early, tested, ok⟩ := bind_eq_ok.mp ok
      cases early with
      | true => exact .inl ⟨_, (Except.ok.inj ok).symm, fun _ _ roll => by cases roll⟩
      | false =>
          simp only [Bool.false_eq_true, if_false, boundaryVerdict] at ok
          split at ok
          · exact .inl ⟨_, (Except.ok.inj ok).symm, fun _ _ roll => by cases roll⟩
          · obtain ⟨rows, read, ok⟩ := bind_eq_ok.mp ok
            split at ok
            · exact .inl ⟨_, (Except.ok.inj ok).symm, fun _ _ roll => by cases roll⟩
            · rename_i valid
              have bars : BoundaryBarsValid clock arithmetic data prior current :=
                (invalid_isEmpty_iff read).mp (by simpa using valid)
              rcases mappedVerdict_cases tested bars ok with
                ⟨boundary, _, _, excluded⟩ | excluded | ⟨trade, accepted, of⟩
              · exact .inl ⟨_, excluded, fun _ _ _ => ⟨prior, rfl, boundary⟩⟩
              · exact .inl ⟨_, excluded, fun _ _ roll => by cases roll⟩
              · exact .inr ⟨prior, trade, rfl, accepted, of⟩

theorem boundaryVerdict_of_valid (bars : BoundaryBarsValid clock arithmetic data prior current) :
    boundaryVerdict clock arithmetic data intervals prior current =
      mappedVerdict clock arithmetic data intervals prior current := by
  have noneMissing : (requiredTimes clock prior current).filter
      (fun item => !(times data).contains item) = [] := by
    apply List.filter_eq_nil_iff.mpr
    intro time required
    simp [required_present bars required]
  obtain ⟨rows, read⟩ : ∃ rows,
      collect (rowAt data) (requiredTimes clock prior current) = .ok rows := by
    apply collect_total
    intro time required
    obtain ⟨bar, -, row⟩ := rowAt_of_present (required_present bars required)
    exact ⟨bar, row⟩
  have noneInvalid := (invalid_isEmpty_iff read).mpr bars
  simp only [boundaryVerdict, noneMissing, read, bind_ok, noneInvalid, List.isEmpty_nil, Bool.not_true,
    Bool.false_eq_true, if_false]

theorem gapVerdict_of_boundary
    (boundary : AtMappingBoundary clock arithmetic data intervals prior current) :
    ∃ priorId currentId, gapVerdict clock arithmetic data intervals (some prior, current) =
      .ok (.excluded ⟨current.date, .rollMappingBoundary priorId currentId⟩) := by
  obtain ⟨priorMapping, currentMapping, priorFound, currentFound, apart⟩ := boundary.apart
  refine ⟨priorMapping.instrumentId, currentMapping.instrumentId, ?_⟩
  simp only [gapVerdict, boundary.notEarly, bind_ok, Bool.false_eq_true, if_false,
    boundaryVerdict_of_valid boundary.bars, mappedVerdict, priorFound, currentFound]
  rw [if_pos apart]

/-- The `market_close` of a session has a time zone, where there is one. -/
def GapSession.Zoned (session : GapSession) : Prop := session.marketClose ≠ some .naive

variable (clock) in
theorem isEarlyClose_of_zoned {session : GapSession} (zoned : session.Zoned) :
    ∃ early, isEarlyClose clock session = .ok early := by
  unfold isEarlyClose
  split
  · exact ⟨_, rfl⟩
  · rename_i naive
    exact absurd naive zoned
  · exact ⟨_, rfl⟩

theorem gapTradeVerdict_total (present : ∀ time ∈ requiredTimes clock prior current, time ∈ times data)
    (currentMapping : MappingInterval) : ∃ verdict,
      gapTradeVerdict clock arithmetic data prior current currentMapping = .ok verdict := by
  have current_present : ∀ time ∈ currentRequiredTimes, clock.wall current.date time ∈ times data :=
    fun time required => present _ (mem_requiredTimes required)
  obtain ⟨priorRow, -, priorRead⟩ := rowAt_of_present (present _ mem_requiredTimes_prior)
  obtain ⟨openRow, -, openRead⟩ :=
    rowAt_of_present (current_present "09:30" (by simp [currentRequiredTimes]))
  obtain ⟨entryRow, -, entryRead⟩ :=
    rowAt_of_present (current_present "09:35" (by simp [currentRequiredTimes]))
  obtain ⟨exitRow, -, exitRead⟩ :=
    rowAt_of_present (current_present "10:00" (by simp [currentRequiredTimes]))
  simp only [gapTradeVerdict, priorRead, openRead, entryRead, exitRead, bind_ok]
  split
  · exact ⟨_, rfl⟩
  · exact ⟨_, rfl⟩

section Mapped
variable (adjacent : Adjacent MappingInterval.startDate MappingInterval.endDateExclusive intervals)

include adjacent in
theorem boundaryVerdict_total (priorMapped : MappedDate intervals prior.date)
    (currentMapped : MappedDate intervals current.date) : ∃ verdict,
      boundaryVerdict clock arithmetic data intervals prior current = .ok verdict := by
  rw [boundaryVerdict]
  split
  · exact ⟨_, rfl⟩
  · rename_i complete
    have present : ∀ time ∈ requiredTimes clock prior current, time ∈ times data := by
      simpa [List.isEmpty_iff, List.filter_eq_nil_iff] using complete
    obtain ⟨rows, read⟩ : ∃ rows,
        collect (rowAt data) (requiredTimes clock prior current) = .ok rows := by
      apply collect_total
      intro time required
      obtain ⟨bar, -, row⟩ := rowAt_of_present (present time required)
      exact ⟨bar, row⟩
    simp only [read, bind_ok]
    split
    · exact ⟨_, rfl⟩
    · obtain ⟨priorMapping, -, priorFound⟩ := mappingForDate_of_mapped adjacent priorMapped
      obtain ⟨currentMapping, -, currentFound⟩ := mappingForDate_of_mapped adjacent currentMapped
      rw [mappedVerdict, priorFound, bind_ok, currentFound, bind_ok]
      split
      · exact ⟨_, rfl⟩
      · exact gapTradeVerdict_total present currentMapping

include adjacent in
theorem gapVerdict_total {session : Option GapSession × GapSession}
    (currentMapped : MappedDate intervals session.2.date)
    (priorMapped : ∀ prior, session.1 = some prior → MappedDate intervals prior.date ∧ prior.Zoned) :
    ∃ verdict, gapVerdict clock arithmetic data intervals session = .ok verdict := by
  obtain ⟨before, current⟩ := session
  cases before with
  | none => exact ⟨_, rfl⟩
  | some prior =>
      obtain ⟨mapped, zoned⟩ := priorMapped prior rfl
      obtain ⟨early, tested⟩ := isEarlyClose_of_zoned clock zoned
      rw [gapVerdict, tested, bind_ok]
      split
      · exact ⟨_, rfl⟩
      · exact boundaryVerdict_total adjacent mapped currentMapped

end Mapped

end Sessions

/-! ## The daily results -/

section Daily
variable {F : Type} {labels : List Int}

def dailyAfter (trades : List (GapTrade F)) (value : F) (label : Int) : F :=
  trades.foldl (fun value trade => if label = trade.sessionDate then trade.netPnl else value) value

theorem foldl_setDaily (verdicts : List (Verdict (GapTrade F) GapExclusion)) (value : Int → F) :
    verdicts.foldl (setDaily labels) (labels.map value) =
      labels.map fun label => dailyAfter (verdicts.filterMap Verdict.row?) (value label) label := by
  induction verdicts generalizing value with
  | nil => rfl
  | cons verdict rest ih =>
      cases verdict with
      | excluded reason => exact ih value
      | accepted trade mark =>
          rw [List.foldl_cons, setDaily, List.zipWith_map_right, List.zipWith_self, ih]
          rfl

theorem dailyAfter_absent {trades : List (GapTrade F)} {value : F} {label : Int}
    (absent : ∀ trade ∈ trades, trade.sessionDate ≠ label) : dailyAfter trades value label = value := by
  induction trades generalizing value with
  | nil => rfl
  | cons trade rest ih =>
      have other := absent trade List.mem_cons_self
      rw [dailyAfter, List.foldl_cons, if_neg other.symm]
      exact ih fun later member => absent later (List.mem_cons_of_mem _ member)

theorem dailyAfter_of_mem {trades : List (GapTrade F)} {value : F}
    (once : (trades.map (·.sessionDate)).Nodup) {trade : GapTrade F} (member : trade ∈ trades) :
    dailyAfter trades value trade.sessionDate = trade.netPnl := by
  induction trades generalizing value with
  | nil => cases member
  | cons first rest ih =>
      obtain ⟨notLater, onceRest⟩ := List.nodup_cons.mp once
      rcases List.mem_cons.mp member with rfl | inRest
      · rw [dailyAfter, List.foldl_cons, if_pos rfl]
        apply dailyAfter_absent
        intro later inRest same
        exact notLater (List.mem_map.mpr ⟨later, inRest, same⟩)
      · exact ih onceRest inRest

end Daily

/-! ## The run over the schedule -/

def ExcludedAsRoll {F : Type} (bundle : GapBundle F) (sessionDate : Int) : Prop :=
  ∃ priorId currentId, (⟨sessionDate, .rollMappingBoundary priorId currentId⟩ : GapExclusion) ∈
    bundle.excludedSessions

def InstrumentsDiffer (intervals : List MappingInterval) (priorDate currentDate : Int) : Prop :=
  ∃ priorMapping ∈ intervals, ∃ currentMapping ∈ intervals,
    priorMapping.contains priorDate = true ∧ currentMapping.contains currentDate = true ∧
      priorMapping.instrumentId ≠ currentMapping.instrumentId

def InOneInterval (intervals : List MappingInterval) (priorDate currentDate : Int) : Prop :=
  ∃ interval ∈ intervals, interval.contains priorDate = true ∧ interval.contains currentDate = true

structure GapSessionsClassified {F : Type} (clock : GapClock) (arithmetic : GapArithmetic F)
    (data : List (PriceBar F)) (intervals : List MappingInterval) (schedule : List GapSession)
    (bundle : GapBundle F) : Prop where
  classified : (bundle.completedTrades.map (·.sessionDate) ++
    bundle.excludedSessions.map (·.sessionDate)).Perm (schedule.map GapSession.date)
  trades : ∀ trade ∈ bundle.completedTrades, ∃ pair ∈ withPrior schedule, ∃ prior,
    pair.1 = some prior ∧ TradeOf clock data intervals prior pair.2 trade
  rolls : ∀ pair ∈ withPrior schedule, ∀ prior, pair.1 = some prior →
    (isEarlyClose clock prior = .ok false →
      BoundaryBarsValid clock arithmetic data prior pair.2 →
      InstrumentsDiffer intervals prior.date pair.2.date → ExcludedAsRoll bundle pair.2.date) ∧
    (ExcludedAsRoll bundle pair.2.date →
      isEarlyClose clock prior = .ok false ∧
      BoundaryBarsValid clock arithmetic data prior pair.2 ∧
      ¬ InOneInterval intervals prior.date pair.2.date)
  signals : bundle.signals = columnsOf (times data) (bundle.completedTrades.map GapTrade.mark)
  daily : bundle.dailyNetPnl.length = schedule.length ∧
    ∀ (position : Nat) (session : GapSession), schedule[position]? = some session →
      (∀ trade ∈ bundle.completedTrades, trade.sessionDate = session.date →
        bundle.dailyNetPnl[position]? = some trade.netPnl) ∧
      ((∀ trade ∈ bundle.completedTrades, trade.sessionDate ≠ session.date) →
        bundle.dailyNetPnl[position]? = some (arithmetic.literal 0))

/-- A session that reaches the mapping is looked up on both its dates. -/
theorem mappings_of_verdict {F : Type} {clock : GapClock} {arithmetic : GapArithmetic F}
    {data : List (PriceBar F)} {intervals : List MappingInterval} {prior current : GapSession}
    {verdict : Verdict (GapTrade F) GapExclusion} (notEarly : isEarlyClose clock prior = .ok false)
    (bars : BoundaryBarsValid clock arithmetic data prior current)
    (ok : gapVerdict clock arithmetic data intervals (some prior, current) = .ok verdict) :
    ∃ priorMapping currentMapping, mappingForDate intervals prior.date = .ok priorMapping ∧
      mappingForDate intervals current.date = .ok currentMapping := by
  simp only [gapVerdict, notEarly, bind_ok, Bool.false_eq_true, if_false,
    boundaryVerdict_of_valid bars] at ok
  obtain ⟨priorMapping, priorFound, ok⟩ := bind_eq_ok.mp ok
  obtain ⟨currentMapping, currentFound, -⟩ := bind_eq_ok.mp ok
  exact ⟨priorMapping, currentMapping, priorFound, currentFound⟩

section Runs
variable {F : Type} {clock : GapClock} {arithmetic : GapArithmetic F} {data : List (PriceBar F)}
  {intervals : List MappingInterval} {schedule : List GapSession}
  {verdicts : List (Verdict (GapTrade F) GapExclusion)}

theorem prior_mem_of_withPrior {α : Type} {labels : List α} {pair : Option α × α}
    (member : pair ∈ withPrior labels) {prior : α} (before : pair.1 = some prior) :
    prior ∈ labels := by
  have among := (List.of_mem_zip (a := pair.1) (b := pair.2) member).1
  rw [before] at among
  simpa using among

theorem pair_of_date (once : (schedule.map GapSession.date).Nodup)
    {pair other : Option GapSession × GapSession} (member : pair ∈ withPrior schedule)
    (otherMember : other ∈ withPrior schedule) (same : pair.2.date = other.2.date) : pair = other := by
  have dates : (withPrior schedule).map (fun pair => pair.2.date) = schedule.map GapSession.date := by
    conv_rhs => rw [← withPrior_sessions schedule, List.map_map]
    rfl
  have nodup : ((withPrior schedule).map fun pair => pair.2.date).Nodup := by
    rw [dates]
    exact once
  exact List.inj_on_of_nodup_map nodup member otherMember same

variable (pairs : List.Forall₂ (fun session verdict =>
    gapVerdict clock arithmetic data intervals session = .ok verdict) (withPrior schedule) verdicts)

include pairs in
theorem exists_verdict {pair : Option GapSession × GapSession} (member : pair ∈ withPrior schedule) :
    ∃ verdict ∈ verdicts, gapVerdict clock arithmetic data intervals pair = .ok verdict := by
  obtain ⟨position, within, here⟩ := List.getElem_of_mem member
  have inVerdicts : position < verdicts.length := by rwa [← pairs.length_eq]
  have answered := (List.forall₂_iff_get.mp pairs).2 position within inVerdicts
  rw [List.get_eq_getElem, List.get_eq_getElem, here] at answered
  exact ⟨_, List.getElem_mem inVerdicts, answered⟩

include pairs in
theorem classified_of_verdicts (once : (schedule.map GapSession.date).Nodup) :
    GapSessionsClassified clock arithmetic data intervals schedule
      ⟨columnsOf (times data) (verdicts.filterMap Verdict.trade?), schedule.map GapSession.date,
        verdicts.filterMap Verdict.row?, verdicts.filterMap Verdict.reason?,
        (schedule.map GapSession.date).map fun label =>
          dailyAfter (verdicts.filterMap Verdict.row?) (arithmetic.literal 0) label⟩ := by
  have dated : List.Forall₂ (fun (session : Option GapSession × GapSession)
      (verdict : Verdict (GapTrade F) GapExclusion) =>
        verdict.Dated (·.sessionDate) (·.sessionDate) session.2.date)
      (withPrior schedule) verdicts := by
    apply pairs.imp
    intro session verdict answered
    rcases gapVerdict_cases answered with ⟨reason, rfl, -⟩ | ⟨prior, trade, -, rfl, of⟩
    · rfl
    · refine ⟨of.sessionDate, fun marked found => ?_⟩
      rw [← Option.some.inj found]
      exact of.sessionDate
  have classified := (classified_once dated).1
  have dates : (withPrior schedule).map (fun pair => pair.2.date) = schedule.map GapSession.date := by
    conv_rhs => rw [← withPrior_sessions schedule, List.map_map]
    rfl
  rw [dates] at classified
  refine ⟨classified, ?_, ?_, ?_, ?_, ?_⟩
  · intro trade member
    obtain ⟨verdict, inVerdicts, accepted⟩ := List.mem_filterMap.mp member
    obtain ⟨pair, inPairs, answered⟩ := forall₂_mem_right pairs inVerdicts
    rcases gapVerdict_cases answered with ⟨reason, rfl, -⟩ | ⟨prior, other, before, rfl, of⟩
    · cases accepted
    · cases accepted
      exact ⟨pair, inPairs, prior, before, of⟩
  · intro pair inPairs prior before
    constructor
    · rintro notEarly bars ⟨priorMapping, priorMember, currentMapping, currentMember, priorHolds,
        currentHolds, differ⟩
      obtain ⟨verdict, inVerdicts, answered⟩ := exists_verdict pairs inPairs
      obtain ⟨previous, current⟩ := pair
      cases before
      have atBoundary : AtMappingBoundary clock arithmetic data intervals prior current := by
        refine ⟨notEarly, bars, ?_⟩
        obtain ⟨foundPrior, foundCurrent, priorFound, currentFound⟩ :=
          mappings_of_verdict notEarly bars answered
        refine ⟨foundPrior, foundCurrent, priorFound, currentFound, fun same => differ ?_⟩
        rw [(mappingForDate_mem priorFound).2.2 priorMapping priorMember priorHolds,
          (mappingForDate_mem currentFound).2.2 currentMapping currentMember currentHolds, same]
      obtain ⟨priorId, currentId, excluded⟩ := gapVerdict_of_boundary atBoundary
      rw [answered] at excluded
      refine ⟨priorId, currentId, List.mem_filterMap.mpr ⟨verdict, inVerdicts, ?_⟩⟩
      rw [Except.ok.inj excluded]
      rfl
    · rintro ⟨priorId, currentId, member⟩
      obtain ⟨verdict, inVerdicts, excluded⟩ := List.mem_filterMap.mp member
      obtain ⟨other, inOther, answered⟩ := forall₂_mem_right pairs inVerdicts
      rcases gapVerdict_cases answered with ⟨reason, rfl, boundary⟩ | ⟨_, _, _, rfl, _⟩
      · obtain ⟨date, roll⟩ := GapExclusion.mk.inj (Option.some.inj excluded)
        have same := pair_of_date once inOther inPairs date
        obtain ⟨otherPrior, otherBefore, atBoundary⟩ := boundary priorId currentId roll
        rw [same, before] at otherBefore
        rw [same, ← Option.some.inj otherBefore] at atBoundary
        refine ⟨atBoundary.notEarly, atBoundary.bars, ?_⟩
        rintro ⟨interval, inIntervals, priorHolds, currentHolds⟩
        obtain ⟨priorMapping, currentMapping, priorFound, currentFound, apart⟩ := atBoundary.apart
        have first := (mappingForDate_mem priorFound).2.2 interval inIntervals priorHolds
        have second := (mappingForDate_mem currentFound).2.2 interval inIntervals currentHolds
        exact apart (first.symm.trans second)
      · cases excluded
  · have marks : verdicts.filterMap Verdict.trade? =
        (verdicts.filterMap Verdict.row?).map GapTrade.mark := by
      rw [← List.filterMap_eq_map, List.filterMap_filterMap]
      apply List.filterMap_congr
      intro verdict inVerdicts
      obtain ⟨session, -, answered⟩ := forall₂_mem_right pairs inVerdicts
      rcases gapVerdict_cases answered with ⟨reason, rfl, -⟩ | ⟨prior, trade, -, rfl, -⟩
      · rfl
      · rfl
    rw [marks]
  · rw [List.length_map, List.length_map]
  · intro position session here
    have tradesOnce : ((verdicts.filterMap Verdict.row?).map (·.sessionDate)).Nodup :=
      (List.nodup_append.mp (classified.nodup_iff.mpr once)).1
    have value : ((schedule.map GapSession.date).map fun label =>
        dailyAfter (verdicts.filterMap Verdict.row?) (arithmetic.literal 0) label)[position]? =
          some (dailyAfter (verdicts.filterMap Verdict.row?) (arithmetic.literal 0) session.date) := by
      rw [List.getElem?_map, List.getElem?_map, here]
      rfl
    constructor
    · intro trade member date
      rw [value, ← date, dailyAfter_of_mem tradesOnce member]
    · intro absent
      rw [value, dailyAfter_absent absent]

end Runs

/-- For every accepted mapping, frame and schedule of its dates: every date is in one interval, and
every session is classified once with its three outputs in step. -/
theorem gap_sessions_are_classified_once {D F : Type} [PyNumber D] {readers : MappingReaders D}
    (clock : GapClock) (arithmetic : GapArithmetic F) {response : PyValue D}
    {coverageStart coverageEndExclusive : Int} {intervals : List MappingInterval}
    (normalized : normalizeMesMapping readers response coverageStart coverageEndExclusive =
      .ok intervals) :
    (∀ sessionDate, coverageStart ≤ sessionDate → sessionDate < coverageEndExclusive →
      MappedDate intervals sessionDate) ∧
    (∀ sessionDate, MappedDate intervals sessionDate → ∃ interval,
      intervals.filter (fun item => item.contains sessionDate) = [interval] ∧
        mappingForDate intervals sessionDate = .ok interval) ∧
    ∀ (data : List (PriceBar F)) (schedule : List GapSession), Chronological data →
      (schedule.map GapSession.date).Pairwise (· < ·) →
      (∀ session ∈ schedule, session.Zoned ∧ MappedDate intervals session.date) →
        ∃ bundle, generateMesOvernightGapReversalBundle clock arithmetic data intervals [] schedule =
            .ok bundle ∧
          bundle.scheduledSessions = schedule.map GapSession.date ∧
          GapSessionsClassified clock arithmetic data intervals schedule bundle := by
  obtain ⟨adjacent, covered⟩ := normalizeMesMapping_ok normalized
  refine ⟨covered, fun sessionDate mapped => mappingForDate_of_mapped adjacent mapped, ?_⟩
  intro data schedule chronological increasing mapped
  have once : (schedule.map GapSession.date).Nodup := increasing.imp fun earlier => earlier.ne
  obtain ⟨verdicts, collected⟩ : ∃ verdicts, collect (gapVerdict clock arithmetic data intervals)
      (withPrior schedule) = .ok verdicts := by
    apply collect_total
    intro session member
    apply gapVerdict_total adjacent (mapped _ (mem_of_withPrior member)).2
    intro prior before
    exact (mapped prior (prior_mem_of_withPrior member before)).symm
  have pairs := collect_eq_ok.mp collected
  have scanned := foldl_take (times data) verdicts [] [] []
  rw [← noSignals_eq] at scanned
  refine ⟨_, ?_, rfl, classified_of_verdicts pairs once⟩
  simp only [generateMesOvernightGapReversalBundle, List.isEmpty_nil, Bool.not_true, raiseIf,
    decide_eq_true chronological, Bool.false_eq_true, if_false, bind_ok, collected, scanned,
    foldl_setDaily, List.nil_append]

section Samples

def sampleReaders : MappingReaders WholeFloat where
  isoDate
    | .str "2022-01-03" => some 738158
    | .str "2022-01-05" => some 738160
    | .str "2022-01-06" => some 738161
    | _ => none
  decimal
    | "111" => some 111
    | "222" => some 222
    | _ => none

def intervalEntry (first last instrument : String) : PyValue WholeFloat :=
  .dict [("d0", .str first), ("d1", .str last), ("s", .str instrument)]

/-- A response that cuts the mapping at the third of three days. -/
def sampleResponse (instrument : String) : PyValue WholeFloat :=
  .dict [("result", .dict [("MES.c.0", .list
      [intervalEntry "2022-01-05" "2022-01-06" instrument,
        intervalEntry "2022-01-03" "2022-01-05" "111"])]),
    ("partial", .list []), ("not_found", .list []), ("message", .str "OK"), ("status", .int 0)]

def sampleIntervals (instrument : String) : List MappingInterval :=
  [⟨738158, 738160, "111"⟩, ⟨738160, 738161, instrument⟩]

def gapClock : GapClock where
  wall date time := minutes (1440 * date + match time with
    | "09:30" => 570
    | "09:35" => 575
    | "09:40" => 580
    | "09:45" => 585
    | "09:50" => 590
    | "09:55" => 595
    | "10:00" => 600
    | "15:55" => 955
    | _ => 0)
  dateText date := toString date
  timeOfDay instant := instant % minutes 1440
  isoformat instant := toString instant

def gapArithmetic : GapArithmetic Rat where
  literal value := value
  add a b := a + b
  subtract a b := a - b
  multiply a b := a * b
  divide a b := a / b
  less a b := decide (a < b)
  equal a b := decide (a = b)
  finite _ := true

def dayOfBars (date : Int) (price : Rat) : List (PriceBar Rat) :=
  (currentRequiredTimes ++ ["15:55"]).map fun time =>
    ⟨gapClock.wall date time, price, price, price, price, 10⟩

def threeDays : List (PriceBar Rat) :=
  dayOfBars 738158 100 ++ dayOfBars 738159 102 ++ dayOfBars 738160 101

def threeSessionsClosing (minute : Int) : List GapSession :=
  [⟨738158, some (.aware (gapClock.wall 738158 "" + minutes 960))⟩,
    ⟨738159, some (.aware (gapClock.wall 738159 "" + minutes minute))⟩,
    ⟨738160, some (.aware (gapClock.wall 738160 "" + minutes 960))⟩]

def sampleGapRun (instrument : String) (minute : Int) : Except StrategyError (GapBundle Rat) :=
  generateMesOvernightGapReversalBundle gapClock gapArithmetic threeDays (sampleIntervals instrument) []
    (threeSessionsClosing minute)

theorem threeSessions_mapped (instrument : String) (minute : Int) :
    ∀ session ∈ threeSessionsClosing minute,
      session.Zoned ∧ MappedDate (sampleIntervals instrument) session.date := by
  intro session member
  simp only [threeSessionsClosing, List.mem_cons, List.not_mem_nil, or_false] at member
  rcases member with rfl | rfl | rfl
  all_goals
    refine ⟨by simp [GapSession.Zoned], ⟨⟨738158, 738160, "111"⟩, rfl, ?_⟩,
      ⟨738160, 738161, instrument⟩, rfl, ?_⟩
    · dsimp only
      omega
    · dsimp only
      omega

theorem exists_of_exclusions (run : Except StrategyError (GapBundle Rat))
    (exclusions : List GapExclusion)
    (found : run.toOption.map (·.excludedSessions) = some exclusions) :
    ∃ bundle, run = .ok bundle ∧ bundle.excludedSessions = exclusions := by
  cases run with
  | ok bundle => exact ⟨bundle, rfl, Option.some.inj found⟩
  | error raised => cases found

/-- A mapping of two instruments: one session traded, the session of the new instrument excluded. -/
theorem roll_is_excluded : ∃ bundle, sampleGapRun "222" 960 = .ok bundle ∧
    (bundle.completedTrades.map (·.sessionDate) ++
      bundle.excludedSessions.map (·.sessionDate)).Perm [738158, 738159, 738160] ∧
    ExcludedAsRoll bundle 738160 := by
  have normalized : normalizeMesMapping sampleReaders (sampleResponse "222") 738158 738161 =
      .ok (sampleIntervals "222") := by decide +kernel
  obtain ⟨-, -, runs⟩ := gap_sessions_are_classified_once gapClock gapArithmetic normalized
  obtain ⟨bundle, ran, -, classified⟩ := runs threeDays (threeSessionsClosing 960) (by decide +kernel)
    (by decide) (threeSessions_mapped "222" 960)
  refine ⟨bundle, ran, classified.classified, ?_⟩
  refine (classified.rolls (some _, _) (List.mem_of_getElem? (i := 2) rfl) _ rfl).1 rfl ?_ ?_
  · exact (boundaryBarsValid_iff _ _).mpr (by decide +kernel)
  · exact ⟨⟨738158, 738160, "111"⟩, by decide, ⟨738160, 738161, "222"⟩, by decide, by decide, by decide,
      by decide⟩

/-- An instrument whose interval is cut in two is excluded as a roll, and a roll after an early
close is not. -/
theorem cut_mapping_is_a_roll_and_early_close_is_none :
    (∃ bundle, sampleGapRun "111" 960 = .ok bundle ∧ ExcludedAsRoll bundle 738160 ∧
      ¬ InstrumentsDiffer (sampleIntervals "111") 738159 738160 ∧
      normalizeMesMapping sampleReaders (sampleResponse "111") 738158 738161 =
        .ok (sampleIntervals "111")) ∧
    ∃ bundle, sampleGapRun "222" 780 = .ok bundle ∧ ¬ ExcludedAsRoll bundle 738160 ∧
      InstrumentsDiffer (sampleIntervals "222") 738159 738160 ∧
      BoundaryBarsValid gapClock gapArithmetic threeDays
        ⟨738159, some (.aware (gapClock.wall 738159 "" + minutes 780))⟩
        ⟨738160, some (.aware (gapClock.wall 738160 "" + minutes 960))⟩ := by
  constructor
  · obtain ⟨bundle, ran, exclusions⟩ := exists_of_exclusions (sampleGapRun "111" 960)
      [⟨738158, .missingPriorSessionBoundary⟩, ⟨738160, .rollMappingBoundary "111" "111"⟩] (by decide +kernel)
    refine ⟨bundle, ran, ⟨"111", "111", ?_⟩, ?_, by decide +kernel⟩
    · rw [exclusions]
      decide
    · rintro ⟨priorMapping, priorMember, currentMapping, currentMember, -, -, differ⟩
      simp only [sampleIntervals, List.mem_cons, List.not_mem_nil, or_false] at priorMember currentMember
      rcases priorMember with rfl | rfl <;> rcases currentMember with rfl | rfl <;> exact differ rfl
  · obtain ⟨bundle, ran, exclusions⟩ := exists_of_exclusions (sampleGapRun "222" 780)
      [⟨738158, .missingPriorSessionBoundary⟩, ⟨738160, .priorSessionEarlyClose 738159⟩] (by decide +kernel)
    refine ⟨bundle, ran, ?_, ?_, (boundaryBarsValid_iff _ _).mpr (by decide +kernel)⟩
    · rintro ⟨priorId, currentId, member⟩
      rw [exclusions] at member
      simp at member
    · exact ⟨⟨738158, 738160, "111"⟩, by decide, ⟨738160, 738161, "222"⟩, by decide, by decide,
        by decide, by decide⟩

end Samples

end QuantFactory.Strategies
