import Mathlib
import QuantFactory.Library.OrderedCuts
import QuantFactory.RuleStrategy.SignalContents

/-!
# Frames of bars

`prepare_sessions` finds the full regular sessions of the exchange calendar in a frame:
every bar present, finite and positive.  Two frames with the same first bars have the
same sessions there.
-/

set_option autoImplicit false

namespace QuantFactory.RuleStrategy

open QuantFactory.Library QuantFactory.Python QuantFactory.RuleLanguage

variable {F : Type}

structure FrameBar (F : Type) where
  time : Int
  open_ : F
  high : F
  low : F
  close : F
  volume : F

/-- A row of the exchange's schedule: its date, its hours, and the clock in New York at its open. -/
structure SessionDay where
  date : Int
  opens : Int
  closes : Int
  clock : String
  deriving DecidableEq

/-- The exchange calendar, the New York date of a time, and the dates of the `skip_days` files. -/
structure Exchange where
  days : List SessionDay
  dateOf : Int → Int
  skips : List String → Int → Bool

def minuteNanoseconds : Int := 60000000000

def regularSession : Int := 390 * minuteNanoseconds

def barStep (bar : Bar) : Int := bar.minutes * minuteNanoseconds

def barTime (bar : Bar) (day : SessionDay) (r : Nat) : Int := day.opens + r * barStep bar

/-! ## Checks -/

def times (frame : List (FrameBar F)) : List Int := frame.map FrameBar.time

def checkedFrame (frame : List (FrameBar F)) : Except EvaluationError Unit :=
  raiseIf (!decide ((times frame).Pairwise (· < ·)))
    (.valueError "Rule strategy timestamps must be unique and chronological")

def checkDataFrequency (frame : List (FrameBar F)) (bar : Bar) : Except EvaluationError Unit :=
  match (List.zipWith (· - ·) (times frame).tail (times frame)).min? with
  | none => .ok ()
  | some shortest =>
      let step := shortest / minuteNanoseconds
      raiseIf (step ≠ bar.minutes) (.valueError
        s!"Rule spec bar is '{bar.text}' but the data has {step}-minute bars; {ruleLanguage} never resamples, so supply {bar.text} data or change the spec's bar")

/-! ## Sessions -/

/-- The days of the schedule between the first and the last date of a frame. -/
def inSchedule (exchange : Exchange) (frame : List (FrameBar F)) (day : SessionDay) : Bool :=
  match (times frame).head?, (times frame).getLast? with
  | some first, some last =>
      decide (exchange.dateOf first ≤ day.date ∧ day.date ≤ exchange.dateOf last)
  | _, _ => false

def isRegular (day : SessionDay) : Bool :=
  decide (day.closes - day.opens = regularSession) && day.clock == "09:30"

/-- `index.get_indexer`: the row of a time, and -1 where there is none. -/
def indexerOf (frame : List (FrameBar F)) (time : Int) : Int :=
  match (times frame).idxOf? time with
  | some k => k
  | none => -1

def sessionRows (frame : List (FrameBar F)) (bar : Bar) (day : SessionDay) : List Int :=
  (List.range bar.barsPerSession).map fun r => indexerOf frame (barTime bar day r)

section Values
variable [PyFloat F]

def isUsable (value : F) : Bool :=
  PyFloat.isFinite value && PyFloat.lt (PyFloat.literal 0) value

def FrameBar.usable (bar : FrameBar F) : Bool :=
  isUsable bar.open_ && isUsable bar.high && isUsable bar.low && isUsable bar.close &&
    isUsable bar.volume

def isFull (frame : List (FrameBar F)) (rows : List Int) : Bool :=
  rows.all (fun k => decide (0 ≤ k)) &&
    rows.all fun k => (frame[k.toNat]?.map FrameBar.usable).getD false

/-- `traded_session_positions`, one list for each session. -/
def tradedSessionPositions (exchange : Exchange) (frame : List (FrameBar F)) (bar : Bar) :
    List (List Int) :=
  (((exchange.days.filter (inSchedule exchange frame)).filter isRegular).map
    (sessionRows frame bar)).filter (isFull frame)

/-- `_session_ids`: the column of a bar's session, and -1 outside the sessions. -/
def sessionIds (rows : List (List Int)) (length : Nat) : List Int :=
  (List.range length).map fun k =>
    match rows.findIdx? fun session => session.contains (k : Int) with
    | some c => c
    | none => -1

end Values

/-! ## Rows of a sorted index -/

section Rows
variable {frame other : List (FrameBar F)} {time : Int} {k : Nat}

theorem checkedFrame_ok_iff {value : Unit} :
    checkedFrame frame = .ok value ↔ (times frame).Pairwise (· < ·) := by
  rw [checkedFrame, raiseIf_eq_ok]
  simp

theorem indexerOf_of_row (sorted : (times frame).Pairwise (· < ·))
    (isRow : (times frame)[k]? = some time) : indexerOf frame time = k := by
  obtain ⟨inside, isTime⟩ := List.getElem?_eq_some_iff.mp isRow
  have found : (times frame).idxOf? time = some k := by
    rw [List.idxOf?_eq_some_iff]
    refine ⟨inside, isTime, fun j earlier => ?_⟩
    have before := List.pairwise_iff_getElem.mp sorted j k (by omega) inside earlier
    omega
  rw [indexerOf, found]

theorem row_of_indexerOf (isRow : indexerOf frame time = k) : (times frame)[k]? = some time := by
  unfold indexerOf at isRow
  cases found : (times frame).idxOf? time with
  | none =>
      rw [found] at isRow
      change (-1 : Int) = k at isRow
      omega
  | some j =>
      rw [found] at isRow
      change (j : Int) = k at isRow
      obtain rfl : j = k := by omega
      obtain ⟨inside, isTime, _⟩ := List.idxOf?_eq_some_iff.mp found
      exact List.getElem?_eq_some_iff.mpr ⟨inside, by simpa using isTime⟩

theorem indexerOf_cases (frame : List (FrameBar F)) (time : Int) :
    indexerOf frame time = -1 ∨ ∃ k : Nat, indexerOf frame time = k := by
  unfold indexerOf
  cases (times frame).idxOf? time with
  | none => exact .inl rfl
  | some k => exact .inr ⟨k, rfl⟩

structure SharedBars (frame other : List (FrameBar F)) (cut : Nat) : Prop where
  sorted : (times frame).Pairwise (· < ·)
  sorted' : (times other).Pairwise (· < ·)
  shared : frame.take cut = other.take cut

namespace SharedBars
variable {cut : Nat} (bars : SharedBars frame other cut)
include bars

theorem swap : SharedBars other frame cut := ⟨bars.sorted', bars.sorted, bars.shared.symm⟩

theorem getElem? (early : k < cut) : frame[k]? = other[k]? := by
  rw [← List.getElem?_take_of_lt early, bars.shared, List.getElem?_take_of_lt early]

theorem time_getElem? (early : k < cut) : (times frame)[k]? = (times other)[k]? := by
  rw [times, times, List.getElem?_map, List.getElem?_map, bars.getElem? early]

theorem row_early {last : Nat} (inCut : last < cut) {lastTime : Int}
    (isLast : (times frame)[last]? = some lastTime) (early : time ≤ lastTime)
    (isRow : (times frame)[k]? = some time) : k < cut := by
  by_contra late
  obtain ⟨inside, rfl⟩ := List.getElem?_eq_some_iff.mp isRow
  obtain ⟨inside', rfl⟩ := List.getElem?_eq_some_iff.mp isLast
  have before := List.pairwise_iff_getElem.mp bars.sorted last k inside' inside (by omega)
  omega

theorem row_late {last : Nat} (isCut : last + 1 = cut) {lastTime : Int}
    (isLast : (times frame)[last]? = some lastTime) (late : lastTime < time)
    (isRow : (times frame)[k]? = some time) : cut ≤ k := by
  by_contra early
  obtain ⟨inside, rfl⟩ := List.getElem?_eq_some_iff.mp isRow
  obtain ⟨inside', rfl⟩ := List.getElem?_eq_some_iff.mp isLast
  rcases Nat.lt_or_eq_of_le (show k ≤ last by omega) with before | rfl
  · have earlier := List.pairwise_iff_getElem.mp bars.sorted k last inside inside' before
    omega
  · omega

theorem indexerOf_early {last : Nat} (inCut : last < cut) {lastTime : Int}
    (isLast : (times frame)[last]? = some lastTime) (early : time ≤ lastTime) :
    indexerOf frame time = indexerOf other time := by
  have isLast' : (times other)[last]? = some lastTime := by
    rw [← bars.time_getElem? inCut, isLast]
  rcases indexerOf_cases frame time with absent | ⟨k, isRow⟩
  · rcases indexerOf_cases other time with absent' | ⟨k, isRow'⟩
    · rw [absent, absent']
    · have found := row_of_indexerOf isRow'
      have inShared := bars.swap.row_early inCut isLast' early found
      rw [← bars.time_getElem? inShared] at found
      rw [indexerOf_of_row bars.sorted found, isRow']
  · have found := row_of_indexerOf isRow
    have inShared := bars.row_early inCut isLast early found
    rw [bars.time_getElem? inShared] at found
    rw [isRow, indexerOf_of_row bars.sorted' found]

end SharedBars

end Rows

/-! ## The sessions of a frame -/

section Days
variable [PyFloat F] (exchange : Exchange) (frame : List (FrameBar F)) (bar : Bar)

def isTraded (day : SessionDay) : Bool :=
  inSchedule exchange frame day && isRegular day && isFull frame (sessionRows frame bar day)

def tradedDays : List SessionDay := exchange.days.filter (isTraded exchange frame bar)

theorem tradedSessionPositions_eq : tradedSessionPositions exchange frame bar =
    (tradedDays exchange frame bar).map (sessionRows frame bar) := by
  unfold tradedSessionPositions tradedDays isTraded
  rw [List.filter_map, List.filter_filter, List.filter_filter]
  refine congrArg (List.map _) (List.filter_congr fun day _ => ?_)
  simp only [Function.comp]
  cases inSchedule exchange frame day <;> cases isRegular day <;> simp

def positionOf (rows : List (List Int)) (r c : Nat) : Int :=
  ((rows[c]?).bind fun session => session[r]?).getD 0

/-- What holds of an exchange calendar: its sessions stand one after the other, and each on its
own date in New York. -/
structure Exchange.Lawful (exchange : Exchange) : Prop where
  chronological : exchange.days.Pairwise fun day next =>
    day.date < next.date ∧ day.closes ≤ next.opens
  monotone : ∀ time later, time ≤ later → exchange.dateOf time ≤ exchange.dateOf later
  sameDay : ∀ day ∈ exchange.days, ∀ time, day.opens ≤ time → time < day.closes →
    exchange.dateOf time = day.date

end Days

theorem barTime_mono {bar : Bar} {day : SessionDay} {r r' : Nat} (before : r < r') :
    barTime bar day r < barTime bar day r' := by
  have step : 0 < barStep bar := by cases bar <;> decide
  unfold barTime
  have ordered : (r : Int) * barStep bar < r' * barStep bar :=
    Int.mul_lt_mul_of_pos_right (by exact_mod_cast before) step
  omega

theorem barTime_lt_closes {bar : Bar} {day : SessionDay} (regular : isRegular day = true) {r : Nat}
    (inBars : r < bar.barsPerSession) : barTime bar day r < day.closes := by
  have length : day.closes - day.opens = regularSession := by
    simp only [isRegular, Bool.and_eq_true, decide_eq_true_eq] at regular
    exact regular.1
  have whole : (bar.barsPerSession : Int) * barStep bar = regularSession := by
    cases bar <;> decide
  have step : 0 < barStep bar := by cases bar <;> decide
  have ordered : (r : Int) * barStep bar < bar.barsPerSession * barStep bar :=
    Int.mul_lt_mul_of_pos_right (by exact_mod_cast inBars) step
  unfold barTime
  omega

theorem opens_le_barTime {bar : Bar} {day : SessionDay} (r : Nat) : day.opens ≤ barTime bar day r := by
  have step : 0 ≤ barStep bar := by cases bar <;> decide
  have positive : 0 ≤ (r : Int) * barStep bar := Int.mul_nonneg (Int.natCast_nonneg _) step
  unfold barTime
  omega

section Positions
variable [PyFloat F] {exchange : Exchange} {frame : List (FrameBar F)} {bar : Bar} {r c : Nat}

theorem tradedDays_traded {day : SessionDay} (member : day ∈ tradedDays exchange frame bar) :
    inSchedule exchange frame day = true ∧ isRegular day = true ∧
      isFull frame (sessionRows frame bar day) = true := by
  have traded := (List.mem_filter.mp member).2
  simpa [isTraded, Bool.and_eq_true, and_assoc] using traded

/-- The row of a bar of a traded session holds the bar of its time. -/
theorem position_time (inSessions : c < (tradedDays exchange frame bar).length)
    (inBars : r < bar.barsPerSession) :
    ∃ k : Nat, positionOf (tradedSessionPositions exchange frame bar) r c = k ∧
      (times frame)[k]? = some (barTime bar (tradedDays exchange frame bar)[c] r) ∧
      ∃ found, frame[k]? = some found ∧ found.usable = true := by
  have member : (tradedDays exchange frame bar)[c] ∈ tradedDays exchange frame bar :=
    List.getElem_mem _
  obtain ⟨_, _, full⟩ := tradedDays_traded member
  have isPosition : positionOf (tradedSessionPositions exchange frame bar) r c =
      indexerOf frame (barTime bar (tradedDays exchange frame bar)[c] r) := by
    simp [positionOf, tradedSessionPositions_eq, sessionRows, inSessions, inBars]
  have inRows : indexerOf frame (barTime bar (tradedDays exchange frame bar)[c] r) ∈
      sessionRows frame bar (tradedDays exchange frame bar)[c] :=
    List.mem_map.mpr ⟨r, List.mem_range.mpr inBars, rfl⟩
  simp only [isFull, Bool.and_eq_true, List.all_eq_true, decide_eq_true_eq] at full
  have present := full.1 _ inRows
  have usable := full.2 _ inRows
  rcases indexerOf_cases frame (barTime bar (tradedDays exchange frame bar)[c] r) with absent | row
  · rw [absent] at present
    exact absurd present (by decide)
  · obtain ⟨k, isRow⟩ := row
    rw [isRow] at usable isPosition
    refine ⟨k, isPosition, row_of_indexerOf isRow, ?_⟩
    cases found : frame[k]? with
    | none => simp [found] at usable
    | some bar => exact ⟨bar, rfl, by simpa [found] using usable⟩

theorem barTime_distinct (lawful : exchange.Lawful) {r' c' : Nat}
    (inSessions : c < (tradedDays exchange frame bar).length)
    (inSessions' : c' < (tradedDays exchange frame bar).length) (inBars : r < bar.barsPerSession)
    (inBars' : r' < bar.barsPerSession)
    (same : barTime bar (tradedDays exchange frame bar)[c] r =
      barTime bar (tradedDays exchange frame bar)[c'] r') : r = r' ∧ c = c' := by
  have ordered : (tradedDays exchange frame bar).Pairwise fun day next =>
      day.date < next.date ∧ day.closes ≤ next.opens := lawful.chronological.filter _
  have apart : ∀ {c c' : Nat} (inSessions : c < (tradedDays exchange frame bar).length)
      (inSessions' : c' < (tradedDays exchange frame bar).length) {r r' : Nat},
      r < bar.barsPerSession → c < c' →
      barTime bar (tradedDays exchange frame bar)[c] r <
        barTime bar (tradedDays exchange frame bar)[c'] r' := by
    intro c c' inSessions inSessions' r r' inBars before
    have between := (List.pairwise_iff_getElem.mp ordered c c' inSessions inSessions' before).2
    have closed := barTime_lt_closes (tradedDays_traded (List.getElem_mem inSessions)).2.1 inBars
    exact closed.trans_le (between.trans (opens_le_barTime r'))
  rcases Nat.lt_trichotomy c c' with before | rfl | after
  · exact absurd same (apart inSessions inSessions' inBars before).ne
  · refine ⟨?_, rfl⟩
    rcases Nat.lt_trichotomy r r' with before | rfl | after
    · exact absurd same (barTime_mono before).ne
    · rfl
    · exact absurd same (barTime_mono after).ne'
  · exact absurd same (apart inSessions' inSessions inBars' after).ne'

/-- The sessions stand on the index of their frame, each bar on a row of its own. -/
theorem traded_placed (lawful : exchange.Lawful) :
    Placed bar.barsPerSession (tradedDays exchange frame bar).length frame.length
      (positionOf (tradedSessionPositions exchange frame bar)) where
  inside r c inBars inSessions := by
    obtain ⟨k, isRow, _, found, isFound, _⟩ := position_time inSessions inBars
    have inFrame := (List.getElem?_eq_some_iff.mp isFound).1
    omega
  distinct r c r' c' inBars inSessions inBars' inSessions' same := by
    obtain ⟨k, isRow, isTime, _⟩ := position_time inSessions inBars
    obtain ⟨k', isRow', isTime', _⟩ := position_time inSessions' inBars'
    obtain rfl : k = k' := by omega
    rw [isTime] at isTime'
    exact barTime_distinct lawful inSessions inSessions' inBars inBars' (Option.some.inj isTime')

end Positions

/-! ## Two frames with the same first sessions -/

/-- Two frames share their bars up to the last bar of a full session. -/
structure SharedSessions [PyFloat F] (exchange : Exchange) (frame other : List (FrameBar F)) (bar : Bar)
    (cut : Nat) (day : SessionDay) : Prop where
  lawful : exchange.Lawful
  bars : SharedBars frame other cut
  traded : day ∈ tradedDays exchange frame bar
  closing : 0 < cut ∧ (times frame)[cut - 1]? = some (barTime bar day (bar.barsPerSession - 1))

namespace SharedSessions
variable [PyFloat F] {exchange : Exchange} {frame other : List (FrameBar F)} {bar : Bar} {cut : Nat}
  {day : SessionDay} (shared : SharedSessions exchange frame other bar cut day)
include shared

theorem inDays : day ∈ exchange.days := (List.mem_filter.mp shared.traded).1

theorem closing' : (times other)[cut - 1]? = some (barTime bar day (bar.barsPerSession - 1)) := by
  rw [← shared.bars.time_getElem? (by have := shared.closing.1; omega), shared.closing.2]

theorem regular : isRegular day = true := (tradedDays_traded shared.traded).2.1

theorem last_lt : bar.barsPerSession - 1 < bar.barsPerSession := by cases bar <;> decide

theorem barTime_le {earlier : SessionDay} (isEarlier : earlier = day ∨ earlier.closes ≤ day.opens)
    (regular : isRegular earlier = true) {r : Nat} (inBars : r < bar.barsPerSession) :
    barTime bar earlier r ≤ barTime bar day (bar.barsPerSession - 1) := by
  rcases isEarlier with rfl | before
  · rcases Nat.lt_or_eq_of_le (show r ≤ bar.barsPerSession - 1 by omega) with less | rfl
    · exact (barTime_mono less).le
    · exact le_refl _
  · exact (barTime_lt_closes regular inBars).le.trans (before.trans (opens_le_barTime _))

theorem date_le_last {ts : List Int} (sorted : ts.Pairwise (· < ·))
    (isClosing : ts[cut - 1]? = some (barTime bar day (bar.barsPerSession - 1))) {last : Int}
    (isLast : ts.getLast? = some last) : day.date ≤ exchange.dateOf last := by
  have sameDay := shared.lawful.sameDay day shared.inDays (barTime bar day (bar.barsPerSession - 1))
    (opens_le_barTime _) (barTime_lt_closes shared.regular shared.last_lt)
  rw [← sameDay]
  exact shared.lawful.monotone _ _
    ((getLast?_sorted_iff sorted).mp isLast |>.2 _ (List.mem_of_getElem? isClosing))

theorem inSchedule_eq {earlier : SessionDay} (early : earlier.date ≤ day.date) :
    inSchedule exchange frame earlier = inSchedule exchange other earlier := by
  have heads : (times frame).head? = (times other).head? := by
    rw [List.head?_eq_getElem?, List.head?_eq_getElem?, shared.bars.time_getElem? shared.closing.1]
  have some_last : ∀ {ts : List Int}, ts[cut - 1]? =
      some (barTime bar day (bar.barsPerSession - 1)) → ∃ last, ts.getLast? = some last := by
    intro ts isClosing
    have filled : ts ≠ [] := List.ne_nil_of_mem (List.mem_of_getElem? isClosing)
    exact ⟨_, List.getLast?_eq_some_getLast filled⟩
  obtain ⟨last, isLast⟩ := some_last shared.closing.2
  obtain ⟨last', isLast'⟩ := some_last shared.closing'
  have inFrame := early.trans (shared.date_le_last shared.bars.sorted shared.closing.2 isLast)
  have inOther := early.trans (shared.date_le_last shared.bars.sorted' shared.closing' isLast')
  unfold inSchedule
  rw [heads, isLast, isLast']
  cases (times other).head? with
  | none => rfl
  | some first => simp [inFrame, inOther]

theorem sessionRows_eq {earlier : SessionDay} (isEarlier : earlier = day ∨ earlier.closes ≤ day.opens)
    (regular : isRegular earlier = true) :
    sessionRows frame bar earlier = sessionRows other bar earlier := by
  refine List.map_congr_left fun r member => ?_
  exact shared.bars.indexerOf_early (by have := shared.closing.1; omega) shared.closing.2
    (shared.barTime_le isEarlier regular (List.mem_range.mp member))

theorem isFull_eq {earlier : SessionDay} (isEarlier : earlier = day ∨ earlier.closes ≤ day.opens)
    (regular : isRegular earlier = true) :
    isFull frame (sessionRows frame bar earlier) = isFull other (sessionRows other bar earlier) := by
  rw [← shared.sessionRows_eq isEarlier regular]
  unfold isFull
  rw [Bool.eq_iff_iff, Bool.and_eq_true, Bool.and_eq_true, List.all_eq_true, List.all_eq_true,
    List.all_eq_true]
  refine and_congr_right fun _ => forall₂_congr fun k member => ?_
  obtain ⟨r, inBars, rfl⟩ := List.mem_map.mp member
  have early : (indexerOf frame (barTime bar earlier r)).toNat < cut := by
    rcases indexerOf_cases frame (barTime bar earlier r) with absent | row
    · rw [absent]
      exact shared.closing.1
    · obtain ⟨k, isRow⟩ := row
      rw [isRow]
      exact shared.bars.row_early (by have := shared.closing.1; omega) shared.closing.2
        (shared.barTime_le isEarlier regular (List.mem_range.mp inBars)) (row_of_indexerOf isRow)
  rw [shared.bars.getElem? early]

theorem isTraded_eq {earlier : SessionDay}
    (isEarlier : earlier = day ∨ earlier.date ≤ day.date ∧ earlier.closes ≤ day.opens) :
    isTraded exchange frame bar earlier = isTraded exchange other bar earlier := by
  have early : earlier.date ≤ day.date := by
    rcases isEarlier with rfl | before
    · exact le_refl _
    · exact before.1
  unfold isTraded
  rw [shared.inSchedule_eq early]
  cases regular : isRegular earlier with
  | false => simp
  | true => rw [shared.isFull_eq (isEarlier.imp_right And.right) regular]

/-- The sessions of both frames: shared ones, and then ones after the shared bars. -/
theorem days : ∃ known later later', tradedDays exchange frame bar = known ++ later ∧
    tradedDays exchange other bar = known ++ later' ∧ 0 < known.length ∧
    (∀ shown ∈ known, isRegular shown = true ∧ (shown = day ∨ shown.closes ≤ day.opens)) ∧
    (∀ shown ∈ later ++ later', day.closes ≤ shown.opens) := by
  obtain ⟨before, after, isDays⟩ := List.append_of_mem shared.inDays
  have chronological := shared.lawful.chronological
  rw [isDays, List.pairwise_append] at chronological
  obtain ⟨_, fromDay, across⟩ := chronological
  have here : isTraded exchange frame bar day = true := (List.mem_filter.mp shared.traded).2
  have here' : isTraded exchange other bar day = true := by
    rw [← shared.isTraded_eq (.inl rfl), here]
  have same : before.filter (isTraded exchange frame bar) =
      before.filter (isTraded exchange other bar) := by
    refine List.filter_congr fun shown member => ?_
    have ordered := across shown member day List.mem_cons_self
    exact shared.isTraded_eq (.inr ⟨ordered.1.le, ordered.2⟩)
  refine ⟨before.filter (isTraded exchange frame bar) ++ [day],
    after.filter (isTraded exchange frame bar), after.filter (isTraded exchange other bar),
    ?_, ?_, by simp, fun shown member => ?_, fun shown member => ?_⟩
  · rw [tradedDays, isDays, List.filter_append, List.filter_cons, if_pos here, List.append_assoc,
      List.singleton_append]
  · rw [tradedDays, isDays, List.filter_append, List.filter_cons, if_pos here', same,
      List.append_assoc, List.singleton_append]
  · rcases List.mem_append.mp member with inBefore | isDay
    · obtain ⟨listed, traded⟩ := List.mem_filter.mp inBefore
      have regular : isRegular shown = true := by
        simp only [isTraded, Bool.and_eq_true] at traded
        exact traded.1.2
      exact ⟨regular, .inr (across shown listed day List.mem_cons_self).2⟩
    · obtain rfl := List.mem_singleton.mp isDay
      exact ⟨shared.regular, .inl rfl⟩
  · have inAfter : shown ∈ after := by
      rcases List.mem_append.mp member with first | second
      · exact (List.mem_filter.mp first).1
      · exact (List.mem_filter.mp second).1
    exact ((List.pairwise_cons.mp fromDay).1 shown inAfter).2

end SharedSessions

end QuantFactory.RuleStrategy
