import QuantFactory.RuleStrategy.CompiledSignals
import QuantFactory.RuleStrategy.Frames

/-!
# Signals of two frames

Frames that agree up to the close of a full session have the same signals up to there.
-/

set_option autoImplicit false

namespace QuantFactory.RuleStrategy

open QuantFactory.Library QuantFactory.Python QuantFactory.RuleLanguage

variable {F : Type} [PyFloat F]

/-! ## Prepared sessions -/

section Prepared
variable (numerics : Numerics F) (exchange : Exchange) (frame : List (FrameBar F)) (bar : Bar)

def sessionValue (field : FrameBar F → F) (r c : Nat) : F :=
  (frame[(positionOf (tradedSessionPositions exchange frame bar) r c).toNat]?.map field).getD
    numerics.nan

def sessionField (field : FrameBar F → F) : NdArray F :=
  ⟨bar.barsPerSession, (tradedDays exchange frame bar).length,
    .floats (sessionValue numerics exchange frame bar field)⟩

/-- `prepare_sessions`, of a frame that has sessions. -/
def preparedSessions (tickSize : F) : PreparedSessions (NdArray F) F where
  length := frame.length
  positions := ⟨bar.barsPerSession, (tradedDays exchange frame bar).length,
    .ints (positionOf (tradedSessionPositions exchange frame bar))⟩
  bars :=
    { shape := ⟨bar.barsPerSession, (tradedDays exchange frame bar).length⟩
      open_ := sessionField numerics exchange frame bar FrameBar.open_
      high := sessionField numerics exchange frame bar FrameBar.high
      low := sessionField numerics exchange frame bar FrameBar.low
      close := sessionField numerics exchange frame bar FrameBar.close
      volume := sessionField numerics exchange frame bar FrameBar.volume
      tickSize := tickSize
      bar := bar
      parameters := [] }

omit [PyFloat F] in
/-- `skipped_sessions`, by the New York date of a row. -/
def skipDates : SkipDates := fun calendars k =>
  match (times frame)[k.toNat]? with
  | some time => exchange.skips calendars (exchange.dateOf time)
  | none => false

def frameLayout (lawful : exchange.Lawful) : Layout where
  bars := bar.barsPerSession
  sessions := (tradedDays exchange frame bar).length
  length := frame.length
  position := positionOf (tradedSessionPositions exchange frame bar)
  someBars := barsPerSession_pos bar
  placed := traded_placed lawful

end Prepared

/-! ## What two frames share -/

section Shared
variable {numerics : Numerics F} {exchange : Exchange} {frame other : List (FrameBar F)} {bar : Bar}
  {cut : Nat} {day : SessionDay} {moment : Moment}

variable (exchange) (frame) (other) (bar) (cut) (moment) in
/-- The known bars of a moment stand on the same shared rows of two frames, and all others stand
behind the shared rows. -/
structure SharedUpTo : Prop where
  bars : moment.bars = bar.barsPerSession
  sessions : moment.sessions = (tradedDays exchange frame bar).length
  others : moment.others = (tradedDays exchange other bar).length
  whole : moment.row = 0
  early : ∀ r c, moment.Known r c → ∃ k : Nat, k < cut ∧
    positionOf (tradedSessionPositions exchange frame bar) r c = k ∧
    positionOf (tradedSessionPositions exchange other bar) r c = k
  late : ∀ r c, r < moment.bars → c < moment.sessions → moment.session ≤ c →
    (cut : Int) ≤ positionOf (tradedSessionPositions exchange frame bar) r c
  late' : ∀ r c, r < moment.bars → c < moment.others → moment.session ≤ c →
    (cut : Int) ≤ positionOf (tradedSessionPositions exchange other bar) r c

theorem SharedSessions.late_row (shared : SharedSessions exchange frame other bar cut day)
    {r c : Nat} (inBars : r < bar.barsPerSession) (inSessions : c < (tradedDays exchange frame bar).length)
    (after : day.closes ≤ (tradedDays exchange frame bar)[c].opens) :
    (cut : Int) ≤ positionOf (tradedSessionPositions exchange frame bar) r c := by
  obtain ⟨k, isRow, isTime, _⟩ := position_time inSessions inBars
  have closed := barTime_lt_closes shared.regular shared.last_lt
  have behind := shared.bars.row_late (by have := shared.closing.1; omega) shared.closing.2
    (closed.trans_le (after.trans (opens_le_barTime r))) isTime
  rw [isRow]
  exact_mod_cast behind

theorem SharedSessions.upTo (shared : SharedSessions exchange frame other bar cut day) :
    ∃ moment, SharedUpTo exchange frame other bar cut moment := by
  obtain ⟨known, later, later', isDays, isDays', _, early, late⟩ := shared.days
  have swapped : ∀ {r c : Nat}, r < bar.barsPerSession →
      ∀ inSessions : c < (tradedDays exchange other bar).length,
      day.closes ≤ (tradedDays exchange other bar)[c].opens →
      (cut : Int) ≤ positionOf (tradedSessionPositions exchange other bar) r c := by
    intro r c inBars inSessions after
    obtain ⟨k, isRow, isTime, _⟩ := position_time inSessions inBars
    have closed := barTime_lt_closes shared.regular shared.last_lt
    have behind := shared.bars.swap.row_late (by have := shared.closing.1; omega) shared.closing'
      (closed.trans_le (after.trans (opens_le_barTime r))) isTime
    rw [isRow]
    exact_mod_cast behind
  refine ⟨{ bars := bar.barsPerSession, sessions := (tradedDays exchange frame bar).length,
            others := (tradedDays exchange other bar).length, session := known.length, row := 0,
            someBars := barsPerSession_pos bar, inBars := Nat.zero_le _,
            inSessions := by rw [isDays, List.length_append]; omega,
            inOthers := by rw [isDays', List.length_append]; omega, here := .inl rfl },
    rfl, rfl, rfl, rfl, ?_, ?_, ?_⟩
  · rintro r c ⟨inBars, before | ⟨_, before⟩⟩
    · change r < bar.barsPerSession at inBars
      change c < known.length at before
      have inSessions : c < (tradedDays exchange frame bar).length := by
        rw [isDays, List.length_append]
        omega
      have inOthers : c < (tradedDays exchange other bar).length := by
        rw [isDays', List.length_append]
        omega
      have isDay : (tradedDays exchange frame bar)[c] = known[c] := by
        rw [List.getElem_of_eq isDays, List.getElem_append_left before]
      have isDay' : (tradedDays exchange other bar)[c] = known[c] := by
        rw [List.getElem_of_eq isDays', List.getElem_append_left before]
      obtain ⟨k, isRow, isTime, _⟩ := position_time inSessions inBars
      obtain ⟨k', isRow', isTime', _⟩ := position_time inOthers inBars
      rw [isDay] at isTime
      rw [isDay'] at isTime'
      obtain ⟨regular, isEarlier⟩ := early _ (List.getElem_mem before)
      have inCut := shared.bars.row_early (by have := shared.closing.1; omega) shared.closing.2
        (shared.barTime_le isEarlier regular inBars) isTime
      rw [shared.bars.time_getElem? inCut] at isTime
      have same : k = k' := by
        have first := indexerOf_of_row shared.bars.sorted' isTime
        have second := indexerOf_of_row shared.bars.sorted' isTime'
        omega
      exact ⟨k, inCut, isRow, same ▸ isRow'⟩
    · exact absurd before (Nat.not_lt_zero _)
  · intro r c inBars inSessions behind
    change known.length ≤ c at behind
    refine shared.late_row inBars inSessions (late _ (List.mem_append_left _ ?_))
    rw [List.getElem_of_eq isDays, List.getElem_append_right behind]
    exact List.getElem_mem _
  · intro r c inBars inSessions behind
    change known.length ≤ c at behind
    refine swapped inBars inSessions (late _ (List.mem_append_right _ ?_))
    rw [List.getElem_of_eq isDays', List.getElem_append_right behind]
    exact List.getElem_mem _

namespace SharedUpTo
variable (upTo : SharedUpTo exchange frame other bar cut moment)
include upTo

theorem session_of_known {r c : Nat} (known : moment.Known r c) : c < moment.session := by
  rcases known.2 with before | ⟨_, before⟩
  · exact before
  · rw [upTo.whole] at before
    exact absurd before (Nat.not_lt_zero _)

theorem known_of_row (lawful : exchange.Lawful) {r c k : Nat} (early : k < cut)
    (inBars : r < (frameLayout exchange frame bar lawful).bars)
    (inColumns : c < (frameLayout exchange frame bar lawful).sessions)
    (isRow : (frameLayout exchange frame bar lawful).position r c = k) : moment.Known r c := by
  have inBars' : r < moment.bars := upTo.bars ▸ inBars
  refine ⟨inBars', .inl ?_⟩
  by_contra behind
  have late := upTo.late r c inBars' (upTo.sessions ▸ inColumns) (not_lt.mp behind)
  change positionOf (tradedSessionPositions exchange frame bar) r c = k at isRow
  omega

theorem known_of_row' (lawful : exchange.Lawful) {r c k : Nat} (early : k < cut)
    (inBars : r < (frameLayout exchange other bar lawful).bars)
    (inColumns : c < (frameLayout exchange other bar lawful).sessions)
    (isRow : (frameLayout exchange other bar lawful).position r c = k) : moment.Known r c := by
  have inBars' : r < moment.bars := upTo.bars ▸ inBars
  refine ⟨inBars', .inl ?_⟩
  by_contra behind
  have late := upTo.late' r c inBars' (upTo.others ▸ inColumns) (not_lt.mp behind)
  change positionOf (tradedSessionPositions exchange other bar) r c = k at isRow
  omega

/-- A shared row is written from the same place, where the masks agree on the known bars. -/
theorem lookup_eq (lawful : exchange.Lawful) {hit hit' : Nat → Nat → Bool}
    (same : ∀ r c, moment.Known r c → hit r c = hit' r c) {k : Nat} (early : k < cut) :
    (placed (frameLayout exchange frame bar lawful).bars (frameLayout exchange frame bar lawful).sessions
        (frameLayout exchange frame bar lawful).position hit).lookup k =
      (placed (frameLayout exchange other bar lawful).bars (frameLayout exchange other bar lawful).sessions
        (frameLayout exchange other bar lawful).position hit').lookup k := by
  have inSessions := moment.inSessions
  have inOthers := moment.inOthers
  rw [upTo.sessions] at inSessions
  rw [upTo.others] at inOthers
  refine Option.ext fun place => ?_
  rw [lookup_placed (frameLayout exchange frame bar lawful).placed,
    lookup_placed (frameLayout exchange other bar lawful).placed]
  constructor
  · rintro ⟨inBars, inColumns, isHit, isRow⟩
    have known := upTo.known_of_row lawful early inBars inColumns isRow
    obtain ⟨j, _, isJ, isJ'⟩ := upTo.early _ _ known
    have isKey : (j : Int) = k := isJ.symm.trans isRow
    exact ⟨inBars, (upTo.session_of_known known).trans_le inOthers, same _ _ known ▸ isHit,
      isJ'.trans isKey⟩
  · rintro ⟨inBars, inColumns, isHit, isRow⟩
    have known := upTo.known_of_row' lawful early inBars inColumns isRow
    obtain ⟨j, _, isJ, isJ'⟩ := upTo.early _ _ known
    have isKey : (j : Int) = k := isJ'.symm.trans isRow
    exact ⟨inBars, (upTo.session_of_known known).trans_le inSessions, (same _ _ known).symm ▸ isHit,
      isJ.trans isKey⟩

theorem field_alike (bars : SharedBars frame other cut) (field : FrameBar F → F) :
    moment.grid.Floats (sessionField numerics exchange frame bar field)
      (sessionField numerics exchange other bar field) := by
  refine ⟨sessionValue numerics exchange frame bar field,
    sessionValue numerics exchange other bar field, ?_, ?_, fun r c known => ?_⟩
  · rw [sessionField, ← upTo.bars, ← upTo.sessions]
    rfl
  · rw [sessionField, ← upTo.bars, ← upTo.others]
    rfl
  · obtain ⟨k, inCut, isRow, isRow'⟩ := upTo.early r c known
    simp only [sessionValue, isRow, isRow', Int.toNat_natCast, bars.getElem? inCut]

theorem skipped_eq (bars : SharedBars frame other cut) (spec : SpecEntries F) {r c : Nat}
    (known : moment.Known r c) :
    isSkipped spec (skipDates exchange frame)
        (positionOf (tradedSessionPositions exchange frame bar)) c =
      isSkipped spec (skipDates exchange other)
        (positionOf (tradedSessionPositions exchange other bar)) c := by
  have first : moment.Known 0 c := ⟨moment.someBars, .inl (upTo.session_of_known known)⟩
  obtain ⟨k, inCut, isRow, isRow'⟩ := upTo.early 0 c first
  simp only [isSkipped, skipDates, isRow, isRow', Int.toNat_natCast, bars.time_getElem? inCut]

end SharedUpTo

/-! ## Signals -/

def FractionsAlike (moment : Moment) (fractions others : List (String × (Nat → Nat → F))) : Prop :=
  List.Forall₂ (fun one other => one.1 = other.1 ∧
    ∀ r c, moment.Known r c → one.2 r c = other.2 r c) fractions others

section Fractions
variable {fractions others : List (String × (Nat → Nat → F))}
  (alike : FractionsAlike moment fractions others) {r c : Nat} (known : moment.Known r c)
include alike known

theorem FractionsAlike.validAt : validAt (fractions.map Prod.snd) r c =
    RuleStrategy.validAt (others.map Prod.snd) r c := by
  induction alike with
  | nil => rfl
  | cons first _ ih =>
      simp only [RuleStrategy.validAt, List.map_cons, List.all_cons, first.2 r c known] at ih ⊢
      rw [ih]

omit [PyFloat F] in
theorem FractionsAlike.fractionOf (key : String) : fractionOf fractions numerics key r c =
    RuleStrategy.fractionOf others numerics key r c := by
  induction alike with
  | nil => rfl
  | @cons one other fractions others first _ ih =>
      obtain ⟨name, value⟩ := one
      obtain ⟨name', value'⟩ := other
      obtain ⟨rfl, same⟩ := first
      simp only [RuleStrategy.fractionOf, List.lookup_cons] at ih ⊢
      cases key == name with
      | true => exact same r c known
      | false => exact ih

end Fractions

/-- Two signals are the same on the first bars of their frames. -/
structure AgreeBefore (numerics : Numerics F) (cut : Nat) (signals others : BatchSignals (NdArray F)) :
    Prop where
  entry : ∀ k < cut, signals.entry.marks k = others.entry.marks k
  exit : ∀ k < cut, signals.exit.marks k = others.exit.marks k
  shortEntry : ∀ k < cut, signals.shortEntry.marks k = others.shortEntry.marks k
  shortExit : ∀ k < cut, signals.shortExit.marks k = others.shortExit.marks k
  levels : List.Forall₂ (fun one other => one.1 = other.1 ∧
    ∀ k < cut, one.2.level numerics k = other.2.level numerics k) signals.levels others.levels
  timeStop : ∃ hold length length', signals.timeStop = ⟨length, 1, .ints fun _ _ => hold⟩ ∧
    others.timeStop = ⟨length', 1, .ints fun _ _ => hold⟩

section Agreement
variable (upTo : SharedUpTo exchange frame other bar cut moment) (lawful : exchange.Lawful)
include upTo

theorem SharedUpTo.flags_eq {hit hit' : Nat → Nat → Bool}
    (same : ∀ r c, moment.Known r c → hit r c = hit' r c) {k : Nat} (early : k < cut) :
    flagsOf (frameLayout exchange frame bar lawful).bars (frameLayout exchange frame bar lawful).sessions
        (frameLayout exchange frame bar lawful).position hit k =
      flagsOf (frameLayout exchange other bar lawful).bars
        (frameLayout exchange other bar lawful).sessions
        (frameLayout exchange other bar lawful).position hit' k := by
  rw [flagsOf, flagsOf, upTo.lookup_eq lawful same early]

theorem SharedUpTo.levels_eq {hit hit' : Nat → Nat → Bool} {values values' : Nat → Nat → F}
    (same : ∀ r c, moment.Known r c → hit r c = hit' r c)
    (sameValues : ∀ r c, moment.Known r c → values r c = values' r c) {k : Nat} (early : k < cut) :
    levelsOf numerics (frameLayout exchange frame bar lawful).bars
        (frameLayout exchange frame bar lawful).sessions
        (frameLayout exchange frame bar lawful).position hit values k =
      levelsOf numerics (frameLayout exchange other bar lawful).bars
        (frameLayout exchange other bar lawful).sessions
        (frameLayout exchange other bar lawful).position hit' values' k := by
  rw [levelsOf, levelsOf, upTo.lookup_eq lawful same early]
  cases found : (placed (frameLayout exchange other bar lawful).bars
    (frameLayout exchange other bar lawful).sessions
    (frameLayout exchange other bar lawful).position hit').lookup k with
  | none => rfl
  | some place =>
      obtain ⟨inBars, inColumns, _, isRow⟩ :=
        (lookup_placed (frameLayout exchange other bar lawful).placed).mp found
      have known := upTo.known_of_row' lawful early inBars inColumns isRow
      simp only [Option.map_some, Option.getD_some, sameValues _ _ known]

variable {spec : SpecEntries F} {parts parts' : SettingParts F}
  {signals others : BatchSignals (NdArray F)}

theorem SharedUpTo.first_eq (bars : SharedBars frame other cut) (parts_alike : PartsAlike moment parts parts')
    {r c : Nat} (known : moment.Known r c) :
    firstAt spec (skipDates exchange frame) (frameLayout exchange frame bar lawful).position
        parts.sides parts.fractions r c =
      firstAt spec (skipDates exchange other) (frameLayout exchange other bar lawful).position
        parts'.sides parts'.fractions r c := by
  have sameDays := upTo.skipped_eq bars spec known
  have sameStops := FractionsAlike.validAt parts_alike.fractions known
  simp only [firstAt, allowedAt, parts_alike.sides r c known]
  rw [sameStops]
  exact congrArg (fun skipped => (inEntryWindow spec r &&
    !PyFloat.eq (parts'.sides r c) (PyFloat.literal 0) && !skipped) && _) sameDays

/-- What is written from parts that agree on the known bars agrees on the shared rows. -/
theorem SharedUpTo.agree (bars : SharedBars frame other cut) (alike : PartsAlike moment parts parts')
    (written : Written numerics (skipDates exchange frame) (frameLayout exchange frame bar lawful) spec
      parts signals)
    (written' : Written numerics (skipDates exchange other) (frameLayout exchange other bar lawful)
      spec parts' others) : AgreeBefore numerics cut signals others where
  entry k early := by
    rw [written.entry, written'.entry, flagArray_marks, flagArray_marks]
    refine upTo.flags_eq lawful (fun r c known => ?_) early
    rw [entryAt, entryAt, upTo.first_eq lawful bars alike known, isLong, isLong,
      alike.sides r c known]
  exit k early := by
    rw [written.exit, written'.exit, flagArray_marks, flagArray_marks]
    refine upTo.flags_eq lawful (fun r c known => ?_) early
    rw [leavesAt, leavesAt, alike.longLeave r c known, isShort, isShort, alike.sides r c known]
  shortEntry k early := by
    rw [written.shortEntry, written'.shortEntry, flagArray_marks, flagArray_marks]
    refine upTo.flags_eq lawful (fun r c known => ?_) early
    rw [shortEntryAt, shortEntryAt, upTo.first_eq lawful bars alike known, isShort, isShort,
      alike.sides r c known]
  shortExit k early := by
    rw [written.shortExit, written'.shortExit, flagArray_marks, flagArray_marks]
    refine upTo.flags_eq lawful (fun r c known => ?_) early
    rw [leavesAt, leavesAt, alike.shortLeave r c known, isLong, isLong, alike.sides r c known]
  levels := by
    rw [written.levels, written'.levels, List.forall₂_map_left_iff, List.forall₂_map_right_iff]
    refine List.forall₂_same.mpr fun key _ => ⟨rfl, fun k early => ?_⟩
    rw [levelArray_level, levelArray_level]
    exact upTo.levels_eq lawful (fun r c known => upTo.first_eq lawful bars alike known)
      (fun r c known => FractionsAlike.fractionOf alike.fractions known key) early
  timeStop := ⟨parts.hold, _, _, written.timeStop, alike.hold ▸ written'.timeStop⟩

end Agreement

end Shared

end QuantFactory.RuleStrategy
