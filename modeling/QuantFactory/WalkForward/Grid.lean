import QuantFactory.Python.Text
import QuantFactory.WalkForward.Splitter

/-!
# Exchange-session grids

`SessionGrid` of `backtesting/walk_forward/sessions.py` and the tolerance and
boundary checks built on it.  What pandas and the exchange calendars compute is
a `TimeLibrary`: texts of timestamps, their parsing, interval lengths and the
sessions of a calendar.
-/

set_option autoImplicit false

namespace QuantFactory.WalkForward

open QuantFactory.Library QuantFactory.Python

structure CalendarSession where
  date : Int
  marketOpen : Int
  marketClose : Int
  deriving DecidableEq, Repr

def nanosPerDay : Int := 86400000000000

def utcDay (time : Int) : Int := time / nanosPerDay

/-- All sessions of an exchange calendar, in order, each dated within a week of its open. -/
structure MarketCalendar where
  sessions : List CalendarSession
  ordered : sessions.Pairwise fun a b => a.marketOpen < b.marketOpen
  near : ∀ session ∈ sessions,
    session.date - 7 ≤ utcDay session.marketOpen ∧ utcDay session.marketOpen ≤ session.date + 7

def MarketCalendar.schedule (calendar : MarketCalendar) (startDate endDate : Int) :
    List CalendarSession :=
  calendar.sessions.filter fun session => startDate ≤ session.date ∧ session.date ≤ endDate

structure TimeLibrary where
  isoformat : Int → String
  /-- `Index.normalize`, as a day number. -/
  localDay : Int → Int
  /-- `str(value.date())`. -/
  dateText : Int → String
  /-- `pd.Timestamp(text)`, in UTC. -/
  parse : String → Option Int
  /-- `mcal.get_calendar(name)`. -/
  calendar : String → Option MarketCalendar
  /-- `pd.Timedelta(text)`, in nanoseconds. -/
  timedelta : String → Option Int
  isoformat_text : ∀ time, isBlank (isoformat time) = false
  dateText_text : ∀ time, isBlank (dateText time) = false

def boundaryLabel (library : TimeLibrary) (aligned : Bool) (time : Int) : String :=
  if aligned then library.isoformat time else library.dateText time

theorem boundaryLabel_text (library : TimeLibrary) (aligned : Bool) (time : Int) :
    isBlank (boundaryLabel library aligned time) = false := by
  cases aligned with
  | true => exact library.isoformat_text time
  | false => exact library.dateText_text time

structure SessionGrid where
  opens : List Int
  maxSessionRows : Nat
  deriving DecidableEq, Repr

/-- `opens.to_series().diff()` without its first, undefined entry. -/
def diffs : List Int → List Int
  | first :: second :: rest => (second - first) :: diffs (second :: rest)
  | _ => []

def longestSpan (schedule : List CalendarSession) : Int :=
  max ((diffs (schedule.map (·.marketOpen))).foldr max 0)
    ((schedule.map fun session => session.marketClose - session.marketOpen).foldr max 0)

def ceilDiv (a b : Int) : Int := -((-a) / b)

def sessionGrid (library : TimeLibrary) (alignment : SessionAlignment) (first last : Int) :
    Except WindowError SessionGrid := do
  let calendar ← orRaise (library.calendar alignment.exchangeCalendar)
    ⟨.runtimeError, s!"unknown calendar {alignment.exchangeCalendar}"⟩
  let schedule := calendar.schedule (utcDay first - 7) (utcDay last + 7)
  raiseIf schedule.isEmpty
    (windowError "exchange calendar produced no sessions for walk-forward windows")
  let interval ← orRaise (library.timedelta alignment.interval)
    (windowError s!"invalid interval {alignment.interval}")
  raiseIf (interval = 0) ⟨.zeroDivision, "division by zero"⟩
  .ok {
    opens := schedule.map (·.marketOpen)
    maxSessionRows := (max 1 (ceilDiv (longestSpan schedule) interval)).toNat }

/-- `session_of`, on one timestamp. -/
def SessionGrid.sessionOf (grid : SessionGrid) (time : Int) : Int :=
  (searchSortedRight grid.opens time : Int) - 1

/-- Exact rows for daily data; less than one session more when session-aligned. -/
def sizeWithin (actual declared : Nat) (grid : Option SessionGrid) (openEnded : Bool) : Bool :=
  match grid with
  | none => actual = declared
  | some grid => declared ≤ actual && (openEnded || actual < declared + grid.maxSessionRows)

/-! ## Bounds of a partition -/

/-- A partition is bounded by its first and last bar, or by its labels when it has no bars. -/
inductive Bound where
  | bar (time : Int)
  | label (text : String)
  deriving DecidableEq, Repr

def mixedBounds : WindowError := ⟨.typeError, "'<' not supported between bars and labels"⟩

def Bound.lt : Bound → Bound → Except WindowError Bool
  | .bar a, .bar b => .ok (a < b)
  | .label a, .label b => .ok (a < b)
  | _, _ => .error mixedBounds

def Bound.time (library : TimeLibrary) : Bound → Except WindowError Int
  | .bar time => .ok time
  | .label text => orRaise (library.parse text) (windowError s!"unknown datetime string {text}")

def partitionBounds (part : DataPartition) : Bound × Bound :=
  match part.index.head?, part.index.getLast? with
  | some first, some last => (.bar first, .bar last)
  | _, _ => (.label part.startLabel, .label part.endLabel)

def gridForWindow (library : TimeLibrary) (window : WalkForwardWindow) (first last : Bound) :
    Except WindowError (Option SessionGrid) :=
  match window.sessionAlignment with
  | none => .ok none
  | some alignment => do
      let first ← first.time library
      let last ← last.time library
      (sessionGrid library alignment first last).map some

def splitsSession (foldId : String) : WindowError :=
  windowError s!"{foldId}: window boundary splits an exchange session"

def requireSessionBoundary (library : TimeLibrary) (foldId : String) (beforeEnd afterStart : Bound)
    (grid : Option SessionGrid) : Except WindowError Unit :=
  match grid with
  | none => .ok ()
  | some grid => do
      let before ← beforeEnd.time library
      let after ← afterStart.time library
      raiseIf (!decide (grid.sessionOf before < grid.sessionOf after)) (splitsSession foldId)

/-! ## The builder's session assignment -/

/-- `dates`: the exchange sessions over the whole index, or the local days of its bars. -/
def AssignedBy (library : TimeLibrary) (alignment : Option SessionAlignment) (index : List Int)
    (sessions : SessionAssignment index) : Prop :=
  match alignment with
  | none => sessions.dates = index.map library.localDay
  | some alignment => ∃ first last grid, index.head? = some first ∧ index.getLast? = some last ∧
      sessionGrid library alignment first last = .ok grid ∧
      sessions.dates = index.map grid.sessionOf

/-- Two bars lie in different sessions exactly when a session opens between them. -/
theorem sessionOf_lt_iff (grid : SessionGrid) {a b : Int} (le : a ≤ b) :
    grid.sessionOf a < grid.sessionOf b ↔ ∃ sessionOpen ∈ grid.opens, a < sessionOpen ∧
      sessionOpen ≤ b := by
  rw [← searchSortedRight_lt_iff grid.opens le]
  unfold SessionGrid.sessionOf
  omega

end QuantFactory.WalkForward
