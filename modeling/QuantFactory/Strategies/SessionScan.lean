import Mathlib.Data.List.Basic
import QuantFactory.Library.ArrayIndexing
import QuantFactory.Library.Outcome
import QuantFactory.Library.SortedSearch

/-!
# Strategies that classify sessions one by one

A fixed strategy goes through the sessions of the exchange schedule.  A session is excluded
with a reason, or accepted, and an accepted session may mark one entry and one exit in the
signal columns.  What a session gives does not depend on the sessions before it, so the loop
is the verdicts of the sessions and the state they lead to.
-/

set_option autoImplicit false

namespace QuantFactory.Strategies

open QuantFactory.Library

def minutes (count : Int) : Int := count * 60000000000

def fiveMinutes : Int := minutes 5

structure PriceBar (F : Type) where
  timestamp : Int
  openPrice : F
  high : F
  low : F
  closePrice : F
  volume : F
  deriving DecidableEq

/-- A row of the exchange schedule; `date` is its label. -/
structure TradingSession where
  date : Int
  marketOpen : Int
  marketClose : Int
  deriving DecidableEq

inductive StrategyError where
  | typeError (message : String)
  | valueError (message : String)
  | runtimeError (message : String)
  | keyError
  deriving DecidableEq, Repr

def DisjointSessions (schedule : List TradingSession) : Prop :=
  (∀ session ∈ schedule, session.marketOpen < session.marketClose) ∧
    schedule.Pairwise fun earlier later =>
      earlier.date < later.date ∧ earlier.marketClose ≤ later.marketOpen

section Frames
variable {F : Type} (data : List (PriceBar F))

def times : List Int := data.map PriceBar.timestamp

/-- `is_unique` and `is_monotonic_increasing`. -/
def Chronological : Prop := (times data).Pairwise (· < ·)

instance : Decidable (Chronological data) := inferInstanceAs (Decidable (List.Pairwise _ _))

/-- `data.loc[timestamp]`. -/
def barAt (timestamp : Int) : Option (PriceBar F) :=
  data.find? fun bar => decide (bar.timestamp = timestamp)

/-- The next row after a timestamp, where a completed-bar signal is filled. -/
def nextBar (index : List Int) (timestamp : Int) : Option Int :=
  index.find? fun later => decide (timestamp < later)

variable {data}

theorem barAt_isSome {timestamp : Int} (present : timestamp ∈ times data) :
    ∃ bar, barAt data timestamp = some bar ∧ bar ∈ data ∧ bar.timestamp = timestamp := by
  obtain ⟨bar, member, same⟩ := List.mem_map.mp present
  cases found : barAt data timestamp with
  | none =>
      have absent := List.find?_eq_none.mp found bar member
      simp [same] at absent
  | some other =>
      refine ⟨other, rfl, List.mem_of_find?_eq_some found, ?_⟩
      simpa using List.find?_some found

theorem nextBar_getElem? {index : List Int} (sorted : index.Pairwise (· < ·)) {position : Nat}
    {timestamp : Int} (there : index[position]? = some timestamp) :
    nextBar index timestamp = index[position + 1]? := by
  induction index generalizing position with
  | nil => simp at there
  | cons first rest ih =>
      obtain ⟨least, sortedRest⟩ := List.pairwise_cons.mp sorted
      cases position with
      | zero =>
          have same : first = timestamp := by simpa using there
          rw [nextBar, List.find?_cons_of_neg (by simp [same]), List.getElem?_cons_succ]
          cases rest with
          | nil => rfl
          | cons next tail =>
              have later := least next List.mem_cons_self
              rw [List.find?_cons_of_pos (by simpa [← same] using later)]
              rfl
      | succ position =>
          rw [List.getElem?_cons_succ] at there ⊢
          have later := least timestamp (List.mem_of_getElem? there)
          rw [nextBar, List.find?_cons_of_neg (by simpa using later.le), ← nextBar,
            ih sortedRest there]

theorem nextBar_le {index : List Int} (sorted : index.Pairwise (· < ·)) {timestamp later : Int}
    (member : later ∈ index) (after : timestamp < later) :
    ∃ next, nextBar index timestamp = some next ∧ timestamp < next ∧ next ≤ later := by
  induction index with
  | nil => simp at member
  | cons first rest ih =>
      obtain ⟨least, sortedRest⟩ := List.pairwise_cons.mp sorted
      by_cases passed : timestamp < first
      · refine ⟨first, List.find?_cons_of_pos (by simpa using passed), passed, ?_⟩
        rcases List.mem_cons.mp member with rfl | inRest
        · exact le_refl _
        · exact (least later inRest).le
      · rw [nextBar, List.find?_cons_of_neg (by simpa using passed), ← nextBar]
        rcases List.mem_cons.mp member with rfl | inRest
        · exact absurd after passed
        · exact ih sortedRest inRest

end Frames

/-! ## The labels of a schedule -/

structure WallClock where
  /-- `_session_timestamp(session_date, wall_time)`. -/
  wall : Int → String → Int
  /-- `str(pd.Timestamp(session_label).date())`. -/
  dateText : Int → String

/-- Wall times of one date in their order, and every time of a date before those of a later date. -/
structure WallClock.Documented (clock : WallClock) : Prop where
  afterSignal : ∀ date, clock.wall date "09:59" < clock.wall date "15:30"
  afterEntry : ∀ date, clock.wall date "15:30" < clock.wall date "15:59"
  laterDate : ∀ (date later : Int) (time laterTime : String), date < later →
    clock.wall date time < clock.wall later laterTime

def withPrior {α : Type} (labels : List α) : List (Option α × α) :=
  (none :: labels.map some).zip labels

theorem withPrior_sessions {α : Type} (labels : List α) : (withPrior labels).map Prod.snd = labels :=
  List.map_snd_zip (by simp)

theorem mem_of_withPrior {α : Type} {labels : List α} {pair : Option α × α}
    (member : pair ∈ withPrior labels) : pair.2 ∈ labels := by
  rw [← withPrior_sessions labels]
  exact List.mem_map_of_mem member

/-! ## Signal columns -/

inductive Side where
  | long
  | short
  deriving DecidableEq, Repr

/-- `entries`, `exits`, `short_entries` and `short_exits`, one flag a row. -/
structure SignalColumns where
  longEntries : List Bool
  longExits : List Bool
  shortEntries : List Bool
  shortExits : List Bool
  deriving DecidableEq, Repr

/-- `pd.Series(False, index=index)` for the four columns. -/
def noSignals (index : List Int) : SignalColumns :=
  ⟨index.map fun _ => false, index.map fun _ => false, index.map fun _ => false,
    index.map fun _ => false⟩

/-- `column.at[timestamp] = True`. -/
def markAt (index : List Int) (timestamp : Int) (column : List Bool) : List Bool :=
  List.zipWith (fun row flag => decide (row = timestamp) || flag) index column

structure SessionTrade where
  date : Int
  side : Side
  entry : Int
  exit : Int
  deriving DecidableEq, Repr

def SignalColumns.mark (index : List Int) (columns : SignalColumns) (trade : SessionTrade) :
    SignalColumns :=
  match trade.side with
  | .long =>
      { columns with
        longEntries := markAt index trade.entry columns.longEntries
        longExits := markAt index trade.exit columns.longExits }
  | .short =>
      { columns with
        shortEntries := markAt index trade.entry columns.shortEntries
        shortExits := markAt index trade.exit columns.shortExits }

def flagsOf (index : List Int) (side : Side) (time : SessionTrade → Int)
    (trades : List SessionTrade) : List Bool :=
  index.map fun row => trades.any fun trade => decide (trade.side = side) && decide (row = time trade)

def columnsOf (index : List Int) (trades : List SessionTrade) : SignalColumns :=
  ⟨flagsOf index .long SessionTrade.entry trades, flagsOf index .long SessionTrade.exit trades,
    flagsOf index .short SessionTrade.entry trades, flagsOf index .short SessionTrade.exit trades⟩

section Columns
variable {index : List Int} {side : Side} {time : SessionTrade → Int}

theorem markAt_flagsOf {trades : List SessionTrade} {trade : SessionTrade}
    (same : trade.side = side) :
    markAt index (time trade) (flagsOf index side time trades) =
      flagsOf index side time (trades ++ [trade]) := by
  rw [markAt, flagsOf, flagsOf, List.zipWith_map_right, List.zipWith_self]
  apply List.map_congr_left
  intro row _
  simp [same, Bool.or_comm]

theorem flagsOf_other {trades : List SessionTrade} {trade : SessionTrade}
    (other : trade.side ≠ side) :
    flagsOf index side time (trades ++ [trade]) = flagsOf index side time trades := by
  rw [flagsOf, flagsOf]
  apply List.map_congr_left
  intro row _
  simp [other]

theorem mark_columnsOf (trades : List SessionTrade) (trade : SessionTrade) :
    (columnsOf index trades).mark index trade = columnsOf index (trades ++ [trade]) := by
  cases same : trade.side with
  | long =>
      have other : trade.side ≠ .short := by simp [same]
      simp only [SignalColumns.mark, same, columnsOf, markAt_flagsOf same, flagsOf_other other]
  | short =>
      have other : trade.side ≠ .long := by simp [same]
      simp only [SignalColumns.mark, same, columnsOf, markAt_flagsOf same, flagsOf_other other]

theorem noSignals_eq : noSignals index = columnsOf index [] := rfl

end Columns

/-! ## The loop over the sessions -/

inductive Verdict (R X : Type) where
  | excluded (reason : X)
  | accepted (row : R) (trade : Option SessionTrade)

structure Scan (R X : Type) where
  signals : SignalColumns
  accepted : List R
  excluded : List X

section Scan
variable {R X σ ε : Type}

def Scan.take (index : List Int) (scan : Scan R X) : Verdict R X → Scan R X
  | .excluded reason => { scan with excluded := scan.excluded ++ [reason] }
  | .accepted row none => { scan with accepted := scan.accepted ++ [row] }
  | .accepted row (some trade) =>
      { scan with signals := scan.signals.mark index trade, accepted := scan.accepted ++ [row] }

def scanSessions (index : List Int) (verdict : σ → Except ε (Verdict R X)) (sessions : List σ) :
    Except ε (Scan R X) := do
  let verdicts ← collect verdict sessions
  .ok (verdicts.foldl (Scan.take index) ⟨noSignals index, [], []⟩)

def Verdict.row? : Verdict R X → Option R
  | .accepted row _ => some row
  | .excluded _ => none

def Verdict.reason? : Verdict R X → Option X
  | .accepted _ _ => none
  | .excluded reason => some reason

def Verdict.trade? : Verdict R X → Option SessionTrade
  | .accepted _ trade => trade
  | .excluded _ => none

/-- One session more: its row, its reason and its marks are added at the end. -/
theorem Scan.take_eq {index : List Int} {trades : List SessionTrade} {rows : List R}
    {reasons : List X} (verdict : Verdict R X) :
    (⟨columnsOf index trades, rows, reasons⟩ : Scan R X).take index verdict =
      ⟨columnsOf index (trades ++ verdict.trade?.toList), rows ++ verdict.row?.toList,
        reasons ++ verdict.reason?.toList⟩ := by
  cases verdict with
  | excluded reason => simp [Scan.take, Verdict.trade?, Verdict.row?, Verdict.reason?]
  | accepted row trade =>
      cases trade with
      | none => simp [Scan.take, Verdict.trade?, Verdict.row?, Verdict.reason?]
      | some trade =>
          simp [Scan.take, Verdict.trade?, Verdict.row?, Verdict.reason?, mark_columnsOf]

theorem foldl_take (index : List Int) (verdicts : List (Verdict R X)) (trades : List SessionTrade)
    (rows : List R) (reasons : List X) :
    verdicts.foldl (Scan.take index) ⟨columnsOf index trades, rows, reasons⟩ =
      ⟨columnsOf index (trades ++ verdicts.filterMap Verdict.trade?),
        rows ++ verdicts.filterMap Verdict.row?, reasons ++ verdicts.filterMap Verdict.reason?⟩ := by
  induction verdicts generalizing trades rows reasons with
  | nil => simp
  | cons verdict rest ih =>
      have cut : ∀ {β : Type} (f : Verdict R X → Option β),
          (verdict :: rest).filterMap f = (f verdict).toList ++ rest.filterMap f := by
        intro β f
        rw [List.filterMap_cons]
        cases f verdict <;> rfl
      rw [List.foldl_cons, Scan.take_eq, ih, cut, cut, cut, List.append_assoc, List.append_assoc,
        List.append_assoc]

theorem scanSessions_ok {index : List Int} {verdict : σ → Except ε (Verdict R X)}
    {sessions : List σ} {scan : Scan R X} (ok : scanSessions index verdict sessions = .ok scan) :
    ∃ verdicts, List.Forall₂ (fun session answer => verdict session = .ok answer) sessions verdicts ∧
      scan = ⟨columnsOf index (verdicts.filterMap Verdict.trade?), verdicts.filterMap Verdict.row?,
        verdicts.filterMap Verdict.reason?⟩ := by
  obtain ⟨verdicts, collected, done⟩ := bind_eq_ok.mp ok
  refine ⟨verdicts, collect_eq_ok.mp collected, ?_⟩
  have whole := foldl_take index verdicts [] [] []
  rw [← noSignals_eq] at whole
  rw [← Except.ok.inj done, whole]
  rfl

def Verdict.Dated (rowDate : R → Int) (reasonDate : X → Int) (date : Int) : Verdict R X → Prop
  | .excluded reason => reasonDate reason = date
  | .accepted row trade => rowDate row = date ∧ ∀ marked, trade = some marked → marked.date = date

/-- Every session is accepted or excluded, once, and marks at most one trade when accepted. -/
theorem classified_once {rowDate : R → Int} {reasonDate : X → Int} {date : σ → Int}
    {sessions : List σ} {verdicts : List (Verdict R X)}
    (dated : List.Forall₂ (fun session (verdict : Verdict R X) =>
      verdict.Dated rowDate reasonDate (date session)) sessions verdicts) :
    ((verdicts.filterMap Verdict.row?).map rowDate ++
        (verdicts.filterMap Verdict.reason?).map reasonDate).Perm (sessions.map date) ∧
      ((verdicts.filterMap Verdict.trade?).map SessionTrade.date).Sublist
        ((verdicts.filterMap Verdict.row?).map rowDate) := by
  induction dated with
  | nil => exact ⟨List.Perm.refl _, List.Sublist.refl _⟩
  | @cons session verdict sessions verdicts head _ ih =>
      obtain ⟨perm, sub⟩ := ih
      cases verdict with
      | excluded reason =>
          have same : reasonDate reason = date session := head
          refine ⟨?_, sub⟩
          show ((verdicts.filterMap Verdict.row?).map rowDate ++
            (reasonDate reason :: (verdicts.filterMap Verdict.reason?).map reasonDate)).Perm
              (date session :: sessions.map date)
          rw [same]
          exact List.perm_middle.trans (perm.cons _)
      | accepted row trade =>
          obtain ⟨same, marks⟩ := head
          refine ⟨?_, ?_⟩
          · show (rowDate row :: ((verdicts.filterMap Verdict.row?).map rowDate ++
              (verdicts.filterMap Verdict.reason?).map reasonDate)).Perm
                (date session :: sessions.map date)
            rw [same]
            exact perm.cons _
          · cases trade with
            | none => exact sub.cons _
            | some marked =>
                show (marked.date :: (verdicts.filterMap Verdict.trade?).map SessionTrade.date).Sublist
                  (rowDate row :: (verdicts.filterMap Verdict.row?).map rowDate)
                rw [marks marked rfl, same]
                exact sub.cons_cons _

end Scan

/-! ## Trades bound to their session -/

/-- Entered and left within the session, under an execution that fills a signal at a row. -/
structure HeldIn (fill : Int → Option Int) (index : List Int) (session : TradingSession)
    (trade : SessionTrade) : Prop where
  entryRow : trade.entry ∈ index
  exitRow : trade.exit ∈ index
  ordered : trade.entry < trade.exit
  filled : ∃ entered left, fill trade.entry = some entered ∧ fill trade.exit = some left ∧
    session.marketOpen ≤ entered ∧ entered < left ∧ left ≤ session.marketClose

/-- Each scheduled session is accepted or excluded once and has at most one trade; the signal
columns are set at the trades, each held within its session. -/
structure SessionBound (fill : Int → Option Int) (index : List Int)
    (schedule : List TradingSession) (accepted excluded : List Int) (trades : List SessionTrade)
    (signals : SignalColumns) : Prop where
  classified : (accepted ++ excluded).Perm (schedule.map TradingSession.date)
  atMostOne : (trades.map SessionTrade.date).Sublist accepted
  columns : signals = columnsOf index trades
  held : ∀ trade ∈ trades, ∃ session ∈ schedule, session.date = trade.date ∧
    HeldIn fill index session trade

end QuantFactory.Strategies
