import Mathlib
import QuantFactory.Experiments.SessionCloses
import QuantFactory.Library.OrderedCuts
import QuantFactory.WalkForward.RequestedRows

/-!
# Session closes in a window

A walk-forward window shows `session_close_metrics_frame` the rows between two of the
history's bars.  A session whose closing bar is missing is read from another bar, which has
to be inside the window as well.
-/

set_option autoImplicit false

namespace QuantFactory.Experiments

open QuantFactory.Library ColumnNumber

variable {F : Type} [ColumnNumber F]

/-! ## The bar that is read -/

/-- `float(assets.loc[time]) == 0.0` on holdings that may be absent. -/
def flatAt (data : List (MarketRow F)) (assets : Option (List F)) (time : Int) : Bool :=
  ((assets.bind fun units => valueAt data units time).map isZero).getD false

def fallbackBar (data : List (MarketRow F)) (assets : Option (List F)) (session : SessionBounds)
    (closing : Int) : Option Int :=
  match ((timesOf data).filter fun time =>
    session.marketOpen ≤ time ∧ time < session.marketClose).getLast? with
  | none =>
      match ((timesOf data).filter (· < session.marketOpen)).getLast?,
          ((timesOf data).filter (session.marketClose ≤ ·)).head? with
      | some before, some after =>
          if flatAt data assets before && flatAt data assets after then some before else none
      | _, _ => none
  | some last => if decide (last < closing) && flatAt data assets last then some last else none

def closingBar (data : List (MarketRow F)) (assets : Option (List F)) (interval : Int)
    (session : SessionBounds) : Option Int :=
  if session.marketClose - interval ∈ timesOf data then some (session.marketClose - interval)
  else fallbackBar data assets session (session.marketClose - interval)

def readBar (data : List (MarketRow F)) (value : List F) (bar : Option Int) : Except SweepError F :=
  match bar with
  | some bar => orRaise (valueAt data value bar) missingClose
  | none => .error missingClose

omit [ColumnNumber F] in
theorem readBar_ite (data : List (MarketRow F)) (value : List F) (flat : Bool) (bar : Int) :
    readBar data value (if flat = true then some bar else none) =
      if flat = true then orRaise (valueAt data value bar) missingClose
      else .error missingClose := by
  cases flat <;> rfl

theorem missingSessionCloseValue_bar (data : List (MarketRow F)) (value : List F)
    (assets : Option (List F)) (session : SessionBounds) (closing : Int) :
    missingSessionCloseValue data value assets session closing =
      readBar data value (fallbackBar data assets session closing) := by
  simp only [missingSessionCloseValue, fallbackBar, flatAt, timesOf]
  cases ((data.map (·.time)).filter fun time =>
      session.marketOpen ≤ time ∧ time < session.marketClose).getLast? with
  | none =>
      cases ((data.map (·.time)).filter (· < session.marketOpen)).getLast? with
      | none => rfl
      | some before =>
          cases ((data.map (·.time)).filter (session.marketClose ≤ ·)).head? with
          | none => rfl
          | some after => exact (readBar_ite data value _ before).symm
  | some last => exact (readBar_ite data value _ last).symm

theorem referenceClosingValue_bar {data : List (MarketRow F)} {column : PortfolioColumn F}
    (usable : columnIsUsable data column = true) (assetsIndex : Option (List Int)) (interval : Int)
    (session : SessionBounds) :
    referenceClosingValue data column.value (assetsIndex.map fun index => (index, column.assets))
        interval session =
      readBar data column.value
        (closingBar data (alignedAssets data assetsIndex column) interval session) := by
  rw [referenceClosingValue_eq, closingBar]
  by_cases present : session.marketClose - interval ∈ timesOf data
  · obtain ⟨value, found⟩ := valueAt_of_mem (length_of_usable usable) present
    rw [if_pos present, found, readBar, found]
    rfl
  · have absent : valueAt data column.value (session.marketClose - interval) = none := by
      by_contra found
      obtain ⟨value, at_⟩ := Option.ne_none_iff_exists'.mp found
      exact present (mem_of_valueAt at_)
    rw [if_neg present, absent]
    exact missingSessionCloseValue_bar data column.value _ session _

theorem closingBar_mem {data : List (MarketRow F)} {assets : Option (List F)} {interval : Int}
    {session : SessionBounds} {bar : Int}
    (read : closingBar data assets interval session = some bar) : bar ∈ timesOf data := by
  rw [closingBar] at read
  split at read
  · rename_i present
    rw [← Option.some.inj read]
    exact present
  · rw [fallbackBar] at read
    split at read
    · split at read
      · rename_i before after befores _
        split at read
        · rw [← Option.some.inj read]
          exact List.mem_of_mem_filter (List.mem_of_getLast? befores)
        · cases read
      · cases read
    · rename_i final observed
      split at read
      · rw [← Option.some.inj read]
        exact List.mem_of_mem_filter (List.mem_of_getLast? observed)
      · cases read

/-! ## The rows of a window -/

section Window
variable (data : List (MarketRow F)) (first last : Int)

def isInside (time : Int) : Bool := decide (first ≤ time) && decide (time ≤ last)

/-- `data.loc[first:last]`. -/
def windowRows : List (MarketRow F) := data.filter (inWindow (some (first, last)))

def windowColumn (column : PortfolioColumn F) : PortfolioColumn F :=
  { column with
    value := seriesInWindow data (some (first, last)) column.value
    assets := seriesInWindow data (some (first, last)) column.assets }

def windowTables (tables : PortfolioTables F) : PortfolioTables F where
  columns := tables.columns.map (windowColumn data first last)
  index := tables.index.filter (isInside first last)
  assetsIndex := tables.assetsIndex.map fun index => index.filter (isInside first last)

variable {data first last}

omit [ColumnNumber F] in
theorem timesOf_windowRows :
    timesOf (windowRows data first last) = (timesOf data).filter (isInside first last) := by
  rw [timesOf, timesOf, windowRows, List.filter_map]
  rfl

omit [ColumnNumber F] in
theorem valueAt_window (series : List F) {time : Int} (inside : isInside first last time = true) :
    valueAt (windowRows data first last) (seriesInWindow data (some (first, last)) series) time =
      valueAt data series time := by
  simp only [valueAt, windowRows, seriesInWindow]
  induction data generalizing series with
  | nil => rfl
  | cons row rest ih =>
      cases series with
      | nil => simp
      | cons value others =>
          rw [List.map_cons, List.zip_cons_cons, List.zip_cons_cons, List.lookup_cons]
          by_cases kept : inWindow (some (first, last)) row = true
          · rw [List.filter_cons_of_pos kept, List.filter_cons_of_pos (by exact kept),
              List.map_cons, List.map_cons, List.zip_cons_cons, List.lookup_cons, ih]
          · rw [List.filter_cons_of_neg kept, List.filter_cons_of_neg (by exact kept), ih]
            have other : time ≠ row.time := by
              rintro rfl
              exact kept inside
            rw [beq_false_of_ne other]

omit [ColumnNumber F] in
theorem length_seriesInWindow {series : List F} (length : series.length = data.length) :
    (seriesInWindow data (some (first, last)) series).length =
      (windowRows data first last).length := by
  rw [windowRows, seriesInWindow, List.length_map]
  induction data generalizing series with
  | nil => rfl
  | cons row rest ih =>
      cases series with
      | nil => cases length
      | cons head tail =>
          have shorter := @ih tail (by simpa using length)
          rw [List.zip_cons_cons]
          by_cases kept : inWindow (some (first, last)) row = true
          · rw [List.filter_cons_of_pos kept, List.filter_cons_of_pos (by exact kept),
              List.length_cons, List.length_cons, shorter]
          · rw [List.filter_cons_of_neg kept, List.filter_cons_of_neg (by exact kept), shorter]

theorem columnIsUsable_window {column : PortfolioColumn F}
    (usable : columnIsUsable data column = true) :
    columnIsUsable (windowRows data first last) (windowColumn data first last column) = true := by
  have length := length_of_usable usable
  rw [columnIsUsable, Bool.and_eq_true] at usable ⊢
  refine ⟨?_, decide_eq_true (length_seriesInWindow length)⟩
  have positive := usable.1
  rw [columnIsPositive, List.all_eq_true] at positive ⊢
  intro value member
  obtain ⟨entry, kept, rfl⟩ := List.mem_map.mp member
  exact positive entry.2 (List.of_mem_zip (List.mem_of_mem_filter kept)).2

end Window

/-! ## The same bar is read -/

section SameBar
variable {data : List (MarketRow F)} {first last : Int} {session : SessionBounds} {interval : Int}

theorem flatAt_window {assetsIndex : Option (List Int)} {column : PortfolioColumn F} {time : Int}
    (inside : isInside first last time = true)
    (flat : flatAt data (alignedAssets data assetsIndex column) time = true) :
    flatAt (windowRows data first last)
      (alignedAssets (windowRows data first last)
        (assetsIndex.map fun index => index.filter (isInside first last))
        (windowColumn data first last column)) time = true := by
  by_cases aligned : assetsIndex = some (timesOf data)
  · have stays : (assetsIndex.map fun index => index.filter (isInside first last)) =
        some (timesOf (windowRows data first last)) := by
      rw [aligned, timesOf_windowRows]
      rfl
    rw [alignedAssets, if_pos aligned] at flat
    rw [alignedAssets, if_pos stays, flatAt, Option.bind_some, windowColumn,
      valueAt_window _ inside]
    exact flat
  · rw [alignedAssets, if_neg aligned] at flat
    cases flat

/-- The window begins with a session: no earlier bar is in the session of its first bar. -/
def StartsWith (times : List Int) (first : Int) (session : SessionBounds) : Prop :=
  ∀ time ∈ times, time < first → session.marketOpen ≤ time → session.marketClose ≤ first

omit [ColumnNumber F] in
theorem mem_timesOf_window {time : Int} : time ∈ timesOf (windowRows data first last) ↔
    time ∈ timesOf data ∧ first ≤ time ∧ time ≤ last := by
  rw [timesOf_windowRows, List.mem_filter, isInside, Bool.and_eq_true, decide_eq_true_iff,
    decide_eq_true_iff]

theorem isInside_iff {time : Int} :
    isInside first last time = true ↔ first ≤ time ∧ time ≤ last := by
  rw [isInside, Bool.and_eq_true, decide_eq_true_iff, decide_eq_true_iff]

omit [ColumnNumber F] in
theorem getLast?_window (sorted : (timesOf data).Pairwise (· < ·)) {p : Int → Bool} {bar : Int}
    (found : ((timesOf data).filter p).getLast? = some bar) (low : first ≤ bar) (high : bar ≤ last) :
    ((timesOf (windowRows data first last)).filter p).getLast? = some bar := by
  obtain ⟨member, greatest⟩ := (getLast?_sorted_iff (sorted.filter _)).mp found
  obtain ⟨listed, holds⟩ := List.mem_filter.mp member
  have sortedWindow : (timesOf (windowRows data first last)).Pairwise (· < ·) := by
    rw [timesOf_windowRows]
    exact sorted.filter _
  apply (getLast?_sorted_iff (sortedWindow.filter _)).mpr
  constructor
  · exact List.mem_filter.mpr ⟨mem_timesOf_window.mpr ⟨listed, low, high⟩, holds⟩
  · intro other inOther
    obtain ⟨shown, otherHolds⟩ := List.mem_filter.mp inOther
    exact greatest other (List.mem_filter.mpr ⟨(mem_timesOf_window.mp shown).1, otherHolds⟩)

omit [ColumnNumber F] in
theorem head?_window (sorted : (timesOf data).Pairwise (· < ·)) {p : Int → Bool} {bar : Int}
    (found : ((timesOf data).filter p).head? = some bar) (low : first ≤ bar) (high : bar ≤ last) :
    ((timesOf (windowRows data first last)).filter p).head? = some bar := by
  obtain ⟨member, least⟩ := (head?_sorted_iff (sorted.filter _)).mp found
  obtain ⟨listed, holds⟩ := List.mem_filter.mp member
  have sortedWindow : (timesOf (windowRows data first last)).Pairwise (· < ·) := by
    rw [timesOf_windowRows]
    exact sorted.filter _
  apply (head?_sorted_iff (sortedWindow.filter _)).mpr
  constructor
  · exact List.mem_filter.mpr ⟨mem_timesOf_window.mpr ⟨listed, low, high⟩, holds⟩
  · intro other inOther
    obtain ⟨shown, otherHolds⟩ := List.mem_filter.mp inOther
    exact least other (List.mem_filter.mpr ⟨(mem_timesOf_window.mp shown).1, otherHolds⟩)

section Fallback
variable {assetsIndex : Option (List Int)} {column : PortfolioColumn F} {bar : Int}

def windowAssets (data : List (MarketRow F)) (first last : Int) (assetsIndex : Option (List Int))
    (column : PortfolioColumn F) : Option (List F) :=
  alignedAssets (windowRows data first last)
    (assetsIndex.map fun index => index.filter (isInside first last))
    (windowColumn data first last column)

theorem fallbackBar_observed (sorted : (timesOf data).Pairwise (· < ·))
    (starts : StartsWith (timesOf data) first session) {closing final : Int}
    (early : first < session.marketClose) (shown : closing ≤ last)
    (observed : ((timesOf data).filter fun time =>
      session.marketOpen ≤ time ∧ time < session.marketClose).getLast? = some final)
    (read : fallbackBar data (alignedAssets data assetsIndex column) session closing = some bar) :
    fallbackBar (windowRows data first last) (windowAssets data first last assetsIndex column)
      session closing = some bar := by
  obtain ⟨member, -⟩ := (getLast?_sorted_iff (sorted.filter _)).mp observed
  obtain ⟨listed, within⟩ := List.mem_filter.mp member
  rw [decide_eq_true_iff] at within
  have low : first ≤ final := by
    by_contra less
    have closed := starts final listed (by omega) within.1
    omega
  rw [fallbackBar, observed] at read
  dsimp only at read
  split at read
  · rename_i flat
    rw [Bool.and_eq_true, decide_eq_true_iff] at flat
    have high : final ≤ last := by omega
    rw [fallbackBar, getLast?_window sorted observed low high]
    dsimp only
    rw [if_pos]
    · exact read
    · rw [Bool.and_eq_true, decide_eq_true_iff]
      exact ⟨flat.1, flatAt_window (isInside_iff.mpr ⟨low, high⟩) flat.2⟩
  · cases read

theorem fallbackBar_absent (sorted : (timesOf data).Pairwise (· < ·))
    (inFirst : first ∈ timesOf data) (inLast : last ∈ timesOf data) {closing : Int}
    (early : first < session.marketClose) (opened : session.marketOpen ≤ last)
    (observed : ((timesOf data).filter fun time =>
      session.marketOpen ≤ time ∧ time < session.marketClose).getLast? = none)
    (read : fallbackBar data (alignedAssets data assetsIndex column) session closing = some bar) :
    fallbackBar (windowRows data first last) (windowAssets data first last assetsIndex column)
      session closing = some bar := by
  have unseen : ∀ time ∈ timesOf data,
      ¬ (session.marketOpen ≤ time ∧ time < session.marketClose) := by
    intro time listed within
    have empty := List.getLast?_eq_none_iff.mp observed
    have refused := List.filter_eq_nil_iff.mp empty time listed
    exact refused (decide_eq_true within)
  have unseenWindow : ((timesOf (windowRows data first last)).filter fun time =>
      session.marketOpen ≤ time ∧ time < session.marketClose).getLast? = none := by
    rw [List.getLast?_eq_none_iff, List.filter_eq_nil_iff]
    intro time shown
    rw [decide_eq_true_iff]
    exact unseen time (mem_timesOf_window.mp shown).1
  have firstUnseen := unseen first inFirst
  have lastUnseen := unseen last inLast
  rw [fallbackBar, observed] at read
  dsimp only at read
  split at read
  · rename_i before after befores afters
    obtain ⟨inBefore, greatest⟩ := (getLast?_sorted_iff (sorted.filter _)).mp befores
    obtain ⟨inAfter, least⟩ := (head?_sorted_iff (sorted.filter _)).mp afters
    have beforeOpen := of_decide_eq_true (List.mem_filter.mp inBefore).2
    have afterClose := of_decide_eq_true (List.mem_filter.mp inAfter).2
    have low : first ≤ before :=
      greatest first (List.mem_filter.mpr ⟨inFirst, decide_eq_true (by omega)⟩)
    have high : after ≤ last :=
      least last (List.mem_filter.mpr ⟨inLast, decide_eq_true (by omega)⟩)
    have beforeLast : before ≤ last := by omega
    have firstAfter : first ≤ after := by omega
    rw [fallbackBar, unseenWindow, getLast?_window sorted befores low beforeLast,
      head?_window sorted afters firstAfter high]
    dsimp only
    split at read
    · rename_i flat
      rw [Bool.and_eq_true] at flat
      rw [if_pos]
      · exact read
      · rw [Bool.and_eq_true]
        exact ⟨flatAt_window (isInside_iff.mpr ⟨low, beforeLast⟩) flat.1,
          flatAt_window (isInside_iff.mpr ⟨firstAfter, high⟩) flat.2⟩
    · cases read
  · cases read

/-- The window holds what the close of a session is read from: its closing bar, or the bars
the gap lies between. -/
def HoldsClose (times : List Int) (first last interval : Int) (session : SessionBounds) : Prop :=
  if session.marketClose - interval ∈ times then first ≤ session.marketClose - interval
  else first < session.marketClose ∧ session.marketOpen ≤ last

instance (times : List Int) (first last interval : Int) (session : SessionBounds) :
    Decidable (HoldsClose times first last interval session) :=
  inferInstanceAs (Decidable (if session.marketClose - interval ∈ times then
      first ≤ session.marketClose - interval
    else first < session.marketClose ∧ session.marketOpen ≤ last))

theorem closingBar_window (sorted : (timesOf data).Pairwise (· < ·))
    (inFirst : first ∈ timesOf data) (inLast : last ∈ timesOf data)
    (starts : StartsWith (timesOf data) first session)
    (completed : session.marketClose ≤ last + interval)
    (held : HoldsClose (timesOf data) first last interval session)
    (read : closingBar data (alignedAssets data assetsIndex column) interval session = some bar) :
    closingBar (windowRows data first last) (windowAssets data first last assetsIndex column)
      interval session = some bar := by
  rw [closingBar] at read ⊢
  rw [HoldsClose] at held
  by_cases present : session.marketClose - interval ∈ timesOf data
  · rw [if_pos present] at read held
    rw [if_pos (mem_timesOf_window.mpr ⟨present, held, by omega⟩)]
    exact read
  · rw [if_neg present] at read held
    rw [if_neg fun member => present (mem_timesOf_window.mp member).1]
    cases observed : ((timesOf data).filter fun time =>
        session.marketOpen ≤ time ∧ time < session.marketClose).getLast? with
    | some final =>
        exact fallbackBar_observed sorted starts held.1 (by omega) observed read
    | none =>
        exact fallbackBar_absent sorted inFirst inLast held.1 held.2 observed read

/-- What stands in for a closing bar: the session's last bar, or the last one before it with
one after it. -/
theorem fallbackBar_cases {assets : Option (List F)} {closing : Int}
    (read : fallbackBar data assets session closing = some bar) :
    (session.marketOpen ≤ bar ∧ bar < session.marketClose ∧ bar < closing) ∨
      (bar < session.marketOpen ∧ ∃ after ∈ timesOf data, session.marketClose ≤ after) := by
  rw [fallbackBar] at read
  split at read
  · split at read
    · rename_i before after befores afters
      split at read
      · cases read
        have early := (List.mem_filter.mp (List.mem_of_getLast? befores)).2
        obtain ⟨listed, late⟩ := List.mem_filter.mp (List.mem_of_head? afters)
        exact .inr ⟨of_decide_eq_true early, after, listed, of_decide_eq_true late⟩
      · cases read
    · cases read
  · rename_i final observed
    split at read
    · rename_i flat
      cases read
      have within := (List.mem_filter.mp (List.mem_of_getLast? observed)).2
      rw [decide_eq_true_iff] at within
      rw [Bool.and_eq_true, decide_eq_true_iff] at flat
      exact .inl ⟨within.1, within.2, flat.1⟩
    · cases read

theorem holdsClose_of_sameBar (opens : session.marketOpen < session.marketClose)
    (completed : session.marketClose ≤ last + interval)
    (read : closingBar data (alignedAssets data assetsIndex column) interval session = some bar)
    (same : closingBar (windowRows data first last)
      (windowAssets data first last assetsIndex column) interval session = some bar) :
    HoldsClose (timesOf data) first last interval session := by
  obtain ⟨listed, low, high⟩ := mem_timesOf_window.mp (closingBar_mem same)
  rw [closingBar] at read same
  rw [HoldsClose]
  by_cases present : session.marketClose - interval ∈ timesOf data
  · rw [if_pos present] at read ⊢
    rw [Option.some.inj read]
    exact low
  · rw [if_neg present] at read ⊢
    rw [if_neg fun member => present (mem_timesOf_window.mp member).1] at same
    rcases fallbackBar_cases same with ⟨opened, before, early⟩ | ⟨before, after, shown, late⟩
    · exact ⟨by omega, by omega⟩
    · have inside := (mem_timesOf_window.mp shown).2.2
      exact ⟨by omega, by omega⟩

end Fallback

end SameBar

/-! ## The checks of the sessions -/

section Sessions
variable {policy : SessionPolicy F} {data : List (MarketRow F)} {interval : Int}

/-- The sessions of a window's dates that are closed by the end of its last bar. -/
def completedIn (policy : SessionPolicy F) (interval first last : Int) : List SessionBounds :=
  (policy.schedule first last).filter (·.marketClose ≤ last + interval)

/-- A session of the window's dates is under way at its last bar. -/
def partiallyObserved (policy : SessionPolicy F) (interval first last : Int) : Bool :=
  (policy.schedule first last).any fun session =>
    decide (session.marketOpen ≤ last) && decide (last + interval < session.marketClose)

structure SessionsShown (policy : SessionPolicy F) (data : List (MarketRow F)) (interval : Int)
    (first last : Int) : Prop where
  firstRow : data.head?.map (·.time) = some first
  lastRow : data.getLast?.map (·.time) = some last
  duration : policy.interval = some interval
  closed : partiallyObserved policy interval first last = false
  two : 2 ≤ (completedIn policy interval first last).length

omit [ColumnNumber F] in
theorem sessionsShown_of_ok {checked : Int × List SessionBounds}
    (ok : completedSessions policy data = .ok checked) :
    ∃ first last, SessionsShown policy data checked.1 first last ∧
      checked.2 = completedIn policy checked.1 first last := by
  rw [completedSessions] at ok
  split at ok
  · rename_i first last head final
    split at ok
    · cases ok
    · rename_i step duration
      dsimp only at ok
      split at ok
      · cases ok
      · rename_i closed
        split at ok
        · cases ok
        · rename_i two
          cases ok
          exact ⟨first.time, last.time, ⟨by rw [head]; rfl, by rw [final]; rfl, duration,
            by simpa [partiallyObserved] using closed, Nat.le_of_not_lt two⟩, rfl⟩
  · cases ok

omit [ColumnNumber F] in
theorem SessionsShown.completed {first last : Int}
    (shown : SessionsShown policy data interval first last) :
    completedSessions policy data = .ok (interval, completedIn policy interval first last) := by
  obtain ⟨firstRow, head, rfl⟩ := Option.map_eq_some_iff.mp shown.firstRow
  obtain ⟨lastRow, final, rfl⟩ := Option.map_eq_some_iff.mp shown.lastRow
  have closed := shown.closed
  have two := shown.two
  rw [partiallyObserved] at closed
  rw [completedIn] at two
  simp only [completedSessions, head, final, shown.duration, closed, Bool.false_eq_true, if_false]
  rw [if_neg (by omega)]
  rfl

end Sessions

/-! ## A window of the history -/

/-- The exchange sessions that metrics and windows share: a session opens before it closes and
is over before the next opens, and the days of the index's time zone follow its bars. -/
structure ExchangeSessions (F : Type) where
  calendar : WalkForward.MarketCalendar
  day : Int → Int
  interval : Int
  statistics : List F → F × F × F
  day_mono : ∀ {time later : Int}, time ≤ later → day time ≤ day later
  opens : ∀ session ∈ calendar.sessions, session.marketOpen < session.marketClose
  disjoint : calendar.sessions.Pairwise fun a b => a.marketClose ≤ b.marketOpen

def ExchangeSessions.policy (exchange : ExchangeSessions F) : SessionPolicy F where
  interval := some exchange.interval
  schedule first last := (exchange.calendar.schedule (exchange.day first) (exchange.day last)).map
    fun session => ⟨session.marketOpen, session.marketClose⟩
  statistics := exchange.statistics

section Exchange
variable {exchange : ExchangeSessions F}

open WalkForward

omit [ColumnNumber F] in
theorem mem_schedule {first last : Int} {session : SessionBounds} :
    session ∈ exchange.policy.schedule first last ↔ ∃ listed ∈ exchange.calendar.sessions,
      exchange.day first ≤ listed.date ∧ listed.date ≤ exchange.day last ∧
        session = ⟨listed.marketOpen, listed.marketClose⟩ := by
  simp only [ExchangeSessions.policy, MarketCalendar.schedule, List.mem_map, List.mem_filter,
    decide_eq_true_eq]
  constructor
  · rintro ⟨listed, ⟨member, early, late⟩, rfl⟩
    exact ⟨listed, member, early, late, rfl⟩
  · rintro ⟨listed, member, early, late, rfl⟩
    exact ⟨listed, ⟨member, early, late⟩, rfl⟩

omit [ColumnNumber F] in
theorem schedule_subset {first last start stop : Int} (low : start ≤ first) (high : last ≤ stop)
    {session : SessionBounds} (member : session ∈ exchange.policy.schedule first last) :
    session ∈ exchange.policy.schedule start stop := by
  obtain ⟨listed, inCalendar, early, late, same⟩ := mem_schedule.mp member
  exact mem_schedule.mpr ⟨listed, inCalendar, (exchange.day_mono low).trans early,
    late.trans (exchange.day_mono high), same⟩

omit [ColumnNumber F] in
theorem close_le_open {session later : CalendarSession}
    (member : session ∈ exchange.calendar.sessions) (laterMember : later ∈ exchange.calendar.sessions)
    (before : session.marketOpen < later.marketOpen) : session.marketClose ≤ later.marketOpen := by
  obtain ⟨i, iInside, rfl⟩ := List.getElem_of_mem member
  obtain ⟨j, jInside, rfl⟩ := List.getElem_of_mem laterMember
  rcases Nat.lt_trichotomy i j with less | same | more
  · exact List.pairwise_iff_getElem.mp exchange.disjoint i j iInside jInside less
  · subst same
    exact absurd before (lt_irrefl _)
  · have after := List.pairwise_iff_getElem.mp exchange.calendar.ordered j i jInside iInside more
    omega

omit [ColumnNumber F] in
theorem opens_of_mem {first last : Int} {session : SessionBounds}
    (member : session ∈ exchange.policy.schedule first last) :
    session.marketOpen < session.marketClose := by
  obtain ⟨listed, inCalendar, -, -, rfl⟩ := mem_schedule.mp member
  exact exchange.opens listed inCalendar

variable {library : TimeLibrary} {alignment : SessionAlignment} {index : List Int}
  {sessions : SessionAssignment index}

theorem grid_opens {first last : Int} {grid : SessionGrid} {calendar : MarketCalendar}
    (calendarOf : library.calendar alignment.exchangeCalendar = some calendar)
    (gridOk : sessionGrid library alignment first last = .ok grid) {sessionOpen : Int}
    (member : sessionOpen ∈ grid.opens) :
    ∃ session ∈ calendar.sessions, session.marketOpen = sessionOpen := by
  obtain ⟨found, same, gridOk⟩ := bind_eq_ok.mp gridOk
  rw [calendarOf, orRaise_eq_ok] at same
  cases same
  obtain ⟨-, gridOk⟩ := raiseIf_bind_eq_ok.mp gridOk
  obtain ⟨duration, _, gridOk⟩ := bind_eq_ok.mp gridOk
  obtain ⟨-, gridOk⟩ := raiseIf_bind_eq_ok.mp gridOk
  cases gridOk
  obtain ⟨session, listed, rfl⟩ := List.mem_map.mp member
  exact ⟨session, List.mem_of_mem_filter listed, rfl⟩

omit [ColumnNumber F] in
theorem startsWith_of_isCut
    (calendarOf : library.calendar alignment.exchangeCalendar = some exchange.calendar)
    (assigned : AssignedBy library (some alignment) index sessions)
    (sorted : index.Pairwise (· < ·)) {cut : Nat} (isCut : IsCut sessions.dates cut)
    (inside : cut < index.length) {start stop : Int} {session : SessionBounds}
    (member : session ∈ exchange.policy.schedule start stop) :
    StartsWith index index[cut] session := by
  obtain ⟨first, last, grid, _, _, gridOk, dates⟩ := assigned
  obtain ⟨listed, inCalendar, _, _, rfl⟩ := mem_schedule.mp member
  intro time inIndex before opened
  obtain ⟨i, iInside, rfl⟩ := List.getElem_of_mem inIndex
  have earlier : i < cut := by
    by_contra notEarlier
    rcases Nat.lt_or_ge cut i with less | more
    · have after := List.pairwise_iff_getElem.mp sorted cut i inside iInside less
      omega
    · have same : i = cut := by omega
      subst same
      exact lt_irrefl _ before
  have length := sessions.length_eq
  have strict := isCut i cut (by omega) (by omega) earlier le_rfl
  simp only [dates, List.getElem_map] at strict
  obtain ⟨sessionOpen, inGrid, above, below⟩ := (sessionOf_lt_iff grid before.le).mp strict
  obtain ⟨later, laterMember, rfl⟩ := grid_opens calendarOf gridOk inGrid
  exact (close_le_open inCalendar laterMember (lt_of_le_of_lt opened above)).trans below

def partsOf (window : WalkForwardWindow) : List DataPartition :=
  window.train :: (window.selection.toList ++ [window.test])

theorem parts_are_slices {config : WalkForwardConfig} {label : Int → String}
    {windows : List WalkForwardWindow} {window : WalkForwardWindow} {part : DataPartition}
    (some : index ≠ []) (sorted : index.Pairwise (· < ·))
    (built : buildWalkForwardWindows config label (Option.some alignment) index sessions =
      .ok windows)
    (member : window ∈ windows) (partOf : part ∈ partsOf window) :
    ∃ cut stop, IsSlice index cut stop part ∧ IsCut sessions.dates cut := by
  have facts := (build_walk_forward_windows_wellFormed config label (Option.some alignment) index
    some sorted sessions).2 windows built
  obtain ⟨⟨cuts, shape⟩, -⟩ := facts.1 window member
  rcases List.mem_cons.mp partOf with rfl | others
  · exact ⟨_, _, shape.train, shape.whole_sessions _ (by simp)⟩
  · rcases List.mem_append.mp others with inSelection | inTest
    · cases selection : window.selection with
      | none =>
          rw [selection] at inSelection
          cases inSelection
      | some chosen =>
          rw [selection, Option.toList_some, List.mem_singleton] at inSelection
          have placed := shape.selection
          rw [selection] at placed
          rw [inSelection]
          exact ⟨_, _, placed.2, shape.whole_sessions _ (by simp)⟩
    · rw [List.mem_singleton.mp inTest]
      exact ⟨_, _, shape.test, shape.whole_sessions _ (by simp)⟩

theorem filter_slice {cut stop : Nat} {part : DataPartition} {first last : Int}
    (sorted : index.Pairwise (· < ·)) (slice : IsSlice index cut stop part)
    (head : part.index.head? = some first) (final : part.index.getLast? = some last) :
    index.filter (isInside first last) = part.index := by
  have sortedPart : part.index.Pairwise (· < ·) := by
    rw [slice.index_eq, rows]
    exact (sorted.sublist (List.take_sublist _ _)).sublist (List.drop_sublist _ _)
  obtain ⟨inFirst, least⟩ := (head?_sorted_iff sortedPart).mp head
  obtain ⟨inLast, greatest⟩ := (getLast?_sorted_iff sortedPart).mp final
  refine (sorted.filter _).eq_of_mem_iff sortedPart ?_
  intro time
  rw [List.mem_filter, isInside_iff]
  constructor
  · rintro ⟨inIndex, low, high⟩
    rw [slice.index_eq, mem_rows slice.within] at inFirst inLast ⊢
    obtain ⟨i, iInside, rfl⟩ := List.getElem_of_mem inIndex
    obtain ⟨j, jInside, jAbove, _, rfl⟩ := inFirst
    obtain ⟨k, kInside, _, kBelow, rfl⟩ := inLast
    refine ⟨i, iInside, ?_, ?_, rfl⟩
    · by_contra less
      have before := List.pairwise_iff_getElem.mp sorted i j iInside jInside (by omega)
      omega
    · by_contra more
      have after := List.pairwise_iff_getElem.mp sorted k i kInside iInside (by omega)
      omega
  · intro inPart
    have low := least time inPart
    have high := greatest time inPart
    rw [slice.index_eq, mem_rows slice.within] at inPart
    obtain ⟨i, iInside, _, _, rfl⟩ := inPart
    exact ⟨List.getElem_mem iInside, low, high⟩

theorem slice_head {cut stop : Nat} {part : DataPartition} {first : Int}
    (slice : IsSlice index cut stop part) (head : part.index.head? = some first) :
    ∃ inside : cut < index.length, index[cut] = first := by
  have nonempty := slice.nonempty
  have within := slice.within
  have inside : cut < index.length := by omega
  refine ⟨inside, ?_⟩
  have size := rows_length cut within
  rw [slice.index_eq, List.head?_eq_getElem?, List.getElem?_eq_getElem (by omega),
    rows_getElem within, Option.some_inj] at head
  exact head

end Exchange

/-! ## Scoring a window -/

section Scoring
variable {exchange : ExchangeSessions F} {data : List (MarketRow F)} {tables : PortfolioTables F}
  {rows : List (List F)} {first last : Int}

/-- In an accepted table every completed session of every column is read from some bar. -/
theorem closingBar_of_accepted {policy : SessionPolicy F}
    (accepted : equityFrame policy data tables = .ok rows) :
    ∃ interval start stop, SessionsShown policy data interval start stop ∧
      ∀ session ∈ completedIn policy interval start stop, ∀ column ∈ tables.columns,
        ∃ bar, closingBar data (alignedAssets data tables.assetsIndex column) interval session =
          some bar := by
  have passed := equityFrame_ok accepted
  rw [equityFrame_eq passed] at accepted
  obtain ⟨checked, sessions, collected⟩ := bind_eq_ok.mp accepted
  obtain ⟨start, stop, shown, completed⟩ := sessionsShown_of_ok sessions
  refine ⟨checked.1, start, stop, shown, ?_⟩
  intro session member column inTables
  rw [← completed] at member
  obtain ⟨i, iInside, rfl⟩ := List.getElem_of_mem member
  obtain ⟨row, _, rowOk⟩ := collect_getElem? collected (List.getElem?_eq_getElem iInside)
  obtain ⟨j, jInside, rfl⟩ := List.getElem_of_mem inTables
  obtain ⟨value, _, cellOk⟩ := collect_getElem? rowOk (List.getElem?_eq_getElem jInside)
  rw [referenceClosingValue_bar (passed.usable _ (List.getElem_mem jInside))] at cellOk
  cases read : closingBar data (alignedAssets data tables.assetsIndex tables.columns[j]) checked.1
      checked.2[i] with
  | none =>
      rw [read] at cellOk
      cases cellOk
  | some bar => exact ⟨bar, rfl⟩

theorem accepted_of_closingBar {policy : SessionPolicy F} {interval : Int}
    (passed : ValuesChecked data tables.index tables.columns)
    (shown : SessionsShown policy data interval first last)
    (read : ∀ session ∈ completedIn policy interval first last, ∀ column ∈ tables.columns,
      ∃ bar, closingBar data (alignedAssets data tables.assetsIndex column) interval session =
        some bar) : ∃ rows, equityFrame policy data tables = .ok rows := by
  rw [equityFrame_eq passed, shown.completed, bind_ok]
  apply collect_total
  intro session member
  apply collect_total
  intro column inTables
  obtain ⟨bar, found⟩ := read session member column inTables
  obtain ⟨value, present⟩ :=
    valueAt_of_mem (length_of_usable (passed.usable column inTables)) (closingBar_mem found)
  refine ⟨value, ?_⟩
  rw [referenceClosingValue_bar (passed.usable column inTables), found, readBar, present]
  rfl

theorem valuesChecked_window (passed : ValuesChecked data tables.index tables.columns)
    (inFirst : first ∈ timesOf data) (ordered : first ≤ last) :
    ValuesChecked (windowRows data first last) (windowTables data first last tables).index
      (windowTables data first last tables).columns where
  filled := by simpa [windowTables] using passed.filled
  shown := by
    rw [passed.aligned] at inFirst
    exact List.ne_nil_of_mem (List.mem_filter.mpr ⟨inFirst, isInside_iff.mpr ⟨le_rfl, ordered⟩⟩)
  sorted := passed.sorted.filter _
  usable := by
    intro column inTables
    obtain ⟨original, listed, rfl⟩ := List.mem_map.mp inTables
    exact columnIsUsable_window (passed.usable original listed)
  aligned := by rw [timesOf_windowRows, passed.aligned]; rfl

open WalkForward

variable {library : TimeLibrary} {config : WalkForwardConfig} {label : Int → String}
  {alignment : SessionAlignment} {sessions : SessionAssignment (timesOf data)}
  {windows : List WalkForwardWindow} {window : WalkForwardWindow} {part : DataPartition}

/-- The window is accepted and every session of it is read from the bar of the history. -/
def ScoredAsInHistory (exchange : ExchangeSessions F) (data : List (MarketRow F))
    (tables : PortfolioTables F) (first last : Int) : Prop :=
  (∃ windowEquity, equityFrame exchange.policy (windowRows data first last)
    (windowTables data first last tables) = .ok windowEquity) ∧
  ∀ session ∈ completedIn exchange.policy exchange.interval first last,
    ∀ column ∈ tables.columns, ∃ bar,
      closingBar data (alignedAssets data tables.assetsIndex column) exchange.interval session =
          some bar ∧
        closingBar (windowRows data first last)
          (windowAssets data first last tables.assetsIndex column) exchange.interval session =
            some bar

/-- The last session of the window's dates is not under way at its last bar, and the window
holds what the closes of the completed ones are read from. -/
structure HoldsItsSessions (exchange : ExchangeSessions F) (data : List (MarketRow F))
    (first last : Int) : Prop where
  closed : partiallyObserved exchange.policy exchange.interval first last = false
  held : ∀ session ∈ completedIn exchange.policy exchange.interval first last,
    HoldsClose (timesOf data) first last exchange.interval session

theorem sessionsShown_window (windowTimes : (timesOf (windowRows data first last)).head? = some first)
    (windowEnd : (timesOf (windowRows data first last)).getLast? = some last)
    {windowEquity : List (List F)}
    (ok : equityFrame exchange.policy (windowRows data first last)
      (windowTables data first last tables) = .ok windowEquity) :
    SessionsShown exchange.policy (windowRows data first last) exchange.interval first last := by
  obtain ⟨interval, start, stop, shown, -⟩ := closingBar_of_accepted ok
  obtain rfl : exchange.interval = interval := Option.some.inj shown.duration
  have startFirst := shown.firstRow
  have stopLast := shown.lastRow
  rw [← List.head?_map] at startFirst
  rw [← List.getLast?_map] at stopLast
  obtain rfl : first = start := Option.some.inj (windowTimes.symm.trans startFirst)
  obtain rfl : last = stop := Option.some.inj (windowEnd.symm.trans stopLast)
  exact shown

end Scoring

/-! ## Sessions of two half-day bars, one closing bar missing -/

section Samples
open WalkForward

def halfDayExchange : ExchangeSessions Int where
  calendar := halfDayCalendar
  day := utcDay
  interval := halfDay
  statistics _ := (0, 0, 0)
  day_mono := fun before => Int.ediv_le_ediv (by decide) before
  opens := by decide
  disjoint := by decide

def barsAt (times : List Int) : List (MarketRow Int) := times.map fun time => ⟨time, 5, 5, 5, 5⟩

def gapBars (missing : Nat) : List (MarketRow Int) :=
  barsAt (halfDayIndex.filter fun time => time ≠ missing * halfDay)

def flatTables (data : List (MarketRow Int)) : PortfolioTables Int where
  columns := [settingColumn (data.map fun _ => 9) (data.map fun _ => 0)]
  index := timesOf data
  assetsIndex := some (timesOf data)

theorem timesOf_barsAt (times : List Int) : timesOf (barsAt times) = times := by
  rw [timesOf, barsAt, List.map_map]
  exact List.map_id times

def gapSessions (missing : Nat) : SessionAssignment (timesOf (gapBars missing)) where
  dates := (timesOf (gapBars missing)).map utcDay
  length_eq := List.length_map _
  monotone := by
    have increasing : halfDayIndex.Pairwise (· ≤ ·) := by decide
    rw [gapBars, timesOf_barsAt]
    apply List.pairwise_map.mpr
    exact (increasing.filter _).imp fun before => Int.ediv_le_ediv (by decide) before

def gapWindows (missing : Nat) : List WalkForwardWindow :=
  (buildWalkForwardWindows halfDayConfig halfDayLabel (some halfDayAlignment)
    (timesOf (gapBars missing)) (gapSessions missing)).toOption.getD []

def gapEquity (missing : Nat) : List (List Int) :=
  (equityFrame halfDayExchange.policy (gapBars missing)
    (flatTables (gapBars missing))).toOption.getD []

/-- The eighth session lacks its closing bar and ends a test window: the history is accepted
and the window, with three completed sessions, is refused. -/
example :
    equityFrame halfDayExchange.policy (gapBars 15) (flatTables (gapBars 15)) =
        .ok (gapEquity 15) ∧
      equityFrame halfDayExchange.policy
          (windowRows (gapBars 15) (8 * halfDay) (14 * halfDay))
          (windowTables (gapBars 15) (8 * halfDay) (14 * halfDay) (flatTables (gapBars 15))) =
        .error partialFinalSession :=
  ⟨by decide +kernel, by decide +kernel⟩

/-! Twelve sessions that open at noon of the day before their date, none of their bars missing. -/

def overnightCalendar : MarketCalendar where
  sessions := (List.range 12).map fun day =>
    { date := day + 1
      marketOpen := day * nanosPerDay + halfDay
      marketClose := (day + 1) * nanosPerDay + halfDay }
  ordered := by decide
  near := by decide

def overnightLibrary : TimeLibrary :=
  { halfDayLibrary with calendar := fun name => if name = "CME" then some overnightCalendar else none }

def overnightExchange : ExchangeSessions Int :=
  { halfDayExchange with calendar := overnightCalendar, opens := by decide, disjoint := by decide }

def overnightBars : List (MarketRow Int) :=
  barsAt ((List.range 24).map fun bar => (bar + 1) * halfDay)

def overnightSessions : SessionAssignment (timesOf overnightBars) where
  dates := halfDaySessions.dates
  length_eq := by
    rw [overnightBars, timesOf_barsAt]
    rfl
  monotone := halfDaySessions.monotone

def overnightWindows : List WalkForwardWindow :=
  (buildWalkForwardWindows halfDayConfig halfDayLabel (some halfDayAlignment)
    (timesOf overnightBars) overnightSessions).toOption.getD []

end Samples

end QuantFactory.Experiments
