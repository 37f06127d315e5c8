import Mathlib.Algebra.Order.Ring.Rat
import Mathlib.Order.WithBot
import QuantFactory.MarketData.SuspectBarFlags

/-!
# Suspect bars and the order of the rows

On a date without two rows of one timestamp the flags do not depend on the order in which
the rows came, nor on the rows of other dates.
-/

set_option autoImplicit false

namespace QuantFactory.MarketData

open QuantFactory.Library

section Order
variable {F : Type} (newYorkDate : Int → Int) (bars : List (RawBar F)) (date : Int)

def onDate (bar : RawBar F) : Bool := decide (newYorkDate bar.timestamp = date)

def dayBars : List (RawBar F) :=
  (bars.filter (onDate newYorkDate date)).insertionSort fun a b => a.timestamp ≤ b.timestamp

theorem dateRows_bars : (dateRows newYorkDate bars date).map Prod.fst =
    dayBars newYorkDate bars date := by
  have projected : (bars.zipIdx.filter fun entry =>
      decide (newYorkDate entry.1.timestamp = date)).map Prod.fst =
        bars.filter (onDate newYorkDate date) := by
    conv_rhs => rw [← List.zipIdx_map_fst 0 bars, List.filter_map]
    rfl
  rw [dateRows, List.map_insertionSort _ (fun a b : RawBar F => a.timestamp ≤ b.timestamp),
    projected, dayBars]
  intros
  rfl

variable {newYorkDate bars date}

theorem dayBars_eq_of_perm {others : List (RawBar F)}
    (same : (bars.filter (onDate newYorkDate date)).Perm (others.filter (onDate newYorkDate date)))
    (distinct : ((bars.filter (onDate newYorkDate date)).map RawBar.timestamp).Nodup) :
    dayBars newYorkDate bars date = dayBars newYorkDate others date := by
  have trans : IsTrans (RawBar F) fun a b => a.timestamp ≤ b.timestamp := ⟨fun _ _ _ => le_trans⟩
  have total : Std.Total fun a b : RawBar F => a.timestamp ≤ b.timestamp :=
    ⟨fun a b => le_total a.timestamp b.timestamp⟩
  have mine := List.perm_insertionSort (fun a b : RawBar F => a.timestamp ≤ b.timestamp)
    (bars.filter (onDate newYorkDate date))
  have theirs := List.perm_insertionSort (fun a b : RawBar F => a.timestamp ≤ b.timestamp)
    (others.filter (onDate newYorkDate date))
  apply List.Perm.eq_of_pairwise ?_ (List.pairwise_insertionSort _ _)
    (List.pairwise_insertionSort _ _) (mine.trans (same.trans theirs.symm))
  intro a b inMine inTheirs below above
  exact List.inj_on_of_nodup_map distinct (mine.mem_iff.mp inMine)
    (same.mem_iff.mpr (theirs.mem_iff.mp inTheirs)) (le_antisymm below above)

theorem datePosition_eq {entry : RawBar F × Nat} (there : bars[entry.2]? = some entry.1)
    (on : newYorkDate entry.1.timestamp = date)
    (distinct : ((bars.filter (onDate newYorkDate date)).map RawBar.timestamp).Nodup) :
    datePosition newYorkDate bars entry =
      ((dayBars newYorkDate bars date).map RawBar.timestamp).idxOf entry.1.timestamp := by
  obtain ⟨k, atDate, number⟩ := dateRows_at newYorkDate there
  rw [on] at atDate number
  have times : ((dayBars newYorkDate bars date).map RawBar.timestamp).Nodup := by
    have perm := (List.perm_insertionSort (fun a b : RawBar F => a.timestamp ≤ b.timestamp)
      (bars.filter (onDate newYorkDate date))).map RawBar.timestamp
    exact perm.nodup_iff.mpr distinct
  have read : ((dayBars newYorkDate bars date).map RawBar.timestamp)[k]? =
      some entry.1.timestamp := by
    rw [← dateRows_bars, List.getElem?_map, List.getElem?_map, atDate]
    rfl
  obtain ⟨within, value⟩ := List.getElem?_eq_some_iff.mp read
  rw [datePosition, on, number, ← value, times.idxOf_getElem]

theorem zip_map_zipIdx {β : Type} (f : RawBar F × Nat → β) :
    bars.zip (bars.zipIdx.map f) = bars.zipIdx.map fun entry => (entry.1, f entry) := by
  have zipped : (bars.zipIdx.map Prod.fst).zip (bars.zipIdx.map f) =
      bars.zipIdx.map fun entry => (entry.1, f entry) := List.zip_map'
  rwa [List.zipIdx_map_fst] at zipped

variable [LinearOrder F] {arithmetic : PriceArithmetic F} {window : Nat} {maxi : F}

theorem documentedFlags_onDate
    (distinct : ((bars.filter (onDate newYorkDate date)).map RawBar.timestamp).Nodup) :
    (bars.zip (documentedFlags newYorkDate bars arithmetic window maxi)).filter
        (fun row => onDate newYorkDate date row.1) =
      (bars.filter (onDate newYorkDate date)).map fun bar =>
        (bar, suspectBar arithmetic window maxi (dayBars newYorkDate bars date)
          (((dayBars newYorkDate bars date).map RawBar.timestamp).idxOf bar.timestamp)) := by
  have paired : bars.zip (documentedFlags newYorkDate bars arithmetic window maxi) =
      bars.zipIdx.map fun entry =>
        (entry.1, suspectBar arithmetic window maxi
          ((dateRows newYorkDate bars (newYorkDate entry.1.timestamp)).map Prod.fst)
          (datePosition newYorkDate bars entry)) := zip_map_zipIdx _
  conv_rhs => rw [← List.zipIdx_map_fst 0 bars, List.filter_map, List.map_map]
  rw [paired, List.filter_map]
  apply List.map_congr_left
  intro entry member
  obtain ⟨inBars, held⟩ := List.mem_filter.mp member
  have on : newYorkDate entry.1.timestamp = date := of_decide_eq_true held
  have there := List.mem_zipIdx_iff_getElem?.mp inBars
  simp only [Function.comp_apply, on, dateRows_bars, datePosition_eq there on distinct,
    List.zipIdx_map_fst]

end Order

section Answers
variable {F : Type} [LinearOrder F] {library : OutlierLibrary F} {arithmetic : PriceArithmetic F}
  (laws : library.Documented arithmetic) {newYorkDate : Int → Int} (monotone : Monotone newYorkDate)
  {bars : List (RawBar F)} {maxi : F} {batchRows : Nat}

variable (maxi) in
include laws monotone in
/-- A positive even window is answered by the rule of the dates. -/
theorem flagSuspectBars_ok {half : Nat} (positive : 0 < half) (batches : 0 < batchRows)
    (doubles : PricesDouble bars arithmetic) :
    ∃ counts, flagSuspectBars library arithmetic batchRows newYorkDate bars ((2 * half : Nat) : Int)
        maxi = .ok ⟨documentedFlags newYorkDate bars arithmetic (2 * half) maxi, counts⟩ := by
  have even : (((2 * half : Nat) : Int) % 2 != 0) = false := by
    have zero : ((2 * half : Nat) : Int) % 2 = 0 := by omega
    rw [zero]
    rfl
  have bounds : blockBounds (if inOrder (argsort (bars.map RawBar.timestamp)) then
      bars.map fun bar => newYorkDate bar.timestamp
      else taken (bars.map fun bar => newYorkDate bar.timestamp)
        (argsort (bars.map RawBar.timestamp))) = dateBounds newYorkDate bars := by
    rw [sorted_column]
    rfl
  have column : ∀ price ∈ (suspectColumns (F := F)).map Prod.snd,
      columnFlags library arithmetic batchRows bars (argsort (bars.map RawBar.timestamp))
        (dateBounds newYorkDate bars) ((2 * half : Nat) : Int) maxi price =
      .ok (bars.zipIdx.map fun entry =>
        suspectPrice arithmetic (2 * half) (datePrices newYorkDate bars price entry)
          (datePosition newYorkDate bars entry) maxi) := by
    intro price member
    obtain ⟨named, inColumns, rfl⟩ := List.mem_map.mp member
    exact columnFlags_of_dates laws monotone positive batches _ maxi
      fun bar inBars => doubles bar inBars named inColumns
  simp only [flagSuspectBars, even, raiseIf, Bool.false_eq_true, if_false, bind_ok, bounds]
  by_cases empty : bars = []
  · subst empty
    exact ⟨_, rfl⟩
  · rw [if_neg (by simpa using empty)]
    simp only [suspectColumns, List.map_cons, List.map_nil, List.forall_mem_cons] at column
    obtain ⟨high, low, close, -⟩ := column
    simp only [suspectColumns, collect, high, low, close, bind_ok]
    refine ⟨_, congrArg Except.ok (congrArg₂ SuspectBars.mk ?_ rfl)⟩
    simp only [logicalOrReduce, List.foldl_cons, List.foldl_nil, List.zipWith_map, List.zipWith_self,
      documentedFlags, suspectBar, suspectColumns, List.any_cons, List.any_nil, Bool.or_false,
      List.map_map]
    apply List.map_congr_left
    intro entry _
    rw [Bool.or_assoc]
    rfl

include laws in
/-- Without a positive window there is no rank filter to compute. -/
theorem flagSuspectBars_refuses {window : Int} (even : window % 2 = 0) (negative : window ≤ 0)
    (some : bars ≠ []) :
    ∃ message, flagSuspectBars library arithmetic batchRows newYorkDate bars window maxi =
      .error (.rankFilter message) := by
  have guard : (window % 2 != 0) = false := by
    rw [even]
    rfl
  have column : ∀ values bounds, ∃ message,
      flagColumn library arithmetic batchRows values bounds window maxi =
        .error (.rankFilter message) := by
    intro values bounds
    obtain ⟨message, refused⟩ := laws.refuses values ((window - 1) / 2) window (window / 2 - 1)
      negative
    rw [flagColumn]
    simp only [criterion]
    cases library.rankFilter values (window / 2 - 1) (window + 1) 0 with
    | error message => exact ⟨message, rfl⟩
    | ok low =>
        cases library.rankFilter values (window / 2) (window + 1) 0 with
        | error message => exact ⟨message, rfl⟩
        | ok high =>
            rw [refused]
            exact ⟨message, rfl⟩
  simp only [flagSuspectBars, guard, raiseIf, Bool.false_eq_true, if_false, bind_ok]
  rw [if_neg (by simpa using some)]
  simp only [suspectColumns, collect, columnFlags]
  obtain ⟨message, refused⟩ := column
    (if inOrder (argsort (bars.map RawBar.timestamp)) then bars.map RawBar.high
      else taken (bars.map RawBar.high) (argsort (bars.map RawBar.timestamp)))
    (blockBounds (if inOrder (argsort (bars.map RawBar.timestamp)) then
      bars.map fun bar => newYorkDate bar.timestamp
      else taken (bars.map fun bar => newYorkDate bar.timestamp)
        (argsort (bars.map RawBar.timestamp))))
  rw [refused]
  exact ⟨message, rfl⟩

include laws monotone in
/-- What the rule of the dates gives does not depend on the bars of other dates, on the batches
or, timestamps being distinct, on the order of the rows. -/
theorem flags_of_one_date {others : List (RawBar F)} {otherBatch : Nat} {window date : Int}
    {answer otherAnswer : SuspectBars} (even : window % 2 = 0) (positive : 0 < window)
    (batches : 0 < batchRows) (otherBatches : 0 < otherBatch)
    (doubles : PricesDouble bars arithmetic) (otherDoubles : PricesDouble others arithmetic)
    (same : (bars.filter (onDate newYorkDate date)).Perm (others.filter (onDate newYorkDate date)))
    (distinct : ((bars.filter (onDate newYorkDate date)).map RawBar.timestamp).Nodup)
    (ok : flagSuspectBars library arithmetic batchRows newYorkDate bars window maxi = .ok answer)
    (otherOk : flagSuspectBars library arithmetic otherBatch newYorkDate others window maxi =
      .ok otherAnswer) :
    ((bars.zip answer.flags).filter fun row => onDate newYorkDate date row.1).Perm
      ((others.zip otherAnswer.flags).filter fun row => onDate newYorkDate date row.1) := by
  obtain ⟨half, rfl⟩ : ∃ half : Nat, window = ((2 * half : Nat) : Int) :=
    ⟨(window / 2).toNat, by omega⟩
  obtain ⟨counts, answered⟩ := flagSuspectBars_ok laws monotone maxi
    (by omega : 0 < half) batches doubles
  obtain ⟨otherCounts, otherAnswered⟩ := flagSuspectBars_ok laws monotone maxi
    (by omega : 0 < half) otherBatches otherDoubles
  rw [answered] at ok
  rw [otherAnswered] at otherOk
  rw [← Except.ok.inj ok, ← Except.ok.inj otherOk, documentedFlags_onDate distinct,
    documentedFlags_onDate ((same.map RawBar.timestamp).nodup_iff.mp distinct),
    dayBars_eq_of_perm same distinct]
  exact same.map _

end Answers

/-- For every frame with distinct timestamps on a date and prices that double without overflow. -/
theorem suspect_bars_follow_the_rule_of_their_date {F : Type} [LinearOrder F]
    {library : OutlierLibrary F} {arithmetic : PriceArithmetic F}
    (laws : library.Documented arithmetic) {newYorkDate : Int → Int}
    (monotone : Monotone newYorkDate) (window : Int) (even : window % 2 = 0) (maxi : F) :
    (∀ (bars : List (RawBar F)) (batchRows : Nat), 0 < window → 0 < batchRows →
      PricesDouble bars arithmetic →
        (∀ column ∈ suspectColumns (F := F),
          criterion library arithmetic batchRows
              ((sortedEntries RawBar.timestamp bars).map fun entry => column.2 entry.1)
              (repeated (dateBounds newYorkDate bars).dropLast
                (differences (dateBounds newYorkDate bars)))
              (repeated (dateBounds newYorkDate bars).tail
                (differences (dateBounds newYorkDate bars))) window =
            .ok ((sortedEntries RawBar.timestamp bars).map fun entry =>
              dateCriterion arithmetic window.toNat (datePrices newYorkDate bars column.2 entry)
                (datePosition newYorkDate bars entry))) ∧
        ∃ counts, flagSuspectBars library arithmetic batchRows newYorkDate bars window maxi =
          .ok ⟨documentedFlags newYorkDate bars arithmetic window.toNat maxi, counts⟩) ∧
    (∀ (bars : List (RawBar F)) (batchRows : Nat), window ≤ 0 → bars ≠ [] →
      ∃ message, flagSuspectBars library arithmetic batchRows newYorkDate bars window maxi =
        .error (.rankFilter message)) ∧
    ∀ (bars others : List (RawBar F)) (batchRows otherBatch : Nat) (date : Int)
      (answer otherAnswer : SuspectBars), 0 < window → 0 < batchRows → 0 < otherBatch →
      PricesDouble bars arithmetic → PricesDouble others arithmetic →
      (bars.filter (onDate newYorkDate date)).Perm (others.filter (onDate newYorkDate date)) →
      ((bars.filter (onDate newYorkDate date)).map RawBar.timestamp).Nodup →
      flagSuspectBars library arithmetic batchRows newYorkDate bars window maxi = .ok answer →
      flagSuspectBars library arithmetic otherBatch newYorkDate others window maxi =
        .ok otherAnswer →
      ((bars.zip answer.flags).filter fun row => onDate newYorkDate date row.1).Perm
        ((others.zip otherAnswer.flags).filter fun row => onDate newYorkDate date row.1) := by
  refine ⟨?_, fun bars batchRows => flagSuspectBars_refuses laws even, ?_⟩
  · intro bars batchRows positive batches doubles
    obtain ⟨half, rfl⟩ : ∃ half : Nat, window = ((2 * half : Nat) : Int) :=
      ⟨(window / 2).toNat, by omega⟩
    have some : 0 < half := by omega
    refine ⟨fun column member => ?_, flagSuspectBars_ok laws monotone maxi some batches doubles⟩
    exact criterion_of_dates laws monotone some batches column.2
      fun bar inBars => doubles bar inBars column member
  · intro bars others batchRows otherBatch date answer otherAnswer positive batches otherBatches
      doubles otherDoubles same distinct ok otherOk
    exact flags_of_one_date laws monotone even positive batches otherBatches doubles otherDoubles
      same distinct ok otherOk

section Samples

/-- `mode="nearest"`: past an edge the edge value is repeated. -/
def nearestWindow {F : Type} (values : List F) (start : Int) (size : Nat) : List F :=
  (List.range size).filterMap fun step : Nat =>
    values[(max 0 (min (start + step) ((values.length : Int) - 1))).toNat]?

def nearestRankFilter {F : Type} [LinearOrder F] (values : List F) (rank size origin : Int) :
    Except String (List F) :=
  let rank := if rank < 0 then rank + size else rank
  if rank < 0 ∨ size ≤ rank then .error "rank not within filter footprint size"
  else if origin < -(size / 2) ∨ (size - 1) / 2 < origin then .error "invalid origin"
  else .ok (values.zipIdx.map fun entry =>
    ((ascending (nearestWindow values (entry.2 - size / 2 - origin) size.toNat))[rank.toNat]?).getD
      entry.1)

theorem nearestWindow_inside {F : Type} {values : List F} {start size : Nat}
    (inside : start + size ≤ values.length) :
    nearestWindow values start size = (values.drop start).take size := by
  induction size with
  | zero => simp [nearestWindow]
  | succ size ih =>
      have within : start + size < values.length := by omega
      have clipped : (max 0 (min ((start : Int) + (size : Nat)) ((values.length : Int) - 1))).toNat =
          start + size := by omega
      have last : nearestWindow values start (size + 1) =
          nearestWindow values start size ++ [values[start + size]] := by
        rw [nearestWindow, List.range_succ, List.filterMap_append, ← nearestWindow]
        congr 1
        rw [List.filterMap_cons, clipped, List.getElem?_eq_getElem within]
        rfl
      rw [last, ih (by omega), List.take_add_one, List.getElem?_drop,
        List.getElem?_eq_getElem within]
      rfl

/-- The library on a kind of number: rank filters by definition, group medians by sorting. -/
def sortingLibrary {F : Type} [LinearOrder F] (arithmetic : PriceArithmetic F) (zero : F) :
    OutlierLibrary F where
  rankFilter := nearestRankFilter
  groupMedian values := (plainMedian arithmetic values).getD zero

theorem plainMedian_isSome {F : Type} [LinearOrder F] (arithmetic : PriceArithmetic F)
    {values : List F} (some : values ≠ []) : ∃ median, plainMedian arithmetic values = .some median := by
  have length := List.length_pos_iff.mpr some
  rw [plainMedian]
  split
  · have within : values.length / 2 < (ascending values).length := by
      rw [length_ascending]
      omega
    exact ⟨_, List.getElem?_eq_getElem within⟩
  · have within : values.length / 2 < (ascending values).length := by
      rw [length_ascending]
      omega
    have before : values.length / 2 - 1 < (ascending values).length := by omega
    rw [List.getElem?_eq_getElem within, List.getElem?_eq_getElem before]
    exact ⟨_, rfl⟩

theorem sortingLibrary_documented {F : Type} [LinearOrder F] (arithmetic : PriceArithmetic F)
    (zero : F) : (sortingLibrary arithmetic zero).Documented arithmetic where
  ranks values rank size origin nonneg below left right := by
    have kept : (if rank < 0 then rank + size else rank) = rank := if_neg (by omega)
    simp only [sortingLibrary, nearestRankFilter, kept]
    rw [if_neg (by omega), if_neg (by omega)]
    refine ⟨_, rfl, by rw [List.length_map, List.length_zipIdx], fun i low high => ?_⟩
    obtain ⟨start, placed⟩ := Int.eq_ofNat_of_zero_le low
    have within : i < values.length := by omega
    rw [List.getElem?_map, List.getElem?_zipIdx, List.getElem?_eq_getElem within, Option.map_some,
      Option.map_some]
    simp only [Nat.zero_add, placed, Int.toNat_natCast]
    rw [nearestWindow_inside (by omega)]
    have inWindow : rank.toNat <
        (ascending ((values.drop start).take size.toNat)).length := by
      rw [length_ascending, List.length_take, List.length_drop]
      omega
    rw [List.getElem?_eq_getElem inWindow]
    rfl
  refuses values rank size origin negative := by
    refine ⟨"rank not within filter footprint size", ?_⟩
    simp only [sortingLibrary, nearestRankFilter]
    rw [if_pos]
    split <;> omega
  median values some := by
    obtain ⟨median, found⟩ := plainMedian_isSome arithmetic some
    simp only [sortingLibrary, found, Option.getD_some]

/-- The doubles that occur in the samples: rationals, and infinity from the overflow on. -/
def overflowAt : ℚ := 2 ^ 1024

def rounded (value : ℚ) : WithTop ℚ := if overflowAt ≤ value then ⊤ else value

def doubleArithmetic : PriceArithmetic (WithTop ℚ) where
  middle a b := match a, b with
    | some a, some b => (rounded (a + b)).map (· / 2)
    | _, _ => ⊤
  distance a b := match a, b with
    | some a, some b => rounded |a - b|
    | _, _ => ⊤
  scaled a := match a with
    | some a => rounded (14826 / 10000 * a)
    | none => ⊤
  minMad := ((1 / 100 : ℚ) : WithTop ℚ)
  times a b := match a, b with
    | some a, some b => some (rounded (a * b))
    | _, _ => some ⊤

def flatBar (timestamp : Int) (price : ℚ) : RawBar (WithTop ℚ) :=
  ⟨timestamp, price, price, price, price, price, none, price⟩

def sampleFlags (bars : List (RawBar (WithTop ℚ))) : Except SuspectBarError SuspectBars :=
  flagSuspectBars (sortingLibrary doubleArithmetic ⊤) doubleArithmetic edgeBatchRows (· / 100) bars 2
    ((10 : ℚ) : WithTop ℚ)

def spikeBars : List (RawBar (WithTop ℚ)) :=
  [flatBar 4 100, flatBar 1 100, flatBar 3 50, flatBar 2 100, flatBar 5 100, flatBar 100 50]

theorem spike_is_flagged : ∃ counts, sampleFlags spikeBars =
    .ok ⟨[false, false, true, false, false, false], counts⟩ := by
  have flags : documentedFlags (· / 100) spikeBars doubleArithmetic (2 : Int).toNat
      ((10 : ℚ) : WithTop ℚ) = [false, false, true, false, false, false] := by decide +kernel
  have monotone : Monotone fun timestamp : Int => timestamp / 100 :=
    fun _ _ below => Int.ediv_le_ediv (by decide) below
  have doubles : PricesDouble spikeBars doubleArithmetic := by
    unfold PricesDouble
    decide +kernel
  rw [← flags]
  exact ((suspect_bars_follow_the_rule_of_their_date
    (sortingLibrary_documented doubleArithmetic ⊤) monotone 2 (by decide) ((10 : ℚ) : WithTop ℚ)).1
      spikeBars edgeBatchRows (by decide) (by decide) doubles).2

/-- Three rows of one timestamp, in two orders, and two prices whose sum overflows. -/
def tiedBars (rows : List ℚ) : List (RawBar (WithTop ℚ)) :=
  [flatBar 0 100, flatBar 1 100, flatBar 2 100, flatBar 3 50] ++ rows.map (flatBar 4) ++
    [flatBar 5 100, flatBar 6 100, flatBar 7 100]

def hugeBars : List (RawBar (WithTop ℚ)) :=
  [flatBar 0 (3 * 2 ^ 1022), flatBar 1 (3 * 2 ^ 1022)]

def flagsOf (bars : List (RawBar (WithTop ℚ))) : List Bool :=
  match sampleFlags bars with
  | .ok answer => answer.flags
  | .error _ => []

theorem tied_rows_and_huge_prices_are_flagged_otherwise :
    ((tiedBars [50, 100, 100]).Perm (tiedBars [100, 100, 50]) ∧
      ¬ ((tiedBars [50, 100, 100]).zip (flagsOf (tiedBars [50, 100, 100]))).Perm
        ((tiedBars [100, 100, 50]).zip (flagsOf (tiedBars [100, 100, 50])))) ∧
    flagsOf hugeBars ≠
      documentedFlags (· / 100) hugeBars doubleArithmetic 2 ((10 : ℚ) : WithTop ℚ) := by
  decide +kernel

end Samples

end QuantFactory.MarketData
