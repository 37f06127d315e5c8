import Mathlib.Data.Rat.Floor
import Mathlib.Algebra.Order.Round
import QuantFactory.Library.OrderedCuts
import QuantFactory.Library.Outcome

/-!
# The chronological split

`backtesting/out_of_sample/splitter.py`: market data is cut on whole calendar days into
train, selection and test.  The days of the index in its own time zone are what pandas
computes, a `DayCalendar`; the fractions are floats, whose values are rationals and whose
operations round.
-/

set_option autoImplicit false

namespace QuantFactory.OutOfSample

open QuantFactory.Library

/-- The time zone of an index.  `normalize` gives the midnight that begins an instant's day
and raises when that midnight occurs twice or not at all, so that where it answers the days
follow the instants. -/
structure DayCalendar (T D : Type) [LinearOrder T] [LinearOrder D] where
  normalize : T → Option D
  dateText : T → String
  normalize_mono : ∀ {first second : T} {day later : D}, first ≤ second →
    normalize first = some day → normalize second = some later → day ≤ later

structure FloatRounding where
  round : ℚ → ℚ
  round_nonneg : ∀ x, 0 ≤ x → 0 ≤ round x

/-- `int(x)`. -/
def truncate (x : ℚ) : ℤ := if 0 ≤ x then ⌊x⌋ else ⌈x⌉

theorem truncate_nonneg {x : ℚ} (nonneg : 0 ≤ x) : 0 ≤ truncate x := by
  rw [truncate, if_pos nonneg]
  exact Int.floor_nonneg.mpr nonneg

namespace FloatRounding

def add (floats : FloatRounding) (x y : ℚ) : ℚ := floats.round (x + y)

/-- One more summand: the total, and what rounding has lost so far. -/
def compensate (floats : FloatRounding) (state : ℚ × ℚ) (x : ℚ) : ℚ × ℚ :=
  let total := floats.add state.1 x
  let lost := if |x| ≤ |state.1| then floats.add (floats.add state.1 (-total)) x
    else floats.add (floats.add x (-total)) state.1
  (total, floats.add state.2 lost)

/-- `sum` of floats, which carries what rounding loses along. -/
def sum (floats : FloatRounding) : List ℚ → ℚ
  | [] => 0
  | first :: rest =>
      let (total, lost) := rest.foldl floats.compensate (first, 0)
      if lost = 0 then total else floats.add total lost

/-- `int(count * fraction)`, where `none` is NaN. -/
def share (floats : FloatRounding) (count : Nat) : Option ℚ → Except String ℤ
  | none => .error "cannot convert float NaN to integer"
  | some fraction => .ok (truncate (floats.round (floats.round count * fraction)))

theorem share_nonneg (floats : FloatRounding) {count : Nat} {fraction : Option ℚ} {days : ℤ}
    (positive : ∀ x ∈ fraction, 0 < x) (ok : floats.share count fraction = .ok days) :
    0 ≤ days := by
  cases fraction with
  | none => cases ok
  | some x =>
      cases ok
      have whole : 0 ≤ floats.round count := floats.round_nonneg count (Nat.cast_nonneg count)
      exact truncate_nonneg (floats.round_nonneg _ (mul_nonneg whole (positive x rfl).le))

end FloatRounding

/-- The position a slice bound stands for; a negative one counts from the end. -/
def sliceBound (length : Nat) (bound : ℤ) : Nat :=
  if 0 ≤ bound then bound.toNat else length - (-bound).toNat

/-- `items[:stop]`. -/
def sliceTo {α : Type} (stop : ℤ) (items : List α) : List α :=
  items.take (sliceBound items.length stop)

/-- `items[start:]`. -/
def sliceFrom {α : Type} (start : ℤ) (items : List α) : List α :=
  items.drop (sliceBound items.length start)

/-- `items[start:stop]`. -/
def slice {α : Type} (start stop : ℤ) (items : List α) : List α :=
  (items.take (sliceBound items.length stop)).drop (sliceBound items.length start)

/-- What `__post_init__` lets through: NaN, `none` here, fails no comparison. -/
structure ChronologicalSplitConfig (floats : FloatRounding) where
  trainFraction : Option ℚ
  selectionFraction : Option ℚ
  testFraction : Option ℚ
  minimumRowsPerPartition : Nat
  between : ∀ value ∈ [trainFraction, selectionFraction, testFraction],
    ∀ x ∈ value, 0 < x ∧ x < 1
  sum_one : ∀ x ∈ trainFraction, ∀ y ∈ selectionFraction, ∀ z ∈ testFraction,
    |floats.add (floats.sum [x, y, z]) (-1)| ≤ floats.round (1 / 10 ^ 12)
  minimum_positive : 1 ≤ minimumRowsPerPartition

structure MarketFrame (T R : Type) where
  columns : List String
  rows : List (T × R)
  deriving DecidableEq

namespace MarketFrame
variable {T R : Type}

def index (data : MarketFrame T R) : List T := data.rows.map Prod.fst

def empty (data : MarketFrame T R) : Bool := data.rows.isEmpty || data.columns.isEmpty

/-- `data[days.isin(selected)]`. -/
def onDays {D : Type} [BEq D] (data : MarketFrame T R) (days selected : List D) :
    MarketFrame T R :=
  { data with
    rows := ((data.rows.zip days).filter fun entry => selected.contains entry.2).map Prod.fst }

end MarketFrame

structure DataPartition (T R : Type) where
  name : String
  data : MarketFrame T R
  start : String
  stop : String
  rowCount : Nat
  deriving DecidableEq

structure ChronologicalSplit (T R : Type) where
  train : DataPartition T R
  selection : DataPartition T R
  test : DataPartition T R
  deriving DecidableEq

section Split
variable {T D R : Type} [LinearOrder T] [LinearOrder D]

def partition (calendar : DayCalendar T D) (name : String) (data : MarketFrame T R) :
    Except String (DataPartition T R) := do
  let first ← orRaise data.index.head? "index 0 is out of bounds for axis 0 with size 0"
  let last ← orRaise data.index.getLast? "index -1 is out of bounds for axis 0 with size 0"
  .ok { name, data, start := calendar.dateText first, stop := calendar.dateText last,
        rowCount := data.rows.length }

def requireRows (minimum : Nat) (name : String) (frame : MarketFrame T R) : Except String Unit :=
  raiseIf (decide (frame.rows.length < minimum))
    (name ++ " partition has " ++ toString frame.rows.length ++ " rows; requires at least " ++
      toString minimum)

def splitOnDays (calendar : DayCalendar T D) {floats : FloatRounding}
    (config : ChronologicalSplitConfig floats) (data : MarketFrame T R) (days : List D) :
    Except String (ChronologicalSplit T R) := do
  let uniqueDays := days.eraseDups
  let trainEnd ← floats.share uniqueDays.length config.trainFraction
  let selectionDays ← floats.share uniqueDays.length config.selectionFraction
  let selectionEnd := trainEnd + selectionDays
  let train := data.onDays days (sliceTo trainEnd uniqueDays)
  let selection := data.onDays days (slice trainEnd selectionEnd uniqueDays)
  let test := data.onDays days (sliceFrom selectionEnd uniqueDays)
  requireRows config.minimumRowsPerPartition "train" train
  requireRows config.minimumRowsPerPartition "selection" selection
  requireRows config.minimumRowsPerPartition "test" test
  let trainPartition ← partition calendar "train" train
  let selectionPartition ← partition calendar "selection" selection
  let testPartition ← partition calendar "test" test
  raiseIf (!(decide (trainPartition.stop < selectionPartition.start) &&
      decide (selectionPartition.start < testPartition.start)))
    "chronological partitions overlap or are out of order"
  .ok ⟨trainPartition, selectionPartition, testPartition⟩

def splitChronologically (calendar : DayCalendar T D) {floats : FloatRounding}
    (config : ChronologicalSplitConfig floats) (data : MarketFrame T R) :
    Except String (ChronologicalSplit T R) := do
  raiseIf data.empty "cannot split empty market data"
  raiseIf (!decide (data.index.Pairwise (· ≤ ·)))
    "market data must be sorted in increasing time order"
  raiseIf (!decide data.index.Nodup) "market data index must be unique"
  let days ← orRaise (data.index.mapM calendar.normalize)
    "Cannot infer dst time, or the midnight of a day does not exist"
  splitOnDays calendar config data days

def inSampleSlice (calendar : DayCalendar T D) {floats : FloatRounding}
    (config : ChronologicalSplitConfig floats) (data : MarketFrame T R) :
    Except String (MarketFrame T R) := do
  let split ← splitChronologically calendar config data
  let first ← orRaise split.test.data.index.head? "index 0 is out of bounds for axis 0 with size 0"
  .ok { data with rows := data.rows.filter fun row => decide (row.1 < first) }

/-! ## What the split keeps -/

def dated (data : MarketFrame T R) (days : List D) : List ((T × R) × D) := data.rows.zip days

section Dated
variable {calendar : DayCalendar T D} {data : MarketFrame T R} {days : List D}

theorem normalize_of_dated (normalized : data.index.mapM calendar.normalize = some days)
    {entry : (T × R) × D} (member : entry ∈ dated data days) :
    calendar.normalize entry.1.1 = some entry.2 := by
  have zipped : (entry.1.1, entry.2) ∈ data.index.zip days := by
    rw [MarketFrame.index, List.zip_map_left]
    exact List.mem_map.mpr ⟨entry, member, rfl⟩
  exact mem_zip_of_mapM normalized zipped

theorem dated_rows (normalized : data.index.mapM calendar.normalize = some days) :
    (dated data days).map Prod.fst = data.rows := by
  have length : days.length = data.rows.length := by
    rw [length_of_mapM normalized, MarketFrame.index, List.length_map]
  exact List.map_fst_zip (by omega)

theorem dated_days (normalized : data.index.mapM calendar.normalize = some days) :
    (dated data days).map Prod.snd = days := by
  have length : days.length = data.rows.length := by
    rw [length_of_mapM normalized, MarketFrame.index, List.length_map]
  exact List.map_snd_zip (by omega)

theorem dated_sorted (normalized : data.index.mapM calendar.normalize = some days)
    (sorted : data.index.Pairwise (· ≤ ·)) :
    (dated data days).Pairwise fun a b => a.1.1 ≤ b.1.1 ∧ a.2 ≤ b.2 := by
  have instants : (dated data days).Pairwise fun a b => a.1.1 ≤ b.1.1 := by
    have mapped : ((dated data days).map fun entry => entry.1.1).Pairwise (· ≤ ·) := by
      have index : (dated data days).map (fun entry => entry.1.1) = data.index := by
        rw [MarketFrame.index, ← dated_rows normalized, List.map_map]
        rfl
      rwa [index]
    exact List.pairwise_map.mp mapped
  refine instants.imp_of_mem ?_
  intro a b inA inB before
  exact ⟨before, calendar.normalize_mono before (normalize_of_dated normalized inA)
    (normalize_of_dated normalized inB)⟩

theorem days_sorted (normalized : data.index.mapM calendar.normalize = some days)
    (sorted : data.index.Pairwise (· ≤ ·)) : days.Pairwise (· ≤ ·) := by
  rw [← dated_days normalized]
  exact List.pairwise_map.mpr ((dated_sorted normalized sorted).imp And.right)

end Dated

section Cuts
variable {calendar : DayCalendar T D} {data : MarketFrame T R} {days : List D}

/-- The day of a row is among the first `count`. -/
def amongFirst (days : List D) (count : Nat) (entry : (T × R) × D) : Bool :=
  (days.eraseDups.take count).contains entry.2

omit [LinearOrder T] in
theorem amongFirst_mono {first second : Nat} (least : first ≤ second) {entry : (T × R) × D}
    (among : amongFirst days first entry = true) : amongFirst days second entry = true := by
  rw [amongFirst, List.contains_iff_mem] at among ⊢
  exact List.take_subset_take_left _ least among

theorem amongFirst_lost (normalized : data.index.mapM calendar.normalize = some days)
    (sorted : data.index.Pairwise (· ≤ ·)) (count : Nat) :
    (dated data days).Pairwise fun a b =>
      amongFirst days count b = true → amongFirst days count a = true := by
  refine (dated_sorted normalized sorted).imp_of_mem ?_
  intro a b inA _ before among
  rw [amongFirst, List.contains_iff_mem] at among ⊢
  have listed : a.2 ∈ days := by
    rw [← dated_days normalized]
    exact List.mem_map_of_mem inA
  exact mem_take_of_le (eraseDups_sorted days (days_sorted normalized sorted))
    (List.mem_eraseDups.mpr listed) before.2 among

omit [LinearOrder T] in
/-- A row is on a later day exactly when its day is not among the first ones. -/
theorem contains_drop (sorted : days.Pairwise (· ≤ ·)) (count : Nat) {entry : (T × R) × D}
    (listed : entry.2 ∈ days) :
    (days.eraseDups.drop count).contains entry.2 = !amongFirst days count entry := by
  have distinct := eraseDups_sorted days sorted
  cases among : amongFirst days count entry with
  | true =>
      rw [amongFirst, List.contains_iff_mem] at among
      simp only [Bool.not_true, Bool.eq_false_iff, ne_eq, List.contains_iff_mem]
      intro dropped
      exact not_mem_take_of_mem_drop distinct dropped among
  | false =>
      simp only [Bool.not_false, List.contains_iff_mem]
      have whole := List.mem_eraseDups.mpr listed
      rw [← List.take_append_drop count days.eraseDups] at whole
      rcases List.mem_append.mp whole with taken | dropped
      · rw [amongFirst, Bool.eq_false_iff, ne_eq, List.contains_iff_mem] at among
        exact absurd taken among
      · exact dropped

omit [LinearOrder T] in
theorem contains_between (sorted : days.Pairwise (· ≤ ·)) {first second : Nat}
    (least : first ≤ second) {entry : (T × R) × D} (listed : entry.2 ∈ days) :
    ((days.eraseDups.take second).drop first).contains entry.2 =
      (amongFirst days second entry && !amongFirst days first entry) := by
  rw [← contains_drop sorted first listed, Bool.eq_iff_iff, Bool.and_eq_true, amongFirst,
    List.contains_iff_mem, List.contains_iff_mem, List.contains_iff_mem]
  constructor
  · intro member
    refine ⟨List.mem_of_mem_drop member, ?_⟩
    exact (List.take_sublist second days.eraseDups).drop first |>.subset member
  · rintro ⟨taken, dropped⟩
    have distinct := eraseDups_sorted days sorted
    have notFirst := not_mem_take_of_mem_drop distinct dropped
    have split := List.take_append_drop first (days.eraseDups.take second)
    rw [← split] at taken
    rcases List.mem_append.mp taken with early | between
    · rw [List.take_take, Nat.min_eq_left least] at early
      exact absurd early notFirst
    · exact between

theorem three_cuts (normalized : data.index.mapM calendar.normalize = some days)
    (sorted : data.index.Pairwise (· ≤ ·)) {first second : Nat} (least : first ≤ second) :
    (data.onDays days (days.eraseDups.take first)).rows ++
        (data.onDays days ((days.eraseDups.take second).drop first)).rows ++
        (data.onDays days (days.eraseDups.drop second)).rows = data.rows := by
  have daysInOrder := days_sorted normalized sorted
  have listed : ∀ entry ∈ dated data days, entry.2 ∈ days := by
    intro entry member
    rw [← dated_days normalized]
    exact List.mem_map_of_mem member
  have between : (dated data days).filter
        (fun entry => ((days.eraseDups.take second).drop first).contains entry.2) =
      ((dated data days).filter (amongFirst days second)).filter
        fun entry => !amongFirst days first entry := by
    rw [List.filter_filter]
    apply List.filter_congr
    intro entry member
    rw [contains_between daysInOrder least (listed entry member), Bool.and_comm]
  have after : (dated data days).filter
        (fun entry => (days.eraseDups.drop second).contains entry.2) =
      (dated data days).filter fun entry => !amongFirst days second entry := by
    apply List.filter_congr
    intro entry member
    exact contains_drop daysInOrder second (listed entry member)
  have before : (dated data days).filter (amongFirst days first) =
      ((dated data days).filter (amongFirst days second)).filter (amongFirst days first) := by
    rw [List.filter_filter]
    apply List.filter_congr
    intro entry _
    cases among : amongFirst days first entry with
    | true => rw [amongFirst_mono least among]; rfl
    | false => rfl
  have whole : (dated data days).filter (amongFirst days first) ++
        (dated data days).filter
          (fun entry => ((days.eraseDups.take second).drop first).contains entry.2) ++
        (dated data days).filter (fun entry => (days.eraseDups.drop second).contains entry.2) =
      dated data days := by
    rw [between, after, before, filter_append_filter_not
      ((amongFirst_lost normalized sorted first).filter _)]
    exact filter_append_filter_not (amongFirst_lost normalized sorted second)
  have rows := congrArg (List.map Prod.fst) whole
  rwa [List.map_append, List.map_append, dated_rows normalized] at rows

theorem day_of_onDays (normalized : data.index.mapM calendar.normalize = some days)
    {selected : List D} {row : T × R} (member : row ∈ (data.onDays days selected).rows) :
    ∃ day ∈ selected, calendar.normalize row.1 = some day := by
  obtain ⟨entry, kept, rfl⟩ := List.mem_map.mp member
  obtain ⟨inDated, selectedDay⟩ := List.mem_filter.mp kept
  exact ⟨entry.2, List.contains_iff_mem.mp selectedDay, normalize_of_dated normalized inDated⟩

end Cuts

/-! ## The split is a chronological partition -/

/-- No row of the one group is on the day of a row of the other. -/
def OnOtherDays (calendar : DayCalendar T D) (rows later : List (T × R)) : Prop :=
  ∀ a ∈ rows, ∀ b ∈ later, calendar.normalize a.1 ≠ calendar.normalize b.1

structure IsChronological (calendar : DayCalendar T D) (data : MarketFrame T R)
    (split : ChronologicalSplit T R) : Prop where
  nonempty : split.train.data.rows ≠ [] ∧ split.selection.data.rows ≠ [] ∧
    split.test.data.rows ≠ []
  covers : split.train.data.rows ++ split.selection.data.rows ++ split.test.data.rows = data.rows
  train_first : ∀ a ∈ split.train.data.rows, ∀ b ∈ split.selection.data.rows, a.1 < b.1
  test_last : ∀ a ∈ split.train.data.rows ++ split.selection.data.rows,
    ∀ b ∈ split.test.data.rows, a.1 < b.1
  train_selection : OnOtherDays calendar split.train.data.rows split.selection.data.rows
  train_test : OnOtherDays calendar split.train.data.rows split.test.data.rows
  selection_test : OnOtherDays calendar split.selection.data.rows split.test.data.rows

theorem partition_data {calendar : DayCalendar T D} {name : String} {data : MarketFrame T R}
    {result : DataPartition T R} (ok : partition calendar name data = .ok result) :
    result.data = data := by
  obtain ⟨first, _, ok⟩ := bind_eq_ok.mp ok
  obtain ⟨last, _, ok⟩ := bind_eq_ok.mp ok
  cases ok
  rfl

omit [LinearOrder T] [LinearOrder D] in
theorem some_of_requireRows {minimum : Nat} (positive : 1 ≤ minimum) {name : String}
    {frame : MarketFrame T R} (ok : requireRows minimum name frame = .ok ()) :
    frame.rows ≠ [] := by
  intro none
  rw [requireRows, raiseIf_eq_ok, none] at ok
  simp only [List.length_nil, decide_eq_false_iff_not, not_lt] at ok
  omega

theorem splitChronologically_ok {calendar : DayCalendar T D} {floats : FloatRounding}
    {config : ChronologicalSplitConfig floats} {data : MarketFrame T R}
    {split : ChronologicalSplit T R}
    (ok : splitChronologically calendar config data = .ok split) :
    data.index.Pairwise (· ≤ ·) ∧ data.index.Nodup ∧
      ∃ days, data.index.mapM calendar.normalize = some days ∧
        splitOnDays calendar config data days = .ok split := by
  obtain ⟨-, ok⟩ := raiseIf_bind_eq_ok.mp ok
  obtain ⟨sorted, ok⟩ := raiseIf_bind_eq_ok.mp ok
  obtain ⟨unique, ok⟩ := raiseIf_bind_eq_ok.mp ok
  obtain ⟨days, normalized, ok⟩ := bind_eq_ok.mp ok
  exact ⟨by simpa using sorted, by simpa using unique, days, orRaise_eq_ok.mp normalized, ok⟩

theorem splitOnDays_ok {calendar : DayCalendar T D} {floats : FloatRounding}
    {config : ChronologicalSplitConfig floats} {data : MarketFrame T R} {days : List D}
    {split : ChronologicalSplit T R} (ok : splitOnDays calendar config data days = .ok split) :
    ∃ first second : Nat, first ≤ second ∧
      split.train.data = data.onDays days (days.eraseDups.take first) ∧
      split.selection.data = data.onDays days ((days.eraseDups.take second).drop first) ∧
      split.test.data = data.onDays days (days.eraseDups.drop second) ∧
      split.train.data.rows ≠ [] ∧ split.selection.data.rows ≠ [] ∧
      split.test.data.rows ≠ [] := by
  have positive := config.minimum_positive
  obtain ⟨trainDays, trainCut, ok⟩ := bind_eq_ok.mp ok
  obtain ⟨selectionDays, selectionCut, ok⟩ := bind_eq_ok.mp ok
  have trainShare : 0 ≤ trainDays := floats.share_nonneg
    (fun x isTrain => (config.between _ (by simp) x isTrain).1) trainCut
  have selectionShare : 0 ≤ selectionDays := floats.share_nonneg
    (fun x isSelection => (config.between _ (by simp) x isSelection).1) selectionCut
  obtain ⟨⟨⟩, trainRows, ok⟩ := bind_eq_ok.mp ok
  obtain ⟨⟨⟩, selectionRows, ok⟩ := bind_eq_ok.mp ok
  obtain ⟨⟨⟩, testRows, ok⟩ := bind_eq_ok.mp ok
  obtain ⟨train, trainOk, ok⟩ := bind_eq_ok.mp ok
  obtain ⟨selection, selectionOk, ok⟩ := bind_eq_ok.mp ok
  obtain ⟨test, testOk, ok⟩ := bind_eq_ok.mp ok
  obtain ⟨-, ok⟩ := raiseIf_bind_eq_ok.mp ok
  cases ok
  have trainData := partition_data trainOk
  have selectionData := partition_data selectionOk
  have testData := partition_data testOk
  refine ⟨trainDays.toNat, (trainDays + selectionDays).toNat, by omega, ?_, ?_, ?_, ?_, ?_, ?_⟩
  · rw [trainData, sliceTo, sliceBound, if_pos trainShare]
  · rw [selectionData, slice, sliceBound, sliceBound, if_pos trainShare,
      if_pos (Int.add_nonneg trainShare selectionShare)]
  · rw [testData, sliceFrom, sliceBound, if_pos (Int.add_nonneg trainShare selectionShare)]
  · rw [trainData]
    exact some_of_requireRows positive trainRows
  · rw [selectionData]
    exact some_of_requireRows positive selectionRows
  · rw [testData]
    exact some_of_requireRows positive testRows

theorem onOtherDays {calendar : DayCalendar T D} {data : MarketFrame T R} {days : List D}
    (normalized : data.index.mapM calendar.normalize = some days) {selected others : List D}
    (apart : ∀ day ∈ selected, day ∉ others) :
    OnOtherDays calendar (data.onDays days selected).rows (data.onDays days others).rows := by
  intro a inA b inB same
  obtain ⟨day, listed, dayOf⟩ := day_of_onDays normalized inA
  obtain ⟨other, otherListed, otherOf⟩ := day_of_onDays normalized inB
  rw [dayOf, otherOf] at same
  cases same
  exact apart day listed otherListed

/-- Rows of strictly increasing instants, cut in two, stay apart. -/
theorem lt_across {data : MarketFrame T R} (sorted : data.index.Pairwise (· ≤ ·))
    (unique : data.index.Nodup) {before after : List (T × R)}
    (whole : before ++ after = data.rows) : ∀ a ∈ before, ∀ b ∈ after, a.1 < b.1 := by
  have strict : data.index.Pairwise (· < ·) :=
    (sorted.and unique).imp fun both => lt_of_le_of_ne both.1 both.2
  rw [MarketFrame.index, ← whole, List.map_append] at strict
  intro a inA b inB
  exact (List.pairwise_append.mp strict).2.2 a.1 (List.mem_map_of_mem inA) b.1
    (List.mem_map_of_mem inB)

theorem splitChronologically_chronological {calendar : DayCalendar T D} {floats : FloatRounding}
    {config : ChronologicalSplitConfig floats} {data : MarketFrame T R}
    {split : ChronologicalSplit T R}
    (ok : splitChronologically calendar config data = .ok split) :
    IsChronological calendar data split := by
  obtain ⟨sorted, unique, days, normalized, ok⟩ := splitChronologically_ok ok
  obtain ⟨first, second, least, train, selection, test, someTrain, someSelection, someTest⟩ :=
    splitOnDays_ok ok
  have distinct := eraseDups_sorted days (days_sorted normalized sorted)
  have covers := three_cuts normalized sorted least
  rw [← train, ← selection, ← test] at covers
  have inTrain : ∀ day ∈ days.eraseDups.take first, day ∈ days.eraseDups.take second :=
    fun day taken => List.take_subset_take_left _ least taken
  refine ⟨⟨someTrain, someSelection, someTest⟩, covers, ?_, lt_across sorted unique covers,
    ?_, ?_, ?_⟩
  · intro a inA b inB
    exact lt_across sorted unique ((List.append_assoc _ _ _).symm.trans covers) a inA b
      (List.mem_append_left _ inB)
  · rw [train, selection]
    apply onOtherDays normalized
    intro day taken between
    have dropped : day ∈ days.eraseDups.drop first :=
      ((List.take_sublist second days.eraseDups).drop first).subset between
    exact not_mem_take_of_mem_drop distinct dropped taken
  · rw [train, test]
    apply onOtherDays normalized
    intro day taken dropped
    exact not_mem_take_of_mem_drop distinct dropped (inTrain day taken)
  · rw [selection, test]
    apply onOtherDays normalized
    intro day between dropped
    exact not_mem_take_of_mem_drop distinct dropped (List.mem_of_mem_drop between)

theorem inSampleSlice_ok {calendar : DayCalendar T D} {floats : FloatRounding}
    {config : ChronologicalSplitConfig floats} {data : MarketFrame T R}
    {split : ChronologicalSplit T R}
    (ok : splitChronologically calendar config data = .ok split) :
    inSampleSlice calendar config data =
      .ok { data with rows := split.train.data.rows ++ split.selection.data.rows } := by
  have chronological := splitChronologically_chronological ok
  obtain ⟨sorted, unique, -⟩ := splitChronologically_ok ok
  obtain ⟨first, rest, shape⟩ := List.exists_cons_of_ne_nil chronological.nonempty.2.2
  have head : split.test.data.index.head? = some first.1 := by
    rw [MarketFrame.index, shape]
    rfl
  have kept : data.rows.filter (fun row => decide (row.1 < first.1)) =
      split.train.data.rows ++ split.selection.data.rows := by
    rw [← chronological.covers, List.filter_append]
    have early : (split.train.data.rows ++ split.selection.data.rows).filter
        (fun row => decide (row.1 < first.1)) =
          split.train.data.rows ++ split.selection.data.rows := by
      apply List.filter_eq_self.mpr
      intro row member
      exact decide_eq_true (chronological.test_last row member first (by simp [shape]))
    have late : split.test.data.rows.filter (fun row => decide (row.1 < first.1)) = [] := by
      apply List.filter_eq_nil_iff.mpr
      intro row member
      rw [decide_eq_true_iff, not_lt]
      rw [shape] at member
      rcases List.mem_cons.mp member with rfl | inRest
      · exact le_rfl
      · have whole : (split.train.data.rows ++ split.selection.data.rows ++ [first]) ++ rest =
            data.rows := by
          rw [← chronological.covers, shape, List.append_assoc _ [first]]
          rfl
        exact (lt_across sorted unique whole first (by simp) row inRest).le
    rw [early, late, List.append_nil]
  simp only [inSampleSlice, ok, bind, Except.bind, head, orRaise, kept]

theorem split_is_chronological {calendar : DayCalendar T D} {floats : FloatRounding}
    {config : ChronologicalSplitConfig floats} {data : MarketFrame T R}
    {split : ChronologicalSplit T R}
    (ok : splitChronologically calendar config data = .ok split) :
    IsChronological calendar data split ∧
      inSampleSlice calendar config data =
        .ok { data with rows := split.train.data.rows ++ split.selection.data.rows } :=
  ⟨splitChronologically_chronological ok, inSampleSlice_ok ok⟩

end Split

/-! ## Five rows on four days -/

def hourCalendar : DayCalendar Int Int where
  normalize hour := some (hour / 24)
  dateText hour := "2024-01-0" ++ String.ofList [Char.ofNat (49 + (hour / 24).toNat)]
  normalize_mono := by
    intro first second day later before firstDay secondDay
    cases firstDay
    cases secondDay
    omega

def exactFloats : FloatRounding where
  round x := x
  round_nonneg _ nonneg := nonneg

def halfAndQuarters : ChronologicalSplitConfig exactFloats where
  trainFraction := some (1 / 2)
  selectionFraction := some (1 / 4)
  testFraction := some (1 / 4)
  minimumRowsPerPartition := 1
  between := by decide +kernel
  sum_one := by decide +kernel
  minimum_positive := by decide

def fiveRows : MarketFrame Int Nat where
  columns := ["Close"]
  rows := [(1, 10), (5, 11), (25, 12), (50, 13), (73, 14)]

def fiveRowsSplit : ChronologicalSplit Int Nat where
  train := ⟨"train", ⟨["Close"], [(1, 10), (5, 11), (25, 12)]⟩, "2024-01-01", "2024-01-02", 3⟩
  selection := ⟨"selection", ⟨["Close"], [(50, 13)]⟩, "2024-01-03", "2024-01-03", 1⟩
  test := ⟨"test", ⟨["Close"], [(73, 14)]⟩, "2024-01-04", "2024-01-04", 1⟩

theorem fiveRows_split :
    splitChronologically hourCalendar halfAndQuarters fiveRows = .ok fiveRowsSplit ∧
      IsChronological hourCalendar fiveRows fiveRowsSplit ∧
      inSampleSlice hourCalendar halfAndQuarters fiveRows =
        .ok ⟨["Close"], [(1, 10), (5, 11), (25, 12), (50, 13)]⟩ := by
  have ok : splitChronologically hourCalendar halfAndQuarters fiveRows = .ok fiveRowsSplit := by
    decide +kernel
  exact ⟨ok, split_is_chronological ok⟩

end QuantFactory.OutOfSample
