import QuantFactory.Library.StableSort
import QuantFactory.MarketData.SuspectBarDates

/-!
# Suspect bars of all dates

The dates of the sorted rows are blocks, so the arrays of the computation split at the
bounds of a date, and every row gets the flag of the rule on its own date.
-/

set_option autoImplicit false

namespace QuantFactory.MarketData

open QuantFactory.Library

section Blocks
variable {F : Type} [LinearOrder F] {library : OutlierLibrary F} {arithmetic : PriceArithmetic F}
  {labels head tail : List Nat} {before day after : List F} {label : Nat}

omit [LinearOrder F] in
theorem zip_block (shape : labels = head ++ (List.replicate day.length label ++ tail))
    (start : head.length = before.length) :
    labels.zip (before ++ (day ++ after)) =
      head.zip before ++ (day.map (fun value => (label, value)) ++ tail.zip after) := by
  have block : (List.replicate day.length label).zip day =
      day.map fun value => (label, value) := by
    apply List.ext_getElem
    · simp
    · intro i _ _
      simp
  rw [shape, List.zip_append start, List.zip_append (List.length_replicate ..), block]

variable (after) in
omit [LinearOrder F] in
theorem group_of_block (shape : labels = head ++ (List.replicate day.length label ++ tail))
    (start : head.length = before.length) (early : label ∉ head) (late : label ∉ tail) :
    ((labels.zip (before ++ (day ++ after))).filter fun other => decide (other.1 = label)).map
      Prod.snd = day := by
  have none : ∀ {others : List Nat} {values : List F}, label ∉ others →
      (others.zip values).filter (fun other => decide (other.1 = label)) = [] := by
    intro others values absent
    apply List.filter_eq_nil_iff.mpr
    intro entry member held
    exact absent (of_decide_eq_true held ▸ (List.of_mem_zip member).1)
  have all : (day.map fun value => (label, value)).filter (fun other => decide (other.1 = label)) =
      day.map fun value => (label, value) := by
    apply List.filter_eq_self.mpr
    intro entry member
    obtain ⟨value, -, rfl⟩ := List.mem_map.mp member
    exact decide_eq_true rfl
  rw [zip_block shape start, List.filter_append, List.filter_append, none early, none late, all,
    List.nil_append, List.append_nil, List.map_map]
  exact List.map_id day

variable (library after) in
omit [LinearOrder F] in
theorem groupTransform_block (shape : labels = head ++ (List.replicate day.length label ++ tail))
    (start : head.length = before.length) (early : label ∉ head) (late : label ∉ tail) :
    ∃ left right, groupTransform library labels (before ++ (day ++ after)) =
      left ++ (List.replicate day.length (library.groupMedian day) ++ right) ∧
        left.length = before.length := by
  have group := group_of_block after shape start early late
  have same : (day.map fun value => (label, value)).map (fun entry => library.groupMedian
      (((labels.zip (before ++ (day ++ after))).filter fun other =>
        decide (other.1 = entry.1)).map Prod.snd)) =
          List.replicate day.length (library.groupMedian day) := by
    rw [List.map_map, List.eq_replicate_iff, List.length_map]
    refine ⟨rfl, fun median member => ?_⟩
    obtain ⟨value, -, rfl⟩ := List.mem_map.mp member
    exact congrArg library.groupMedian group
  generalize grouped : (fun entry : Nat × F => library.groupMedian
      (((labels.zip (before ++ (day ++ after))).filter fun other =>
        decide (other.1 = entry.1)).map Prod.snd)) = median at same
  refine ⟨(head.zip before).map median, (tail.zip after).map median, ?_, ?_⟩
  · rw [groupTransform, grouped, zip_block shape start, List.map_append, List.map_append, same]
  · rw [List.length_map, List.length_zip, start, Nat.min_self]

variable (day after) in
omit [LinearOrder F] in
theorem zipWith_block {α : Type} (f : F → F → α) {left : List F} (median : F) (right : List F)
    (start : left.length = before.length) :
    List.zipWith f (before ++ (day ++ after))
        (left ++ (List.replicate day.length median ++ right)) =
      List.zipWith f before left ++
        (day.map (fun value => f value median) ++ List.zipWith f after right) := by
  have block : List.zipWith f day (List.replicate day.length median) =
      day.map fun value => f value median := by
    apply List.ext_getElem
    · simp
    · intro i _ _
      simp
  rw [List.zipWith_append start.symm, List.zipWith_append (List.length_replicate ..).symm, block]

end Blocks

section Bounds
variable {rows : List Int} {bounds : List Nat} {start count : Nat}

structure DateBlock (bounds : List Nat) (start count : Nat) : Prop where
  edges : DateBounds (repeated bounds.dropLast (differences bounds))
    (repeated bounds.tail (differences bounds)) start count
  labelled : ∃ label head tail,
    repeated (List.range (differences bounds).length) (differences bounds) =
      head ++ (List.replicate count label ++ tail) ∧
    head.length = start ∧ label ∉ head ∧ label ∉ tail

theorem getD_block {head tail : List Nat} {item : Nat} {k : Nat} (within : k < count)
    (length : head.length = start) :
    (head ++ (List.replicate count item ++ tail)).getD (start + k) 0 = item := by
  rw [List.getD_eq_getElem?_getD, List.getElem?_append_right (by omega),
    List.getElem?_append_left (by rw [List.length_replicate]; omega),
    List.getElem?_replicate_of_lt (by omega)]
  rfl

theorem dateBlock_of_bounds {front back : List Nat} (head : bounds.head? = some 0)
    (sorted : bounds.Pairwise (· < ·)) (shape : bounds = front ++ start :: (start + count) :: back) :
    DateBlock bounds start count := by
  have span : start + count - start = count := by omega
  have starts : bounds.dropLast = front ++ start :: ((start + count) :: back).dropLast := by
    rw [shape, List.dropLast_append_of_ne_nil (List.cons_ne_nil _ _), List.dropLast_cons_cons]
  have stops : bounds.tail = (front ++ [start]).tail ++ (start + count) :: back := by
    rw [shape, List.append_cons, List.tail_append_of_ne_nil (by simp)]
  have numbers : List.range (differences bounds).length =
      List.range front.length ++ front.length ::
        (List.range back.length).map (front.length + 1 + ·) := by
    have total : (differences bounds).length = front.length + (1 + back.length) := by
      rw [length_differences, shape]
      simp only [List.length_append, List.length_cons]
      omega
    rw [total, List.range_add, List.range_add, List.map_append, List.map_map]
    congr 1
    simp [Function.comp_def, Nat.add_assoc]
  obtain ⟨leftF, rightF, firsts, lengthF, -⟩ :=
    repeated_block shape head sorted front start ((start + count) :: back).dropLast rfl
  obtain ⟨leftS, rightS, lasts, lengthS, -⟩ :=
    repeated_block shape head sorted (front ++ [start]).tail (start + count) back (by simp)
  obtain ⟨leftL, rightL, dates, lengthL, early, late⟩ :=
    repeated_block shape head sorted (List.range front.length) front.length
      ((List.range back.length).map (front.length + 1 + ·)) (by simp)
  rw [span] at firsts lasts dates
  refine ⟨?_, front.length, leftL, rightL, ?_, lengthL, ?_, ?_⟩
  · intro k within
    rw [starts, stops, firsts, lasts]
    exact ⟨getD_block within lengthF, getD_block within lengthS⟩
  · rw [numbers, dates]
  · intro member
    exact lt_irrefl _ (List.mem_range.mp (early _ member))
  · intro member
    obtain ⟨step, -, equal⟩ := List.mem_map.mp (late _ member)
    omega

end Bounds

section Columns
variable {F : Type} [LinearOrder F] {library : OutlierLibrary F} {arithmetic : PriceArithmetic F}
  (laws : library.Documented arithmetic)

include laws in
theorem rankFilter_windows (values : List F) (size rank shift : Nat) (origin : Int)
    (below : rank < size) (placed : (shift : Int) = (size : Int) / 2 + origin)
    (left : -((size : Int) / 2) ≤ origin) (right : origin ≤ ((size : Int) - 1) / 2) :
    ∃ ranked, library.rankFilter values rank size origin = .ok ranked ∧
      RankedWindows values ranked size rank shift := by
  obtain ⟨ranked, ok, length, windows⟩ := laws.ranks values rank size origin (by omega) (by omega)
    left right
  refine ⟨ranked, ok, length, fun i low high => ?_⟩
  have start : (i : Int) - (size : Int) / 2 - origin = ((i - shift : Nat) : Int) := by omega
  have read := windows i (by omega) (by omega)
  rw [start, Int.toNat_natCast, Int.toNat_natCast, Int.toNat_natCast] at read
  exact read

include laws in
/-- The three rank filters answer for a positive even window. -/
theorem criterion_ok (batchRows : Nat) (values : List F) (first stop : List Nat) {half : Nat}
    (positive : 0 < half) :
    ∃ low high lower,
      criterion library arithmetic batchRows values first stop ((2 * half : Nat) : Int) =
        .ok (nearestDistances arithmetic batchRows values first stop (2 * half) low high lower) ∧
      RankedWindows values low (2 * half + 1) (half - 1) half ∧
      RankedWindows values high (2 * half + 1) half half ∧
      RankedWindows values lower (2 * half) (half - 1) (2 * half - 1) := by
  obtain ⟨low, lowOk, lows⟩ := rankFilter_windows laws values (2 * half + 1) (half - 1) half 0
    (by omega) (by omega) (by omega) (by omega)
  obtain ⟨high, highOk, highs⟩ := rankFilter_windows laws values (2 * half + 1) half half 0
    (by omega) (by omega) (by omega) (by omega)
  obtain ⟨lower, lowerOk, lowers⟩ := rankFilter_windows laws values (2 * half) (half - 1)
    (2 * half - 1) (half - 1) (by omega) (by omega) (by omega) (by omega)
  have halved : ((2 * half : Nat) : Int) / 2 = half := by omega
  have previous : (half : Int) - 1 = ((half - 1 : Nat) : Int) := by omega
  have rank : (((2 * half : Nat) : Int) - 1) / 2 = ((half - 1 : Nat) : Int) := by omega
  have size : ((2 * half : Nat) : Int) + 1 = ((2 * half + 1 : Nat) : Int) := by omega
  rw [previous] at lowerOk
  refine ⟨low, high, lower, ?_, lows, highs, lowers⟩
  simp only [criterion, halved, previous, rank, size, lowOk, highOk, lowerOk, Except.mapError,
    bind_ok, Int.toNat_natCast]

section Column
variable {before day after : List F} {bounds : List Nat} {half batchRows : Nat}

include laws in
theorem flagColumn_at (positive : 0 < half) (batches : 0 < batchRows)
    (block : DateBlock bounds before.length day.length)
    (doubles : ∀ value ∈ day, arithmetic.middle value value = value) (maxi : F)
    {flags : List Bool}
    (ok : flagColumn library arithmetic batchRows (before ++ (day ++ after)) bounds
      ((2 * half : Nat) : Int) maxi = .ok flags) {k : Nat} (within : k < day.length) :
    flags[before.length + k]? = some (suspectPrice arithmetic (2 * half) day k maxi) := by
  obtain ⟨low, high, lower, answered, lows, highs, lowers⟩ := criterion_ok laws batchRows
    (before ++ (day ++ after)) (repeated bounds.dropLast (differences bounds))
    (repeated bounds.tail (differences bounds)) positive
  obtain ⟨label, head, tail, shape, start, early, late⟩ := block.labelled
  obtain ⟨left, right, medians, leftLength⟩ :=
    groupTransform_block library after shape start early late
  have nonempty : day ≠ [] := List.ne_nil_of_length_pos (by omega)
  have median := laws.median day nonempty
  generalize library.groupMedian day = centre at median medians
  have deviations := zipWith_block day after arithmetic.distance centre right leftLength
  have deviationLength : (List.zipWith arithmetic.distance before left).length = before.length := by
    rw [List.length_zipWith, leftLength, Nat.min_self]
  have mad := laws.median (day.map fun value => arithmetic.distance value centre) (by simpa)
  have shapeAgain : repeated (List.range (differences bounds).length) (differences bounds) =
      head ++ (List.replicate (day.map fun value => arithmetic.distance value centre).length label ++
        tail) := by
    rw [List.length_map]
    exact shape
  obtain ⟨leftMad, rightMad, mads, madLength⟩ :=
    groupTransform_block library (List.zipWith arithmetic.distance after right) shapeAgain
      (start.trans deviationLength.symm) early late
  rw [deviationLength] at madLength
  have distance := nearestDistances_at arithmetic positive batches block.edges doubles lows highs
    lowers within
  simp only [flagColumn, answered, medians, deviations, mads, bind_ok, Except.ok.injEq] at ok
  rw [← ok, List.getElem?_zipWith, distance, List.getElem?_map, List.getElem?_append_right (by omega),
    madLength, Nat.add_sub_cancel_left, List.getElem?_append_left (by simpa using within),
    List.getElem?_replicate_of_lt (by simpa using within), suspectPrice, medianDeviation, median]
  simp only [Option.bind_some, mad, Option.map_some]

variable (bounds batchRows) in
include laws in
theorem flagColumn_total (positive : 0 < half) (values : List F) (maxi : F) :
    ∃ flags, flagColumn library arithmetic batchRows values bounds ((2 * half : Nat) : Int) maxi =
      .ok flags ∧ flags.length ≤ values.length := by
  obtain ⟨low, high, lower, answered, -⟩ := criterion_ok laws batchRows values
    (repeated bounds.dropLast (differences bounds)) (repeated bounds.tail (differences bounds)) positive
  simp only [flagColumn, answered, bind_ok]
  refine ⟨_, rfl, ?_⟩
  rw [List.length_zipWith, nearestDistances, List.length_map, List.length_zip]
  omega

end Column

end Columns

section Frames
variable {F : Type} [LinearOrder F] (newYorkDate : Int → Int) (bars : List (RawBar F))

def dateRows (date : Int) : List (RawBar F × Nat) :=
  (bars.zipIdx.filter fun entry => decide (newYorkDate entry.1.timestamp = date)).insertionSort
    fun a b => a.1.timestamp ≤ b.1.timestamp

/-- `bounds`, where the dates of the sorted rows begin and end. -/
def dateBounds : List Nat :=
  blockBounds ((sortedEntries RawBar.timestamp bars).map fun entry =>
    newYorkDate entry.1.timestamp)

def suspectBar (arithmetic : PriceArithmetic F) (window : Nat) (maxi : F) (day : List (RawBar F))
    (k : Nat) : Bool :=
  suspectColumns.any fun column => suspectPrice arithmetic window (day.map column.2) k maxi

def documentedFlags (arithmetic : PriceArithmetic F) (window : Nat) (maxi : F) : List Bool :=
  bars.zipIdx.map fun entry =>
    let day := dateRows newYorkDate bars (newYorkDate entry.1.timestamp)
    suspectBar arithmetic window maxi (day.map Prod.fst) ((day.map Prod.snd).idxOf entry.2)

/-- Doubling a price and halving it again is the price: no price overflows. -/
def PricesDouble (arithmetic : PriceArithmetic F) : Prop :=
  ∀ bar ∈ bars, ∀ column ∈ suspectColumns (F := F),
    arithmetic.middle (column.2 bar) (column.2 bar) = column.2 bar

section DateOfRows

omit [LinearOrder F] in
theorem dateRows_eq_filter (date : Int) : dateRows newYorkDate bars date =
    (sortedEntries RawBar.timestamp bars).filter
      fun entry => decide (newYorkDate entry.1.timestamp = date) := by
  have trans : IsTrans (RawBar F × Nat) fun a b => a.1.timestamp ≤ b.1.timestamp :=
    ⟨fun _ _ _ => le_trans⟩
  have total : Std.Total fun a b : RawBar F × Nat => a.1.timestamp ≤ b.1.timestamp :=
    ⟨fun a b => le_total a.1.timestamp b.1.timestamp⟩
  rw [dateRows, sortedEntries, filter_insertionSort]

variable {newYorkDate bars}

omit [LinearOrder F] in
theorem mem_dateRows {date : Int} {entry : RawBar F × Nat} :
    entry ∈ dateRows newYorkDate bars date ↔
      bars[entry.2]? = some entry.1 ∧ newYorkDate entry.1.timestamp = date := by
  rw [dateRows_eq_filter, List.mem_filter, mem_sortedEntries, decide_eq_true_iff]

omit [LinearOrder F] in
theorem dateRows_numbers_nodup (date : Int) :
    ((dateRows newYorkDate bars date).map Prod.snd).Nodup := by
  have all : ((sortedEntries RawBar.timestamp bars).map Prod.snd).Nodup := by
    rw [← argsort_map]
    exact (argsort_perm _).nodup_iff.mpr List.nodup_range
  rw [dateRows_eq_filter]
  exact all.sublist (List.filter_sublist.map Prod.snd)

variable (newYorkDate) in
omit [LinearOrder F] in
theorem dateRows_at {i : Nat} {bar : RawBar F} (there : bars[i]? = some bar) :
    ∃ k, (dateRows newYorkDate bars (newYorkDate bar.timestamp))[k]? = some (bar, i) ∧
      ((dateRows newYorkDate bars (newYorkDate bar.timestamp)).map Prod.snd).idxOf i = k := by
  have member : (bar, i) ∈ dateRows newYorkDate bars (newYorkDate bar.timestamp) :=
    mem_dateRows.mpr ⟨there, rfl⟩
  obtain ⟨k, within, read⟩ := List.getElem_of_mem member
  refine ⟨k, List.getElem?_eq_some_iff.mpr ⟨within, read⟩, ?_⟩
  have inNumbers :
      k < ((dateRows newYorkDate bars (newYorkDate bar.timestamp)).map Prod.snd).length := by
    rwa [List.length_map]
  have number : ((dateRows newYorkDate bars (newYorkDate bar.timestamp)).map Prod.snd)[k] = i := by
    rw [List.getElem_map, read]
  rw [← number, (dateRows_numbers_nodup _).idxOf_getElem]

variable (monotone : Monotone newYorkDate)

omit [LinearOrder F] in
include monotone in
theorem sortedEntries_split {date : Int} (some : dateRows newYorkDate bars date ≠ []) :
    ∃ before after, sortedEntries RawBar.timestamp bars =
        before ++ (dateRows newYorkDate bars date ++ after) ∧
      DateBlock (dateBounds newYorkDate bars) before.length
        (dateRows newYorkDate bars date).length := by
  have sorted : (sortedEntries RawBar.timestamp bars).Pairwise fun a b =>
      newYorkDate a.1.timestamp ≤ newYorkDate b.1.timestamp :=
    (sortedEntries_sorted _ _).imp fun below => monotone below
  have split := filter_lt_append_eq_append_gt sorted date
  rw [← dateRows_eq_filter] at split
  generalize earlier : (sortedEntries RawBar.timestamp bars).filter
    (fun entry => decide (newYorkDate entry.1.timestamp < date)) = before at split
  generalize later : (sortedEntries RawBar.timestamp bars).filter
    (fun entry => decide (date < newYorkDate entry.1.timestamp)) = after at split
  refine ⟨before, after, split.symm, ?_⟩
  have inDay : ∀ key ∈ (dateRows newYorkDate bars date).map
      (fun entry => newYorkDate entry.1.timestamp), key = date := by
    intro key member
    obtain ⟨entry, inRows, rfl⟩ := List.mem_map.mp member
    exact (mem_dateRows.mp inRows).2
  have inBefore : ∀ key ∈ before.map (fun entry => newYorkDate entry.1.timestamp), key ≠ date := by
    intro key member
    obtain ⟨entry, inRows, rfl⟩ := List.mem_map.mp member
    rw [← earlier] at inRows
    exact (of_decide_eq_true (List.mem_filter.mp inRows).2).ne
  have inAfter : ∀ key ∈ after.map (fun entry => newYorkDate entry.1.timestamp), key ≠ date := by
    intro key member
    obtain ⟨entry, inRows, rfl⟩ := List.mem_map.mp member
    rw [← later] at inRows
    exact (of_decide_eq_true (List.mem_filter.mp inRows).2).ne'
  obtain ⟨front, back, shape⟩ := blockBounds_of_block (by simpa using some) inDay inBefore inAfter
  rw [← List.map_append, ← List.map_append, split, List.length_map, List.length_map] at shape
  refine dateBlock_of_bounds (by rfl) (blockBounds_sorted ?_) shape
  intro empty
  have none := List.map_eq_nil_iff.mp empty
  rw [none] at split
  exact some (List.append_eq_nil_iff.mp (List.append_eq_nil_iff.mp split).2).1

omit [LinearOrder F] in
include monotone in
theorem sortedEntries_position {j : Nat} {entry : RawBar F × Nat}
    (there : (sortedEntries RawBar.timestamp bars)[j]? = some entry) :
    ∃ before after k, sortedEntries RawBar.timestamp bars =
        before ++ (dateRows newYorkDate bars (newYorkDate entry.1.timestamp) ++ after) ∧
      DateBlock (dateBounds newYorkDate bars) before.length
        (dateRows newYorkDate bars (newYorkDate entry.1.timestamp)).length ∧
      (dateRows newYorkDate bars (newYorkDate entry.1.timestamp))[k]? = some entry ∧
      ((dateRows newYorkDate bars (newYorkDate entry.1.timestamp)).map Prod.snd).idxOf entry.2 = k ∧
      j = before.length + k := by
  obtain ⟨k, atDate, number⟩ := dateRows_at newYorkDate
    (mem_sortedEntries.mp (List.mem_of_getElem? there))
  have within := (List.getElem?_eq_some_iff.mp atDate).1
  have nonempty : dateRows newYorkDate bars (newYorkDate entry.1.timestamp) ≠ [] :=
    List.ne_nil_of_length_pos (by omega)
  obtain ⟨before, after, split, block⟩ := sortedEntries_split monotone nonempty
  refine ⟨before, after, k, split, block, atDate, number, ?_⟩
  have nodup : ((sortedEntries RawBar.timestamp bars).map Prod.snd).Nodup := by
    rw [← argsort_map]
    exact (argsort_perm _).nodup_iff.mpr List.nodup_range
  have again : (sortedEntries RawBar.timestamp bars)[before.length + k]? = some entry := by
    rw [split, getElem?_of_date before after within]
    exact atDate
  have inRange := (List.getElem?_eq_some_iff.mp there).1
  apply (List.getElem?_inj (by rwa [List.length_map]) nodup).mp
  rw [List.getElem?_map, List.getElem?_map, there, again]

end DateOfRows

section SortedColumns
variable {newYorkDate bars}

omit [LinearOrder F] in
theorem length_argsort_bars : (argsort (bars.map RawBar.timestamp)).length = bars.length := by
  rw [(argsort_perm _).length_eq, List.length_range, List.length_map]

omit [LinearOrder F] in
theorem sorted_column {β : Type} (f : RawBar F → β) :
    (if inOrder (argsort (bars.map RawBar.timestamp)) then bars.map f
      else taken (bars.map f) (argsort (bars.map RawBar.timestamp))) =
      (sortedEntries RawBar.timestamp bars).map fun entry => f entry.1 := by
  split
  · rename_i ordered
    have order := eq_of_beq ordered
    rw [length_argsort_bars] at order
    rw [← taken_argsort RawBar.timestamp bars f, order]
    have same := taken_range (bars.map f)
    rw [List.length_map] at same
    exact same.symm
  · exact taken_argsort RawBar.timestamp bars f

theorem columnFlags_rows {library : OutlierLibrary F} {arithmetic : PriceArithmetic F}
    {batchRows : Nat} {bounds : List Nat} {window : Int} {maxi : F} {price : RawBar F → F}
    {flags : List Bool}
    (ok : flagColumn library arithmetic batchRows
      ((sortedEntries RawBar.timestamp bars).map fun entry => price entry.1) bounds window maxi =
        .ok flags)
    (length : flags.length = bars.length) :
    ∃ result, columnFlags library arithmetic batchRows bars (argsort (bars.map RawBar.timestamp))
        bounds window maxi price = .ok result ∧ result.length ≤ bars.length ∧
      ∀ j i : Nat, (argsort (bars.map RawBar.timestamp))[j]? = some i → result[i]? = flags[j]? := by
  rw [columnFlags, sorted_column, ok, bind_ok]
  refine ⟨_, rfl, ?_, ?_⟩
  · split
    · omega
    · have short := length_taken_le flags (argsort (argsort (bars.map RawBar.timestamp)))
      rwa [(argsort_perm _).length_eq, List.length_range, length_argsort_bars] at short
  · intro j i at_j
    split
    · rename_i ordered
      have order := eq_of_beq ordered
      have within := (List.getElem?_eq_some_iff.mp at_j).1
      rw [order, List.getElem?_range within, Option.some.injEq] at at_j
      rw [at_j]
    · have perm := argsort_perm (bars.map RawBar.timestamp)
      rw [List.length_map] at perm
      exact getElem?_taken_argsort perm length.ge at_j

end SortedColumns

section WholeFrame
variable {library : OutlierLibrary F} {arithmetic : PriceArithmetic F}
  (laws : library.Documented arithmetic) {newYorkDate bars} (monotone : Monotone newYorkDate)
  {half batchRows : Nat} (positive : 0 < half) (batches : 0 < batchRows)

/-- The rule on one price column, at a row given with its number. -/
def datePrices (newYorkDate : Int → Int) (bars : List (RawBar F)) (price : RawBar F → F)
    (entry : RawBar F × Nat) : List F :=
  (dateRows newYorkDate bars (newYorkDate entry.1.timestamp)).map fun row => price row.1

def datePosition (newYorkDate : Int → Int) (bars : List (RawBar F)) (entry : RawBar F × Nat) : Nat :=
  ((dateRows newYorkDate bars (newYorkDate entry.1.timestamp)).map Prod.snd).idxOf entry.2

omit [LinearOrder F] in
/-- A list computed over the sorted rows that has the right value at each of them. -/
theorem eq_map_of_rows {β γ : Type} {xs : List β} {values : List γ} {f : β → γ}
    (short : values.length ≤ xs.length)
    (rows : ∀ (j : Nat) (x : β), xs[j]? = some x → values[j]? = some (f x)) : values = xs.map f := by
  apply List.ext_getElem?
  intro j
  rw [List.getElem?_map]
  cases there : xs[j]? with
  | some x => exact rows j x there
  | none =>
      have past := List.getElem?_eq_none_iff.mp there
      exact List.getElem?_eq_none (by omega)

include laws monotone positive batches in
theorem criterion_of_dates (price : RawBar F → F)
    (doubles : ∀ bar ∈ bars, arithmetic.middle (price bar) (price bar) = price bar) :
    criterion library arithmetic batchRows
        ((sortedEntries RawBar.timestamp bars).map fun entry => price entry.1)
        (repeated (dateBounds newYorkDate bars).dropLast (differences (dateBounds newYorkDate bars)))
        (repeated (dateBounds newYorkDate bars).tail (differences (dateBounds newYorkDate bars)))
        ((2 * half : Nat) : Int) =
      .ok ((sortedEntries RawBar.timestamp bars).map fun entry =>
        dateCriterion arithmetic (2 * half) (datePrices newYorkDate bars price entry)
          (datePosition newYorkDate bars entry)) := by
  obtain ⟨low, high, lower, answered, lows, highs, lowers⟩ := criterion_ok laws batchRows
    ((sortedEntries RawBar.timestamp bars).map fun entry => price entry.1)
    (repeated (dateBounds newYorkDate bars).dropLast (differences (dateBounds newYorkDate bars)))
    (repeated (dateBounds newYorkDate bars).tail (differences (dateBounds newYorkDate bars))) positive
  rw [answered]
  congr 1
  apply eq_map_of_rows
  · rw [nearestDistances, List.length_map, List.length_zip, List.length_map]
    omega
  · intro j entry there
    obtain ⟨before, after, k, split, block, atDate, number, rfl⟩ :=
      sortedEntries_position monotone there
    have within := (List.getElem?_eq_some_iff.mp atDate).1
    rw [split, List.map_append, List.map_append] at lows highs lowers ⊢
    have length : before.length = (before.map fun entry => price entry.1).length := by simp
    have dayLength : (dateRows newYorkDate bars (newYorkDate entry.1.timestamp)).length =
        (datePrices newYorkDate bars price entry).length := by simp [datePrices]
    have edges := block.edges
    rw [length, dayLength] at edges
    rw [datePosition, number, length]
    apply nearestDistances_at arithmetic positive batches edges ?_ lows highs lowers
    · rwa [← dayLength]
    · intro value member
      obtain ⟨row, inRows, rfl⟩ := List.mem_map.mp member
      exact doubles row.1 (List.mem_of_getElem? (mem_dateRows.mp inRows).1)

include laws monotone positive batches in
/-- The flags of a price column are those of the rule on each row's date. -/
theorem columnFlags_of_dates (price : RawBar F → F) (maxi : F)
    (doubles : ∀ bar ∈ bars, arithmetic.middle (price bar) (price bar) = price bar) :
    columnFlags library arithmetic batchRows bars (argsort (bars.map RawBar.timestamp))
        (dateBounds newYorkDate bars) ((2 * half : Nat) : Int) maxi price =
      .ok (bars.zipIdx.map fun entry =>
        suspectPrice arithmetic (2 * half) (datePrices newYorkDate bars price entry)
          (datePosition newYorkDate bars entry) maxi) := by
  obtain ⟨flags, ok, short⟩ := flagColumn_total laws (dateBounds newYorkDate bars) batchRows
    positive ((sortedEntries RawBar.timestamp bars).map fun entry => price entry.1) maxi
  have rows : flags = (sortedEntries RawBar.timestamp bars).map fun entry =>
      suspectPrice arithmetic (2 * half) (datePrices newYorkDate bars price entry)
        (datePosition newYorkDate bars entry) maxi := by
    apply eq_map_of_rows
    · rwa [List.length_map] at short
    · intro j entry there
      obtain ⟨before, after, k, split, block, atDate, number, rfl⟩ :=
        sortedEntries_position monotone there
      have within := (List.getElem?_eq_some_iff.mp atDate).1
      rw [split, List.map_append, List.map_append] at ok
      have length : before.length = (before.map fun entry => price entry.1).length := by simp
      have dayLength : (dateRows newYorkDate bars (newYorkDate entry.1.timestamp)).length =
          (datePrices newYorkDate bars price entry).length := by simp [datePrices]
      rw [length, dayLength] at block
      rw [datePosition, number, length]
      apply flagColumn_at laws positive batches block ?_ maxi ok
      · rwa [← dayLength]
      · intro value member
        obtain ⟨row, inRows, rfl⟩ := List.mem_map.mp member
        exact doubles row.1 (List.mem_of_getElem? (mem_dateRows.mp inRows).1)
  have length : flags.length = bars.length := by
    rw [rows, List.length_map, (sortedEntries_perm _ _).length_eq, List.length_zipIdx]
  obtain ⟨result, answered, shortResult, back⟩ := columnFlags_rows ok length
  rw [answered]
  congr 1
  apply eq_map_of_rows
  · rwa [List.length_zipIdx]
  · intro i entry there
    have inBars : bars[i]? = some entry.1 ∧ entry.2 = i := by
      rw [List.getElem?_zipIdx] at there
      obtain ⟨bar, read, rfl⟩ := Option.map_eq_some_iff.mp there
      exact ⟨read, by simp⟩
    have member : entry ∈ sortedEntries RawBar.timestamp bars := by
      rw [mem_sortedEntries, inBars.2]
      exact inBars.1
    obtain ⟨j, within, read⟩ := List.getElem_of_mem member
    have sorted := List.getElem?_eq_some_iff.mpr ⟨within, read⟩
    have order : (argsort (bars.map RawBar.timestamp))[j]? = some i := by
      rw [argsort_map, List.getElem?_map, sorted, Option.map_some, inBars.2]
    rw [back j i order, rows, List.getElem?_map, sorted]
    rfl

end WholeFrame

end Frames

end QuantFactory.MarketData
