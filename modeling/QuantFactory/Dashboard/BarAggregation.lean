import Mathlib.Order.Bounds.Basic
import QuantFactory.Library.KeyRuns
import QuantFactory.Dashboard.EpochBuckets

/-!
# What the bars of an interval say

Accepted rows are bars at the starts of strictly later buckets.  The loop that puts them
together is the grouping of a stream by its bucket, so each bar stands for the rows of one
bucket: their first open, last close, extreme high and low.  Bars made so are accepted as
rows again, and making wider bars of them says the same as making these of the rows.
-/

set_option autoImplicit false

namespace QuantFactory.Dashboard

open QuantFactory.Library

section Bars
variable {F : Type} [LinearOrder F]

def OhlcBar.asRow (bar : OhlcBar F) : OhlcRow F :=
  .mapping (.aware bar.timestamp) (.finite bar.open) (.finite bar.high) (.finite bar.low)
    (.finite bar.close)

def OhlcBar.single (bar : OhlcBar F) : OhlcBar F := { bar with sourceCount := 1 }

def OhlcBar.Consistent (bar : OhlcBar F) : Prop :=
  bar.low ≤ bar.open ∧ bar.low ≤ bar.close ∧ bar.open ≤ bar.high ∧ bar.close ≤ bar.high

/-- Bars as `validate_ohlc_rows` returns them for a width. -/
structure SourceBars (width : Int) (source : List (OhlcBar F)) : Prop where
  increasing : source.Pairwise fun a b => a.timestamp < b.timestamp
  aligned : ∀ row ∈ source, width * microsPerSecond ∣ row.timestamp
  consistent : ∀ row ∈ source, row.Consistent
  one : ∀ row ∈ source, row.sourceCount = 1
  inRange : ∀ row ∈ source, row.timestamp < pastYear9999

/-! ## Accepted rows -/

theorem checkedBucketStart_eq_ok {timestamp width bucket : Int} :
    checkedBucketStart timestamp width = .ok bucket ↔
      bucketStart timestamp width = bucket ∧ bucket < pastYear9999 := by
  simp only [checkedBucketStart, raiseIf_bind_eq_ok, decide_eq_false_iff_not, not_le,
    Except.ok.injEq]
  constructor
  · rintro ⟨below, rfl⟩
    exact ⟨rfl, below⟩
  · rintro ⟨rfl, below⟩
    exact ⟨below, rfl⟩

omit [LinearOrder F] in
theorem finiteNumber_eq_ok {value : NumberField F} {field : String} {number : F} :
    finiteNumber value field = .ok number ↔ value = .finite number := by
  cases value <;> simp [finiteNumber]

theorem awareTimestamp_eq_ok {value : TimestampField} {field : String} {micros : Int} :
    awareTimestamp value field = .ok micros ↔ value = .aware micros := by
  cases value <;> simp [awareTimestamp]

/-- A row is accepted as a bar exactly when it is the bar's row, at the start of a bucket
behind the row before, with its prices in order. -/
theorem validateRow_eq_ok {name : String} {width : Int} {index : Nat}
    {previous : Option (Int × Int)} {row : OhlcRow F} {bar : OhlcBar F} :
    validateRow name width index previous row = .ok bar ↔
      row = bar.asRow ∧ bar.sourceCount = 1 ∧ bar.Consistent ∧
        bucketStart bar.timestamp width = bar.timestamp ∧ bar.timestamp < pastYear9999 ∧
        ∀ before ∈ previous, before.1 < bar.timestamp ∧ before.2 ≠ bar.timestamp := by
  cases row with
  | notMapping => simp [validateRow, OhlcBar.asRow]
  | mapping timestamp opened high low close =>
      have passes : ∀ p : Int × Int → Bool,
          previous.any p = false ↔ ∀ before ∈ previous, p before = false := by
        intro p
        cases previous <;> simp
      simp only [validateRow, bind_eq_ok, awareTimestamp_eq_ok, finiteNumber_eq_ok,
        checkedBucketStart_eq_ok, raiseIf_eq_ok, exists_const, passes, decide_eq_false_iff_not,
        ne_eq, not_not, not_lt, not_le, Except.ok.injEq]
      constructor
      · rintro ⟨time, rfl, ordered, bucket, ⟨isBucket, known⟩, other, rfl, opened, rfl, high, rfl,
          low, rfl, close, rfl, above, below, rfl⟩
        simp only [max_le_iff, le_min_iff] at above below
        refine ⟨rfl, rfl, ⟨below.1.1, below.1.2, above.1.1, above.1.2⟩, isBucket, known, ?_⟩
        intro before given
        exact ⟨ordered before given, fun same => other before given same.symm⟩
      · rintro ⟨same, one, ⟨lowOpen, lowClose, openHigh, closeHigh⟩, start, known, behind⟩
        obtain ⟨time, opened, high, low, close, count⟩ := bar
        simp only [OhlcBar.asRow, OhlcRow.mapping.injEq] at same
        obtain ⟨rfl, rfl, rfl, rfl, rfl⟩ := same
        cases one
        have lowHigh := lowOpen.trans openHigh
        refine ⟨time, rfl, fun before given => (behind before given).1, time, ⟨start, known⟩, ?_, rfl,
          opened, rfl, high, rfl, low, rfl, close, rfl, ?_, ?_, rfl⟩
        · intro before given equal
          exact (behind before given).2 equal.symm
        · exact max_le (max_le openHigh closeHigh) lowHigh
        · exact le_min (le_min lowOpen lowClose) lowHigh

theorem SourceBars.tail {width : Int} {row : OhlcBar F} {rest : List (OhlcBar F)}
    (source : SourceBars width (row :: rest)) : SourceBars width rest where
  increasing := (List.pairwise_cons.mp source.increasing).2
  aligned other member := source.aligned other (List.mem_cons_of_mem _ member)
  consistent other member := source.consistent other (List.mem_cons_of_mem _ member)
  one other member := source.one other (List.mem_cons_of_mem _ member)
  inRange other member := source.inRange other (List.mem_cons_of_mem _ member)

theorem bucketStart_of_aligned {timestamp width : Int}
    (aligned : width * microsPerSecond ∣ timestamp) : bucketStart timestamp width = timestamp := by
  have whole : timestamp % microsPerSecond = 0 :=
    Int.emod_eq_zero_of_dvd ((dvd_mul_left _ _).trans aligned)
  rw [bucketStart_of_whole whole, epochBucket_of_dvd aligned]

theorem dvd_bucketStart (timestamp width : Int) :
    width * microsPerSecond ∣ bucketStart timestamp width :=
  mul_dvd_mul_right Int.dvd_self_sub_emod _

theorem validateRows_sound {name : String} {width : Int} {rows : List (OhlcRow F)} {index : Nat}
    {previous : Option (Int × Int)} {bars : List (OhlcBar F)}
    (ok : validateRows name width index previous rows = .ok bars) :
    rows = bars.map OhlcBar.asRow ∧ SourceBars width bars ∧
      ∀ before ∈ previous, ∀ bar ∈ bars, before.1 < bar.timestamp := by
  induction rows generalizing index previous bars with
  | nil =>
      cases ok
      exact ⟨rfl, ⟨List.Pairwise.nil, by simp, by simp, by simp, by simp⟩, by simp⟩
  | cons row rest ih =>
      rw [validateRows] at ok
      obtain ⟨bar, first, ok⟩ := bind_eq_ok.mp ok
      obtain ⟨others, later, ok⟩ := bind_eq_ok.mp ok
      cases ok
      obtain ⟨same, one, consistent, start, known, behind⟩ := validateRow_eq_ok.mp first
      obtain ⟨sameRest, source, ahead⟩ := ih later
      have above : ∀ other ∈ others, bar.timestamp < other.timestamp := ahead _ rfl
      refine ⟨by rw [same, sameRest]; rfl, ⟨List.pairwise_cons.mpr ⟨above, source.increasing⟩,
        ?_, ?_, ?_, ?_⟩, ?_⟩
      · intro other member
        rcases List.mem_cons.mp member with rfl | member
        · rw [← start]
          exact dvd_bucketStart _ _
        · exact source.aligned other member
      · intro other member
        rcases List.mem_cons.mp member with rfl | member
        · exact consistent
        · exact source.consistent other member
      · intro other member
        rcases List.mem_cons.mp member with rfl | member
        · exact one
        · exact source.one other member
      · intro other member
        rcases List.mem_cons.mp member with rfl | member
        · exact known
        · exact source.inRange other member
      · intro before given other member
        have first := (behind before given).1
        rcases List.mem_cons.mp member with rfl | member
        · exact first
        · exact first.trans (above other member)

theorem validateRows_complete (name : String) {width : Int} {bars : List (OhlcBar F)}
    (source : SourceBars width bars) {index : Nat} {previous : Option (Int × Int)}
    (behind : ∀ before ∈ previous, before.2 = before.1 ∧ ∀ bar ∈ bars, before.1 < bar.timestamp) :
    validateRows name width index previous (bars.map OhlcBar.asRow) = .ok bars := by
  induction bars generalizing index previous with
  | nil => rfl
  | cons bar rest ih =>
      obtain ⟨above, -⟩ := List.pairwise_cons.mp source.increasing
      have start := bucketStart_of_aligned (source.aligned bar List.mem_cons_self)
      have first : validateRow name width index previous bar.asRow = .ok bar := by
        refine validateRow_eq_ok.mpr ⟨rfl, source.one bar List.mem_cons_self,
          source.consistent bar List.mem_cons_self, start, source.inRange bar List.mem_cons_self,
          fun before given => ?_⟩
        obtain ⟨same, earlier⟩ := behind before given
        have less := earlier bar List.mem_cons_self
        exact ⟨less, by rw [same]; exact less.ne⟩
      have later : validateRows name width (index + 1)
          (some (bar.timestamp, bucketStart bar.timestamp width)) (rest.map OhlcBar.asRow) =
            .ok rest := by
        apply ih source.tail
        rintro before ⟨⟩
        exact ⟨start, above⟩
      rw [List.map_cons, validateRows, first, bind_ok]
      dsimp only
      rw [later, bind_ok]

/-! ## The loop as a grouping -/

def groupBars (group : Int × List (OhlcBar F)) : List (OhlcBar F) :=
  match group.2 with
  | [] => []
  | first :: rest => [bucketBar group.1 first rest]

def Aggregation.Follows (state : Aggregation F) : KeyRuns Int (OhlcBar F) → Prop
  | .start => state = ⟨[], none, []⟩
  | .reading finished bucket group => state = ⟨finished.flatMap groupBars, some bucket, group⟩

theorem Aggregation.appendBucket_eq (finished : List (OhlcBar F)) (bucket : Int)
    (group : List (OhlcBar F)) : (Aggregation.mk finished (some bucket) group).appendBucket =
      ⟨finished ++ groupBars (bucket, group), some bucket, group⟩ := by
  cases group with
  | nil => simp [Aggregation.appendBucket, groupBars]
  | cons first rest => rfl

theorem Aggregation.read_follows {width : Int} {state : Aggregation F}
    {runs : KeyRuns Int (OhlcBar F)} (follows : state.Follows runs) (row : OhlcBar F) :
    (state.read width row).Follows
      (runs.read (fun row => bucketStart row.timestamp width) row) := by
  cases runs with
  | start =>
      rw [Aggregation.Follows] at follows
      subst follows
      rfl
  | reading finished bucket group =>
      rw [Aggregation.Follows] at follows
      subst follows
      by_cases same : bucketStart row.timestamp width = bucket
      · simp [Aggregation.read, KeyRuns.read, Aggregation.Follows, same]
      · simp [Aggregation.read, KeyRuns.read, Aggregation.Follows, same,
          Aggregation.appendBucket_eq, List.flatMap_append]

theorem Aggregation.foldl_follows (width : Int) {state : Aggregation F}
    {runs : KeyRuns Int (OhlcBar F)} (follows : state.Follows runs) (source : List (OhlcBar F)) :
    (source.foldl (Aggregation.read width) state).Follows
      (source.foldl (KeyRuns.read fun row => bucketStart row.timestamp width) runs) := by
  induction source generalizing state runs with
  | nil => exact follows
  | cons row rest ih => exact ih (Aggregation.read_follows follows row)

theorem aggregate_eq (width : Int) (source : List (OhlcBar F)) :
    aggregate width source =
      (keyRuns (fun row => bucketStart row.timestamp width) source).flatMap groupBars := by
  have follows : Aggregation.Follows (F := F) ⟨[], none, []⟩ .start := rfl
  have ends := Aggregation.foldl_follows width follows source
  rw [aggregate, keyRuns]
  cases runs : source.foldl (KeyRuns.read fun row => bucketStart row.timestamp width) .start with
  | start =>
      rw [runs, Aggregation.Follows] at ends
      rw [ends]
      rfl
  | reading finished bucket group =>
      rw [runs, Aggregation.Follows] at ends
      rw [ends, Aggregation.appendBucket_eq, KeyRuns.groups, List.flatMap_append]
      simp

/-! ## What a bar stands for -/

/-- The bar has the first open, the last close and the extreme prices of the rows. -/
structure PricesOf (rows : List (OhlcBar F)) (bar : OhlcBar F) : Prop where
  opened : rows.head?.map OhlcBar.open = some bar.open
  closed : rows.getLast?.map OhlcBar.close = some bar.close
  high : IsGreatest {price | ∃ row ∈ rows, row.high = price} bar.high
  low : IsLeast {price | ∃ row ∈ rows, row.low = price} bar.low

omit [LinearOrder F] in
def rowsIn (width : Int) (source : List (OhlcBar F)) (bucket : Int) : List (OhlcBar F) :=
  source.filter fun row => epochBucket row.timestamp width = bucket

/-- One bar for each bucket that has a row, in the order of the buckets. -/
structure Condenses (width : Int) (source bars : List (OhlcBar F)) : Prop where
  increasing : bars.Pairwise fun a b => a.timestamp < b.timestamp
  covered : ∀ row ∈ source, ∃ bar ∈ bars, bar.timestamp = epochBucket row.timestamp width
  prices : ∀ bar ∈ bars, PricesOf (rowsIn width source bar.timestamp) bar

theorem foldl_max_isGreatest {α : Type} {G : Type} [LinearOrder G] (price : α → G) (first : α)
    (rest : List α) : IsGreatest {value | ∃ row ∈ first :: rest, price row = value}
      (rest.foldl (fun most row => max most (price row)) (price first)) := by
  have general : ∀ start : G,
      let most := rest.foldl (fun most row => max most (price row)) start
      start ≤ most ∧ (∀ row ∈ rest, price row ≤ most) ∧
        (most = start ∨ ∃ row ∈ rest, price row = most) := by
    induction rest with
    | nil => simp
    | cons row rest ih =>
        intro start
        obtain ⟨above, all, reached⟩ := ih (max start (price row))
        refine ⟨(le_max_left _ _).trans above, ?_, ?_⟩
        · intro other member
          rcases List.mem_cons.mp member with rfl | member
          · exact (le_max_right _ _).trans above
          · exact all other member
        · rcases reached with same | ⟨other, member, same⟩
          · rw [List.foldl_cons, same]
            rcases max_choice start (price row) with left | right
            · exact .inl left
            · exact .inr ⟨row, List.mem_cons_self, right.symm⟩
          · exact .inr ⟨other, List.mem_cons_of_mem _ member, same⟩
  obtain ⟨above, all, reached⟩ := general (price first)
  constructor
  · rcases reached with same | ⟨row, member, same⟩
    · exact ⟨first, List.mem_cons_self, same.symm⟩
    · exact ⟨row, List.mem_cons_of_mem _ member, same⟩
  · rintro value ⟨row, member, rfl⟩
    rcases List.mem_cons.mp member with rfl | member
    · exact above
    · exact all row member

theorem bucketBar_prices (bucket : Int) (first : OhlcBar F) (rest : List (OhlcBar F)) :
    PricesOf (first :: rest) (bucketBar bucket first rest) where
  opened := rfl
  closed := by
    rw [List.getLast?_cons, Option.map_some, bucketBar, List.getLastD_eq_getLast?]
  high := foldl_max_isGreatest OhlcBar.high first rest
  low := foldl_max_isGreatest (G := Fᵒᵈ) OhlcBar.low first rest

namespace PricesOf

variable {rows : List (OhlcBar F)} {bar : OhlcBar F}

theorem ne_nil (prices : PricesOf rows bar) : rows ≠ [] := by
  rintro rfl
  cases prices.opened

/-- Two bars for the same rows differ in their time and count only. -/
theorem unique (prices : PricesOf rows bar) {other : OhlcBar F} (others : PricesOf rows other) :
    bar.open = other.open ∧ bar.high = other.high ∧ bar.low = other.low ∧
      bar.close = other.close :=
  ⟨Option.some.inj (prices.opened.symm.trans others.opened), prices.high.unique others.high,
    prices.low.unique others.low, Option.some.inj (prices.closed.symm.trans others.closed)⟩

theorem consistent (prices : PricesOf rows bar) (each : ∀ row ∈ rows, row.Consistent) :
    bar.Consistent := by
  obtain ⟨first, head, opened⟩ := Option.map_eq_some_iff.mp prices.opened
  obtain ⟨last, tail, closed⟩ := Option.map_eq_some_iff.mp prices.closed
  have inFirst := List.mem_of_head? head
  have inLast := List.mem_of_getLast? tail
  obtain ⟨lowOpen, -, openHigh, -⟩ := each first inFirst
  obtain ⟨-, lowClose, -, closeHigh⟩ := each last inLast
  rw [OhlcBar.Consistent, ← opened, ← closed]
  exact ⟨(prices.low.2 ⟨first, inFirst, rfl⟩).trans lowOpen,
    (prices.low.2 ⟨last, inLast, rfl⟩).trans lowClose,
    openHigh.trans (prices.high.2 ⟨first, inFirst, rfl⟩),
    closeHigh.trans (prices.high.2 ⟨last, inLast, rfl⟩)⟩

theorem flatMap {bars : List (OhlcBar F)} {behind : OhlcBar F → List (OhlcBar F)}
    (each : ∀ inner ∈ bars, PricesOf (behind inner) inner) (prices : PricesOf bars bar) :
    PricesOf (bars.flatMap behind) bar where
  opened := by
    obtain ⟨first, rest, rfl⟩ := List.exists_cons_of_ne_nil prices.ne_nil
    have head := each first List.mem_cons_self
    rw [List.flatMap_cons, List.head?_append_of_ne_nil _ head.ne_nil, head.opened]
    exact prices.opened
  closed := by
    rcases List.eq_nil_or_concat bars with none | ⟨rest, last, rfl⟩
    · exact absurd none prices.ne_nil
    · have tail := each last (by simp)
      rw [List.concat_eq_append, List.flatMap_append, List.flatMap_singleton,
        List.getLast?_append_of_ne_nil _ tail.ne_nil, tail.closed]
      have closed := prices.closed
      rw [List.concat_eq_append, List.getLast?_concat] at closed
      exact closed
  high := by
    obtain ⟨⟨inner, member, same⟩, most⟩ := prices.high
    obtain ⟨⟨row, inside, reached⟩, -⟩ := (each inner member).high
    refine ⟨⟨row, List.mem_flatMap.mpr ⟨inner, member, inside⟩, reached.trans same⟩, ?_⟩
    rintro price ⟨row, within, rfl⟩
    obtain ⟨inner, member, inside⟩ := List.mem_flatMap.mp within
    exact ((each inner member).high.2 ⟨row, inside, rfl⟩).trans (most ⟨inner, member, rfl⟩)
  low := by
    obtain ⟨⟨inner, member, same⟩, least⟩ := prices.low
    obtain ⟨⟨row, inside, reached⟩, -⟩ := (each inner member).low
    refine ⟨⟨row, List.mem_flatMap.mpr ⟨inner, member, inside⟩, reached.trans same⟩, ?_⟩
    rintro price ⟨row, within, rfl⟩
    obtain ⟨inner, member, inside⟩ := List.mem_flatMap.mp within
    exact (least ⟨inner, member, rfl⟩).trans ((each inner member).low.2 ⟨row, inside, rfl⟩)

end PricesOf

/-! ## The aggregated bars -/

namespace SourceBars

variable {width : Int} {source : List (OhlcBar F)}

theorem whole (bars : SourceBars width source) {row : OhlcBar F} (member : row ∈ source) :
    row.timestamp % microsPerSecond = 0 :=
  Int.emod_eq_zero_of_dvd ((dvd_mul_left _ _).trans (bars.aligned row member))

theorem buckets_sorted (bars : SourceBars width source) {wider : Int} (positive : 0 < wider) :
    source.Pairwise fun a b => epochBucket a.timestamp wider ≤ epochBucket b.timestamp wider :=
  bars.increasing.imp fun less => epochBucket_mono positive less.le

theorem aggregate_eq (bars : SourceBars width source) (wider : Int) : aggregate wider source =
    (keyRuns (fun row => epochBucket row.timestamp wider) source).flatMap groupBars := by
  rw [Dashboard.aggregate_eq]
  congr 1
  exact keyRuns_congr fun row member => bucketStart_of_whole (bars.whole member)

theorem rowsIn_self (bars : SourceBars width source) {bar : OhlcBar F} (member : bar ∈ source) :
    rowsIn width source bar.timestamp = [bar] := by
  have once : (source.map OhlcBar.timestamp).Nodup :=
    List.pairwise_map.mpr (bars.increasing.imp ne_of_lt)
  rw [← filter_key_eq_singleton once member, rowsIn]
  apply List.filter_congr
  intro row inside
  rw [epochBucket_of_dvd (bars.aligned row inside)]

theorem condenses_self (bars : SourceBars width source) : Condenses width source source where
  increasing := bars.increasing
  covered row member := ⟨row, member, (epochBucket_of_dvd (bars.aligned row member)).symm⟩
  prices bar member := by
    rw [bars.rowsIn_self member]
    exact bucketBar_prices bar.timestamp bar []

omit [LinearOrder F] in
theorem groups_timestamps [LinearOrder F] {key : OhlcBar F → Int}
    {groups : List (Int × List (OhlcBar F))} (keyed : Keyed key groups) :
    (groups.flatMap groupBars).map OhlcBar.timestamp = groups.map Prod.fst := by
  induction groups with
  | nil => rfl
  | cons group rest ih =>
      obtain ⟨first, others, rows⟩ := List.exists_cons_of_ne_nil (keyed group List.mem_cons_self).1
      rw [List.flatMap_cons, List.map_append, ih keyed.tail, groupBars, rows]
      rfl

theorem mem_groupBars {group : Int × List (OhlcBar F)} {bar : OhlcBar F}
    (member : bar ∈ groupBars group) :
    bar.timestamp = group.1 ∧ PricesOf group.2 bar ∧
      bar.sourceCount = (group.2.map OhlcBar.sourceCount).sum := by
  obtain ⟨bucket, rows⟩ := group
  cases rows with
  | nil => cases member
  | cons first rest =>
      rw [List.mem_singleton.mp member]
      exact ⟨rfl, bucketBar_prices bucket first rest, rfl⟩

omit [LinearOrder F] in
theorem sum_sourceCount {rows : List (OhlcBar F)} (ones : ∀ row ∈ rows, row.sourceCount = 1) :
    (rows.map OhlcBar.sourceCount).sum = rows.length := by
  induction rows with
  | nil => rfl
  | cons row rest ih =>
      rw [List.map_cons, List.sum_cons, ones row List.mem_cons_self,
        ih fun other member => ones other (List.mem_cons_of_mem _ member), List.length_cons]
      omega

theorem groups_sourceCount (groups : List (Int × List (OhlcBar F))) :
    ((groups.flatMap groupBars).map OhlcBar.sourceCount).sum =
      ((groups.flatMap Prod.snd).map OhlcBar.sourceCount).sum := by
  induction groups with
  | nil => rfl
  | cons group rest ih =>
      obtain ⟨bucket, rows⟩ := group
      rw [List.flatMap_cons, List.flatMap_cons, List.map_append, List.map_append, List.sum_append,
        List.sum_append, ih]
      cases rows with
      | nil => rfl
      | cons first others => simp [groupBars, bucketBar]

theorem mem_aggregate (bars : SourceBars width source) {wider : Int} (positive : 0 < wider)
    {bar : OhlcBar F} (member : bar ∈ aggregate wider source) :
    PricesOf (rowsIn wider source bar.timestamp) bar ∧
      bar.sourceCount = (rowsIn wider source bar.timestamp).length := by
  rw [bars.aggregate_eq] at member
  obtain ⟨group, inside, member⟩ := List.mem_flatMap.mp member
  obtain ⟨time, prices, count⟩ := mem_groupBars member
  have fibre := keyRuns_group_eq_filter (bars.buckets_sorted positive) inside
  rw [← time] at fibre
  rw [rowsIn, ← fibre]
  refine ⟨prices, count.trans ?_⟩
  apply sum_sourceCount
  intro row member
  rw [fibre] at member
  exact bars.one row (List.mem_of_mem_filter member)

theorem aggregate_condenses (bars : SourceBars width source) {wider : Int} (positive : 0 < wider) :
    Condenses wider source (aggregate wider source) := by
  have sorted := bars.buckets_sorted positive
  have timestamps : (aggregate wider source).map OhlcBar.timestamp =
      (keyRuns (fun row => epochBucket row.timestamp wider) source).map Prod.fst := by
    rw [bars.aggregate_eq, groups_timestamps (keyRuns_keyed _ _)]
  refine ⟨?_, ?_, fun bar member => (bars.mem_aggregate positive member).1⟩
  · have increase := keyRuns_keys_increase sorted
    rw [← timestamps] at increase
    exact List.pairwise_map.mp increase
  · intro row member
    have key := (mem_keyRuns_keys (fun row => epochBucket row.timestamp wider) source _).mpr
      ⟨row, member, rfl⟩
    rw [← timestamps] at key
    obtain ⟨bar, inside, same⟩ := List.mem_map.mp key
    exact ⟨bar, inside, same⟩

theorem aggregate_counts (bars : SourceBars width source) (wider : Int) :
    ((aggregate wider source).map OhlcBar.sourceCount).sum = source.length := by
  rw [bars.aggregate_eq, groups_sourceCount, keyRuns_flatMap]
  exact sum_sourceCount bars.one

end SourceBars

/-! ## Bars of bars -/

namespace Condenses

variable {width wider : Int} {source bars again : List (OhlcBar F)}

theorem mem_timestamps (condensed : Condenses width source bars) (bucket : Int) :
    bucket ∈ bars.map OhlcBar.timestamp ↔
      ∃ row ∈ source, epochBucket row.timestamp width = bucket := by
  constructor
  · intro member
    obtain ⟨bar, inside, rfl⟩ := List.mem_map.mp member
    obtain ⟨row, first⟩ := List.exists_mem_of_ne_nil _ (condensed.prices bar inside).ne_nil
    obtain ⟨member, same⟩ := List.mem_filter.mp first
    exact ⟨row, member, of_decide_eq_true same⟩
  · rintro ⟨row, member, rfl⟩
    obtain ⟨bar, inside, same⟩ := condensed.covered row member
    rw [← same]
    exact List.mem_map_of_mem inside

theorem timestamps_increase (condensed : Condenses width source bars) :
    (bars.map OhlcBar.timestamp).Pairwise (· < ·) := List.pairwise_map.mpr condensed.increasing

theorem isEmpty (condensed : Condenses width source bars) : bars.isEmpty = source.isEmpty := by
  cases source with
  | nil =>
      cases bars with
      | nil => rfl
      | cons bar rest => exact absurd rfl (condensed.prices bar List.mem_cons_self).ne_nil
  | cons row rest =>
      obtain ⟨bar, member, -⟩ := condensed.covered row List.mem_cons_self
      cases bars with
      | nil => cases member
      | cons first others => rfl

/-- Bars of one width for the same rows agree up to their counts. -/
theorem unique (condensed : Condenses width source bars) {others : List (OhlcBar F)}
    (other : Condenses width source others) :
    bars.map OhlcBar.single = others.map OhlcBar.single := by
  have times : bars.map OhlcBar.timestamp = others.map OhlcBar.timestamp := by
    refine List.Perm.eq_of_pairwise ?_ condensed.timestamps_increase other.timestamps_increase ?_
    · intro a b _ _ ab ba
      exact absurd ab ba.asymm
    · apply (List.perm_ext_iff_of_nodup (condensed.timestamps_increase.imp ne_of_lt)
        (other.timestamps_increase.imp ne_of_lt)).mpr
      intro bucket
      rw [condensed.mem_timestamps, other.mem_timestamps]
  have length : bars.length = others.length := by
    simpa using congrArg List.length times
  apply List.ext_getElem (by simpa using length)
  intro i first second
  rw [List.length_map] at first second
  have time : bars[i].timestamp = others[i].timestamp := by
    have at_i := congrArg (fun times => times[i]?) times
    simpa [first, second] using at_i
  have here := condensed.prices bars[i] (List.getElem_mem first)
  have there := other.prices others[i] (List.getElem_mem second)
  rw [← time] at there
  obtain ⟨opened, high, low, close⟩ := here.unique there
  rw [List.getElem_map, List.getElem_map]
  simp only [OhlcBar.single, OhlcBar.mk.injEq]
  exact ⟨time, opened, high, low, close, trivial⟩

theorem map_single (condensed : Condenses width source bars) :
    Condenses width source (bars.map OhlcBar.single) where
  increasing := List.pairwise_map.mpr condensed.increasing
  covered row member := by
    obtain ⟨bar, inside, same⟩ := condensed.covered row member
    exact ⟨bar.single, List.mem_map_of_mem inside, same⟩
  prices bar member := by
    obtain ⟨other, inside, rfl⟩ := List.mem_map.mp member
    obtain ⟨opened, closed, high, low⟩ := condensed.prices other inside
    exact ⟨opened, closed, high, low⟩

theorem sourceBars (condensed : Condenses width source bars) (positive : 0 < width)
    (consistent : ∀ row ∈ source, row.Consistent)
    (inRange : ∀ row ∈ source, row.timestamp < pastYear9999) :
    SourceBars width (bars.map OhlcBar.single) where
  increasing := condensed.map_single.increasing
  aligned bar member := by
    have time := (condensed.map_single.mem_timestamps bar.timestamp).mp (List.mem_map_of_mem member)
    obtain ⟨row, -, same⟩ := time
    rw [← same]
    exact dvd_epochBucket
  consistent bar member := by
    refine (condensed.map_single.prices bar member).consistent fun row inside => ?_
    exact consistent row (List.mem_of_mem_filter inside)
  one bar member := by
    obtain ⟨other, -, rfl⟩ := List.mem_map.mp member
    rfl
  inRange bar member := by
    obtain ⟨row, inside, same⟩ :=
      (condensed.map_single.mem_timestamps bar.timestamp).mp (List.mem_map_of_mem member)
    rw [← same]
    exact (epochBucket_le positive).trans_lt (inRange row inside)

theorem trans (positive : 0 < width) (wider_positive : 0 < wider) (divides : width ∣ wider)
    (sorted : source.Pairwise fun a b => a.timestamp < b.timestamp)
    (inner : Condenses width source bars) (outer : Condenses wider bars again) :
    Condenses wider source again where
  increasing := outer.increasing
  covered row member := by
    obtain ⟨bar, inside, same⟩ := inner.covered row member
    obtain ⟨wide, within, equal⟩ := outer.covered bar inside
    refine ⟨wide, within, equal.trans ?_⟩
    rw [same, epochBucket_epochBucket wider_positive divides positive]
  prices wide member := by
    -- the rows of the wide bucket are those of its narrow bars, one after the other
    let groups := bars.map fun bar => (bar.timestamp, rowsIn width source bar.timestamp)
    have keyed : Keyed (fun row => epochBucket row.timestamp width) groups := by
      intro group inside
      obtain ⟨bar, within, rfl⟩ := List.mem_map.mp inside
      refine ⟨(inner.prices bar within).ne_nil, fun row chosen => ?_⟩
      exact of_decide_eq_true (List.mem_filter.mp chosen).2
    have whole : groups.flatMap Prod.snd = source := by
      have buckets : source.Pairwise fun a b =>
          epochBucket a.timestamp width ≤ epochBucket b.timestamp width :=
        sorted.imp fun less => epochBucket_mono positive less.le
      have fibres := fibres_flatMap buckets inner.timestamps_increase inner.mem_timestamps
      rw [List.flatMap_map] at fibres ⊢
      exact fibres
    have chosen := keyed.filter_flatMap fun bucket =>
      decide (epochBucket bucket wider = wide.timestamp)
    rw [whole] at chosen
    have rows : rowsIn wider source wide.timestamp =
        (rowsIn wider bars wide.timestamp).flatMap fun bar =>
          rowsIn width source bar.timestamp := by
      have same : rowsIn wider source wide.timestamp = source.filter fun row =>
          decide (epochBucket (epochBucket row.timestamp width) wider = wide.timestamp) := by
        rw [rowsIn]
        apply List.filter_congr
        intro row _
        rw [epochBucket_epochBucket wider_positive divides positive]
      rw [same, chosen, List.filter_map, List.flatMap_map]
      rfl
    rw [rows]
    refine PricesOf.flatMap (fun bar inside => ?_) (outer.prices wide member)
    exact inner.prices bar (List.mem_of_mem_filter inside)

end Condenses

end Bars

end QuantFactory.Dashboard
