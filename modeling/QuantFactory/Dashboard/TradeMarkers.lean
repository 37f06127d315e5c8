import QuantFactory.Dashboard.BarAggregation

/-!
# The bars of a run and the markers on them

The prepared bars of every wider interval are faithful to the saved rows, and so are bars
made of bars.  An event is placed on the bar of its bucket unless its time, inside the last
second of the bucket, is read as the first second of the next one.
-/

set_option autoImplicit false

namespace QuantFactory.Dashboard

open QuantFactory.Library

section Widths
variable {name : String} {width : Int}

theorem supportedIntervals_lookup (supported : supportedIntervals.lookup name = some width) :
    width = 60 ∨ width = 300 ∨ width = 900 ∨ width = 3600 ∨ width = 86400 := by
  have member : ∀ (pairs : List (String × Int)), pairs.lookup name = some width →
      width ∈ pairs.map Prod.snd := by
    intro pairs found
    induction pairs with
    | nil => cases found
    | cons pair rest ih =>
        rw [List.lookup_cons] at found
        split at found
        · cases found
          exact List.mem_cons_self
        · exact List.mem_cons_of_mem _ (ih found)
  simpa [supportedIntervals] using member _ supported

theorem supported_pos (supported : supportedIntervals.lookup name = some width) : 0 < width := by
  rcases supportedIntervals_lookup supported with rfl | rfl | rfl | rfl | rfl <;> decide

theorem supported_dvd {other : String} {wider : Int}
    (supported : supportedIntervals.lookup name = some width)
    (also : supportedIntervals.lookup other = some wider) (le : width ≤ wider) :
    width ∣ wider := by
  rcases supportedIntervals_lookup supported with rfl | rfl | rfl | rfl | rfl <;>
    rcases supportedIntervals_lookup also with rfl | rfl | rfl | rfl | rfl <;>
      first
        | decide
        | omega

end Widths

section Bars
variable {F : Type} [LinearOrder F]

/-- Each row is in exactly one bar, that of its bucket, and the bars count the rows. -/
structure FaithfulBars (width : Int) (source bars : List (OhlcBar F)) : Prop
    extends Condenses width source bars where
  exactlyOne : ∀ row ∈ source, ∃! bar, bar ∈ bars ∧ bar.timestamp ≤ row.timestamp ∧
    row.timestamp < bar.timestamp + width * microsPerSecond
  counts : ∀ bar ∈ bars, bar.sourceCount = (rowsIn width source bar.timestamp).length
  total : (bars.map OhlcBar.sourceCount).sum = source.length

theorem Condenses.exactlyOne {width : Int} {source bars : List (OhlcBar F)}
    (condensed : Condenses width source bars) (positive : 0 < width) {row : OhlcBar F}
    (member : row ∈ source) : ∃! bar, bar ∈ bars ∧ bar.timestamp ≤ row.timestamp ∧
      row.timestamp < bar.timestamp + width * microsPerSecond := by
  obtain ⟨bar, inside, time⟩ := condensed.covered row member
  refine ⟨bar, ⟨inside, ?_, ?_⟩, ?_⟩
  · rw [time]
    exact epochBucket_le positive
  · rw [time]
    exact lt_epochBucket_add positive
  · rintro other ⟨within, lower, upper⟩
    have aligned : width * microsPerSecond ∣ other.timestamp := by
      obtain ⟨chosen, -, same⟩ :=
        (condensed.mem_timestamps other.timestamp).mp (List.mem_map_of_mem within)
      rw [← same]
      exact dvd_epochBucket
    have same := (epochBucket_eq_iff positive).mpr ⟨aligned, lower, upper⟩
    have once : (bars.map OhlcBar.timestamp).Nodup := condensed.timestamps_increase.imp ne_of_lt
    exact List.inj_on_of_nodup_map once within inside (same.symm.trans time.symm)

/-- The bars `prepare_interval` returns for accepted rows. -/
def preparedBars (target source : String) (width : Int) (bars : List (OhlcBar F)) :
    IntervalBars F :=
  if bars.isEmpty then unavailableBars target "No price chart was saved for this run."
  else ⟨target, if target = source then bars else aggregate width bars, true, none⟩

theorem preparedBars_available (target source : String) (width : Int) (bars : List (OhlcBar F)) :
    (preparedBars target source width bars).available = !bars.isEmpty ∧
      (preparedBars target source width bars).interval = target := by
  rw [preparedBars]
  cases bars.isEmpty <;> exact ⟨rfl, rfl⟩

section Prepared
variable {source target : String} {sourceWidth targetWidth : Int}
  (from_source : supportedIntervals.lookup source = some sourceWidth)
  (to_target : supportedIntervals.lookup target = some targetWidth)
  (not_finer : sourceWidth ≤ targetWidth)

include from_source in
theorem validateOhlcRows_eq {repr : Option String → String} {rows : List (OhlcRow F)} :
    validateOhlcRows repr rows source = validateRows source sourceWidth 0 none rows := by
  rw [validateOhlcRows, from_source]

include from_source to_target not_finer

theorem prepareInterval_eq {repr : Option String → String} {rows : List (OhlcRow F)}
    {bars : List (OhlcBar F)} (accepted : validateOhlcRows repr rows source = .ok bars) :
    prepareInterval repr rows target (some source) =
      .ok (preparedBars target source targetWidth bars) := by
  rw [prepareInterval, to_target]
  dsimp only
  rw [Option.bind_some, from_source, Option.map_some]
  dsimp only
  rw [if_neg (not_lt.mpr not_finer), accepted, bind_ok, preparedBars]
  split
  · rfl
  · split <;> rfl

theorem preparedBars_faithful {bars : List (OhlcBar F)} (accepted : SourceBars sourceWidth bars) :
    FaithfulBars targetWidth bars (preparedBars target source targetWidth bars).bars := by
  have positive := supported_pos to_target
  rw [preparedBars]
  cases bars with
  | nil => exact ⟨⟨List.Pairwise.nil, by simp, by simp [unavailableBars]⟩, by simp,
      by simp [unavailableBars], rfl⟩
  | cons first rest =>
      rw [if_neg (by simp)]
      dsimp only
      by_cases same : target = source
      · subst same
        have equal : sourceWidth = targetWidth := Option.some.inj (from_source.symm.trans to_target)
        subst equal
        rw [if_pos rfl]
        have condensed := accepted.condenses_self
        refine ⟨condensed, fun row member => condensed.exactlyOne positive member,
          fun bar member => ?_, SourceBars.sum_sourceCount accepted.one⟩
        rw [accepted.rowsIn_self member, accepted.one bar member]
        rfl
      · rw [if_neg same]
        have condensed := accepted.aggregate_condenses positive
        exact ⟨condensed, fun row member => condensed.exactlyOne positive member,
          fun bar member => (accepted.mem_aggregate positive member).2,
          accepted.aggregate_counts targetWidth⟩

end Prepared

/-! ## Markers -/

/-- A bar is found exactly when a row lies in the event's bucket, and then it is that
bucket's bar. -/
structure MarkerFaithful (width : Int) (source : List (OhlcBar F)) (event : TradeEvent F)
    (bars : List (OhlcBar F)) (outcome : Except ResultsError (EventBarMapping F)) : Prop where
  found : (∃ mapping, outcome = .ok mapping ∧ mapping.available = true) ↔
    ∃ row ∈ source, epochBucket row.timestamp width = epochBucket event.timestamp width
  placed : ∀ mapping, outcome = .ok mapping → mapping.available = true → ∃ bar ∈ bars,
    mapping.barTimestamp = some bar.timestamp ∧
      bar.timestamp = epochBucket event.timestamp width

/-- The time is not read as a second of the next bucket, or neither of the two buckets has
a row. -/
def KeepsItsBucket (width : Int) (source : List (OhlcBar F)) (event : TradeEvent F) : Prop :=
  ReadAsNextBucket event.timestamp width → ∀ row ∈ source,
    row.timestamp < epochBucket event.timestamp width ∨
      epochBucket event.timestamp width + 2 * (width * microsPerSecond) ≤ row.timestamp

omit [LinearOrder F] in
theorem TradeEvent.small (event : TradeEvent F) :
    event.timestamp.natAbs / microsPerSecond < 2 ^ 52 := by
  have lower := event.fromYearOne
  have upper := event.toYear9999
  unfold pastYear9999 at upper
  unfold microsPerSecond
  omega

omit [LinearOrder F] in
theorem TradeEvent.bucket_inRange (event : TradeEvent F) {width : Int} (positive : 0 < width) :
    epochBucket event.timestamp width < pastYear9999 :=
  (epochBucket_le positive).trans_lt event.toYear9999

section Markers
variable {target : String} {width : Int}
  (supported : supportedIntervals.lookup target = some width)
  {source : List (OhlcBar F)} {result : IntervalBars F}
  (named : result.interval = target)
  (shown : result.available = !source.isEmpty)
  (condensed : Condenses width source result.bars)

include supported named shown condensed

theorem mapEventToBar_found (repr : Option String → String) (event : TradeEvent F) :
    ((∃ mapping, mapEventToBar repr event result = .ok mapping ∧ mapping.available = true) ↔
      bucketStart event.timestamp width < pastYear9999 ∧
        ∃ row ∈ source, epochBucket row.timestamp width = bucketStart event.timestamp width) ∧
    ∀ mapping, mapEventToBar repr event result = .ok mapping → mapping.available = true →
      mapping.barTimestamp = some (bucketStart event.timestamp width) := by
  by_cases empty : source.isEmpty = true
  · have none : source = [] := List.isEmpty_iff.mp empty
    have hidden : result.available = false := by rw [shown, empty]; rfl
    have unmarked : ∀ mapping, mapEventToBar repr event result = .ok mapping →
        mapping.available = false := by
      intro mapping isMapping
      rw [mapEventToBar, if_pos hidden] at isMapping
      cases isMapping
      rfl
    refine ⟨iff_of_false ?_ (by simp [none]), ?_⟩
    · rintro ⟨mapping, isMapping, available⟩
      rw [unmarked mapping isMapping] at available
      cases available
    · intro mapping isMapping available
      rw [unmarked mapping isMapping] at available
      cases available
  · have visible : ¬result.available = false := by rw [shown]; simpa using empty
    have sorted : (result.bars.map OhlcBar.timestamp).Pairwise (· ≤ ·) :=
      condensed.timestamps_increase.imp le_of_lt
    have hit := (getElem?_searchSortedLeft_eq_some sorted).trans
      (condensed.mem_timestamps (bucketStart event.timestamp width))
    rw [mapEventToBar, if_neg visible, named, supported]
    dsimp only
    by_cases known : bucketStart event.timestamp width < pastYear9999
    · rw [checkedBucketStart_eq_ok.mpr ⟨rfl, known⟩, bind_ok, bisectLeft_eq sorted, ← List.getElem?_map]
      split
      · refine ⟨iff_of_true ⟨_, rfl, rfl⟩ ⟨known, hit.mp ‹_›⟩, ?_⟩
        rintro mapping ⟨⟩ _
        rfl
      · refine ⟨iff_of_false ?_ fun both => ‹¬_› (hit.mpr both.2), ?_⟩
        · rintro ⟨mapping, ⟨⟩, ⟨⟩⟩
        · rintro mapping ⟨⟩ ⟨⟩
    · have raises : ∀ bucket, checkedBucketStart event.timestamp width ≠ .ok bucket := by
        intro bucket isBucket
        obtain ⟨rfl, below⟩ := checkedBucketStart_eq_ok.mp isBucket
        exact known below
      refine ⟨iff_of_false ?_ fun both => known both.1, ?_⟩
      · rintro ⟨mapping, isMapping, -⟩
        obtain ⟨bucket, isBucket, -⟩ := bind_eq_ok.mp isMapping
        exact raises bucket isBucket
      · intro mapping isMapping
        obtain ⟨bucket, isBucket, -⟩ := bind_eq_ok.mp isMapping
        exact absurd isBucket (raises bucket)

/-- The marker is faithful exactly when the event's time keeps its bucket. -/
theorem markerFaithful_iff (inRange : ∀ row ∈ source, row.timestamp < pastYear9999)
    (repr : Option String → String) (event : TradeEvent F) :
    MarkerFaithful width source event result.bars (mapEventToBar repr event result) ↔
      KeepsItsBucket width source event := by
  have positive := supported_pos supported
  obtain ⟨available, time⟩ := mapEventToBar_found supported named shown condensed repr event
  by_cases next : ReadAsNextBucket event.timestamp width
  · have start := bucketStart_of_next event.small positive next
    have unit : 0 < width * (microsPerSecond : Int) := mul_pos positive (by decide)
    rw [start] at available time
    constructor
    · intro faithful _ row member
      by_contra within
      push Not at within
      obtain ⟨lower, upper⟩ := within
      -- the row is in the event's bucket or in the next one
      have own : ∃ mapping, mapEventToBar repr event result = .ok mapping ∧
          mapping.available = true := by
        by_cases before : row.timestamp <
            epochBucket event.timestamp width + width * microsPerSecond
        · apply faithful.found.mpr
          exact ⟨row, member, (epochBucket_eq_iff positive).mpr ⟨dvd_epochBucket, lower, before⟩⟩
        · apply available.mpr
          push Not at before
          refine ⟨before.trans_lt (inRange row member), row, member,
            (epochBucket_eq_iff positive).mpr ⟨?_, before, by omega⟩⟩
          exact Int.dvd_add dvd_epochBucket (Int.dvd_refl _)
      obtain ⟨mapping, isMapping, isAvailable⟩ := own
      obtain ⟨bar, -, placed, bucket⟩ := faithful.placed mapping isMapping isAvailable
      rw [time mapping isMapping isAvailable] at placed
      have equal := Option.some.inj placed
      omega
    · intro keeps
      have hidden : ¬∃ mapping, mapEventToBar repr event result = .ok mapping ∧
          mapping.available = true := by
        rw [available]
        rintro ⟨-, row, member, bucket⟩
        obtain ⟨-, lower, upper⟩ := (epochBucket_eq_iff positive).mp bucket
        rcases keeps next row member with below | above <;> omega
      refine ⟨iff_of_false hidden ?_, fun mapping isMapping shown =>
        absurd ⟨mapping, isMapping, shown⟩ hidden⟩
      rintro ⟨row, member, bucket⟩
      obtain ⟨-, lower, upper⟩ := (epochBucket_eq_iff positive).mp bucket
      rcases keeps next row member with below | above <;> omega
  · rw [bucketStart_of_not_next event.small positive next] at available time
    refine iff_of_true ⟨?_, fun mapping isMapping shown => ?_⟩ fun reads => absurd reads next
    · rw [available]
      exact and_iff_right (event.bucket_inRange positive)
    · obtain ⟨bar, inside, same⟩ := List.mem_map.mp ((condensed.mem_timestamps _).mpr
        (available.mp ⟨mapping, isMapping, shown⟩).2)
      exact ⟨bar, inside, by rw [time mapping isMapping shown, same], same⟩

end Markers

/-! ## Bars and markers of a run -/

/-- The bars of a run are faithful, so are bars made of them, and exactly the events that
keep their bucket are placed where they belong. -/
theorem chart_bars_are_faithful_and_markers_keep_their_bucket (repr : Option String → String)
    {rows : List (OhlcRow F)} {source target : String} {sourceWidth targetWidth : Int}
    (from_source : supportedIntervals.lookup source = some sourceWidth)
    (to_target : supportedIntervals.lookup target = some targetWidth)
    (not_finer : sourceWidth ≤ targetWidth) {bars : List (OhlcBar F)}
    (accepted : validateOhlcRows repr rows source = .ok bars) :
    ∃ result, prepareInterval repr rows target (some source) = .ok result ∧
      FaithfulBars targetWidth bars result.bars ∧
      (result.bars.map OhlcBar.sourceCount).sum = rows.length ∧
      (∀ coarser width, supportedIntervals.lookup coarser = some width → targetWidth ≤ width →
        ∃ again direct,
          prepareInterval repr (result.bars.map OhlcBar.asRow) coarser (some target) = .ok again ∧
          prepareInterval repr rows coarser (some source) = .ok direct ∧
          again.available = direct.available ∧
          again.bars.map OhlcBar.single = direct.bars.map OhlcBar.single) ∧
      ∀ event : TradeEvent F,
        MarkerFaithful targetWidth bars event result.bars (mapEventToBar repr event result) ↔
          KeepsItsBucket targetWidth bars event := by
  have sound := accepted
  rw [validateOhlcRows_eq from_source] at sound
  obtain ⟨saved, sourceBars, -⟩ := validateRows_sound sound
  have faithful := preparedBars_faithful from_source to_target not_finer sourceBars
  obtain ⟨shown, named⟩ := preparedBars_available target source targetWidth bars
  refine ⟨_, prepareInterval_eq from_source to_target not_finer accepted, faithful, ?_, ?_,
    fun event => markerFaithful_iff to_target named shown faithful.toCondenses sourceBars.inRange
      repr event⟩
  · rw [faithful.total, saved, List.length_map]
  · intro coarser width to_coarser wider
    have condensed := faithful.toCondenses
    have again := condensed.sourceBars (supported_pos to_target) sourceBars.consistent
      sourceBars.inRange
    have accepted_again : validateOhlcRows repr
        ((preparedBars target source targetWidth bars).bars.map OhlcBar.asRow) target =
          .ok ((preparedBars target source targetWidth bars).bars.map OhlcBar.single) := by
      rw [validateOhlcRows_eq to_target]
      have complete : ∀ before ∈ (none : Option (Int × Int)), before.2 = before.1 ∧
          ∀ bar ∈ (preparedBars target source targetWidth bars).bars.map OhlcBar.single,
            before.1 < bar.timestamp := by simp
      have read_back : validateRows target targetWidth 0 none _ = _ :=
        validateRows_complete target again complete
      rw [List.map_map] at read_back
      exact read_back
    have first := preparedBars_faithful to_target to_coarser wider again
    have second := preparedBars_faithful from_source to_coarser (not_finer.trans wider) sourceBars
    refine ⟨_, _, prepareInterval_eq to_target to_coarser wider accepted_again,
      prepareInterval_eq from_source to_coarser (not_finer.trans wider) accepted, ?_, ?_⟩
    · rw [(preparedBars_available _ _ _ _).1, (preparedBars_available _ _ _ _).1,
        condensed.map_single.isEmpty]
    · exact (condensed.map_single.trans (supported_pos to_target) (supported_pos to_coarser)
        (supported_dvd to_target to_coarser wider) sourceBars.increasing
          first.toCondenses).unique second.toCondenses

end Bars

def threeRows : List (OhlcRow Nat) :=
  [(⟨60000000, 10, 12, 9, 11, 1⟩ : OhlcBar Nat).asRow,
    (⟨240000000, 11, 14, 10, 13, 1⟩ : OhlcBar Nat).asRow,
    (⟨660000000, 20, 22, 19, 21, 1⟩ : OhlcBar Nat).asRow]

def shownText (name : Option String) : String := name.getD "None"

theorem three_rows_make_two_bars :
    ∃ result, prepareInterval shownText threeRows "5m" (some "1m") = .ok result ∧
      (result.bars.map OhlcBar.sourceCount).sum = 3 := by
  have oneMinute : supportedIntervals.lookup "1m" = some 60 := by decide
  have fiveMinutes : supportedIntervals.lookup "5m" = some 300 := by decide
  have accepted : validateOhlcRows shownText threeRows "1m" =
      .ok [⟨60000000, 10, 12, 9, 11, 1⟩, ⟨240000000, 11, 14, 10, 13, 1⟩,
        ⟨660000000, 20, 22, 19, 21, 1⟩] := by decide +kernel
  obtain ⟨result, prepared, -, total, -⟩ :=
    chart_bars_are_faithful_and_markers_keep_their_bucket shownText oneMinute fiveMinutes
      (by decide) accepted
  exact ⟨result, prepared, total⟩

def epochRows : List (OhlcRow Nat) :=
  [(⟨-60000000, 10, 12, 9, 11, 1⟩ : OhlcBar Nat).asRow,
    (⟨0, 11, 13, 10, 12, 1⟩ : OhlcBar Nat).asRow]

def earlyEvent : TradeEvent Nat := ⟨"1", "entry", -500000, 11, by decide, by decide⟩

/-- The trade of the minute before the epoch is marked on the bar of the minute after it. -/
theorem early_event_is_marked_on_the_next_bar :
    validateOhlcRows shownText epochRows "1m" =
        .ok [⟨-60000000, 10, 12, 9, 11, 1⟩, ⟨0, 11, 13, 10, 12, 1⟩] ∧
      ∃ result, prepareInterval shownText epochRows "1m" (some "1m") = .ok result ∧
        ((mapEventToBar shownText earlyEvent result).toOption.bind EventBarMapping.barTimestamp) =
          some 0 ∧
        ¬MarkerFaithful 60 [⟨-60000000, 10, 12, 9, 11, 1⟩, ⟨0, 11, 13, 10, 12, 1⟩] earlyEvent
          result.bars (mapEventToBar shownText earlyEvent result) := by
  have accepted : validateOhlcRows shownText epochRows "1m" =
      .ok [⟨-60000000, 10, 12, 9, 11, 1⟩, ⟨0, 11, 13, 10, 12, 1⟩] := by decide +kernel
  refine ⟨accepted, _, prepareInterval_eq (by decide) (by decide) (le_refl 60) accepted, ?_, ?_⟩
  · decide +kernel
  · intro faithful
    obtain ⟨mapping, isMapping, available⟩ := faithful.found.mpr
      ⟨⟨-60000000, 10, 12, 9, 11, 1⟩, List.mem_cons_self, by decide⟩
    obtain ⟨bar, -, marked, bucket⟩ := faithful.placed mapping isMapping available
    have shown : ((mapEventToBar shownText earlyEvent (preparedBars "1m" "1m" 60
        [⟨-60000000, 10, 12, 9, 11, 1⟩, ⟨0, 11, 13, 10, 12, 1⟩])).toOption.bind
          EventBarMapping.barTimestamp) = some 0 := by decide +kernel
    rw [isMapping] at shown
    have zero : mapping.barTimestamp = some 0 := shown
    have start : epochBucket earlyEvent.timestamp 60 = -60000000 := by decide
    rw [zero] at marked
    rw [start] at bucket
    rw [bucket] at marked
    cases marked

end QuantFactory.Dashboard
