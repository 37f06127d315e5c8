import Mathlib
import QuantFactory.Library.OrderedCuts
import QuantFactory.WalkForward.Differences

/-!
# Labels that sort like their bars

For windows of one alignment, whose labels sort and read back like their bars,
the document's grid reaches over every window's own, and what `FoldsDiffer`
leaves is `CutsSeparated` and the short final test.  The builder's cuts are
separated.
-/

set_option autoImplicit false

namespace QuantFactory.WalkForward

open QuantFactory.Library QuantFactory.Python

/-! ## Wider grids -/

/-- The sessions of a calendar in the order of their dates, as a schedule lists them. -/
def DatesOrdered (calendar : MarketCalendar) : Prop :=
  calendar.sessions.Pairwise fun a b => a.date < b.date

theorem schedule_infix {calendar : MarketCalendar} (dated : DatesOrdered calendar)
    {startDate endDate earlier later : Int} (before : earlier ≤ startDate)
    (after : endDate ≤ later) :
    calendar.schedule startDate endDate <:+: calendar.schedule earlier later := by
  have sorted : (calendar.schedule earlier later).Pairwise fun a b => a.date < b.date :=
    List.Pairwise.sublist List.filter_sublist dated
  have ends : (calendar.schedule earlier later).filter (fun session =>
      decide (session.date ≤ endDate)) <+: calendar.schedule earlier later := by
    refine ⟨_, filter_append_filter_not (sorted.imp fun less below => ?_)⟩
    simp only [decide_eq_true_eq] at below ⊢
    omega
  have starts : ((calendar.schedule earlier later).filter (fun session =>
        decide (session.date ≤ endDate))).filter (fun session =>
          !decide (session.date < startDate)) <:+
      (calendar.schedule earlier later).filter (fun session =>
        decide (session.date ≤ endDate)) := by
    refine ⟨_, filter_append_filter_not
      ((List.Pairwise.sublist List.filter_sublist sorted).imp fun less below => ?_)⟩
    simp only [decide_eq_true_eq] at below ⊢
    omega
  have inner : calendar.schedule startDate endDate =
      ((calendar.schedule earlier later).filter (fun session =>
        decide (session.date ≤ endDate))).filter (fun session =>
          !decide (session.date < startDate)) := by
    simp only [MarketCalendar.schedule, List.filter_filter]
    refine List.filter_congr fun session _ => ?_
    rw [Bool.eq_iff_iff]
    simp only [decide_eq_true_eq, Bool.and_eq_true, Bool.not_eq_eq_eq_not, Bool.not_true,
      decide_eq_false_iff_not]
    omega
  rw [inner]
  exact starts.isInfix.trans ends.isInfix

theorem diffs_append_subset (before mid : List Int) : diffs mid ⊆ diffs (before ++ mid) := by
  induction before with
  | nil => exact List.Subset.refl _
  | cons first rest ih =>
      refine List.Subset.trans ih ?_
      rw [List.cons_append]
      cases rest ++ mid with
      | nil => exact List.nil_subset _
      | cons second tail => exact List.subset_cons_self _ _

theorem diffs_subset_append (mid after : List Int) : diffs mid ⊆ diffs (mid ++ after) := by
  induction mid with
  | nil => exact List.nil_subset _
  | cons first rest ih =>
      cases rest with
      | nil => exact List.nil_subset _
      | cons second tail => exact List.cons_subset_cons _ ih

theorem diffs_inside {mid whole : List Int} (inside : mid <:+: whole) : diffs mid ⊆ diffs whole := by
  obtain ⟨before, after, rfl⟩ := inside
  exact List.Subset.trans (diffs_append_subset before mid) (diffs_subset_append _ after)

theorem foldr_max_le_iff {values : List Int} {bound : Int} :
    values.foldr max 0 ≤ bound ↔ 0 ≤ bound ∧ ∀ value ∈ values, value ≤ bound := by
  induction values with
  | nil => simp
  | cons value rest ih =>
      simp only [List.foldr_cons, max_le_iff, ih, List.forall_mem_cons]
      tauto

theorem foldr_max_mono {values more : List Int} (subset : values ⊆ more) :
    values.foldr max 0 ≤ more.foldr max 0 := by
  obtain ⟨zero, all⟩ := foldr_max_le_iff.mp (le_refl (more.foldr max 0))
  exact foldr_max_le_iff.mpr ⟨zero, fun value member => all value (subset member)⟩

theorem longestSpan_mono {schedule wider : List CalendarSession} (inside : schedule <:+: wider) :
    longestSpan schedule ≤ longestSpan wider := by
  unfold longestSpan
  exact max_le_max (foldr_max_mono (diffs_inside (inside.map _)))
    (foldr_max_mono (List.map_subset _ inside.subset))
theorem ceilDiv_mono {a b interval : Int} (nonneg : 0 ≤ a) (le : a ≤ b) :
    max 1 (ceilDiv a interval) ≤ max 1 (ceilDiv b interval) := by
  unfold ceilDiv
  rcases lt_or_ge 0 interval with positive | notPositive
  · have order : -b / interval ≤ -a / interval := Int.ediv_le_ediv positive (by omega)
    omega
  · have low : 0 ≤ -a / interval := Int.ediv_nonneg_of_nonpos_of_nonpos (by omega) notPositive
    omega

theorem longestSpan_nonneg (schedule : List CalendarSession) : 0 ≤ longestSpan schedule :=
  (foldr_max_le_iff.mp (le_refl _)).1.trans (le_max_left _ _)

theorem sessionGrid_widen {library : TimeLibrary} {alignment : SessionAlignment}
    {first last earlier later : Int} {grid : SessionGrid}
    (dated : ∀ calendar, library.calendar alignment.exchangeCalendar = some calendar →
      DatesOrdered calendar)
    (built : sessionGrid library alignment first last = .ok grid) (before : earlier ≤ first)
    (after : last ≤ later) :
    ∃ wider, sessionGrid library alignment earlier later = .ok wider ∧
      grid.opens ⊆ wider.opens ∧ grid.maxSessionRows ≤ wider.maxSessionRows := by
  obtain ⟨calendar, interval, found, parsed, nonzero, scheduled, rfl⟩ := sessionGrid_eq_ok.mp built
  have low := utcDay_mono before
  have high := utcDay_mono after
  have inside := schedule_infix (dated calendar found)
    (show utcDay earlier - 7 ≤ utcDay first - 7 by omega)
    (show utcDay last + 7 ≤ utcDay later + 7 by omega)
  refine ⟨_, sessionGrid_eq_ok.mpr ⟨calendar, interval, found, parsed, nonzero, ?_, rfl⟩,
    List.map_subset _ inside.subset, ?_⟩
  · obtain ⟨session, member⟩ := List.exists_mem_of_ne_nil _ scheduled
    exact List.ne_nil_of_mem (inside.subset member)
  · exact Int.toNat_le_toNat
      (ceilDiv_mono (longestSpan_nonneg _) (longestSpan_mono inside))

/-! ## The first and the last label -/

theorem smallerText_eq_min (a b : String) : smallerText a b = min a b := by
  unfold smallerText
  split
  · rename_i less
    exact (min_eq_right less.le).symm
  · rename_i notLess
    exact (min_eq_left (not_lt.mp notLess)).symm

theorem minText_eq_some_iff {texts : List String} {text : String} :
    minText texts = some text ↔ text ∈ texts ∧ ∀ other ∈ texts, text ≤ other := by
  have same : minText texts = texts.min? := by
    cases texts with
    | nil => rfl
    | cons first rest =>
        simp only [minText, List.min?_cons', funext₂ smallerText_eq_min]
  rw [same, List.min?_eq_some_iff]

theorem largerText_eq_max (a b : String) : largerText a b = max a b := by
  unfold largerText
  split
  · rename_i less
    exact (max_eq_right less.le).symm
  · rename_i notLess
    exact (max_eq_left (not_lt.mp notLess)).symm

theorem maxText_eq_some_iff {texts : List String} {text : String} :
    maxText texts = some text ↔ text ∈ texts ∧ ∀ other ∈ texts, other ≤ text := by
  have same : maxText texts = texts.max? := by
    cases texts with
    | nil => rfl
    | cons first rest =>
        simp only [maxText, List.max?_cons', funext₂ largerText_eq_max]
  rw [same, List.max?_eq_some_iff]

/-! ## Readable windows -/

def firstBar (part : DataPartition) : Int := part.index.head?.getD 0

def lastBar (part : DataPartition) : Int := part.index.getLast?.getD 0

def windowBars (windows : List WalkForwardWindow) : List Int :=
  windows.flatMap fun window => window.parts.flatMap DataPartition.index

/-- What a boundary label tells of a bar: its time on aligned data, else its day. -/
def labelled (library : TimeLibrary) (aligned : Bool) (time : Int) : Int :=
  if aligned then time else library.localDay time

/-- The windows of one call of the builder, with labels that sort and read back like
what they tell of their bars. -/
structure ReadableWindows (library : TimeLibrary) (alignment : Option SessionAlignment)
    (windows : List WalkForwardWindow) : Prop where
  uniform : ∀ window ∈ windows, window.sessionAlignment = alignment
  filled : ∀ window ∈ windows, ∀ part ∈ window.parts, part.index ≠ []
  sorts : ∀ a ∈ windowBars windows, ∀ b ∈ windowBars windows,
    boundaryLabel library alignment.isSome a < boundaryLabel library alignment.isSome b ↔
      labelled library alignment.isSome a < labelled library alignment.isSome b
  days : ∀ a ∈ windowBars windows, ∀ b ∈ windowBars windows, a ≤ b →
    labelled library alignment.isSome a ≤ labelled library alignment.isSome b
  reads : alignment.isSome = true → ∀ a ∈ windowBars windows,
    library.parse (library.isoformat a) = some a
  dated : ∀ name calendar, library.calendar name = some calendar → DatesOrdered calendar

/-- A cut between bars of one day is not seen in daily labels, and two tests may meet
inside a session. -/
def CutsSeparated (library : TimeLibrary) (alignment : Option SessionAlignment)
    (windows : List WalkForwardWindow) : Prop :=
  match alignment with
  | none => ∀ cut ∈ windows.flatMap WalkForwardWindow.cuts ++ testCuts none windows,
      library.localDay (lastBar cut.1) < library.localDay (firstBar cut.2)
  | some alignment => ∀ cut ∈ testCuts none windows, ∃ calendar session,
      library.calendar alignment.exchangeCalendar = some calendar ∧
        session ∈ calendar.sessions ∧ lastBar cut.1 < session.marketOpen ∧
          session.marketOpen ≤ firstBar cut.2

section Bars
variable {library : TimeLibrary} {part : DataPartition}

theorem partitionBounds_filled (filled : part.index ≠ []) :
    partitionBounds part = (.bar (firstBar part), .bar (lastBar part)) := by
  unfold partitionBounds firstBar lastBar
  rw [List.head?_eq_some_head filled, List.getLast?_eq_some_getLast filled]
  rfl

theorem firstBar_mem (filled : part.index ≠ []) : firstBar part ∈ part.index := by
  unfold firstBar
  rw [List.head?_eq_some_head filled]
  exact List.head_mem filled

theorem lastBar_mem (filled : part.index ≠ []) : lastBar part ∈ part.index := by
  unfold lastBar
  rw [List.getLast?_eq_some_getLast filled]
  exact List.getLast_mem filled

theorem requirePartition_filled {name : String} {aligned : Bool} (filled : part.index ≠ [])
    (accepted : requirePartition library name part aligned = .ok ()) :
    firstBar part ≤ lastBar part ∧
      part.startLabel = boundaryLabel library aligned (firstBar part) ∧
      part.endLabel = boundaryLabel library aligned (lastBar part) := by
  have first : part.index.head? = some (firstBar part) := by
    simp [firstBar, List.head?_eq_some_head filled]
  have last : part.index.getLast? = some (lastBar part) := by
    simp [lastBar, List.getLast?_eq_some_getLast filled]
  simp only [requirePartition, partitionBounds_filled filled, Bound.lt, requireLabels, first, last,
    bind_eq_ok, raiseIf_eq_ok, Except.ok.injEq, decide_eq_false_iff_not, not_not] at accepted
  obtain ⟨_, _, _, _, _, _, _, _, _, rfl, _, forward, _, _, _, start, stop⟩ := accepted
  exact ⟨by simpa using forward, start, stop⟩

theorem mem_parts_of_mem_cuts {window : WalkForwardWindow} {cut : DataPartition × DataPartition}
    (member : cut ∈ window.cuts) : cut.1 ∈ window.parts ∧ cut.2 ∈ window.parts := by
  unfold WalkForwardWindow.cuts at member
  unfold WalkForwardWindow.parts
  split at member
  · rename_i absent
    cases List.mem_singleton.mp member
    simp [absent]
  · rename_i present
    rcases List.mem_pair.mp member with rfl | rfl <;> simp [present]

theorem mem_tests_of_mem_testCuts {previous : Option DataPartition}
    {windows : List WalkForwardWindow} {cut : DataPartition × DataPartition}
    (member : cut ∈ testCuts previous windows) :
    (previous = some cut.1 ∨ ∃ window ∈ windows, cut.1 = window.test) ∧
      ∃ window ∈ windows, cut.2 = window.test := by
  induction windows generalizing previous with
  | nil => simp [testCuts] at member
  | cons window rest ih =>
      simp only [testCuts, List.mem_append, List.mem_map, Option.mem_toList] at member
      rcases member with ⟨test, same, rfl⟩ | later
      · exact ⟨.inl same, window, List.mem_cons_self, rfl⟩
      · obtain ⟨before, next, inRest, isNext⟩ := ih later
        refine ⟨.inr ?_, next, List.mem_cons_of_mem _ inRest, isNext⟩
        rcases before with same | ⟨other, inRest, isOther⟩
        · exact ⟨window, List.mem_cons_self, (Option.some.inj same).symm⟩
        · exact ⟨other, List.mem_cons_of_mem _ inRest, isOther⟩

theorem mem_parts_of_mem_documentCuts {windows : List WalkForwardWindow}
    {cut : DataPartition × DataPartition}
    (member : cut ∈ windows.flatMap WalkForwardWindow.cuts ++ testCuts none windows) :
    (∃ window ∈ windows, cut.1 ∈ window.parts) ∧ ∃ window ∈ windows, cut.2 ∈ window.parts := by
  have test (window : WalkForwardWindow) : window.test ∈ window.parts := by
    simp [WalkForwardWindow.parts]
  rcases List.mem_append.mp member with own | between
  · obtain ⟨window, inWindows, inCuts⟩ := List.mem_flatMap.mp own
    obtain ⟨before, after⟩ := mem_parts_of_mem_cuts inCuts
    exact ⟨⟨window, inWindows, before⟩, window, inWindows, after⟩
  · obtain ⟨before, next, inWindows, isNext⟩ := mem_tests_of_mem_testCuts between
    obtain ⟨window, inList, isTest⟩ := before.resolve_left (by simp)
    exact ⟨⟨window, inList, isTest ▸ test window⟩, next, inWindows, isNext ▸ test next⟩

end Bars

def LiveFolds (library : TimeLibrary) (rules : WindowRuleSettings)
    (windows : List WalkForwardWindow) : Prop :=
  ∀ number window, windows[number]? = some window → ∃ grid, LiveFold library rules grid
    (if number = 0 then none else windows.head?.map fun first => (partitionBounds first.train).1)
    (trainSizeAt rules rules.trainingWindowSize number) window

theorem gridForWindow_bars {library : TimeLibrary} {alignment : Option SessionAlignment}
    {window : WalkForwardWindow} (uniform : window.sessionAlignment = alignment)
    {grid : Option SessionGrid} {first last : Int}
    (found : gridForWindow library window (.bar first) (.bar last) = .ok grid) :
    (alignment = none → grid = none) ∧ ∀ sessionAlignment, alignment = some sessionAlignment →
      ∃ sessions, sessionGrid library sessionAlignment first last = .ok sessions ∧
        grid = some sessions := by
  unfold gridForWindow at found
  rw [uniform] at found
  cases alignment with
  | none => exact ⟨fun _ => (Except.ok.inj found).symm, fun _ none => (by cases none)⟩
  | some sessionAlignment =>
      simp only [Bound.time, bind_ok, map_eq_ok] at found
      obtain ⟨sessions, built, rfl⟩ := found
      refine ⟨fun none => (by cases none), fun other same => ?_⟩
      cases Option.some.inj same
      exact ⟨sessions, built, rfl⟩

theorem LiveFold.found_bars {library : TimeLibrary} {rules : WindowRuleSettings}
    {grid : Option SessionGrid} {firstTrain : Option Bound} {expectedTrainSize : Nat}
    {window : WalkForwardWindow}
    (fold : LiveFold library rules grid firstTrain expectedTrainSize window)
    (filled : ∀ part ∈ window.parts, part.index ≠ []) :
    gridForWindow library window (.bar (firstBar window.train)) (.bar (lastBar window.test)) =
      .ok grid := by
  have found := fold.found
  rwa [partitionBounds_filled (filled _ List.mem_cons_self),
    partitionBounds_filled (filled _ (by simp [WalkForwardWindow.parts]))] at found

section Readable
variable {library : TimeLibrary} {rules : WindowRuleSettings}
  {alignment : Option SessionAlignment} {windows : List WalkForwardWindow}
  (readable : ReadableWindows library alignment windows) (live : LiveFolds library rules windows)

include readable live

theorem live_grid {window : WalkForwardWindow} (member : window ∈ windows) :
    ∃ grid firstTrain expectedTrainSize,
      LiveFold library rules grid firstTrain expectedTrainSize window ∧
        grid.isSome = alignment.isSome := by
  obtain ⟨number, inside, rfl⟩ := List.getElem_of_mem member
  obtain ⟨grid, fold⟩ := live number _ (List.getElem?_eq_getElem inside)
  refine ⟨grid, _, _, fold, ?_⟩
  obtain ⟨daily, aligned⟩ := gridForWindow_bars (readable.uniform _ member)
    (fold.found_bars (readable.filled _ member))
  cases alignment with
  | none =>
      rw [daily rfl]
      rfl
  | some alignment =>
      obtain ⟨_, _, rfl⟩ := aligned alignment rfl
      rfl

theorem live_labels {window : WalkForwardWindow} (member : window ∈ windows)
    {part : DataPartition} (inParts : part ∈ window.parts) :
    firstBar part ≤ lastBar part ∧
      part.startLabel = boundaryLabel library alignment.isSome (firstBar part) ∧
      part.endLabel = boundaryLabel library alignment.isSome (lastBar part) := by
  obtain ⟨grid, _, _, fold, kind⟩ := live_grid readable live member
  obtain ⟨name, accepted⟩ := fold.parts part inParts
  rw [kind] at accepted
  exact requirePartition_filled (readable.filled window member part inParts) accepted

omit live in
theorem bars_mem {window : WalkForwardWindow} (member : window ∈ windows)
    {part : DataPartition} (inParts : part ∈ window.parts) :
    firstBar part ∈ windowBars windows ∧ lastBar part ∈ windowBars windows := by
  have filled := readable.filled window member part inParts
  simp only [windowBars, List.mem_flatMap]
  exact ⟨⟨window, member, part, inParts, firstBar_mem filled⟩,
    window, member, part, inParts, lastBar_mem filled⟩

theorem live_ordered : ∀ window ∈ windows, ∀ part ∈ window.parts, LabelsOrdered part := by
  intro window member part inParts
  obtain ⟨forward, start, stop⟩ := live_labels readable live member inParts
  obtain ⟨firstIn, lastIn⟩ := bars_mem readable member inParts
  have place := readable.days _ firstIn _ lastIn forward
  rw [LabelsOrdered, start, stop, readable.sorts _ lastIn _ firstIn]
  omega

theorem cut_sorted_iff {cut : DataPartition × DataPartition}
    (member : cut ∈ windows.flatMap WalkForwardWindow.cuts ++ testCuts none windows) :
    cut.1.endLabel < cut.2.startLabel ↔ labelled library alignment.isSome (lastBar cut.1) <
      labelled library alignment.isSome (firstBar cut.2) := by
  obtain ⟨⟨window, inWindows, before⟩, next, inList, after⟩ :=
    mem_parts_of_mem_documentCuts member
  rw [(live_labels readable live inWindows before).2.2, (live_labels readable live inList after).2.1]
  exact readable.sorts _ (bars_mem readable inWindows before).2 _
    (bars_mem readable inList after).1

theorem live_start (expanding : rules.trainingMode = .expanding) {window : WalkForwardWindow}
    (member : window ∈ windows) {first : String}
    (isFirst : (windows.head?.map fun window => window.train.startLabel) = some first) :
    first = window.train.startLabel := by
  obtain ⟨head, isHead, rfl⟩ := Option.map_eq_some_iff.mp isFirst
  obtain ⟨number, inside, rfl⟩ := List.getElem_of_mem member
  obtain ⟨grid, fold⟩ := live number _ (List.getElem?_eq_getElem inside)
  have headIn : head ∈ windows := List.mem_of_head? isHead
  have train (window : WalkForwardWindow) : window.train ∈ window.parts := List.mem_cons_self
  by_cases zero : number = 0
  · subst zero
    rw [List.head?_eq_getElem?, List.getElem?_eq_getElem inside] at isHead
    rw [Option.some.inj isHead]
  · have same := fold.start expanding (partitionBounds head.train).1 (by simp [zero, isHead])
    rw [partitionBounds_filled (readable.filled _ headIn _ (train _)),
      partitionBounds_filled (readable.filled _ member _ (train _))] at same
    rw [(live_labels readable live headIn (train _)).2.1,
      (live_labels readable live member (train _)).2.1, Bound.bar.inj same]

theorem live_labels_bars {text : String} (member : text ∈ windows.flatMap windowLabels) :
    ∃ bar ∈ windowBars windows, text = boundaryLabel library alignment.isSome bar := by
  obtain ⟨window, inWindows, inLabels⟩ := List.mem_flatMap.mp member
  have train : window.train ∈ window.parts := List.mem_cons_self
  have test : window.test ∈ window.parts := by simp [WalkForwardWindow.parts]
  have trainLabels := (live_labels readable live inWindows train).2
  have testLabels := (live_labels readable live inWindows test).2
  have trainBars := bars_mem readable inWindows train
  have testBars := bars_mem readable inWindows test
  simp only [windowLabels, List.mem_cons, List.not_mem_nil, or_false] at inLabels
  rcases inLabels with rfl | rfl | rfl | rfl
  · exact ⟨_, trainBars.1, trainLabels.1⟩
  · exact ⟨_, trainBars.2, trainLabels.2⟩
  · exact ⟨_, testBars.1, testLabels.1⟩
  · exact ⟨_, testBars.2, testLabels.2⟩

end Readable

section DocumentGrid
variable {F : Type} {library : TimeLibrary} {rules : WindowRuleSettings}
  {folds : List (WalkForwardFoldResult F)} (nonempty : folds ≠ [])

include nonempty

theorem documentAlignment_eq {alignment : Option SessionAlignment}
    (readable : ReadableWindows library alignment (folds.map fun fold => fold.window)) :
    documentAlignment folds = alignment := by
  cases folds with
  | nil => exact absurd rfl nonempty
  | cons fold rest => exact readable.uniform _ List.mem_cons_self

theorem documentGrid_aligned {alignment : SessionAlignment}
    (readable : ReadableWindows library (some alignment) (folds.map fun fold => fold.window))
    (live : LiveFolds library rules (folds.map fun fold => fold.window)) :
    ∃ earliest latest, documentGrid library folds =
        (sessionGrid library alignment earliest latest).map some ∧
      ∀ fold ∈ folds, ∀ part ∈ [fold.window.train, fold.window.test],
        earliest ≤ firstBar part ∧ lastBar part ≤ latest := by
  have labels : (folds.flatMap fun fold => windowLabels fold.window) =
      (folds.map fun fold => fold.window).flatMap windowLabels := by
    rw [List.flatMap_map]
  obtain ⟨smallest, isSmallest⟩ : ∃ text,
      minText ((folds.map fun fold => fold.window).flatMap windowLabels) = some text := by
    cases folds with
    | nil => exact absurd rfl nonempty
    | cons fold rest => exact ⟨_, rfl⟩
  obtain ⟨largest, isLargest⟩ : ∃ text,
      maxText ((folds.map fun fold => fold.window).flatMap windowLabels) = some text := by
    cases folds with
    | nil => exact absurd rfl nonempty
    | cons fold rest => exact ⟨_, rfl⟩
  obtain ⟨smallestIn, least⟩ := minText_eq_some_iff.mp isSmallest
  obtain ⟨largestIn, greatest⟩ := maxText_eq_some_iff.mp isLargest
  obtain ⟨earliest, earliestIn, rfl⟩ := live_labels_bars readable live smallestIn
  obtain ⟨latest, latestIn, rfl⟩ := live_labels_bars readable live largestIn
  refine ⟨earliest, latest, ?_, fun fold member part inPair => ?_⟩
  · have aligned := documentAlignment_eq nonempty readable
    have first := readable.reads rfl earliest earliestIn
    have last := readable.reads rfl latest latestIn
    simp only [boundaryLabel, Option.isSome_some, if_true] at isSmallest isLargest
    have read : alignmentOf (F := F) (.dict [
        ("exchange_calendar", .str alignment.exchangeCalendar),
        ("interval", .str alignment.interval)]) = .ok alignment := rfl
    simp only [documentGrid, aligned, gridForLabels, Option.map_some, alignmentDocument, read,
      labels, isSmallest, isLargest, orRaise, Bound.time, first, last, bind_ok]
  · have inWindows : fold.window ∈ folds.map fun fold => fold.window := List.mem_map_of_mem member
    have inParts : part ∈ fold.window.parts := by
      rcases List.mem_pair.mp inPair with rfl | rfl <;> simp [WalkForwardWindow.parts]
    have listed : part.startLabel ∈ (folds.map fun fold => fold.window).flatMap windowLabels ∧
        part.endLabel ∈ (folds.map fun fold => fold.window).flatMap windowLabels := by
      simp only [List.mem_flatMap]
      rcases List.mem_pair.mp inPair with rfl | rfl
      · exact ⟨⟨_, inWindows, by simp [windowLabels]⟩, _, inWindows, by simp [windowLabels]⟩
      · exact ⟨⟨_, inWindows, by simp [windowLabels]⟩, _, inWindows, by simp [windowLabels]⟩
    obtain ⟨_, start, stop⟩ := live_labels readable live inWindows inParts
    obtain ⟨firstIn, lastIn⟩ := bars_mem readable inWindows inParts
    have low := least _ listed.1
    have high := greatest _ listed.2
    rw [start, ← not_lt, readable.sorts _ firstIn _ earliestIn] at low
    rw [stop, ← not_lt, readable.sorts _ latestIn _ lastIn] at high
    simp only [labelled, Option.isSome_some, if_true, not_lt] at low high
    exact ⟨low, high⟩

omit nonempty in
theorem sessionsApart_iff {alignment : SessionAlignment} {windows : List WalkForwardWindow}
    (readable : ReadableWindows library (some alignment) windows)
    (live : LiveFolds library rules windows) {cut : DataPartition × DataPartition}
    (member : cut ∈ windows.flatMap WalkForwardWindow.cuts ++ testCuts none windows)
    (sessions : SessionGrid) :
    SessionsApart library (some sessions) cut.1.endLabel cut.2.startLabel ↔
      sessions.sessionOf (lastBar cut.1) < sessions.sessionOf (firstBar cut.2) := by
  obtain ⟨⟨window, inWindows, before⟩, next, inList, after⟩ :=
    mem_parts_of_mem_documentCuts member
  have stop := (live_labels readable live inWindows before).2.2
  have start := (live_labels readable live inList after).2.1
  simp only [boundaryLabel, Option.isSome_some, if_true] at stop start
  rw [stop, start]
  simp [SessionsApart, readable.reads rfl _ (bars_mem readable inWindows before).2,
    readable.reads rfl _ (bars_mem readable inList after).1]

theorem differences_daily
    (readable : ReadableWindows library none (folds.map fun fold => fold.window))
    (live : LiveFolds library rules (folds.map fun fold => fold.window)) :
    (∃ grid, documentGrid library folds = .ok grid ∧ FoldsDiffer library rules grid none none
      rules.trainingWindowSize (folds.map fun fold => fold.window)) ↔
      CutsSeparated library none (folds.map fun fold => fold.window) ∧
        ∀ fold ∈ folds, rules.testWindowSize ≤ fold.window.test.rowCount := by
  have grid : documentGrid library folds = .ok none := by
    simp [documentGrid, documentAlignment_eq nonempty readable, gridForLabels]
  have sorted (cut : DataPartition × DataPartition) member :=
    cut_sorted_iff readable live (show cut ∈ _ from member)
  simp only [grid, Except.ok.injEq, exists_eq_left']
  constructor
  · intro differ
    exact ⟨fun cut member => (sorted _ member).mp (differ.apart cut member).1,
      fun fold member => differ.full_test _ (List.mem_map_of_mem member)⟩
  · rintro ⟨separated, full⟩
    refine ⟨live_ordered readable live, fun cut member => ⟨(sorted _ member).mpr
        (separated cut member), fun _ none => (by cases none)⟩,
      fun expanding window member first isFirst =>
        live_start readable live expanding member (by simpa using isFirst),
      fun window member => ?_, fun number window at? => ?_⟩
    · obtain ⟨fold, inFolds, rfl⟩ := List.mem_map.mp member
      exact full fold inFolds
    · have member := List.mem_of_getElem? at?
      obtain ⟨own, fold⟩ := live number window at?
      obtain rfl := (gridForWindow_bars (readable.uniform _ member)
        (fold.found_bars (readable.filled _ member))).1 rfl
      exact fold.within

omit nonempty in
/-- Across a cut of one window a session opens, on the window's own grid. -/
theorem live_open_between {alignment : SessionAlignment} {windows : List WalkForwardWindow}
    (readable : ReadableWindows library (some alignment) windows)
    {window : WalkForwardWindow} (member : window ∈ windows) {grid : SessionGrid}
    {firstTrain : Option Bound} {expectedTrainSize : Nat}
    (fold : LiveFold library rules (some grid) firstTrain expectedTrainSize window)
    {cut : DataPartition × DataPartition} (inCuts : cut ∈ window.cuts) :
    lastBar cut.1 < firstBar cut.2 ∧ ∃ sessionOpen ∈ grid.opens,
      lastBar cut.1 < sessionOpen ∧ sessionOpen ≤ firstBar cut.2 := by
  obtain ⟨before, after⟩ := mem_parts_of_mem_cuts inCuts
  obtain ⟨foldId, boundary, less⟩ := fold.cuts cut inCuts
  rw [partitionBounds_filled (readable.filled _ member _ before),
    partitionBounds_filled (readable.filled _ member _ after)] at boundary less
  have ordered : lastBar cut.1 < firstBar cut.2 := by simpa [Bound.lt] using less
  refine ⟨ordered, (sessionOf_lt_iff grid ordered.le).mp ?_⟩
  simpa [requireSessionBoundary, Bound.time, bind_ok] using boundary

section Aligned
variable {alignment : SessionAlignment} {earliest latest : Int}
  (readable : ReadableWindows library (some alignment) (folds.map fun fold => fold.window))
  (live : LiveFolds library rules (folds.map fun fold => fold.window))
  (reaches : ∀ fold ∈ folds, ∀ part ∈ [fold.window.train, fold.window.test],
    earliest ≤ firstBar part ∧ lastBar part ≤ latest)

omit nonempty

include readable live reaches

/-- The document's grid holds the sessions of every window's own grid, and allows a session
at least as many rows. -/
theorem live_widened {number : Nat} {window : WalkForwardWindow}
    (at? : (folds.map fun fold => fold.window)[number]? = some window) :
    ∃ own wider, LiveFold library rules (some own)
        (if number = 0 then none
          else (folds.map fun fold => fold.window).head?.map fun first =>
            (partitionBounds first.train).1)
        (trainSizeAt rules rules.trainingWindowSize number) window ∧
      sessionGrid library alignment earliest latest = .ok wider ∧ own.opens ⊆ wider.opens ∧
      own.maxSessionRows ≤ wider.maxSessionRows := by
  have member := List.mem_of_getElem? at?
  obtain ⟨grid, fold⟩ := live number window at?
  obtain ⟨own, built, rfl⟩ := (gridForWindow_bars (readable.uniform _ member)
    (fold.found_bars (readable.filled _ member))).2 alignment rfl
  obtain ⟨source, inFolds, rfl⟩ := List.mem_map.mp member
  obtain ⟨wider, widerBuilt, opens, sizes⟩ := sessionGrid_widen
    (fun calendar => readable.dated _ calendar) built
    (reaches source inFolds source.window.train (by simp)).1
    (reaches source inFolds source.window.test (by simp)).2
  exact ⟨own, wider, fold, widerBuilt, opens, sizes⟩

variable {wider : SessionGrid} (built : sessionGrid library alignment earliest latest = .ok wider)

include built

theorem open_in_window {cut : DataPartition × DataPartition}
    (own : cut ∈ (folds.map fun fold => fold.window).flatMap WalkForwardWindow.cuts) :
    lastBar cut.1 < firstBar cut.2 ∧ ∃ sessionOpen ∈ wider.opens,
      lastBar cut.1 < sessionOpen ∧ sessionOpen ≤ firstBar cut.2 := by
  obtain ⟨window, inWindows, inCuts⟩ := List.mem_flatMap.mp own
  obtain ⟨number, inside, rfl⟩ := List.getElem_of_mem inWindows
  obtain ⟨grid, other, fold, otherBuilt, opens, _⟩ :=
    live_widened readable live reaches (List.getElem?_eq_getElem inside)
  rw [built] at otherBuilt
  cases Except.ok.inj otherBuilt
  obtain ⟨less, sessionOpen, inOpens, after, before⟩ :=
    live_open_between readable inWindows fold inCuts
  exact ⟨less, sessionOpen, opens inOpens, after, before⟩

theorem open_between_tests (separated : CutsSeparated library (some alignment)
      (folds.map fun fold => fold.window)) {cut : DataPartition × DataPartition}
    (prior : cut ∈ testCuts none (folds.map fun fold => fold.window)) :
    lastBar cut.1 < firstBar cut.2 ∧ ∃ sessionOpen ∈ wider.opens,
      lastBar cut.1 < sessionOpen ∧ sessionOpen ≤ firstBar cut.2 := by
  obtain ⟨calendar, session, isCalendar, known, after, before⟩ := separated cut prior
  obtain ⟨other, interval, otherFound, _, _, _, rfl⟩ := sessionGrid_eq_ok.mp built
  rw [isCalendar] at otherFound
  cases Option.some.inj otherFound
  obtain ⟨test, inTests, isTest⟩ := (mem_tests_of_mem_testCuts prior).1.resolve_left (by simp)
  obtain ⟨next, inNexts, isNext⟩ := (mem_tests_of_mem_testCuts prior).2
  obtain ⟨fold, inFolds, rfl⟩ := List.mem_map.mp inTests
  obtain ⟨later, inLater, rfl⟩ := List.mem_map.mp inNexts
  have low := (reaches fold inFolds cut.1 (by simp [isTest])).1
  have high := (reaches later inLater cut.2 (by simp [isNext])).2
  have inTest : cut.1 ∈ fold.window.parts := by simp [isTest, WalkForwardWindow.parts]
  have inNext : cut.2 ∈ later.window.parts := by simp [isNext, WalkForwardWindow.parts]
  have forward := (live_labels readable live inTests inTest).1
  have nextForward := (live_labels readable live inNexts inNext).1
  have listed : session ∈ calendar.schedule session.date session.date := by
    simp [MarketCalendar.schedule, known]
  exact ⟨by omega, session.marketOpen, List.mem_map_of_mem
    (mem_schedule_of_open listed (show earliest ≤ session.marketOpen by omega)
      (show session.marketOpen ≤ latest by omega)), after, before⟩

theorem rowsWithin_widened {number : Nat} {window : WalkForwardWindow}
    (at? : (folds.map fun fold => fold.window)[number]? = some window) :
    RowsWithin rules (some wider) (trainSizeAt rules rules.trainingWindowSize number) window := by
  obtain ⟨own, other, fold, otherBuilt, _, sizes⟩ := live_widened readable live reaches at?
  rw [built] at otherBuilt
  cases Except.ok.inj otherBuilt
  have within := fold.within
  exact {
    rolling := fun mode => (within.rolling mode).trans_le (Nat.add_le_add_left sizes _)
    expanding := fun _ none => by cases none
    selection := fun size part declared present =>
      (within.selection size part declared present).trans_le (Nat.add_le_add_left sizes _)
    test := within.test.trans_le (Nat.add_le_add_left sizes _) }

end Aligned

theorem differences_aligned {alignment : SessionAlignment}
    (readable : ReadableWindows library (some alignment) (folds.map fun fold => fold.window))
    (live : LiveFolds library rules (folds.map fun fold => fold.window)) :
    (∃ grid, documentGrid library folds = .ok grid ∧ FoldsDiffer library rules grid none none
      rules.trainingWindowSize (folds.map fun fold => fold.window)) ↔
      CutsSeparated library (some alignment) (folds.map fun fold => fold.window) ∧
        ∀ fold ∈ folds, rules.testWindowSize ≤ fold.window.test.rowCount := by
  obtain ⟨earliest, latest, gridOf, reaches⟩ := documentGrid_aligned nonempty readable live
  have sorted (cut : DataPartition × DataPartition) member :=
    cut_sorted_iff readable live (show cut ∈ _ from member)
  simp only [labelled, Option.isSome_some, if_true] at sorted
  constructor
  · rintro ⟨grid, found, differ⟩
    rw [gridOf, map_eq_ok] at found
    obtain ⟨sessions, built, rfl⟩ := found
    obtain ⟨calendar, interval, isCalendar, _, _, _, rfl⟩ := sessionGrid_eq_ok.mp built
    refine ⟨fun cut member => ?_, fun fold member => differ.full_test _
      (List.mem_map_of_mem member)⟩
    have inCuts := List.mem_append_right
      ((folds.map fun fold => fold.window).flatMap WalkForwardWindow.cuts) member
    obtain ⟨less, apart⟩ := differ.apart cut inCuts
    have ordered := (sorted _ inCuts).mp less
    rw [sessionsApart_iff readable live inCuts, sessionOf_lt_iff _ ordered.le] at apart
    obtain ⟨_, opens, after, before⟩ := apart
    obtain ⟨session, scheduled, rfl⟩ := List.mem_map.mp opens
    exact ⟨calendar, session, isCalendar, List.mem_of_mem_filter scheduled, after, before⟩
  · rintro ⟨separated, full⟩
    obtain ⟨wider, built⟩ : ∃ wider, sessionGrid library alignment earliest latest = .ok wider := by
      obtain ⟨fold, rest, rfl⟩ := List.exists_cons_of_ne_nil nonempty
      have first : ((fold :: rest).map fun fold => fold.window)[0]? = some fold.window := rfl
      obtain ⟨_, wider, _, built, _⟩ := live_widened readable live reaches first
      exact ⟨wider, built⟩
    refine ⟨some wider, by rw [gridOf, built]; rfl, live_ordered readable live, ?_,
      fun expanding window member first isFirst =>
        live_start readable live expanding member (by simpa using isFirst), ?_,
      fun number window at? => rowsWithin_widened readable live reaches built at?⟩
    · intro cut member
      have between := (List.mem_append.mp member).elim (open_in_window readable live reaches built)
        (open_between_tests readable live reaches built separated)
      have apart := (sessionOf_lt_iff wider between.1.le).mpr between.2
      exact ⟨(sorted _ member).mpr between.1, (sessionsApart_iff readable live member wider).mpr apart⟩
    · intro window member
      obtain ⟨fold, inFolds, rfl⟩ := List.mem_map.mp member
      exact full fold inFolds

theorem differences_iff {alignment : Option SessionAlignment}
    (readable : ReadableWindows library alignment (folds.map fun fold => fold.window))
    (live : LiveFolds library rules (folds.map fun fold => fold.window)) :
    (∃ grid, documentGrid library folds = .ok grid ∧ FoldsDiffer library rules grid none none
      rules.trainingWindowSize (folds.map fun fold => fold.window)) ↔
      CutsSeparated library alignment (folds.map fun fold => fold.window) ∧
        ∀ fold ∈ folds, rules.testWindowSize ≤ fold.window.test.rowCount := by
  cases alignment with
  | none => exact differences_daily nonempty readable live
  | some alignment => exact differences_aligned nonempty readable live

end DocumentGrid

/-! ## The builder's windows -/

section Builder
variable {library : TimeLibrary} {config : WalkForwardConfig} {label : Int → String}
  {alignment : Option SessionAlignment} {index : List Int} {sessions : SessionAssignment index}

/-- The bars on the two sides of a cut, at their rows. -/
structure CutAt (index dates : List Int) (cut : DataPartition × DataPartition) (stop start : Nat) :
    Prop where
  before : index[stop - 1]? = some (lastBar cut.1)
  after : index[start]? = some (firstBar cut.2)
  positive : 0 < stop
  forward : stop ≤ start
  isCut : IsCut dates start

theorem IsBuilt.bars {first last : Nat} {part : DataPartition}
    (built : IsBuilt label index first last part) :
    part.index ≠ [] ∧ index[first]? = some (firstBar part) ∧
      index[last - 1]? = some (lastBar part) := by
  have nonempty := built.nonempty
  have within := built.within
  have filled : part.index ≠ [] := by
    rw [built.index_eq]
    intro empty
    have size := rows_length first within
    rw [empty, List.length_nil] at size
    omega
  refine ⟨filled, ?_, ?_⟩
  · rw [firstBar, built.index_eq, rows_head? nonempty within]
    exact List.getElem?_eq_getElem _
  · rw [lastBar, built.index_eq, rows_getLast? nonempty within]
    exact List.getElem?_eq_getElem _

theorem IsBuiltWindow.cuts_at {cuts : FoldCuts} {window : WalkForwardWindow}
    (shape : FoldShape config sessions.dates cuts)
    (built : IsBuiltWindow config label alignment index cuts window)
    {cut : DataPartition × DataPartition} (member : cut ∈ window.cuts) :
    ∃ stop start, CutAt index sessions.dates cut stop start := by
  have trainNonempty := shape.train_nonempty
  have after := shape.selection_after
  unfold WalkForwardWindow.cuts at member
  cases present : window.selection with
  | none =>
      simp only [present, List.mem_singleton] at member
      obtain rfl := member
      exact ⟨cuts.cursor, cuts.selectionEnd, built.train.bars.2.2, built.test.bars.2.1, by omega,
        after, shape.selection_cut⟩
  | some part =>
      have selection := built.selection part present
      have nonempty := selection.nonempty
      simp only [present, List.mem_cons, List.not_mem_nil, or_false] at member
      rcases member with rfl | rfl
      · exact ⟨cuts.cursor, cuts.cursor, built.train.bars.2.2, selection.bars.2.1, by omega,
          le_refl _, shape.cursor_cut⟩
      · exact ⟨cuts.selectionEnd, cuts.selectionEnd, selection.bars.2.2, built.test.bars.2.1,
          by omega, le_refl _, shape.selection_cut⟩

theorem testCuts_at {number : Nat} {cutsList : List FoldCuts} {windows : List WalkForwardWindow}
    (made : WindowsOf config label alignment index number cutsList windows)
    (shapes : ∀ cuts ∈ cutsList, FoldShape config sessions.dates cuts)
    (disjoint : cutsList.Pairwise fun cuts other => cuts.testEnd ≤ other.selectionEnd)
    {previous : Option DataPartition}
    (clear : ∀ test, previous = some test → ∃ stop, index[stop - 1]? = some (lastBar test) ∧
      0 < stop ∧ ∀ cuts ∈ cutsList, stop ≤ cuts.selectionEnd) :
    ∀ cut ∈ testCuts previous windows, ∃ stop start, CutAt index sessions.dates cut stop start := by
  induction made generalizing previous with
  | nil number => simp [testCuts]
  | @cons number cuts window cutsList windows windowBuilt rest ih =>
      have shape := shapes cuts List.mem_cons_self
      have built := foldWindow_built shape windowBuilt
      have nonempty := shape.test_nonempty
      obtain ⟨apart, restDisjoint⟩ := List.pairwise_cons.mp disjoint
      intro cut member
      simp only [testCuts, List.mem_append, List.mem_map, Option.mem_toList] at member
      rcases member with ⟨test, isPrevious, rfl⟩ | later
      · obtain ⟨stop, before, positive, forward⟩ := clear test isPrevious
        exact ⟨stop, cuts.selectionEnd, before, built.test.bars.2.1, positive,
          forward cuts List.mem_cons_self, shape.selection_cut⟩
      · refine ih (fun other inRest => shapes other (List.mem_cons_of_mem _ inRest)) restDisjoint
          (fun test same => ?_) cut later
        cases Option.some.inj same
        exact ⟨cuts.testEnd, built.test.bars.2.2, by omega, apart⟩

theorem CutAt.days (assigned : AssignedBy library none index sessions)
    {cut : DataPartition × DataPartition} {stop start : Nat}
    (cutAt : CutAt index sessions.dates cut stop start) :
    library.localDay (lastBar cut.1) < library.localDay (firstBar cut.2) := by
  obtain ⟨stopInside, before⟩ := List.getElem?_eq_some_iff.mp cutAt.before
  obtain ⟨startInside, after⟩ := List.getElem?_eq_some_iff.mp cutAt.after
  have length := sessions.length_eq
  have positive := cutAt.positive
  have forward := cutAt.forward
  have apart := cutAt.isCut (stop - 1) start (by omega) (by omega) (by omega) (le_refl _)
  have days : sessions.dates = index.map library.localDay := assigned
  simp only [days, List.getElem_map, before, after] at apart
  exact apart

theorem CutAt.session_between {alignment : SessionAlignment} (increasing : index.Pairwise (· < ·))
    (assigned : AssignedBy library (some alignment) index sessions)
    {cut : DataPartition × DataPartition} {stop start : Nat}
    (cutAt : CutAt index sessions.dates cut stop start) :
    ∃ calendar session, library.calendar alignment.exchangeCalendar = some calendar ∧
      session ∈ calendar.sessions ∧ lastBar cut.1 < session.marketOpen ∧
        session.marketOpen ≤ firstBar cut.2 := by
  obtain ⟨stopInside, before⟩ := List.getElem?_eq_some_iff.mp cutAt.before
  obtain ⟨startInside, after⟩ := List.getElem?_eq_some_iff.mp cutAt.after
  have positive := cutAt.positive
  have forward := cutAt.forward
  obtain ⟨calendar, session, _, _, _, found, _, _, scheduled, later, notAfter⟩ :=
    local_open increasing assigned cutAt.isCut (by omega) startInside
  have ordered : index[stop - 1] ≤ getElem index (start - 1) (by omega) :=
    getElem_le_of_le (increasing.imp le_of_lt) stopInside (by omega) (by omega)
  rw [before] at ordered
  rw [after] at notAfter
  exact ⟨calendar, session, found, List.mem_of_mem_filter scheduled, by omega, notAfter⟩

theorem build_walk_forward_windows_separated
    (assigned : AssignedBy library alignment index sessions) {windows : List WalkForwardWindow}
    (built : buildWalkForwardWindows config label alignment index sessions = .ok windows) :
    (∀ window ∈ windows, window.sessionAlignment = alignment ∧
      ∀ part ∈ window.parts, part.index ≠ []) ∧ CutsSeparated library alignment windows := by
  simp only [buildWalkForwardWindows, raiseIf_bind_eq_ok, Bool.not_eq_eq_eq_not, Bool.not_false,
    decide_eq_true_eq] at built
  obtain ⟨_, ordered, unique, built⟩ := built
  have increasing : index.Pairwise (· < ·) :=
    (List.pairwise_and_iff.mpr ⟨ordered, unique⟩).imp fun both => lt_of_le_of_ne both.1 both.2
  obtain ⟨cutsList, passes, made⟩ := windowLoop_ok built
  have shapes := passes.shape sessions.monotone (le_refl _)
  have windowAt (window : WalkForwardWindow) (member : window ∈ windows) : ∃ cuts,
      FoldShape config sessions.dates cuts ∧
        IsBuiltWindow config label alignment index cuts window := by
    obtain ⟨cuts, inList, _, windowBuilt⟩ := made.exists_cuts window member
    exact ⟨cuts, shapes cuts inList, foldWindow_built (shapes cuts inList) windowBuilt⟩
  have between : ∀ cut ∈ testCuts none windows, ∃ stop start,
      CutAt index sessions.dates cut stop start :=
    testCuts_at made shapes (passes.tests_disjoint sessions.monotone) fun _ none => by cases none
  refine ⟨fun window member => ?_, ?_⟩
  · obtain ⟨cuts, _, windowBuilt⟩ := windowAt window member
    refine ⟨windowBuilt.alignment_eq, ?_⟩
    simp only [WalkForwardWindow.parts, List.mem_cons, List.mem_append, Option.mem_toList,
      List.not_mem_nil, or_false]
    rintro part (rfl | present | rfl)
    · exact windowBuilt.train.bars.1
    · exact (windowBuilt.selection part present).bars.1
    · exact windowBuilt.test.bars.1
  · have own (cut : DataPartition × DataPartition)
        (member : cut ∈ windows.flatMap WalkForwardWindow.cuts) :
        ∃ stop start, CutAt index sessions.dates cut stop start := by
      obtain ⟨window, inWindows, inCuts⟩ := List.mem_flatMap.mp member
      obtain ⟨cuts, shape, windowBuilt⟩ := windowAt window inWindows
      exact windowBuilt.cuts_at shape inCuts
    cases alignment with
    | none =>
        intro cut member
        obtain ⟨stop, start, cutAt⟩ := (List.mem_append.mp member).elim (own cut) (between cut)
        exact cutAt.days assigned
    | some alignment =>
        intro cut member
        obtain ⟨stop, start, cutAt⟩ := between cut member
        exact cutAt.session_between increasing assigned

end Builder

end QuantFactory.WalkForward
