import Mathlib
import QuantFactory.WalkForward.Evidence
import QuantFactory.WalkForward.Windows

/-!
# The live validator on the builder's windows

The builder and the live validator locate windows differently.  Every check of
the validator holds of the builder's folds by construction, except the upper
size tolerance and the rolling step; `CutsAccepted` states those two on the cuts
the builder makes.
-/

set_option autoImplicit false

namespace QuantFactory.WalkForward

open QuantFactory.Library QuantFactory.Python

/-! ## Fold results -/

structure ParameterLock where
  lockId : String
  text : isBlank lockId = false

inductive FoldOutcome (F : Type) where
  | failed (reason : String)
  | successful (lock : ParameterLock) (parameters : Entries F)
      (metrics : Entries F)

/-- `_fold_result`: what the runner records of one window. -/
def foldResult {F : Type} (window : WalkForwardWindow) :
    FoldOutcome F → WalkForwardFoldResult F
  | .failed reason => {
      foldId := window.foldId
      status := .failed
      window := window
      parameterLockId := none
      selectedParameters := none
      testMetrics := []
      failureReason := some reason }
  | .successful lock parameters metrics => {
      foldId := window.foldId
      status := .successful
      window := window
      parameterLockId := some lock.lockId
      selectedParameters := some parameters
      testMetrics := metrics
      failureReason := none }

@[simp] theorem foldResult_window {F : Type} (window : WalkForwardWindow)
    (outcome : FoldOutcome F) : (foldResult window outcome).window = window := by
  cases outcome <;> rfl

@[simp] theorem foldResult_foldId {F : Type} (window : WalkForwardWindow)
    (outcome : FoldOutcome F) : (foldResult window outcome).foldId = window.foldId := by
  cases outcome <;> rfl

@[simp] theorem foldResult_lock {F : Type} (window : WalkForwardWindow)
    (outcome : FoldOutcome F) : lockMissing (foldResult window outcome) = false := by
  cases outcome with
  | failed reason => rfl
  | successful lock parameters metrics => simp [foldResult, lockMissing, lock.text]

/-! ## What the cuts have to satisfy -/

/-- The rows by which a partition may exceed its declared size, and one. -/
def tolerance : Option SessionGrid → Nat
  | none => 1
  | some grid => grid.maxSessionRows

structure SizesWithin (config : WalkForwardConfig) (grid : Option SessionGrid)
    (expectedTrainSize : Nat) (cuts : FoldCuts) : Prop where
  rolling : config.trainingMode = .rolling →
    cuts.cursor - cuts.trainStart < config.trainingWindowSize + tolerance grid
  expanding : config.trainingMode = .expanding → grid = none → cuts.cursor = expectedTrainSize
  selection : ∀ size, config.selectionWindowSize = some size →
    cuts.selectionEnd - cuts.cursor < size + tolerance grid
  test : cuts.testEnd - cuts.selectionEnd < config.testWindowSize + tolerance grid

/-- A rolling train window whose step is shorter than the previous train window
starts where the validator looks for it. -/
def StepWithin (config : WalkForwardConfig) (grid : Option SessionGrid) (firstStart : Nat)
    (previous cuts : FoldCuts) : Prop :=
  config.trainingMode = .rolling → config.stepSize < previous.cursor - previous.trainStart →
    match grid with
    | none => cuts.trainStart = previous.trainStart + config.stepSize
    | some grid => firstStart < cuts.trainStart ∧
        if cuts.trainStart < previous.cursor then
          ((cuts.trainStart : Int) - previous.trainStart - config.stepSize).natAbs <
            4 * grid.maxSessionRows
        else config.stepSize + 1 < 4 * grid.maxSessionRows

structure FoldsBefore where
  firstStart : Nat
  previous : FoldCuts

def CutsAccepted (config : WalkForwardConfig) (gridOf : FoldCuts → Option SessionGrid) :
    Option FoldsBefore → Nat → List FoldCuts → Prop
  | _, _, [] => True
  | before, expectedTrainSize, cuts :: rest =>
      SizesWithin config (gridOf cuts) expectedTrainSize cuts ∧
        (∀ folds, before = some folds →
          StepWithin config (gridOf cuts) folds.firstStart folds.previous cuts) ∧
        CutsAccepted config gridOf
          (some ⟨(before.map FoldsBefore.firstStart).getD cuts.trainStart, cuts⟩)
          (expectedTrainSize + config.stepSize) rest

/-! ## Checks that hold by construction -/

theorem sizeWithin_iff {actual declared : Nat} {grid : Option SessionGrid} :
    sizeWithin actual declared grid false = true ↔
      declared ≤ actual ∧ actual < declared + tolerance grid := by
  cases grid with
  | none => simp [sizeWithin, tolerance]; omega
  | some grid => simp [sizeWithin, tolerance]

structure IsBuilt (label : Int → String) (index : List Int) (first last : Nat)
    (part : DataPartition) : Prop extends IsSlice index first last part where
  named : isBlank part.name = false
  starts : part.startLabel = label (getElem index first (nonempty.trans_le within))
  ends : part.endLabel = label (getElem index (last - 1) (by omega))

section Built
variable {library : TimeLibrary} {aligned : Bool} {index : List Int} {first last : Nat}
  {part : DataPartition}

theorem rows_head? (nonempty : first < last) (within : last ≤ index.length) :
    (rows index first last).head? = some (getElem index first (nonempty.trans_le within)) := by
  have size := rows_length first within
  rw [List.head?_eq_getElem?, List.getElem?_eq_getElem (by omega), rows_getElem within]
  rfl

theorem rows_getLast? (nonempty : first < last) (within : last ≤ index.length) :
    (rows index first last).getLast? = some (getElem index (last - 1)
      ((Nat.sub_lt (Nat.zero_lt_of_lt nonempty) Nat.one_pos).trans_le within)) := by
  have size := rows_length first within
  rw [List.getLast?_eq_getElem?, List.getElem?_eq_getElem (by omega), rows_getElem within]
  congr 2
  omega

theorem IsSlice.bounds (slice : IsSlice index first last part) :
    partitionBounds part = (.bar (getElem index first (slice.nonempty.trans_le slice.within)),
      .bar (getElem index (last - 1) (by have := slice.nonempty; have := slice.within; omega))) := by
  unfold partitionBounds
  rw [slice.index_eq, rows_head? slice.nonempty slice.within,
    rows_getLast? slice.nonempty slice.within]

theorem requirePartition_built (increasing : index.Pairwise (· < ·))
    (built : IsBuilt (boundaryLabel library aligned) index first last part) (name : String) :
    requirePartition library name part aligned = .ok () := by
  have nonempty := built.nonempty
  have within := built.within
  have size := rows_length first within
  have forward : ¬ index[last - 1] < index[first] := by
    have ordered := getElem_le_of_le (increasing.imp le_of_lt) (i := first) (j := last - 1)
      (by omega) (by omega) (by omega)
    omega
  have labels : requireLabels library name part aligned = .ok () := by
    unfold requireLabels
    rw [built.index_eq, rows_head? nonempty within, rows_getLast? nonempty within]
    simp [raiseIf, bind_ok, built.rowCount_eq, size, built.starts, built.ends]
  have positive : ¬ part.rowCount < 1 := by
    rw [built.rowCount_eq]
    omega
  have starts : isBlank part.startLabel = false := by
    rw [built.starts]
    exact boundaryLabel_text _ _ _
  have ends : isBlank part.endLabel = false := by
    rw [built.ends]
    exact boundaryLabel_text _ _ _
  simp [requirePartition, raiseIf, bind_ok, built.named, starts, ends, positive,
    built.toIsSlice.bounds, Bound.lt, forward, labels]

end Built

theorem isBuilt_of_partition {label : Int → String} {index : List Int} {first last : Nat}
    {name : String} {part : DataPartition} (nonempty : first < last)
    (within : last ≤ index.length) (named : isBlank name = false)
    (built : partition label name (rows index first last) = .ok part) :
    IsBuilt label index first last part := by
  have slice := isSlice_of_partition nonempty within built
  rw [partition_rows label name nonempty within] at built
  cases Except.ok.inj built
  exact ⟨slice, named, rfl, rfl⟩

theorem isBlank_append (before : String) {suffix : String} (colon : ':' ∈ suffix.toList) :
    isBlank (before ++ suffix) = false :=
  isBlank_eq_false (c := ':') (by simp [colon]) (by decide)

theorem isBlank_foldId (number : Nat) : isBlank (foldId number) = false :=
  isBlank_eq_false (c := 'f') (by simp [foldId]) (by decide)

structure IsBuiltWindow (config : WalkForwardConfig) (label : Int → String)
    (alignment : Option SessionAlignment) (index : List Int) (cuts : FoldCuts)
    (window : WalkForwardWindow) : Prop where
  foldId_text : isBlank window.foldId = false
  alignment_eq : window.sessionAlignment = alignment
  train : IsBuilt label index cuts.trainStart cuts.cursor window.train
  test : IsBuilt label index cuts.selectionEnd cuts.testEnd window.test
  selection : ∀ part, window.selection = some part →
    IsBuilt label index cuts.cursor cuts.selectionEnd part
  declared : config.selectionWindowSize.isSome = window.selection.isSome

theorem foldWindow_built {config : WalkForwardConfig} {label : Int → String}
    {alignment : Option SessionAlignment} {index : List Int} {sessions : SessionAssignment index}
    {number : Nat} {cuts : FoldCuts} {window : WalkForwardWindow}
    (shape : FoldShape config sessions.dates cuts)
    (built : foldWindow config label alignment index number cuts = .ok window) :
    IsBuiltWindow config label alignment index cuts window := by
  have length := sessions.length_eq
  have inside := shape.inside
  have after := shape.selection_after
  have testNonempty := shape.test_nonempty
  simp only [foldWindow, bind_eq_ok, raiseIf_eq_ok] at built
  obtain ⟨train, trainBuilt, selection, selectionBuilt, test, testBuilt, _, _, finished⟩ := built
  cases Except.ok.inj finished
  refine ⟨isBlank_foldId number, rfl,
    isBuilt_of_partition shape.train_nonempty (by omega) (isBlank_append _ (by decide))
      trainBuilt,
    isBuilt_of_partition testNonempty (by omega) (isBlank_append _ (by decide)) testBuilt,
    ?_, ?_⟩
  · rintro part rfl
    unfold selectionPartition at selectionBuilt
    split at selectionBuilt
    · cases selectionBuilt
    · rename_i declared
      obtain ⟨other, partBuilt, same⟩ := map_eq_ok.mp selectionBuilt
      cases Option.some.inj same
      have size := shape.selection_size.1
      exact isBuilt_of_partition (by omega) (by omega) (isBlank_append _ (by decide))
        partBuilt
  · unfold selectionPartition at selectionBuilt
    split at selectionBuilt
    · rename_i zero
      cases Except.ok.inj selectionBuilt
      rw [(selectionSize_eq_zero_iff config).mp zero]
      rfl
    · rename_i declared
      obtain ⟨part, _, rfl⟩ := map_eq_ok.mp selectionBuilt
      rw [Option.isSome_some, Option.isSome_iff_ne_none]
      exact mt (selectionSize_eq_zero_iff config).mpr declared

/-! ## The grid of one window -/

def foldGrid (library : TimeLibrary) (alignment : Option SessionAlignment) (index : List Int)
    (cuts : FoldCuts) : Option SessionGrid :=
  match alignment, index[cuts.trainStart]?, index[cuts.testEnd - 1]? with
  | some alignment, some first, some last => (sessionGrid library alignment first last).toOption
  | _, _, _ => none

theorem sessionGrid_eq_ok {library : TimeLibrary} {alignment : SessionAlignment}
    {first last : Int} {grid : SessionGrid} :
    sessionGrid library alignment first last = .ok grid ↔ ∃ calendar interval,
      library.calendar alignment.exchangeCalendar = some calendar ∧
      library.timedelta alignment.interval = some interval ∧ interval ≠ 0 ∧
      calendar.schedule (utcDay first - 7) (utcDay last + 7) ≠ [] ∧
      grid = {
        opens := (calendar.schedule (utcDay first - 7) (utcDay last + 7)).map (·.marketOpen)
        maxSessionRows := (max 1 (ceilDiv (longestSpan
          (calendar.schedule (utcDay first - 7) (utcDay last + 7))) interval)).toNat } := by
  simp only [sessionGrid, bind_eq_ok, orRaise_eq_ok, raiseIf_eq_ok, List.isEmpty_eq_false_iff,
    decide_eq_false_iff_not, Except.ok.injEq]
  constructor
  · rintro ⟨calendar, found, _, scheduled, interval, parsed, _, nonzero, rfl⟩
    exact ⟨calendar, interval, found, parsed, nonzero, scheduled, rfl⟩
  · rintro ⟨calendar, interval, found, parsed, nonzero, scheduled, rfl⟩
    exact ⟨calendar, found, (), scheduled, interval, parsed, (), nonzero, rfl⟩

theorem utcDay_mono {a b : Int} (le : a ≤ b) : utcDay a ≤ utcDay b :=
  Int.ediv_le_ediv (by decide) le

theorem mem_schedule_of_open {calendar : MarketCalendar} {session : CalendarSession}
    {first last startDate endDate : Int}
    (scheduled : session ∈ calendar.schedule startDate endDate)
    (after : first ≤ session.marketOpen) (before : session.marketOpen ≤ last) :
    session ∈ calendar.schedule (utcDay first - 7) (utcDay last + 7) := by
  have known : session ∈ calendar.sessions := List.mem_of_mem_filter scheduled
  have near := calendar.near session known
  have low := utcDay_mono after
  have high := utcDay_mono before
  simp only [MarketCalendar.schedule, List.mem_filter, decide_eq_true_eq]
  exact ⟨known, by omega, by omega⟩

section Aligned
variable {library : TimeLibrary} {alignment : SessionAlignment} {index : List Int}
  {sessions : SessionAssignment index}

/-- A cut of the builder is a boundary of every grid over a window around it. -/
theorem local_open (increasing : index.Pairwise (· < ·))
    (assigned : AssignedBy library (some alignment) index sessions) {cut : Nat}
    (isCut : IsCut sessions.dates cut) (positive : 0 < cut) (inside : cut < index.length) :
    ∃ calendar session startDate endDate interval,
      library.calendar alignment.exchangeCalendar = some calendar ∧
      library.timedelta alignment.interval = some interval ∧ interval ≠ 0 ∧
      session ∈ calendar.schedule startDate endDate ∧
      index[cut - 1] < session.marketOpen ∧ session.marketOpen ≤ index[cut] := by
  obtain ⟨first, last, grid, _, _, gridBuilt, dates⟩ := assigned
  obtain ⟨calendar, interval, found, parsed, nonzero, _, rfl⟩ := sessionGrid_eq_ok.mp gridBuilt
  have length := sessions.length_eq
  have apart := isCut (cut - 1) cut (by omega) (by omega) (by omega) (le_refl _)
  simp only [dates, List.getElem_map] at apart
  have ordered : index[cut - 1] ≤ index[cut] :=
    getElem_le_of_le (increasing.imp le_of_lt) (by omega) (by omega) inside
  obtain ⟨sessionOpen, member, later, notAfter⟩ := (sessionOf_lt_iff _ ordered).mp apart
  obtain ⟨session, scheduled, rfl⟩ := List.mem_map.mp member
  exact ⟨calendar, session, _, _, interval, found, parsed, nonzero, scheduled, later, notAfter⟩

/-- The window's own grid exists and separates the bars around each of its cuts. -/
theorem local_grid (increasing : index.Pairwise (· < ·))
    (assigned : AssignedBy library (some alignment) index sessions) {start cut stop : Nat}
    (isCut : IsCut sessions.dates cut) (afterStart : start < cut) (beforeStop : cut < stop)
    (within : stop ≤ index.length) :
    ∃ grid, sessionGrid library alignment (getElem index start (by omega))
        (getElem index (stop - 1) (by omega)) =
        .ok grid ∧
      grid.sessionOf (getElem index (cut - 1) (by omega)) <
        grid.sessionOf (getElem index cut (by omega)) := by
  obtain ⟨calendar, session, _, _, interval, found, parsed, nonzero, scheduled, later, notAfter⟩ :=
    local_open increasing assigned isCut (by omega) (by omega)
  have sorted := increasing.imp le_of_lt
  have low : getElem index start (by omega) ≤ getElem index (cut - 1) (by omega) :=
    getElem_le_of_le sorted (by omega) (by omega) (by omega)
  have high : getElem index cut (by omega) ≤ getElem index (stop - 1) (by omega) :=
    getElem_le_of_le sorted (by omega) (by omega) (by omega)
  have member := mem_schedule_of_open scheduled
    (show getElem index start (by omega) ≤ _ by omega)
    (show _ ≤ getElem index (stop - 1) (by omega) by omega)
  refine ⟨_, sessionGrid_eq_ok.mpr ⟨calendar, interval, found, parsed, nonzero,
    List.ne_nil_of_mem member, rfl⟩, ?_⟩
  rw [sessionOf_lt_iff _ (by omega)]
  exact ⟨session.marketOpen, List.mem_map_of_mem member, later, notAfter⟩

end Aligned

section Fold
variable {library : TimeLibrary} {config : WalkForwardConfig}
  {alignment : Option SessionAlignment} {index : List Int} {sessions : SessionAssignment index}
  {cuts : FoldCuts}

theorem foldGrid_eq_some {alignment : SessionAlignment} (increasing : index.Pairwise (· < ·))
    (assigned : AssignedBy library (some alignment) index sessions)
    (shape : FoldShape config sessions.dates cuts) {first last : Int}
    (isFirst : index[cuts.trainStart]? = some first)
    (isLast : index[cuts.testEnd - 1]? = some last) :
    ∃ grid, sessionGrid library alignment first last = .ok grid ∧
      foldGrid library (some alignment) index cuts = some grid := by
  have length := sessions.length_eq
  have within := shape.inside
  have after := shape.selection_after
  have testNonempty := shape.test_nonempty
  obtain ⟨firstInside, rfl⟩ := List.getElem?_eq_some_iff.mp isFirst
  obtain ⟨lastInside, rfl⟩ := List.getElem?_eq_some_iff.mp isLast
  obtain ⟨grid, built, _⟩ := local_grid increasing assigned shape.cursor_cut
    shape.train_nonempty (show cuts.cursor < cuts.testEnd by omega) (by omega)
  exact ⟨grid, built, by simp only [foldGrid, isFirst, isLast, built, Except.toOption]⟩

theorem foldGrid_eq_none_iff (increasing : index.Pairwise (· < ·))
    (assigned : AssignedBy library alignment index sessions)
    (shape : FoldShape config sessions.dates cuts) :
    foldGrid library alignment index cuts = none ↔ alignment = none := by
  have length := sessions.length_eq
  have within := shape.inside
  have trainNonempty := shape.train_nonempty
  have after := shape.selection_after
  have testNonempty := shape.test_nonempty
  cases alignment with
  | none => simp [foldGrid]
  | some alignment =>
      obtain ⟨grid, _, found⟩ := foldGrid_eq_some increasing assigned shape
        (List.getElem?_eq_getElem (by omega)) (List.getElem?_eq_getElem (by omega))
      simp [found]

theorem foldGrid_spec (increasing : index.Pairwise (· < ·))
    (assigned : AssignedBy library alignment index sessions)
    (shape : FoldShape config sessions.dates cuts) {window : WalkForwardWindow}
    (aligned : window.sessionAlignment = alignment) {first last : Int}
    (isFirst : index[cuts.trainStart]? = some first)
    (isLast : index[cuts.testEnd - 1]? = some last) :
    gridForWindow library window (.bar first) (.bar last) =
        .ok (foldGrid library alignment index cuts) ∧
      (foldGrid library alignment index cuts).isSome = alignment.isSome ∧
      ∀ cut, IsCut sessions.dates cut → cuts.trainStart < cut → cut < cuts.testEnd →
        ∀ (foldId : String) {before after : Int},
        index[cut - 1]? = some before → index[cut]? = some after →
        requireSessionBoundary library foldId (.bar before) (.bar after)
          (foldGrid library alignment index cuts) = .ok () := by
  have length := sessions.length_eq
  have within := shape.inside
  have trainNonempty := shape.train_nonempty
  have after := shape.selection_after
  have testNonempty := shape.test_nonempty
  obtain ⟨firstInside, rfl⟩ := List.getElem?_eq_some_iff.mp isFirst
  obtain ⟨lastInside, rfl⟩ := List.getElem?_eq_some_iff.mp isLast
  cases alignment with
  | none =>
      refine ⟨by simp [gridForWindow, aligned, foldGrid], rfl, ?_⟩
      intros
      rfl
  | some alignment =>
      obtain ⟨grid, built, found⟩ := foldGrid_eq_some increasing assigned shape isFirst isLast
      rw [found]
      refine ⟨?_, rfl, ?_⟩
      · simp only [gridForWindow, aligned, Bound.time, bind_ok, built]
        rfl
      · intro cut isCut afterStart beforeEnd foldId bar laterBar isBefore isAfter
        obtain ⟨_, rfl⟩ := List.getElem?_eq_some_iff.mp isBefore
        obtain ⟨_, rfl⟩ := List.getElem?_eq_some_iff.mp isAfter
        obtain ⟨other, otherBuilt, separated⟩ := local_grid increasing assigned isCut
          afterStart beforeEnd (by omega)
        rw [built] at otherBuilt
        cases Except.ok.inj otherBuilt
        simp [requireSessionBoundary, Bound.time, bind_ok, raiseIf, separated]

theorem bars_lt (increasing : index.Pairwise (· < ·)) {i j : Nat} (lt : i < j)
    (within : j < index.length) : getElem index i (lt.trans within) < index[j] :=
  List.pairwise_iff_getElem.mp increasing i j (lt.trans within) within lt

theorem checkSelection_iff (increasing : index.Pairwise (· < ·))
    (assigned : AssignedBy library alignment index sessions)
    (shape : FoldShape config sessions.dates cuts) {window : WalkForwardWindow}
    (built : IsBuiltWindow config (boundaryLabel library alignment.isSome) alignment index cuts
      window) (foldId : String) :
    checkSelection library config.rules foldId window (foldGrid library alignment index cuts) =
        .ok () ↔
      ∀ size, config.selectionWindowSize = some size →
        cuts.selectionEnd - cuts.cursor < size +
          tolerance (foldGrid library alignment index cuts) := by
  have length := sessions.length_eq
  have within := shape.inside
  have trainNonempty := shape.train_nonempty
  have after := shape.selection_after
  have testNonempty := shape.test_nonempty
  have trainBounds := built.train.toIsSlice.bounds
  have testBounds := built.test.toIsSlice.bounds
  obtain ⟨_, some?, boundary⟩ := foldGrid_spec increasing assigned shape built.alignment_eq
    (List.getElem?_eq_getElem (by omega)) (List.getElem?_eq_getElem (by omega))
  simp only [checkSelection, trainBounds, testBounds, WalkForwardConfig.rules]
  cases declared : config.selectionWindowSize with
  | none =>
      have absent : window.selection = none := by
        have same := built.declared
        rw [declared] at same
        simpa using same.symm
      have adjacent := shape.selection_exact declared
      have apart : getElem index (cuts.cursor - 1) (by omega) <
          getElem index cuts.selectionEnd (by omega) :=
        bars_lt increasing (by omega) (by omega)
      have atBoundary := boundary cuts.selectionEnd shape.selection_cut (by omega) testNonempty
        foldId (List.getElem?_eq_getElem (by omega)) (List.getElem?_eq_getElem (by omega))
      simp only [adjacent] at apart atBoundary
      simp [absent, raiseIf, bind_ok, Bound.lt, adjacent, apart, atBoundary]
  | some size =>
      obtain ⟨part, present⟩ : ∃ part, window.selection = some part := by
        have same := built.declared
        rw [declared] at same
        exact Option.isSome_iff_exists.mp same.symm
      have partBuilt := built.selection part present
      have selectionNonempty := partBuilt.nonempty
      have accepted := requirePartition_built increasing partBuilt
        (toString foldId ++ toString ":selection")
      have afterTrain : getElem index (cuts.cursor - 1) (by omega) <
          getElem index cuts.cursor (by omega) :=
        bars_lt increasing (by omega) (by omega)
      have beforeTest : getElem index (cuts.selectionEnd - 1) (by omega) <
          getElem index cuts.selectionEnd (by omega) := bars_lt increasing (by omega) (by omega)
      have firstBoundary := boundary cuts.cursor shape.cursor_cut (by omega) (by omega)
        foldId (List.getElem?_eq_getElem (by omega)) (List.getElem?_eq_getElem (by omega))
      have secondBoundary := boundary cuts.selectionEnd shape.selection_cut (by omega)
        testNonempty foldId (List.getElem?_eq_getElem (by omega))
        (List.getElem?_eq_getElem (by omega))
      have lower : size ≤ cuts.selectionEnd - cuts.cursor := by
        have bound := shape.selection_size.1
        simpa [WalkForwardConfig.selectionSize, declared] using bound
      have bounds := partBuilt.toIsSlice.bounds
      rw [← some?] at accepted
      simp [present, orRaise, bind_ok, accepted, bounds, Bound.lt, afterTrain, beforeTest,
        firstBoundary, secondBoundary, raiseIf_bind_eq_ok, sizeWithin_iff, partBuilt.rowCount_eq,
        lower]

structure IsState (config : WalkForwardConfig) (index : List Int) (before : Option FoldsBefore)
    (expectedTrainSize : Nat) (state : WindowState) : Prop where
  testEnd : state.previousTestEnd =
    before.bind fun folds => index[folds.previous.testEnd - 1]?.map .bar
  trainStart : state.previousTrainStart =
    before.bind fun folds => index[folds.firstStart]?.map .bar
  trainIndex : state.previousTrainIndex =
    before.map fun folds => rows index folds.previous.trainStart folds.previous.cursor
  expected : config.trainingMode = .expanding → state.expectedTrainSize = expectedTrainSize

structure Precedes (config : WalkForwardConfig) (dates : List Int) (folds : FoldsBefore)
    (cuts : FoldCuts) : Prop where
  previous_shape : FoldShape config dates folds.previous
  tests : folds.previous.testEnd ≤ cuts.selectionEnd
  starts : folds.previous.trainStart ≤ cuts.trainStart
  first : folds.firstStart ≤ folds.previous.trainStart

theorem indexerPosition_rows (increasing : index.Pairwise (· < ·)) {first last i : Nat}
    (within : last ≤ index.length) (low : first ≤ i) (inside : i < index.length) :
    indexerPosition (rows index first last) (.bar index[i]) =
      if i < last then (i : Int) - first else -1 := by
  have size := rows_length first within
  have nodup : index.Nodup := increasing.imp ne_of_lt
  have present : index[i] ∈ rows index first last ↔ i < last := by
    rw [mem_rows within]
    constructor
    · rintro ⟨j, jInside, _, jBelow, same⟩
      rw [nodup.getElem_inj_iff] at same
      omega
    · intro below
      exact ⟨i, inside, low, below, rfl⟩
  by_cases below : i < last
  · have here : getElem (rows index first last) (i - first) (by omega) = index[i] := by
      rw [rows_getElem within]
      congr 1
      omega
    have slice : (rows index first last).Nodup :=
      nodup.sublist ((List.drop_sublist _ _).trans (List.take_sublist _ _))
    have position : (rows index first last).idxOf index[i] = i - first := by
      rw [← here]
      exact slice.idxOf_getElem _ _
    simp only [indexerPosition, present, below, if_true, position]
    omega
  · simp [indexerPosition, present, below]

theorem checkStep_iff (increasing : index.Pairwise (· < ·)) {before : Option FoldsBefore}
    {expectedTrainSize : Nat} {state : WindowState}
    (isState : IsState config index before expectedTrainSize state)
    (precedes : ∀ folds, before = some folds → Precedes config sessions.dates folds cuts)
    (rolling : config.trainingMode = .rolling) (foldId : String) {trainStart : Int}
    (isStart : index[cuts.trainStart]? = some trainStart) (grid : Option SessionGrid) :
    checkStep config.rules foldId state (.bar trainStart) grid = .ok () ↔
      ∀ folds, before = some folds → StepWithin config grid folds.firstStart folds.previous
        cuts := by
  have length := sessions.length_eq
  obtain ⟨startInside, rfl⟩ := List.getElem?_eq_some_iff.mp isStart
  unfold checkStep
  rw [isState.trainIndex]
  cases before with
  | none => simp
  | some folds =>
      obtain ⟨previous, tests, starts, first⟩ := precedes folds rfl
      have previousInside := previous.inside
      have previousTrain := previous.train_nonempty
      have previousAfter := previous.selection_after
      have previousTest := previous.test_nonempty
      have cursorInside : folds.previous.cursor ≤ index.length := by omega
      have size := rows_length folds.previous.trainStart cursorInside
      have nodup : index.Nodup := increasing.imp ne_of_lt
      simp only [Option.map_some, size, WalkForwardConfig.rules, Option.some.injEq, forall_eq',
        StepWithin, rolling, true_implies]
      by_cases short : config.stepSize < folds.previous.cursor - folds.previous.trainStart
      · simp only [short, if_true, true_implies]
        cases grid with
        | none =>
            have expectedStart : (rows index folds.previous.trainStart
                folds.previous.cursor)[config.stepSize]? =
                some (getElem index (folds.previous.trainStart + config.stepSize) (by omega)) := by
              rw [List.getElem?_eq_getElem (by omega), rows_getElem cursorInside]
            simp only [trainAdvanced, expectedStart, Option.any_some, bind_ok, raiseIf_eq_ok,
              Bool.not_eq_eq_eq_not, Bool.not_false, decide_eq_true_eq, Bound.bar.injEq]
            exact nodup.getElem_inj_iff
        | some grid =>
            have firstInside : folds.firstStart < index.length := by omega
            have later : (index[folds.firstStart] < index[cuts.trainStart]) ↔
                folds.firstStart < cuts.trainStart := by
              constructor
              · intro lt
                by_contra notBefore
                have same : folds.firstStart = cuts.trainStart := by omega
                simp only [same, lt_irrefl] at lt
              · intro lt
                exact bars_lt increasing lt startInside
            have state : state.previousTrainStart = some (.bar index[folds.firstStart]) := by
              rw [isState.trainStart]
              simp [firstInside]
            simp only [trainAdvanced, state, previousStartBefore, Bound.lt, bind_ok,
              raiseIf_eq_ok, indexerPosition_rows increasing cursorInside starts startInside,
              Bool.not_eq_eq_eq_not, Bool.not_false, Bool.and_eq_true, decide_eq_true_eq, later]
            refine and_congr_right fun _ => ?_
            split
            · rfl
            · omega
      · simp [short]

theorem checkTrain_iff (increasing : index.Pairwise (· < ·))
    (shape : FoldShape config sessions.dates cuts) {before : Option FoldsBefore}
    {expectedTrainSize : Nat} {state : WindowState}
    (isState : IsState config index before expectedTrainSize state)
    (precedes : ∀ folds, before = some folds → Precedes config sessions.dates folds cuts)
    (reached : config.trainingMode = .expanding → cuts.trainStart = 0 ∧
      expectedTrainSize ≤ cuts.cursor ∧ ∀ folds, before = some folds → folds.firstStart = 0)
    (foldId : String) {trainStart : Int} (isStart : index[cuts.trainStart]? = some trainStart)
    (grid : Option SessionGrid) :
    checkTrain config.rules foldId state (.bar trainStart) (cuts.cursor - cuts.trainStart) grid =
        .ok () ↔
      (config.trainingMode = .rolling →
        cuts.cursor - cuts.trainStart < config.trainingWindowSize + tolerance grid) ∧
      (config.trainingMode = .expanding → grid = none → cuts.cursor = expectedTrainSize) ∧
      ∀ folds, before = some folds → StepWithin config grid folds.firstStart folds.previous
        cuts := by
  cases mode : config.trainingMode with
  | rolling =>
      have lower := shape.train_size.1
      simp only [checkTrain, WalkForwardConfig.rules, mode, raiseIf_bind_eq_ok,
        Bool.not_eq_eq_eq_not, Bool.not_false, sizeWithin_iff, lower, true_and, true_implies,
        reduceCtorEq, false_implies]
      exact and_congr_right fun _ =>
        checkStep_iff increasing isState precedes mode foldId isStart grid
  | expanding =>
      obtain ⟨zero, enough, firsts⟩ := reached mode
      have unchanged : (state.previousTrainStart.any (· ≠ .bar trainStart)) = false := by
        rw [isState.trainStart]
        cases before with
        | none => rfl
        | some folds =>
            rw [zero] at isStart
            simp [firsts folds rfl, isStart]
      simp only [checkTrain, WalkForwardConfig.rules, mode, raiseIf_bind_eq_ok, unchanged,
        raiseIf_eq_ok, and_true, Bool.not_eq_eq_eq_not, Bool.not_false, isState.expected mode,
        zero, Nat.sub_zero, StepWithin, reduceCtorEq, false_implies, true_implies, true_and,
        implies_true]
      cases grid with
      | none => simp [sizeWithin]
      | some grid => simp [sizeWithin, enough]

theorem overlapsPrior_eq (increasing : index.Pairwise (· < ·)) {before : Option FoldsBefore}
    {expectedTrainSize : Nat} {state : WindowState}
    (isState : IsState config index before expectedTrainSize state)
    (precedes : ∀ folds, before = some folds → Precedes config sessions.dates folds cuts)
    {testStart : Int} (isStart : index[cuts.selectionEnd]? = some testStart) :
    overlapsPrior state.previousTestEnd (.bar testStart) = .ok false := by
  obtain ⟨inside, rfl⟩ := List.getElem?_eq_some_iff.mp isStart
  rw [isState.testEnd]
  cases before with
  | none => rfl
  | some folds =>
      obtain ⟨previous, tests, _, _⟩ := precedes folds rfl
      have previousTest := previous.test_nonempty
      have lastInside : folds.previous.testEnd - 1 < index.length := by omega
      have apart : index[folds.previous.testEnd - 1] < index[cuts.selectionEnd] :=
        bars_lt increasing (by omega) inside
      simp [lastInside, overlapsPrior, Bound.lt, apart, Except.map]

def expectedAfter (mode : TrainingMode) (expected step : Nat) : Nat :=
  match mode with
  | .rolling => expected
  | .expanding => expected + step

theorem validateFold_iff {F : Type} (increasing : index.Pairwise (· < ·))
    (assigned : AssignedBy library alignment index sessions)
    (shape : FoldShape config sessions.dates cuts) {window : WalkForwardWindow}
    (built : IsBuiltWindow config (boundaryLabel library alignment.isSome) alignment index cuts
      window) (outcome : FoldOutcome F) {before : Option FoldsBefore} {expectedTrainSize : Nat}
    {state : WindowState} (isState : IsState config index before expectedTrainSize state)
    (precedes : ∀ folds, before = some folds → Precedes config sessions.dates folds cuts)
    (reached : config.trainingMode = .expanding → cuts.trainStart = 0 ∧
      expectedTrainSize ≤ cuts.cursor ∧ ∀ folds, before = some folds → folds.firstStart = 0)
    {isLast : Bool} (final : cuts.testEnd = sessions.dates.length → isLast = true) :
    ∃ next, IsState config index
        (some ⟨(before.map FoldsBefore.firstStart).getD cuts.trainStart, cuts⟩)
        (expectedTrainSize + config.stepSize) next ∧
      ∀ result, validateFold library config.rules isLast state (foldResult window outcome) =
          .ok result ↔
        result = next ∧
          SizesWithin config (foldGrid library alignment index cuts) expectedTrainSize cuts ∧
          ∀ folds, before = some folds →
            StepWithin config (foldGrid library alignment index cuts) folds.firstStart
              folds.previous cuts := by
  have length := sessions.length_eq
  have within := shape.inside
  have trainNonempty := shape.train_nonempty
  have after := shape.selection_after
  have testNonempty := shape.test_nonempty
  have trainInside : cuts.trainStart < index.length := by omega
  have testInside : cuts.selectionEnd < index.length := by omega
  have endInside : cuts.testEnd - 1 < index.length := by omega
  have isStart : index[cuts.trainStart]? = some index[cuts.trainStart] :=
    List.getElem?_eq_getElem trainInside
  obtain ⟨gridFound, some?, _⟩ := foldGrid_spec increasing assigned shape built.alignment_eq
    isStart (List.getElem?_eq_getElem endInside)
  have trainAccepted := requirePartition_built increasing built.train
    (toString window.foldId ++ toString ":train")
  have testAccepted := requirePartition_built increasing built.test
    (toString window.foldId ++ toString ":test")
  rw [← some?] at trainAccepted testAccepted
  have selection := checkSelection_iff increasing assigned shape built window.foldId
  have train := checkTrain_iff increasing shape isState precedes reached window.foldId isStart
    (foldGrid library alignment index cuts)
  have apart := overlapsPrior_eq increasing isState precedes
    (List.getElem?_eq_getElem testInside)
  have testSize : (!sizeWithin (cuts.testEnd - cuts.selectionEnd) config.rules.testWindowSize
      (foldGrid library alignment index cuts) false &&
      !isShortFinal config.rules isLast (cuts.testEnd - cuts.selectionEnd)) = false ↔
      cuts.testEnd - cuts.selectionEnd < config.testWindowSize +
        tolerance (foldGrid library alignment index cuts) := by
    simp only [Bool.and_eq_false_iff, Bool.not_eq_eq_eq_not, Bool.not_false, sizeWithin_iff]
    change (config.testWindowSize ≤ _ ∧ _ < config.testWindowSize + _) ∨ _ ↔ _
    rcases shape.test_size with ⟨low, _⟩ | ⟨⟨policy, minimum, short⟩, atEnd⟩
    · have notShort : isShortFinal config.rules isLast (cuts.testEnd - cuts.selectionEnd) =
          false := by
        simp [isShortFinal, WalkForwardConfig.rules, Nat.not_lt.mpr low]
      simp [low, notShort]
    · have isShort : isShortFinal config.rules isLast (cuts.testEnd - cuts.selectionEnd) =
          true := by
        simp [isShortFinal, WalkForwardConfig.rules, policy, minimum, short, final atEnd]
      simp only [isShort, or_true, true_iff]
      omega
  refine ⟨{
    previousTestEnd := some (.bar index[cuts.testEnd - 1])
    previousTrainStart := state.previousTrainStart <|> some (.bar index[cuts.trainStart])
    previousTrainIndex := some (rows index cuts.trainStart cuts.cursor)
    expectedTrainSize :=
      expectedAfter config.trainingMode state.expectedTrainSize config.stepSize }, ?_, ?_⟩
  · refine ⟨by simp [endInside], ?_, rfl, ?_⟩
    · rw [isState.trainStart]
      cases before with
      | none => simp [trainInside]
      | some folds =>
          obtain ⟨previous, _, _, first⟩ := precedes folds rfl
          have previousInside := previous.inside
          have previousTrain := previous.train_nonempty
          have previousAfter := previous.selection_after
          have previousTest := previous.test_nonempty
          have firstInside : folds.firstStart < index.length := by omega
          simp [firstInside]
    · intro expanding
      simp [expectedAfter, expanding, isState.expected expanding]
  · intro result
    have filled : (rows index cuts.trainStart cuts.cursor).isEmpty = false := by
      have size := rows_length cuts.trainStart (show cuts.cursor ≤ index.length by omega)
      rw [List.isEmpty_eq_false_iff]
      intro empty
      rw [empty, List.length_nil] at size
      omega
    simp only [validateFold, foldResult_window, foldResult_foldId, foldResult_lock,
      built.train.toIsSlice.bounds, built.test.toIsSlice.bounds, gridFound, bind_ok,
      trainAccepted, testAccepted, built.foldId_text, apart, built.train.rowCount_eq,
      built.test.rowCount_eq, built.train.index_eq, filled, bind_eq_ok, raiseIf_eq_ok, testSize,
      ne_eq, not_true_eq_false, decide_false, true_and, exists_const, Bool.false_eq_true, if_false]
    constructor
    · rintro ⟨_, trainOk, _, selectionOk, test, finished⟩
      cases Except.ok.inj finished
      obtain ⟨rolling, expanding, step⟩ := train.mp trainOk
      exact ⟨rfl, ⟨rolling, expanding, selection.mp selectionOk, test⟩, step⟩
    · rintro ⟨rfl, sizes, step⟩
      exact ⟨(), train.mpr ⟨sizes.rolling, sizes.expanding, step⟩, (),
        selection.mpr sizes.selection, sizes.test, rfl⟩

end Fold

/-! ## All folds -/

/-- How the folds before lie relative to the cursor of the next pass. -/
structure Follows (config : WalkForwardConfig) (dates : List Int) (rawCursor : Nat)
    (folds : FoldsBefore) : Prop where
  previous_shape : FoldShape config dates folds.previous
  clear : folds.previous.testEnd ≤ rawCursor + config.selectionSize
  moved : folds.previous.cursor ≤ rawCursor
  start_eq : folds.previous.trainStart = trainStartAt config dates folds.previous.cursor
  first : folds.firstStart ≤ folds.previous.trainStart

theorem trainStartAt_mono {config : WalkForwardConfig} {dates : List Int}
    (sorted : dates.Pairwise (· ≤ ·)) {cursor later : Nat} (le : cursor ≤ later)
    (inside : later < dates.length) :
    trainStartAt config dates cursor ≤ trainStartAt config dates later := by
  unfold trainStartAt
  cases config.trainingMode with
  | expanding => exact le_refl 0
  | rolling => exact sessionFloor_mono sorted _ (by omega) (by omega)

theorem trainStartAt_expanding {config : WalkForwardConfig} (dates : List Int) (cursor : Nat)
    (expanding : config.trainingMode = .expanding) : trainStartAt config dates cursor = 0 := by
  simp [trainStartAt, expanding]

theorem Follows.precedes {config : WalkForwardConfig} {dates : List Int}
    (sorted : dates.Pairwise (· ≤ ·)) {rawCursor : Nat} {folds : FoldsBefore} {cuts : FoldCuts}
    (follows : Follows config dates rawCursor folds)
    (found : foldCuts config dates rawCursor = some cuts) :
    Precedes config dates folds cuts := by
  obtain ⟨cursor, room, selectionEnd, trainStart, _⟩ := foldCuts_eq_some found
  have forward := le_dayStart sorted rawCursor
  have selected := le_dayStart sorted (cuts.cursor + config.selectionSize)
  have clear := follows.clear
  have moved := follows.moved
  refine ⟨follows.previous_shape, by omega, ?_, follows.first⟩
  rw [follows.start_eq, trainStart]
  exact trainStartAt_mono sorted (by omega) (by omega)

section Folds
variable {library : TimeLibrary} {config : WalkForwardConfig}
  {alignment : Option SessionAlignment} {index : List Int} {sessions : SessionAssignment index}

theorem validateFolds_iff {F : Type} (increasing : index.Pairwise (· < ·))
    (assigned : AssignedBy library alignment index sessions)
    (outcome : WalkForwardWindow → FoldOutcome F) {number : Nat} {cutsList : List FoldCuts}
    {windows : List WalkForwardWindow}
    (made : WindowsOf config (boundaryLabel library alignment.isSome) alignment index number
      cutsList windows) {rawCursor : Nat} (passes : CutRun config sessions.dates rawCursor cutsList)
    (enough : config.trainingWindowSize ≤ rawCursor) {before : Option FoldsBefore}
    {expectedTrainSize : Nat} (reached : expectedTrainSize ≤ rawCursor) {state : WindowState}
    (isState : IsState config index before expectedTrainSize state)
    (follows : ∀ folds, before = some folds → Follows config sessions.dates rawCursor folds) :
    validateFolds library config.rules state
        (windows.map fun window => foldResult window (outcome window)) = .ok () ↔
      CutsAccepted config (foldGrid library alignment index) before expectedTrainSize
        cutsList := by
  induction made generalizing rawCursor before expectedTrainSize state with
  | nil number => simp [validateFolds, CutsAccepted]
  | @cons number cuts window cutsList windows built rest ih =>
      have shape := passes.shape sessions.monotone enough cuts List.mem_cons_self
      have ended := passes.last_of_end sessions.monotone
      cases passes with
      | fold found later =>
          have forward := le_dayStart sessions.monotone rawCursor
          obtain ⟨cursor, _, _, trainStart, _⟩ := foldCuts_eq_some found
          have stepped : cuts.cursor + config.stepSize ≤ nextCursor config cuts :=
            Nat.le_max_left _ _
          have clear : cuts.testEnd - config.selectionSize ≤ nextCursor config cuts :=
            Nat.le_max_right _ _
          have precedes := fun folds isBefore =>
            (follows folds isBefore).precedes sessions.monotone found
          have zero : config.trainingMode = .expanding → cuts.trainStart = 0 := fun expanding =>
            trainStart.trans (trainStartAt_expanding _ _ expanding)
          have firsts : config.trainingMode = .expanding →
              ∀ folds, before = some folds → folds.firstStart = 0 := by
            intro expanding folds isBefore
            have starts := (precedes folds isBefore).starts
            have first := (precedes folds isBefore).first
            have start := zero expanding
            omega
          have final : cuts.testEnd = sessions.dates.length →
              (windows.map fun window => foldResult window (outcome window)).isEmpty = true := by
            intro atEnd
            obtain rfl := ended atEnd
            cases rest
            rfl
          obtain ⟨next, nextState, accepts⟩ := validateFold_iff increasing assigned shape
            (foldWindow_built shape built) (outcome window) isState precedes
            (fun expanding => ⟨zero expanding, by omega, firsts expanding⟩)
            final
          have nextFollows : Follows config sessions.dates (nextCursor config cuts)
              ⟨(before.map FoldsBefore.firstStart).getD cuts.trainStart, cuts⟩ := by
            have cleared : cuts.testEnd ≤ nextCursor config cuts + config.selectionSize := by omega
            have moved : cuts.cursor ≤ nextCursor config cuts := by omega
            refine ⟨shape, cleared, moved, trainStart, ?_⟩
            cases before with
            | none => exact le_refl _
            | some folds =>
                exact (precedes folds rfl).first.trans (precedes folds rfl).starts
          have restIff := ih later (by omega) (by omega) nextState
            (fun folds same => Option.some.inj same ▸ nextFollows)
          simp only [List.map_cons, validateFolds, bind_eq_ok, accepts, CutsAccepted]
          constructor
          · rintro ⟨_, ⟨rfl, sizes, step⟩, laterOk⟩
            exact ⟨sizes, step, restIff.mp laterOk⟩
          · rintro ⟨sizes, step, laterOk⟩
            exact ⟨next, ⟨rfl, sizes, step⟩, restIff.mpr laterOk⟩

end Folds

end QuantFactory.WalkForward
