import QuantFactory.WalkForward.Splitter

/-!
# The shape of the windows

Every pass of the loop cuts the index at session boundaries (`FoldShape`); the
passes follow each other so that each test begins where no earlier one reaches
(`CutRun`).  Partitions are the rows between the cuts, so the statements about
cuts become statements about the windows returned.
-/

set_option autoImplicit false

namespace QuantFactory.WalkForward

open QuantFactory.Library

/-! ## One pass -/

/-- The sizes of a train window: exact up to one session, or growing. -/
def TrainSize (config : WalkForwardConfig) (dates : List Int) (size : Nat) : Prop :=
  config.trainingWindowSize ≤ size ∧
    (config.trainingMode = .rolling → size < config.trainingWindowSize + longestSession dates)

def SelectionSize (config : WalkForwardConfig) (dates : List Int) (size : Nat) : Prop :=
  config.selectionSize ≤ size ∧ size < config.selectionSize + longestSession dates

def FullTestSize (config : WalkForwardConfig) (dates : List Int) (size : Nat) : Prop :=
  config.testWindowSize ≤ size ∧ size < config.testWindowSize + longestSession dates

def ShortTestSize (config : WalkForwardConfig) (size : Nat) : Prop :=
  config.incompleteFinalWindow = .included ∧ config.minimumRowsPerWindow ≤ size ∧
    size < config.testWindowSize

structure FoldShape (config : WalkForwardConfig) (dates : List Int) (cuts : FoldCuts) :
    Prop where
  train_nonempty : cuts.trainStart < cuts.cursor
  selection_exact : config.selectionWindowSize = none → cuts.selectionEnd = cuts.cursor
  test_nonempty : cuts.selectionEnd < cuts.testEnd
  inside : cuts.testEnd ≤ dates.length
  trainStart_cut : IsCut dates cuts.trainStart
  cursor_cut : IsCut dates cuts.cursor
  selection_cut : IsCut dates cuts.selectionEnd
  test_cut : IsCut dates cuts.testEnd
  train_size : TrainSize config dates (cuts.cursor - cuts.trainStart)
  selection_size : SelectionSize config dates (cuts.selectionEnd - cuts.cursor)
  selection_after : cuts.cursor ≤ cuts.selectionEnd
  test_size : FullTestSize config dates (cuts.testEnd - cuts.selectionEnd) ∨
    (ShortTestSize config (cuts.testEnd - cuts.selectionEnd) ∧ cuts.testEnd = dates.length)

section Sorted
variable {dates : List Int} (sorted : dates.Pairwise (· ≤ ·))

include sorted

theorem dayStart_of_isCut {cut : Nat} (isCut : IsCut dates cut) : dayStart dates cut = cut := by
  have moved := le_dayStart sorted cut
  unfold dayStart at moved ⊢
  split at moved
  · rename_i inside
    rw [dif_pos inside]
    by_contra further
    have later := (lt_searchSortedRight_iff (v := dates[cut - 1]) sorted inside.2).mp (by omega)
    have earlier := isCut (cut - 1) cut (by omega) inside.2 (by omega) (le_refl _)
    omega
  · rename_i outside
    rw [dif_neg outside]

theorem testEndAt_spec {config : WalkForwardConfig} {selectionEnd testEnd : Nat}
    (room : selectionEnd ≤ dates.length)
    (ended : testEndAt config dates selectionEnd = some testEnd) :
    selectionEnd < testEnd ∧ testEnd ≤ dates.length ∧ IsCut dates testEnd ∧
      (FullTestSize config dates (testEnd - selectionEnd) ∨
        (ShortTestSize config (testEnd - selectionEnd) ∧ testEnd = dates.length)) := by
  obtain ⟨_, test, _, minimum, enough, _⟩ := config.bounds
  simp only [testEndAt] at ended
  split at ended
  · rename_i beyond
    cases policy : config.incompleteFinalWindow with
    | drop => simp [policy] at ended
    | included =>
        simp only [policy] at ended
        split at ended
        · cases ended
        · cases ended
          exact ⟨by omega, le_refl _, isCut_length dates,
            .inr ⟨⟨policy, by omega, by omega⟩, rfl⟩⟩
  · rename_i fits
    cases ended
    have nonempty : dates ≠ [] := by
      rintro rfl
      simp at fits
      omega
    have low := le_dayStart sorted (selectionEnd + config.testWindowSize)
    have high := dayStart_lt sorted (selectionEnd + config.testWindowSize) nonempty
    refine ⟨by omega, dayStart_le_length _ (by omega), dayStart_isCut sorted _ (by omega),
      .inl ⟨by omega, by omega⟩⟩

theorem trainStartAt_spec {config : WalkForwardConfig} {cursor : Nat}
    (enough : config.trainingWindowSize ≤ cursor) (inside : cursor < dates.length) :
    trainStartAt config dates cursor < cursor ∧ IsCut dates (trainStartAt config dates cursor) ∧
      TrainSize config dates (cursor - trainStartAt config dates cursor) := by
  have positive := config.bounds.1
  unfold trainStartAt TrainSize
  cases config.trainingMode with
  | expanding =>
      dsimp only
      exact ⟨by omega, isCut_zero dates, by omega, nofun⟩
  | rolling =>
      dsimp only
      have low := sessionFloor_le sorted (cursor - config.trainingWindowSize)
      have high := lt_sessionFloor_add sorted (cursor - config.trainingWindowSize) (by omega)
      exact ⟨by omega, sessionFloor_isCut sorted _ (by omega), by omega, fun _ => by omega⟩

theorem foldCuts_shape {config : WalkForwardConfig} {rawCursor : Nat} {cuts : FoldCuts}
    (enough : config.trainingWindowSize ≤ rawCursor)
    (found : foldCuts config dates rawCursor = some cuts) : FoldShape config dates cuts := by
  have progress := le_dayStart sorted rawCursor
  obtain ⟨cursor, room, selectionEnd, trainStart, ended⟩ := foldCuts_eq_some found
  have bounded : rawCursor ≤ dates.length := by omega
  have nonempty : dates ≠ [] := by
    rintro rfl
    simp at room
  have cursorCut : IsCut dates cuts.cursor := cursor ▸ dayStart_isCut sorted _ bounded
  have selectionCut : IsCut dates cuts.selectionEnd :=
    selectionEnd ▸ dayStart_isCut sorted _ (by omega)
  have selectionInside : cuts.selectionEnd ≤ dates.length :=
    selectionEnd ▸ dayStart_le_length _ (by omega)
  have low := le_dayStart sorted (cuts.cursor + config.selectionSize)
  have high := dayStart_lt sorted (cuts.cursor + config.selectionSize) nonempty
  obtain ⟨testNonempty, inside, testCut, testSize⟩ := testEndAt_spec sorted selectionInside ended
  have trained : config.trainingWindowSize ≤ cuts.cursor := by omega
  obtain ⟨trainNonempty, trainCut, trainSize⟩ :=
    trainStartAt_spec sorted trained (by omega)
  rw [← trainStart] at trainNonempty trainCut trainSize
  refine ⟨trainNonempty, fun undeclared => ?_, testNonempty, inside, trainCut, cursorCut,
    selectionCut, testCut, trainSize, ⟨by omega, by omega⟩, by omega, testSize⟩
  have none : config.selectionSize = 0 := by
    simp [WalkForwardConfig.selectionSize, undeclared]
  rw [selectionEnd, none, Nat.add_zero, dayStart_of_isCut sorted cursorCut]

end Sorted

/-! ## The loop -/

inductive CutRun (config : WalkForwardConfig) (dates : List Int) : Nat → List FoldCuts → Prop where
  | stop {rawCursor : Nat} (ends : foldCuts config dates rawCursor = none) :
      CutRun config dates rawCursor []
  | fold {rawCursor : Nat} {cuts : FoldCuts} {rest : List FoldCuts}
      (found : foldCuts config dates rawCursor = some cuts)
      (later : CutRun config dates (nextCursor config cuts) rest) :
      CutRun config dates rawCursor (cuts :: rest)

section Runs
variable {config : WalkForwardConfig} {dates : List Int} (sorted : dates.Pairwise (· ≤ ·))

include sorted

theorem CutRun.shape {rawCursor : Nat} {cutsList : List FoldCuts}
    (passes : CutRun config dates rawCursor cutsList)
    (enough : config.trainingWindowSize ≤ rawCursor) :
    ∀ cuts ∈ cutsList, FoldShape config dates cuts := by
  induction passes with
  | stop ends => simp
  | @fold rawCursor cuts rest found later ih =>
      have moved := le_dayStart sorted rawCursor
      have cursor := (foldCuts_eq_some found).1
      have stepped : cuts.cursor + config.stepSize ≤ nextCursor config cuts := Nat.le_max_left _ _
      intro other member
      rcases List.mem_cons.mp member with rfl | inRest
      · exact foldCuts_shape sorted enough found
      · exact ih (by omega) other inRest

/-- A later test starts no earlier than the cursor with its selection on top. -/
theorem CutRun.selectionEnd_ge {rawCursor : Nat} {cutsList : List FoldCuts}
    (passes : CutRun config dates rawCursor cutsList) :
    ∀ cuts ∈ cutsList, rawCursor + config.selectionSize ≤ cuts.selectionEnd := by
  induction passes with
  | stop ends => simp
  | @fold rawCursor cuts rest found later ih =>
      have moved := le_dayStart sorted rawCursor
      obtain ⟨cursor, _, selectionEnd, _, _⟩ := foldCuts_eq_some found
      have selected := le_dayStart sorted (cuts.cursor + config.selectionSize)
      have stepped : cuts.cursor + config.stepSize ≤ nextCursor config cuts := Nat.le_max_left _ _
      intro other member
      rcases List.mem_cons.mp member with rfl | inRest
      · omega
      · have bound := ih other inRest
        omega

theorem CutRun.tests_disjoint {rawCursor : Nat} {cutsList : List FoldCuts}
    (passes : CutRun config dates rawCursor cutsList) :
    cutsList.Pairwise fun cuts other => cuts.testEnd ≤ other.selectionEnd := by
  induction passes with
  | stop ends => exact List.Pairwise.nil
  | @fold rawCursor cuts rest found later ih =>
      refine List.pairwise_cons.mpr ⟨fun other member => ?_, ih⟩
      have bound := later.selectionEnd_ge sorted other member
      have clear : cuts.testEnd - config.selectionSize ≤ nextCursor config cuts :=
        Nat.le_max_right _ _
      omega

theorem CutRun.last_of_end {rawCursor : Nat} {cuts : FoldCuts} {cutsList : List FoldCuts}
    (passes : CutRun config dates rawCursor (cuts :: cutsList))
    (atEnd : cuts.testEnd = dates.length) : cutsList = [] := by
  cases passes with
  | fold found later =>
      cases later with
      | stop ends => rfl
      | @fold _ next _ nextFound _ =>
          obtain ⟨cursor, room, _, _, _⟩ := foldCuts_eq_some nextFound
          have moved := le_dayStart sorted (nextCursor config cuts)
          have clear : cuts.testEnd - config.selectionSize ≤ nextCursor config cuts :=
            Nat.le_max_right _ _
          omega

end Runs

/-! ## Partitions -/

theorem rows_length {index : List Int} (first : Nat) {last : Nat}
    (within : last ≤ index.length) :
    (rows index first last).length = last - first := by
  simp [rows, Nat.min_eq_left within]

theorem rows_getElem {index : List Int} {first last i : Nat} (within : last ≤ index.length)
    (inside : i < (rows index first last).length) :
    (rows index first last)[i] = getElem index (first + i) (by
      rw [rows_length first within] at inside; omega) := by
  simp [rows]

theorem mem_rows {index : List Int} {first last : Nat} (within : last ≤ index.length) {bar : Int} :
    bar ∈ rows index first last ↔
      ∃ i, ∃ inside : i < index.length, first ≤ i ∧ i < last ∧ index[i] = bar := by
  rw [List.mem_iff_getElem]
  constructor
  · rintro ⟨i, inside, rfl⟩
    have size := rows_length first within
    exact ⟨first + i, by omega, by omega, by omega, (rows_getElem within inside).symm⟩
  · rintro ⟨i, inside, low, high, rfl⟩
    have size := rows_length first within
    refine ⟨i - first, by omega, ?_⟩
    rw [rows_getElem within]
    congr 1
    omega

theorem partition_rows {index : List Int} {first last : Nat} (label : Int → String)
    (name : String) (nonempty : first < last) (within : last ≤ index.length) :
    partition label name (rows index first last) = .ok {
      name := name
      index := rows index first last
      startLabel := label index[first]
      endLabel := label index[last - 1]
      rowCount := last - first } := by
  have size := rows_length first within
  have positive : 0 < (rows index first last).length := by omega
  have head : (rows index first last).head? = some index[first] := by
    rw [List.head?_eq_getElem?, List.getElem?_eq_getElem positive, rows_getElem within]
    rfl
  have final : (rows index first last).getLast? = some index[last - 1] := by
    rw [List.getLast?_eq_getElem?, List.getElem?_eq_getElem (by omega), rows_getElem within]
    congr 2
    omega
  simp only [partition, head, final, size]

structure IsSlice (index : List Int) (first last : Nat) (part : DataPartition) : Prop where
  nonempty : first < last
  within : last ≤ index.length
  index_eq : part.index = rows index first last
  rowCount_eq : part.rowCount = last - first

theorem isSlice_of_partition {index : List Int} {first last : Nat} {label : Int → String}
    {name : String} {part : DataPartition} (nonempty : first < last)
    (within : last ≤ index.length)
    (built : partition label name (rows index first last) = .ok part) :
    IsSlice index first last part := by
  rw [partition_rows label name nonempty within] at built
  cases Except.ok.inj built
  exact ⟨nonempty, within, rfl, rfl⟩

/-! ## Windows -/

def SelectionPlaced (config : WalkForwardConfig) (index : List Int) (cuts : FoldCuts) :
    Option DataPartition → Prop
  | some part => config.selectionWindowSize.isSome ∧
      IsSlice index cuts.cursor cuts.selectionEnd part
  | none => config.selectionWindowSize = none ∧ cuts.selectionEnd = cuts.cursor

structure WellFormedFold (config : WalkForwardConfig) (index dates : List Int)
    (cuts : FoldCuts) (window : WalkForwardWindow) : Prop where
  train : IsSlice index cuts.trainStart cuts.cursor window.train
  selection : SelectionPlaced config index cuts window.selection
  test : IsSlice index cuts.selectionEnd cuts.testEnd window.test
  whole_sessions : ∀ cut ∈ [cuts.trainStart, cuts.cursor, cuts.selectionEnd, cuts.testEnd],
    IsCut dates cut
  train_size : TrainSize config dates window.train.rowCount
  selection_size : ∀ part, window.selection = some part →
    SelectionSize config dates part.rowCount

theorem selectionSize_eq_zero_iff (config : WalkForwardConfig) :
    config.selectionSize = 0 ↔ config.selectionWindowSize = none := by
  unfold WalkForwardConfig.selectionSize
  cases declared : config.selectionWindowSize with
  | none => simp
  | some size =>
      have positive := config.selection_positive declared
      simp
      omega

section Build
variable {config : WalkForwardConfig} {label : Int → String}
  {alignment : Option SessionAlignment} {index : List Int} {sessions : SessionAssignment index}

theorem foldWindow_wellFormed {number : Nat} {cuts : FoldCuts} {window : WalkForwardWindow}
    (shape : FoldShape config sessions.dates cuts)
    (built : foldWindow config label alignment index number cuts = .ok window) :
    WellFormedFold config index sessions.dates cuts window := by
  have length := sessions.length_eq
  have inside := shape.inside
  have after := shape.selection_after
  have testNonempty := shape.test_nonempty
  simp only [foldWindow, bind_eq_ok, raiseIf_eq_ok] at built
  obtain ⟨train, trainBuilt, selection, selectionBuilt, test, testBuilt, _, _, finished⟩ := built
  cases Except.ok.inj finished
  have trainSlice := isSlice_of_partition shape.train_nonempty (by omega) trainBuilt
  have testSlice := isSlice_of_partition testNonempty (by omega) testBuilt
  have placed : SelectionPlaced config index cuts selection := by
    unfold selectionPartition at selectionBuilt
    split at selectionBuilt
    · rename_i zero
      cases Except.ok.inj selectionBuilt
      have undeclared := (selectionSize_eq_zero_iff config).mp zero
      exact ⟨undeclared, shape.selection_exact undeclared⟩
    · rename_i declared
      obtain ⟨part, partBuilt, rfl⟩ := map_eq_ok.mp selectionBuilt
      have size := shape.selection_size.1
      refine ⟨?_, isSlice_of_partition (by omega) (by omega) partBuilt⟩
      rw [Option.isSome_iff_ne_none]
      exact mt (selectionSize_eq_zero_iff config).mpr declared
  refine ⟨trainSlice, placed, testSlice, ?_, ?_, ?_⟩
  · simp only [List.mem_cons, List.not_mem_nil, or_false, forall_eq_or_imp, forall_eq]
    exact ⟨shape.trainStart_cut, shape.cursor_cut, shape.selection_cut, shape.test_cut⟩
  · simp only [trainSlice.rowCount_eq]
    exact shape.train_size
  · rintro part rfl
    rw [placed.2.rowCount_eq]
    exact shape.selection_size

/-- A fold whose cuts are in shape can only fail the ordering of its labels. -/
theorem foldWindow_error {number : Nat} {cuts : FoldCuts} {error : WindowError}
    (shape : FoldShape config sessions.dates cuts)
    (failed : foldWindow config label alignment index number cuts = .error error) :
    error = overlapError (foldId number) := by
  have length := sessions.length_eq
  have inside := shape.inside
  have after := shape.selection_after
  have testNonempty := shape.test_nonempty
  have selected : ∃ part, selectionPartition config label (foldId number ++ ":selection")
      (rows index cuts.cursor cuts.selectionEnd) = .ok part := by
    unfold selectionPartition
    split
    · exact ⟨none, rfl⟩
    · have size := shape.selection_size.1
      rw [partition_rows label _ (by omega) (by omega)]
      exact ⟨_, rfl⟩
  obtain ⟨selection, selected⟩ := selected
  have trainWithin : cuts.cursor ≤ index.length := by omega
  have testWithin : cuts.testEnd ≤ index.length := by omega
  have trainBuilt := partition_rows label (foldId number ++ ":train") shape.train_nonempty
    trainWithin
  have testBuilt := partition_rows label (foldId number ++ ":test") testNonempty testWithin
  simp only [foldWindow, trainBuilt, selected, testBuilt, bind_ok] at failed
  exact raiseIf_bind_error failed (fun _ finished => by cases finished)

/-- The windows made of a list of passes, numbered from `number` on. -/
inductive WindowsOf (config : WalkForwardConfig) (label : Int → String)
    (alignment : Option SessionAlignment) (index : List Int) :
    Nat → List FoldCuts → List WalkForwardWindow → Prop where
  | nil (number : Nat) : WindowsOf config label alignment index number [] []
  | cons {number : Nat} {cuts : FoldCuts} {window : WalkForwardWindow}
      {cutsList : List FoldCuts} {windows : List WalkForwardWindow}
      (built : foldWindow config label alignment index number cuts = .ok window)
      (rest : WindowsOf config label alignment index (number + 1) cutsList windows) :
      WindowsOf config label alignment index number (cuts :: cutsList) (window :: windows)

theorem windowLoop_ok {rawCursor number : Nat} {windows : List WalkForwardWindow}
    (built : windowLoop config label alignment index sessions rawCursor number = .ok windows) :
    ∃ cutsList, CutRun config sessions.dates rawCursor cutsList ∧
      WindowsOf config label alignment index number cutsList windows := by
  fun_induction windowLoop config label alignment index sessions rawCursor number
    generalizing windows with
  | case1 rawCursor number ends =>
      cases Except.ok.inj built
      exact ⟨[], .stop ends, .nil number⟩
  | case2 rawCursor number cuts found ih =>
      simp only [bind_eq_ok] at built
      obtain ⟨window, windowBuilt, later, laterBuilt, finished⟩ := built
      cases Except.ok.inj finished
      obtain ⟨cutsList, passes, made⟩ := ih laterBuilt
      exact ⟨cuts :: cutsList, .fold found passes, .cons windowBuilt made⟩

theorem windowLoop_error {rawCursor number : Nat} {error : WindowError}
    (enough : config.trainingWindowSize ≤ rawCursor)
    (failed : windowLoop config label alignment index sessions rawCursor number =
      .error error) : ∃ number, error = overlapError (foldId number) := by
  fun_induction windowLoop config label alignment index sessions rawCursor number with
  | case1 rawCursor number ends => cases failed
  | case2 rawCursor number cuts found ih =>
      have shape := foldCuts_shape sessions.monotone enough found
      have progress := (foldCuts_progress config index sessions found).2
      cases window : foldWindow config label alignment index number cuts with
      | error raised =>
          rw [window] at failed
          cases Except.error.inj failed
          exact ⟨number, foldWindow_error shape window⟩
      | ok built =>
          cases later : windowLoop config label alignment index sessions
              (nextCursor config cuts) (number + 1) with
          | error raised =>
              rw [window, later] at failed
              cases Except.error.inj failed
              exact ih (by omega) later
          | ok windows =>
              rw [window, later] at failed
              cases failed

theorem WindowsOf.exists_cuts {number : Nat} {cutsList : List FoldCuts}
    {windows : List WalkForwardWindow}
    (made : WindowsOf config label alignment index number cutsList windows) :
    ∀ window ∈ windows, ∃ cuts ∈ cutsList, ∃ number,
      foldWindow config label alignment index number cuts = .ok window := by
  induction made with
  | nil number => simp
  | @cons number cuts window cutsList windows built rest ih =>
      intro other member
      rcases List.mem_cons.mp member with rfl | inRest
      · exact ⟨cuts, List.mem_cons_self, number, built⟩
      · obtain ⟨otherCuts, otherMember, otherBuilt⟩ := ih other inRest
        exact ⟨otherCuts, List.mem_cons_of_mem _ otherMember, otherBuilt⟩

theorem windows_wellFormed {rawCursor number : Nat} {cutsList : List FoldCuts}
    {windows : List WalkForwardWindow} (enough : config.trainingWindowSize ≤ rawCursor)
    (passes : CutRun config sessions.dates rawCursor cutsList)
    (made : WindowsOf config label alignment index number cutsList windows) :
    ∀ window ∈ windows, ∃ cuts ∈ cutsList,
      WellFormedFold config index sessions.dates cuts window := by
  intro window member
  obtain ⟨cuts, inList, number, built⟩ := made.exists_cuts window member
  exact ⟨cuts, inList,
    foldWindow_wellFormed (passes.shape sessions.monotone enough cuts inList) built⟩

theorem windows_test_size {rawCursor number : Nat} {cutsList : List FoldCuts}
    {windows : List WalkForwardWindow} (enough : config.trainingWindowSize ≤ rawCursor)
    (passes : CutRun config sessions.dates rawCursor cutsList)
    (made : WindowsOf config label alignment index number cutsList windows) :
    ∀ window ∈ windows, FullTestSize config sessions.dates window.test.rowCount ∨
      (ShortTestSize config window.test.rowCount ∧ windows.getLast? = some window) := by
  induction made generalizing rawCursor with
  | nil number => simp
  | @cons number cuts window cutsList windows built rest ih =>
      have shape := passes.shape sessions.monotone enough cuts List.mem_cons_self
      have size := (foldWindow_wellFormed shape built).test.rowCount_eq
      intro other member
      rcases List.mem_cons.mp member with rfl | inRest
      · rw [size]
        rcases shape.test_size with full | ⟨short, atEnd⟩
        · exact .inl full
        · obtain rfl := passes.last_of_end sessions.monotone atEnd
          cases rest
          exact .inr ⟨short, rfl⟩
      · cases passes with
        | fold found later =>
            have progress := (foldCuts_progress config index sessions found).2
            have cursor := (foldCuts_eq_some found).1
            rcases ih (by omega) later other inRest with full | ⟨short, last⟩
            · exact .inl full
            · refine .inr ⟨short, ?_⟩
              rw [List.getLast?_cons, last]
              rfl

theorem windows_tests_increase {rawCursor number : Nat} {cutsList : List FoldCuts}
    {windows : List WalkForwardWindow} (increasing : index.Pairwise (· < ·))
    (enough : config.trainingWindowSize ≤ rawCursor)
    (passes : CutRun config sessions.dates rawCursor cutsList)
    (made : WindowsOf config label alignment index number cutsList windows) :
    windows.Pairwise fun window later =>
      ∀ bar ∈ window.test.index, ∀ laterBar ∈ later.test.index, bar < laterBar := by
  have shapes := passes.shape sessions.monotone enough
  have disjoint := passes.tests_disjoint sessions.monotone
  clear passes enough
  induction made with
  | nil number => exact List.Pairwise.nil
  | @cons number cuts window cutsList windows built rest ih =>
      obtain ⟨separate, restDisjoint⟩ := List.pairwise_cons.mp disjoint
      refine List.pairwise_cons.mpr ⟨?_, ih (fun other member =>
        shapes other (List.mem_cons_of_mem _ member)) restDisjoint⟩
      intro other member bar inTest laterBar inLater
      obtain ⟨otherCuts, inList, _, otherBuilt⟩ := rest.exists_cuts other member
      have slice := (foldWindow_wellFormed (shapes cuts List.mem_cons_self) built).test
      have laterSlice := (foldWindow_wellFormed
        (shapes otherCuts (List.mem_cons_of_mem _ inList)) otherBuilt).test
      rw [slice.index_eq, mem_rows slice.within] at inTest
      rw [laterSlice.index_eq, mem_rows laterSlice.within] at inLater
      obtain ⟨i, iInside, _, iBelow, rfl⟩ := inTest
      obtain ⟨j, jInside, jAbove, _, rfl⟩ := inLater
      have apart := separate otherCuts inList
      exact List.pairwise_iff_getElem.mp increasing i j iInside jInside (by omega)

end Build

/-- `build_walk_forward_windows` raises its declared error, or returns folds of
whole sessions in order, of their declared sizes up to one session, whose tests
never overlap. -/
theorem build_walk_forward_windows_wellFormed (config : WalkForwardConfig)
    (label : Int → String) (alignment : Option SessionAlignment) (index : List Int)
    (nonempty : index ≠ []) (increasing : index.Pairwise (· < ·))
    (sessions : SessionAssignment index) :
    (∀ error, buildWalkForwardWindows config label alignment index sessions = .error error →
        ∃ number, error = overlapError (foldId number)) ∧
      ∀ windows, buildWalkForwardWindows config label alignment index sessions = .ok windows →
        (∀ window ∈ windows,
          (∃ cuts, WellFormedFold config index sessions.dates cuts window) ∧
            (FullTestSize config sessions.dates window.test.rowCount ∨
              (ShortTestSize config window.test.rowCount ∧
                windows.getLast? = some window))) ∧
          windows.Pairwise fun window later =>
            ∀ bar ∈ window.test.index, ∀ laterBar ∈ later.test.index, bar < laterBar := by
  have accepted : buildWalkForwardWindows config label alignment index sessions =
      windowLoop config label alignment index sessions config.trainingWindowSize 1 := by
    have filled : index.isEmpty = false := by simpa using nonempty
    have ordered : index.Pairwise (· ≤ ·) := increasing.imp le_of_lt
    have unique : index.Nodup := increasing.imp ne_of_lt
    simp [buildWalkForwardWindows, filled, ordered, unique, raiseIf, bind_ok]
  rw [accepted]
  refine ⟨fun error failed => windowLoop_error (le_refl _) failed, fun windows built => ?_⟩
  obtain ⟨cutsList, passes, made⟩ := windowLoop_ok built
  refine ⟨fun window member => ⟨?_, ?_⟩, ?_⟩
  · obtain ⟨cuts, _, wellFormed⟩ := windows_wellFormed (le_refl _) passes made window member
    exact ⟨cuts, wellFormed⟩
  · exact windows_test_size (le_refl _) passes made window member
  · exact windows_tests_increase increasing (le_refl _) passes made

/-! Twelve sessions of two half-day bars, with a step just below the train size. -/

def halfDay : Int := 43200000000000

def halfDayIndex : List Int := (List.range 24).map fun i => i * halfDay

def halfDaySessions : SessionAssignment halfDayIndex where
  dates := (List.range 24).map fun i => ((i / 2 : Nat) : Int)
  length_eq := by decide
  monotone := by decide

def halfDayLabel (bar : Int) : String :=
  "T" ++ String.singleton (Char.ofNat (97 + (bar / halfDay).toNat))

def halfDayAlignment : SessionAlignment := ⟨"CME", "12h"⟩

def halfDayConfig : WalkForwardConfig where
  trainingWindowSize := 8
  selectionWindowSize := none
  testWindowSize := 7
  stepSize := 7
  trainingMode := .rolling
  minimumRowsPerWindow := 1
  shortlistSize := 1
  incompleteFinalWindow := .drop
  checked := by decide

theorem build_walk_forward_windows_halfDay :
    (buildWalkForwardWindows halfDayConfig halfDayLabel (some halfDayAlignment) halfDayIndex
        halfDaySessions).toOption.map List.length = some 2 ∧
      ∀ windows, buildWalkForwardWindows halfDayConfig halfDayLabel (some halfDayAlignment)
          halfDayIndex halfDaySessions = .ok windows →
        windows.Pairwise fun window later =>
          ∀ bar ∈ window.test.index, ∀ laterBar ∈ later.test.index, bar < laterBar :=
  ⟨by decide +kernel, fun windows built =>
    ((build_walk_forward_windows_wellFormed halfDayConfig halfDayLabel (some halfDayAlignment)
      halfDayIndex (by decide) (by decide) halfDaySessions).2 windows built).2⟩

end QuantFactory.WalkForward
