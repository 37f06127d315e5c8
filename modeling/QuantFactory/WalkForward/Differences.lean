import Mathlib
import QuantFactory.WalkForward.Agreement

/-!
# Where the two validators differ

Of a result the live validator accepts (`LiveFold`), most of `FoldsAgree` holds
already.  `FoldsDiffer` is what is left: labels compared as texts, one grid for
the whole document, and the short final test.
-/

set_option autoImplicit false

namespace QuantFactory.WalkForward

open QuantFactory.Library QuantFactory.Python QuantFactory.Persistence

/-! ## The cuts of a document -/

def WalkForwardWindow.parts (window : WalkForwardWindow) : List DataPartition :=
  window.train :: (window.selection.toList ++ [window.test])

def WalkForwardWindow.cuts (window : WalkForwardWindow) : List (DataPartition × DataPartition) :=
  match window.selection with
  | none => [(window.train, window.test)]
  | some part => [(window.train, part), (part, window.test)]

def testCuts : Option DataPartition → List WalkForwardWindow →
    List (DataPartition × DataPartition)
  | _, [] => []
  | previous, window :: rest =>
      previous.toList.map (fun test => (test, window.test)) ++ testCuts (some window.test) rest

section Sizes
variable (rules : WindowRuleSettings)

/-- The train size expected of the window `number` places on. -/
def trainSizeAt (expectedTrainSize number : Nat) : Nat :=
  match rules.trainingMode with
  | .rolling => expectedTrainSize
  | .expanding => expectedTrainSize + number * rules.stepSize

theorem trainSizeAt_zero (expectedTrainSize : Nat) :
    trainSizeAt rules expectedTrainSize 0 = expectedTrainSize := by
  cases mode : rules.trainingMode <;> simp [trainSizeAt, mode]

theorem trainSizeAt_succ (expectedTrainSize number : Nat) :
    trainSizeAt rules expectedTrainSize (number + 1) =
      trainSizeAt rules (nextTrainSize rules expectedTrainSize) number := by
  cases mode : rules.trainingMode with
  | rolling => simp [trainSizeAt, nextTrainSize, mode]
  | expanding =>
      simp only [trainSizeAt, nextTrainSize, mode]
      ring

structure EnoughRows (expectedTrainSize : Nat) (window : WalkForwardWindow) : Prop where
  rolling : rules.trainingMode = .rolling → rules.trainingWindowSize ≤ window.train.rowCount
  expanding : rules.trainingMode = .expanding → expectedTrainSize ≤ window.train.rowCount
  selection : ∀ size part, rules.selectionWindowSize = some size →
    window.selection = some part → size ≤ part.rowCount

/-- The declared sizes, exceeded by less than one session of a grid. -/
structure RowsWithin (grid : Option SessionGrid) (expectedTrainSize : Nat)
    (window : WalkForwardWindow) : Prop where
  rolling : rules.trainingMode = .rolling →
    window.train.rowCount < rules.trainingWindowSize + tolerance grid
  expanding : rules.trainingMode = .expanding → grid = none →
    window.train.rowCount ≤ expectedTrainSize
  selection : ∀ size part, rules.selectionWindowSize = some size →
    window.selection = some part → part.rowCount < size + tolerance grid
  test : window.test.rowCount < rules.testWindowSize + tolerance grid

end Sizes

theorem sizeWithin_open_iff {actual declared : Nat} {grid : Option SessionGrid} :
    sizeWithin actual declared grid true = true ↔
      declared ≤ actual ∧ (grid = none → actual ≤ declared) := by
  cases grid with
  | none => simp [sizeWithin]; omega
  | some grid => simp [sizeWithin]

section Left
variable (library : TimeLibrary) (rules : WindowRuleSettings) (grid : Option SessionGrid)

structure FoldDiffers (previousTest : Option DataPartition) (firstTrain : Option String)
    (expectedTrainSize : Nat) (window : WalkForwardWindow) : Prop where
  ordered : ∀ part ∈ window.parts, LabelsOrdered part
  apart : ∀ cut ∈ window.cuts, LabelsApart library grid cut.1.endLabel cut.2.startLabel
  prior : ∀ previous, previousTest = some previous →
    LabelsApart library grid previous.endLabel window.test.startLabel
  start : rules.trainingMode = .expanding → ∀ first, firstTrain = some first →
    first = window.train.startLabel
  full_test : rules.testWindowSize ≤ window.test.rowCount
  within : RowsWithin rules grid expectedTrainSize window

variable {library rules grid}

theorem trainAgrees_iff {firstTrain : Option String} {expectedTrainSize : Nat}
    {window : WalkForwardWindow} (enough : EnoughRows rules expectedTrainSize window) :
    TrainAgrees rules grid firstTrain expectedTrainSize window.train ↔
      (rules.trainingMode = .rolling →
        window.train.rowCount < rules.trainingWindowSize + tolerance grid) ∧
      (rules.trainingMode = .expanding → grid = none →
        window.train.rowCount ≤ expectedTrainSize) ∧
      (rules.trainingMode = .expanding → ∀ first, firstTrain = some first →
        first = window.train.startLabel) := by
  unfold TrainAgrees
  cases mode : rules.trainingMode with
  | rolling => simp [sizeWithin_iff, enough.rolling mode]
  | expanding => simp [sizeWithin_open_iff, enough.expanding mode]

theorem selectionAgrees_iff {expectedTrainSize : Nat} {window : WalkForwardWindow}
    (declared : SelectionChecked rules.selectionWindowSize window.selection)
    (enough : EnoughRows rules expectedTrainSize window) :
    SelectionAgrees library rules grid window ↔
      (∀ part, window.selection = some part → LabelsOrdered part) ∧
      (∀ size part, rules.selectionWindowSize = some size → window.selection = some part →
        part.rowCount < size + tolerance grid) ∧
      ∀ cut ∈ window.cuts, LabelsApart library grid cut.1.endLabel cut.2.startLabel := by
  unfold SelectionAgrees
  unfold SelectionChecked at declared
  cases size : rules.selectionWindowSize with
  | none =>
      rw [size] at declared
      simp [WalkForwardWindow.cuts, declared]
  | some rows =>
      rw [size] at declared
      obtain ⟨part, present, _⟩ := declared
      simp [WalkForwardWindow.cuts, present, sizeWithin_iff, enough.selection rows part size present]

theorem foldAgrees_iff {previousTest : Option DataPartition} {firstTrain : Option String}
    {expectedTrainSize : Nat} {window : WalkForwardWindow}
    (declared : SelectionChecked rules.selectionWindowSize window.selection)
    (enough : EnoughRows rules expectedTrainSize window) :
    FoldAgrees library rules grid (previousTest.map DataPartition.endLabel) firstTrain
        expectedTrainSize window ↔
      FoldDiffers library rules grid previousTest firstTrain expectedTrainSize window := by
  constructor
  · rintro ⟨trainOrdered, testOrdered, train, selection, test, prior⟩
    obtain ⟨rolling, expanding, start⟩ := (trainAgrees_iff enough).mp train
    obtain ⟨selectionOrdered, size, apart⟩ := (selectionAgrees_iff declared enough).mp selection
    obtain ⟨full, within⟩ := sizeWithin_iff.mp test
    refine ⟨?_, apart, fun previous same => prior _ (by rw [same]; rfl), start, full,
      rolling, expanding, size, within⟩
    simp only [WalkForwardWindow.parts, List.mem_cons, List.mem_append, Option.mem_toList,
      List.not_mem_nil, or_false]
    rintro part (rfl | present | rfl)
    · exact trainOrdered
    · exact selectionOrdered part present
    · exact testOrdered
  · rintro ⟨ordered, apart, prior, start, full, rolling, expanding, size, within⟩
    refine ⟨ordered _ (by simp [WalkForwardWindow.parts]),
      ordered _ (by simp [WalkForwardWindow.parts]),
      (trainAgrees_iff enough).mpr ⟨rolling, expanding, start⟩,
      (selectionAgrees_iff declared enough).mpr ⟨fun part present => ?_, size, apart⟩,
      sizeWithin_iff.mpr ⟨full, within⟩, fun label same => ?_⟩
    · exact ordered part (by simp [WalkForwardWindow.parts, present])
    · obtain ⟨previous, isPrevious, rfl⟩ := Option.map_eq_some_iff.mp same
      exact prior previous isPrevious

structure FoldsDiffer (library : TimeLibrary) (rules : WindowRuleSettings)
    (grid : Option SessionGrid) (previousTest : Option DataPartition)
    (firstTrain : Option String) (expectedTrainSize : Nat) (windows : List WalkForwardWindow) :
    Prop where
  ordered : ∀ window ∈ windows, ∀ part ∈ window.parts, LabelsOrdered part
  apart : ∀ cut ∈ windows.flatMap WalkForwardWindow.cuts ++ testCuts previousTest windows,
    LabelsApart library grid cut.1.endLabel cut.2.startLabel
  start : rules.trainingMode = .expanding → ∀ window ∈ windows, ∀ first,
    (firstTrain <|> windows.head?.map fun window => window.train.startLabel) = some first →
      first = window.train.startLabel
  full_test : ∀ window ∈ windows, rules.testWindowSize ≤ window.test.rowCount
  within : ∀ number window, windows[number]? = some window →
    RowsWithin rules grid (trainSizeAt rules expectedTrainSize number) window

theorem foldsDiffer_cons {previousTest : Option DataPartition} {firstTrain : Option String}
    {expectedTrainSize : Nat} {window : WalkForwardWindow} {rest : List WalkForwardWindow} :
    FoldsDiffer library rules grid previousTest firstTrain expectedTrainSize (window :: rest) ↔
      FoldDiffers library rules grid previousTest firstTrain expectedTrainSize window ∧
        FoldsDiffer library rules grid (some window.test)
          (firstTrain <|> some window.train.startLabel)
          (nextTrainSize rules expectedTrainSize) rest := by
  have head (first : Option String) : ((firstTrain <|> some window.train.startLabel) <|> first) =
      (firstTrain <|> some window.train.startLabel) := by cases firstTrain <;> rfl
  constructor
  · rintro ⟨ordered, apart, start, full, within⟩
    refine ⟨⟨ordered _ List.mem_cons_self, fun cut inCuts => apart cut (by simp [inCuts]),
        fun previous same => ?_, fun expanding first same => ?_, full _ List.mem_cons_self, ?_⟩,
      ⟨fun other member => ordered other (List.mem_cons_of_mem _ member), fun cut inCuts => ?_,
        fun expanding other member first same => ?_,
        fun other member => full other (List.mem_cons_of_mem _ member), fun number other at? => ?_⟩⟩
    · exact apart (previous, window.test) (by simp [testCuts, same])
    · exact start expanding window List.mem_cons_self first (by simp [same])
    · have first := within 0 window rfl
      rwa [trainSizeAt_zero] at first
    · refine apart cut ?_
      simp only [List.flatMap_cons, testCuts, List.mem_append] at inCuts ⊢
      tauto
    · rw [head] at same
      exact start expanding other (List.mem_cons_of_mem _ member) first same
    · have later := within (number + 1) other at?
      rwa [trainSizeAt_succ] at later
  · rintro ⟨⟨ordered, apart, prior, start, full, within⟩,
      ⟨restOrdered, restApart, restStart, restFull, restWithin⟩⟩
    refine ⟨?_, ?_, ?_, ?_, ?_⟩
    · rintro other member
      rcases List.mem_cons.mp member with rfl | inRest
      · exact ordered
      · exact restOrdered other inRest
    · intro cut inCuts
      simp only [List.flatMap_cons, testCuts, List.mem_append, List.mem_map, Option.mem_toList,
        or_assoc] at inCuts
      rcases inCuts with own | later | ⟨previous, same, rfl⟩ | later
      · exact apart cut own
      · exact restApart cut (List.mem_append_left _ later)
      · exact prior previous same
      · exact restApart cut (List.mem_append_right _ later)
    · intro expanding other member first same
      rcases List.mem_cons.mp member with rfl | inRest
      · cases known : firstTrain with
        | none =>
            rw [known] at same
            exact (Option.some.inj same).symm
        | some label =>
            rw [known] at same
            exact start expanding first (known.trans same)
      · exact restStart expanding other inRest first ((head _).trans same)
    · intro other member
      rcases List.mem_cons.mp member with rfl | inRest
      · exact full
      · exact restFull other inRest
    · intro number other at?
      cases number with
      | zero =>
          cases Option.some.inj at?
          rwa [trainSizeAt_zero]
      | succ number =>
          rw [trainSizeAt_succ]
          exact restWithin number other at?

/-- Of the persisted checks on folds the live validator accepted, these are left. -/
theorem foldsAgree_iff {windows : List WalkForwardWindow} {previousTest : Option DataPartition}
    {firstTrain : Option String} {expectedTrainSize : Nat}
    (declared : ∀ window ∈ windows, SelectionChecked rules.selectionWindowSize window.selection)
    (enough : ∀ number window, windows[number]? = some window →
      EnoughRows rules (trainSizeAt rules expectedTrainSize number) window) :
    FoldsAgree library rules grid (previousTest.map DataPartition.endLabel) firstTrain
        expectedTrainSize windows ↔
      FoldsDiffer library rules grid previousTest firstTrain expectedTrainSize windows := by
  induction windows generalizing previousTest firstTrain expectedTrainSize with
  | nil => exact ⟨fun _ => ⟨by simp, by simp [testCuts], by simp, by simp, by simp⟩,
      fun _ => trivial⟩
  | cons window rest ih =>
      have first := enough 0 window rfl
      rw [trainSizeAt_zero] at first
      rw [foldsDiffer_cons, FoldsAgree, foldAgrees_iff (declared _ List.mem_cons_self) first]
      refine and_congr_right fun _ => ?_
      change FoldsAgree library rules grid ((some window.test).map DataPartition.endLabel) _ _ _ ↔ _
      refine ih
        (fun other member => declared other (List.mem_cons_of_mem _ member))
        fun number other at? => ?_
      have later := enough (number + 1) other at?
      rwa [trainSizeAt_succ] at later

end Left

/-! ## What live acceptance gives -/

section Live
variable {F : Type} {library : TimeLibrary} {rules : WalkForwardWindowRules}

structure LiveFold (library : TimeLibrary) (rules : WindowRuleSettings)
    (grid : Option SessionGrid) (firstTrain : Option Bound) (expectedTrainSize : Nat)
    (window : WalkForwardWindow) : Prop where
  found : gridForWindow library window (partitionBounds window.train).1
    (partitionBounds window.test).2 = .ok grid
  parts : ∀ part ∈ window.parts, ∃ name,
    requirePartition library name part grid.isSome = .ok ()
  cuts : ∀ cut ∈ window.cuts, ∃ foldId,
    requireSessionBoundary library foldId (partitionBounds cut.1).2 (partitionBounds cut.2).1
      grid = .ok () ∧ (partitionBounds cut.1).2.lt (partitionBounds cut.2).1 = .ok true
  start : rules.trainingMode = .expanding → ∀ first, firstTrain = some first →
    first = (partitionBounds window.train).1
  enough : EnoughRows rules expectedTrainSize window
  within : RowsWithin rules grid expectedTrainSize window

theorem checkTrain_live {foldId : String} {state : WindowState} {trainStart : Bound}
    {trainSize : Nat} {grid : Option SessionGrid}
    (accepted : checkTrain rules foldId state trainStart trainSize grid = .ok ()) :
    (rules.trainingMode = .rolling → rules.trainingWindowSize ≤ trainSize ∧
      trainSize < rules.trainingWindowSize + tolerance grid) ∧
    (rules.trainingMode = .expanding → state.expectedTrainSize ≤ trainSize ∧
      (grid = none → trainSize ≤ state.expectedTrainSize) ∧
      ∀ first, state.previousTrainStart = some first → first = trainStart) := by
  unfold checkTrain at accepted
  cases mode : rules.trainingMode with
  | rolling =>
      simp only [mode, raiseIf_bind_eq_ok, Bool.not_eq_eq_eq_not, Bool.not_false,
        sizeWithin_iff] at accepted
      exact ⟨fun _ => accepted.1, fun other => (by cases other)⟩
  | expanding =>
      simp only [mode, raiseIf_bind_eq_ok, raiseIf_eq_ok, Bool.not_eq_eq_eq_not, Bool.not_false,
        sizeWithin_open_iff] at accepted
      refine ⟨fun other => (by cases other), fun _ => ⟨accepted.1.1, accepted.1.2, ?_⟩⟩
      intro first same
      simpa [same] using accepted.2

theorem checkSelection_live {foldId : String} {window : WalkForwardWindow}
    {grid : Option SessionGrid}
    (accepted : checkSelection library rules foldId window grid = .ok ()) :
    (∀ part, window.selection = some part → ∃ name,
      requirePartition library name part grid.isSome = .ok ()) ∧
    (∀ size part, rules.selectionWindowSize = some size → window.selection = some part →
      size ≤ part.rowCount ∧ part.rowCount < size + tolerance grid) ∧
    ∀ cut ∈ window.cuts, ∃ foldId,
      requireSessionBoundary library foldId (partitionBounds cut.1).2 (partitionBounds cut.2).1
        grid = .ok () ∧ (partitionBounds cut.1).2.lt (partitionBounds cut.2).1 = .ok true := by
  unfold checkSelection at accepted
  cases declared : rules.selectionWindowSize with
  | none =>
      simp only [declared, bind_eq_ok, raiseIf_eq_ok, Bool.not_eq_eq_eq_not,
        Bool.not_false] at accepted
      obtain ⟨_, absent, apart, before, _, rfl, boundary⟩ := accepted
      have none : window.selection = none := by simpa using absent
      simp only [none, WalkForwardWindow.cuts, List.mem_singleton, forall_eq, reduceCtorEq,
        false_implies, implies_true, true_and]
      exact ⟨foldId, boundary, before⟩
  | some size =>
      simp only [declared, bind_eq_ok, orRaise_eq_ok, raiseIf_eq_ok, Bool.not_eq_eq_eq_not,
        Bool.not_false, sizeWithin_iff] at accepted
      obtain ⟨part, present, _, checked, _, within, _, afterTrain, _, rfl, _, beforeTest, _, rfl, _,
        trainBoundary, testBoundary⟩ := accepted
      simp only [present, WalkForwardWindow.cuts, List.mem_cons, List.not_mem_nil, or_false,
        forall_eq_or_imp, forall_eq, Option.some.injEq, forall_eq']
      refine ⟨⟨_, checked⟩, ?_, ⟨foldId, trainBoundary, afterTrain⟩,
        foldId, testBoundary, beforeTest⟩
      rintro _ _ rfl rfl
      exact within

theorem validateFold_live {isLast : Bool} {state next : WindowState}
    {fold : WalkForwardFoldResult F}
    (accepted : validateFold library rules isLast state fold = .ok next) :
    (∃ grid, LiveFold library rules.toWindowRuleSettings grid state.previousTrainStart
      state.expectedTrainSize fold.window) ∧
    next.previousTrainStart =
      (state.previousTrainStart <|> some (partitionBounds fold.window.train).1) ∧
    next.expectedTrainSize =
      nextTrainSize rules.toWindowRuleSettings state.expectedTrainSize := by
  simp only [validateFold, bind_eq_ok, raiseIf_eq_ok] at accepted
  obtain ⟨_, _, _, _, grid, found, _, train, _, test, _, trainOk, _, selectionOk, _, size, _, _,
    _, _, _, _, finished⟩ := accepted
  obtain ⟨rolling, expanding⟩ := checkTrain_live trainOk
  obtain ⟨selectionPart, selectionSize, cuts⟩ := checkSelection_live selectionOk
  cases Except.ok.inj finished
  have testSize : fold.window.test.rowCount < rules.testWindowSize + tolerance grid := by
    simp only [Bool.and_eq_false_iff, Bool.not_eq_eq_eq_not, Bool.not_false, sizeWithin_iff,
      isShortFinal, Bool.and_eq_true, decide_eq_true_eq] at size
    omega
  refine ⟨⟨grid, found, ?_, cuts, fun mode => (expanding mode).2.2,
    ⟨fun mode => (rolling mode).1, fun mode => (expanding mode).1,
      fun size part declared present => (selectionSize size part declared present).1⟩,
    fun mode => (rolling mode).2, fun mode => (expanding mode).2.1,
    fun size part declared present => (selectionSize size part declared present).2, testSize⟩,
    rfl, rfl⟩
  simp only [WalkForwardWindow.parts, List.mem_cons, List.mem_append, Option.mem_toList,
    List.not_mem_nil, or_false]
  rintro part (rfl | present | rfl)
  · exact ⟨_, train⟩
  · exact selectionPart part present
  · exact ⟨_, test⟩

/-- Every accepted fold, with the train size expected there and the first train start. -/
theorem validateFolds_live {folds : List (WalkForwardFoldResult F)} {state : WindowState}
    (accepted : validateFolds library rules state folds = .ok ()) {number : Nat}
    {fold : WalkForwardFoldResult F} (at? : folds[number]? = some fold) :
    ∃ grid, LiveFold library rules.toWindowRuleSettings grid
      (state.previousTrainStart <|>
        if number = 0 then none
        else folds.head?.map fun first => (partitionBounds first.window.train).1)
      (trainSizeAt rules.toWindowRuleSettings state.expectedTrainSize number) fold.window := by
  induction folds generalizing state number with
  | nil => simp at at?
  | cons first rest ih =>
      simp only [validateFolds, bind_eq_ok] at accepted
      obtain ⟨next, firstOk, restOk⟩ := accepted
      obtain ⟨live, start, expected⟩ := validateFold_live firstOk
      cases number with
      | zero =>
          cases Option.some.inj at?
          rw [trainSizeAt_zero]
          cases known : state.previousTrainStart <;> simpa [known] using live
      | succ number =>
          obtain ⟨grid, later⟩ := ih restOk at?
          refine ⟨grid, ?_⟩
          rw [trainSizeAt_succ, ← expected]
          rw [start] at later
          cases known : state.previousTrainStart <;> simpa [known] using later

end Live

end QuantFactory.WalkForward
