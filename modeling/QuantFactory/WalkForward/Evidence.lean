import QuantFactory.Python.Value
import QuantFactory.WalkForward.Grid

/-!
# The live evidence validator

`_validate_walk_forward_windows` of `backtesting/validation/evidence_adapters.py`
and the adapter that turns a walk-forward result into an evidence record.
-/

set_option autoImplicit false

namespace QuantFactory.WalkForward

open QuantFactory.Library QuantFactory.Python

structure WindowRuleSettings where
  trainingWindowSize : Nat
  selectionWindowSize : Option Nat
  testWindowSize : Nat
  stepSize : Nat
  trainingMode : TrainingMode
  minimumRowsPerWindow : Nat
  incompleteFinalWindow : IncompleteWindowPolicy
  deriving DecidableEq, Repr

def requirePositiveRule (name : String) (value : Nat) : Except WindowError Unit :=
  raiseIf (value < 1) (windowError s!"{name} must be a positive integer")

/-- `WalkForwardWindowRules.__post_init__`. -/
def rulesPostInit (rules : WindowRuleSettings) : Except WindowError Unit := do
  requirePositiveRule "training_window_size" rules.trainingWindowSize
  requirePositiveRule "test_window_size" rules.testWindowSize
  requirePositiveRule "step_size" rules.stepSize
  requirePositiveRule "minimum_rows_per_window" rules.minimumRowsPerWindow
  requirePositiveRule "selection_window_size" (rules.selectionWindowSize.getD 1)
  raiseIf (rules.trainingWindowSize < rules.minimumRowsPerWindow)
    (windowError "training_window_size is below the minimum")
  raiseIf (rules.testWindowSize < rules.minimumRowsPerWindow)
    (windowError "test_window_size is below the minimum")
  raiseIf (rules.selectionWindowSize.any (· < rules.minimumRowsPerWindow))
    (windowError "selection_window_size is below the minimum")
  raiseIf (rules.stepSize < rules.testWindowSize)
    (windowError "step_size must not overlap test windows")

structure WalkForwardWindowRules extends WindowRuleSettings where
  checked : rulesPostInit toWindowRuleSettings = .ok ()

def WalkForwardConfig.rules (config : WalkForwardConfig) : WalkForwardWindowRules where
  trainingWindowSize := config.trainingWindowSize
  selectionWindowSize := config.selectionWindowSize
  testWindowSize := config.testWindowSize
  stepSize := config.stepSize
  trainingMode := config.trainingMode
  minimumRowsPerWindow := config.minimumRowsPerWindow
  incompleteFinalWindow := config.incompleteFinalWindow
  checked := by
    have checked := config.checked
    simp only [postInit, requirePositive, bind_eq_ok, raiseIf_eq_ok] at checked
    obtain ⟨_, train, _, test, _, step, _, minimum, _, _, _, selection, _, trainMinimum, _,
      testMinimum, _, selectionMinimum, apart⟩ := checked
    simp only [rulesPostInit, requirePositiveRule, raiseIf, train, test, step, minimum,
      selection, trainMinimum, testMinimum, selectionMinimum, apart]
    rfl

inductive FoldStatus where
  | successful | failed
  deriving DecidableEq, Repr

structure WalkForwardFoldResult (F : Type) where
  foldId : String
  status : FoldStatus
  window : WalkForwardWindow
  parameterLockId : Option String
  selectedParameters : Option (Entries F)
  testMetrics : Entries F
  failureReason : Option String

/-! ## One fold -/

structure WindowState where
  previousTestEnd : Option Bound
  previousTrainStart : Option Bound
  previousTrainIndex : Option (List Int)
  expectedTrainSize : Nat

section Checks
variable (library : TimeLibrary)

/-- The bars of a partition agree with its row count and labels. -/
def requireLabels (name : String) (part : DataPartition) (aligned : Bool) :
    Except WindowError Unit :=
  match part.index.head?, part.index.getLast? with
  | some first, some last => do
      raiseIf (part.index.length ≠ part.rowCount)
        (windowError s!"{name} partition row_count does not match data length")
      raiseIf (part.startLabel ≠ boundaryLabel library aligned first)
        (windowError s!"{name} partition start does not match data")
      raiseIf (part.endLabel ≠ boundaryLabel library aligned last)
        (windowError s!"{name} partition end does not match data")
  | _, _ => .ok ()

def requirePartition (name : String) (part : DataPartition) (aligned : Bool) :
    Except WindowError Unit := do
  raiseIf (isBlank part.name) (windowError s!"{name} partition identity is missing")
  raiseIf (isBlank part.startLabel) (windowError s!"{name} partition start is missing")
  raiseIf (isBlank part.endLabel) (windowError s!"{name} partition end is missing")
  raiseIf (part.rowCount < 1) (windowError "partition row_count must be a positive integer")
  let backwards ← (partitionBounds part).2.lt (partitionBounds part).1
  raiseIf backwards (windowError s!"{name} partition is not chronological")
  requireLabels library name part aligned

/-- `index.get_indexer([bound])[0]`. -/
def indexerPosition (index : List Int) : Bound → Int
  | .bar time => if time ∈ index then index.idxOf time else -1
  | .label _ => -1

def previousStartBefore (previous : Option Bound) (trainStart : Bound) :
    Except WindowError Bool :=
  match previous with
  | none => .error mixedBounds
  | some previous => previous.lt trainStart

def trainAdvanced (rules : WalkForwardWindowRules) (previousTrainStart : Option Bound)
    (previousTrainIndex : List Int) (trainStart : Bound) (grid : Option SessionGrid) :
    Except WindowError Bool :=
  match grid with
  | some grid => do
      let moved := indexerPosition previousTrainIndex trainStart - rules.stepSize
      let later ← previousStartBefore previousTrainStart trainStart
      .ok (later && decide (moved.natAbs < 4 * grid.maxSessionRows))
  | none => .ok (previousTrainIndex[rules.stepSize]?.any fun expectedStart =>
      trainStart = .bar expectedStart)

def checkStep (rules : WalkForwardWindowRules) (foldId : String) (state : WindowState)
    (trainStart : Bound) (grid : Option SessionGrid) : Except WindowError Unit :=
  match state.previousTrainIndex with
  | none => .ok ()
  | some previousTrainIndex =>
      if rules.stepSize < previousTrainIndex.length then do
        let advanced ← trainAdvanced rules state.previousTrainStart previousTrainIndex trainStart
          grid
        raiseIf (!advanced)
          (windowError s!"{foldId}: rolling train window advanced by a different step")
      else .ok ()

def checkTrain (rules : WalkForwardWindowRules) (foldId : String) (state : WindowState)
    (trainStart : Bound) (trainSize : Nat) (grid : Option SessionGrid) :
    Except WindowError Unit :=
  match rules.trainingMode with
  | .rolling => do
      raiseIf (!sizeWithin trainSize rules.trainingWindowSize grid false)
        (windowError s!"{foldId}: rolling train window has {trainSize} rows; expected {rules.trainingWindowSize}")
      checkStep rules foldId state trainStart grid
  | .expanding => do
      raiseIf (!sizeWithin trainSize state.expectedTrainSize grid true)
        (windowError s!"{foldId}: expanding train window has {trainSize} rows; expected {state.expectedTrainSize}")
      raiseIf (state.previousTrainStart.any (· ≠ trainStart))
        (windowError s!"{foldId}: expanding train window start changed")

def checkSelection (rules : WalkForwardWindowRules) (foldId : String) (window : WalkForwardWindow)
    (grid : Option SessionGrid) : Except WindowError Unit :=
  let trainEnd := (partitionBounds window.train).2
  let testStart := (partitionBounds window.test).1
  match rules.selectionWindowSize with
  | none => do
      raiseIf window.selection.isSome (windowError s!"{foldId}: selection window is not declared")
      let apart ← trainEnd.lt testStart
      raiseIf (!apart) (windowError s!"{foldId}: test overlaps train period")
      requireSessionBoundary library foldId trainEnd testStart grid
  | some declared => do
      let selection ← orRaise window.selection
        (windowError s!"{foldId}:selection partition is missing")
      requirePartition library s!"{foldId}:selection" selection grid.isSome
      let bounds := partitionBounds selection
      raiseIf (!sizeWithin selection.rowCount declared grid false)
        (windowError s!"{foldId}: selection window has {selection.rowCount} rows; expected {declared}")
      let afterTrain ← trainEnd.lt bounds.1
      raiseIf (!afterTrain) (windowError s!"{foldId}: selection overlaps train period")
      let beforeTest ← bounds.2.lt testStart
      raiseIf (!beforeTest) (windowError s!"{foldId}: test overlaps selection period")
      requireSessionBoundary library foldId trainEnd bounds.1 grid
      requireSessionBoundary library foldId bounds.2 testStart grid

def isShortFinal (rules : WalkForwardWindowRules) (isLast : Bool) (testSize : Nat) : Bool :=
  isLast && rules.incompleteFinalWindow = .included &&
    decide (rules.minimumRowsPerWindow ≤ testSize) && decide (testSize < rules.testWindowSize)

def overlapsPrior (previousTestEnd : Option Bound) (testStart : Bound) :
    Except WindowError Bool :=
  match previousTestEnd with
  | none => .ok false
  | some previous => (previous.lt testStart).map fun before => !before

def lockMissing {F : Type} (fold : WalkForwardFoldResult F) : Bool :=
  fold.status = .successful && fold.selectedParameters.isSome &&
    fold.parameterLockId.all isBlank

def validateFold {F : Type} (rules : WalkForwardWindowRules) (isLast : Bool) (state : WindowState)
    (fold : WalkForwardFoldResult F) : Except WindowError WindowState := do
  let foldId := fold.foldId
  let window := fold.window
  let trainBounds := partitionBounds window.train
  let testBounds := partitionBounds window.test
  raiseIf (isBlank foldId) (windowError "walk-forward fold identity is missing")
  raiseIf (window.foldId ≠ foldId)
    (windowError s!"{foldId}: window fold identity does not match fold")
  let grid ← gridForWindow library window trainBounds.1 testBounds.2
  requirePartition library s!"{foldId}:train" window.train grid.isSome
  requirePartition library s!"{foldId}:test" window.test grid.isSome
  checkTrain rules foldId state trainBounds.1 window.train.rowCount grid
  checkSelection library rules foldId window grid
  raiseIf (!sizeWithin window.test.rowCount rules.testWindowSize grid false &&
      !isShortFinal rules isLast window.test.rowCount)
    (windowError s!"{foldId}: test window has {window.test.rowCount} rows; expected {rules.testWindowSize}")
  let overlaps ← overlapsPrior state.previousTestEnd testBounds.1
  raiseIf overlaps (windowError s!"{foldId}: test window overlaps a prior test window")
  raiseIf (lockMissing fold)
    (windowError s!"{foldId}: successful fold with selected parameters lacks a parameter lock")
  .ok {
    previousTestEnd := some testBounds.2
    previousTrainStart := state.previousTrainStart <|> some trainBounds.1
    previousTrainIndex := if window.train.index.isEmpty then none else some window.train.index
    expectedTrainSize := match rules.trainingMode with
      | .rolling => state.expectedTrainSize
      | .expanding => state.expectedTrainSize + rules.stepSize }

def validateFolds {F : Type} (rules : WalkForwardWindowRules) :
    WindowState → List (WalkForwardFoldResult F) → Except WindowError Unit
  | _, [] => .ok ()
  | state, fold :: rest => do
      let next ← validateFold library rules rest.isEmpty state fold
      validateFolds rules next rest

def initialState (rules : WalkForwardWindowRules) : WindowState where
  previousTestEnd := none
  previousTrainStart := none
  previousTrainIndex := none
  expectedTrainSize := rules.trainingWindowSize

def validateWalkForwardWindows {F : Type} (rules : WalkForwardWindowRules)
    (folds : List (WalkForwardFoldResult F)) : Except WindowError Unit :=
  validateFolds library rules (initialState rules) folds

end Checks

end QuantFactory.WalkForward
