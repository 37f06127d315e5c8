import QuantFactory.Library.Outcome

/-!
# Walk-forward models

`backtesting/walk_forward/models.py` and the partitions of
`backtesting/out_of_sample/models.py`.  A bar is known by its timestamp, in
nanoseconds; the prices play no part in the windows.
-/

set_option autoImplicit false

namespace QuantFactory.WalkForward

open QuantFactory.Library

inductive TrainingMode where
  | rolling | expanding
  deriving DecidableEq, Repr

inductive IncompleteWindowPolicy where
  | drop | included
  deriving DecidableEq, Repr

structure WalkForwardSettings where
  trainingWindowSize : Nat
  selectionWindowSize : Option Nat
  testWindowSize : Nat
  stepSize : Nat
  trainingMode : TrainingMode
  minimumRowsPerWindow : Nat
  shortlistSize : Nat
  incompleteFinalWindow : IncompleteWindowPolicy
  deriving DecidableEq, Repr

def requirePositive (name : String) (value : Nat) : Except String Unit :=
  raiseIf (value < 1) s!"{name} must be positive"

def postInit (settings : WalkForwardSettings) : Except String Unit := do
  requirePositive "training_window_size" settings.trainingWindowSize
  requirePositive "test_window_size" settings.testWindowSize
  requirePositive "step_size" settings.stepSize
  requirePositive "minimum_rows_per_window" settings.minimumRowsPerWindow
  requirePositive "shortlist_size" settings.shortlistSize
  requirePositive "selection_window_size" (settings.selectionWindowSize.getD 1)
  raiseIf (settings.trainingWindowSize < settings.minimumRowsPerWindow)
    "training_window_size is below the minimum"
  raiseIf (settings.testWindowSize < settings.minimumRowsPerWindow)
    "test_window_size is below the minimum"
  raiseIf (settings.selectionWindowSize.any (· < settings.minimumRowsPerWindow))
    "selection_window_size is below the minimum"
  raiseIf (settings.stepSize < settings.testWindowSize)
    "step_size must be at least test_window_size to avoid overlapping tests"

/-- Settings that passed `__post_init__`. -/
structure WalkForwardConfig extends WalkForwardSettings where
  checked : postInit toWalkForwardSettings = .ok ()

/-- `config.selection_window_size or 0`. -/
def WalkForwardConfig.selectionSize (config : WalkForwardConfig) : Nat :=
  config.selectionWindowSize.getD 0

structure DataPartition where
  name : String
  index : List Int
  startLabel : String
  endLabel : String
  rowCount : Nat
  deriving DecidableEq, Repr

structure SessionAlignment where
  exchangeCalendar : String
  interval : String
  deriving DecidableEq, Repr

structure WalkForwardWindow where
  foldId : String
  train : DataPartition
  selection : Option DataPartition
  test : DataPartition
  sessionAlignment : Option SessionAlignment
  deriving DecidableEq, Repr

inductive WindowErrorKind where
  | valueError | indexError | typeError | keyError | attributeError | assertionError
  | runtimeError | zeroDivision
  deriving DecidableEq, Repr

structure WindowError where
  kind : WindowErrorKind
  message : String
  deriving DecidableEq, Repr

def windowError (message : String) : WindowError := ⟨.valueError, message⟩

namespace WalkForwardConfig
variable (config : WalkForwardConfig)

theorem bounds : 1 ≤ config.trainingWindowSize ∧ 1 ≤ config.testWindowSize ∧
    1 ≤ config.stepSize ∧ 1 ≤ config.minimumRowsPerWindow ∧
    config.minimumRowsPerWindow ≤ config.testWindowSize ∧
    config.testWindowSize ≤ config.stepSize := by
  have checked := config.checked
  simp only [postInit, requirePositive, bind_eq_ok, raiseIf_eq_ok, decide_eq_false_iff_not,
    Nat.not_lt] at checked
  obtain ⟨_, train, _, test, _, step, _, minimum, _, _, _, _, _, _, _, enough, _, _, separate⟩ :=
    checked
  exact ⟨train, test, step, minimum, enough, separate⟩

theorem selection_positive {size : Nat} (declared : config.selectionWindowSize = some size) :
    1 ≤ size := by
  have checked := config.checked
  simp only [postInit, requirePositive, bind_eq_ok, raiseIf_eq_ok, decide_eq_false_iff_not,
    Nat.not_lt] at checked
  obtain ⟨_, _, _, _, _, _, _, _, _, _, _, positive, _⟩ := checked
  simpa [declared] using positive

end WalkForwardConfig

end QuantFactory.WalkForward
