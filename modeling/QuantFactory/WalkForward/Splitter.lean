import QuantFactory.WalkForward.Sessions

/-!
# Window construction

`backtesting/walk_forward/splitter.py`.  `foldCuts` computes the four cuts of
one pass of the loop, or ends it; `windowLoop` turns them into partitions and
moves the cursor on.
-/

set_option autoImplicit false

namespace QuantFactory.WalkForward

open QuantFactory.Library

/-- `data.iloc[first:last]`, on the index. -/
def rows (index : List Int) (first last : Nat) : List Int := (index.take last).drop first

def partition (label : Int → String) (name : String) (index : List Int) :
    Except WindowError DataPartition :=
  match index.head?, index.getLast? with
  | some first, some last => .ok {
      name := name
      index := index
      startLabel := label first
      endLabel := label last
      rowCount := index.length }
  | _, _ => .error ⟨.indexError, "index 0 is out of bounds for axis 0 with size 0"⟩

structure FoldCuts where
  trainStart : Nat
  cursor : Nat
  selectionEnd : Nat
  testEnd : Nat
  deriving DecidableEq, Repr

def trainStartAt (config : WalkForwardConfig) (dates : List Int) (cursor : Nat) : Nat :=
  match config.trainingMode with
  | .expanding => 0
  | .rolling => sessionFloor dates (cursor - config.trainingWindowSize)

/-- The test end for a test that has to start at `selectionEnd`, unless the loop breaks. -/
def testEndAt (config : WalkForwardConfig) (dates : List Int) (selectionEnd : Nat) : Option Nat :=
  let requestedTestEnd := selectionEnd + config.testWindowSize
  if requestedTestEnd > dates.length then
    match config.incompleteFinalWindow with
    | .drop => none
    | .included =>
        if dates.length - selectionEnd < config.minimumRowsPerWindow then none
        else some dates.length
  else some (dayStart dates requestedTestEnd)

def foldCuts (config : WalkForwardConfig) (dates : List Int) (rawCursor : Nat) :
    Option FoldCuts :=
  let cursor := dayStart dates rawCursor
  if cursor + config.selectionSize < dates.length then
    let selectionEnd := dayStart dates (cursor + config.selectionSize)
    (testEndAt config dates selectionEnd).map fun testEnd =>
      { trainStart := trainStartAt config dates cursor, cursor, selectionEnd, testEnd }
  else none

/-- One step on, and never so early that the next test overlaps this one. -/
def nextCursor (config : WalkForwardConfig) (cuts : FoldCuts) : Nat :=
  max (cuts.cursor + config.stepSize) (cuts.testEnd - config.selectionSize)

/-- `f"fold_{number:03d}"`. -/
def foldId (number : Nat) : String :=
  "fold_" ++ "".pushn '0' (3 - (toString number).length) ++ toString number

def selectionPartition (config : WalkForwardConfig) (label : Int → String) (name : String)
    (index : List Int) : Except WindowError (Option DataPartition) :=
  if config.selectionSize = 0 then .ok none else (partition label name index).map some

def inOrder (train : DataPartition) (selection : Option DataPartition) (test : DataPartition) :
    Bool :=
  match selection with
  | some selection =>
      train.endLabel < selection.startLabel && selection.startLabel < test.startLabel
  | none => train.endLabel < test.startLabel

def overlapError (foldId : String) : WindowError :=
  windowError s!"{foldId} partitions overlap or are out of order"

def foldWindow (config : WalkForwardConfig) (label : Int → String)
    (alignment : Option SessionAlignment) (index : List Int) (number : Nat) (cuts : FoldCuts) :
    Except WindowError WalkForwardWindow := do
  let id := foldId number
  let train ← partition label (id ++ ":train") (rows index cuts.trainStart cuts.cursor)
  let selection ← selectionPartition config label (id ++ ":selection")
    (rows index cuts.cursor cuts.selectionEnd)
  let test ← partition label (id ++ ":test") (rows index cuts.selectionEnd cuts.testEnd)
  raiseIf (!inOrder train selection test) (overlapError id)
  .ok { foldId := id, train, selection, test, sessionAlignment := alignment }

theorem foldCuts_eq_some {config : WalkForwardConfig} {dates : List Int} {rawCursor : Nat}
    {cuts : FoldCuts} (found : foldCuts config dates rawCursor = some cuts) :
    cuts.cursor = dayStart dates rawCursor ∧
      cuts.cursor + config.selectionSize < dates.length ∧
      cuts.selectionEnd = dayStart dates (cuts.cursor + config.selectionSize) ∧
      cuts.trainStart = trainStartAt config dates cuts.cursor ∧
      testEndAt config dates cuts.selectionEnd = some cuts.testEnd := by
  simp only [foldCuts] at found
  split at found
  · rename_i room
    obtain ⟨testEnd, ended, rfl⟩ := Option.map_eq_some_iff.mp found
    exact ⟨rfl, room, rfl, rfl, ended⟩
  · cases found

section Loop
variable (config : WalkForwardConfig) (label : Int → String)
  (alignment : Option SessionAlignment) (index : List Int) (sessions : SessionAssignment index)

theorem foldCuts_progress {rawCursor : Nat} {cuts : FoldCuts}
    (found : foldCuts config sessions.dates rawCursor = some cuts) :
    rawCursor < sessions.dates.length ∧ rawCursor < nextCursor config cuts := by
  obtain ⟨cursor, room, _, _, _⟩ := foldCuts_eq_some found
  have moved := le_dayStart sessions.monotone rawCursor
  have step := config.bounds.2.2.1
  have stepped : cuts.cursor + config.stepSize ≤ nextCursor config cuts := Nat.le_max_left _ _
  exact ⟨by omega, by omega⟩

def windowLoop (rawCursor number : Nat) : Except WindowError (List WalkForwardWindow) :=
  match found : foldCuts config sessions.dates rawCursor with
  | none => .ok []
  | some cuts => do
      let window ← foldWindow config label alignment index number cuts
      let windows ← windowLoop (nextCursor config cuts) (number + 1)
      .ok (window :: windows)
  termination_by sessions.dates.length - rawCursor
  decreasing_by
    have progress := foldCuts_progress config index sessions found
    omega

def buildWalkForwardWindows : Except WindowError (List WalkForwardWindow) := do
  raiseIf index.isEmpty (windowError "cannot build walk-forward windows from empty data")
  raiseIf (!decide (index.Pairwise (· ≤ ·)))
    (windowError "market data must be sorted in increasing time order")
  raiseIf (!decide index.Nodup) (windowError "market data index must be unique")
  windowLoop config label alignment index sessions config.trainingWindowSize 1

end Loop

end QuantFactory.WalkForward
