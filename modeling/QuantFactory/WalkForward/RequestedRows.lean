import Mathlib
import QuantFactory.WalkForward.Acceptance

/-!
# When the live validator accepts

A cut requested inside a session moves to the end of that session, or to its
start for a rolling train window: by the rows of the session that are left
(`rowsLeft`), or that lie before (`rowsInto`).  `SessionsAllow` states on the
configuration, the sessions and the calendar how far the cuts may move.
-/

set_option autoImplicit false

namespace QuantFactory.WalkForward

open QuantFactory.Library QuantFactory.Python

/-! ## The rows of a session around a cut -/

/-- The rows from `row` on that belong to the session of the row before it. -/
def rowsLeft (dates : List Int) (row : Nat) : Nat :=
  ((dates.take row).getLast?).elim 0 fun date => (dates.drop row).count date

/-- The rows before `row` that belong to its session. -/
def rowsInto (dates : List Int) (row : Nat) : Nat :=
  (dates[row]?).elim 0 fun date => (dates.take row).count date

section Sorted
variable {dates : List Int} (sorted : dates.Pairwise (· ≤ ·)) (row : Nat)

include sorted

theorem dayStart_eq : dayStart dates row = row + rowsLeft dates row := by
  unfold dayStart rowsLeft
  split
  · rename_i inside
    have last : (dates.take row).getLast? = some (getElem dates (row - 1) (by omega)) := by
      rw [List.getLast?_eq_getElem?, List.length_take, Nat.min_eq_left inside.2.le,
        List.getElem?_take_of_lt (by omega), List.getElem?_eq_getElem (by omega)]
    have next : row - 1 + 1 = row := by omega
    rw [last, searchSortedRight_getElem sorted (by omega), next]
    rfl
  · rename_i outside
    obtain rfl | beyond : row = 0 ∨ dates.length ≤ row := by omega
    · rfl
    · rw [List.drop_eq_nil_of_le beyond]
      cases (dates.take row).getLast? <;> rfl

theorem sessionFloor_eq : sessionFloor dates row = row - rowsInto dates row := by
  unfold sessionFloor rowsInto
  split
  · rename_i inside
    have whole := searchSortedLeft_getElem_add sorted inside
    rw [List.getElem?_eq_getElem inside]
    simp only [Option.elim_some]
    omega
  · rename_i outside
    rw [List.getElem?_eq_none (by omega)]
    rfl

variable (dates) in
omit sorted in
theorem rowsInto_le : rowsInto dates row ≤ row := by
  unfold rowsInto
  cases dates[row]? with
  | none => exact Nat.zero_le _
  | some date => exact List.count_le_length.trans (List.length_take_le _ _)

end Sorted

/-! ## The rows a configuration requests -/

section Requests
variable (config : WalkForwardConfig) (dates : List Int)

/-- The first row of a session from `row` on. -/
def cursorAt (row : Nat) : Nat := row + rowsLeft dates row

/-- The rows left of the session in which the selection was requested to end. -/
def selectionRest (row : Nat) : Nat := rowsLeft dates (cursorAt dates row + config.selectionSize)

def testRow (row : Nat) : Nat :=
  cursorAt dates row + config.selectionSize + selectionRest config dates row

def TestFits (row : Nat) : Prop := testRow config dates row + config.testWindowSize ≤ dates.length

instance (row : Nat) : Decidable (TestFits config dates row) := inferInstanceAs (Decidable (_ ≤ _))

/-- The rows left of the session in which the test was requested to end. -/
def testRest (row : Nat) : Nat :=
  rowsLeft dates (testRow config dates row + config.testWindowSize)

/-- The rows of its session before the row at which a rolling train was requested to start. -/
def trainRest (row : Nat) : Nat :=
  rowsInto dates (cursorAt dates row - config.trainingWindowSize)

def trainRow (row : Nat) : Nat :=
  match config.trainingMode with
  | .expanding => 0
  | .rolling => cursorAt dates row - config.trainingWindowSize - trainRest config dates row

def cutsAt (row : Nat) : FoldCuts where
  trainStart := trainRow config dates row
  cursor := cursorAt dates row
  selectionEnd := testRow config dates row
  testEnd :=
    if TestFits config dates row then
      testRow config dates row + config.testWindowSize + testRest config dates row
    else dates.length

/-- The data leave room for a window whose cursor is requested at `row`. -/
structure HasRoom (row : Nat) : Prop where
  selection : cursorAt dates row + config.selectionSize < dates.length
  test : TestFits config dates row ∨ config.incompleteFinalWindow = .included ∧
    config.minimumRowsPerWindow ≤ dates.length - testRow config dates row

/-- Where the next cursor is requested: a step on, and past the test when its cuts
moved further than that. -/
def nextRow (row : Nat) : Nat :=
  cursorAt dates row + max config.stepSize
    (selectionRest config dates row + config.testWindowSize + testRest config dates row)

def NextRequest (row next : Nat) : Prop :=
  HasRoom config dates row ∧ TestFits config dates row ∧ next = nextRow config dates row

/-- The rows from `start` on at which a cursor is requested. -/
def RequestedFrom (start row : Nat) : Prop :=
  Relation.ReflTransGen (NextRequest config dates) start row

end Requests

section Cuts
variable {config : WalkForwardConfig} {dates : List Int} (sorted : dates.Pairwise (· ≤ ·))
  {row : Nat}

include sorted

theorem trainStartAt_eq :
    trainStartAt config dates (cursorAt dates row) = trainRow config dates row := by
  unfold trainStartAt trainRow trainRest
  cases config.trainingMode with
  | expanding => rfl
  | rolling => exact sessionFloor_eq sorted _

theorem foldCuts_eq_some_iff {cuts : FoldCuts} :
    foldCuts config dates row = some cuts ↔
      HasRoom config dates row ∧ cuts = cutsAt config dates row := by
  have cursor : dayStart dates row = cursorAt dates row := dayStart_eq sorted row
  have selection : dayStart dates (cursorAt dates row + config.selectionSize) =
      testRow config dates row := dayStart_eq sorted _
  have ended : ∀ testEnd, testEndAt config dates (testRow config dates row) = some testEnd ↔
      (TestFits config dates row ∨ config.incompleteFinalWindow = .included ∧
        config.minimumRowsPerWindow ≤ dates.length - testRow config dates row) ∧
      testEnd = (cutsAt config dates row).testEnd := by
    intro testEnd
    by_cases fits : TestFits config dates row
    · have within : ¬ testRow config dates row + config.testWindowSize > dates.length :=
        Nat.not_lt.mpr fits
      simp only [testEndAt, within, if_false, Option.some.injEq, dayStart_eq sorted, fits, true_or,
        true_and, cutsAt, if_true, testRest, eq_comm]
    · have beyond : testRow config dates row + config.testWindowSize > dates.length :=
        Nat.lt_of_not_le fits
      cases policy : config.incompleteFinalWindow with
      | drop => simp [testEndAt, beyond, policy, fits]
      | included =>
          by_cases enough : config.minimumRowsPerWindow ≤
              dates.length - testRow config dates row
          · simp [testEndAt, beyond, policy, fits, enough, Nat.not_lt.mpr enough, cutsAt, eq_comm]
          · simp [testEndAt, beyond, policy, fits, enough, Nat.lt_of_not_le enough]
  simp only [foldCuts, cursor, selection]
  split
  · rename_i room
    simp only [Option.map_eq_some_iff, ended, trainStartAt_eq sorted]
    constructor
    · rintro ⟨_, ⟨test, rfl⟩, rfl⟩
      exact ⟨⟨room, test⟩, rfl⟩
    · rintro ⟨hasRoom, rfl⟩
      exact ⟨_, ⟨hasRoom.test, rfl⟩, rfl⟩
  · rename_i full
    simp only [reduceCtorEq, false_iff, not_and]
    exact fun hasRoom => absurd hasRoom.selection full

omit sorted in
theorem nextCursor_cutsAt (fits : TestFits config dates row) :
    nextCursor config (cutsAt config dates row) = nextRow config dates row := by
  simp only [nextCursor, cutsAt, fits, if_true, nextRow, testRow]
  omega

end Cuts

/-! ## How far the cuts may move -/

section Conditions
variable (config : WalkForwardConfig) (dates : List Int)

def drift (row : Nat) : Nat :=
  (selectionRest config dates row + config.testWindowSize + testRest config dates row -
    config.stepSize) + rowsLeft dates (nextRow config dates row)

/-- The cuts of a window move over less than one session of its grid, and not at
all on unaligned data. -/
structure SizesKept (grid : Option SessionGrid) (row : Nat) : Prop where
  train : config.trainingMode = .rolling → trainRest config dates row < tolerance grid
  expanding : config.trainingMode = .expanding → grid = none → rowsLeft dates row = 0
  selection : config.selectionWindowSize ≠ none → selectionRest config dates row < tolerance grid
  test : TestFits config dates row → testRest config dates row < tolerance grid

/-- A rolling train window longer than the step is followed by one that starts
after the first window did and, where it still starts inside, drifts less than
four sessions; where it starts past it, the step itself has to be that short. -/
def StepKept (grid : Option SessionGrid) (row : Nat) : Prop :=
  config.trainingMode = .rolling →
    config.stepSize < config.trainingWindowSize + trainRest config dates row →
      match grid with
      | none => drift config dates row = 0
      | some grid =>
          trainRow config dates config.trainingWindowSize <
              trainRow config dates (nextRow config dates row) ∧
            if config.stepSize + drift config dates row <
                config.trainingWindowSize + trainRest config dates (nextRow config dates row) then
              drift config dates row + trainRest config dates row <
                trainRest config dates (nextRow config dates row) + 4 * grid.maxSessionRows
            else config.stepSize + 1 < 4 * grid.maxSessionRows

/-- The windows requested from `start` on keep their sizes and steps. -/
structure AllowedFrom (gridAt : Nat → Option SessionGrid) (start : Nat) : Prop where
  sizes : ∀ row, RequestedFrom config dates start row → HasRoom config dates row →
    SizesKept config dates (gridAt row) row
  steps : ∀ row, RequestedFrom config dates start row → HasRoom config dates row →
    TestFits config dates row → HasRoom config dates (nextRow config dates row) →
      StepKept config dates (gridAt (nextRow config dates row)) row

variable {config dates}

theorem allowedFrom_iff {gridAt : Nat → Option SessionGrid} {start : Nat} :
    AllowedFrom config dates gridAt start ↔ (HasRoom config dates start →
      SizesKept config dates (gridAt start) start ∧ (TestFits config dates start →
        (HasRoom config dates (nextRow config dates start) →
          StepKept config dates (gridAt (nextRow config dates start)) start) ∧
        AllowedFrom config dates gridAt (nextRow config dates start))) := by
  constructor
  · intro allowed room
    refine ⟨allowed.sizes start .refl room, fun fits => ⟨allowed.steps start .refl room fits, ?_⟩⟩
    have step : NextRequest config dates start (nextRow config dates start) := ⟨room, fits, rfl⟩
    exact ⟨fun row requested => allowed.sizes row (.head step requested),
      fun row requested => allowed.steps row (.head step requested)⟩
  · intro first
    constructor
    · intro row requested room
      rcases requested.cases_head with rfl | ⟨next, ⟨startRoom, fits, rfl⟩, later⟩
      · exact (first room).1
      · exact ((first startRoom).2 fits).2.sizes row later room
    · intro row requested room rowFits
      rcases requested.cases_head with rfl | ⟨next, ⟨startRoom, fits, rfl⟩, later⟩
      · exact ((first room).2 rowFits).1
      · exact ((first startRoom).2 fits).2.steps row later room rowFits

end Conditions

section Cuts
variable {config : WalkForwardConfig} {dates : List Int} {row : Nat}

variable (dates) in
theorem trainRow_add (rolling : config.trainingMode = .rolling)
    (enough : config.trainingWindowSize ≤ row) :
    trainRow config dates row + config.trainingWindowSize + trainRest config dates row =
      cursorAt dates row := by
  have into := rowsInto_le dates (cursorAt dates row - config.trainingWindowSize)
  have forward : row ≤ cursorAt dates row := Nat.le_add_right _ _
  simp only [trainRow, rolling, trainRest]
  omega

variable (config dates row) in
theorem cursorAt_next : cursorAt dates (nextRow config dates row) =
    cursorAt dates row + config.stepSize + drift config dates row := by
  simp only [drift]
  unfold cursorAt
  simp only [nextRow, cursorAt]
  omega

theorem sizesWithin_cutsAt {grid : Option SessionGrid} {expectedTrainSize : Nat}
    (enough : config.trainingWindowSize ≤ row)
    (expected : config.trainingMode = .expanding → grid = none → expectedTrainSize = row) :
    SizesWithin config grid expectedTrainSize (cutsAt config dates row) ↔
      SizesKept config dates grid row := by
  have train (rolling : config.trainingMode = .rolling) :
      cursorAt dates row - trainRow config dates row <
          config.trainingWindowSize + tolerance grid ↔
        trainRest config dates row < tolerance grid := by
    have whole := trainRow_add dates rolling enough
    omega
  have cursor (expanding : config.trainingMode = .expanding) (unaligned : grid = none) :
      cursorAt dates row = expectedTrainSize ↔ rowsLeft dates row = 0 := by
    rw [expected expanding unaligned, cursorAt]
    omega
  have selection {size : Nat} (declared : config.selectionWindowSize = some size) :
      testRow config dates row - cursorAt dates row < size + tolerance grid ↔
        selectionRest config dates row < tolerance grid := by
    simp only [testRow, WalkForwardConfig.selectionSize, declared, Option.getD_some]
    omega
  have test : (cutsAt config dates row).testEnd - testRow config dates row <
      config.testWindowSize + tolerance grid ↔
        (TestFits config dates row → testRest config dates row < tolerance grid) := by
    by_cases fits : TestFits config dates row
    · simp only [cutsAt, fits, if_true, true_implies]
      omega
    · have short : dates.length < testRow config dates row + config.testWindowSize :=
        Nat.lt_of_not_le fits
      have positive := config.bounds.2.1
      simp only [cutsAt, fits, if_false, false_implies, iff_true]
      omega
  constructor
  · rintro ⟨rollingSize, expandingSize, selectionSize, testSize⟩
    refine ⟨fun rolling => (train rolling).mp (rollingSize rolling),
      fun expanding unaligned => (cursor expanding unaligned).mp (expandingSize expanding unaligned),
      fun present => ?_, test.mp testSize⟩
    obtain ⟨size, declared⟩ := Option.ne_none_iff_exists'.mp present
    exact (selection declared).mp (selectionSize size declared)
  · rintro ⟨rollingRest, expandingRest, rest, testRests⟩
    exact ⟨fun rolling => (train rolling).mpr (rollingRest rolling),
      fun expanding unaligned => (cursor expanding unaligned).mpr
        (expandingRest expanding unaligned),
      fun size declared => (selection declared).mpr (rest (by simp [declared])),
      test.mpr testRests⟩

theorem stepWithin_cutsAt {previousGrid grid : Option SessionGrid}
    (sameKind : grid = none → previousGrid = none) (enough : config.trainingWindowSize ≤ row)
    (sizes : SizesKept config dates previousGrid row)
    (nextSizes : SizesKept config dates grid (nextRow config dates row)) :
    StepWithin config grid (trainRow config dates config.trainingWindowSize)
        (cutsAt config dates row) (cutsAt config dates (nextRow config dates row)) ↔
      StepKept config dates grid row := by
  have advanced := cursorAt_next config dates row
  have forward : row ≤ cursorAt dates row := Nat.le_add_right _ _
  have further : cursorAt dates row ≤ nextRow config dates row := Nat.le_add_right _ _
  unfold StepWithin StepKept
  refine forall_congr' fun rolling => ?_
  have previous := trainRow_add dates rolling enough
  have enoughNext : config.trainingWindowSize ≤ nextRow config dates row := by omega
  have next := trainRow_add dates rolling enoughNext
  have rest := sizes.train rolling
  have nextRest := nextSizes.train rolling
  have length : (cutsAt config dates row).cursor - (cutsAt config dates row).trainStart =
      config.trainingWindowSize + trainRest config dates row := by
    change cursorAt dates row - trainRow config dates row = _
    omega
  rw [length]
  refine forall_congr' fun short => ?_
  cases grid with
  | none =>
      rw [sameKind rfl] at rest
      simp only [tolerance, cutsAt] at rest nextRest ⊢
      omega
  | some grid =>
      simp only [tolerance, cutsAt] at nextRest ⊢
      refine and_congr_right fun _ => ?_
      have inside : trainRow config dates (nextRow config dates row) < cursorAt dates row ↔
          config.stepSize + drift config dates row < config.trainingWindowSize +
            trainRest config dates (nextRow config dates row) := by omega
      simp only [inside]
      split
      · omega
      · rfl

end Cuts

/-! ## All windows -/

section Acceptance
variable {config : WalkForwardConfig} {dates : List Int} (sorted : dates.Pairwise (· ≤ ·))
  {row : Nat}

include sorted

/-- Without a tolerance the test ends where it was requested to, so nothing pushes
the next cursor past the step. -/
theorem nextRow_unaligned (sizes : SizesKept config dates none row)
    (room : HasRoom config dates row) (fits : TestFits config dates row) :
    nextRow config dates row = cursorAt dates row + config.stepSize := by
  have separate := config.bounds.2.2.2.2.2
  have test := sizes.test fits
  have selection : selectionRest config dates row = 0 := by
    by_cases declared : config.selectionWindowSize = none
    · have cursor : dayStart dates row = cursorAt dates row := dayStart_eq sorted row
      have forward : row ≤ cursorAt dates row := Nat.le_add_right _ _
      have inside := room.selection
      have still := dayStart_of_isCut sorted (dayStart_isCut sorted row (by omega))
      rw [cursor, dayStart_eq sorted] at still
      simp only [selectionRest, WalkForwardConfig.selectionSize, declared, Option.getD_none,
        Nat.add_zero]
      omega
    · have rest := sizes.selection declared
      simp only [tolerance] at rest
      omega
  simp only [tolerance] at test
  simp only [nextRow]
  omega

/-- The window before the one requested at a row kept its sizes. -/
inductive Leads (config : WalkForwardConfig) (dates : List Int)
    (gridOf : FoldCuts → Option SessionGrid) : Option Nat → Nat → Prop where
  | first : Leads config dates gridOf none config.trainingWindowSize
  | later {earlier : Nat} (enough : config.trainingWindowSize ≤ earlier)
      (room : HasRoom config dates earlier)
      (sizes : SizesKept config dates (gridOf (cutsAt config dates earlier)) earlier) :
      Leads config dates gridOf (some earlier) (nextRow config dates earlier)

variable (config dates) in
def foldsBefore (earlier : Option Nat) : Option FoldsBefore :=
  earlier.map fun row =>
    ⟨trainRow config dates config.trainingWindowSize, cutsAt config dates row⟩

section Run
variable {gridOf : FoldCuts → Option SessionGrid} {unaligned : Prop}
  (sameKind : ∀ row, config.trainingWindowSize ≤ row → HasRoom config dates row →
    (gridOf (cutsAt config dates row) = none ↔ unaligned))

include sameKind

omit sorted in
theorem Leads.steps_iff {earlier : Option Nat} (leads : Leads config dates gridOf earlier row)
    (enough : config.trainingWindowSize ≤ row) (room : HasRoom config dates row)
    (sizes : SizesKept config dates (gridOf (cutsAt config dates row)) row) :
    (∀ folds, foldsBefore config dates earlier = some folds →
        StepWithin config (gridOf (cutsAt config dates row)) folds.firstStart folds.previous
          (cutsAt config dates row)) ↔
      ∀ before, earlier = some before →
        StepKept config dates (gridOf (cutsAt config dates row)) before := by
  cases leads with
  | first => simp [foldsBefore]
  | @later earlier earlierEnough earlierRoom earlierSizes =>
      have kind : gridOf (cutsAt config dates (nextRow config dates earlier)) = none →
          gridOf (cutsAt config dates earlier) = none := fun none =>
        (sameKind _ earlierEnough earlierRoom).mpr ((sameKind _ enough room).mp none)
      simp only [foldsBefore, Option.map_some, Option.some.injEq, forall_eq']
      exact stepWithin_cutsAt kind earlierEnough earlierSizes sizes

/-- Along the builder's loop, the validator's two checks are the conditions on the sessions. -/
theorem cutsAccepted_iff {cutsList : List FoldCuts} (passes : CutRun config dates row cutsList)
    (enough : config.trainingWindowSize ≤ row) {earlier : Option Nat}
    (leads : Leads config dates gridOf earlier row) {expectedTrainSize : Nat}
    (expected : config.trainingMode = .expanding → unaligned → expectedTrainSize = row) :
    CutsAccepted config gridOf (foldsBefore config dates earlier) expectedTrainSize cutsList ↔
      (∀ before, earlier = some before → HasRoom config dates row →
        StepKept config dates (gridOf (cutsAt config dates row)) before) ∧
      AllowedFrom config dates (fun row => gridOf (cutsAt config dates row)) row := by
  induction passes generalizing earlier expectedTrainSize with
  | @stop row ends =>
      have full : ¬ HasRoom config dates row := fun room => by
        have found := (foldCuts_eq_some_iff sorted).mpr ⟨room, rfl⟩
        rw [ends] at found
        cases found
      rw [allowedFrom_iff]
      simp [CutsAccepted, full]
  | @fold row cuts rest found later ih =>
      obtain ⟨room, rfl⟩ := (foldCuts_eq_some_iff sorted).mp found
      have first : ((foldsBefore config dates earlier).map FoldsBefore.firstStart).getD
          (trainRow config dates row) = trainRow config dates config.trainingWindowSize := by
        cases leads <;> rfl
      have restIff (sizes : SizesKept config dates (gridOf (cutsAt config dates row)) row) :
          CutsAccepted config gridOf (foldsBefore config dates (some row))
              (expectedTrainSize + config.stepSize) rest ↔
            (TestFits config dates row → (HasRoom config dates (nextRow config dates row) →
                StepKept config dates
                  (gridOf (cutsAt config dates (nextRow config dates row))) row) ∧
              AllowedFrom config dates (fun row => gridOf (cutsAt config dates row))
                (nextRow config dates row)) := by
        by_cases fits : TestFits config dates row
        · rw [nextCursor_cutsAt fits] at later ih
          have forward : row ≤ nextRow config dates row :=
            (Nat.le_add_right _ _).trans (Nat.le_add_right _ _)
          rw [ih (by omega) (.later enough room sizes) fun expanding daily => ?_]
          · simp [fits]
          · rw [(sameKind row enough room).mpr daily] at sizes
            rw [expected expanding daily, nextRow_unaligned sorted sizes room fits, cursorAt,
              sizes.expanding expanding rfl, Nat.add_zero]
        · obtain rfl : rest = [] :=
            CutRun.last_of_end sorted (.fold found later) (by simp [cutsAt, fits])
          simp [CutsAccepted, fits]
      rw [CutsAccepted, sizesWithin_cutsAt enough fun expanding none =>
        expected expanding ((sameKind row enough room).mp none), allowedFrom_iff]
      change _ ∧ _ ∧ CutsAccepted config gridOf (some ⟨((foldsBefore config dates earlier).map
        FoldsBefore.firstStart).getD (trainRow config dates row), _⟩) _ rest ↔ _
      rw [first]
      simp only [room, true_implies]
      constructor
      · rintro ⟨sizes, steps, accepted⟩
        exact ⟨(leads.steps_iff sameKind enough room sizes).mp steps, sizes,
          (restIff sizes).mp accepted⟩
      · rintro ⟨steps, sizes, allowed⟩
        exact ⟨sizes, (leads.steps_iff sameKind enough room sizes).mpr steps,
          (restIff sizes).mpr allowed⟩

end Run

end Acceptance

/-- The sessions under the rows that the configuration requests let every window
keep its sizes and its step. -/
def SessionsAllow (library : TimeLibrary) (config : WalkForwardConfig)
    (alignment : Option SessionAlignment) (index dates : List Int) : Prop :=
  AllowedFrom config dates
    (fun row => foldGrid library alignment index (cutsAt config dates row))
    config.trainingWindowSize

/-! ## Short sessions -/

/-- No session has more rows than the grids of the windows allow a session. -/
def SessionsShort (library : TimeLibrary) (config : WalkForwardConfig)
    (alignment : Option SessionAlignment) (index dates : List Int) : Prop :=
  ∀ row, HasRoom config dates row →
    ∃ grid, foldGrid library alignment index (cutsAt config dates row) = some grid ∧
      longestSession dates ≤ grid.maxSessionRows

/-- The two kinds of steps that are refused then: the next train window has not left the
first one's session, or it starts past the window before it although the step is shorter. -/
def StepsAllow (library : TimeLibrary) (config : WalkForwardConfig)
    (alignment : Option SessionAlignment) (index dates : List Int) : Prop :=
  ∀ row, RequestedFrom config dates config.trainingWindowSize row →
    HasRoom config dates row → TestFits config dates row →
    HasRoom config dates (nextRow config dates row) → config.trainingMode = .rolling →
    config.stepSize < config.trainingWindowSize + trainRest config dates row →
    trainRow config dates config.trainingWindowSize <
        trainRow config dates (nextRow config dates row) ∧
      (config.trainingWindowSize + trainRest config dates (nextRow config dates row) ≤
          config.stepSize + drift config dates row →
        ∀ grid, foldGrid library alignment index
            (cutsAt config dates (nextRow config dates row)) = some grid →
          config.stepSize + 1 < 4 * grid.maxSessionRows)

section Short
variable {config : WalkForwardConfig} {dates : List Int} {row : Nat}

section Sorted
variable (sorted : dates.Pairwise (· ≤ ·))

include sorted

theorem rowsLeft_lt (nonempty : dates ≠ []) (row : Nat) :
    rowsLeft dates row < longestSession dates := by
  have bound := dayStart_lt sorted row nonempty
  rw [dayStart_eq sorted] at bound
  omega

theorem rowsInto_lt (inside : row < dates.length) :
    rowsInto dates row < longestSession dates := by
  have bound := lt_sessionFloor_add sorted row inside
  have back := rowsInto_le dates row
  rw [sessionFloor_eq sorted] at bound
  omega

/-- The cursor drifts by less than three sessions: those of the two cuts of the test and its own. -/
theorem drift_lt (config : WalkForwardConfig) (nonempty : dates ≠ []) (row : Nat) :
    drift config dates row + 2 < 3 * longestSession dates := by
  have separate := config.bounds.2.2.2.2.2
  have selection := rowsLeft_lt sorted nonempty (cursorAt dates row + config.selectionSize)
  have test := rowsLeft_lt sorted nonempty (testRow config dates row + config.testWindowSize)
  have cursor := rowsLeft_lt sorted nonempty (nextRow config dates row)
  simp only [drift, selectionRest, testRest]
  omega

theorem sessionsAllow_iff_of_short (library : TimeLibrary) (alignment : Option SessionAlignment)
    (index : List Int) (short : SessionsShort library config alignment index dates) :
    SessionsAllow library config alignment index dates ↔
      StepsAllow library config alignment index dates := by
  have nonempty (row : Nat) (room : HasRoom config dates row) : dates ≠ [] := by
    rintro rfl
    exact Nat.not_lt_zero _ room.selection
  have rest (row : Nat) (room : HasRoom config dates row) :
      trainRest config dates row < longestSession dates := by
    have inside := room.selection
    exact rowsInto_lt sorted (by omega)
  constructor
  · intro allowed row requested room fits nextRoom rolling longer
    obtain ⟨grid, found, _⟩ := short _ nextRoom
    have step := allowed.steps row requested room fits nextRoom rolling longer
    simp only [found] at step
    refine ⟨step.1, fun past other same => ?_⟩
    rw [found] at same
    cases Option.some.inj same
    simpa [Nat.not_lt.mpr past] using step.2
  · intro steps
    constructor
    · intro row _ room
      obtain ⟨grid, found, enough⟩ := short row room
      have left := rowsLeft_lt sorted (nonempty _ room)
      rw [found]
      exact ⟨fun _ => (rest row room).trans_le enough, fun _ none => (by cases none),
        fun _ => (left _).trans_le enough, fun _ => (left _).trans_le enough⟩
    · intro row requested room fits nextRoom rolling longer
      obtain ⟨grid, found, enough⟩ := short _ nextRoom
      obtain ⟨moved, past⟩ := steps row requested room fits nextRoom rolling longer
      have drifted := drift_lt sorted config (nonempty _ room) row
      have before := rest row room
      simp only [found]
      refine ⟨moved, ?_⟩
      split
      · omega
      · rename_i outside
        exact past (Nat.not_lt.mp outside) grid found

end Sorted

end Short

/-- The live validator accepts the builder's folds exactly when the sessions allow it; where
no session is longer than the grids allow, exactly when the steps do. -/
theorem validate_builder_windows_iff {F : Type} (library : TimeLibrary)
    (config : WalkForwardConfig) (alignment : Option SessionAlignment) (index : List Int)
    (sessions : SessionAssignment index)
    (assigned : AssignedBy library alignment index sessions) (windows : List WalkForwardWindow)
    (built : buildWalkForwardWindows config (boundaryLabel library alignment.isSome) alignment
      index sessions = .ok windows) (outcome : WalkForwardWindow → FoldOutcome F) :
    (validateWalkForwardWindows library config.rules
        (windows.map fun window => foldResult window (outcome window)) = .ok () ↔
      SessionsAllow library config alignment index sessions.dates) ∧
    (SessionsShort library config alignment index sessions.dates →
      (validateWalkForwardWindows library config.rules
          (windows.map fun window => foldResult window (outcome window)) = .ok () ↔
        StepsAllow library config alignment index sessions.dates)) := by
  simp only [buildWalkForwardWindows, raiseIf_bind_eq_ok, Bool.not_eq_eq_eq_not, Bool.not_false,
    decide_eq_true_eq] at built
  obtain ⟨_, ordered, unique, built⟩ := built
  have increasing : index.Pairwise (· < ·) :=
    (List.pairwise_and_iff.mpr ⟨ordered, unique⟩).imp fun both => lt_of_le_of_ne both.1 both.2
  obtain ⟨cutsList, passes, made⟩ := windowLoop_ok built
  have isState : IsState config index none config.trainingWindowSize
      (initialState config.rules) := ⟨rfl, rfl, rfl, fun _ => rfl⟩
  have accepted := validateFolds_iff increasing assigned outcome made passes (le_refl _)
    (le_refl _) isState (fun _ none => by cases none)
  have sameKind : ∀ row, config.trainingWindowSize ≤ row → HasRoom config sessions.dates row →
      (foldGrid library alignment index (cutsAt config sessions.dates row) = none ↔
        alignment = none) := fun row enough room =>
    foldGrid_eq_none_iff increasing assigned
      (foldCuts_shape sessions.monotone enough
        ((foldCuts_eq_some_iff sessions.monotone).mpr ⟨room, rfl⟩))
  have allowed := accepted.trans ((cutsAccepted_iff sessions.monotone sameKind passes (le_refl _)
    .first fun _ _ => rfl).trans
      (show _ ↔ SessionsAllow library config alignment index sessions.dates by
        simp [SessionsAllow]))
  exact ⟨allowed, fun short =>
    allowed.trans (sessionsAllow_iff_of_short sessions.monotone library alignment index short)⟩

/-! The half-day sessions again, on a calendar of their own. -/

def halfDayCalendar : MarketCalendar where
  sessions := (List.range 12).map fun day =>
    { date := day, marketOpen := day * nanosPerDay, marketClose := (day + 1) * nanosPerDay }
  ordered := by decide
  near := by decide

def halfDayLibrary : TimeLibrary where
  isoformat := halfDayLabel
  localDay := utcDay
  dateText := halfDayLabel
  parse := fun _ => none
  calendar := fun name => if name = "CME" then some halfDayCalendar else none
  timedelta := fun text => if text = "12h" then some halfDay else none
  isoformat_text _ := isBlank_eq_false (c := 'T') (by simp [halfDayLabel]) (by decide)
  dateText_text _ := isBlank_eq_false (c := 'T') (by simp [halfDayLabel]) (by decide)

theorem halfDaySessions_assigned :
    AssignedBy halfDayLibrary (some halfDayAlignment) halfDayIndex halfDaySessions :=
  ⟨0, 23 * halfDay, ⟨(List.range 12).map fun day => day * nanosPerDay, 2⟩, by decide, by decide,
    by decide +kernel, by decide +kernel⟩

def builtWindows (config : WalkForwardConfig) : List WalkForwardWindow :=
  (buildWalkForwardWindows config (boundaryLabel halfDayLibrary true) (some halfDayAlignment)
    halfDayIndex halfDaySessions).toOption.getD []

/-- The builder's own folds, one step short of the train size, are refused. -/
theorem validate_builder_windows_refuses :
    AssignedBy halfDayLibrary (some halfDayAlignment) halfDayIndex halfDaySessions ∧
      buildWalkForwardWindows halfDayConfig (boundaryLabel halfDayLibrary true)
        (some halfDayAlignment) halfDayIndex halfDaySessions = .ok (builtWindows halfDayConfig) ∧
      validateWalkForwardWindows halfDayLibrary halfDayConfig.rules
          ((builtWindows halfDayConfig).map fun window =>
            foldResult window (.failed "no passing parameters" : FoldOutcome Unit)) =
        .error (windowError "fold_002: rolling train window advanced by a different step") :=
  ⟨halfDaySessions_assigned, by decide +kernel, by decide +kernel⟩

def halfDayWholeStep : WalkForwardConfig :=
  { halfDayConfig with stepSize := 8, checked := by decide }

theorem validate_builder_windows_wholeStep :
    SessionsAllow halfDayLibrary halfDayWholeStep (some halfDayAlignment) halfDayIndex
      halfDaySessions.dates :=
  (validate_builder_windows_iff halfDayLibrary halfDayWholeStep (some halfDayAlignment)
    halfDayIndex halfDaySessions halfDaySessions_assigned (builtWindows halfDayWholeStep)
    (by decide +kernel)
    (fun _ => (.failed "no passing parameters" : FoldOutcome Unit))).1.mp (by decide +kernel)

end QuantFactory.WalkForward
