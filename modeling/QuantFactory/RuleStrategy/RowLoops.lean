import QuantFactory.Library.Outcome
import QuantFactory.Library.RunCounts

/-!
# Whole-array helpers and their row loops

`shift_bars` and `RuleEvaluator.same_sign_run` on an array of bars by sessions, and the loops over
the rows that they replaced.
-/

set_option autoImplicit false

namespace QuantFactory.RuleStrategy.RowLoops

open QuantFactory.Library

structure SessionArray (F : Type) where
  sessions : Nat
  rows : List (List F)
  rectangular : ∀ row ∈ rows, row.length = sessions

inductive ArrayError where
  | valueError (message : String)
  deriving DecidableEq, Repr

section Model
variable {F : Type} (nan : F) (sign : F → Int) (values : SessionArray F)

/-- `pd.DataFrame(values).shift(bars)`. -/
def shiftBars (bars : Nat) : List (List F) :=
  (List.range values.rows.length).map fun row =>
    if row < bars then List.replicate values.sessions nan else values.rows.getD (row - bars) []

def referenceShiftBars (bars : Nat) : List (List F) :=
  let result := List.replicate values.rows.length (List.replicate values.sessions nan)
  if bars < values.rows.length then
    result.take bars ++ values.rows.take (values.rows.length - bars)
  else result

/-- `flat.ne(flat.shift())`, nothing standing before the first entry. -/
def changedFrom (before : Option Int) : List Int → List Bool
  | [] => []
  | current :: rest => decide (before ≠ some current) :: changedFrom (some current) rest

def column (rows : List (List Int)) (session : Nat) : List Int :=
  rows.map fun row => row.getD session 0

/-- `_signs`; a NaN has sign zero. -/
def signs : List (List Int) := values.rows.map fun row => row.map sign

def sameSignRun : Except ArrayError (List (List Nat)) := do
  let bars := values.rows.length
  let flat := ((List.range values.sessions).map (column (signs sign values))).flatten
  raiseIf (decide (bars = 0)) (.valueError "slice step cannot be zero")
  let sessionStart := (List.range flat.length).map fun entry => decide (entry % bars = 0)
  let marks := List.zipWith (· || ·) (changedFrom none flat) sessionStart
  let runs := (earlierOfGroup [] (marksSoFar 0 marks)).map (· + 1)
  let counted := List.zipWith (fun run sign => run * if sign ≠ 0 then 1 else 0) runs flat
  .ok ((List.range bars).map fun row =>
    (List.range values.sessions).map fun session => counted.getD (session * bars + row) 0)

/-- One row of the loop, after the row before it and its runs. -/
def runsOfRow (previous : Option (List Int × List Nat)) (current : List Int) : List Nat :=
  let started := current.map fun sign => if sign ≠ 0 then 1 else 0
  match previous with
  | none => started
  | some (before, runs) =>
      (List.range current.length).map fun session =>
        if current.getD session 0 ≠ 0 ∧ current.getD session 0 = before.getD session 0 then
          runs.getD session 0 + 1
        else started.getD session 0

def runsOfRows (previous : Option (List Int × List Nat)) : List (List Int) → List (List Nat)
  | [] => []
  | current :: rest =>
      let runs := runsOfRow previous current
      runs :: runsOfRows (some (current, runs)) rest

def referenceSameSignRun : List (List Nat) := runsOfRows none (signs sign values)

end Model

/-! ## Shifting -/

theorem shiftBars_eq_reference {F : Type} (nan : F) (values : SessionArray F) (bars : Nat) :
    shiftBars nan values bars = referenceShiftBars nan values bars := by
  rw [shiftBars, referenceShiftBars]
  split
  · rename_i within
    apply List.ext_getElem?
    intro row
    rw [List.getElem?_map, List.take_replicate]
    rcases Nat.lt_or_ge row bars with early | late
    · rw [List.getElem?_append_left (by rw [List.length_replicate]; omega),
        List.getElem?_range (by omega), List.getElem?_replicate, if_pos (by omega)]
      simp [early]
    · rw [List.getElem?_append_right (by rw [List.length_replicate]; omega), List.length_replicate,
        Nat.min_eq_left (Nat.le_of_lt within)]
      rcases Nat.lt_or_ge row values.rows.length with inside | outside
      · have there : row - bars < values.rows.length := by omega
        rw [List.getElem?_range inside, List.getElem?_take_of_lt (by omega),
          List.getElem?_eq_getElem there]
        simp [Nat.not_lt.mpr late, List.getD_eq_getElem?_getD, List.getElem?_eq_getElem there]
      · rw [List.getElem?_eq_none (by rw [List.length_range]; omega),
          List.getElem?_eq_none (by rw [List.length_take]; omega)]
        rfl
  · rename_i whole
    apply List.ext_getElem?
    intro row
    rw [List.getElem?_map, List.getElem?_replicate]
    split
    · rename_i inside
      have early : row < bars := by omega
      rw [List.getElem?_range inside]
      simp [early]
    · rw [List.getElem?_eq_none (by rw [List.length_range]; omega)]
      rfl

/-! ## Runs of one sign -/

section Columns

/-- The runs down one column, after a bar of the given sign and run. -/
def runsDown (before : Int) (run : Nat) : List Int → List Nat
  | [] => []
  | sign :: rest =>
      let next := if sign ≠ 0 ∧ sign = before then run + 1 else if sign ≠ 0 then 1 else 0
      next :: runsDown sign next rest

theorem length_runsDown (before : Int) (run : Nat) (column : List Int) :
    (runsDown before run column).length = column.length := by
  induction column generalizing before run with
  | nil => rfl
  | cons sign rest ih => simp [runsDown, ih]

/-- The positions within the runs of equal signs, the zeros masked, are the runs. -/
theorem counted_eq_runsDown {before : Int} {run length : Nat}
    (underWay : before ≠ 0 → run = length) (column : List Int) :
    List.zipWith (fun run sign => run * if sign ≠ 0 then 1 else 0)
        ((positionsInRun length (changedFrom (some before) column)).map (· + 1)) column =
      runsDown before run column := by
  induction column generalizing before run length with
  | nil => rfl
  | cons sign rest ih =>
      simp only [changedFrom, positionsInRun, List.map_cons, List.zipWith_cons_cons, runsDown]
      rcases eq_or_ne sign before with rfl | other
      · -- the run goes on
        simp only [ne_eq, not_true_eq_false, decide_false, Bool.false_eq_true, if_false, and_true]
        rcases eq_or_ne sign 0 with rfl | solid
        · simp only [not_true_eq_false, if_false, Nat.mul_zero]
          congr 1
          exact ih fun absurd => (absurd rfl).elim
        · simp only [solid, not_false_eq_true, if_true, Nat.mul_one, underWay solid]
          congr 1
          exact ih fun _ => rfl
      · have changed : some before ≠ some sign := fun same => other (Option.some.inj same).symm
        simp only [ne_eq, changed, not_false_eq_true, decide_true, if_true, other, and_false, if_false,
          Nat.zero_add, Nat.one_mul]
        congr 1
        apply ih
        intro solid
        simp [solid]

theorem counted_column {column : List Int} {marks : List Bool}
    (marked : ∀ sign rest, column = sign :: rest → marks = true :: changedFrom (some sign) rest)
    (empty : column = [] → marks = []) :
    List.zipWith (fun run sign => run * if sign ≠ 0 then 1 else 0)
        ((positionsInRun 0 marks).map (· + 1)) column = runsDown 0 0 column := by
  cases column with
  | nil => rw [empty rfl]; rfl
  | cons sign rest =>
      rw [marked sign rest rfl]
      simp only [positionsInRun, if_true, List.map_cons, List.zipWith_cons_cons, runsDown, Nat.zero_add,
        Nat.one_mul]
      rcases eq_or_ne sign 0 with rfl | solid
      · simp only [ne_eq, not_true_eq_false, false_and, if_false]
        congr 1
        exact counted_eq_runsDown (fun absurd => (absurd rfl).elim) rest
      · simp only [ne_eq, solid, not_false_eq_true, and_false, if_false, if_true]
        congr 1
        exact counted_eq_runsDown (fun _ => rfl) rest

end Columns

/-! ## The flattened columns -/

section Flattened

def columnMarks : List Int → List Bool
  | [] => []
  | sign :: rest => true :: changedFrom (some sign) rest

theorem length_changedFrom (before : Option Int) (column : List Int) :
    (changedFrom before column).length = column.length := by
  induction column generalizing before with
  | nil => rfl
  | cons sign rest ih => simp [changedFrom, ih]

theorem changedFrom_append (before : Option Int) (front back : List Int) :
    ∃ last, changedFrom before (front ++ back) = changedFrom before front ++ changedFrom last back := by
  induction front generalizing before with
  | nil => exact ⟨before, rfl⟩
  | cons sign rest ih =>
      obtain ⟨last, split⟩ := ih (some sign)
      exact ⟨last, by rw [List.cons_append, changedFrom, split, changedFrom, List.cons_append]⟩

theorem columnMarks_eq (before : Option Int) (column : List Int) :
    List.zipWith (· || ·) (changedFrom before column)
        ((List.range column.length).map fun entry => decide (entry % column.length = 0)) =
      columnMarks column := by
  cases column with
  | nil => rfl
  | cons sign rest =>
      have later : (List.range rest.length).map (fun entry => decide ((entry + 1) % (rest.length + 1) = 0)) =
          List.replicate rest.length false := by
        apply List.ext_getElem?
        intro entry
        rw [List.getElem?_map, List.getElem?_replicate]
        split
        · rename_i inside
          rw [List.getElem?_range inside]
          have small : (entry + 1) % (rest.length + 1) = entry + 1 := Nat.mod_eq_of_lt (by omega)
          simp [small]
        · rw [List.getElem?_eq_none (by rw [List.length_range]; omega)]
          rfl
      rw [List.length_cons, List.range_succ_eq_map, List.map_cons, List.map_map, changedFrom,
        List.zipWith_cons_cons, columnMarks]
      congr 1
      · simp
      · show List.zipWith (· || ·) _ ((List.range rest.length).map
          (fun entry => decide ((entry + 1) % (rest.length + 1) = 0))) = _
        rw [later, ← length_changedFrom (some sign) rest]
        generalize changedFrom (some sign) rest = marks
        induction marks with
        | nil => rfl
        | cons mark others ih =>
            rw [List.length_cons, List.replicate_succ, List.zipWith_cons_cons, ih, Bool.or_false]

theorem marks_flatten {bars : Nat} {columns : List (List Int)}
    (full : ∀ column ∈ columns, column.length = bars) (before : Option Int) :
    List.zipWith (· || ·) (changedFrom before columns.flatten)
        ((List.range columns.flatten.length).map fun entry => decide (entry % bars = 0)) =
      (columns.map columnMarks).flatten := by
  induction columns generalizing before with
  | nil => rfl
  | cons column rest ih =>
      have fullRest := fun other member => full other (List.mem_cons_of_mem column member)
      have size := full column List.mem_cons_self
      obtain ⟨last, split⟩ := changedFrom_append before column rest.flatten
      have shifted : (List.range rest.flatten.length).map
          ((fun entry => decide (entry % bars = 0)) ∘ fun entry => column.length + entry) =
            (List.range rest.flatten.length).map fun entry => decide (entry % bars = 0) := by
        apply List.map_congr_left
        intro entry _
        simp [size]
      rw [List.flatten_cons, List.map_cons, List.flatten_cons, split, List.length_append,
        List.range_add, List.map_append, List.map_map, shifted,
        List.zipWith_append (by rw [length_changedFrom, List.length_map, List.length_range]),
        ih fullRest last]
      congr 1
      rw [← size]
      exact columnMarks_eq before column

theorem getElem?_flatten {α : Type} {bars : Nat} {columns : List (List α)}
    (full : ∀ column ∈ columns, column.length = bars) {session row : Nat} (inside : row < bars) :
    columns.flatten[session * bars + row]? = (columns[session]?).bind fun column => column[row]? := by
  induction columns generalizing session with
  | nil => simp
  | cons column rest ih =>
      have size := full column List.mem_cons_self
      rw [List.flatten_cons]
      cases session with
      | zero =>
          rw [Nat.zero_mul, Nat.zero_add, List.getElem?_append_left (by omega)]
          rfl
      | succ session =>
          have further : (session + 1) * bars + row = column.length + (session * bars + row) := by
            rw [size, Nat.add_mul]
            omega
          rw [further, List.getElem?_append_right (by omega), Nat.add_sub_cancel_left,
            ih fun other member => full other (List.mem_cons_of_mem column member)]
          rfl

end Flattened

section Whole
variable {F : Type} {sign : F → Int} {values : SessionArray F}

theorem length_columnMarks (column : List Int) : (columnMarks column).length = column.length := by
  cases column with
  | nil => rfl
  | cons sign rest => rw [columnMarks, List.length_cons, length_changedFrom, List.length_cons]

theorem counted_flatten (columns : List (List Int)) :
    List.zipWith (fun run sign => run * if sign ≠ 0 then 1 else 0)
        (((columns.map columnMarks).map (positionsInRun 0)).flatten.map (· + 1)) columns.flatten =
      (columns.map (runsDown 0 0)).flatten := by
  induction columns with
  | nil => rfl
  | cons column rest ih =>
      simp only [List.map_cons, List.flatten_cons, List.map_append]
      rw [List.zipWith_append (by rw [List.length_map, length_positionsInRun, length_columnMarks]), ih]
      congr 1
      apply counted_column
      · rintro sign others rfl
        rfl
      · rintro rfl
        rfl

theorem counted_eq {columns : List (List Int)} {bars : Nat} (some_bars : bars ≠ 0)
    (full : ∀ column ∈ columns, column.length = bars) :
    List.zipWith (fun run sign => run * if sign ≠ 0 then 1 else 0)
        ((earlierOfGroup [] (marksSoFar 0 (List.zipWith (· || ·) (changedFrom none columns.flatten)
          ((List.range columns.flatten.length).map fun entry => decide (entry % bars = 0))))).map (· + 1))
        columns.flatten =
      (columns.map (runsDown 0 0)).flatten := by
  have numbered : ∀ number ∈ ([] : List Nat), number ≤ 0 := by simp
  have begun : ∀ segment ∈ columns.map columnMarks, segment.head? = some true := by
    intro segment member
    obtain ⟨column, inColumns, rfl⟩ := List.mem_map.mp member
    have size := full column inColumns
    cases column with
    | nil => exact absurd size.symm some_bars
    | cons sign rest => rfl
  rw [marks_flatten full, earlierOfGroup_marksSoFar numbered, List.count_nil,
    positionsInRun_flatten 0 begun, counted_flatten]

theorem runsOfRow_getD (previous : Option (List Int × List Nat)) {current : List Int} {session : Nat}
    (inside : session < current.length) :
    (runsOfRow previous current).getD session 0 =
      (runsDown ((previous.map Prod.fst).getD [] |>.getD session 0)
        ((previous.map Prod.snd).getD [] |>.getD session 0) [current.getD session 0]).getD 0 0 := by
  cases previous with
  | none =>
      rcases eq_or_ne current[session] 0 with zero | solid
      · simp [runsOfRow, runsDown, inside, zero]
      · simp [runsOfRow, runsDown, inside, solid]
  | some before =>
      simp only [runsOfRow, runsDown, List.getD_eq_getElem?_getD, List.getElem?_map,
        List.getElem?_range inside, Option.map_some, Option.getD_some, List.getElem?_cons_zero,
        List.getElem?_eq_getElem inside]

theorem length_runsOfRow (previous : Option (List Int × List Nat)) (current : List Int) :
    (runsOfRow previous current).length = current.length := by
  cases previous with
  | none => rw [runsOfRow, List.length_map]
  | some before => rw [runsOfRow, List.length_map, List.length_range]

theorem runsOfRows_column {sessions session : Nat} (inside : session < sessions)
    {rows : List (List Int)} (full : ∀ row ∈ rows, row.length = sessions)
    (previous : Option (List Int × List Nat)) :
    (runsOfRows previous rows).map (fun row => row.getD session 0) =
      runsDown ((previous.map Prod.fst).getD [] |>.getD session 0)
        ((previous.map Prod.snd).getD [] |>.getD session 0) (column rows session) := by
  induction rows generalizing previous with
  | nil => rfl
  | cons current rest ih =>
      have size := full current List.mem_cons_self
      have within : session < current.length := by rwa [size]
      have here := runsOfRow_getD previous within
      have later := ih (fun other member => full other (List.mem_cons_of_mem _ member))
        (some (current, runsOfRow previous current))
      simp only [Option.map_some, Option.getD_some] at later
      rw [runsOfRows, List.map_cons, later, here]
      rfl

theorem runsOfRows_lengths {sessions : Nat} {rows : List (List Int)}
    (full : ∀ row ∈ rows, row.length = sessions) (previous : Option (List Int × List Nat)) :
    (runsOfRows previous rows).length = rows.length ∧
      ∀ row ∈ runsOfRows previous rows, row.length = sessions := by
  induction rows generalizing previous with
  | nil => simp [runsOfRows]
  | cons current rest ih =>
      obtain ⟨count, widths⟩ := ih (fun other member => full other (List.mem_cons_of_mem _ member))
        (some (current, runsOfRow previous current))
      constructor
      · rw [runsOfRows, List.length_cons, List.length_cons, count]
      · intro row member
        rcases List.mem_cons.mp member with rfl | inRest
        · rw [length_runsOfRow, full current List.mem_cons_self]
        · exact widths row inRest

/-- On an array that has a bar the grouped counts are the loop's runs. -/
theorem sameSignRun_eq_reference (some_bars : values.rows ≠ []) :
    sameSignRun sign values = .ok (referenceSameSignRun sign values) := by
  have positive : values.rows.length ≠ 0 := fun none => some_bars (List.length_eq_zero_iff.mp none)
  have bars : (signs sign values).length = values.rows.length := List.length_map _
  have full : ∀ flat ∈ (List.range values.sessions).map (column (signs sign values)),
      flat.length = values.rows.length := by
    intro flat member
    obtain ⟨session, -, rfl⟩ := List.mem_map.mp member
    rw [column, List.length_map, bars]
  have widths : ∀ row ∈ signs sign values, row.length = values.sessions := by
    intro row member
    obtain ⟨source, inRows, rfl⟩ := List.mem_map.mp member
    rw [List.length_map, values.rectangular source inRows]
  obtain ⟨count, rowWidths⟩ := runsOfRows_lengths widths none
  simp only [sameSignRun, raiseIf, positive, decide_false, Bool.false_eq_true, if_false, bind_ok,
    counted_eq positive full, Except.ok.injEq]
  apply List.ext_getElem
  · rw [List.length_map, List.length_range, referenceSameSignRun, count, bars]
  · intro row inside inReference
    have within : row < values.rows.length := by simpa using inside
    have width := rowWidths _ (List.getElem_mem inReference)
    rw [List.getElem_map, List.getElem_range]
    apply List.ext_getElem
    · rw [List.length_map, List.length_range]
      exact width.symm
    · intro session inRow inRun
      have among : session < values.sessions := by simpa using inRow
      have down : ((referenceSameSignRun sign values).map fun row => row.getD session 0)[row]? =
          (runsDown 0 0 (column (signs sign values) session))[row]? := by
        rw [referenceSameSignRun, runsOfRows_column among widths none]
        rfl
      have runsFull : ∀ runs ∈ ((List.range values.sessions).map (column (signs sign values))).map
          (runsDown 0 0), runs.length = values.rows.length := by
        intro runs member
        obtain ⟨flat, inFlat, rfl⟩ := List.mem_map.mp member
        rw [length_runsDown, full flat inFlat]
      rw [List.getElem_map, List.getElem_range, List.getD_eq_getElem?_getD,
        getElem?_flatten runsFull within, List.getElem?_map, List.getElem?_map,
        List.getElem?_range among]
      rw [List.getElem?_map, List.getElem?_eq_getElem inReference, Option.map_some,
        List.getD_eq_getElem?_getD, List.getElem?_eq_getElem (by omega), Option.getD_some] at down
      show ((runsDown 0 0 (column (signs sign values) session))[row]?).getD 0 = _
      exact (congrArg (·.getD 0) down).symm

end Whole

end QuantFactory.RuleStrategy.RowLoops
