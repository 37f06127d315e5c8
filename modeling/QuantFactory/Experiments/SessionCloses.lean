import QuantFactory.Experiments.ChunkSizes

/-!
# Session closes, column by column and at once

`session_close_metrics_frame` reads the closing bars of all columns with one selection and
fills what is missing cell by cell; the reference loop kept in the tests treats every
column on its own and decides per session.  Both select the same equity.
-/

set_option autoImplicit false

namespace QuantFactory.Experiments

open QuantFactory.Library ColumnNumber

variable {F : Type} [ColumnNumber F]

/-- What the engine gives for all settings: a value and holdings for each, the index of the
values, and that of the holdings when it gives any. -/
structure PortfolioTables (F : Type) where
  columns : List (PortfolioColumn F)
  index : List Int
  assetsIndex : Option (List Int)

/-! ## All columns at once -/

/-- `assets.iloc[:, col] if aligned else None`. -/
def alignedAssets (data : List (MarketRow F)) (assetsIndex : Option (List Int))
    (column : PortfolioColumn F) : Option (List F) :=
  if assetsIndex = some (timesOf data) then some column.assets else none

/-- The row of `value.loc[closing_idx[present]]`; an absent closing bar leaves it unset. -/
def presentRow (data : List (MarketRow F)) (columns : List (PortfolioColumn F)) (closing : Int) :
    Option (List F) :=
  if (timesOf data).contains closing then
    columns.mapM fun column => valueAt data column.value closing
  else none

/-- A row that is set stays; the others are filled column by column. -/
def filledRow (data : List (MarketRow F)) (tables : PortfolioTables F) (interval : Int)
    (session : SessionBounds) (row : Option (List F)) : Except SweepError (List F) :=
  match row with
  | some row => .ok row
  | none => collect (fun column => missingSessionCloseValue data column.value
      (alignedAssets data tables.assetsIndex column) session (session.marketClose - interval))
      tables.columns

/-- The equity table of `session_close_metrics_frame`, a row a session. -/
def equityFrame (policy : SessionPolicy F) (data : List (MarketRow F))
    (tables : PortfolioTables F) : Except SweepError (List (List F)) := do
  valueChecks data tables.index tables.columns
  let (interval, completed) ← completedSessions policy data
  let rows := completed.map fun session =>
    presentRow data tables.columns (session.marketClose - interval)
  collect (fun cell => filledRow data tables interval cell.1 cell.2) (completed.zip rows)

/-! ## One column -/

/-- `float(assets.loc[time]) == 0.0`. -/
def holdsNothingAt (data : List (MarketRow F)) (units : List F) (time : Int) : Bool :=
  ((valueAt data units time).map isZero).getD false

def referenceClosingValue (data : List (MarketRow F)) (value : List F)
    (assets : Option (List Int × List F)) (interval : Int) (session : SessionBounds) :
    Except SweepError F :=
  let times := timesOf data
  let closing := session.marketClose - interval
  match valueAt data value closing with
  | some closingValue => .ok closingValue
  | none =>
      let observed := times.filter fun time =>
        session.marketOpen ≤ time ∧ time < session.marketClose
      match observed.getLast?, assets with
      | none, some (index, units) =>
          match (times.filter (· < session.marketOpen)).getLast?,
              (times.filter (session.marketClose ≤ ·)).head? with
          | some before, some after =>
              if index = times ∧ holdsNothingAt data units before = true ∧
                  holdsNothingAt data units after = true then
                orRaise (valueAt data value before) missingClose
              else .error missingClose
          | _, _ => .error missingClose
      | none, none => .error missingClose
      | some _, none => .error missingClose
      | some last, some (index, units) =>
          if index ≠ times then .error missingClose
          else if closing ≤ last ∨ holdsNothingAt data units last = false then
            .error missingClose
          else orRaise (valueAt data value last) missingClose

def referenceCloses (policy : SessionPolicy F) (data : List (MarketRow F)) (index : List Int)
    (assetsIndex : Option (List Int)) (column : PortfolioColumn F) :
    Except SweepError (List F) := do
  valueChecks data index [column]
  let (interval, completed) ← completedSessions policy data
  collect (referenceClosingValue data column.value
    (assetsIndex.map fun index => (index, column.assets)) interval) completed

/-! ## The cells agree -/

section Collect
variable {α β γ : Type} {ε : Type}

theorem collect_zip_map (f : α → β) (g : α → β → Except ε γ) (items : List α) :
    collect (fun pair => g pair.1 pair.2) (items.zip (items.map f)) =
      collect (fun item => g item (f item)) items := by
  induction items with
  | nil => rfl
  | cons item rest ih => rw [List.map_cons, List.zip_cons_cons, collect, collect, ih]

theorem collect_of_mapM {f : α → Except ε β} {g : α → Option β} {items : List α}
    {results : List β} (same : ∀ item value, g item = some value → f item = .ok value)
    (all : items.mapM g = some results) : collect f items = .ok results := by
  induction items generalizing results with
  | nil =>
      cases all
      rfl
  | cons item rest ih =>
      cases head : g item with
      | none =>
          rw [mapM_none_of_mem List.mem_cons_self head] at all
          cases all
      | some first =>
          rw [mapM_cons_some head] at all
          obtain ⟨others, tail, rfl⟩ := Option.map_eq_some_iff.mp all
          rw [collect, same item first head, ih tail]
          rfl

end Collect

omit [ColumnNumber F] in
theorem valueAt_of_mem {data : List (MarketRow F)} {series : List F}
    (length : series.length = data.length) {time : Int} (member : time ∈ timesOf data) :
    ∃ value, valueAt data series time = some value := by
  rw [valueAt]
  rw [timesOf] at member
  induction data generalizing series with
  | nil => cases member
  | cons row rest ih =>
      cases series with
      | nil => cases length
      | cons value others =>
          rw [List.map_cons, List.zip_cons_cons, List.lookup_cons]
          by_cases same : time = row.time
          · exact ⟨value, by simp [same]⟩
          · rw [beq_false_of_ne same]
            apply ih
            · simpa using length
            · rcases List.mem_cons.mp member with found | inRest
              · exact absurd found same
              · exact inRest

omit [ColumnNumber F] in
theorem mem_of_valueAt {data : List (MarketRow F)} {series : List F} {time : Int} {value : F}
    (found : valueAt data series time = some value) : time ∈ timesOf data :=
  (List.of_mem_zip (mem_of_lookup found)).1

section Cells
variable {policy : SessionPolicy F} {data : List (MarketRow F)} {tables : PortfolioTables F}

theorem length_of_usable {column : PortfolioColumn F} (usable : columnIsUsable data column = true) :
    column.value.length = data.length := by
  rw [columnIsUsable, Bool.and_eq_true, decide_eq_true_iff] at usable
  exact usable.2

theorem missing_of_alignedAssets (assetsIndex : Option (List Int)) (column : PortfolioColumn F)
    (time : Int) :
    (((alignedAssets data assetsIndex column).bind fun units =>
        valueAt data units time).map isZero).getD false =
      (decide (assetsIndex = some (timesOf data)) && holdsNothingAt data column.assets time) := by
  by_cases aligned : assetsIndex = some (timesOf data)
  · rw [alignedAssets, if_pos aligned, decide_eq_true aligned, Bool.true_and, holdsNothingAt,
      Option.bind_some]
  · rw [alignedAssets, if_neg aligned, decide_eq_false aligned, Bool.false_and, Option.bind_none,
      Option.map_none, Option.getD_none]

/-- The branch of the reference loop for an absent closing bar is the fallback of the frame. -/
theorem referenceClosingValue_eq (assetsIndex : Option (List Int)) (column : PortfolioColumn F)
    (interval : Int) (session : SessionBounds) :
    referenceClosingValue data column.value (assetsIndex.map fun index => (index, column.assets))
        interval session =
      match valueAt data column.value (session.marketClose - interval) with
      | some value => .ok value
      | none => missingSessionCloseValue data column.value
          (alignedAssets data assetsIndex column) session (session.marketClose - interval) := by
  rw [referenceClosingValue]
  cases valueAt data column.value (session.marketClose - interval) with
  | some value => rfl
  | none =>
      simp only [missingSessionCloseValue, missing_of_alignedAssets, timesOf]
      cases (((data.map (·.time)).filter fun time =>
          session.marketOpen ≤ time ∧ time < session.marketClose).getLast?) with
      | none =>
          cases ((data.map (·.time)).filter (· < session.marketOpen)).getLast? with
          | none => cases assetsIndex <;> rfl
          | some before =>
              cases ((data.map (·.time)).filter (session.marketClose ≤ ·)).head? with
              | none => cases assetsIndex <;> rfl
              | some after =>
                  cases assetsIndex with
                  | none => rfl
                  | some index =>
                      simp only [Option.map_some, Option.some.injEq]
                      by_cases aligned : index = data.map (·.time)
                      · simp [aligned]
                      · simp [aligned]
      | some last =>
          cases assetsIndex with
          | none => simp
          | some index =>
              by_cases aligned : index = data.map (·.time)
              · simp only [aligned, Option.map_some, decide_true, Bool.true_and, ne_eq,
                  not_true_eq_false, if_false, Bool.and_eq_true, decide_eq_true_iff]
                rcases lt_or_ge last (session.marketClose - interval) with early | late
                · cases holdsNothingAt data column.assets last with
                  | true =>
                      have held : ¬ (session.marketClose - interval ≤ last ∨ true = false) := by
                        rintro (late | impossible)
                        · omega
                        · cases impossible
                      rw [if_neg held, if_pos ⟨early, rfl⟩]
                  | false => simp
                · simp [late]
              · simp [aligned]

theorem filledRow_eq (usable : ∀ column ∈ tables.columns, columnIsUsable data column = true)
    (interval : Int) (session : SessionBounds) :
    filledRow data tables interval session
        (presentRow data tables.columns (session.marketClose - interval)) =
      collect (fun column => referenceClosingValue data column.value
        (tables.assetsIndex.map fun index => (index, column.assets)) interval session)
        tables.columns := by
  rw [presentRow]
  by_cases present : (timesOf data).contains (session.marketClose - interval) = true
  · rw [if_pos present]
    have member := List.contains_iff_mem.mp present
    cases all : tables.columns.mapM fun column =>
        valueAt data column.value (session.marketClose - interval) with
    | none =>
        obtain ⟨column, listed, missing⟩ := exists_of_mapM_none all
        obtain ⟨value, found⟩ := valueAt_of_mem (length_of_usable (usable column listed)) member
        rw [missing] at found
        cases found
    | some row =>
        refine (collect_of_mapM ?_ all).symm
        intro column value found
        rw [referenceClosingValue_eq, found]
  · rw [if_neg present, filledRow]
    apply collect_congr
    intro column _
    have absent : valueAt data column.value (session.marketClose - interval) = none := by
      by_contra found
      obtain ⟨value, at_⟩ := Option.ne_none_iff_exists'.mp found
      exact present (List.contains_iff_mem.mpr (mem_of_valueAt at_))
    rw [referenceClosingValue_eq, absent]

theorem equityFrame_eq (passed : ValuesChecked data tables.index tables.columns) :
    equityFrame policy data tables = completedSessions policy data >>= fun checked =>
      collect (fun session => collect (fun column => referenceClosingValue data column.value
        (tables.assetsIndex.map fun index => (index, column.assets)) checked.1 session)
        tables.columns) checked.2 := by
  rw [equityFrame, valueChecks_eq_ok.mpr passed, bind_ok]
  congr 1
  funext checked
  obtain ⟨interval, completed⟩ := checked
  change collect (fun cell => filledRow data tables interval cell.1 cell.2)
    (completed.zip (completed.map fun session =>
      presentRow data tables.columns (session.marketClose - interval))) = _
  rw [collect_zip_map (fun session =>
    presentRow data tables.columns (session.marketClose - interval))
    (filledRow data tables interval)]
  apply collect_congr
  intro session _
  exact filledRow_eq passed.usable interval session

end Cells

/-! ## The errors agree -/

section Tables
variable {σ γ β ε : Type}

theorem column_of_rows (cell : σ → γ → Except ε β) {sessions : List σ} {columns : List γ}
    {rows : List (List β)}
    (collected : collect (fun session => collect (cell session) columns) sessions = .ok rows)
    {j : Nat} {column : γ} (present : columns[j]? = some column) :
    ∃ closes, collect (fun session => cell session column) sessions = .ok closes ∧
      rows.mapM (·[j]?) = some closes := by
  have pairs := collect_eq_ok.mp collected
  clear collected
  induction pairs with
  | nil => exact ⟨[], rfl, rfl⟩
  | @cons session row sessions rows head _ ih =>
      obtain ⟨closes, rest, read⟩ := ih
      obtain ⟨value, inRow, ok⟩ := collect_getElem? head present
      refine ⟨value :: closes, ?_, ?_⟩
      · rw [collect, ok, rest]
        rfl
      · rw [mapM_cons_some (f := fun row : List β => row[j]?) inRow, read]
        rfl

end Tables

def partialFinalSession : SweepError :=
  .runtimeError "session metrics cannot include a partially observed final session"

def tooFewSessions : SweepError :=
  .runtimeError "session metrics require at least two completed sessions"

def closeErrors : List SweepError := [missingClose, partialFinalSession, tooFewSessions]

theorem orRaise_error {ε α : Type} {found : Option α} {error raised : ε}
    (failed : orRaise found error = .error raised) : raised = error := by
  cases found with
  | none => exact (Except.error.inj failed).symm
  | some value => cases failed

theorem valueChecks_not_close {data : List (MarketRow F)} {index : List Int}
    {columns : List (PortfolioColumn F)} {raised : SweepError}
    (failed : valueChecks data index columns = .error raised) : raised ∉ closeErrors := by
  simp only [valueChecks, raiseIf] at failed
  split_ifs at failed <;> cases failed <;> decide

section Agreement
variable {policy : SessionPolicy F} {data : List (MarketRow F)} {tables : PortfolioTables F}

theorem missingSessionCloseValue_error {value : List F} {assets : Option (List F)}
    {session : SessionBounds} {closing : Int} {raised : SweepError}
    (failed : missingSessionCloseValue data value assets session closing = .error raised) :
    raised = missingClose := by
  simp only [missingSessionCloseValue] at failed
  split at failed
  · split at failed
    · split at failed
      · exact orRaise_error failed
      · exact (Except.error.inj failed).symm
    · exact (Except.error.inj failed).symm
  · split at failed
    · exact orRaise_error failed
    · exact (Except.error.inj failed).symm

theorem referenceClosingValue_error {column : PortfolioColumn F} {assetsIndex : Option (List Int)}
    {interval : Int} {session : SessionBounds} {raised : SweepError}
    (failed : referenceClosingValue data column.value
      (assetsIndex.map fun index => (index, column.assets)) interval session = .error raised) :
    raised = missingClose := by
  rw [referenceClosingValue_eq] at failed
  split at failed
  · cases failed
  · exact missingSessionCloseValue_error failed

theorem equityFrame_ok {rows : List (List F)} (ok : equityFrame policy data tables = .ok rows) :
    ValuesChecked data tables.index tables.columns := by
  obtain ⟨_, passed, -⟩ := bind_eq_ok.mp ok
  exact valueChecks_eq_ok.mp passed

theorem referenceCloses_eq {column : PortfolioColumn F} {index : List Int}
    (assetsIndex : Option (List Int)) (passed : ValuesChecked data index [column]) :
    referenceCloses policy data index assetsIndex column =
      completedSessions policy data >>= fun checked =>
        collect (referenceClosingValue data column.value
          (assetsIndex.map fun index => (index, column.assets)) checked.1) checked.2 := by
  rw [referenceCloses, valueChecks_eq_ok.mpr passed, bind_ok]

theorem equityFrame_column {rows : List (List F)} (ok : equityFrame policy data tables = .ok rows)
    {j : Nat} {column : PortfolioColumn F} (present : tables.columns[j]? = some column) :
    ∃ closes, referenceCloses policy data tables.index tables.assetsIndex column = .ok closes ∧
      rows.mapM (·[j]?) = some closes := by
  have passed := equityFrame_ok ok
  rw [equityFrame_eq passed] at ok
  obtain ⟨checked, sessions, ok⟩ := bind_eq_ok.mp ok
  obtain ⟨closes, collected, read⟩ := column_of_rows (fun session column =>
    referenceClosingValue data column.value
      (tables.assetsIndex.map fun index => (index, column.assets)) checked.1 session) ok present
  refine ⟨closes, ?_, read⟩
  have own := (valuesChecked_iff_each passed.filled).mp passed column
    (List.mem_of_getElem? present)
  rw [referenceCloses_eq _ own, sessions, bind_ok]
  exact collected

theorem equityFrame_total (filled : tables.columns ≠ [])
    (each : ∀ column ∈ tables.columns, ∃ closes,
      referenceCloses policy data tables.index tables.assetsIndex column = .ok closes) :
    ∃ rows, equityFrame policy data tables = .ok rows := by
  have own : ∀ column ∈ tables.columns, ValuesChecked data tables.index [column] := by
    intro column member
    obtain ⟨closes, ok⟩ := each column member
    obtain ⟨_, passed, -⟩ := bind_eq_ok.mp ok
    exact valueChecks_eq_ok.mp passed
  rw [equityFrame_eq ((valuesChecked_iff_each filled).mpr own)]
  obtain ⟨first, member⟩ := List.exists_mem_of_ne_nil _ filled
  cases sessions : completedSessions policy data with
  | error raised =>
      obtain ⟨closes, ok⟩ := each first member
      rw [referenceCloses_eq _ (own first member), sessions] at ok
      cases ok
  | ok checked =>
      rw [bind_ok]
      apply collect_total
      intro session listed
      apply collect_total
      intro column inTables
      obtain ⟨closes, ok⟩ := each column inTables
      rw [referenceCloses_eq _ (own column inTables), sessions, bind_ok] at ok
      obtain ⟨i, inside, rfl⟩ := List.getElem_of_mem listed
      obtain ⟨value, _, found⟩ := collect_getElem? ok (List.getElem?_eq_getElem inside)
      exact ⟨value, found⟩

theorem equityFrame_error_iff (passed : ValuesChecked data tables.index tables.columns)
    (raised : SweepError) :
    equityFrame policy data tables = .error raised ↔ ∃ column ∈ tables.columns,
      referenceCloses policy data tables.index tables.assetsIndex column = .error raised := by
  have own := (valuesChecked_iff_each passed.filled).mp passed
  rw [equityFrame_eq passed]
  obtain ⟨first, member⟩ := List.exists_mem_of_ne_nil _ passed.filled
  cases sessions : completedSessions policy data with
  | error other =>
      constructor
      · intro failed
        refine ⟨first, member, ?_⟩
        rw [referenceCloses_eq _ (own first member), sessions]
        rw [Except.error.inj failed]
        rfl
      · rintro ⟨column, inTables, failed⟩
        rw [referenceCloses_eq _ (own column inTables), sessions] at failed
        rw [Except.error.inj failed]
        rfl
  | ok checked =>
      rw [bind_ok]
      constructor
      · intro failed
        obtain ⟨session, listed, inRow⟩ := exists_of_collect_error failed
        obtain ⟨column, inTables, cell⟩ := exists_of_collect_error inRow
        obtain ⟨other, run⟩ := collect_fails (f := referenceClosingValue data column.value
          (tables.assetsIndex.map fun index => (index, column.assets)) checked.1) listed cell
        obtain ⟨later, _, laterCell⟩ := exists_of_collect_error run
        have same : other = raised := by
          rw [referenceClosingValue_error laterCell, referenceClosingValue_error cell]
        refine ⟨column, inTables, ?_⟩
        rw [referenceCloses_eq _ (own column inTables), sessions, bind_ok, run, same]
      · rintro ⟨column, inTables, failed⟩
        rw [referenceCloses_eq _ (own column inTables), sessions, bind_ok] at failed
        obtain ⟨session, listed, cell⟩ := exists_of_collect_error failed
        obtain ⟨inRow, rowFails⟩ := collect_fails (f := fun column =>
          referenceClosingValue data column.value
            (tables.assetsIndex.map fun index => (index, column.assets)) checked.1 session)
          inTables cell
        obtain ⟨other, run⟩ := collect_fails (f := fun session => collect (fun column =>
          referenceClosingValue data column.value
            (tables.assetsIndex.map fun index => (index, column.assets)) checked.1 session)
          tables.columns) listed rowFails
        obtain ⟨later, _, laterRow⟩ := exists_of_collect_error run
        obtain ⟨otherColumn, _, otherCell⟩ := exists_of_collect_error laterRow
        rw [run, referenceClosingValue_error cell, referenceClosingValue_error otherCell]

/-- The frame and the reference loop select the same equity; the frame raises one of the
close errors exactly when all values are positive and finite and the loop raises it. -/
theorem session_closes_match_the_reference (policy : SessionPolicy F) (data : List (MarketRow F))
    (tables : PortfolioTables F) :
    (∀ rows, equityFrame policy data tables = .ok rows →
      ∀ (j : Nat) (column : PortfolioColumn F), tables.columns[j]? = some column → ∃ closes,
        referenceCloses policy data tables.index tables.assetsIndex column = .ok closes ∧
          rows.mapM (fun row : List F => row[j]?) = some closes) ∧
    (tables.columns ≠ [] → (∀ column ∈ tables.columns, ∃ closes,
        referenceCloses policy data tables.index tables.assetsIndex column = .ok closes) →
      ∃ rows, equityFrame policy data tables = .ok rows) ∧
    ∀ raised ∈ closeErrors, equityFrame policy data tables = .error raised ↔
      (∀ column ∈ tables.columns, columnIsUsable data column = true) ∧
        ∃ column ∈ tables.columns,
          referenceCloses policy data tables.index tables.assetsIndex column = .error raised := by
  refine ⟨fun rows ok j column present => equityFrame_column ok present,
    equityFrame_total, ?_⟩
  intro raised listed
  by_cases passed : ValuesChecked data tables.index tables.columns
  · rw [equityFrame_error_iff passed]
    exact (and_iff_right passed.usable).symm
  · have raises : equityFrame policy data tables ≠ .error raised := by
      rw [equityFrame]
      cases checks : valueChecks data tables.index tables.columns with
      | ok _ => exact absurd (valueChecks_eq_ok.mp checks) passed
      | error other =>
          intro same
          rw [← Except.error.inj same] at listed
          exact valueChecks_not_close checks listed
    refine iff_of_false raises ?_
    rintro ⟨usable, column, member, failed⟩
    have own : ¬ ValuesChecked data tables.index [column] := fun own => passed
      ⟨List.ne_nil_of_mem member, own.shown, own.sorted, usable, own.aligned⟩
    rw [referenceCloses] at failed
    cases checks : valueChecks data tables.index [column] with
    | ok _ => exact own (valueChecks_eq_ok.mp checks)
    | error other =>
        rw [checks] at failed
        rw [← Except.error.inj failed] at listed
        exact valueChecks_not_close checks listed

end Agreement

/-! ## A missing close beside a worthless portfolio -/

def threeSessions : SessionPolicy Int where
  interval := some 1
  schedule _ _ := [⟨0, 2⟩, ⟨10, 13⟩, ⟨20, 22⟩]
  statistics _ := (0, 0, 0)

/-- The bars of three sessions; the closing bar of the second, at 12, is missing. -/
def gappedBars : List (MarketRow Int) :=
  [0, 1, 10, 11, 20, 21].map fun time => ⟨time, 5, 5, 5, 5⟩

def settingColumn (value assets : List Int) : PortfolioColumn Int := ⟨0, 0, 0, 0, 0, 0, value, assets⟩

/-- A setting that holds a unit across the gap and one whose value reaches zero. -/
def gappedTables : PortfolioTables Int where
  columns := [settingColumn [9, 9, 9, 9, 9, 9] [1, 1, 1, 1, 1, 1],
    settingColumn [9, 9, 0, 9, 9, 9] [0, 0, 0, 0, 0, 0]]
  index := [0, 1, 10, 11, 20, 21]
  assetsIndex := some [0, 1, 10, 11, 20, 21]

/-- The loop raises a missing close for the first setting; the frame only sees bad values. -/
theorem bad_values_hide_a_missing_close :
    (∃ column ∈ gappedTables.columns, referenceCloses threeSessions gappedBars gappedTables.index
      gappedTables.assetsIndex column = .error missingClose) ∧
    ∀ raised ∈ closeErrors, equityFrame threeSessions gappedBars gappedTables ≠ .error raised := by
  constructor
  · refine ⟨settingColumn [9, 9, 9, 9, 9, 9] [1, 1, 1, 1, 1, 1], List.mem_cons_self, ?_⟩
    decide +kernel
  · have raises : equityFrame threeSessions gappedBars gappedTables = .error badValues := by
      decide +kernel
    intro raised listed same
    rw [raises] at same
    rw [← Except.error.inj same] at listed
    exact absurd listed (by decide)

end QuantFactory.Experiments
