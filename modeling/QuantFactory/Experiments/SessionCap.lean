import Mathlib
import QuantFactory.Library.Runs

/-!
# The trade count per session

Two callbacks of the simulation share one column of state: the signal callback
drops entries before the engine acts on a bar, the post-order callback records
the fill that opened a position.  What the engine does on a bar is left open
but for one thing: a position is opened only on an entry it was given.
-/

set_option autoImplicit false

namespace QuantFactory.Experiments

open QuantFactory.Library

structure CapBar where
  longEntries : Bool
  longExits : Bool
  shortEntries : Bool
  shortExits : Bool
  session : Int
  hold : Int
  index : Int
  deriving DecidableEq

/-- The four rows of one column of `state`. -/
structure CapState where
  session : Int
  count : Int
  side : Int
  since : Int
  deriving DecidableEq

structure BarSignals where
  longEntry : Bool
  longExit : Bool
  shortEntry : Bool
  shortExit : Bool
  deriving DecidableEq

section Callbacks
variable {Size : Type} [Zero Size] [LinearOrder Size]

/-- A new session starts its count; a slot still taken is dropped when the column is flat. -/
def enterSession (bar : CapBar) (position : Size) (state : CapState) : CapState :=
  if bar.session ≠ state.session then
    { state with
      session := bar.session
      count := 0
      side := if position = 0 then 0 else state.side }
  else state

/-- A rule exit of the open trade's side, or its maximum hold. -/
def tradeEnds (bar : CapBar) (side since : Int) : Prop :=
  (side > 0 ∧ bar.longExits = true) ∨ (side < 0 ∧ bar.shortExits = true) ∨
    (bar.hold ≥ 0 ∧ bar.index - since ≥ bar.hold)

instance (bar : CapBar) (side since : Int) : Decidable (tradeEnds bar side since) := by
  unfold tradeEnds
  infer_instance

def sessionCapSignalNb (cap : Nat) (bar : CapBar) (position : Size) (state : CapState) :
    BarSignals × CapState :=
  let entered := enterSession bar position state
  let keepEntries : Bool := entered.side = 0 ∧ entered.count < cap
  let kept := if entered.side ≠ 0 ∧ tradeEnds bar entered.side entered.since then
    { entered with side := 0 } else entered
  ({ longEntry := bar.longEntries && keepEntries
     longExit := bar.longExits && decide (position > 0)
     shortEntry := bar.shortEntries && keepEntries
     shortExit := bar.shortExits && decide (position < 0) }, kept)

/-- What the engine did on a bar: whether its order opened a position, and the position after. -/
structure Fill (Size : Type) where
  opened : Bool
  position : Size

def recordTradeNb (bar : CapBar) (fill : Fill Size) (state : CapState) : CapState :=
  if fill.opened then
    { state with
      count := state.count + 1
      side := if fill.position > 0 then 1 else -1
      since := bar.index }
  else state

/-- `session_cap_kwargs`: no session yet, no trade taken. -/
def initialCapState : CapState := { session := -2, count := 0, side := 0, since := 0 }

end Callbacks

/-! ## One column of a simulation -/

structure Column (Size : Type) where
  state : CapState
  position : Size

structure Turn (Size : Type) where
  bar : CapBar
  fill : Fill Size

section Simulation
variable {Size : Type} [Zero Size] [LinearOrder Size]

def emitted (cap : Nat) (column : Column Size) (bar : CapBar) : BarSignals :=
  (sessionCapSignalNb cap bar column.position column.state).1

def columnStep (cap : Nat) (column : Column Size) (turn : Turn Size) : Column Size :=
  { state := recordTradeNb turn.bar turn.fill
      (sessionCapSignalNb cap turn.bar column.position column.state).2
    position := turn.fill.position }

/-- An order opens a long or a short position only on an entry of that side. -/
def Permitted (signals : BarSignals) (fill : Fill Size) : Prop :=
  fill.opened = true →
    (fill.position > 0 ∧ signals.longEntry = true) ∨
      (fill.position < 0 ∧ signals.shortEntry = true)

instance (signals : BarSignals) (fill : Fill Size) : Decidable (Permitted signals fill) := by
  unfold Permitted
  infer_instance

def EngineTurn (cap : Nat) (column : Column Size) (turn : Turn Size) : Prop :=
  Permitted (emitted cap column turn.bar) turn.fill

instance decidableEngineTurn (cap : Nat) (column : Column Size) (turn : Turn Size) :
    Decidable (EngineTurn cap column turn) := by
  unfold EngineTurn
  infer_instance

def initialColumn : Column Size := { state := initialCapState, position := 0 }

def openings (turns : List (Turn Size)) : Nat := turns.countP (fun turn => turn.fill.opened)

/-! ## One turn -/

section Turn
variable (cap : Nat) (column : Column Size) (turn : Turn Size)

theorem enterSession_session (bar : CapBar) (position : Size) (state : CapState) :
    (enterSession bar position state).session = bar.session := by
  unfold enterSession
  split
  · rfl
  · next same => exact (not_not.mp same).symm

theorem enterSession_since (bar : CapBar) (position : Size) (state : CapState) :
    (enterSession bar position state).since = state.since := by
  unfold enterSession
  split <;> rfl

theorem sessionCapSignalNb_session (bar : CapBar) (position : Size) (state : CapState) :
    (sessionCapSignalNb cap bar position state).2.session = bar.session := by
  rw [← enterSession_session bar position state]
  simp only [sessionCapSignalNb]
  split <;> rfl

theorem sessionCapSignalNb_count (bar : CapBar) (position : Size) (state : CapState) :
    (sessionCapSignalNb cap bar position state).2.count =
      (enterSession bar position state).count := by
  simp only [sessionCapSignalNb]
  split <;> rfl

/-- An entry passes only while the slot is free and the count is below the cap. -/
theorem entry_emitted (bar : CapBar)
    (entry : (emitted cap column bar).longEntry = true ∨
      (emitted cap column bar).shortEntry = true) :
    (enterSession bar column.position column.state).side = 0 ∧
      (enterSession bar column.position column.state).count < cap := by
  simp only [emitted, sessionCapSignalNb] at entry
  rcases entry with entry | entry
  · simpa using (Bool.and_eq_true_iff.mp entry).2
  · simpa using (Bool.and_eq_true_iff.mp entry).2

theorem opened_entry (permitted : EngineTurn cap column turn) (opened : turn.fill.opened = true) :
    (emitted cap column turn.bar).longEntry = true ∨
      (emitted cap column turn.bar).shortEntry = true := by
  rcases permitted opened with long | short
  · exact Or.inl long.2
  · exact Or.inr short.2

@[simp] theorem columnStep_session :
    (columnStep cap column turn).state.session = turn.bar.session := by
  rw [← sessionCapSignalNb_session cap turn.bar column.position column.state]
  simp only [columnStep, recordTradeNb]
  split <;> rfl

theorem columnStep_count :
    (columnStep cap column turn).state.count =
      (enterSession turn.bar column.position column.state).count +
        (if turn.fill.opened then 1 else 0) := by
  rw [← sessionCapSignalNb_count cap]
  simp only [columnStep, recordTradeNb]
  split <;> simp

end Turn

/-! ## The count of a session -/

def CountKept (cap : Nat) (column : Column Size) : Prop :=
  0 ≤ column.state.count ∧ column.state.count ≤ cap

omit [LinearOrder Size] in
theorem initialColumn_countKept (cap : Nat) : CountKept cap (initialColumn : Column Size) := by
  constructor
  · exact le_refl 0
  · exact Int.natCast_nonneg cap

theorem enterSession_countKept {cap : Nat} {column : Column Size} (kept : CountKept cap column)
    (bar : CapBar) :
    0 ≤ (enterSession bar column.position column.state).count ∧
      (enterSession bar column.position column.state).count ≤ cap := by
  unfold enterSession
  split
  · exact ⟨le_refl 0, Int.natCast_nonneg cap⟩
  · exact kept

theorem columnStep_countKept (cap : Nat) (column : Column Size) (turn : Turn Size)
    (permitted : EngineTurn cap column turn) (kept : CountKept cap column) :
    CountKept cap (columnStep cap column turn) := by
  have entered := enterSession_countKept kept turn.bar
  unfold CountKept
  rw [columnStep_count]
  by_cases opened : turn.fill.opened = true
  · have below := entry_emitted cap column turn.bar (opened_entry cap column turn permitted opened)
    rw [if_pos opened]
    constructor
    · omega
    · omega
  · rw [if_neg opened]
    simpa using entered

theorem run_countKept (cap : Nat) (turns : List (Turn Size))
    (engine : Along (columnStep cap) (EngineTurn cap) initialColumn turns) :
    CountKept cap (run (columnStep cap) initialColumn turns) :=
  run_invariant_along (columnStep cap) (columnStep_countKept cap) turns initialColumn engine
    (initialColumn_countKept cap)

theorem count_same_session (cap : Nat) (day : Int) (turns : List (Turn Size)) :
    ∀ column : Column Size, column.state.session = day →
      (∀ turn ∈ turns, turn.bar.session = day) →
      (run (columnStep cap) column turns).state.count =
        column.state.count + openings turns := by
  induction turns with
  | nil => intro column _ _; simp [openings]
  | cons turn rest ih =>
      intro column current same
      have today : turn.bar.session = day := same turn List.mem_cons_self
      have entered : enterSession turn.bar column.position column.state = column.state := by
        unfold enterSession
        rw [if_neg (by simp [today, current])]
      have later := ih (columnStep cap column turn) (by simp [today])
        (fun other member => same other (List.mem_cons_of_mem turn member))
      rw [run_cons, later, columnStep_count, entered]
      by_cases opened : turn.fill.opened = true
      · simp [openings, opened]
        omega
      · simp [openings, opened]

theorem openings_le_count {cap : Nat} {day : Int} {turns : List (Turn Size)}
    {column : Column Size} (kept : CountKept cap column)
    (same : ∀ turn ∈ turns, turn.bar.session = day) (some : turns ≠ []) :
    openings turns ≤ (run (columnStep cap) column turns).state.count := by
  cases turns with
  | nil => exact absurd rfl some
  | cons turn rest =>
      have entered := (enterSession_countKept kept turn.bar).1
      have counted := count_same_session cap day rest (columnStep cap column turn)
        (by simp [same turn List.mem_cons_self])
        (fun other member => same other (List.mem_cons_of_mem turn member))
      rw [run_cons, counted, columnStep_count]
      by_cases opened : turn.fill.opened = true
      · simp [openings, opened]
        omega
      · simp [openings, opened]
        omega

/-- A stretch of bars of one session sees at most `cap` opening fills. -/
theorem stretch_openings {cap : Nat} {day : Int} (before stretch : List (Turn Size))
    (engine : Along (columnStep cap) (EngineTurn cap) initialColumn (before ++ stretch))
    (same : ∀ turn ∈ stretch, turn.bar.session = day) : openings stretch ≤ cap := by
  by_cases none : stretch = []
  · simp [none, openings]
  · have split := (along_append (columnStep cap) before stretch initialColumn).mp engine
    have kept := run_countKept cap before split.1
    have counted := openings_le_count kept same none
    have whole := (run_countKept cap (before ++ stretch) engine).2
    rw [run_append] at whole
    omega

/-! ## The open trade -/

/-- What frees the slot on a bar: a new session while flat, or the end of the trade. -/
def Releases (side since : Int) (column : Column Size) (bar : CapBar) : Prop :=
  (bar.session ≠ column.state.session ∧ column.position = 0) ∨ tradeEnds bar side since

instance (side since : Int) (column : Column Size) (bar : CapBar) :
    Decidable (Releases side since column bar) := by
  unfold Releases
  infer_instance

def Holds (side since : Int) (column : Column Size) : Prop :=
  column.state.side = side ∧ column.state.since = since ∧ side ≠ 0

theorem enterSession_side_kept {column : Column Size} {bar : CapBar}
    (kept : ¬ (bar.session ≠ column.state.session ∧ column.position = 0)) :
    (enterSession bar column.position column.state).side = column.state.side := by
  unfold enterSession
  split
  · next moved =>
      have held : column.position ≠ 0 := fun flat => kept ⟨moved, flat⟩
      simp [held]
  · rfl

theorem taken_no_entry (cap : Nat) (column : Column Size) (bar : CapBar)
    (taken : (enterSession bar column.position column.state).side ≠ 0) :
    (emitted cap column bar).longEntry = false ∧ (emitted cap column bar).shortEntry = false := by
  constructor
  · by_contra entry
    exact taken (entry_emitted cap column bar (Or.inl (by simpa using entry))).1
  · by_contra entry
    exact taken (entry_emitted cap column bar (Or.inr (by simpa using entry))).1

/-- A slot whose trade does not end on the bar is left as the session found it. -/
theorem sessionCapSignalNb_kept (cap : Nat) {bar : CapBar} {position : Size} {state : CapState}
    (goesOn : ¬ tradeEnds bar (enterSession bar position state).side
      (enterSession bar position state).since) :
    (sessionCapSignalNb cap bar position state).2 = enterSession bar position state := by
  simp only [sessionCapSignalNb]
  rw [if_neg (fun ends => goesOn ends.2)]

/-- Nothing but a release frees the slot, and no order opens a position before it. -/
theorem held_step {cap : Nat} {side since : Int} {column : Column Size} {turn : Turn Size}
    (holds : Holds side since column) (engine : EngineTurn cap column turn)
    (kept : ¬ Releases side since column turn.bar) :
    Holds side since (columnStep cap column turn) ∧ turn.fill.opened = false := by
  obtain ⟨hside, hsince, taken⟩ := holds
  have entered : (enterSession turn.bar column.position column.state).side = side := by
    rw [enterSession_side_kept (fun fresh => kept (Or.inl fresh)), hside]
  have entries := taken_no_entry cap column turn.bar (by rw [entered]; exact taken)
  have closed : turn.fill.opened = false := by
    by_contra opened
    have entry := opened_entry cap column turn engine (by simpa using opened)
    simp [entries.1, entries.2] at entry
  have goesOn : ¬ tradeEnds turn.bar (enterSession turn.bar column.position column.state).side
      (enterSession turn.bar column.position column.state).since := by
    rw [entered, enterSession_since, hsince]
    exact fun ends => kept (Or.inr ends)
  have after : (columnStep cap column turn).state =
      enterSession turn.bar column.position column.state := by
    simp [columnStep, recordTradeNb, closed, sessionCapSignalNb_kept cap goesOn]
  refine ⟨⟨?_, ?_, taken⟩, closed⟩
  · rw [after, entered]
  · rw [after, enterSession_since, hsince]

/-- The slot stays taken, and nothing opens, until a release. -/
theorem held_run {cap : Nat} {side since : Int} (turns : List (Turn Size)) :
    ∀ column : Column Size, Holds side since column →
      Along (columnStep cap) (EngineTurn cap) column turns →
      Along (columnStep cap) (fun column turn => ¬ Releases side since column turn.bar)
        column turns →
      Holds side since (run (columnStep cap) column turns) ∧ openings turns = 0 := by
  induction turns with
  | nil => intro column holds _ _; exact ⟨holds, rfl⟩
  | cons turn rest ih =>
      intro column holds engine kept
      obtain ⟨still, closed⟩ := held_step holds engine.1 kept.1
      obtain ⟨last, none⟩ := ih _ still engine.2 kept.2
      refine ⟨last, ?_⟩
      simpa [openings, closed] using none

theorem released_slot {cap : Nat} {side since : Int} {column : Column Size} {bar : CapBar}
    (holds : Holds side since column) (released : Releases side since column bar) :
    (sessionCapSignalNb cap bar column.position column.state).2.side = 0 := by
  obtain ⟨hside, hsince, taken⟩ := holds
  by_cases fresh : bar.session ≠ column.state.session ∧ column.position = 0
  · simp [sessionCapSignalNb, enterSession, fresh.1, fresh.2]
  · have ends : tradeEnds bar side since := released.resolve_left fresh
    have entered : (enterSession bar column.position column.state).side = side := by
      rw [enterSession_side_kept fresh, hside]
    have now : (enterSession bar column.position column.state).since = since := by
      rw [enterSession_since, hsince]
    simp [sessionCapSignalNb, entered, now, taken, ends]

def openedSide (fill : Fill Size) : Int := if fill.position > 0 then 1 else -1

theorem openedSide_ne_zero (fill : Fill Size) : openedSide fill ≠ 0 := by
  unfold openedSide
  split <;> decide

theorem opened_holds (cap : Nat) (column : Column Size) {turn : Turn Size}
    (opened : turn.fill.opened = true) :
    Holds (openedSide turn.fill) turn.bar.index (columnStep cap column turn) := by
  refine ⟨?_, ?_, openedSide_ne_zero turn.fill⟩
  · simp [columnStep, recordTradeNb, opened, openedSide]
  · simp [columnStep, recordTradeNb, opened]

/-! ## Any number of columns -/

abbrev CapCall (columns : Nat) (Size : Type) : Type := Fin columns × Turn Size

def initialColumns (columns : Nat) : Fin columns → Column Size := fun _ => initialColumn

/-- Every turn of the simulation is one the engine may take on its column. -/
def Simulated (cap : Nat) {columns : Nat} (calls : List (CapCall columns Size)) : Prop :=
  Along (cellStep (columnStep cap)) (fun state call => EngineTurn cap (state call.1) call.2)
    (initialColumns columns) calls

instance {columns : Nat} (cap : Nat) (calls : List (CapCall columns Size)) :
    Decidable (Simulated cap calls) := by
  unfold Simulated
  infer_instance

/-- The trade an opening fill started is still open after the turns that follow it. -/
def OpenThrough (cap : Nat) (before : List (Turn Size)) (opening : Turn Size)
    (during : List (Turn Size)) : Prop :=
  opening.fill.opened = true ∧
    Along (columnStep cap)
      (fun column turn =>
        ¬ Releases (openedSide opening.fill) opening.bar.index column turn.bar)
      (run (columnStep cap) initialColumn (before ++ [opening])) during

theorem openThrough_holds {cap : Nat} {before during : List (Turn Size)} {opening : Turn Size}
    (engine : Along (columnStep cap) (EngineTurn cap) initialColumn
      (before ++ opening :: during))
    (still : OpenThrough cap before opening during) :
    Holds (openedSide opening.fill) opening.bar.index
        (run (columnStep cap) initialColumn (before ++ opening :: during)) ∧
      openings during = 0 := by
  have split := (along_append (columnStep cap) before (opening :: during) initialColumn).mp engine
  have started := opened_holds cap (run (columnStep cap) initialColumn before) still.1
  have unreleased := still.2
  rw [run_append, run_cons, run_nil] at unreleased
  have kept := held_run during _ started split.2.2 unreleased
  rw [run_append, run_cons]
  exact kept

/-- In every simulation and on every column of it: a stretch of bars of one session sees at most
`cap` opening fills, so does a session all of whose bars are consecutive; the slot an opening
fill takes stays taken, and nothing opens, until a release, whatever closes the position; a
release frees it; and the bar on which the trade ends emits no entry. -/
theorem session_cap_machine {columns : Nat} (cap : Nat) (calls : List (CapCall columns Size))
    (simulated : Simulated cap calls) (col : Fin columns) :
    (∀ before stretch after day, ownActions col calls = before ++ stretch ++ after →
      (∀ turn ∈ stretch, turn.bar.session = day) →
      openings stretch ≤ cap ∧
        ((∀ turn ∈ before ++ after, turn.bar.session ≠ day) →
          openings ((ownActions col calls).filter (fun turn => turn.bar.session = day)) ≤ cap)) ∧
    (∀ before opening during after,
      ownActions col calls = before ++ opening :: during ++ after →
      OpenThrough cap before opening during →
      let column := run (columnStep cap) initialColumn (before ++ opening :: during)
      Holds (openedSide opening.fill) opening.bar.index column ∧ openings during = 0 ∧
        ∀ bar, Releases (openedSide opening.fill) opening.bar.index column bar →
          (sessionCapSignalNb cap bar column.position column.state).2.side = 0 ∧
          (¬ (bar.session ≠ column.state.session ∧ column.position = 0) →
            (emitted cap column bar).longEntry = false ∧
              (emitted cap column bar).shortEntry = false)) := by
  have engine := along_cellStep (columnStep cap) (EngineTurn cap) col calls
    (initialColumns columns) simulated
  constructor
  · intro before stretch after day own same
    have engine' : Along (columnStep cap) (EngineTurn cap) initialColumn
        (before ++ stretch ++ after) := by
      rw [← own]
      exact engine
    have counted := stretch_openings before stretch
      ((along_append (columnStep cap) (before ++ stretch) after initialColumn).mp engine').1 same
    refine ⟨counted, fun elsewhere => ?_⟩
    rw [own, List.filter_append, List.filter_append]
    have none : ∀ part : List (Turn Size), (∀ turn ∈ part, turn ∈ before ++ after) →
        part.filter (fun turn => turn.bar.session = day) = [] := by
      intro part inside
      apply List.filter_eq_nil_iff.mpr
      intro turn member
      simpa using elsewhere turn (inside turn member)
    rw [none before (by simp +contextual), none after (by simp +contextual),
      List.filter_eq_self.mpr (by simpa using same)]
    simpa using counted
  · intro before opening during after own still column
    have engine' : Along (columnStep cap) (EngineTurn cap) initialColumn
        (before ++ opening :: during ++ after) := by
      rw [← own]
      exact engine
    have first := (along_append (columnStep cap) (before ++ opening :: during) after
      initialColumn).mp engine'
    obtain ⟨holds, none⟩ := openThrough_holds first.1 still
    refine ⟨holds, none, fun bar released => ⟨released_slot holds released, fun stays => ?_⟩⟩
    apply taken_no_entry cap column bar
    rw [enterSession_side_kept stays, holds.1]
    exact holds.2.2

end Simulation

/-! ## A day with a stop -/

section Sample

def sampleBar (day index : Int) (entry exit : Bool) : CapBar :=
  { longEntries := entry, longExits := exit, shortEntries := false, shortExits := false
    session := day, hold := -1, index := index }

def bought (day index : Int) : Turn Int := ⟨sampleBar day index true false, ⟨true, 1⟩⟩

/-- The stop closes the position on a bar that has an entry signal again. -/
def stopped (day index : Int) : Turn Int := ⟨sampleBar day index true false, ⟨false, 0⟩⟩

def sold (day index : Int) : Turn Int := ⟨sampleBar day index false true, ⟨false, 0⟩⟩

def stoppedDay : List (CapCall 1 Int) := [(0, bought 4 0), (0, stopped 4 1), (0, stopped 4 2)]

theorem stoppedDay_machine :
    openings ((ownActions 0 stoppedDay).filter (fun turn => turn.bar.session = 4)) ≤ 1 ∧
      Holds 1 0 (run (columnStep 1) initialColumn (ownActions 0 stoppedDay)) ∧
      (emitted 1 (run (columnStep 1) initialColumn (ownActions 0 stoppedDay))
        (sampleBar 4 3 true true)).longEntry = false := by
  have machine := session_cap_machine 1 stoppedDay (by decide) 0
  constructor
  · exact (machine.1 [] (ownActions 0 stoppedDay) [] 4 (by simp)
      (by decide)).2 (by simp)
  · have unreleased := machine.2 [] (bought 4 0) [stopped 4 1, stopped 4 2] [] (by rfl)
      ⟨rfl, by decide⟩
    exact ⟨unreleased.1, ((unreleased.2.2 (sampleBar 4 3 true true) (by decide)).2 (by decide)).1⟩

/-- Bars outside a session all carry the id -1; a session between them starts their count anew. -/
def aroundSession : List (CapCall 1 Int) := [(0, bought (-1) 0), (0, sold 0 1), (0, bought (-1) 2)]

theorem outside_sessions_counted_anew :
    Simulated 1 aroundSession ∧
      ¬ openings ((ownActions 0 aroundSession).filter (fun turn => turn.bar.session = -1)) ≤ 1 := by
  decide

end Sample

end QuantFactory.Experiments
