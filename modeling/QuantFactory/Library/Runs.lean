import Mathlib.Data.List.Infix
import Mathlib.Logic.Function.Basic

/-!
# Runs of a step function

A run applies one action after another.  What every step preserves, every run
preserves; a reflexive and transitive relation between the state before and
after one step relates the first and the last state of a run.
-/

set_option autoImplicit false

namespace QuantFactory.Library

universe u v

section Run
variable {State : Type u} {Action : Type v} (step : State → Action → State)

def run : State → List Action → State
  | state, [] => state
  | state, action :: rest => run (step state action) rest

@[simp] theorem run_nil (state : State) : run step state [] = state := rfl

@[simp] theorem run_cons (state : State) (action : Action) (rest : List Action) :
    run step state (action :: rest) = run step (step state action) rest := rfl

theorem run_append (first second : List Action) : ∀ state : State,
    run step state (first ++ second) = run step (run step state first) second := by
  induction first with
  | nil => intro state; rfl
  | cons action rest ih => intro state; exact ih (step state action)

theorem run_invariant {Inv : State → Prop}
    (preserved : ∀ state action, Inv state → Inv (step state action)) (actions : List Action) :
    ∀ state : State, Inv state → Inv (run step state actions) := by
  induction actions with
  | nil => intro state holds; exact holds
  | cons action rest ih => intro state holds; exact ih _ (preserved state action holds)

/-- Every step of the run meets a condition on its state and action. -/
def Along (allowed : State → Action → Prop) : State → List Action → Prop
  | _, [] => True
  | state, action :: rest => allowed state action ∧ Along allowed (step state action) rest

instance decidableAlong {allowed : State → Action → Prop}
    [checked : ∀ state action, Decidable (allowed state action)] :
    ∀ state actions, Decidable (Along step allowed state actions)
  | _, [] => .isTrue trivial
  | state, action :: rest =>
      @instDecidableAnd _ _ (checked state action) (decidableAlong (step state action) rest)

/-- A condition on the action alone holds along every run of such actions. -/
theorem along_of_forall {allowed : State → Action → Prop} {actions : List Action}
    (all : ∀ action ∈ actions, ∀ state, allowed state action) :
    ∀ state : State, Along step allowed state actions := by
  induction actions with
  | nil => intro state; trivial
  | cons action rest ih =>
      intro state
      exact ⟨all action List.mem_cons_self state,
        ih (fun other member => all other (List.mem_cons_of_mem action member)) _⟩

theorem run_invariant_along {Inv : State → Prop} {allowed : State → Action → Prop}
    (preserved : ∀ state action, allowed state action → Inv state → Inv (step state action))
    (actions : List Action) :
    ∀ state : State, Along step allowed state actions → Inv state →
      Inv (run step state actions) := by
  induction actions with
  | nil => intro state _ holds; exact holds
  | cons action rest ih =>
      intro state along holds
      exact ih _ along.2 (preserved state action along.1 holds)

theorem run_relation {Related : State → State → Prop}
    (related : ∀ state action, Related state (step state action))
    (reflexive : ∀ state, Related state state)
    (transitive : ∀ a b c, Related a b → Related b c → Related a c) (actions : List Action) :
    ∀ state : State, Related state (run step state actions) := by
  induction actions with
  | nil => intro state; exact reflexive state
  | cons action rest ih => intro state; exact transitive _ _ _ (related state action) (ih _)

theorem run_relation_along {Related : State → State → Prop} {allowed : State → Action → Prop}
    (related : ∀ state action, allowed state action → Related state (step state action))
    (reflexive : ∀ state, Related state state)
    (transitive : ∀ a b c, Related a b → Related b c → Related a c) (actions : List Action) :
    ∀ state : State, Along step allowed state actions → Related state (run step state actions) := by
  induction actions with
  | nil => intro state _; exact reflexive state
  | cons action rest ih =>
      intro state along
      exact transitive _ _ _ (related state action along.1) (ih _ along.2)

theorem along_congr {first second : State → Action → Prop}
    (same : ∀ state action, first state action ↔ second state action) (actions : List Action) :
    ∀ state : State, Along step first state actions ↔ Along step second state actions := by
  induction actions with
  | nil => intro state; exact Iff.rfl
  | cons action rest ih => intro state; exact and_congr (same state action) (ih _)

theorem along_append {allowed : State → Action → Prop} (first second : List Action) :
    ∀ state : State, Along step allowed state (first ++ second) ↔
      Along step allowed state first ∧ Along step allowed (run step state first) second := by
  induction first with
  | nil => intro state; simp [Along]
  | cons action rest ih => intro state; simp [Along, ih, and_assoc]

/-- When a step keeps what is good exactly if it meets a condition, all states of a run are good
exactly if all its steps meet the condition. -/
theorem prefixes_iff_along (Good : State → Prop) {allowed : State → Action → Prop}
    (exactly : ∀ state action, Good state → (Good (step state action) ↔ allowed state action))
    (actions : List Action) : ∀ state : State, Good state →
      ((∀ earlier, earlier <+: actions → Good (run step state earlier)) ↔
        Along step allowed state actions) := by
  induction actions with
  | nil =>
      intro state good
      refine iff_of_true (fun earlier before => ?_) trivial
      rw [List.prefix_nil.mp before]
      exact good
  | cons action rest ih =>
      intro state good
      constructor
      · intro all
        have first : Good (step state action) := all [action] ⟨rest, rfl⟩
        refine ⟨(exactly state action good).mp first, (ih _ first).mp fun earlier before => ?_⟩
        exact all (action :: earlier) (List.cons_prefix_cons.mpr ⟨rfl, before⟩)
      · rintro ⟨allowed, later⟩ earlier before
        have first := (exactly state action good).mpr allowed
        cases earlier with
        | nil => exact good
        | cons other actions =>
            obtain ⟨rfl, tail⟩ := List.cons_prefix_cons.mp before
            exact (ih _ first).mpr later actions tail

theorem along_and {first second : State → Action → Prop} (actions : List Action) :
    ∀ state : State, Along step (fun state action => first state action ∧ second state action)
      state actions ↔ Along step first state actions ∧ Along step second state actions := by
  induction actions with
  | nil => intro state; simp [Along]
  | cons action rest ih => intro state; simp [Along, ih, and_assoc, and_left_comm]

/-! ## The steps of a run -/

/-- The steps of a run, each with the state it is taken in. -/
def trace : State → List Action → List (State × Action)
  | _, [] => []
  | state, action :: rest => (state, action) :: trace (step state action) rest

theorem trace_invariant {Inv : State → Prop}
    (preserved : ∀ state action, Inv state → Inv (step state action)) (actions : List Action) :
    ∀ state : State, Inv state → ∀ taken ∈ trace step state actions, Inv taken.1 := by
  induction actions with
  | nil => intro state _ taken member; cases member
  | cons action rest ih =>
      intro state holds taken member
      rcases List.mem_cons.mp member with rfl | later
      · exact holds
      · exact ih _ (preserved state action holds) taken later

/-! ## Visited states -/

def Visited (start : State) (actions : List Action) (state : State) : Prop :=
  ∃ earlier, earlier <+: actions ∧ run step start earlier = state

theorem visited_last (start : State) (actions : List Action) :
    Visited step start actions (run step start actions) :=
  ⟨actions, List.prefix_refl actions, rfl⟩

theorem visited_longer {start state : State} {actions : List Action}
    (visited : Visited step start actions state) (more : List Action) :
    Visited step start (actions ++ more) state := by
  obtain ⟨earlier, before, reached⟩ := visited
  exact ⟨earlier, before.trans (List.prefix_append actions more), reached⟩

theorem visited_rest {start state : State} {actions : List Action}
    (visited : Visited step start actions state) :
    ∃ earlier rest, actions = earlier ++ rest ∧ run step start earlier = state ∧
      run step start actions = run step state rest := by
  obtain ⟨earlier, ⟨rest, rfl⟩, rfl⟩ := visited
  exact ⟨earlier, rest, rfl, rfl, run_append step earlier rest start⟩

/-- An invariant may speak of the states already visited, of which it never loses one. -/
theorem run_invariant_visited {Inv : (State → Prop) → State → Prop}
    (wider : ∀ past later state, (∀ s, past s → later s) → Inv past state → Inv later state)
    (start : State) (initial : ∀ past, Inv past start)
    (preserved : ∀ actions action, Inv (Visited step start actions) (run step start actions) →
      Inv (Visited step start actions) (step (run step start actions) action))
    (actions : List Action) :
    Inv (Visited step start actions) (run step start actions) := by
  induction actions using List.reverseRecOn with
  | nil => exact initial _
  | append_singleton actions action ih =>
      have kept := preserved actions action ih
      rw [run_append]
      exact wider _ _ _ (fun state visited => visited_longer step visited [action]) kept

end Run

/-! ## Cells that do not share state -/

section Cells
variable {State : Type u} {Action : Type v} {Cell : Type} [DecidableEq Cell]
variable (step : State → Action → State)

def cellStep (cells : Cell → State) (call : Cell × Action) : Cell → State :=
  Function.update cells call.1 (step (cells call.1) call.2)

def ownActions (cell : Cell) (calls : List (Cell × Action)) : List Action :=
  (calls.filter (fun call => call.1 = cell)).map Prod.snd

theorem ownActions_cons_self (cell : Cell) (action : Action) (calls : List (Cell × Action)) :
    ownActions cell ((cell, action) :: calls) = action :: ownActions cell calls := by
  simp [ownActions]

theorem ownActions_cons_other {cell other : Cell} (different : other ≠ cell) (action : Action)
    (calls : List (Cell × Action)) :
    ownActions cell ((other, action) :: calls) = ownActions cell calls := by
  simp [ownActions, different]

/-- A condition on the cell a call is made on holds along that cell's own calls. -/
theorem along_cellStep (allowed : State → Action → Prop) (cell : Cell)
    (calls : List (Cell × Action)) : ∀ cells : Cell → State,
    Along (cellStep step) (fun cells call => allowed (cells call.1) call.2) cells calls →
      Along step allowed (cells cell) (ownActions cell calls) := by
  induction calls with
  | nil => intro cells _; trivial
  | cons call rest ih =>
      intro cells along
      obtain ⟨other, action⟩ := call
      have later := ih _ along.2
      by_cases same : other = cell
      · subst same
        rw [ownActions_cons_self]
        refine ⟨along.1, ?_⟩
        simpa [cellStep] using later
      · rw [ownActions_cons_other same]
        simpa [cellStep, Function.update_of_ne (Ne.symm same)] using later

end Cells

end QuantFactory.Library
