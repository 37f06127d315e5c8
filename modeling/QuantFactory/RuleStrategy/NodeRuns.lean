import QuantFactory.RuleStrategy.ArrayRuns
import QuantFactory.RuleStrategy.CacheKeys

/-!
# Runs of the nodes

A node evaluated by reference, through a cache that other settings have filled,
comes to what it is by contents.  The induction is over the grammar of accepted
series, and the invariant is that every entry of the cache holds the value of
each accepted node with its key.
-/

set_option autoImplicit false

namespace QuantFactory.RuleStrategy

open QuantFactory.Library QuantFactory.Library.MemoStore QuantFactory.Python
  QuantFactory.RuleLanguage

variable {F A : Type} [PyFloat F]

def nodeOn {m : Type → Type} [Monad m] {R : Type} (machine : ArrayMachine F m R)
    (interpreter : Interpreter F) (bars : SessionBars R F) (depth : Nat) :
    NodeKind → PyValue F → m R
  | .series, node => series machine interpreter bars depth node
  | .condition, node => condition machine interpreter bars depth node
  | .distance, node => distanceFraction machine interpreter bars depth node
  | .sides, node => do
      let signals ← machine.raised _ (conditionItems node)
      sidesOf machine interpreter bars depth signals

section Runs
variable (library : ArrayLibrary F A) (bound : MemoStore.Bound A) (interpreter : Interpreter F)
  (v : Validator F) (bars : SessionBars A F)

/-- What an entry of the cache means: the value of every accepted node with its key. -/
def Meaning (key : String) (value : A) : Prop :=
  ∀ kind node parameters depth, Admissible v kind node → node.depth ≤ depth →
    (bars.withParameters parameters).key interpreter kind node = .ok key →
    nodeOn (valueMachine library) interpreter (bars.withParameters parameters) depth kind node =
      .ok value

def Evaluates (run : ArrayRun A Nat) (value : Except EvaluationError A) : Prop :=
  ∀ store, Sound pinnedCells (Meaning library interpreter v bars) store →
    store.HoldsAll (priceCells bars) →
    Computes pinnedCells (Meaning library interpreter v bars) store (Returned pinnedCells store)
      (run store) value

/-- A node evaluates so in any two settings that agree on it, to any depths that suffice. -/
def NodeRuns (kind : NodeKind) (node : PyValue F) : Prop :=
  ∀ first second depth other, Agree first second node → node.depth ≤ depth →
    node.depth ≤ other → Evaluates library interpreter v bars
      (nodeOn (heapMachine library bound) interpreter (bars.located first) depth kind node)
      (nodeOn (valueMachine library) interpreter (bars.withParameters second) other kind node)

end Runs

section Cached
variable {library : ArrayLibrary F A} {bound : MemoStore.Bound A} {interpreter : Interpreter F}
  {v : Validator F} {bars : SessionBars A F} {meaning : String → A → Prop}
  {start store : MemoStore String A}

omit [PyFloat F] in
theorem raised_agree_then {α γ δ : Type} {next : MemoStore String A → γ → δ → Prop} {pinned : Nat}
    {left right : Except EvaluationError α} {f : α → ArrayRun A γ}
    {g : α → Except EvaluationError δ} (same : left = right)
    (rest : ∀ value, right = .ok value →
      Computes pinned meaning start next (f value store) (g value)) :
    Computes pinned meaning start next
      (((heapMachine (F := F) library bound).raised α left >>= f) store)
      ((valueMachine library).raised α right >>= g) := by
  subst same
  exact raised_then rest

/-- What the cache holds under a key is told by any run of a node with that key. -/
theorem meaning_of_run {kind : NodeKind} {node : PyValue F} {key : String}
    {parameters : Entries F}
    (json : ∀ value other, Persistence.normalize value = .ok value →
      Persistence.normalize other = .ok other →
      interpreter.jsonDumps value = interpreter.jsonDumps other → value = other)
    (admissible : Admissible v kind node)
    (isKey : (bars.located parameters).key interpreter kind node = .ok key) {value : A}
    (told : ∀ other depth, Agree parameters other node → node.depth ≤ depth →
      (bars.withParameters other).key interpreter kind node = .ok key →
      nodeOn (valueMachine library) interpreter (bars.withParameters other) depth kind node =
        .ok value) : Meaning library interpreter v bars key value := by
  intro kind' node' other depth admissible' within isKey'
  obtain ⟨rfl, same, agree⟩ := key_injective json isKey isKey'
  obtain rfl := admissible.unique admissible' same
  exact told other depth (agree rfl) within isKey'

theorem cached_runs {kind : NodeKind} {node : PyValue F}
    (json : ∀ value other, Persistence.normalize value = .ok value →
      Persistence.normalize other = .ok other →
      interpreter.jsonDumps value = interpreter.jsonDumps other → value = other)
    (admissible : Admissible v kind node)
    (heap : Entries F → Nat → ArrayRun A Nat)
    (value : Entries F → Nat → Except EvaluationError A)
    (onHeap : ∀ parameters depth, node.depth ≤ depth →
      nodeOn (heapMachine library bound) interpreter (bars.located parameters) depth kind node =
        cachedNode (heapMachine library bound) interpreter (bars.located parameters) kind node
          (heap parameters depth))
    (onValue : ∀ parameters depth, node.depth ≤ depth →
      nodeOn (valueMachine library) interpreter (bars.withParameters parameters) depth kind node =
        cachedNode (valueMachine library) interpreter (bars.withParameters parameters) kind node
          (value parameters depth))
    (runs : ∀ first second depth other, Agree first second node → node.depth ≤ depth →
      node.depth ≤ other →
      Evaluates library interpreter v bars (heap first depth) (value second other)) :
    NodeRuns library bound interpreter v bars kind node := by
  intro first second depth other agree within within' store sound prices
  rw [onHeap first depth within, onValue second other within']
  refine raised_agree_then (key_agree agree) fun key isKey => ?_
  have keyed : ∀ parameters depth, node.depth ≤ depth →
      (bars.withParameters parameters).key interpreter kind node = .ok key →
      nodeOn (valueMachine library) interpreter (bars.withParameters parameters) depth kind node =
        value parameters depth := by
    intro parameters depth within isKey
    rw [onValue parameters depth within]
    change (bars.withParameters parameters).key interpreter kind node >>= (fun _ => _) = _
    rw [isKey]
    rfl
  refine memo_computes sound (fun found means => ?_)
    (runs first second depth other agree within within' store sound prices)
    fun ref after found computed holds => ?_
  · rw [← keyed second other within' isKey]
    exact means kind node second other admissible within' isKey
  · refine meaning_of_run json admissible ((key_agree agree).trans isKey)
      fun parameters depth' agree' enough isKey' => ?_
    have run := runs first parameters depth depth' agree' within enough store sound prices
    rw [computed] at run
    rw [keyed parameters depth' enough isKey']
    cases result : value parameters depth' with
    | error raised =>
        rw [result] at run
        exact run.elim
    | ok expected =>
        rw [result] at run
        have returned : after.Holds ref expected := run.2.2.holds
        rw [Holds, holds] at returned
        rw [Option.some.inj returned]

end Cached

end QuantFactory.RuleStrategy
