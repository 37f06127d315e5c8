import QuantFactory.Library.Runs
import QuantFactory.Library.Table

/-!
# A server with a request log

A server carries a request out by a list of writes to its world, each of them a
transaction, answers from the world they leave, and records the answer in a log
with one row a request key.  A request whose key is in the log is answered from
its row.  A crash may fall before, between and after the writes; the log row is
the last write of a request, so it is lost with any of them.
-/

set_option autoImplicit false

namespace QuantFactory.Library

/-- What carrying out one request writes, and the answer read after it. -/
structure Carried (World Response : Type) where
  writes : List (World → World)
  answer : World → Response

/-- Every answer that is logged is logged under the key of its request. -/
structure Server (World Request Response Row Key : Type) where
  key : Request → Key
  logged : Request → Bool
  carry : World → Request → Carried World Response
  rowKey : Row → Key
  row : Request → Response → Row
  keyed : ∀ request response, rowKey (row request response) = key request
  replay : Row → Request → Response

inductive ServerAction (World Request : Type) where
  /-- A request served to its end, or up to a crash after that many writes. -/
  | serve (request : Request) (crash : Option Nat)
  | outside (change : World → World)

section Server
variable {World Request Response Row Key : Type} [DecidableEq Key]
  (server : Server World Request Response Row Key)

structure ServerState where
  world : World
  log : Table Row Key server.rowKey

def committed (writes : List (World → World)) (world : World) : World :=
  writes.foldl (fun world write => write world) world

variable {server}

def recorded (state : ServerState server) (request : Request) : Option Row :=
  if server.logged request then state.log.get (server.key request) else none

def pending (state : ServerState server) (request : Request) : Carried World Response :=
  match recorded state request with
  | some row => ⟨[], fun _ => server.replay row request⟩
  | none => server.carry state.world request

def answered (state : ServerState server) (request : Request) : Response :=
  (pending state request).answer (committed (pending state request).writes state.world)

/-- The log after a request is served; `INSERT OR IGNORE` leaves a taken key alone. -/
def logAfter (state : ServerState server) (request : Request) :
    Table Row Key server.rowKey :=
  if server.logged request then
    (state.log.insert (server.row request (answered state request))).getD state.log
  else state.log

def serverStep (state : ServerState server) : ServerAction World Request → ServerState server
  | .serve request none =>
      ⟨committed (pending state request).writes state.world, logAfter state request⟩
  | .serve request (some count) =>
      ⟨committed ((pending state request).writes.take count) state.world, state.log⟩
  | .outside change => ⟨change state.world, state.log⟩

/-! ## Counting -/

def takesEffect (key : Key) (state : ServerState server) : ServerAction World Request → Bool
  | .serve request none => server.logged request && server.key request = key &&
      !(pending state request).writes.isEmpty
  | .serve request (some count) => server.logged request && server.key request = key &&
      !((pending state request).writes.take count).isEmpty
  | .outside _ => false

/-- The server crashes after a write of a request with the key, before its log row. -/
def crashesAfterWrite (key : Key) (state : ServerState server) :
    ServerAction World Request → Bool
  | .serve _ none => false
  | action => takesEffect key state action

/-- How often a run passes a test of its state and action. -/
def occurrences (test : ServerState server → ServerAction World Request → Bool) :
    ServerState server → List (ServerAction World Request) → Nat
  | _, [] => 0
  | state, action :: rest =>
      (test state action).toNat + occurrences test (serverStep state action) rest

/-! ## One row a key -/

section Log
variable {state : ServerState server} {key : Key} {row : Row}

theorem logAfter_get_of_row (found : state.log.get key = some row) (request : Request) :
    (logAfter state request).get key = some row := by
  unfold logAfter
  split_ifs with logged
  · cases inserted : state.log.insert (server.row request (answered state request)) with
    | none => exact found
    | some next =>
        have absent := (Table.insert_some_iff.mp inserted).1
        have other : key ≠ server.rowKey (server.row request (answered state request)) := by
          rintro rfl
          rw [found] at absent
          cases absent
        rw [Option.getD_some, Table.get_insert inserted, if_neg other, found]
  · exact found

theorem logAfter_get_self {request : Request} (logged : server.logged request = true)
    (fresh : state.log.get (server.key request) = none) :
    (logAfter state request).get (server.key request) =
      some (server.row request (answered state request)) := by
  have keyed := server.keyed request (answered state request)
  unfold logAfter
  rw [if_pos logged]
  cases inserted : state.log.insert (server.row request (answered state request)) with
  | none =>
      have free : state.log.get (server.rowKey (server.row request (answered state request))) =
          none := by rw [keyed, fresh]
      rw [Table.insert, dif_neg (Table.get_eq_none_iff.mp free)] at inserted
      cases inserted
  | some next => rw [Option.getD_some, Table.get_insert inserted, keyed, if_pos rfl]

theorem serverStep_get_of_row (found : state.log.get key = some row)
    (action : ServerAction World Request) :
    (serverStep state action).log.get key = some row := by
  rcases action with ⟨request, _ | count⟩ | change
  · exact logAfter_get_of_row found request
  · exact found
  · exact found

theorem run_get_of_row (found : state.log.get key = some row)
    (actions : List (ServerAction World Request)) :
    (run serverStep state actions).log.get key = some row := by
  induction actions generalizing state with
  | nil => exact found
  | cons action rest ih => exact ih (serverStep_get_of_row found action)

theorem trace_get_of_row (found : state.log.get key = some row)
    {actions : List (ServerAction World Request)}
    {taken : ServerState server × ServerAction World Request}
    (member : taken ∈ trace serverStep state actions) : taken.1.log.get key = some row :=
  have preserved : ∀ (state : ServerState server) (action : ServerAction World Request),
      state.log.get key = some row → (serverStep state action).log.get key = some row :=
    fun _ action found => serverStep_get_of_row found action
  trace_invariant serverStep preserved actions state found taken member

/-- A request whose key is in the log writes nothing and is answered from the row. -/
theorem pending_of_row {request : Request} (logged : server.logged request = true)
    (found : state.log.get (server.key request) = some row) :
    (pending state request).writes = [] ∧ answered state request = server.replay row request := by
  have fromLog : recorded state request = some row := by rw [recorded, if_pos logged, found]
  simp [answered, pending, fromLog, committed]

end Log

/-! ## At most once -/

section Once
variable {state : ServerState server} {key : Key}

theorem no_row_of_writes {request : Request} (logged : server.logged request = true)
    (writes : (pending state request).writes ≠ []) :
    state.log.get (server.key request) = none := by
  cases found : state.log.get (server.key request) with
  | none => rfl
  | some row => exact absurd (pending_of_row logged found).1 writes

/-- One more effect is possible as long as the key has no row. -/
def effectsLeft (key : Key) (state : ServerState server) : Nat :=
  if (state.log.get key).isSome then 0 else 1

theorem effectsLeft_step (action : ServerAction World Request) :
    effectsLeft key (serverStep state action) ≤ effectsLeft key state := by
  unfold effectsLeft
  cases found : state.log.get key with
  | none => split_ifs <;> simp_all
  | some row => simp [serverStep_get_of_row found action]

theorem effect_step (action : ServerAction World Request) :
    (takesEffect key state action).toNat + effectsLeft key (serverStep state action) ≤
      (crashesAfterWrite key state action).toNat + effectsLeft key state := by
  have less : effectsLeft key (serverStep state action) ≤ effectsLeft key state :=
    effectsLeft_step action
  rcases action with ⟨request, _ | count⟩ | change
  · cases effect : takesEffect key state (.serve request none) with
    | false => simpa using Nat.le_add_left_of_le less
    | true =>
        simp only [takesEffect, Bool.and_eq_true, decide_eq_true_eq, Bool.not_eq_true',
          List.isEmpty_eq_false_iff] at effect
        obtain ⟨⟨logged, rfl⟩, writes⟩ := effect
        have fresh := no_row_of_writes logged writes
        have now := logAfter_get_self logged fresh
        simp [effectsLeft, serverStep, now, fresh]
  · exact Nat.add_le_add_left less _
  · exact Nat.add_le_add_left less _

/-- Over a run a key takes effect at most once more than the server crashes between a
write of it and its row. -/
theorem occurrences_takesEffect (key : Key) (actions : List (ServerAction World Request)) :
    ∀ state : ServerState server, occurrences (takesEffect key) state actions ≤
      occurrences (crashesAfterWrite key) state actions + effectsLeft key state := by
  induction actions with
  | nil => intro state; exact Nat.zero_le _
  | cons action rest ih =>
      intro state
      have here : (takesEffect key state action).toNat + effectsLeft key (serverStep state action) ≤
          (crashesAfterWrite key state action).toNat + effectsLeft key state := effect_step action
      have later := ih (serverStep state action)
      simp only [occurrences]
      omega

theorem writes_of_effect {action : ServerAction World Request}
    (effect : takesEffect key state action = true) :
    ∃ request, server.logged request = true ∧ server.key request = key ∧
      (pending state request).writes ≠ [] := by
  rcases action with ⟨request, _ | count⟩ | change
  · simp only [takesEffect, Bool.and_eq_true, decide_eq_true_eq, Bool.not_eq_true',
      List.isEmpty_eq_false_iff] at effect
    exact ⟨request, effect.1.1, effect.1.2, effect.2⟩
  · simp only [takesEffect, Bool.and_eq_true, decide_eq_true_eq, Bool.not_eq_true',
      List.isEmpty_eq_false_iff] at effect
    exact ⟨request, effect.1.1, effect.1.2, fun none => effect.2 (by rw [none, List.take_nil])⟩
  · exact absurd effect Bool.false_ne_true

theorem takesEffect_of_row {row : Row} (found : state.log.get key = some row)
    (action : ServerAction World Request) : takesEffect key state action = false := by
  refine Bool.eq_false_iff.mpr fun effect => ?_
  obtain ⟨request, logged, rfl, writes⟩ := writes_of_effect effect
  rw [no_row_of_writes logged writes] at found
  cases found

theorem row_of_effect {action : ServerAction World Request}
    (effect : takesEffect key state action = true)
    (finished : crashesAfterWrite key state action = false) :
    ∃ row, (serverStep state action).log.get key = some row := by
  rcases action with ⟨request, _ | count⟩ | change
  · simp only [takesEffect, Bool.and_eq_true, decide_eq_true_eq, Bool.not_eq_true',
      List.isEmpty_eq_false_iff] at effect
    obtain ⟨⟨logged, rfl⟩, writes⟩ := effect
    exact ⟨_, logAfter_get_self logged (no_row_of_writes logged writes)⟩
  · exact absurd effect (Bool.eq_false_iff.mp finished)
  · exact absurd effect Bool.false_ne_true

theorem occurrences_eq_zero {test : ServerState server → ServerAction World Request → Bool}
    (actions : List (ServerAction World Request)) : ∀ state : ServerState server,
    (∀ taken ∈ trace serverStep state actions, test taken.1 taken.2 = false) →
      occurrences test state actions = 0 := by
  induction actions with
  | nil => intro state _; rfl
  | cons action rest ih =>
      intro state none
      have here : test state action = false := none _ List.mem_cons_self
      have later := ih (serverStep state action) fun taken member =>
        none taken (List.mem_cons_of_mem _ member)
      simp [occurrences, here, later]

/-- A key takes effect at most once when no crash after a write of it is followed by
another effect of it. -/
theorem occurrences_le_one (key : Key) (actions : List (ServerAction World Request)) :
    ∀ state : ServerState server, (trace serverStep state actions).Pairwise
      (fun earlier later => crashesAfterWrite key earlier.1 earlier.2 = true →
        takesEffect key later.1 later.2 = false) →
      occurrences (takesEffect key) state actions ≤ 1 := by
  induction actions with
  | nil => intro state _; exact Nat.zero_le 1
  | cons action rest ih =>
      intro state quiet
      obtain ⟨after, rest_quiet⟩ := List.pairwise_cons.mp quiet
      have later := ih (serverStep state action) rest_quiet
      cases effect : takesEffect key state action with
      | false => simpa [occurrences, effect] using later
      | true =>
          have noLater : occurrences (takesEffect key) (serverStep state action) rest = 0 := by
            refine occurrences_eq_zero rest _ fun taken member => ?_
            cases crashed : crashesAfterWrite key state action with
            | true => exact after taken member crashed
            | false =>
                obtain ⟨row, found⟩ := row_of_effect effect crashed
                exact takesEffect_of_row (trace_get_of_row found member) taken.2
          simp [occurrences, effect, noLater]

end Once

end Server

end QuantFactory.Library
