import QuantFactory.RuleStrategy.Evaluation

/-!
# Signals of many settings

`strategies/rule_spec_batch.py`: the settings of one strategy are evaluated one
after the other, with one bounded node cache for all of them.
-/

set_option autoImplicit false

namespace QuantFactory.RuleStrategy

open QuantFactory.Library QuantFactory.Python QuantFactory.RuleLanguage

variable {F : Type} [PyFloat F]

/-! ## Documents -/

structure SpecEntries (F : Type) where
  entries : Entries F
  exitRules : Entries F
  signals : List (PyValue F)
  bar : Bar

def objectOf (value : PyValue F) : Except EvaluationError (Entries F) :=
  match value with
  | .dict entries => .ok entries
  | _ => .error (.typeError "object")

def specEntriesOf (spec : PyValue F) : Except EvaluationError (SpecEntries F) := do
  let entries ← objectOf spec
  let exitRules ← objectOf (← nodeUnder "exit" entries)
  let signals ← conditionItems (← nodeUnder "signals" entries)
  let bar ← textUnder "bar" entries
  let bar ← orRaise (Bar.ofText bar) (.keyError bar)
  .ok ⟨entries, exitRules, signals, bar⟩

namespace SpecEntries
variable (spec : SpecEntries F)

def presentStops : List String := stopKeys.filter fun key => (spec.exitRules.lookup key).isSome

/-- `"signal_bar" in exit_rules[key]`. -/
def atSignalBar (key : String) : Bool :=
  ((spec.exitRules.lookup key).bind (PyValue.get? "signal_bar")).isSome

def distanceNodes : Entries F :=
  stopKeys.filterMap fun key =>
    if spec.atSignalBar key then none
    else (spec.exitRules.lookup key).map fun node => (key, node)

/-- `exit_rules.get("exit_when", {})`. -/
def exitWhen : Entries F :=
  match spec.exitRules.lookup "exit_when" with
  | some (.dict entries) => entries
  | _ => []

/-- The calendars of `skip_days`. -/
def skippedCalendars : List String :=
  match spec.entries.lookup "skip_days" with
  | some (.list names) => names.filterMap PyValue.text?
  | _ => []

def onOppositeSignal : Bool :=
  match spec.exitRules.lookup "on_opposite_signal" with
  | some (.bool value) => value
  | _ => false

end SpecEntries

section Machine
variable {m : Type → Type} [Monad m] {R : Type} (machine : ArrayMachine F m R)
  (interpreter : Interpreter F)

/-- `PreparedSessions`, without the sessions it found no bars for. -/
structure Sessions (R F : Type) where
  length : Nat
  positions : R
  bars : SessionBars R F

/-- `_plan`: the distances of the stops, and the level of a stop at the signal bar. -/
def plan (sessions : Sessions R F) (spec : SpecEntries F) (depth : Nat) :
    m (List (String × R)) := do
  let fractions ← each (fun stop => do
    let fraction ← distanceFraction machine interpreter sessions.bars depth stop.2
    pure (stop.1, fraction)) spec.distanceNodes
  if spec.atSignalBar "stop_loss" then do
    let sides ← sidesOf machine interpreter sessions.bars depth spec.signals
    let fraction ← signalBarFraction machine interpreter sessions.bars depth sides
    pure (fractions ++ [("stop_loss", fraction)])
  else pure fractions

def validLoop : R → List R → m R
  | valid, [] => pure valid
  | valid, fraction :: rest => do
      let finite ← elementwise machine .isfinite [fraction]
      let positive ← withNumber machine .greater (PyFloat.literal 0) fraction
      let usable ← elementwise machine .logicalAnd [finite, positive]
      let valid ← machine.write valid (.elementwise .logicalAnd) [usable]
      validLoop valid rest

def entryWindow (spec : SpecEntries F) (rows : Nat) : m R := do
  let allowed ← machine.call (.full ⟨rows, 1⟩ (.bool true)) []
  match spec.entries.lookup "flat_at" with
  | none => pure allowed
  | some time => do
      let row ← machine.raised _ (barPosition spec.bar time)
      machine.write allowed (.fillFrom row (.bool false)) []

def allowedEntries (sessions : Sessions R F) (spec : SpecEntries F) (sides : R) : m R := do
  let window ← entryWindow machine spec sessions.bars.shape.bars
  let pointed ← withNumber machine .notEqual (PyFloat.literal 0) sides
  let allowed ← elementwise machine .logicalAnd [window, pointed]
  if spec.skippedCalendars.isEmpty then pure allowed
  else do
    let skipped ← machine.call (.skippedSessions spec.skippedCalendars) [sessions.positions]
    let traded ← elementwise machine .logicalNot [skipped]
    machine.write allowed (.elementwise .logicalAnd) [traded]

def clockRow (spec : SpecEntries F) (time : Option (PyValue F)) (clock : R) : m R :=
  match time with
  | none => pure clock
  | some time => do
      let row ← machine.raised _ (barPosition spec.bar time)
      machine.write clock (.fillRow row (.bool true)) []

/-- The session-end and `at_time` exit rows. -/
def clockExits (spec : SpecEntries F) (rows : Nat) : m R := do
  let clock ← machine.call (.full ⟨rows, 1⟩ (.bool false)) []
  let clock ← clockRow machine spec (spec.entries.lookup "flat_at") clock
  clockRow machine spec (spec.exitRules.lookup "at_time") clock

/-- A flag on the bars of a mask; the flags start out unset. -/
def flagged (sessions : Sessions R F) (mask : R) : m R := do
  let flags ← machine.call (.fullFlat sessions.length (.bool false)) []
  machine.write flags (.fillAt (.bool true)) [sessions.positions, mask]

def leaves (sessions : Sessions R F) (spec : SpecEntries F) (depth : Nat) (side : String)
    (opposite clock : R) : m R := do
  let leave ← match spec.exitWhen.lookup side with
    | some node => condition machine interpreter sessions.bars depth node
    | none => machine.call (.full sessions.bars.shape (.bool false)) []
  let leave ← if spec.onOppositeSignal then elementwise machine .logicalOr [leave, opposite]
    else pure leave
  elementwise machine .logicalOr [leave, clock]

def stopLevel (sessions : Sessions R F) (fractions : List (String × R)) (first : R)
    (key : String) : m (String × R) := do
  let level ← machine.call (.fullFlat sessions.length .nan) []
  let fraction ← machine.raised _ (frameOf fractions key)
  let level ← machine.write level .copyAt [sessions.positions, first, fraction]
  pure (key, level)

def timeStop (sessions : Sessions R F) (spec : SpecEntries F) : m R := do
  let stop ← machine.call (.fullFlat sessions.length (.int (-1))) []
  match spec.exitRules.lookup "after_bars" with
  | none => pure stop
  | some node => do
      let count ← machine.raised _ (sessions.bars.count interpreter node)
      machine.write stop (.fillAll (.int (spec.bar.minutes * count))) []

/-- What `from_signals` is given for one setting. -/
structure BatchSignals (R : Type) where
  entry : R
  exit : R
  shortEntry : R
  shortExit : R
  levels : List (String × R)
  timeStop : R
  skipped : R

/-- `_signals`, of a setting with bars. -/
def signals (sessions : Sessions R F) (spec : SpecEntries F) (depth : Nat)
    (fractions : List (String × R)) : m (BatchSignals R) := do
  let sides ← sidesOf machine interpreter sessions.bars depth spec.signals
  let valid ← machine.call (.full sessions.bars.shape (.bool true)) []
  let valid ← validLoop machine valid (fractions.map Prod.snd)
  let allowed ← allowedEntries machine sessions spec sides
  let invalid ← elementwise machine .logicalNot [valid]
  let blocked ← elementwise machine .logicalAnd [allowed, invalid]
  let skipped ← machine.call .total [blocked]
  let first ← elementwise machine .logicalAnd [allowed, valid]
  let long ← withNumber machine .greater (PyFloat.literal 0) sides
  let short ← withNumber machine .less (PyFloat.literal 0) sides
  let longFirst ← elementwise machine .logicalAnd [first, long]
  let entry ← flagged machine sessions longFirst
  let shortFirst ← elementwise machine .logicalAnd [first, short]
  let shortEntry ← flagged machine sessions shortFirst
  let clock ← clockExits machine spec sessions.bars.shape.bars
  let longLeaves ← leaves machine interpreter sessions spec depth "long" short clock
  let exit ← flagged machine sessions longLeaves
  let shortLeaves ← leaves machine interpreter sessions spec depth "short" long clock
  let shortExit ← flagged machine sessions shortLeaves
  let levels ← each (stopLevel machine sessions fractions first) spec.presentStops
  let timeStop ← timeStop machine interpreter sessions spec
  pure ⟨entry, exit, shortEntry, shortExit, levels, timeStop, skipped⟩

/-- One turn of `iter_batch_signals`. -/
def settingSignals (sessions : Sessions R F) (spec : SpecEntries F) (depth : Nat) :
    m (BatchSignals R) := do
  let fractions ← plan machine interpreter sessions spec depth
  signals machine interpreter sessions spec depth fractions

end Machine

/-! ## The batch -/

section Batch
variable {A : Type}

structure PreparedSessions (A F : Type) where
  length : Nat
  positions : A
  bars : SessionBars A F

/-- `replace(prepared.bars, parameters=dict(parameters))`. -/
def SessionBars.withParameters {R : Type} (bars : SessionBars R F)
    (parameters : Entries F) : SessionBars R F :=
  { bars with parameters := parameters }

def PreparedSessions.cells (prepared : PreparedSessions A F) : List A :=
  [prepared.positions, prepared.bars.open_, prepared.bars.high, prepared.bars.low,
    prepared.bars.close, prepared.bars.volume]

def SessionBars.located {R : Type} (bars : SessionBars R F)
    (parameters : Entries F) : SessionBars Nat F :=
  { bars with open_ := 1, high := 2, low := 3, close := 4, volume := 5, parameters := parameters }

def PreparedSessions.references (prepared : PreparedSessions A F)
    (parameters : Entries F) : Sessions Nat F where
  length := prepared.length
  positions := 0
  bars := prepared.bars.located parameters

def PreparedSessions.contents (prepared : PreparedSessions A F)
    (parameters : Entries F) : Sessions A F where
  length := prepared.length
  positions := prepared.positions
  bars := prepared.bars.withParameters parameters

/-- The prepared sessions in a heap of their own, with an empty `_BoundedCache`. -/
def PreparedSessions.store (prepared : PreparedSessions A F) : MemoStore String A where
  cells := prepared.cells
  entries := []
  weight := 0

def namedContents (store : MemoStore String A) : List (String × Nat) → Option (List (String × A))
  | [] => some []
  | (name, ref) :: rest => do
      let value ← store.cells[ref]?
      let others ← namedContents store rest
      some ((name, value) :: others)

def BatchSignals.contents (signals : BatchSignals Nat) (store : MemoStore String A) :
    Option (BatchSignals A) := do
  let entry ← store.cells[signals.entry]?
  let exit ← store.cells[signals.exit]?
  let shortEntry ← store.cells[signals.shortEntry]?
  let shortExit ← store.cells[signals.shortExit]?
  let levels ← namedContents store signals.levels
  let timeStop ← store.cells[signals.timeStop]?
  let skipped ← store.cells[signals.skipped]?
  some ⟨entry, exit, shortEntry, shortExit, levels, timeStop, skipped⟩

def readBack {α β : Type} (read : α → MemoStore String A → Option β) (run : ArrayRun A α) :
    ArrayRun A β := fun store =>
  match run store with
  | .error raised => .error raised
  | .ok (result, after) =>
      (orRaise (read result after) .dangling).map fun contents => (contents, after)

/-- What a batch has yielded, what it has raised, and the store it leaves. -/
structure BatchRun (A : Type) where
  yielded : List (BatchSignals A)
  raised : Option EvaluationError
  store : MemoStore String A

variable (library : ArrayLibrary F A) (bound : MemoStore.Bound A) (interpreter : Interpreter F)
  (prepared : PreparedSessions A F) (spec : SpecEntries F) (depth : Nat)

def turn (parameters : Entries F) : ArrayRun A (BatchSignals A) :=
  readBack BatchSignals.contents (settingSignals (heapMachine library bound) interpreter
    (prepared.references parameters) spec depth)

/-- `iter_batch_signals`, from a store; it ends with the settings or at the first error. -/
def iterBatchSignals : List (Entries F) → MemoStore String A → BatchRun A
  | [], store => ⟨[], none, store⟩
  | parameters :: rest, store =>
      match turn library bound interpreter prepared spec depth parameters store with
      | .error raised => ⟨[], some raised, store⟩
      | .ok (contents, after) =>
          let later := iterBatchSignals rest after
          { later with yielded := contents :: later.yielded }

def alone (parameters : Entries F) : Except EvaluationError (BatchSignals A) :=
  (turn library bound interpreter prepared spec depth parameters prepared.store).map Prod.fst

end Batch

end QuantFactory.RuleStrategy
