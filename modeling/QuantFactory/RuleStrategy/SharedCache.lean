import Mathlib.Logic.Relation
import QuantFactory.Persistence.JsonText
import QuantFactory.Python.Samples
import QuantFactory.RuleStrategy.SettingRuns

/-!
# One cache for all settings

The stores a batch reaches are sound, so the cache they hold changes no result
of a later setting, and no later evaluation changes an array it holds.
-/

set_option autoImplicit false

namespace QuantFactory.RuleStrategy

open QuantFactory.Library QuantFactory.Library.MemoStore QuantFactory.Python
  QuantFactory.RuleLanguage

variable {F A : Type} [PyFloat F]

/-! ## Accepted specifications -/

section Accepted
variable {v : Validator F}

omit [PyFloat F] in
/-- An entry of an optional part stands under its key and has passed its check. -/
theorem optional_member {rule : PyValue F → Checked F → Prop}
    {entries : Entries F} {key : String} {part : Validator.CheckedEntries F}
    (isPart : OptionalRule rule entries key part) {entry : String × PyValue F}
    (member : entry ∈ part.entries) :
    entry.1 = key ∧ ∃ value checked, rule value checked ∧ checked.node = entry.2 := by
  rcases isPart with ⟨_, rfl⟩ | ⟨value, checked, _, accepted, rfl⟩
  · cases member
  · obtain rfl := List.mem_singleton.mp member
    exact ⟨rfl, value, checked, accepted, rfl⟩

/-- What stands in a normalized exit: a distance under a stop, or the conditions of `exit_when`. -/
theorem exit_entry {flatAt : Option Nat} {node : PyValue F} {checked : Checked F}
    (rule : ExitRule v flatAt node checked) {entries : Entries F}
    (isDict : checked.node = .dict entries) {entry : String × PyValue F}
    (member : entry ∈ entries) :
    entry.1 ∈ ["after_bars", "at_time", "on_opposite_signal"] ∨
    (entry.1 ∈ stopKeys ∧
      ∃ original checked, DistanceRule v entry.1 original checked ∧ checked.node = entry.2) ∨
    (entry.1 = "exit_when" ∧
      ∃ original checked, ExitWhenRule v original checked ∧ checked.node = entry.2) := by
  obtain ⟨keys, afterBarsRule, atTimeRule, flag, stopRules, multiples, exitWhenRule⟩ := rule
  rename_i afterBars atTime exitWhen opposite stops
  cases isDict
  simp only [List.mem_append, List.mem_singleton] at member
  rcases member with (((inAfter | inTime) | inFlag) | inStops) | inWhen
  · exact .inl (by simp [(optional_member afterBarsRule inAfter).1])
  · exact .inl (by simp [(optional_member atTimeRule inTime).1])
  · exact .inl (by simp [inFlag])
  · obtain ⟨part, inParts, inPart⟩ := List.mem_flatMap.mp inStops
    obtain ⟨stop, isStop, isPart⟩ := forall₂_mem_right stopRules inParts
    obtain ⟨rfl, accepted⟩ := optional_member isPart inPart
    exact .inr (.inl ⟨isStop, accepted⟩)
  · exact .inr (.inr (optional_member exitWhenRule inWhen))

theorem exitWhen_entry {node : PyValue F} {checked : Checked F}
    (rule : ExitWhenRule v node checked) {sides : Entries F}
    (isDict : checked.node = .dict sides) {side : String × PyValue F} (member : side ∈ sides) :
    ∃ original checked, ConditionRule v original checked ∧ checked.node = side.2 := by
  obtain ⟨keys, nonempty, longRule, shortRule⟩ := rule
  cases isDict
  rcases List.mem_append.mp member with inLong | inShort
  · exact (optional_member longRule inLong).2
  · exact (optional_member shortRule inShort).2

theorem admissible_of_rule {entries : Entries F} {checked : Checked F}
    (rule : SpecRule v entries checked) : ∃ spec, specEntriesOf checked.node = .ok spec ∧
      spec.bar = v.bar ∧ AdmissibleSpec v spec checked.node.depth := by
  obtain ⟨keys, language, bar, tickFound, tickOk, sessionFound, sessionKeys, sessionValues,
    flatAtRule, signalsFound, nonempty, length, signalRules, tradesFound, tradesCount, skipRule,
    exitFound, exitRule⟩ := rule
  rename_i tickSize maxTrades exitNode session skip items signals flatAt exitOk
  have isExit : ∃ exitRules, exitOk.node = .dict exitRules := by
    cases exitRule
    exact ⟨_, rfl⟩
  obtain ⟨exitRules, isExit⟩ := isExit
  rw [isExit]
  generalize isWritten : [("language", .str ruleLanguage), ("bar", .str v.bar.text),
    ("tick_size", tickSize), ("session", Validator.sessionDocument),
    ("signals", .list (signals.map Checked.node)), ("exit", .dict exitRules),
    ("max_trades_per_session", maxTrades)] ++ flatAt.entries ++ skip = written
  have exitIs : written.lookup "exit" = some (.dict exitRules) := by
    simp [← isWritten, List.lookup_cons]
  have signalsAre : written.lookup "signals" = some (.list (signals.map Checked.node)) := by
    simp [← isWritten, List.lookup_cons]
  have barIs : written.lookup "bar" = some (.str v.bar.text) := by
    simp [← isWritten, List.lookup_cons]
  refine ⟨⟨written, exitRules, signals.map Checked.node, v.bar⟩, ?_, rfl, ?_⟩
  · have isBar : Bar.ofText v.bar.text = some v.bar := Bar.ofText_eq_some.mpr rfl
    simp only [specEntriesOf, objectOf, bind_ok, nodeUnder, exitIs, signalsAre, textUnder, barIs,
      orRaise, conditionItems, PyValue.items?, PyValue.text?, Option.bind_some, isBar]
  · have deeper : PyValue.depthEntries written ≤ (PyValue.dict written).depth := by
      rw [PyValue.depth]
      omega
    have exitWithin := depth_le_of_lookup exitIs
    have signalsWithin := depth_le_of_lookup signalsAre
    have inExit : ∀ {entry : String × PyValue F}, entry ∈ exitRules →
        entry.2.depth ≤ (PyValue.dict written).depth := by
      intro entry member
      have inside := depth_le_entries member
      rw [PyValue.depth] at exitWithin ⊢
      omega
    constructor
    · intro stop member
      obtain ⟨key, inStops, isStop⟩ := List.mem_filterMap.mp member
      split_ifs at isStop
      obtain ⟨node, found, rfl⟩ := Option.map_eq_some_iff.mp isStop
      have inRules := mem_of_lookup found
      refine ⟨?_, inExit inRules⟩
      have isKnown : ∀ key ∈ stopKeys, key ∉ ["after_bars", "at_time", "on_opposite_signal"] ∧
          key ≠ "exit_when" := by decide
      obtain ⟨notOther, notWhen⟩ := isKnown key inStops
      rcases exit_entry exitRule isExit inRules with isOther | ⟨_, accepted⟩ | ⟨isWhen, _⟩
      · exact absurd isOther notOther
      · exact accepted
      · exact absurd isWhen notWhen
    · refine ⟨signals, rfl, fun signal member => ?_⟩
      rw [← List.map_snd_zip length.ge] at member
      obtain ⟨pair, inZip, rfl⟩ := List.mem_map.mp member
      exact ⟨pair.1, signalRules pair inZip⟩
    · exact signalsWithin.trans deeper
    · intro side node found
      unfold SpecEntries.exitWhen at found
      split at found
      · rename_i sides isWhen
        have inRules := mem_of_lookup isWhen
        have inSides := mem_of_lookup found
        constructor
        · rcases exit_entry exitRule isExit inRules with isOther | ⟨isStop, _⟩ | ⟨_, accepted⟩
          · exact absurd isOther (by simp)
          · exact absurd isStop (by simp [stopKeys])
          · obtain ⟨original, whenOk, whenRule, isNode⟩ := accepted
            exact exitWhen_entry whenRule isNode inSides
        · have inside : node.depth ≤ PyValue.depthEntries sides := depth_le_entries inSides
          have outside : (PyValue.dict sides).depth ≤ (PyValue.dict written).depth := inExit inRules
          have level : (PyValue.dict sides).depth = 1 + PyValue.depthEntries sides := by
            rw [PyValue.depth]
          change node.depth ≤ (PyValue.dict written).depth
          omega
      · cases found

end Accepted

/-! ## Stores a batch reaches -/

section Batch
variable (library : ArrayLibrary F A) (bound : MemoStore.Bound A) (interpreter : Interpreter F)
  (v : Validator F) (prepared : PreparedSessions A F) (spec : SpecEntries F) (depth : Nat)

def nodeContents (parameters : Entries F) (kind : NodeKind) (node : PyValue F) :
    ArrayRun A A :=
  readBack (fun ref store => store.cells[ref]?) (nodeOn (heapMachine library bound) interpreter
    (prepared.bars.located parameters) depth kind node)

/-- One more evaluation against the cache: of a setting, or of an accepted node in a setting. -/
inductive Evaluation : MemoStore String A → MemoStore String A → Prop
  | setting {store after : MemoStore String A} {parameters : Entries F}
      {contents : BatchSignals A}
      (run : turn library bound interpreter prepared spec depth parameters store =
        .ok (contents, after)) : Evaluation store after
  | node {store after : MemoStore String A} {parameters : Entries F}
      {kind : NodeKind} {node : PyValue F} {contents : A} (admissible : Admissible v kind node)
      (within : node.depth ≤ depth)
      (run : nodeContents library bound interpreter prepared depth parameters kind node store =
        .ok (contents, after)) : Evaluation store after

abbrev Evaluated : MemoStore String A → MemoStore String A → Prop :=
  Relation.ReflTransGen (Evaluation library bound interpreter v prepared spec depth)

variable {library} {bound} {interpreter} {v} {prepared} {spec} {depth}

theorem fresh_sound : Sound pinnedCells (Meaning library interpreter v prepared.bars)
    prepared.store where
  filled := le_refl _
  entries _ _ member := by cases member

omit [PyFloat F] in
theorem fresh_cells : prepared.store.HoldsAll (sessionCells prepared) :=
  ⟨rfl, rfl, rfl, rfl, rfl, rfl, trivial⟩

omit [PyFloat F] in
theorem namedContents_held {store : MemoStore String A} {refs : List (String × Nat)}
    {values : List (String × A)} (held : NamedHeld store refs values) :
    namedContents store refs = some values := by
  unfold NamedHeld at held
  induction held with
  | nil => rfl
  | @cons ref value refs values first _ ih =>
      obtain ⟨name, ref⟩ := ref
      obtain ⟨_, value⟩ := value
      obtain ⟨rfl, holds⟩ := first
      have present : store.cells[ref]? = some value := holds
      simp [namedContents, present, ih]

omit [PyFloat F] in
theorem contents_held {store : MemoStore String A} {refs : BatchSignals Nat}
    {values : BatchSignals A} (held : SignalsHeld store refs values) :
    refs.contents store = some values := by
  obtain ⟨entry, exit, shortEntry, shortExit, levels, timeStop, skipped⟩ := held
  unfold Holds at entry exit shortEntry shortExit timeStop skipped
  simp only [BatchSignals.contents, entry, exit, shortEntry, shortExit, timeStop, skipped,
    namedContents_held levels, Option.bind_eq_bind, Option.bind_some]

variable {store after : MemoStore String A}

omit [PyFloat F] in
theorem readBack_computes {α β : Type} {meaning : String → A → Prop}
    {post : MemoStore String A → α → β → Prop} {read : α → MemoStore String A → Option β}
    {run : ArrayRun A α} {value : Except EvaluationError β}
    (computes : Computes pinnedCells meaning store post (run store) value)
    (readable : ∀ after result contents, post after result contents →
      read result after = some contents) :
    Computes pinnedCells meaning store (fun _ contents expected => contents = expected)
      (readBack read run store) value := by
  unfold readBack
  cases outcome : run store with
  | error raised =>
      rw [outcome] at computes
      cases value with
      | error expected => exact computes
      | ok expected => exact computes.elim
  | ok result =>
      rw [outcome] at computes
      cases value with
      | error expected => exact computes.elim
      | ok expected =>
          obtain ⟨grown, sound, related⟩ := computes
          simp only [readable _ _ _ related]
          exact ⟨grown, sound, rfl⟩

variable (json : ∀ value other, Persistence.normalize value = .ok value →
    Persistence.normalize other = .ok other →
    interpreter.jsonDumps value = interpreter.jsonDumps other → value = other)
include json

variable (bound) in
theorem turn_computes (admissible : AdmissibleSpec v spec depth)
    (sound : Sound pinnedCells (Meaning library interpreter v prepared.bars) store)
    (cells : store.HoldsAll (sessionCells prepared)) (parameters : Entries F) :
    Computes pinnedCells (Meaning library interpreter v prepared.bars) store
      (fun _ contents expected => contents = expected)
      (turn library bound interpreter prepared spec depth parameters store)
      (settingSignals (valueMachine library) interpreter (prepared.contents parameters) spec
        depth) :=
  readBack_computes (settingSignals_computes json admissible sound cells)
    fun _ _ _ held => contents_held held

theorem node_runs {kind : NodeKind} {node : PyValue F} (admissible : Admissible v kind node) :
    NodeRuns library bound interpreter v prepared.bars kind node := by
  cases kind with
  | series =>
      obtain ⟨_, checked, rule, rfl⟩ := admissible
      exact series_runs json rule
  | condition =>
      obtain ⟨_, checked, rule, rfl⟩ := admissible
      exact condition_runs json rule
  | distance =>
      obtain ⟨_, _, checked, rule, rfl⟩ := admissible
      exact distance_runs json rule
  | sides =>
      obtain ⟨signals, rules, rfl⟩ := admissible
      exact sides_runs json rules

variable (bound) in
theorem nodeContents_computes {kind : NodeKind} {node : PyValue F}
    (admissible : Admissible v kind node) (within : node.depth ≤ depth)
    (sound : Sound pinnedCells (Meaning library interpreter v prepared.bars) store)
    (cells : store.HoldsAll (sessionCells prepared)) (parameters : Entries F) :
    Computes pinnedCells (Meaning library interpreter v prepared.bars) store
      (fun _ contents expected => contents = expected)
      (nodeContents library bound interpreter prepared depth parameters kind node store)
      (nodeOn (valueMachine library) interpreter (prepared.bars.withParameters parameters) depth
        kind node) :=
  readBack_computes (node_runs json admissible parameters parameters depth depth
    (Agree.refl node) within within store sound cells.2) fun _ _ _ returned => returned.holds

/-! ## The cache changes nothing -/

theorem evaluation_kept (admissible : AdmissibleSpec v spec depth)
    (step : Evaluation library bound interpreter v prepared spec depth store after)
    (sound : Sound pinnedCells (Meaning library interpreter v prepared.bars) store)
    (cells : store.HoldsAll (sessionCells prepared)) :
    Grown pinnedCells store after ∧
      Sound pinnedCells (Meaning library interpreter v prepared.bars) after := by
  cases step with
  | @setting parameters contents run =>
      have computes := turn_computes bound json admissible sound cells parameters
      rw [run] at computes
      exact computes.ended
  | @node parameters kind node contents isNode within run =>
      have computes := nodeContents_computes bound json isNode within sound cells
        parameters
      rw [run] at computes
      exact computes.ended

/-- Evaluations keep the store sound, and every array it holds. -/
theorem evaluated_kept (admissible : AdmissibleSpec v spec depth)
    (steps : Evaluated library bound interpreter v prepared spec depth store after)
    (sound : Sound pinnedCells (Meaning library interpreter v prepared.bars) store)
    (cells : store.HoldsAll (sessionCells prepared)) :
    Grown pinnedCells store after ∧
      Sound pinnedCells (Meaning library interpreter v prepared.bars) after := by
  induction steps with
  | refl => exact ⟨.refl store, sound⟩
  | tail _ step ih =>
      obtain ⟨grown, soundBefore⟩ := ih
      obtain ⟨later, soundAfter⟩ := evaluation_kept json admissible step soundBefore
        (grown.holdsAll cells)
      exact ⟨grown.trans later, soundAfter⟩

variable (bound) in
theorem turn_alone (admissible : AdmissibleSpec v spec depth)
    (sound : Sound pinnedCells (Meaning library interpreter v prepared.bars) store)
    (cells : store.HoldsAll (sessionCells prepared)) (parameters : Entries F) :
    (turn library bound interpreter prepared spec depth parameters store).map Prod.fst =
      alone library bound interpreter prepared spec depth parameters :=
  (turn_computes bound json admissible sound cells parameters).outcome.trans
    (turn_computes bound json admissible fresh_sound fresh_cells parameters).outcome.symm

theorem batch_alone (admissible : AdmissibleSpec v spec depth)
    (settings : List (Entries F))
    (sound : Sound pinnedCells (Meaning library interpreter v prepared.bars) store)
    (cells : store.HoldsAll (sessionCells prepared)) :
    ((iterBatchSignals library bound interpreter prepared spec depth settings store).yielded,
      (iterBatchSignals library bound interpreter prepared spec depth settings store).raised) =
        untilError (settings.map (alone library bound interpreter prepared spec depth)) ∧
    Evaluated library bound interpreter v prepared spec depth store
      (iterBatchSignals library bound interpreter prepared spec depth settings store).store := by
  induction settings generalizing store with
  | nil => exact ⟨rfl, .refl⟩
  | cons parameters rest ih =>
      have same := turn_alone bound json admissible sound cells parameters
      rw [List.map_cons, ← same]
      cases run : turn library bound interpreter prepared spec depth parameters store with
      | error raised =>
          simp only [iterBatchSignals, run]
          exact ⟨rfl, .refl⟩
      | ok outcome =>
          obtain ⟨contents, after⟩ := outcome
          have step : Evaluation library bound interpreter v prepared spec depth store after :=
            .setting run
          obtain ⟨grown, soundAfter⟩ := evaluation_kept json admissible step sound cells
          obtain ⟨yields, reached⟩ := ih soundAfter (grown.holdsAll cells)
          simp only [iterBatchSignals, run]
          refine ⟨?_, .head step reached⟩
          change _ = untilError (.ok contents :: _)
          rw [untilError, ← yields]

omit json
variable (library) (bound) (interpreter) (v) (prepared) (spec) (depth)

/-- One cache for all settings changes no result and no array it holds. -/
structure CacheTransparent : Prop where
  batch : ∀ settings,
    ((iterBatchSignals library bound interpreter prepared spec depth settings
        prepared.store).yielded,
      (iterBatchSignals library bound interpreter prepared spec depth settings
        prepared.store).raised) =
      untilError (settings.map (alone library bound interpreter prepared spec depth))
  reached : ∀ settings, Evaluated library bound interpreter v prepared spec depth prepared.store
    (iterBatchSignals library bound interpreter prepared spec depth settings prepared.store).store
  settings : ∀ {store}, Evaluated library bound interpreter v prepared spec depth prepared.store
      store → ∀ parameters,
    (turn library bound interpreter prepared spec depth parameters store).map Prod.fst =
      alone library bound interpreter prepared spec depth parameters
  nodes : ∀ {store}, Evaluated library bound interpreter v prepared spec depth prepared.store
      store → ∀ parameters kind node, Admissible v kind node → node.depth ≤ depth →
    (nodeContents library bound interpreter prepared depth parameters kind node store).map
        Prod.fst =
      (nodeContents library bound interpreter prepared depth parameters kind node
        prepared.store).map Prod.fst
  arrays : ∀ {store after}, Evaluated library bound interpreter v prepared spec depth
      prepared.store store →
    Evaluated library bound interpreter v prepared spec depth store after →
    ∀ key ref, (key, ref) ∈ store.entries →
      ∃ contents, store.cells[ref]? = some contents ∧ after.cells[ref]? = some contents

end Batch

/-- The node cache that the settings of an accepted specification share never changes a result:
whatever has been evaluated against it and whatever it has dropped, a setting, a series, a
condition or the sides come to what they are alone. -/
theorem shared_cache_transparent {runtime : RuleRuntime F}
    {document packetVariables normalized : PyValue F}
    (accepted : validateRuleSpec runtime document packetVariables = .ok normalized)
    {interpreter : Interpreter F}
    (json : ∀ value other, Persistence.normalize value = .ok value →
      Persistence.normalize other = .ok other →
      interpreter.jsonDumps value = interpreter.jsonDumps other → value = other)
    (library : ArrayLibrary F A) (bound : MemoStore.Bound A) (prepared : PreparedSessions A F) :
    ∃ declared spec, variableEntries packetVariables = .ok declared ∧
      specEntriesOf normalized = .ok spec ∧
      CacheTransparent library bound interpreter ⟨runtime, declared, spec.bar⟩ prepared spec
        normalized.depth := by
  obtain ⟨declared, entries, bar, checked, isDeclared, rfl, isAccepted, rfl⟩ :=
    validate_accepted accepted
  obtain ⟨spec, isSpec, isBar, admissible⟩ := admissible_of_rule isAccepted.rule
  refine ⟨declared, spec, isDeclared, isSpec, ?_⟩
  rw [isBar]
  have kept : ∀ {store after : MemoStore String A},
      Evaluated library bound interpreter ⟨runtime, declared, bar⟩ prepared spec
        checked.node.depth store after →
      Sound pinnedCells (Meaning library interpreter ⟨runtime, declared, bar⟩ prepared.bars)
        store → store.HoldsAll (sessionCells prepared) →
      Grown pinnedCells store after ∧
        Sound pinnedCells (Meaning library interpreter ⟨runtime, declared, bar⟩ prepared.bars)
          after := fun steps => evaluated_kept json admissible steps
  constructor
  · intro settings
    exact (batch_alone json admissible settings fresh_sound fresh_cells).1
  · intro settings
    exact (batch_alone json admissible settings fresh_sound fresh_cells).2
  · intro store steps parameters
    obtain ⟨grown, sound⟩ := kept steps fresh_sound fresh_cells
    exact turn_alone bound json admissible sound (grown.holdsAll fresh_cells) parameters
  · intro store steps parameters kind node isNode within
    obtain ⟨grown, sound⟩ := kept steps fresh_sound fresh_cells
    have shared := nodeContents_computes bound json isNode within sound
      (grown.holdsAll fresh_cells) parameters
    exact shared.outcome.trans (nodeContents_computes bound json isNode within fresh_sound
      fresh_cells parameters).outcome.symm
  · intro store after steps later key ref member
    obtain ⟨grown, sound⟩ := kept steps fresh_sound fresh_cells
    obtain ⟨contents, holds, _⟩ := sound.entries key ref member
    obtain ⟨step, _⟩ := kept later sound (grown.holdsAll fresh_cells)
    exact ⟨contents, holds, step.holds holds⟩

/-! ## A sample -/

/-- `repr` of a whole float. -/
def wholeText : WholeFloat → List Char
  | .nan => ['n', 'a', 'n']
  | .whole n => Persistence.intChars n ++ ['.', '0']

theorem wholeText_texts : Persistence.FloatTexts wholeText where
  numeric := by
    intro x finite c member
    cases x with
    | nan => cases finite
    | whole n =>
        rcases List.mem_append.mp member with inDigits | inEnd
        · exact Persistence.intChars_numeric inDigits
        · have known : ∀ c ∈ ['.', '0'], Persistence.isNumeric c = true :=
            List.all_eq_true.mp (by decide)
          exact known c inEnd
  marked := by
    intro x finite
    cases x with
    | nan => cases finite
    | whole n => exact ⟨'.', List.mem_append_right _ List.mem_cons_self, by decide, by decide⟩
  distinct := by
    intro x y isFinite isFinite' same
    cases x with
    | nan => cases isFinite
    | whole n =>
        cases y with
        | nan => cases isFinite'
        | whole m => rw [Persistence.intChars_inj (List.append_cancel_right same)]

def sampleInterpreter : Interpreter WholeFloat where
  vbt := none
  jsonDumps := Persistence.jsonDumps wholeText
  truncate
    | .whole n => .ok n
    | .nan => .error (.valueError "cannot convert float NaN to integer")
  intOfText _ := .error (.valueError "invalid literal for int()")
  floatOfText _ := .error (.valueError "could not convert string to float")
  multiply
    | .whole a, .whole b => .whole (a * b)
    | _, _ => .nan
  divide
    | .whole a, .whole b => if b = 0 then .nan else .whole (a / b)
    | _, _ => .nan

def flag (value : Bool) : Option Int := some (if value then 1 else 0)

def compared (relation : Int → Int → Bool) (a b : Option Int) : Option Int :=
  flag (match a, b with
    | some a, some b => relation a b
    | _, _ => false)

/-- The sums of windows of a length, undefined before the first full one. -/
def windowSums (length : Nat) (values : List (Option Int)) : List (Option Int) :=
  (List.range values.length).map fun last =>
    if last + 1 < length then none
    else ((values.take (last + 1)).drop (last + 1 - length)).foldr
      (fun value sum => do some ((← value) + (← sum))) (some 0)

/-- The calls on arrays of one session, flat and with `none` for NaN, that a comparison with a
rolling sum makes. -/
def sampleLibrary : ArrayLibrary WholeFloat (List (Option Int))
  | .full shape (.float (.whole n)), [] =>
      .ok (List.replicate (shape.bars * shape.sessions) (some n))
  | .full shape (.bool value), [] =>
      .ok (List.replicate (shape.bars * shape.sessions) (flag value))
  | .fullFlat length (.bool value), [] => .ok (List.replicate length (flag value))
  | .fullFlat length (.int n), [] => .ok (List.replicate length (some n))
  | .rolling "sum" length _, [values] => .ok (windowSums length.toNat values)
  | .elementwise .less, [left, right] => .ok (List.zipWith (compared (· < ·)) left right)
  | .elementwise .logicalAnd, [left, right] =>
      .ok (List.zipWith (compared fun a b => a * b != 0) left right)
  | .elementwise .logicalOr, [left, right] =>
      .ok (List.zipWith (compared fun a b => a + b != 0) left right)
  | .elementwise .logicalNot, [mask] => .ok (mask.map fun a => compared (· == ·) a (some 0))
  | .withScalar .notEqual (.float (.whole n)), [values] =>
      .ok (values.map fun a => flag (a != some n))
  | .withScalar .greater (.float (.whole n)), [values] =>
      .ok (values.map fun a => compared (· > ·) a (some n))
  | .withScalar .less (.float (.whole n)), [values] =>
      .ok (values.map fun a => compared (· < ·) a (some n))
  | .broadcastCopy _, [values] => .ok values
  | .total, [mask] => .ok [mask.foldr (fun a sum => do some ((← a) + (← sum))) (some 0)]
  | .copyWhere, [array, mask, source] =>
      .ok (List.zipWith (fun a chosen => if chosen.2 = some 1 then chosen.1 else a) array
        (source.zip mask))
  | .fillAt (.bool value), [array, positions, mask] =>
      .ok ((positions.zip mask).foldl (fun filled entry =>
        if entry.2 = some 1 then filled.set (entry.1.getD 0).toNat (flag value) else filled) array)
  | _, _ => .error (.library "not supported")

def sampleDocument : PyValue WholeFloat := .dict [
  ("language", .str "qf_rules_v1"), ("bar", .str "5m"), ("tick_size", .int 1),
  ("session", .dict [("timezone", .str "America/New_York"), ("open", .str "09:30"),
    ("close", .str "16:00")]),
  ("signals", .list [.dict [("when", .dict [("lt", .list [.str "close",
    .dict [("sum", .str "close"), ("length", .dict [("param", .str "n")])]])]),
    ("side", .str "long")]]),
  ("max_trades_per_session", .int 1)]

def sampleVariables : PyValue WholeFloat :=
  .dict [("n", .dict [("values", .list [.int 2, .int 3])])]

def sampleRuntime : RuleRuntime WholeFloat := ⟨Python.jsonText, none⟩

def samplePrepared : PreparedSessions (List (Option Int)) WholeFloat where
  length := 3
  positions := [some 0, some 1, some 2]
  bars :=
    { shape := ⟨3, 1⟩, open_ := [some 1, some 2, some 3], high := [some 4, some 4, some 4],
      low := [some 1, some 1, some 1], close := [some 2, some 3, some 2],
      volume := [some 5, some 6, some 7], tickSize := .whole 1, bar := .fiveMinutes,
      parameters := [] }

def sampleBound : MemoStore.Bound (List (Option Int)) := ⟨some 4, List.length⟩

/-- Two settings of the sample share a cache that holds one array at a time. -/
theorem shared_cache_transparent_sample :
    ∃ normalized declared spec,
      validateRuleSpec sampleRuntime sampleDocument sampleVariables = .ok normalized ∧
      variableEntries sampleVariables = .ok declared ∧ specEntriesOf normalized = .ok spec ∧
      CacheTransparent sampleLibrary sampleBound sampleInterpreter
        ⟨sampleRuntime, declared, spec.bar⟩ samplePrepared spec normalized.depth := by
  have isAccepted :
      (validateRuleSpec sampleRuntime sampleDocument sampleVariables).toOption.isSome = true := by
    decide +kernel
  cases outcome : validateRuleSpec sampleRuntime sampleDocument sampleVariables with
  | error raised =>
      rw [outcome] at isAccepted
      cases isAccepted
  | ok normalized =>
      have json : ∀ value other, Persistence.normalize value = .ok value →
          Persistence.normalize other = .ok other →
          sampleInterpreter.jsonDumps value = sampleInterpreter.jsonDumps other →
          value = other := fun _ _ => Persistence.jsonDumps_injective wholeText_texts
      obtain ⟨declared, spec, isDeclared, isSpec, transparent⟩ :=
        shared_cache_transparent outcome json sampleLibrary sampleBound samplePrepared
      exact ⟨normalized, declared, spec, rfl, isDeclared, isSpec, transparent⟩

end QuantFactory.RuleStrategy
