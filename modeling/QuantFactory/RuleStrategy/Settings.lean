import Mathlib
import QuantFactory.RuleStrategy.SharedCache

/-!
# Settings of accepted rules

What an accepted node needs of a setting: every number it writes has JSON, every
parameter it refers to is a declared variable, and a setting that assigns each
variable one of its values gives the node its counts, its amounts and its cache key.
-/

set_option autoImplicit false

namespace QuantFactory.RuleStrategy

open QuantFactory.Library QuantFactory.Python QuantFactory.Persistence QuantFactory.RuleLanguage

variable {F : Type} [PyFloat F]

/-! ## JSON -/

def HasJson (value : PyValue F) : Prop := ∃ normalized, Persistence.normalize value = .ok normalized

theorem normalizeItems_isOk {items : List (PyValue F)} :
    (∃ normalized, normalizeItems items = .ok normalized) ↔ ∀ item ∈ items, HasJson item := by
  induction items with
  | nil => simp [normalizeItems]
  | cons item rest ih =>
      rw [List.forall_mem_cons, ← ih, normalizeItems, HasJson]
      cases Persistence.normalize item with
      | error raised => simp
      | ok head => cases normalizeItems rest <;> simp

theorem normalizeEntries_isOk {entries : Entries F} :
    (∃ normalized, normalizeEntries entries = .ok normalized) ↔
      ∀ entry ∈ entries, HasJson entry.2 := by
  induction entries with
  | nil => simp [normalizeEntries]
  | cons entry rest ih =>
      obtain ⟨key, value⟩ := entry
      rw [List.forall_mem_cons, ← ih, normalizeEntries, HasJson]
      cases Persistence.normalize value with
      | error raised => simp
      | ok head => cases normalizeEntries rest <;> simp

theorem hasJson_list {items : List (PyValue F)} :
    HasJson (.list items) ↔ ∀ item ∈ items, HasJson item := by
  rw [← normalizeItems_isOk, HasJson, Persistence.normalize]
  cases normalizeItems items <;> simp

theorem hasJson_dict {entries : Entries F} :
    HasJson (.dict entries) ↔ ∀ entry ∈ entries, HasJson entry.2 := by
  rw [← normalizeEntries_isOk, HasJson, Persistence.normalize]
  cases normalizeEntries entries <;> simp

theorem hasJson_str (text : String) : HasJson (.str (F := F) text) := ⟨.str text, rfl⟩

theorem hasJson_int (n : Int) : HasJson (.int (F := F) n) := ⟨.int n, rfl⟩

theorem hasJson_bool (value : Bool) : HasJson (.bool (F := F) value) := ⟨.bool value, rfl⟩

theorem hasJson_float {x : F} (finite : PyFloat.isFinite x = true) : HasJson (.float x) :=
  ⟨.float x, by simp [Persistence.normalize, finite]⟩

/-! ## Closed nodes -/

section Closed
variable (v : Validator F)

structure Closed (node : PyValue F) : Prop where
  json : HasJson node
  declared : ∀ name ∈ referencedParameters node, ∃ check, Declared v check name

variable {v}

omit [PyFloat F] in
theorem mem_referencedInEntries {entries : Entries F} {name : String} :
    name ∈ referencedInEntries entries ↔ ∃ entry ∈ entries,
      name ∈ namedParameter entry.1 entry.2 ∨ name ∈ referencedParameters entry.2 := by
  induction entries with
  | nil => simp [referencedInEntries]
  | cons entry rest ih =>
      obtain ⟨key, value⟩ := entry
      simp [referencedInEntries, ih, or_assoc]

omit [PyFloat F] in
theorem mem_referencedInItems {items : List (PyValue F)} {name : String} :
    name ∈ referencedInItems items ↔ ∃ item ∈ items, name ∈ referencedParameters item := by
  induction items with
  | nil => simp [referencedInItems]
  | cons item rest ih => simp [referencedInItems, ih]

theorem Closed.list {items : List (PyValue F)} (closed : ∀ item ∈ items, Closed v item) :
    Closed v (.list items) where
  json := hasJson_list.mpr fun item member => (closed item member).json
  declared := by
    intro name referenced
    rw [referencedParameters] at referenced
    obtain ⟨item, member, inItem⟩ := mem_referencedInItems.mp referenced
    exact (closed item member).declared name inItem

theorem Closed.dict {entries : Entries F}
    (plain : ∀ entry ∈ entries, entry.1 = "param" → entry.2.text? = none) (closed : ∀ entry ∈ entries, Closed v entry.2) :
    Closed v (.dict entries) where
  json := hasJson_dict.mpr fun entry member => (closed entry member).json
  declared := by
    intro name referenced
    rw [referencedParameters] at referenced
    obtain ⟨entry, member, isParam | inValue⟩ := mem_referencedInEntries.mp referenced
    · unfold namedParameter at isParam
      split_ifs at isParam with isKey
      · rw [plain entry member isKey] at isParam
        cases isParam
      · cases isParam
    · exact (closed entry member).declared name inValue

theorem Closed.str (text : String) : Closed v (.str text) where
  json := hasJson_str text
  declared := by simp [referencedParameters]

theorem Closed.int (n : Int) : Closed v (.int n) where
  json := hasJson_int n
  declared := by simp [referencedParameters]

theorem Closed.bool (value : Bool) : Closed v (.bool value) where
  json := hasJson_bool value
  declared := by simp [referencedParameters]

theorem Closed.float {x : F} (finite : PyFloat.isFinite x = true) : Closed v (.float x) where
  json := hasJson_float finite
  declared := by simp [referencedParameters]

theorem Closed.param {name : String} {check : ParamCheck} (declared : Declared v check name) :
    Closed v (.dict [("param", .str name)]) where
  json := by
    rw [hasJson_dict]
    intro entry member
    obtain rfl := List.mem_singleton.mp member
    exact hasJson_str name
  declared := by
    intro other referenced
    have isName : other = name := by
      simpa [referencedParameters, referencedInEntries, namedParameter, PyValue.text?] using
        referenced
    exact ⟨check, isName ▸ declared⟩

inductive IsNumber : PyValue F → Prop
  | int {n : Int} {x : F} (asFloat : PyFloat.ofInt n = some x) : IsNumber (.int n)
  | float {x : F} (finite : PyFloat.isFinite x = true) : IsNumber (.float x)

theorem isNumber_of_accepted {value : PyValue F} (accepted : isNumber value = .ok true) :
    IsNumber value := by
  cases value with
  | int n =>
      cases asFloat : PyFloat.ofInt (F := F) n with
      | none => simp [isNumber, floatOfInt, asFloat, orRaise, Except.map] at accepted
      | some x => exact .int asFloat
  | float x => exact .float (Except.ok.inj accepted)
  | _ => cases Except.ok.inj accepted

theorem count_of_accepted {minimum maximum : Nat} {value : PyValue F}
    (accepted : Validator.ParamCheck.accepts (.count minimum maximum) value = .ok true) :
    ∃ n : Int, value = .int n ∧ minimum ≤ n ∧ n ≤ (if maximum = 0 then maxWindowBars else maximum) := by
  simp only [Validator.ParamCheck.accepts, Except.ok.injEq] at accepted
  cases value with
  | int n =>
      simp only [isCount, Bool.and_eq_true, decide_eq_true_eq] at accepted
      exact ⟨n, rfl, by exact_mod_cast accepted.1, by exact_mod_cast accepted.2⟩
  | _ => cases accepted

theorem amount_of_accepted {maximum : Option Nat} {value : PyValue F}
    (accepted : Validator.ParamCheck.accepts (.amount maximum) value = .ok true) : IsNumber value := by
  simp only [Validator.ParamCheck.accepts, isAmount, map_eq_ok, Bool.and_eq_true] at accepted
  obtain ⟨number, isNumber, isTrue, _⟩ := accepted
  rw [isTrue] at isNumber
  exact isNumber_of_accepted isNumber

theorem IsNumber.closed {value : PyValue F} (number : IsNumber value) : Closed v value := by
  cases number with
  | int asFloat => exact .int _
  | float finite => exact .float finite

theorem Closed.of_accepted {check : ParamCheck} {value : PyValue F}
    (accepted : Validator.ParamCheck.accepts check value = .ok true) : Closed v value := by
  cases check with
  | number => exact (isNumber_of_accepted accepted).closed
  | count minimum maximum =>
      obtain ⟨n, rfl, _, _⟩ := count_of_accepted accepted
      exact .int n
  | amount maximum => exact (amount_of_accepted accepted).closed

theorem numeric_closed {check : ParamCheck} {node : PyValue F} {checked : Checked F}
    (rule : NumericRule v check node checked) : Closed v checked.node := by
  cases rule with
  | literal plain accepted => exact .of_accepted accepted
  | parameter keys found declared => exact .param declared

end Closed

/-! ## Accepted nodes -/

section Rules
variable {v : Validator F}

theorem libraryIndicator_inputs {vbt : Option (VectorBT F)} {name : String}
    {spec : LibraryIndicator} (declared : libraryIndicator vbt name = some spec) :
    spec.inputs ≠ [] ∧ ∀ input ∈ spec.inputs, input ∈ priceInputs := by
  simp only [libraryIndicator, Option.bind_eq_bind, Option.bind_eq_some_iff, Option.pure_def,
    Option.some.injEq] at declared
  obtain ⟨_, _, _, _, _, _, cls, _, _, _, _, filled, _, prices, _, _, rfl⟩ := declared
  have guarded : ∀ {p : Prop} [Decidable p] {u : Unit}, guard p = some u → p := by
    intro p _ u passed
    by_contra fails
    rw [guard, if_neg fails] at passed
    cases passed
  refine ⟨?_, guarded prices⟩
  intro none
  change cls.inputNames = [] at none
  have nonempty := guarded filled
  simp [none] at nonempty

theorem Closed.entry {key : String} {value : PyValue F} (plain : key ≠ "param")
    (closed : Closed v value) : Closed v (.dict [(key, value)]) := by
  refine .dict ?_ ?_
  · intro entry member isParam
    obtain rfl := List.mem_singleton.mp member
    exact absurd isParam plain
  · intro entry member
    obtain rfl := List.mem_singleton.mp member
    exact closed

theorem Closed.operands {operator : String} {left right : PyValue F} (plain : operator ≠ "param")
    (isLeft : Closed v left) (isRight : Closed v right) :
    Closed v (.dict [(operator, .list [left, right])]) := by
  refine .entry plain (.list ?_)
  simp only [List.forall_mem_cons, List.not_mem_nil, false_imp_iff, implies_true, and_true]
  exact ⟨isLeft, isRight⟩

theorem numeric_text {check : ParamCheck} {node : PyValue F} {checked : Checked F}
    (rule : NumericRule v check node checked) : checked.node.text? = none := by
  cases rule with
  | literal plain accepted =>
      cases check with
      | number => cases isNumber_of_accepted accepted <;> rfl
      | count minimum maximum =>
          obtain ⟨n, rfl, _, _⟩ := count_of_accepted accepted
          rfl
      | amount maximum => cases amount_of_accepted accepted <;> rfl
  | parameter keys found declared => rfl

theorem ParamsRule.closed {Kind : Type} {check : Kind → ParamCheck}
    {entries : Entries F} {declared : List (String × Kind)}
    {params : List (String × Checked F)} (rules : ParamsRule v check entries declared params) :
    ∀ entry ∈ Validator.checkedEntries params, entry.2.text? = none ∧ Closed v entry.2 := by
  intro entry member
  obtain ⟨param, inParams, rfl⟩ := List.mem_map.mp member
  obtain ⟨_, _, value, _, _, rule⟩ := forall₂_mem_right rules inParams
  exact ⟨numeric_text rule, numeric_closed rule⟩

theorem atr_closed {value : PyValue F} {checked : Checked F} (rule : AtrRule v value checked) :
    Closed v checked.node := by
  obtain ⟨keys, flag, found, count, choice⟩ := rule
  rename_i entries smoothing across length lengthOk
  have smoothed : ∀ entry ∈ smoothing, entry.1 = "smoothing" ∧ Closed v entry.2 := by
    rcases choice with ⟨name, _, _, rfl⟩ | ⟨_, _, rfl⟩
    · intro entry member
      obtain rfl := List.mem_singleton.mp member
      exact ⟨rfl, .str name⟩
    · simp
  have flagged : ∀ entry ∈ (if (entries.lookup "across_sessions").isSome then
      [("across_sessions", PyValue.bool (F := F) across)] else []),
      entry.1 = "across_sessions" ∧ Closed v entry.2 := by
    split_ifs
    · intro entry member
      obtain rfl := List.mem_singleton.mp member
      exact ⟨rfl, .bool across⟩
    · simp
  have each : ∀ entry ∈ [("length", lengthOk.node)] ++ smoothing ++
      (if (entries.lookup "across_sessions").isSome then [("across_sessions", .bool across)]
        else []), entry.1 ≠ "param" ∧ Closed v entry.2 := by
    intro entry member
    rcases List.mem_append.mp member with inFirst | inFlag
    · rcases List.mem_append.mp inFirst with isLength | inSmoothing
      · obtain rfl := List.mem_singleton.mp isLength
        exact ⟨(by decide : "length" ≠ "param"), numeric_closed count⟩
      · exact ⟨by rw [(smoothed entry inSmoothing).1]; decide, (smoothed entry inSmoothing).2⟩
    · exact ⟨by rw [(flagged entry inFlag).1]; decide, (flagged entry inFlag).2⟩
  exact .dict (fun entry member isParam => absurd isParam (each entry member).1)
    fun entry member => (each entry member).2

theorem indicator_params_plain {operator : String} {spec : IndicatorSpec}
    (declared : indicators.lookup operator = some spec) : operator ≠ "param" := by
  have named : operator ∈ indicatorOperators := lookup_isSome_iff.mp (by rw [declared]; rfl)
  have known : ∀ operator ∈ indicatorOperators, operator ≠ "param" := by decide
  exact known operator named

theorem output_closed {outputs : List String} {entries written : Entries F}
    (choice : outputChoice outputs entries written) :
    ∀ entry ∈ written, entry.1 = "output" ∧ Closed v entry.2 := by
  unfold outputChoice at choice
  split_ifs at choice
  · subst choice
    simp
  · rcases choice with ⟨name, _, _, rfl⟩ | ⟨_, absent, _⟩
    · intro entry member
      obtain rfl := List.mem_singleton.mp member
      exact ⟨rfl, .str name⟩
    · cases absent

theorem series_closed {node : PyValue F} {checked : Checked F} (rule : SeriesRule v node checked) :
    Closed v checked.node := by
  induction rule with
  | int finite => exact .int _
  | float finite => exact .float finite
  | field member => exact .str _
  | param keys found declared => exact .param declared
  | binary member keys found leftRule rightRule leftIh rightIh =>
      have known : ∀ operator ∈ binaryOperators, operator ≠ "param" := by decide
      exact .operands (known _ member) leftIh rightIh
  | unary member keys found rule ih =>
      have known : ∀ operator ∈ unaryOperators, operator ≠ "param" := by decide
      exact .entry (known _ member) ih
  | atr keys found rule => exact .entry (by decide) (atr_closed rule)
  | session member keys found =>
      have known : ∀ operator ∈ sessionOperators, operator ≠ "param" := by decide
      exact .entry (known _ member) (.dict (by simp) (by simp))
  | range member keys found windowKeys startFound stopFound startClock stopClock ordered =>
      have known : ∀ operator ∈ rangeOperators, operator ≠ "param" := by decide
      refine .entry (known _ member) (.dict ?_ ?_)
      · simp
      · simp only [List.forall_mem_cons, List.not_mem_nil, false_imp_iff, implies_true, and_true]
        exact ⟨.str _, .str _⟩
  | prev keys found barsFound rule count ih =>
      refine .dict (by simp) ?_
      simp only [List.forall_mem_cons, List.not_mem_nil, false_imp_iff, implies_true, and_true]
      exact ⟨ih, numeric_closed count⟩
  | rolling member keys found flag lengthFound count rule ih =>
      have known : ∀ operator ∈ rollingOperators, operator ≠ "param" := by decide
      refine .dict (by simp [known _ member]) ?_
      simp only [List.forall_mem_cons, List.not_mem_nil, false_imp_iff, implies_true, and_true]
      exact ⟨ih, numeric_closed count, .bool _⟩
  | valueAt keys found timeFound timeClock rule ih =>
      refine .dict (by simp) ?_
      simp only [List.forall_mem_cons, List.not_mem_nil, false_imp_iff, implies_true, and_true]
      exact ⟨ih, .str _⟩
  | @indicator operator spec entries output across operand operandOk params declared keys flag found
      rule plain paramRules choice ih =>
      have operandClosed : Closed v operandOk.node := by
        cases takes : spec.takesSeries with
        | true => exact ih takes
        | false =>
            rw [(plain takes).2]
            exact .dict (by simp) (by simp)
      have each : ∀ entry ∈ [(operator, operandOk.node)] ++ Validator.checkedEntries params ++
          [("across_sessions", .bool across)] ++ output,
          (entry.1 = "param" → entry.2.text? = none) ∧ Closed v entry.2 := by
        simp only [List.forall_mem_append, List.forall_mem_singleton]
        refine ⟨⟨⟨⟨fun same => absurd same (indicator_params_plain declared), operandClosed⟩, ?_⟩,
          fun same => absurd same (by decide), .bool across⟩, ?_⟩
        · intro entry member
          obtain ⟨noText, closed⟩ := ParamsRule.closed paramRules entry member
          exact ⟨fun _ => noText, closed⟩
        · intro entry member
          obtain ⟨isOutput, closed⟩ := output_closed choice entry member
          exact ⟨fun same => absurd (isOutput.symm.trans same) (by decide), closed⟩
      exact .dict (fun entry member => (each entry member).1) fun entry member => (each entry member).2
  | @library spec name output entries paramEntries inputEntries across params operand operandOk keys
      named declared flag paramsFound paramKeys paramRules inputsFound inputKeys operands rules
      outputIs ih =>
      have known : ∀ input ∈ spec.inputs, input ≠ "param" := by
        intro input member
        have prices : ∀ input ∈ priceInputs, input ≠ "param" := by decide
        exact prices input ((libraryIndicator_inputs declared).2 input member)
      refine .dict (by simp) ?_
      simp only [List.forall_mem_cons, List.not_mem_nil, false_imp_iff, implies_true, and_true]
      refine ⟨.str _, .dict ?_ ?_, .dict ?_ ?_, .str _, .bool _⟩
      · exact fun entry member _ => (ParamsRule.closed paramRules entry member).1
      · exact fun entry member => (ParamsRule.closed paramRules entry member).2
      · intro entry member isParam
        obtain ⟨pair, inPairs, rfl⟩ := List.mem_map.mp member
        obtain ⟨key, inInputs, rfl⟩ := List.mem_map.mp inPairs
        exact absurd isParam (known key (List.mem_of_mem_filter inInputs))
      · intro entry member
        obtain ⟨pair, inPairs, rfl⟩ := List.mem_map.mp member
        obtain ⟨key, inInputs, rfl⟩ := List.mem_map.mp inPairs
        exact ih key inInputs

theorem condition_closed {node : PyValue F} {checked : Checked F}
    (rule : ConditionRule v node checked) : Closed v checked.node := by
  induction rule with
  | comparison member keys found leftRule rightRule =>
      have known : ∀ operator ∈ comparisonOperators ++ crossOperators, operator ≠ "param" := by
        decide
      exact .operands (known _ member) (series_closed leftRule) (series_closed rightRule)
  | @conditions operator entries items checked member keys found nonempty length rules ih =>
      have known : ∀ operator ∈ ["all", "any"], operator ≠ "param" := by decide
      refine .entry (known _ member) (.list ?_)
      intro item inItems
      obtain ⟨one, inChecked, rfl⟩ := List.mem_map.mp inItems
      rw [← List.map_snd_zip length.ge] at inChecked
      obtain ⟨pair, inZip, rfl⟩ := List.mem_map.mp inChecked
      exact ih pair inZip
  | not keys found rule ih => exact .entry (by decide) ih
  | everyMinutes keys found count grid => exact .entry (by decide) (.int _)
  | timeIs keys found timeClock => exact .entry (by decide) (.str _)
  | timeBetween keys found startClock stopClock ordered =>
      exact .operands (by decide) (.str _) (.str _)

theorem side_closed {node : PyValue F} {checked : Checked F} (rule : SideRule v node checked) :
    Closed v checked.node := by
  cases rule with
  | fixed member => exact .str _
  | signed member rule =>
      have known : ∀ operator ∈ sideOperators, operator ≠ "param" := by decide
      exact .entry (known _ member) (series_closed rule)

theorem distance_closed {stop : String} {node : PyValue F} {checked : Checked F}
    (rule : DistanceRule v stop node checked) : Closed v checked.node := by
  obtain ⟨keys, found, valueRule⟩ := rule
  cases valueRule with
  | level isKind allowed rule => exact .entry (by simp [isKind]) (series_closed rule)
  | signalBar isKind allowed => exact .entry (by simp [isKind]) (.bool _)
  | multiple isKind allowed amount => exact .entry (by simp [isKind]) (numeric_closed amount)
  | atr isKind keys lengthFound multipleFound count amount =>
      refine .entry (by simp [isKind]) (.dict (by simp) ?_)
      simp only [List.forall_mem_cons, List.not_mem_nil, false_imp_iff, implies_true, and_true]
      exact ⟨numeric_closed count, numeric_closed amount⟩
  | amount isKind amount =>
      have known : ∀ kind ∈ ["percent", "points", "ticks"], kind ≠ "param" := by decide
      exact .entry (known _ isKind) (numeric_closed amount)

theorem signals_closed {signals : List (Checked F)}
    (rules : ∀ signal ∈ signals, ∃ original, SignalRule v original signal) :
    Closed v (.list (signals.map Checked.node)) := by
  refine .list ?_
  intro item inItems
  obtain ⟨signal, member, rfl⟩ := List.mem_map.mp inItems
  obtain ⟨original, rule⟩ := rules signal member
  obtain ⟨keys, whenFound, sideFound, whenRule, sideRule⟩ := rule
  refine .dict (by simp) ?_
  simp only [List.forall_mem_cons, List.not_mem_nil, false_imp_iff, implies_true, and_true]
  exact ⟨condition_closed whenRule, side_closed sideRule⟩

end Rules

/-! ## Settings -/

/-- The candidate values of `_parameter_definition`: floats, unless all are whole numbers. -/
def candidateValues (values : List (PyValue F)) : Except RuleError (List (PyValue F)) :=
  if values.all fun value => value.int?.isSome then .ok values
  else (collect toFloat values).map fun floats => floats.map .float

/-- A setting that gives every declared variable one of its candidate values.  `float` of a whole
number is finite or raises. -/
def Assigns (v : Validator F) (parameters : Entries F) : Prop :=
  ∀ name definition values, v.packetVariables.lookup name = some definition →
    Validator.declaredValues definition = some values →
      ∃ candidates, candidateValues values = .ok candidates ∧ ∃ value ∈ candidates,
        parameters.lookup name = some value ∧
          ∀ x, value = .float x → PyFloat.isFinite x = true

section Settings
variable {v : Validator F} {A : Type} {bars : SessionBars A F} {interpreter : Interpreter F}

theorem Assigns.number {parameters : Entries F} (assigns : Assigns v parameters)
    {check : ParamCheck} {name : String} (declared : Declared v check name) :
    ∃ value, parameters.lookup name = some value ∧ IsNumber value := by
  obtain ⟨definition, values, found, listed, _, floats, converted, _⟩ := declared.values
  obtain ⟨candidates, isCandidates, value, member, assigned, finite⟩ :=
    assigns name definition values found listed
  refine ⟨value, assigned, ?_⟩
  unfold candidateValues at isCandidates
  split_ifs at isCandidates with whole
  · cases isCandidates
    have isWhole : value.int?.isSome = true := List.all_eq_true.mp whole value member
    cases value with
    | int n =>
        obtain ⟨x, isFloat⟩ := ok_of_collect converted member
        exact .int (orRaise_eq_ok.mp isFloat)
    | _ => cases isWhole
  · rw [converted] at isCandidates
    cases isCandidates
    obtain ⟨x, _, rfl⟩ := List.mem_map.mp member
    exact .float (finite x rfl)

/-- A setting gives a variable that is counted with a whole number within the bounds. -/
theorem Assigns.count {parameters : Entries F} (assigns : Assigns v parameters)
    {minimum maximum : Nat} {name : String} (declared : Declared v (.count minimum maximum) name) :
    ∃ n : Int, parameters.lookup name = some (.int n) ∧ minimum ≤ n ∧
      n ≤ (if maximum = 0 then maxWindowBars else maximum) := by
  obtain ⟨definition, values, found, listed, accepted, _⟩ := declared.values
  obtain ⟨candidates, isCandidates, value, member, assigned, _⟩ :=
    assigns name definition values found listed
  have whole : (values.all fun value => value.int?.isSome) = true := by
    rw [List.all_eq_true]
    intro declaredValue inValues
    obtain ⟨n, rfl, _⟩ := count_of_accepted (accepted declaredValue inValues)
    rfl
  rw [candidateValues, if_pos whole] at isCandidates
  cases isCandidates
  obtain ⟨n, rfl, lower, upper⟩ := count_of_accepted (accepted value member)
  exact ⟨n, assigned, lower, upper⟩

omit [PyFloat F] in
theorem parameter_ok {name : String} {value : PyValue F}
    (found : bars.parameters.lookup name = some value) :
    bars.parameter [("param", .str name)] = .ok value := by
  simp [SessionBars.parameter, PyValue.text?, orRaise, found, bind, Except.bind]

variable (interpreter) in
theorem count_ok (assigns : Assigns v bars.parameters) {minimum maximum : Nat} {node : PyValue F}
    {checked : Checked F} (rule : NumericRule v (.count minimum maximum) node checked) :
    ∃ n : Int, bars.count interpreter checked.node = .ok n ∧ minimum ≤ n ∧
      n ≤ (if maximum = 0 then maxWindowBars else maximum) := by
  cases rule with
  | literal plain accepted =>
      obtain ⟨n, rfl, lower, upper⟩ := count_of_accepted accepted
      exact ⟨n, rfl, lower, upper⟩
  | parameter keys found declared =>
      obtain ⟨n, assigned, lower, upper⟩ := assigns.count declared
      refine ⟨n, ?_, lower, upper⟩
      rw [SessionBars.count, parameter_ok assigned]
      rfl

variable (interpreter) in
theorem float_of_isNumber {value : PyValue F} (number : IsNumber value) :
    ∃ x, interpreter.float value = .ok x := by
  cases number with
  | int asFloat => exact ⟨_, by rw [Interpreter.float, asFloat]; rfl⟩
  | float finite => exact ⟨_, rfl⟩

theorem isNumber_of_amount {check : ParamCheck} (amount : check = .number ∨ ∃ maximum, check = .amount maximum)
    {value : PyValue F} (accepted : Validator.ParamCheck.accepts check value = .ok true) :
    IsNumber value := by
  rcases amount with rfl | ⟨maximum, rfl⟩
  · exact isNumber_of_accepted accepted
  · exact amount_of_accepted accepted

variable (interpreter) in
theorem amount_ok (assigns : Assigns v bars.parameters) {check : ParamCheck}
    (amount : check = .number ∨ ∃ maximum, check = .amount maximum) {node : PyValue F}
    {checked : Checked F} (rule : NumericRule v check node checked) :
    ∃ x, bars.amount interpreter checked.node = .ok x := by
  cases rule with
  | literal plain accepted =>
      have number := isNumber_of_amount amount accepted
      obtain ⟨x, read⟩ := float_of_isNumber interpreter number
      refine ⟨x, ?_⟩
      cases number <;> exact read
  | parameter keys found declared =>
      obtain ⟨value, assigned, number⟩ := assigns.number declared
      obtain ⟨x, read⟩ := float_of_isNumber interpreter number
      refine ⟨x, ?_⟩
      rw [SessionBars.amount, parameter_ok assigned]
      exact read

variable (interpreter) in
theorem key_ok (assigns : Assigns v bars.parameters) {node : PyValue F} (closed : Closed v node)
    (kind : NodeKind) : ∃ key, bars.key interpreter kind node = .ok key := by
  have collected : ∀ names : List String, (∀ name ∈ names, ∃ check, Declared v check name) →
      ∃ values, collect bars.parameterValue names = .ok values ∧
        ∀ entry ∈ values, HasJson entry.2 := by
    intro names
    induction names with
    | nil => exact fun _ => ⟨[], rfl, by simp⟩
    | cons name rest ih =>
        intro declared
        obtain ⟨check, isDeclared⟩ := declared name List.mem_cons_self
        obtain ⟨value, assigned, number⟩ := assigns.number isDeclared
        obtain ⟨values, isValues, json⟩ := ih fun other member =>
          declared other (List.mem_cons_of_mem _ member)
        refine ⟨(name, value) :: values, ?_, ?_⟩
        · simp [collect, SessionBars.parameterValue, assigned, orRaise, Except.map, isValues, bind,
            Except.bind]
        · rw [List.forall_mem_cons]
          exact ⟨(number.closed (v := v)).json, json⟩
  obtain ⟨values, isValues, json⟩ := collected
    ((referencedParameters node).dedup.mergeSort fun a b => decide (a ≤ b))
    fun name member => closed.declared name (List.mem_dedup.mp (List.mem_mergeSort.mp member))
  have whole : HasJson (.list [.str kind.text, node, .dict values]) := by
    rw [hasJson_list]
    simp only [List.forall_mem_cons, List.not_mem_nil, false_imp_iff, implies_true, and_true]
    exact ⟨hasJson_str _, closed.json, hasJson_dict.mpr json⟩
  obtain ⟨normalized, isNormalized⟩ := whole
  refine ⟨interpreter.jsonDumps normalized, ?_⟩
  rw [SessionBars.key, isValues, bind_ok, canonicalRuleSpecJson, isNormalized]

end Settings

end QuantFactory.RuleStrategy
