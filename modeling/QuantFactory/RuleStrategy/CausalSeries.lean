import Mathlib
import QuantFactory.RuleStrategy.CausalFunctions

/-!
# Series on two histories

Every accepted series returns on both histories and agrees on the known bars.
-/

set_option autoImplicit false

namespace QuantFactory.RuleStrategy

open QuantFactory.Library QuantFactory.Python QuantFactory.RuleLanguage

variable {F : Type} [PyFloat F]

/-! ## Parameters -/

section Parameters
variable {A B : Type} {bars : SessionBars A F} {others : SessionBars B F}
  {interpreter : Interpreter F} {v : Validator F}

omit [PyFloat F] in
theorem count_congr (same : bars.parameters = others.parameters) (node : PyValue F) :
    bars.count interpreter node = others.count interpreter node := by
  cases node <;> simp [SessionBars.count, SessionBars.parameter, same]

theorem amount_congr (same : bars.parameters = others.parameters) (node : PyValue F) :
    bars.amount interpreter node = others.amount interpreter node := by
  cases node <;> simp [SessionBars.amount, SessionBars.parameter, same]

theorem key_congr (same : bars.parameters = others.parameters) (kind : NodeKind)
    (node : PyValue F) : bars.key interpreter kind node = others.key interpreter kind node := by
  have values : bars.parameterValue = others.parameterValue := by
    funext name
    simp [SessionBars.parameterValue, same]
  simp only [SessionBars.key, values]

omit [PyFloat F] in
/-- What is read of a declared parameter: a count from its minimum on, or an amount. -/
def ParamRead (declared : String × IndicatorParam) (param : String × Scalar F) : Prop :=
  param.1 = declared.1 ∧ match declared.2 with
    | .count minimum => ∃ n : Int, param.2 = .int n ∧ minimum ≤ n
    | .amount => ∃ x, param.2 = .float x

variable (interpreter) in
theorem indicatorValue_ok (assigns : Assigns v bars.parameters) {across : Bool}
    {entries : Entries F} {declared : String × IndicatorParam} {value : PyValue F}
    {param : Checked F} (rule : NumericRule v (indicatorCheck v across declared.2) value param)
    (found : entries.lookup declared.1 = some param.node) :
    ∃ read, indicatorValue interpreter bars entries declared = .ok read ∧ ParamRead declared read := by
  obtain ⟨name, kind⟩ := declared
  change entries.lookup name = some param.node at found
  unfold indicatorValue
  simp only [found, orRaise, bind_ok]
  cases kind with
  | count minimum =>
      obtain ⟨n, isCount, lower, _⟩ := count_ok interpreter assigns rule
      exact ⟨(name, .int n), by rw [isCount]; rfl, rfl, n, rfl, lower⟩
  | amount =>
      obtain ⟨x, isAmount⟩ := amount_ok interpreter assigns
        (.inr ⟨_, rfl⟩) rule
      exact ⟨(name, .float x), by rw [isAmount]; rfl, rfl, x, rfl⟩

variable (interpreter) in
theorem indicatorValues_ok (assigns : Assigns v bars.parameters) {across : Bool}
    {original entries : Entries F} {declared : List (String × IndicatorParam)}
    {params : List (String × Checked F)}
    (rules : ParamsRule v (indicatorCheck v across) original declared params)
    (found : ∀ param ∈ params, entries.lookup param.1 = some param.2.node) :
    ∃ values, collect (indicatorValue interpreter bars entries) declared = .ok values ∧
      List.Forall₂ ParamRead declared values := by
  unfold ParamsRule at rules
  induction rules with
  | nil => exact ⟨[], rfl, .nil⟩
  | @cons one param declared params isFirst rest ih =>
      obtain ⟨value, _, named, rule⟩ := isFirst
      have present := found param List.mem_cons_self
      rw [named] at present
      obtain ⟨read, isRead, parameter⟩ := indicatorValue_ok interpreter assigns rule
        present
      obtain ⟨values, isValues, each⟩ := ih fun other member =>
        found other (List.mem_cons_of_mem _ member)
      exact ⟨read :: values, by rw [collect, isRead, bind_ok, isValues]; rfl, .cons parameter each⟩

end Parameters

/-! ## Named indicators -/

section Indicators
variable {lib : Libraries F} {interpreter : Interpreter F} {moment : Moment}
  {bars others : SessionBars (NdArray F) F} {a b a' b' : NdArray F} {across : Bool}
  {data data' : List (String × NdArray F)}

theorem libraryAtr_alike (reliable : Reliable lib.numerics moment)
    (frames : NamedAlike (moment.frame across) data data')
    (present : ∀ input ∈ priceInputs, (data.lookup input).isSome = true) (length : Int)
    (wtype : String) :
    Alike (LibraryError lib.numerics interpreter) (moment.frame across).Floats
      (libraryAtr (valueMachine lib.one) interpreter data length wtype)
      (libraryAtr (valueMachine lib.other) interpreter data' length wtype) := by
  have prices : ∀ input ∈ ["high", "low", "close"], input ∈ priceInputs := by decide
  exact runLibrary_alike reliable (by decide) frames
    (fun input member => present input (prices input member)) _ _

theorem keltner_alike (reliable : Reliable lib.numerics moment)
    (frames : NamedAlike (moment.frame across) data data')
    (present : ∀ input ∈ priceInputs, (data.lookup input).isSome = true) {length atrLength : Int}
    {mult : F} {output : String} (isOutput : output ∈ ["upper", "middle", "lower"]) :
    Alike (LibraryError lib.numerics interpreter) (moment.frame across).Floats
      (keltner (valueMachine lib.one) interpreter data [("length", .int length),
        ("atr_length", .int atrLength), ("mult", .float mult)] output)
      (keltner (valueMachine lib.other) interpreter data' [("length", .int length),
        ("atr_length", .int atrLength), ("mult", .float mult)] output) := by
  have close : ∀ input ∈ ["close"], input ∈ priceInputs := by decide
  refine (runLibrary_alike reliable (by decide) frames
    (fun input member => present input (close input member)) _ _).andThen
    fun middle middle' isMiddle => ?_
  refine (libraryAtr_alike reliable frames present _ _).andThen fun atr atr' isAtr => ?_
  refine (number_call lib .multiply (by decide) _ isAtr).andThen fun band band' isBand => ?_
  refine (floats_call lib .add (by decide) isMiddle isBand).andThen
    fun upper upper' isUpper => ?_
  refine (floats_call lib .subtract (by decide) isMiddle isBand).andThen
    fun lower lower' isLower => ?_
  have bands : NamedAlike (moment.frame across)
      [("upper", upper), ("middle", middle), ("lower", lower)]
      [("upper", upper'), ("middle", middle'), ("lower", lower')] :=
    .cons ⟨rfl, isUpper⟩ (.cons ⟨rfl, isMiddle⟩ (.cons ⟨rfl, isLower⟩ .nil))
  exact frameOf_alike bands (lookup_isSome_iff.mpr isOutput)

theorem donchian_alike (reliable : Reliable lib.numerics moment)
    (frames : NamedAlike (moment.frame across) data data')
    (present : ∀ input ∈ priceInputs, (data.lookup input).isSome = true) {length : Int}
    (positive : 1 ≤ length) {output : String} (isOutput : output ∈ ["upper", "lower", "middle"]) :
    Alike (LibraryError lib.numerics interpreter) (moment.frame across).Floats
      (donchian (valueMachine lib.one) interpreter data [("length", .int length)] output)
      (donchian (valueMachine lib.other) interpreter data' [("length", .int length)]
        output) := by
  obtain ⟨f, isMax, causal⟩ := reliable.rollingMax length positive
  obtain ⟨g, isMin, causal'⟩ := reliable.rollingMin length positive
  refine installed_alike.andThen fun _ _ _ => ?_
  refine (frameOf_alike frames (present "high" (by decide))).andThen fun high high' isHigh => ?_
  have upperBand : Alike (LibraryError lib.numerics interpreter) (moment.frame across).Floats
      (lib.one (.rollingMax length) [high]) (lib.other (.rollingMax length) [high']) := by
    simp only [Libraries.one, Libraries.other, numpy, isMax]
    exact accessor_call lib.numerics causal isHigh
  refine upperBand.andThen fun upper upper' isUpper => ?_
  refine (frameOf_alike frames (present "low" (by decide))).andThen fun low low' isLow => ?_
  have lowerBand : Alike (LibraryError lib.numerics interpreter) (moment.frame across).Floats
      (lib.one (.rollingMin length) [low]) (lib.other (.rollingMin length) [low']) := by
    simp only [Libraries.one, Libraries.other, numpy, isMin]
    exact accessor_call lib.numerics causal' isLow
  refine lowerBand.andThen fun lower lower' isLower => ?_
  refine (floats_call lib .add (by decide) isUpper isLower).andThen fun sum sum' isSum => ?_
  refine (number_call lib .divide (by decide) _ isSum).andThen
    fun middle middle' isMiddle => ?_
  have bands : NamedAlike (moment.frame across)
      [("upper", upper), ("lower", lower), ("middle", middle)]
      [("upper", upper'), ("lower", lower'), ("middle", middle')] :=
    .cons ⟨rfl, isUpper⟩ (.cons ⟨rfl, isLower⟩ (.cons ⟨rfl, isMiddle⟩ .nil))
  exact frameOf_alike bands (lookup_isSome_iff.mpr isOutput)

theorem combined_alike (reliable : Reliable lib.numerics moment) {operator : String}
    {spec : IndicatorSpec} (declared : indicators.lookup operator = some spec)
    (own : spec.library = none) (frames : NamedAlike (moment.frame across) data data')
    (present : ∀ input ∈ priceInputs, (data.lookup input).isSome = true)
    {params : List (String × Scalar F)} (read : List.Forall₂ ParamRead spec.params params)
    {output : String} (isOutput : output ∈ spec.outputs) :
    Alike (LibraryError lib.numerics interpreter) (moment.frame across).Floats
      (combined (valueMachine lib.one) interpreter operator data params output)
      (combined (valueMachine lib.other) interpreter operator data' params output) := by
  have known : ∀ entry ∈ indicators, entry.2.library = none →
      entry.1 = "keltner" ∧ entry.2.params = [("length", .count 1), ("atr_length", .count 1),
        ("mult", .amount)] ∧ entry.2.outputs = ["upper", "middle", "lower"] ∨
      entry.1 = "donchian" ∧ entry.2.params = [("length", .count 1)] ∧
        entry.2.outputs = ["upper", "lower", "middle"] := by decide
  rcases known (operator, spec) (mem_of_lookup declared) own with
    ⟨isOperator, isParams, outputs⟩ | ⟨isOperator, isParams, outputs⟩
  · change operator = "keltner" at isOperator
    subst isOperator
    change spec.outputs = _ at outputs
    change spec.params = _ at isParams
    rw [isParams] at read
    rw [outputs] at isOutput
    cases read with
    | cons isLength read =>
      cases read with
      | cons isAtr read =>
        cases read with
        | cons isMult read =>
          cases read
          rename_i length atrLength mult
          obtain ⟨lengthName, lengthValue⟩ := length
          obtain ⟨atrName, atrValue⟩ := atrLength
          obtain ⟨multName, multValue⟩ := mult
          obtain ⟨rfl, n, rfl, _⟩ := isLength
          obtain ⟨rfl, m, rfl, _⟩ := isAtr
          obtain ⟨rfl, x, rfl⟩ := isMult
          exact keltner_alike reliable frames present isOutput
  · change operator = "donchian" at isOperator
    subst isOperator
    change spec.outputs = _ at outputs
    change spec.params = _ at isParams
    rw [isParams] at read
    rw [outputs] at isOutput
    cases read with
    | cons isLength read =>
      cases read
      rename_i length
      obtain ⟨lengthName, lengthValue⟩ := length
      obtain ⟨rfl, n, rfl, positive⟩ := isLength
      exact donchian_alike reliable frames present (by exact_mod_cast positive) isOutput

omit [PyFloat F] in
theorem namedOutput_ok {spec : IndicatorSpec} {original entries written : Entries F}
    (choice : outputChoice spec.outputs original written)
    (found : ∀ entry ∈ written, entries.lookup entry.1 = some entry.2) :
    ∃ output, namedOutput spec entries = .ok output ∧
      (spec.outputs.isEmpty = false → output ∈ spec.outputs) := by
  unfold outputChoice at choice
  unfold namedOutput
  split_ifs at choice ⊢ with none
  · exact ⟨"value", rfl, fun some => absurd none (by simp [some])⟩
  · rcases choice with ⟨output, member, _, rfl⟩ | ⟨_, required, _⟩
    · have present := found _ List.mem_cons_self
      exact ⟨output, by simp [present, orRaise, PyValue.text?], fun _ => member⟩
    · cases required

theorem outputInLibrary_ok {operator name : String} {spec : IndicatorSpec}
    (declared : indicators.lookup operator = some spec) (named : spec.library = some name)
    {output : String} (member : spec.outputs.isEmpty = false → output ∈ spec.outputs) :
    ∃ libraryOutput, outputInLibrary spec output = .ok libraryOutput := by
  have known : ∀ entry ∈ indicators, entry.2.library.isSome = true →
      (entry.2.outputs.isEmpty = true ∧ entry.2.libraryOutputs.head?.isSome = true) ∨
        (entry.2.outputs.isEmpty = false ∧ ∀ output ∈ entry.2.outputs,
          ((entry.2.outputs.zip entry.2.libraryOutputs).lookup output).isSome = true) := by decide
  have isNamed : spec.library.isSome = true := by rw [named]; rfl
  unfold outputInLibrary
  rcases known (operator, spec) (mem_of_lookup declared) isNamed with
    ⟨none, first⟩ | ⟨some, each⟩
  · change spec.outputs.isEmpty = true at none
    obtain ⟨libraryOutput, isFirst⟩ := Option.isSome_iff_exists.mp first
    exact ⟨libraryOutput, by rw [if_pos none, isFirst]; rfl⟩
  · change spec.outputs.isEmpty = false at some
    obtain ⟨libraryOutput, isOutput⟩ := Option.isSome_iff_exists.mp (each output (member some))
    refine ⟨libraryOutput, ?_⟩
    rw [some]
    change orRaise ((spec.outputs.zip spec.libraryOutputs).lookup output) _ = _
    rw [isOutput]
    rfl

theorem knownIndicator_alike {operator name : String} {spec : IndicatorSpec}
    (declared : indicators.lookup operator = some spec) (named : spec.library = some name) :
    Alike (LibraryError lib.numerics interpreter) Eq (knownIndicator interpreter name)
      (knownIndicator interpreter name) := by
  refine .same fun error raised => ?_
  unfold knownIndicator at raised
  cases found : libraryIndicator interpreter.vbt name with
  | none =>
      rw [found] at raised
      cases raised
      exact .unknown declared named found
  | some library =>
      rw [found] at raised
      cases raised

theorem indicatorSeries_alike {v : Validator F} (reliable : Reliable lib.numerics moment)
    (alike : BarsAlike moment bars others) (assigns : Assigns v bars.parameters)
    {operator : String} {spec : IndicatorSpec} (declared : indicators.lookup operator = some spec)
    {value : PyValue F} {original entries output : Entries F}
    {params : List (String × Checked F)} {across : Bool}
    (rules : ParamsRule v (indicatorCheck v across) original spec.params params)
    (found : ∀ param ∈ params, entries.lookup param.1 = some param.2.node)
    (flag : entries.lookup "across_sessions" = some (.bool across))
    (choice : outputChoice spec.outputs original output)
    (written : ∀ entry ∈ output, entries.lookup entry.1 = some entry.2)
    {recurse recurse' : PyValue F → Except EvaluationError (NdArray F)}
    (operand : spec.takesSeries = true → Alike (LibraryError lib.numerics interpreter)
      moment.grid.Floats (recurse value) (recurse' value)) :
    Alike (LibraryError lib.numerics interpreter) moment.grid.Floats
      (indicatorSeries (valueMachine lib.one) interpreter bars recurse operator spec value
        entries)
      (indicatorSeries (valueMachine lib.other) interpreter others recurse' operator spec value
        entries) := by
  obtain ⟨values, isValues, read⟩ := indicatorValues_ok interpreter assigns rules found
  have same : collect (indicatorValue interpreter others entries) spec.params = .ok values := by
    rw [← isValues]
    have congr : indicatorValue interpreter others entries = indicatorValue interpreter bars entries := by
      funext one
      simp only [indicatorValue, count_congr alike.parameters, amount_congr alike.parameters]
    rw [congr]
  obtain ⟨named, isNamed, member⟩ := namedOutput_ok choice written
  have flagged : acrossSessions entries = .ok across := by rw [acrossSessions, flag]
  unfold indicatorSeries
  simp only [valueMachine, isValues, same, flagged, isNamed, bind_ok]
  cases library : spec.library with
  | none =>
      have outputs : spec.outputs.isEmpty = false := by
        have known : ∀ entry ∈ indicators, entry.2.library = none →
            entry.2.outputs.isEmpty = false := by decide
        exact known (operator, spec) (mem_of_lookup declared) library
      refine (frames_alike alike across .nil).andThen fun data data' both => ?_
      obtain ⟨frames, present⟩ := both
      refine (combined_alike reliable declared library frames present read
        (member outputs)).andThen fun band band' isBand => ?_
      exact scopeArray_alike alike isBand
  | some name =>
      refine (knownIndicator_alike declared library).bind fun known known' isKnown _ same => ?_
      subst same
      have isLibrary : libraryIndicator interpreter.vbt name = some known := orRaise_eq_ok.mp isKnown
      obtain ⟨some_inputs, prices⟩ := libraryIndicator_inputs isLibrary
      have sources : Alike (LibraryError lib.numerics interpreter) (NamedAlike moment.grid)
          (indicatorSources (valueMachine lib.one) recurse spec known value)
          (indicatorSources (valueMachine lib.other) recurse' spec known value) := by
        unfold indicatorSources
        split_ifs with takes
        · obtain ⟨input, rest, isInputs⟩ := List.exists_cons_of_ne_nil some_inputs
          simp only [valueMachine, isInputs, List.head?_cons, orRaise, bind_ok]
          refine (operand takes).andThen fun source source' isSource => ?_
          exact .returned (.cons ⟨rfl, isSource⟩ .nil)
        · exact .returned .nil
      obtain ⟨libraryOutput, isOutput⟩ := outputInLibrary_ok declared library member
      refine sources.andThen fun source source' isSource => ?_
      refine (frames_alike alike across isSource).andThen fun data data' both => ?_
      obtain ⟨frames, present⟩ := both
      rw [isOutput, bind_ok, bind_ok]
      refine (runLibrary_alike reliable some_inputs frames
        (fun input member => present input (prices input member)) _ _).andThen
        fun frame frame' isFrame => ?_
      exact scopeArray_alike alike isFrame

/-! ## Library indicators -/

variable (interpreter) in
theorem libraryValues_ok {v : Validator F} (assigns : Assigns v bars.parameters)
    {library : LibraryIndicator} {original : Entries F}
    {declared : List (String × ParamKind)} {params : List (String × Checked F)} {across : Bool}
    (rules : ParamsRule v (libraryCheck v across) original declared params)
    (known : ∀ entry ∈ declared, library.params.lookup entry.1 = some entry.2) :
    ∃ values, collect (libraryValue interpreter bars library) (Validator.checkedEntries params) =
      .ok values := by
  unfold ParamsRule at rules
  induction rules with
  | nil => exact ⟨[], rfl⟩
  | @cons one param declared params isFirst rest ih =>
      obtain ⟨value, _, named, rule⟩ := isFirst
      have kind := known one List.mem_cons_self
      obtain ⟨values, isValues⟩ := ih fun other member => known other (List.mem_cons_of_mem _ member)
      have first : ∃ read, libraryValue interpreter bars library (param.1, param.2.node) =
          .ok read := by
        unfold libraryValue
        simp only [named, kind, orRaise, bind_ok]
        cases isKind : one.2 with
        | count =>
            rw [isKind] at rule
            obtain ⟨n, isCount, _⟩ := count_ok interpreter assigns rule
            exact ⟨(one.1, .int n), by rw [isCount]; rfl⟩
        | number =>
            rw [isKind] at rule
            obtain ⟨x, isAmount⟩ := amount_ok interpreter assigns (.inl rfl) rule
            exact ⟨(one.1, .float x), by rw [isAmount]; rfl⟩
      obtain ⟨read, isRead⟩ := first
      refine ⟨read :: values, ?_⟩
      rw [Validator.checkedEntries, List.map_cons, collect, isRead, bind_ok]
      rw [Validator.checkedEntries] at isValues
      rw [isValues]
      rfl

theorem librarySeries_alike {v : Validator F} (reliable : Reliable lib.numerics moment)
    (alike : BarsAlike moment bars others) (assigns : Assigns v bars.parameters)
    {spec : LibraryIndicator} {name output : String} {across : Bool}
    (declared : libraryIndicator interpreter.vbt name = some spec)
    {original : Entries F} {params : List (String × Checked F)}
    (rules : ParamsRule v (libraryCheck v across) original spec.params params)
    {inputs : Entries F}
    {recurse recurse' : PyValue F → Except EvaluationError (NdArray F)}
    (operands : ∀ input ∈ inputs, Alike (LibraryError lib.numerics interpreter) moment.grid.Floats
      (recurse input.2) (recurse' input.2)) :
    Alike (LibraryError lib.numerics interpreter) moment.grid.Floats
      (librarySeries (valueMachine lib.one) interpreter bars recurse
        [("indicator", .str name), ("params", .dict (Validator.checkedEntries params)),
          ("inputs", .dict inputs), ("output", .str output), ("across_sessions", .bool across)])
      (librarySeries (valueMachine lib.other) interpreter others recurse'
        [("indicator", .str name), ("params", .dict (Validator.checkedEntries params)),
          ("inputs", .dict inputs), ("output", .str output), ("across_sessions", .bool across)]) := by
  obtain ⟨some_inputs, prices⟩ := libraryIndicator_inputs declared
  have distinct := (libraryIndicator_declares declared).2
  obtain ⟨values, isValues⟩ := libraryValues_ok interpreter assigns rules
    fun entry member => lookup_of_nodup distinct member
  have same : collect (libraryValue interpreter others spec) (Validator.checkedEntries params) =
      .ok values := by
    rw [← isValues]
    have congr : libraryValue interpreter others spec = libraryValue interpreter bars spec := by
      funext one
      simp only [libraryValue, count_congr alike.parameters, amount_congr alike.parameters]
    rw [congr]
  have sources : Alike (LibraryError lib.numerics interpreter) (NamedAlike moment.grid)
      (each (fun input : String × PyValue F => do
        let source ← recurse input.2
        pure (input.1, source)) inputs)
      (each (fun input : String × PyValue F => do
        let source ← recurse' input.2
        pure (input.1, source)) inputs) := by
    refine each_alike (List.forall₂_same.mpr fun input member => ?_)
    refine (operands input member).andThen fun source source' isSource => ?_
    exact .returned ⟨rfl, isSource⟩
  unfold librarySeries
  simp only [valueMachine, textUnder, objectUnder, acrossSessions, List.lookup_cons,
    PyValue.text?, knownIndicator, declared, orRaise, Option.bind_some, beq_self_eq_true, bind_ok,
    String.reduceBEq, isValues, same]
  refine sources.andThen fun source source' isSource => ?_
  refine (frames_alike alike across isSource).andThen fun data data' both => ?_
  obtain ⟨frames, present⟩ := both
  refine (runLibrary_alike reliable some_inputs frames
    (fun input member => present input (prices input member)) _ _).andThen
    fun frame frame' isFrame => ?_
  exact scopeArray_alike alike isFrame

/-! ## The average true range -/

theorem atrSeries_alike {v : Validator F} (reliable : Reliable lib.numerics moment)
    (alike : BarsAlike moment bars others) (assigns : Assigns v bars.parameters)
    {value : PyValue F} {checked : Checked F} (rule : AtrRule v value checked) :
    Alike (LibraryError lib.numerics interpreter) moment.grid.Floats
      (atrSeries (valueMachine lib.one) interpreter bars checked.node)
      (atrSeries (valueMachine lib.other) interpreter others checked.node) := by
  obtain ⟨keys, flag, found, count, choice⟩ := rule
  rename_i entries smoothing across length lengthOk
  obtain ⟨n, isCount, lower, _⟩ := count_ok interpreter assigns count
  generalize isWritten : [("length", lengthOk.node)] ++ smoothing ++
    (if (entries.lookup "across_sessions").isSome then
      [("across_sessions", PyValue.bool across)] else []) = written
  have lengthIs : written.lookup "length" = some lengthOk.node := by
    simp [← isWritten]
  have flagIs : ∃ across, acrossSessionsOrNot written = .ok across := by
    have absent : smoothing.lookup "across_sessions" = none := by
      rcases choice with ⟨name, _, _, rfl⟩ | ⟨_, _, rfl⟩
      · simp [List.lookup_cons]
      · rfl
    have lookup : written.lookup "across_sessions" =
        (if (entries.lookup "across_sessions").isSome then
          [("across_sessions", PyValue.bool (F := F) across)] else []).lookup "across_sessions" := by
      rw [← isWritten, List.append_assoc, List.singleton_append, List.lookup_cons]
      have differs : ("across_sessions" == "length") = false := by decide
      rw [differs, List.lookup_append, absent]
      rfl
    unfold acrossSessionsOrNot acrossSessions
    rw [lookup]
    split_ifs
    · exact ⟨false, rfl⟩
    · exact ⟨across, by simp⟩
    · exact ⟨false, rfl⟩
    · rename_i present none
      simp at none
  obtain ⟨across', isFlag⟩ := flagIs
  have counted : (do bars.count interpreter (← nodeUnder "length" written)) = Except.ok n := by
    rw [nodeUnder, lengthIs]
    exact isCount
  have counted' : (do others.count interpreter (← nodeUnder "length" written)) = Except.ok n := by
    rw [nodeUnder, lengthIs, ← isCount]
    exact (count_congr alike.parameters _).symm
  have reads : ∀ {R : Type} (b : SessionBars R F), (do
      let node ← orRaise (written.lookup "length") (.keyError "length")
      b.count interpreter node) = (do b.count interpreter (← nodeUnder "length" written)) :=
    fun _ => rfl
  unfold atrSeries
  simp only [valueMachine, bind_ok, reads, counted, counted', isFlag]
  by_cases plain : (smoothingOf written).text? = some "sma" ∧ across' = false
  · rw [if_pos plain, if_pos plain]
    exact simpleAtr_alike reliable alike (by exact_mod_cast lower)
  · rw [if_neg plain, if_neg plain]
    refine (frames_alike alike across' .nil).andThen fun data data' both => ?_
    obtain ⟨frames, present⟩ := both
    refine (libraryAtr_alike reliable frames present _ _).andThen fun frame frame' isFrame => ?_
    exact scopeArray_alike alike isFrame

end Indicators

/-! ## Rows of the clock -/

def rowAt (bar : Bar) (text : String) : Int :=
  ((minutesOf text : Int) - bar.firstBarEndMinutes) / bar.minutes

omit [PyFloat F] in
theorem barPosition_ok {bar : Bar} {earliest latest : Nat} {text : String}
    (isClock : IsClock earliest latest bar.minutes text) :
    barPosition bar (.str (F := F) text) = .ok (rowAt bar text) := by
  obtain ⟨minutes, read, _⟩ := isClock
  simp [barPosition, minutesAt, PyValue.text?, rowAt, minutesOf, read, orRaise, Except.map]

omit [PyFloat F] in
theorem minutesOf_clock {earliest latest step : Nat} {text : String}
    (isClock : IsClock earliest latest step text) :
    minutesOf text % step = 0 ∧ earliest ≤ minutesOf text ∧ minutesOf text ≤ latest := by
  obtain ⟨minutes, read, grid, lower, upper⟩ := isClock
  have same : minutesOf text = minutes := by rw [minutesOf, read]; rfl
  exact ⟨same ▸ grid, same ▸ lower, same ▸ upper⟩

omit [PyFloat F] in
theorem row_inside {bar : Bar} {text : String}
    (isClock : IsClock bar.firstBarEndMinutes sessionCloseMinutes bar.minutes text) :
    0 ≤ rowAt bar text ∧ rowAt bar text < bar.barsPerSession := by
  obtain ⟨_, lower, upper⟩ := minutesOf_clock isClock
  unfold rowAt
  cases bar <;>
    simp only [Bar.firstBarEndMinutes, Bar.minutes, Bar.barsPerSession, sessionOpenMinutes,
      sessionCloseMinutes] at lower upper ⊢ <;> omega

omit [PyFloat F] in
theorem range_inside {bar : Bar} {start stop : String}
    (startClock : IsClock sessionOpenMinutes bar.lastExit bar.minutes start)
    (stopClock : IsClock bar.firstBarEndMinutes sessionCloseMinutes bar.minutes stop)
    (ordered : minutesOf start < minutesOf stop) :
    0 ≤ rowAt bar start + 1 ∧ rowAt bar start + 1 ≤ rowAt bar stop := by
  obtain ⟨grid, lower, _⟩ := minutesOf_clock startClock
  obtain ⟨grid', _, upper⟩ := minutesOf_clock stopClock
  unfold rowAt
  cases bar <;>
    simp only [Bar.firstBarEndMinutes, Bar.minutes, sessionOpenMinutes, sessionCloseMinutes]
      at grid grid' lower upper ⊢ <;> omega

/-! ## Accepted series -/

section Series
variable {lib : Libraries F} {interpreter : Interpreter F} {moment : Moment}
  {bars others : SessionBars (NdArray F) F} {v : Validator F}

/-- The two runs of an evaluation: one setting of an accepted specification, on two histories. -/
structure TwoRuns (numerics : Numerics F) (interpreter : Interpreter F) (v : Validator F)
    (moment : Moment) (bars others : SessionBars (NdArray F) F) : Prop where
  reliable : Reliable numerics moment
  alike : BarsAlike moment bars others
  assigns : Assigns v bars.parameters
  bar : bars.bar = v.bar
  rows : moment.bars = v.bar.barsPerSession
  vbt : interpreter.vbt = v.runtime.vbt

theorem cacheKey_ok (runs : TwoRuns lib.numerics interpreter v moment bars others) (kind : NodeKind)
    {node : PyValue F} (closed : Closed v node) :
    ∃ key, bars.key interpreter kind node = .ok key ∧ others.key interpreter kind node = .ok key := by
  obtain ⟨key, isKey⟩ := key_ok interpreter runs.assigns closed kind
  exact ⟨key, isKey, (key_congr runs.alike.parameters kind node).symm.trans isKey⟩

theorem cached_alike {related : NdArray F → NdArray F → Prop} (runs : TwoRuns lib.numerics interpreter v moment bars others)
    {kind : NodeKind} {node : PyValue F} (closed : Closed v node)
    {compute compute' : Except EvaluationError (NdArray F)}
    (alike : Alike (LibraryError lib.numerics interpreter) related compute compute') :
    Alike (LibraryError lib.numerics interpreter) related
      (cachedNode (valueMachine lib.one) interpreter bars kind node compute)
      (cachedNode (valueMachine lib.other) interpreter others kind node compute') := by
  obtain ⟨key, isKey, isKey'⟩ := cacheKey_ok runs kind closed
  unfold cachedNode
  simp only [valueMachine, isKey, isKey', bind_ok]
  exact alike

theorem arithmetic_alike (operator : String) {a b a' b' : NdArray F}
    (left : moment.grid.Floats a b) (right : moment.grid.Floats a' b') :
    Alike (LibraryError lib.numerics interpreter) moment.grid.Floats
      (arithmetic (valueMachine lib.one) operator a a')
      (arithmetic (valueMachine lib.other) operator b b') := by
  unfold arithmetic
  split_ifs
  · exact divide_alike left right
  · exact floats_call lib .add (by decide) left right
  · exact floats_call lib .subtract (by decide) left right
  · exact floats_call lib .multiply (by decide) left right

variable (runs : TwoRuns lib.numerics interpreter v moment bars others)
include runs

def SeriesAlike (lib : Libraries F) (interpreter : Interpreter F) (moment : Moment)
    (bars others : SessionBars (NdArray F) F) (node : PyValue F) : Prop :=
  ∀ depth other, node.depth ≤ depth → node.depth ≤ other →
    Alike (LibraryError lib.numerics interpreter) moment.grid.Floats
      (series (valueMachine lib.one) interpreter bars depth node)
      (series (valueMachine lib.other) interpreter others other node)

theorem field_alike {name : String} (member : name ∈ priceFields) :
    SeriesAlike lib interpreter moment bars others (.str name) := by
  intro depth other within within'
  obtain ⟨depth, rfl⟩ : ∃ n, depth = n + 1 := ⟨depth - 1, by simp [PyValue.depth] at within; omega⟩
  obtain ⟨other, rfl⟩ : ∃ n, other = n + 1 := ⟨other - 1, by simp [PyValue.depth] at within'; omega⟩
  simp only [priceFields, List.mem_cons, List.not_mem_nil, or_false] at member
  rcases member with rfl | rfl | rfl | rfl | rfl
  · exact .returned runs.alike.open_
  · exact .returned runs.alike.high
  · exact .returned runs.alike.low
  · exact .returned runs.alike.close
  · exact .returned runs.alike.volume

theorem filled_alike (value : F) :
    Alike (LibraryError lib.numerics interpreter) moment.grid.Floats
      (filled (valueMachine lib.one) bars.shape value)
      (filled (valueMachine lib.other) others.shape value) := by
  rw [runs.alike.shape, runs.alike.otherShape]
  exact full_call lib (floatScalar_float value)

theorem object_alike {operator : String} {value : PyValue F} {rest : Entries F}
    (named : operator ∉ modifiers) (closed : Closed v (.dict ((operator, value) :: rest)))
    (alike : ∀ depth other, (PyValue.dict ((operator, value) :: rest)).depth ≤ depth + 1 →
      (PyValue.dict ((operator, value) :: rest)).depth ≤ other + 1 →
      Alike (LibraryError lib.numerics interpreter) moment.grid.Floats
        (operatorSeries (valueMachine lib.one) interpreter bars
          (series (valueMachine lib.one) interpreter bars depth) operator value
          ((operator, value) :: rest))
        (operatorSeries (valueMachine lib.other) interpreter others
          (series (valueMachine lib.other) interpreter others other) operator value
          ((operator, value) :: rest))) :
    SeriesAlike lib interpreter moment bars others (.dict ((operator, value) :: rest)) := by
  intro depth other within within'
  have one := depth_pos (PyValue.dict ((operator, value) :: rest))
  obtain ⟨depth, rfl⟩ : ∃ n, depth = n + 1 := ⟨depth - 1, by omega⟩
  obtain ⟨other, rfl⟩ : ∃ n, other = n + 1 := ⟨other - 1, by omega⟩
  rw [series_operator _ _ _ _ named, series_operator _ _ _ _ named]
  exact cached_alike runs closed (alike depth other within within')

theorem unarySeries_alike (operator : String) {a b : NdArray F} (operand : moment.grid.Floats a b) :
    Alike (LibraryError lib.numerics interpreter) moment.grid.Floats
      (unarySeries (valueMachine lib.one) bars operator a)
      (unarySeries (valueMachine lib.other) others operator b) := by
  unfold unarySeries
  rw [runs.alike.tickSize, runs.alike.shape, runs.alike.otherShape]
  split_ifs with isTicks isAbs isSign isNeg isRun isChange
  · exact number_call lib .divide (by decide) _ operand
  · exact map_call lib .absolute (by decide) operand
  · exact map_call lib .sign (by decide) operand
  · exact map_call lib .negative (by decide) operand
  · exact sameSignRun_alike operand
  · refine (shift_call lib (by decide) operand).andThen fun previous previous' isPrevious => ?_
    refine (floats_call lib .subtract (by decide) operand isPrevious).andThen
      fun change change' isChange => ?_
    exact .returned isChange
  · refine (shift_call lib (by decide) operand).andThen fun previous previous' isPrevious => ?_
    refine (floats_call lib .subtract (by decide) operand isPrevious).andThen
      fun change change' isChange => ?_
    exact divide_alike isChange isPrevious

theorem vwap_alike :
    Alike (LibraryError lib.numerics interpreter) moment.grid.Floats
      (vwap (valueMachine lib.one) bars) (vwap (valueMachine lib.other) others) := by
  refine (floats_call lib .add (by decide) runs.alike.high runs.alike.low).andThen
    fun sum sum' isSum => ?_
  refine (floats_call lib .add (by decide) isSum runs.alike.close).andThen
    fun sum sum' isSum => ?_
  refine (number_call lib .divide (by decide) _ isSum).andThen
    fun typical typical' isTypical => ?_
  refine (floats_call lib .multiply (by decide) isTypical runs.alike.volume).andThen
    fun traded traded' isTraded => ?_
  refine (cumsum_call lib isTraded).andThen fun turnover turnover' isTurnover => ?_
  refine (cumsum_call lib runs.alike.volume).andThen fun volume volume' isVolume => ?_
  exact floats_call lib .divide (by decide) isTurnover isVolume

theorem sessionSeries_alike (operator : String) :
    Alike (LibraryError lib.numerics interpreter) moment.grid.Floats
      (sessionSeries (valueMachine lib.one) bars operator)
      (sessionSeries (valueMachine lib.other) others operator) := by
  have some_bars := moment.someBars
  unfold sessionSeries
  rw [runs.alike.shape, runs.alike.otherShape]
  split_ifs
  · exact vwap_alike runs
  · refine (row_call lib (le_refl 0) (by omega) runs.alike.open_).andThen
      fun first first' isFirst => ?_
    exact broadcast_session_call lib isFirst
  · refine (barNumbers_call lib).andThen fun numbers numbers' isNumbers => ?_
    exact broadcast_clock_call lib isNumbers

theorem rangeSeries_alike (operator : String) {start stop : String}
    (startClock : IsClock sessionOpenMinutes v.bar.lastExit v.bar.minutes start)
    (stopClock : IsClock v.bar.firstBarEndMinutes sessionCloseMinutes v.bar.minutes stop)
    (ordered : minutesOf start < minutesOf stop) :
    Alike (LibraryError lib.numerics interpreter) moment.grid.Floats
      (rangeSeries (valueMachine lib.one) bars operator
        (.dict [("from", .str start), ("to", .str stop)]))
      (rangeSeries (valueMachine lib.other) others operator
        (.dict [("from", .str start), ("to", .str stop)])) := by
  obtain ⟨lower, spans⟩ := range_inside startClock stopClock ordered
  have inside := row_inside stopClock
  have upper : rowAt v.bar stop < (moment.bars : Int) := by rw [runs.rows]; exact inside.2
  have isBar' : others.bar = v.bar := runs.alike.bar ▸ runs.bar
  have starts := barPosition_ok (F := F) startClock
  have stops := barPosition_ok (F := F) stopClock
  unfold rangeSeries
  simp only [valueMachine, nodeUnder, List.lookup_cons, beq_self_eq_true, String.reduceBEq, orRaise,
    bind_ok, runs.bar, isBar', starts, stops, runs.alike.shape, runs.alike.otherShape]
  split_ifs
  · refine (rowsExtreme_alike lib.numerics lib.numerics.maximum lower spans upper runs.alike.high).andThen
      fun extreme extreme' isExtreme => ?_
    exact fromRow_alike inside.1 upper.le isExtreme
  · refine (rowsExtreme_alike lib.numerics lib.numerics.minimum lower spans upper runs.alike.low).andThen
      fun extreme extreme' isExtreme => ?_
    exact fromRow_alike inside.1 upper.le isExtreme

end Series

end QuantFactory.RuleStrategy
