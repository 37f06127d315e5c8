import QuantFactory.RuleLanguage.Copies

/-!
# Normalized nodes check to themselves

A copy of a normalized node passes the check that produced the node, with that
node as its result, as long as the depth of the recursion reaches the node's
depth.
-/

set_option autoImplicit false

namespace QuantFactory.RuleLanguage

open QuantFactory.Library QuantFactory.Python Validator

variable {F : Type}

/-! ## Series -/

/-- The flag of `atr`, which is written only where it is given. -/
def acrossEntry (entries : Entries F) (across : Bool) : Entries F :=
  if (entries.lookup "across_sessions").isSome then [("across_sessions", .bool across)] else []

theorem atr_written {entries smoothing : Entries F} {across : Bool}
    (length : PyValue F) (flag : FlagIs entries "across_sessions" across)
    (choice : ChoiceIs "smoothing" atrSmoothings false entries smoothing) :
    let written := [("length", length)] ++ smoothing ++ acrossEntry entries across
    HasKeys written ["length"] ["smoothing", "across_sessions"] ∧
      FlagIs written "across_sessions" across ∧
      ChoiceIs "smoothing" atrSmoothings false written smoothing ∧
      (written.lookup "across_sessions").isSome = (entries.lookup "across_sessions").isSome := by
  rcases choice with ⟨text, member, _, rfl⟩ | ⟨_, _, rfl⟩ <;>
    rcases flag with here | ⟨gone, rfl⟩
  · refine ⟨⟨?_, ?_⟩, ?_, ?_, ?_⟩ <;>
      simp [acrossEntry, here, FlagIs, ChoiceIs, member, List.lookup_cons]
  · refine ⟨⟨?_, ?_⟩, ?_, ?_, ?_⟩ <;>
      simp [acrossEntry, gone, FlagIs, ChoiceIs, member, List.lookup_cons]
  · refine ⟨⟨?_, ?_⟩, ?_, ?_, ?_⟩ <;> simp [acrossEntry, here, FlagIs, ChoiceIs, List.lookup_cons]
  · refine ⟨⟨?_, ?_⟩, ?_, ?_, ?_⟩ <;> simp [acrossEntry, gone, FlagIs, ChoiceIs, List.lookup_cons]

section Series
variable [PyFloat F] {v : Validator F} {copy : PyValue F → PyValue F → Prop}

section Dispatch
variable {recurse : Check F} {operator : String}

theorem operatorNode_rolling (member : operator ∈ rollingOperators) :
    v.operatorNode recurse operator = v.rollingNode recurse operator := by
  have known : ∀ operator ∈ rollingOperators, operator ≠ "prev" := by decide
  rw [operatorNode, if_neg (known operator member), if_pos member]

theorem operatorNode_indicator {spec : IndicatorSpec}
    (declared : indicators.lookup operator = some spec) :
    v.operatorNode recurse operator = v.indicatorNode recurse operator spec := by
  have known : ∀ operator ∈ indicatorOperators,
      operator ≠ "prev" ∧ operator ∉ rollingOperators ∧ operator ≠ "value_at" := by decide
  have named : operator ∈ indicatorOperators :=
    lookup_isSome_iff.mp (Option.isSome_iff_exists.mpr ⟨spec, declared⟩)
  obtain ⟨notPrev, notRolling, notValueAt⟩ := known operator named
  rw [operatorNode, if_neg notPrev, if_neg notRolling, if_neg notValueAt, declared]

theorem operatorNode_plain (member : operator ∈ plainOperators) :
    v.operatorNode recurse operator = v.plainNode recurse operator := by
  have known : ∀ operator ∈ plainOperators, operator ≠ "prev" ∧ operator ∉ rollingOperators ∧
      operator ≠ "value_at" ∧ indicators.lookup operator = none ∧ operator ≠ "indicator" := by
    decide
  obtain ⟨notPrev, notRolling, notValueAt, unnamed, notIndicator⟩ := known operator member
  simp only [operatorNode, if_neg notPrev, if_neg notRolling, if_neg notValueAt, unnamed,
    if_neg notIndicator]

end Dispatch

theorem series_dict {depth : Nat} {entries : Entries F} {operator path : String}
    {checked : Checked F}
    (heads : (entries.map Prod.fst).filter (fun head => decide (head ∈ seriesOperators)) =
      [operator])
    (node : v.operatorNode (v.series depth) operator (.dict entries) path = .ok checked) :
    v.series (depth + 1) (.dict entries) path = .ok checked := by
  have found : operatorOf v.runtime (.dict entries) path seriesOperators .series = .ok operator :=
    operatorOf_ok_iff.mpr ⟨entries, rfl, heads⟩
  simp only [series, bind_eq_ok]
  exact ⟨operator, found, node⟩

theorem plain_series {operator : String} (member : operator ∈ plainOperators) :
    operator ∈ seriesOperators := by
  have known : ∀ operator ∈ plainOperators, operator ∈ seriesOperators := by decide
  exact known operator member

theorem accepts_scalar {check : ParamCheck} {node : PyValue F}
    (accepted : ParamCheck.accepts check node = .ok true) : node.isScalar = true := by
  cases node with
  | list items => cases check <;> cases accepted
  | dict entries => cases check <;> cases accepted
  | _ => rfl

theorem NumericRule.copied (copies : Copies copy) {check : ParamCheck} {node other : PyValue F}
    {checked : Checked F} (rule : NumericRule v check node checked)
    (same : copy checked.node other) : NumericRule v check other checked := by
  cases rule with
  | literal plain accepted =>
      rw [copies.scalar same (accepts_scalar accepted)]
      exact .literal plain accepted
  | parameter keys found declared =>
      obtain ⟨copied, rfl, entries⟩ := copies.dict same
      exact .parameter (entries.hasKeys (hasKeys_of_eq rfl)) (entries.text copies List.lookup_cons_self)
        declared

theorem object_copied {entries copied : Entries F}
    (same : EntriesCopied copy entries copied) {operator path : String} {checked : Checked F}
    (heads : (entries.map Prod.fst).filter (fun head => decide (head ∈ seriesOperators)) =
      [operator])
    (node : ∀ inner, (∀ key value, (key, value) ∈ entries → value.depth ≤ inner) →
      v.operatorNode (v.series inner) operator (.dict copied) path = .ok checked)
    {depth : Nat} (within : (PyValue.dict entries).depth ≤ depth) :
    v.series depth (.dict copied) path = .ok checked := by
  cases depth with
  | zero =>
      have positive := depth_pos (PyValue.dict entries)
      omega
  | succ inner =>
      exact series_dict (same.heads heads) (node inner fun _ _ member => depth_entry within member)

theorem AtrRule.copied (copies : Copies copy) {value other : PyValue F} {checked : Checked F}
    (rule : AtrRule v value checked) (same : copy checked.node other) :
    AtrRule v other checked := by
  cases rule with
  | @atr entries smoothing across length lengthOk keys flag found count choice =>
    obtain ⟨copied, rfl, entriesCopied⟩ := copies.dict same
    obtain ⟨writtenKeys, writtenFlag, writtenChoice, written⟩ :=
      atr_written lengthOk.node flag choice
    obtain ⟨length', lengthFound, lengthCopied⟩ := entriesCopied.values "length" lengthOk.node
      (by simp)
    have acrossSame : (copied.lookup "across_sessions").isSome =
        (entries.lookup "across_sessions").isSome := (entriesCopied.isSome _).trans written
    rw [← acrossSame]
    exact .atr (entriesCopied.hasKeys writtenKeys) (entriesCopied.flag copies writtenFlag)
      lengthFound (count.copied copies lengthCopied) (entriesCopied.choice copies writtenChoice)

/-- The operator of an object with nothing else checks a copy of it. -/
theorem plain_copied {operator path : String} {value : PyValue F}
    {copied : Entries F} {checked : Checked F} (member : operator ∈ plainOperators)
    (same : EntriesCopied copy [(operator, value)] copied)
    (node : ∀ inner, value.depth ≤ inner →
      v.plainNode (v.series inner) operator (.dict copied) path = .ok checked)
    {depth : Nat} (within : (PyValue.dict [(operator, value)]).depth ≤ depth) :
    v.series depth (.dict copied) path = .ok checked := by
  refine object_copied same (heads_single (plain_series member)) (fun inner depths => ?_) within
  rw [operatorNode_plain member]
  exact node inner (depths operator value List.mem_cons_self)

theorem plain_of_binary {operator : String} (member : operator ∈ binaryOperators) :
    operator ∈ plainOperators ∧ operator ≠ "param" := by
  have known : ∀ operator ∈ binaryOperators, operator ∈ plainOperators ∧ operator ≠ "param" := by
    decide
  exact known operator member

theorem plain_of_unary {operator : String} (member : operator ∈ unaryOperators) :
    operator ∈ plainOperators ∧ operator ≠ "param" ∧ operator ∉ binaryOperators := by
  have known : ∀ operator ∈ unaryOperators,
      operator ∈ plainOperators ∧ operator ≠ "param" ∧ operator ∉ binaryOperators := by decide
  exact known operator member

theorem plain_of_session {operator : String} (member : operator ∈ sessionOperators) :
    operator ∈ plainOperators ∧ operator ≠ "param" ∧ operator ∉ binaryOperators ∧
      operator ∉ unaryOperators ∧ operator ≠ "atr" := by
  have known : ∀ operator ∈ sessionOperators, operator ∈ plainOperators ∧ operator ≠ "param" ∧
      operator ∉ binaryOperators ∧ operator ∉ unaryOperators ∧ operator ≠ "atr" := by decide
  exact known operator member

theorem plain_of_range {operator : String} (member : operator ∈ rangeOperators) :
    operator ∈ plainOperators ∧ operator ≠ "param" ∧ operator ∉ binaryOperators ∧
      operator ∉ unaryOperators ∧ operator ≠ "atr" ∧ operator ∉ sessionOperators := by
  have known : ∀ operator ∈ rangeOperators, operator ∈ plainOperators ∧ operator ≠ "param" ∧
      operator ∉ binaryOperators ∧ operator ∉ unaryOperators ∧ operator ≠ "atr" ∧
      operator ∉ sessionOperators := by decide
  exact known operator member

theorem rolling_keys {operator : String} (member : operator ∈ rollingOperators) :
    operator ∈ seriesOperators ∧ ("length" == operator) = false ∧
      ("across_sessions" == operator) = false := by
  have known : ∀ operator ∈ rollingOperators, operator ∈ seriesOperators ∧
      ("length" == operator) = false ∧ ("across_sessions" == operator) = false := by decide
  exact known operator member

def indicatorKeys (operator : String) (spec : IndicatorSpec) : List String :=
  [operator] ++ spec.params.map Prod.fst ++ ["across_sessions"] ++ outputKeys spec

theorem indicatorKeys_distinct {operator : String} {spec : IndicatorSpec}
    (declared : indicators.lookup operator = some spec) :
    (indicatorKeys operator spec).Nodup ∧
      (indicatorKeys operator spec).filter (fun head => decide (head ∈ seriesOperators)) =
        [operator] := by
  have known : ∀ entry ∈ indicators, (indicatorKeys entry.1 entry.2).Nodup ∧
      (indicatorKeys entry.1 entry.2).filter (fun head => decide (head ∈ seriesOperators)) =
        [entry.1] := by decide +kernel
  exact known (operator, spec) (mem_of_lookup declared)

theorem ParamsRule.keys {Kind : Type} {check : Kind → ParamCheck}
    {entries : Entries F} {declared : List (String × Kind)}
    {params : List (String × Checked F)} (rule : ParamsRule v check entries declared params) :
    params.map Prod.fst = declared.map Prod.fst := by
  unfold ParamsRule at rule
  induction rule with
  | nil => rfl
  | cons first _ ih =>
      obtain ⟨_, _, same, _⟩ := first
      rw [List.map_cons, List.map_cons, same, ih]

omit [PyFloat F] in
theorem checkedEntries_keys (params : List (String × Checked F)) :
    (checkedEntries params).map Prod.fst = params.map Prod.fst := by
  simp [checkedEntries, Function.comp_def]

theorem ParamsRule.copied (copies : Copies copy) {Kind : Type} {check : Kind → ParamCheck}
    {entries : Entries F} {declared : List (String × Kind)}
    {params : List (String × Checked F)} (rule : ParamsRule v check entries declared params)
    {copied : Entries F}
    (written : ∀ param ∈ params, ∃ value, copied.lookup param.1 = some value ∧
      copy param.2.node value) : ParamsRule v check copied declared params := by
  rw [ParamsRule, List.forall₂_iff_zip] at rule ⊢
  refine ⟨rule.1, fun {entry param} member => ?_⟩
  obtain ⟨_, _, same, numeric⟩ := rule.2 member
  obtain ⟨value, present, valueCopied⟩ := written param (List.of_mem_zip member).2
  exact ⟨value, same ▸ present, same, numeric.copied copies valueCopied⟩

theorem indicatorParams_ok {entries : Entries F} {path : String} {across : Bool}
    {declared : List (String × IndicatorParam)} {params : List (String × Checked F)}
    (rule : ParamsRule v (indicatorCheck v across) entries declared params) :
    collect (v.indicatorParam entries path across) declared = .ok params := by
  refine collect_eq_ok.mpr (rule.imp fun entry param checked => ?_)
  obtain ⟨key, kind⟩ := entry
  obtain ⟨value, found, rfl, numeric⟩ := checked
  cases kind with
  | count minimum =>
      simp only [indicatorParam, bind_eq_ok, item_ok_iff, count_ok_iff]
      exact ⟨value, found, param.2, numeric, rfl⟩
  | amount =>
      simp only [indicatorParam, bind_eq_ok, item_ok_iff, amount_ok_iff]
      exact ⟨value, found, param.2, numeric, rfl⟩

theorem libraryParams_ok {entries : Entries F} {path : String} {across : Bool}
    {declared : List (String × ParamKind)} {params : List (String × Checked F)}
    (rule : ParamsRule v (libraryCheck v across) entries declared params) :
    collect (v.libraryParam entries path across) declared = .ok params := by
  refine collect_eq_ok.mpr (rule.imp fun entry param checked => ?_)
  obtain ⟨key, kind⟩ := entry
  obtain ⟨value, found, rfl, numeric⟩ := checked
  cases kind with
  | count =>
      simp only [libraryParam, bind_eq_ok, item_ok_iff, count_ok_iff]
      exact ⟨value, found, param.2, numeric, rfl⟩
  | number =>
      simp only [libraryParam, bind_eq_ok, item_ok_iff, number_ok_iff]
      exact ⟨value, found, param.2, numeric, rfl⟩

theorem libraryIndicator_declares {vbt : Option (VectorBT F)} {name : String}
    {spec : LibraryIndicator} (declared : libraryIndicator vbt name = some spec) :
    spec.name = name ∧ (spec.params.map Prod.fst).Nodup := by
  simp only [libraryIndicator, Option.bind_eq_bind, Option.bind_eq_some_iff, Option.pure_def,
    Option.some.injEq] at declared
  obtain ⟨_, _, _, _, _, _, cls, _, _, _, _, _, _, _, _, _, rfl⟩ := declared
  refine ⟨rfl, ?_⟩
  have sub : ∀ names : List String, ((names.filterMap fun key =>
      ((cls.paramDefaults.lookup key).bind paramKind).map fun kind => (key, kind)).map
        Prod.fst).Sublist names := by
    intro names
    induction names with
    | nil => simp
    | cons name rest ih =>
        cases kind : (cls.paramDefaults.lookup name).bind paramKind with
        | none =>
            simp only [List.filterMap_cons, kind, Option.map_none]
            exact ih.cons _
        | some found =>
            simp only [List.filterMap_cons, kind, Option.map_some, List.map_cons]
            exact ih.cons_cons _
  exact (sub cls.paramNames).nodup cls.paramNames_nodup

omit [PyFloat F] in
theorem outputChoice_keys {spec : IndicatorSpec} {entries output : Entries F}
    (choice : outputChoice spec.outputs entries output) :
    output.map Prod.fst = outputKeys spec := by
  unfold outputChoice at choice
  unfold outputKeys
  split at choice
  · rename_i none
    rw [if_pos none, choice]
    rfl
  · rename_i some
    rw [if_neg some]
    rcases choice with ⟨text, _, _, rfl⟩ | ⟨_, required, _⟩
    · rfl
    · cases required

omit [PyFloat F] in
theorem lookup_map_self {names : List String} (value : String → PyValue F) {key : String}
    (member : key ∈ names) : (names.map fun name => (name, value name)).lookup key =
      some (value key) := by
  induction names with
  | nil => cases member
  | cons name rest ih =>
      by_cases same : key = name
      · subst same
        simp
      · have other : (key == name) = false := by simpa using same
        simp only [List.map_cons, List.lookup_cons, other]
        exact ih ((List.mem_cons.mp member).resolve_left same)

def SeriesCopied (v : Validator F) (copy : PyValue F → PyValue F → Prop) (checked : Checked F) :
    Prop :=
  ∀ other, copy checked.node other → ∀ depth path, checked.node.depth ≤ depth →
    v.series depth other path = .ok checked

theorem prev_copied (copies : Copies copy) {bars : PyValue F} {operandOk barsOk : Checked F}
    (ih : SeriesCopied v copy operandOk)
    (count : NumericRule v (.count 1 (v.bar.barsPerSession - 1)) bars barsOk) :
    SeriesCopied v copy ⟨.dict [("prev", operandOk.node), ("bars", barsOk.node)],
      operandOk.used ++ barsOk.used⟩ := by
  intro other same depth path within
  obtain ⟨copied, rfl, entriesCopied⟩ := copies.dict same
  have heads : ([("prev", operandOk.node), ("bars", barsOk.node)].map Prod.fst).filter
      (fun head => decide (head ∈ seriesOperators)) = ["prev"] := by
    simp only [List.map_cons, List.map_nil]
    decide
  refine object_copied entriesCopied heads (fun inner depths => ?_) within
  obtain ⟨operand', present, operandCopied⟩ := entriesCopied.values "prev" operandOk.node
    (by simp)
  obtain ⟨bars', barsPresent, barsCopied⟩ := entriesCopied.values "bars" barsOk.node
    (by simp [List.lookup_cons])
  have operandWithin := depths "prev" operandOk.node (by simp)
  rw [operatorNode, if_pos rfl]
  simp only [prevNode, bind_eq_ok, checkObject_ok_iff, item_ok_iff, count_ok_iff]
  exact ⟨copied, ⟨rfl, entriesCopied.hasKeys (hasKeys_of_eq rfl)⟩, _, present, _, barsPresent,
    operandOk, ih _ operandCopied _ _ operandWithin, barsOk, count.copied copies barsCopied, rfl⟩

theorem rolling_copied (copies : Copies copy) {operator : String} {length : PyValue F}
    {across : Bool} {operandOk lengthOk : Checked F} (member : operator ∈ rollingOperators)
    (ih : SeriesCopied v copy operandOk)
    (count : NumericRule v
      (.count (if operator = "std" then 2 else 1) (v.longestWindow across)) length lengthOk) :
    SeriesCopied v copy ⟨.dict [(operator, operandOk.node), ("length", lengthOk.node),
      ("across_sessions", .bool across)], lengthOk.used ++ operandOk.used⟩ := by
  intro other same depth path within
  obtain ⟨copied, rfl, entriesCopied⟩ := copies.dict same
  obtain ⟨isSeries, notLength, notAcross⟩ := rolling_keys member
  have heads : ([(operator, operandOk.node), ("length", lengthOk.node),
      ("across_sessions", .bool across)].map Prod.fst).filter
      (fun head => decide (head ∈ seriesOperators)) = [operator] := by
    have others : ["length", "across_sessions"].filter
        (fun head => decide (head ∈ seriesOperators)) = [] := by decide
    rw [List.map_cons, List.filter_cons_of_pos (by simpa using isSeries)]
    exact congrArg _ others
  refine object_copied entriesCopied heads (fun inner depths => ?_) within
  obtain ⟨operand', present, operandCopied⟩ := entriesCopied.values operator operandOk.node
    (by simp)
  obtain ⟨length', lengthPresent, lengthCopied⟩ := entriesCopied.values "length" lengthOk.node
    (by simp [List.lookup_cons, notLength])
  have acrossFound : [(operator, operandOk.node), ("length", lengthOk.node),
      ("across_sessions", .bool across)].lookup "across_sessions" = some (.bool across) := by
    simp [List.lookup_cons, notAcross]
  have operandWithin := depths operator operandOk.node (by simp)
  rw [operatorNode_rolling member]
  simp only [rollingNode, bind_eq_ok, checkObject_ok_iff, item_ok_iff, flag_ok_iff,
    count_ok_iff]
  exact ⟨copied, ⟨rfl, entriesCopied.hasKeys (hasKeys_of_append rfl)⟩, _, present, across,
    entriesCopied.flag copies (.inl acrossFound), _, lengthPresent, lengthOk,
    count.copied copies lengthCopied, operandOk, ih _ operandCopied _ _ operandWithin, rfl⟩

theorem valueAt_copied (copies : Copies copy) {time : String} {operandOk : Checked F}
    (timeClock : IsClock v.bar.firstBarEndMinutes sessionCloseMinutes v.bar.minutes time)
    (ih : SeriesCopied v copy operandOk) :
    SeriesCopied v copy ⟨.dict [("value_at", operandOk.node), ("time", .str time)],
      operandOk.used⟩ := by
  intro other same depth path within
  obtain ⟨copied, rfl, entriesCopied⟩ := copies.dict same
  have heads : ([("value_at", operandOk.node), ("time", .str time)].map Prod.fst).filter
      (fun head => decide (head ∈ seriesOperators)) = ["value_at"] := by
    simp only [List.map_cons, List.map_nil]
    decide
  refine object_copied entriesCopied heads (fun inner depths => ?_) within
  obtain ⟨operand', present, operandCopied⟩ := entriesCopied.values "value_at" operandOk.node
    (by simp)
  have operandWithin := depths "value_at" operandOk.node (by simp)
  rw [operatorNode, if_neg (by decide), if_neg (by decide), if_pos rfl]
  simp only [valueAtNode, barEnd, clockWithin, bind_eq_ok, checkObject_ok_iff, item_ok_iff,
    clock_ok_iff]
  exact ⟨copied, ⟨rfl, entriesCopied.hasKeys (hasKeys_of_eq rfl)⟩, _, present, _,
    entriesCopied.text copies (by simp [List.lookup_cons]), time, ⟨rfl, timeClock⟩, operandOk,
    ih _ operandCopied _ _ operandWithin, rfl⟩

theorem indicator_copied (copies : Copies copy) {operator : String} {spec : IndicatorSpec}
    {entries output : Entries F} {across : Bool} {operand : PyValue F}
    {operandOk : Checked F} {params : List (String × Checked F)}
    (declared : indicators.lookup operator = some spec)
    (plain : spec.takesSeries = false → operand = .dict [] ∧ operandOk = ⟨.dict [], []⟩)
    (paramRules : ParamsRule v (indicatorCheck v across) entries spec.params params)
    (choice : outputChoice spec.outputs entries output)
    (ih : spec.takesSeries = true → SeriesCopied v copy operandOk) :
    SeriesCopied v copy ⟨.dict ([(operator, operandOk.node)] ++ checkedEntries params ++
      [("across_sessions", .bool across)] ++ output), operandOk.used ++ usedBy params⟩ := by
  intro other same depth path within
  obtain ⟨copied, rfl, entriesCopied⟩ := copies.dict same
  obtain ⟨distinct, heads⟩ := indicatorKeys_distinct declared
  have writtenOutput := outputChoice_keys choice
  have writtenKeys : ([(operator, operandOk.node)] ++ checkedEntries params ++
      [("across_sessions", PyValue.bool across)] ++ output).map Prod.fst =
        indicatorKeys operator spec := by
    simp only [List.map_append, checkedEntries_keys, paramRules.keys, writtenOutput,
      indicatorKeys, List.map_cons, List.map_nil]
  rw [← writtenKeys] at distinct heads
  refine object_copied entriesCopied heads (fun inner depths => ?_) within
  have hasKeys : HasKeys ([(operator, operandOk.node)] ++ checkedEntries params ++
      [("across_sessions", PyValue.bool across)] ++ output)
        ([operator] ++ spec.params.map Prod.fst ++ outputKeys spec) ["across_sessions"] := by
    constructor <;> rw [writtenKeys] <;> intro key member <;>
      simp only [indicatorKeys, List.mem_append] at member ⊢ <;> tauto
  have acrossFound : ([(operator, operandOk.node)] ++ checkedEntries params ++
      [("across_sessions", PyValue.bool across)] ++ output).lookup "across_sessions" =
        some (.bool across) := lookup_of_nodup distinct (by simp)
  obtain ⟨operand', present, operandCopied⟩ := entriesCopied.values operator operandOk.node
    (lookup_of_nodup distinct (by simp))
  have operandWithin := depths operator operandOk.node (by simp)
  have paramsCopied := paramRules.copied copies fun param member =>
    entriesCopied.values param.1 param.2.node (lookup_of_nodup distinct (by
      simp only [List.mem_append]
      exact .inl (.inl (.inr (List.mem_map.mpr ⟨param, member, rfl⟩)))))
  have operandChecked : indicatorOperand (v.series inner) spec.takesSeries operand'
      s!"{path}.{operator}" = .ok operandOk := by
    unfold indicatorOperand
    cases takes : spec.takesSeries with
    | true => exact ih takes _ operandCopied _ _ operandWithin
    | false =>
        obtain ⟨rfl, rfl⟩ := plain takes
        obtain ⟨empty, rfl, emptyCopied⟩ := copies.dict operandCopied
        have isEmpty : empty = [] := by simpa using emptyCopied.keys
        subst isEmpty
        rfl
  have outputCopied : outputChoice spec.outputs copied output := by
    unfold outputChoice at choice ⊢
    split at choice
    · rename_i none
      rw [if_pos none]
      exact choice
    · rename_i some
      rw [if_neg some]
      rcases choice with ⟨text, member, found, rfl⟩ | ⟨_, required, _⟩
      · exact .inl ⟨text, member, entriesCopied.text copies
          (lookup_of_nodup distinct (by simp)), rfl⟩
      · cases required
  rw [operatorNode_indicator declared]
  simp only [indicatorNode, bind_eq_ok, checkObject_ok_iff, item_ok_iff, flag_ok_iff,
    outputEntry_ok_iff]
  exact ⟨copied, ⟨rfl, entriesCopied.hasKeys hasKeys⟩, across,
    entriesCopied.flag copies (.inl acrossFound), _, present, operandOk, operandChecked, params,
    indicatorParams_ok paramsCopied, output, outputCopied, rfl⟩

theorem library_copied (copies : Copies copy) {spec : LibraryIndicator} {name output : String}
    {entries paramEntries inputEntries : Entries F} {across : Bool}
    {params : List (String × Checked F)} {operandOk : String → Checked F}
    (declared : libraryIndicator v.runtime.vbt name = some spec)
    (paramRules : ParamsRule v (libraryCheck v across) paramEntries spec.params params)
    (outputIs : LibraryOutputIs spec entries output)
    (ih : ∀ key ∈ spec.inputs.filter (fun key => (inputEntries.lookup key).isSome),
      SeriesCopied v copy (operandOk key)) :
    SeriesCopied v copy ⟨.dict [("indicator", .str spec.name),
      ("params", .dict (checkedEntries params)),
      ("inputs", .dict (checkedEntries ((spec.inputs.filter fun key =>
        (inputEntries.lookup key).isSome).map fun key => (key, operandOk key)))),
      ("output", .str output), ("across_sessions", .bool across)],
      usedBy params ++ usedBy ((spec.inputs.filter fun key =>
        (inputEntries.lookup key).isSome).map fun key => (key, operandOk key))⟩ := by
  intro other same depth path within
  obtain ⟨copied, rfl, entriesCopied⟩ := copies.dict same
  obtain ⟨rfl, distinct⟩ := libraryIndicator_declares declared
  have heads : ([("indicator", PyValue.str (F := F) spec.name), ("params", .dict []),
      ("inputs", .dict []), ("output", .str output),
      ("across_sessions", .bool across)].map Prod.fst).filter
        (fun head => decide (head ∈ seriesOperators)) = ["indicator"] := by
    simp only [List.map_cons, List.map_nil]
    decide
  refine object_copied entriesCopied heads (fun inner depths => ?_) within
  let names := spec.inputs.filter fun key => (inputEntries.lookup key).isSome
  let inputs := names.map fun key => (key, operandOk key)
  obtain ⟨_, paramsPresent, paramsSame⟩ := entriesCopied.values "params" _
    (by simp [List.lookup_cons]; rfl)
  obtain ⟨params', rfl, paramsCopied⟩ := copies.dict paramsSame
  obtain ⟨_, inputsPresent, inputsSame⟩ := entriesCopied.values "inputs"
    (.dict (checkedEntries inputs)) (by simp [List.lookup_cons, inputs, names])
  obtain ⟨inputs', rfl, inputsCopied⟩ := copies.dict inputsSame
  have paramsWritten : (checkedEntries params).map Prod.fst = spec.params.map Prod.fst := by
    rw [checkedEntries_keys, paramRules.keys]
  have paramsRead := paramRules.copied copies fun param member =>
    paramsCopied.values param.1 param.2.node (lookup_of_nodup (paramsWritten ▸ distinct)
      (List.mem_map.mpr ⟨param, member, rfl⟩))
  have inputWritten : ∀ key ∈ names,
      (checkedEntries inputs).lookup key = some (operandOk key).node := by
    intro key member
    simp only [inputs, checkedEntries, List.map_map]
    exact lookup_map_self (fun key => (operandOk key).node) member
  have inputKeysWritten : (checkedEntries inputs).map Prod.fst = names := by
    simp [inputs, checkedEntries, Function.comp_def]
  have inputsAgain : (spec.inputs.filter fun key => (inputs'.lookup key).isSome) = names := by
    refine List.filter_congr fun key member => ?_
    rw [inputsCopied.isSome, Bool.eq_iff_iff, lookup_isSome_iff, inputKeysWritten]
    simp [names, member]
  have inputsRead : collect (libraryInput (v.series inner) inputs' path) names = .ok inputs := by
    refine collect_eq_ok.mpr ?_
    rw [List.forall₂_map_right_iff, List.forall₂_same]
    intro key member
    obtain ⟨operand', present, operandCopied⟩ := inputsCopied.values key _
      (inputWritten key member)
    have inputsWithin := depths "inputs" (.dict (checkedEntries inputs)) (by simp [inputs, names])
    have operandWithin : (operandOk key).node.depth ≤ inner := by
      have inside := depth_le_of_lookup (inputWritten key member)
      rw [PyValue.depth] at inputsWithin
      omega
    simp only [libraryInput, bind_eq_ok, item_ok_iff]
    exact ⟨operand', present, operandOk key, ih key member _ operandCopied _ _ operandWithin, rfl⟩
  have inputsHaveKeys : HasKeys (checkedEntries inputs) [] spec.inputs := by
    refine ⟨fun key member => ?_, fun _ member => by cases member⟩
    rw [inputKeysWritten] at member
    exact (List.mem_filter.mp member).1
  have acrossFound : FlagIs [("indicator", .str spec.name),
      ("params", .dict (checkedEntries params)), ("inputs", .dict (checkedEntries inputs)),
      ("output", .str output), ("across_sessions", PyValue.bool across)] "across_sessions"
        across := .inl (by simp [List.lookup_cons])
  rw [operatorNode, if_neg (by decide), if_neg (by decide), if_neg (by decide)]
  simp only [show indicators.lookup "indicator" = none from by decide +kernel, if_true,
    libraryNode, bind_eq_ok, checkObject_ok_iff, item_ok_iff, flag_ok_iff, orRaise_eq_ok,
    libraryOutput_ok_iff]
  refine ⟨copied, ⟨rfl, entriesCopied.hasKeys ?_⟩, _,
    entriesCopied.text copies (by simp), spec, declared, across,
    entriesCopied.flag copies acrossFound, _, paramsPresent, params',
    ⟨rfl, paramsCopied.hasKeys (hasKeys_of_eq paramsWritten)⟩, params,
    libraryParams_ok paramsRead, inputs', ⟨?_, inputsCopied.hasKeys inputsHaveKeys⟩, inputs,
    ?_, output, ⟨outputIs.1, .inl (entriesCopied.text copies (by simp [List.lookup_cons]))⟩,
    rfl⟩
  · constructor <;> simp
  · rw [inputsPresent]
    rfl
  · rw [inputsAgain]
    exact inputsRead

theorem series_copied (copies : Copies copy) {node : PyValue F} {checked : Checked F}
    (rule : SeriesRule v node checked) : SeriesCopied v copy checked := by
  induction rule with
  | int finite =>
      intro other same depth path within
      rw [copies.scalar same rfl]
      obtain ⟨inner, rfl⟩ := Nat.exists_eq_add_of_le' ((depth_pos _).trans within)
      simp [series, floatOfInt, orRaise, finite, Except.map]
  | float finite =>
      intro other same depth path within
      rw [copies.scalar same rfl]
      obtain ⟨inner, rfl⟩ := Nat.exists_eq_add_of_le' ((depth_pos _).trans within)
      simp [series, finite]
  | field member =>
      intro other same depth path within
      rw [copies.scalar same rfl]
      obtain ⟨inner, rfl⟩ := Nat.exists_eq_add_of_le' ((depth_pos _).trans within)
      simp [series, member]
  | @param entries name keys found declared =>
      intro other same depth path within
      obtain ⟨copied, rfl, entriesCopied⟩ := copies.dict same
      refine plain_copied (by decide) entriesCopied (fun inner _ => ?_) within
      simp only [plainNode, bind_eq_ok, checkObject_ok_iff, item_ok_iff, if_true, param_ok_iff]
      exact ⟨copied, ⟨rfl, entriesCopied.hasKeys (hasKeys_of_eq rfl)⟩, .str name,
        entriesCopied.text copies List.lookup_cons_self, name, ⟨rfl, declared⟩, rfl⟩
  | @binary operator entries left right leftOk rightOk member keys found leftRule rightRule leftIh
      rightIh =>
      intro other same depth path within
      obtain ⟨copied, rfl, entriesCopied⟩ := copies.dict same
      obtain ⟨plain, notParam⟩ := plain_of_binary member
      refine plain_copied plain entriesCopied (fun inner depths => ?_) within
      obtain ⟨operands, present, operandsCopied⟩ := entriesCopied.values operator _ List.lookup_cons_self
      obtain ⟨_, rfl, pairCopied⟩ := copies.list operandsCopied
      obtain ⟨left', _, leftCopied, rest, rfl⟩ := List.forall₂_cons_left_iff.mp pairCopied
      obtain ⟨right', _, rightCopied, none, rfl⟩ := List.forall₂_cons_left_iff.mp rest
      obtain rfl := List.forall₂_nil_left_iff.mp none
      have leftWithin := (depth_item_le (List.mem_cons_self)).trans depths
      have rightWithin := (depth_item_le (List.mem_cons_of_mem _ List.mem_cons_self)).trans depths
      simp only [plainNode, bind_eq_ok, checkObject_ok_iff, item_ok_iff, if_neg notParam,
        if_pos member, pair_ok_iff]
      exact ⟨copied, ⟨rfl, entriesCopied.hasKeys (hasKeys_of_eq rfl)⟩, _, present, (left', right'),
        rfl, leftOk, leftIh _ leftCopied _ _ leftWithin, rightOk,
        rightIh _ rightCopied _ _ rightWithin, rfl⟩
  | @unary operator entries operand operandOk member keys found rule ih =>
      intro other same depth path within
      obtain ⟨copied, rfl, entriesCopied⟩ := copies.dict same
      obtain ⟨plain, notParam, notBinary⟩ := plain_of_unary member
      refine plain_copied plain entriesCopied (fun inner depths => ?_) within
      obtain ⟨operand', present, operandCopied⟩ := entriesCopied.values operator _ List.lookup_cons_self
      simp only [plainNode, bind_eq_ok, checkObject_ok_iff, item_ok_iff, if_neg notParam,
        if_neg notBinary, if_pos member]
      exact ⟨copied, ⟨rfl, entriesCopied.hasKeys (hasKeys_of_eq rfl)⟩, _, present, operandOk,
        ih _ operandCopied _ _ depths, rfl⟩
  | @atr entries value atrOk keys found rule =>
      intro other same depth path within
      obtain ⟨copied, rfl, entriesCopied⟩ := copies.dict same
      refine plain_copied (by decide) entriesCopied (fun inner _ => ?_) within
      obtain ⟨value', present, valueCopied⟩ := entriesCopied.values "atr" _ List.lookup_cons_self
      have notParam : ("atr" : String) ≠ "param" := by decide
      have notBinary : "atr" ∉ binaryOperators := by decide
      have notUnary : "atr" ∉ unaryOperators := by decide
      simp only [plainNode, bind_eq_ok, checkObject_ok_iff, item_ok_iff, if_neg notParam,
        if_neg notBinary, if_neg notUnary, if_true, atrNode_ok_iff]
      exact ⟨copied, ⟨rfl, entriesCopied.hasKeys (hasKeys_of_eq rfl)⟩, _, present, atrOk,
        rule.copied copies valueCopied, rfl⟩
  | @session operator entries member keys found =>
      intro other same depth path within
      obtain ⟨copied, rfl, entriesCopied⟩ := copies.dict same
      obtain ⟨plain, notParam, notBinary, notUnary, notAtr⟩ := plain_of_session member
      refine plain_copied plain entriesCopied (fun inner _ => ?_) within
      obtain ⟨value', present, valueCopied⟩ := entriesCopied.values operator _ List.lookup_cons_self
      obtain ⟨empty, rfl, emptyCopied⟩ := copies.dict valueCopied
      have isEmpty : empty = [] := by simpa using emptyCopied.keys
      subst isEmpty
      simp only [plainNode, bind_eq_ok, checkObject_ok_iff, item_ok_iff, if_neg notParam,
        if_neg notBinary, if_neg notUnary, if_neg notAtr, if_pos member]
      exact ⟨copied, ⟨rfl, entriesCopied.hasKeys (hasKeys_of_eq rfl)⟩, _, present, rfl⟩
  | @range operator start stop entries window member keys found windowKeys startFound stopFound
      startClock stopClock ordered =>
      intro other same depth path within
      obtain ⟨copied, rfl, entriesCopied⟩ := copies.dict same
      obtain ⟨plain, notParam, notBinary, notUnary, notAtr, notSession⟩ := plain_of_range member
      refine plain_copied plain entriesCopied (fun inner _ => ?_) within
      obtain ⟨value', present, valueCopied⟩ := entriesCopied.values operator _ List.lookup_cons_self
      obtain ⟨window', rfl, windowCopied⟩ := copies.dict valueCopied
      simp only [plainNode, rangeNode, barEnd, clockWithin, bind_eq_ok, checkObject_ok_iff,
        item_ok_iff, clock_ok_iff, raiseIf_eq_ok, if_neg notParam,
        if_neg notBinary, if_neg notUnary, if_neg notAtr, if_neg notSession]
      exact ⟨copied, ⟨rfl, entriesCopied.hasKeys (hasKeys_of_eq rfl)⟩, _, present, window',
        ⟨rfl, windowCopied.hasKeys (hasKeys_of_eq rfl)⟩, _, windowCopied.text copies (by simp),
        start, ⟨rfl, startClock⟩, _, windowCopied.text copies (by simp [List.lookup_cons]), stop,
        ⟨rfl, stopClock⟩, (),
        by simpa using ordered, rfl⟩
  | prev keys found barsFound rule count ih => exact prev_copied copies ih count
  | rolling member keys found flag lengthFound count rule ih =>
      exact rolling_copied copies member ih count
  | valueAt keys found timeFound timeClock rule ih => exact valueAt_copied copies timeClock ih
  | indicator declared keys flag found rule plain paramRules choice ih =>
      exact indicator_copied copies declared plain paramRules choice ih
  | library keys named declared flag paramsFound paramKeys paramRules inputsFound inputKeys operands
      rules outputIs ih => exact library_copied copies declared paramRules outputIs ih

end Series

end QuantFactory.RuleLanguage
