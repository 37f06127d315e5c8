import Mathlib
import QuantFactory.RuleStrategy.CausalSeries

/-!
# Accepted rules on two histories

Every accepted series, condition, side and list of signals returns on both histories
and agrees on the known bars.
-/

set_option autoImplicit false

namespace QuantFactory.RuleStrategy

open QuantFactory.Library QuantFactory.Python QuantFactory.RuleLanguage

variable {F : Type} [PyFloat F]

/-! ## Series -/

section Series
variable {lib : Libraries F} {interpreter : Interpreter F} {moment : Moment}
  {bars others : SessionBars (NdArray F) F} {v : Validator F}
  (runs : TwoRuns lib.numerics interpreter v moment bars others)
include runs

theorem number_alike {node : PyValue F} (number : IsNumber node) :
    SeriesAlike lib interpreter moment bars others node := by
  obtain ⟨x, read⟩ := float_of_isNumber interpreter number
  intro depth other within within'
  have one := depth_pos node
  obtain ⟨depth, rfl⟩ : ∃ n, depth = n + 1 := ⟨depth - 1, by omega⟩
  obtain ⟨other, rfl⟩ : ∃ n, other = n + 1 := ⟨other - 1, by omega⟩
  have isFilled : ∀ {library : ArrayLibrary F (NdArray F)} {b : SessionBars (NdArray F) F}
      {depth : Nat}, series (valueMachine library) interpreter b (depth + 1) node =
        filled (valueMachine library) b.shape x := by
    intro library b depth
    cases number <;> simp only [series, valueMachine, read, bind_ok]
  rw [isFilled, isFilled]
  exact filled_alike runs x

theorem param_alike {name : String} (declared : Declared v .number name) :
    SeriesAlike lib interpreter moment bars others (.dict [("param", .str name)]) := by
  obtain ⟨value, assigned, number⟩ := runs.assigns.number declared
  obtain ⟨x, read⟩ := float_of_isNumber interpreter number
  have isAmount : bars.amount interpreter (.dict [("param", .str name)]) = .ok x := by
    rw [SessionBars.amount, parameter_ok assigned]
    exact read
  have isAmount' : others.amount interpreter (.dict [("param", .str name)]) = .ok x := by
    rw [← isAmount]
    exact (amount_congr runs.alike.parameters _).symm
  refine object_alike runs (by decide) (.param declared) fun depth other _ _ => ?_
  simp only [operatorSeries, if_true, valueMachine, isAmount, isAmount', bind_ok]
  exact filled_alike runs x

theorem binary_alike {operator : String} {left right : Checked F} {original : PyValue F}
    {used : List String} (member : operator ∈ binaryOperators)
    (rule : SeriesRule v original ⟨.dict [(operator, .list [left.node, right.node])], used⟩)
    (leftAlike : SeriesAlike lib interpreter moment bars others left.node)
    (rightAlike : SeriesAlike lib interpreter moment bars others right.node) :
    SeriesAlike lib interpreter moment bars others
      (.dict [(operator, .list [left.node, right.node])]) := by
  have known : ∀ operator ∈ binaryOperators, operator ∉ modifiers := by decide
  refine object_alike runs (known operator member) (series_closed rule)
    fun depth other within within' => ?_
  rw [operatorSeries_binary _ _ _ _ _ _ member, operatorSeries_binary _ _ _ _ _ _ member]
  have inside := depth_entry within List.mem_cons_self
  have inside' := depth_entry within' List.mem_cons_self
  have inList : right.node ∈ [left.node, right.node] := List.mem_cons_of_mem _ List.mem_cons_self
  simp only [operandPair, valueMachine, bind_ok]
  refine (leftAlike depth other ((depth_item_le List.mem_cons_self).trans inside)
    ((depth_item_le List.mem_cons_self).trans inside')).andThen fun first first' isFirst => ?_
  refine (rightAlike depth other ((depth_item_le inList).trans inside)
    ((depth_item_le inList).trans inside')).andThen fun second second' isSecond => ?_
  exact arithmetic_alike operator isFirst isSecond

theorem unary_alike {operator : String} {operand : Checked F} {original : PyValue F}
    {used : List String} (member : operator ∈ unaryOperators)
    (rule : SeriesRule v original ⟨.dict [(operator, operand.node)], used⟩)
    (alike : SeriesAlike lib interpreter moment bars others operand.node) :
    SeriesAlike lib interpreter moment bars others (.dict [(operator, operand.node)]) := by
  have known : ∀ operator ∈ unaryOperators, operator ∉ modifiers := by decide
  refine object_alike runs (known operator member) (series_closed rule)
    fun depth other within within' => ?_
  rw [operatorSeries_unary _ _ _ _ _ _ member, operatorSeries_unary _ _ _ _ _ _ member]
  refine (alike depth other (depth_entry within List.mem_cons_self)
    (depth_entry within' List.mem_cons_self)).andThen fun value value' isValue => ?_
  exact unarySeries_alike runs operator isValue

theorem count_read (entries : Entries F) (key : String) {minimum maximum : Nat}
    {node : PyValue F} {checked : Checked F} (found : entries.lookup key = some checked.node)
    (rule : NumericRule v (.count minimum maximum) node checked) :
    ∃ n : Int, (do bars.count interpreter (← nodeUnder key entries)) = .ok n ∧
      (do others.count interpreter (← nodeUnder key entries)) = .ok n ∧ minimum ≤ n := by
  obtain ⟨n, isCount, lower, _⟩ := count_ok interpreter runs.assigns rule
  have isNode : nodeUnder key entries = .ok checked.node := by rw [nodeUnder, found]; rfl
  refine ⟨n, by rw [isNode, bind_ok, isCount], ?_, lower⟩
  rw [isNode, bind_ok, ← isCount]
  exact (count_congr runs.alike.parameters _).symm

theorem prev_alike {operand lag : Checked F} {original bars' : PyValue F} {used : List String}
    (rule : SeriesRule v original ⟨.dict [("prev", operand.node), ("bars", lag.node)], used⟩)
    (count : NumericRule v (.count 1 (v.bar.barsPerSession - 1)) bars' lag)
    (alike : SeriesAlike lib interpreter moment bars others operand.node) :
    SeriesAlike lib interpreter moment bars others
      (.dict [("prev", operand.node), ("bars", lag.node)]) := by
  refine object_alike runs (by decide) (series_closed rule) fun depth other within within' => ?_
  obtain ⟨n, isCount, isCount', lower⟩ := count_read runs
    [("prev", operand.node), ("bars", lag.node)] "bars" (by simp [List.lookup_cons]) count
  rw [operatorSeries_prev, operatorSeries_prev]
  refine (alike depth other (depth_entry within List.mem_cons_self)
    (depth_entry within' List.mem_cons_self)).andThen fun value value' isValue => ?_
  simp only [valueMachine, isCount, isCount', bind_ok]
  exact shift_call lib (by omega) isValue

theorem rolling_alike {operator : String} {operand length : Checked F} {across : Bool}
    {original length' : PyValue F} {used : List String} (member : operator ∈ rollingOperators)
    (rule : SeriesRule v original ⟨.dict [(operator, operand.node), ("length", length.node),
      ("across_sessions", .bool across)], used⟩)
    (count : NumericRule v
      (.count (if operator = "std" then 2 else 1) (v.longestWindow across)) length' length)
    (alike : SeriesAlike lib interpreter moment bars others operand.node) :
    SeriesAlike lib interpreter moment bars others (.dict [(operator, operand.node),
      ("length", length.node), ("across_sessions", .bool across)]) := by
  have known : ∀ operator ∈ rollingOperators, operator ∉ modifiers ∧ operator ≠ "length" ∧
      operator ≠ "across_sessions" := by decide
  obtain ⟨plain, notLength, notFlag⟩ := known operator member
  refine object_alike runs plain (series_closed rule) fun depth other within within' => ?_
  have differs : ("length" == operator) = false := by simpa using notLength.symm
  have differs' : ("across_sessions" == operator) = false := by simpa using notFlag.symm
  obtain ⟨n, isCount, isCount', lower⟩ := count_read runs
    [(operator, operand.node), ("length", length.node), ("across_sessions", .bool across)] "length"
    (by simp [List.lookup_cons, differs]) count
  have flag : acrossSessions [(operator, operand.node), ("length", length.node),
      ("across_sessions", .bool across)] = .ok across := by
    simp [acrossSessions, List.lookup_cons, differs']
  have least : (if operator = "std" then 2 else 1) ≤ n := by split_ifs at lower ⊢ <;> omega
  obtain ⟨f, isWindow, causal⟩ := runs.reliable.window operator member n least
  rw [operatorSeries_rolling _ _ _ _ _ _ member, operatorSeries_rolling _ _ _ _ _ _ member]
  simp only [valueMachine, isCount, isCount', flag, bind_ok]
  refine (alike depth other (depth_entry within List.mem_cons_self)
    (depth_entry within' List.mem_cons_self)).andThen fun value value' isValue => ?_
  exact rolling_call lib isWindow causal across isValue

theorem valueAt_alike {operand : Checked F} {time : String} {original : PyValue F}
    {used : List String}
    (rule : SeriesRule v original ⟨.dict [("value_at", operand.node), ("time", .str time)], used⟩)
    (timeClock : IsClock v.bar.firstBarEndMinutes sessionCloseMinutes v.bar.minutes time)
    (alike : SeriesAlike lib interpreter moment bars others operand.node) :
    SeriesAlike lib interpreter moment bars others
      (.dict [("value_at", operand.node), ("time", .str time)]) := by
  refine object_alike runs (by decide) (series_closed rule) fun depth other within within' => ?_
  obtain ⟨lower, upper⟩ := row_inside timeClock
  rw [← runs.rows] at upper
  have isBar' : others.bar = v.bar := runs.alike.bar ▸ runs.bar
  rw [operatorSeries_valueAt, operatorSeries_valueAt]
  refine (alike depth other (depth_entry within List.mem_cons_self)
    (depth_entry within' List.mem_cons_self)).andThen fun value value' isValue => ?_
  have isRow := barPosition_ok (F := F) timeClock
  simp only [valueMachine, nodeUnder, List.lookup_cons, String.reduceBEq, beq_self_eq_true, orRaise,
    bind_ok, runs.bar, isBar', isRow, runs.alike.shape, runs.alike.otherShape]
  refine (row_call lib lower upper isValue).andThen fun values values' isValues => ?_
  exact fromRow_alike lower upper.le isValues

theorem indicator_series_alike {operator : String} {spec : IndicatorSpec}
    {original output : Entries F} {node : PyValue F} {across : Bool}
    {operand : Checked F} {params : List (String × Checked F)} {used : List String}
    (declared : indicators.lookup operator = some spec)
    (rule : SeriesRule v node ⟨.dict ([(operator, operand.node)] ++ Validator.checkedEntries params ++
      [("across_sessions", .bool across)] ++ output), used⟩)
    (paramRules : ParamsRule v (indicatorCheck v across) original spec.params params)
    (choice : outputChoice spec.outputs original output)
    (alike : spec.takesSeries = true →
      SeriesAlike lib interpreter moment bars others operand.node) :
    SeriesAlike lib interpreter moment bars others
      (.dict ([(operator, operand.node)] ++ Validator.checkedEntries params ++
        [("across_sessions", .bool across)] ++ output)) := by
  have known : ∀ operator ∈ indicatorOperators, operator ∉ modifiers := by decide
  have named : operator ∈ indicatorOperators := lookup_isSome_iff.mp (by rw [declared]; rfl)
  obtain ⟨distinct, _⟩ := indicatorKeys_distinct declared
  have keys : ([(operator, operand.node)] ++ Validator.checkedEntries params ++
      [("across_sessions", PyValue.bool across)] ++ output).map Prod.fst = indicatorKeys operator spec := by
    simp only [List.map_append, checkedEntries_keys, paramRules.keys,
      outputChoice_keys choice, indicatorKeys, List.map_cons, List.map_nil]
  rw [← keys] at distinct
  refine object_alike runs (known operator named) (series_closed rule)
    fun depth other within within' => ?_
  rw [operatorSeries_indicator _ _ _ _ _ _ declared, operatorSeries_indicator _ _ _ _ _ _ declared]
  refine indicatorSeries_alike runs.reliable runs.alike runs.assigns declared paramRules
    (fun param member => lookup_of_nodup distinct ?_) (lookup_of_nodup distinct ?_) choice
    (fun entry member => lookup_of_nodup distinct ?_) fun takesSeries =>
      alike takesSeries depth other (depth_entry within List.mem_cons_self)
        (depth_entry within' List.mem_cons_self)
  · exact List.mem_append_left _ (List.mem_append_left _ (List.mem_append_right _
      (List.mem_map.mpr ⟨param, member, rfl⟩)))
  · exact List.mem_append_left _ (List.mem_append_right _ List.mem_cons_self)
  · exact List.mem_append_right _ member

theorem library_series_alike {spec : LibraryIndicator} {name output : String} {across : Bool}
    {original : Entries F} {node : PyValue F} {params inputs : List (String × Checked F)}
    {used : List String} (declared : libraryIndicator v.runtime.vbt name = some spec)
    (rule : SeriesRule v node ⟨.dict [("indicator", .str spec.name),
      ("params", .dict (Validator.checkedEntries params)),
      ("inputs", .dict (Validator.checkedEntries inputs)), ("output", .str output),
      ("across_sessions", .bool across)], used⟩)
    (paramRules : ParamsRule v (libraryCheck v across) original spec.params params)
    (alike : ∀ input ∈ inputs, SeriesAlike lib interpreter moment bars others input.2.node) :
    SeriesAlike lib interpreter moment bars others (.dict [("indicator", .str spec.name),
      ("params", .dict (Validator.checkedEntries params)),
      ("inputs", .dict (Validator.checkedEntries inputs)), ("output", .str output),
      ("across_sessions", .bool across)]) := by
  refine object_alike runs (by decide) (series_closed rule) fun depth other within within' => ?_
  rw [operatorSeries_library, operatorSeries_library]
  have isSpec : libraryIndicator interpreter.vbt spec.name = some spec := by
    rw [runs.vbt, (libraryIndicator_declares declared).1]
    exact declared
  refine librarySeries_alike runs.reliable runs.alike runs.assigns isSpec paramRules
    fun input member => ?_
  obtain ⟨checked, inInputs, rfl⟩ := List.mem_map.mp member
  have inNode : ("inputs", PyValue.dict (Validator.checkedEntries inputs)) ∈
      [("indicator", .str spec.name), ("params", .dict (Validator.checkedEntries params)),
        ("inputs", .dict (Validator.checkedEntries inputs)), ("output", .str output),
        ("across_sessions", .bool across)] := by simp
  have inside : ∀ {depth}, (PyValue.dict (Validator.checkedEntries inputs)).depth ≤ depth →
      checked.2.node.depth ≤ depth := by
    intro depth within
    have entry := depth_le_entries member
    rw [PyValue.depth] at within
    omega
  exact alike checked inInputs depth other (inside (depth_entry within inNode))
    (inside (depth_entry within' inNode))

theorem series_alike {node : PyValue F} {checked : Checked F} (rule : SeriesRule v node checked) :
    SeriesAlike lib interpreter moment bars others checked.node := by
  have accepted := rule
  induction rule with
  | int finite => exact number_alike runs (.int finite)
  | float finite => exact number_alike runs (.float finite)
  | field member => exact field_alike runs member
  | param keys found declared => exact param_alike runs declared
  | binary member keys found leftRule rightRule leftIh rightIh =>
      exact binary_alike runs member accepted (leftIh leftRule) (rightIh rightRule)
  | unary member keys found rule ih => exact unary_alike runs member accepted (ih rule)
  | atr keys found rule =>
      refine object_alike runs (by decide) (series_closed accepted) fun depth other _ _ => ?_
      rw [operatorSeries_atr, operatorSeries_atr]
      exact atrSeries_alike runs.reliable runs.alike runs.assigns rule
  | @session operator entries member keys found =>
      have known : ∀ operator ∈ sessionOperators, operator ∉ modifiers := by decide
      refine object_alike runs (known operator member) (series_closed accepted)
        fun depth other _ _ => ?_
      rw [operatorSeries_session _ _ _ _ _ _ member, operatorSeries_session _ _ _ _ _ _ member]
      exact sessionSeries_alike runs operator
  | @range operator start stop entries window member keys found windowKeys startFound stopFound
      startClock stopClock ordered =>
      have known : ∀ operator ∈ rangeOperators, operator ∉ modifiers := by decide
      refine object_alike runs (known operator member) (series_closed accepted)
        fun depth other _ _ => ?_
      rw [operatorSeries_range _ _ _ _ _ _ member, operatorSeries_range _ _ _ _ _ _ member]
      exact rangeSeries_alike runs operator startClock stopClock ordered
  | prev keys found barsFound rule count ih => exact prev_alike runs accepted count (ih rule)
  | rolling member keys found flag lengthFound count rule ih =>
      exact rolling_alike runs member accepted count (ih rule)
  | valueAt keys found timeFound timeClock rule ih =>
      exact valueAt_alike runs accepted timeClock (ih rule)
  | indicator declared keys flag found rule plain paramRules choice ih =>
      exact indicator_series_alike runs declared accepted paramRules choice fun takesSeries =>
        ih takesSeries (rule takesSeries)
  | library keys named declared flag paramsFound paramKeys paramRules inputsFound inputKeys operands
      rules outputIs ih =>
      refine library_series_alike runs declared accepted paramRules fun input member => ?_
      obtain ⟨key, inInputs, rfl⟩ := List.mem_map.mp member
      exact ih key inInputs (rules key inInputs)

end Series

/-! ## Conditions -/

section Conditions
variable {lib : Libraries F} {interpreter : Interpreter F} {moment : Moment}
  {bars others : SessionBars (NdArray F) F} {v : Validator F}

theorem crossing_alike {before now : NumpyFunction} (isBefore : before ∈ comparisons)
    (isNow : now ∈ comparisons) {a b a' b' : NdArray F} (left : moment.grid.Floats a b)
    (right : moment.grid.Floats a' b') :
    Alike (LibraryError lib.numerics interpreter) moment.grid.Bools
      (crossing (valueMachine lib.one) before now a a')
      (crossing (valueMachine lib.other) before now b b') := by
  refine (shift_call lib le_rfl left).andThen fun earlier earlier' isEarlier => ?_
  refine (shift_call lib le_rfl right).andThen fun other other' isOther => ?_
  refine (comparison_call lib before isBefore isEarlier isOther).andThen
    fun was was' isWas => ?_
  refine (comparison_call lib now isNow left right).andThen fun is is' isIs => ?_
  exact logical_call lib .logicalAnd (by decide) (.refl _) isWas isIs

def ConditionAlike (lib : Libraries F) (interpreter : Interpreter F) (moment : Moment)
    (bars others : SessionBars (NdArray F) F) (node : PyValue F) : Prop :=
  ∀ depth other, node.depth ≤ depth → node.depth ≤ other →
    Alike (LibraryError lib.numerics interpreter) moment.grid.Bools
      (condition (valueMachine lib.one) interpreter bars depth node)
      (condition (valueMachine lib.other) interpreter others other node)

variable (runs : TwoRuns lib.numerics interpreter v moment bars others)
include runs

theorem comparison_alike (operator : String) {a b a' b' : NdArray F} (left : moment.grid.Floats a b)
    (right : moment.grid.Floats a' b') :
    Alike (LibraryError lib.numerics interpreter) moment.grid.Bools
      (comparison (valueMachine lib.one) bars operator a a')
      (comparison (valueMachine lib.other) others operator b b') := by
  have compares : comparisonFunction operator ∈ comparisons := by
    unfold comparisonFunction
    split_ifs <;> decide
  unfold comparison
  rw [runs.alike.shape, runs.alike.otherShape]
  split_ifs
  · exact crossing_alike (by decide) (by decide) left right
  · exact crossing_alike (by decide) (by decide) left right
  · refine (comparison_call lib _ compares left right).andThen
      fun compared compared' isCompared => ?_
    exact broadcast_mask_call lib isCompared

theorem operator_alike {operator : String} {value : PyValue F}
    (closed : Closed v (.dict [(operator, value)]))
    (alike : ∀ depth other, value.depth ≤ depth → value.depth ≤ other →
      Alike (LibraryError lib.numerics interpreter) moment.grid.Bools
        (operatorCondition (valueMachine lib.one) interpreter bars
          (condition (valueMachine lib.one) interpreter bars depth) depth operator value)
        (operatorCondition (valueMachine lib.other) interpreter others
          (condition (valueMachine lib.other) interpreter others other) other operator
          value)) :
    ConditionAlike lib interpreter moment bars others (.dict [(operator, value)]) := by
  intro depth other within within'
  have one := depth_pos (PyValue.dict [(operator, value)])
  obtain ⟨depth, rfl⟩ : ∃ n, depth = n + 1 := ⟨depth - 1, by omega⟩
  obtain ⟨other, rfl⟩ : ∃ n, other = n + 1 := ⟨other - 1, by omega⟩
  rw [condition, condition]
  refine cached_alike runs closed ?_
  simp only [firstEntry, valueMachine, bind_ok]
  exact alike depth other (depth_entry within List.mem_cons_self)
    (depth_entry within' List.mem_cons_self)

theorem comparisonNode_alike {operator : String} {left right : Checked F} {leftNode rightNode : PyValue F}
    (member : operator ∈ comparisonOperators ++ crossOperators)
    (leftRule : SeriesRule v leftNode left) (rightRule : SeriesRule v rightNode right) :
    ConditionAlike lib interpreter moment bars others
      (.dict [(operator, .list [left.node, right.node])]) := by
  have known : ∀ operator ∈ comparisonOperators ++ crossOperators, operator ≠ "param" := by decide
  refine operator_alike runs (.operands (known operator member) (series_closed leftRule)
    (series_closed rightRule)) fun depth other within within' => ?_
  have inList : right.node ∈ [left.node, right.node] := List.mem_cons_of_mem _ List.mem_cons_self
  rw [operatorCondition, operatorCondition, if_pos member, if_pos member]
  simp only [operandPair, valueMachine, bind_ok]
  refine (series_alike runs leftRule depth other ((depth_item_le List.mem_cons_self).trans within)
    ((depth_item_le List.mem_cons_self).trans within')).andThen fun first first' isFirst => ?_
  refine (series_alike runs rightRule depth other ((depth_item_le inList).trans within)
    ((depth_item_le inList).trans within')).andThen fun second second' isSecond => ?_
  exact comparison_alike runs operator isFirst isSecond

theorem conditionsNode_alike {operator : String} {items : List (PyValue F)}
    (member : operator ∈ ["all", "any"]) (nonempty : items ≠ [])
    (closed : Closed v (.dict [(operator, .list items)]))
    (alike : ∀ item ∈ items, ConditionAlike lib interpreter moment bars others item) :
    ConditionAlike lib interpreter moment bars others (.dict [(operator, .list items)]) := by
  refine operator_alike runs closed fun depth other within within' => ?_
  have masks : Alike (LibraryError lib.numerics interpreter) (List.Forall₂ moment.grid.Bools)
      (each (condition (valueMachine lib.one) interpreter bars depth) items)
      (each (condition (valueMachine lib.other) interpreter others other) items) := by
    refine each_alike (List.forall₂_same.mpr fun item inItems => ?_)
    exact alike item inItems depth other ((depth_item_le inItems).trans within)
      ((depth_item_le inItems).trans within')
  have some_masks : Alike (LibraryError lib.numerics interpreter)
      (fun masks masks' => List.Forall₂ moment.grid.Bools masks masks' ∧ masks ≠ [])
      (each (condition (valueMachine lib.one) interpreter bars depth) items)
      (each (condition (valueMachine lib.other) interpreter others other) items) := by
    refine masks.with_left fun masks isMasks none => nonempty ?_
    subst none
    cases items with
    | nil => rfl
    | cons item rest =>
        obtain ⟨head, _, done⟩ := bind_eq_ok.mp isMasks
        obtain ⟨tail, _, done⟩ := bind_eq_ok.mp done
        cases done
  have isConditions : conditionItems (.list items) = .ok items := rfl
  have notComparison : operator ∉ comparisonOperators ++ crossOperators := by
    have known : ∀ operator ∈ ["all", "any"], operator ∉ comparisonOperators ++ crossOperators := by
      decide
    exact known operator member
  rw [operatorCondition, operatorCondition, if_neg notComparison, if_neg notComparison]
  simp only [isConditions, valueMachine, bind_ok]
  by_cases isAll : operator = "all"
  · rw [if_pos isAll, if_pos isAll]
    refine some_masks.andThen fun masks masks' both => ?_
    obtain ⟨isMasks, some⟩ := both
    cases isMasks with
    | nil => exact absurd rfl some
    | cons first rest => exact reduceBools_alike _ rest first
  · have isAny : operator = "any" := by simpa [isAll] using member
    rw [if_neg isAll, if_neg isAll, if_pos isAny, if_pos isAny]
    refine some_masks.andThen fun masks masks' both => ?_
    obtain ⟨isMasks, some⟩ := both
    cases isMasks with
    | nil => exact absurd rfl some
    | cons first rest => exact reduceBools_alike _ rest first

theorem clockNode_alike {operator : String} {value : PyValue F}
    (member : operator ∉ comparisonOperators ++ crossOperators ++ ["all", "any", "not"])
    (closed : Closed v (.dict [(operator, value)]))
    (alike : Alike (LibraryError lib.numerics interpreter) moment.grid.Bools
      (clockCondition (valueMachine lib.one) bars operator value)
      (clockCondition (valueMachine lib.other) others operator value)) :
    ConditionAlike lib interpreter moment bars others (.dict [(operator, value)]) := by
  refine operator_alike runs closed fun depth other _ _ => ?_
  simp only [List.mem_append, not_or, List.mem_cons, List.not_mem_nil, or_false] at member
  obtain ⟨⟨plain, crosses⟩, notAll, notAny, notNot⟩ := member
  have notComparison : operator ∉ comparisonOperators ++ crossOperators := by
    simpa [List.mem_append, not_or] using ⟨plain, crosses⟩
  rw [operatorCondition, operatorCondition, if_neg notComparison, if_neg notComparison,
    if_neg notAll, if_neg notAll, if_neg notAny, if_neg notAny, if_neg notNot, if_neg notNot]
  exact alike

theorem everyMinutes_alike {minutes : Int} (positive : 0 < minutes) :
    Alike (LibraryError lib.numerics interpreter) moment.grid.Bools
      (clockCondition (valueMachine lib.one) bars "every_minutes" (.int minutes))
      (clockCondition (valueMachine lib.other) others "every_minutes" (.int minutes)) := by
  have isMinutes : minuteCount (.int (F := F) minutes) = .ok minutes := rfl
  unfold clockCondition
  rw [runs.alike.shape, runs.alike.otherShape, runs.alike.bar]
  refine (full_bools_call lib false).andThen fun mask mask' isMask => ?_
  simp only [if_true, isMinutes, valueMachine, bind_ok]
  refine (minuteGrid_call lib positive others.bar).andThen fun grid grid' isGrid => ?_
  exact fillWhere_clock_call lib true isMask isGrid

theorem timeIs_alike {time : String} (timeClock : IsBarEnd v time) :
    Alike (LibraryError lib.numerics interpreter) moment.grid.Bools
      (clockCondition (valueMachine lib.one) bars "time_is" (.str time))
      (clockCondition (valueMachine lib.other) others "time_is" (.str time)) := by
  obtain ⟨lower, upper⟩ := row_inside timeClock
  rw [← runs.rows] at upper
  have isRow := barPosition_ok (F := F) timeClock
  have isBar' : others.bar = v.bar := runs.alike.bar ▸ runs.bar
  unfold clockCondition
  rw [runs.alike.shape, runs.alike.otherShape, runs.bar, isBar']
  refine (full_bools_call lib false).andThen fun mask mask' isMask => ?_
  have other : ¬ ("time_is" = "every_minutes") := by decide
  simp only [if_neg other, if_true, isRow, valueMachine, bind_ok]
  exact fillRow_call lib rfl true lower upper isMask

theorem timeBetween_alike {start stop : String} (startClock : IsBarEnd v start)
    (stopClock : IsBarEnd v stop) (ordered : minutesOf start ≤ minutesOf stop) :
    Alike (LibraryError lib.numerics interpreter) moment.grid.Bools
      (clockCondition (valueMachine lib.one) bars "time_between"
        (.list [.str start, .str stop]))
      (clockCondition (valueMachine lib.other) others "time_between"
        (.list [.str start, .str stop])) := by
  have isStart := barPosition_ok (F := F) startClock
  have isStop := barPosition_ok (F := F) stopClock
  obtain ⟨lower, _⟩ := row_inside startClock
  obtain ⟨_, upper⟩ := row_inside stopClock
  rw [← runs.rows] at upper
  have spans : rowAt v.bar start ≤ rowAt v.bar stop := by
    unfold rowAt
    refine Int.ediv_le_ediv (by cases v.bar <;> decide) ?_
    omega
  have isBar' : others.bar = v.bar := runs.alike.bar ▸ runs.bar
  have isPair : operandPair (.list [.str (F := F) start, .str stop]) = .ok (.str start, .str stop) :=
    rfl
  unfold clockCondition
  rw [runs.alike.shape, runs.alike.otherShape, runs.bar, isBar']
  refine (full_bools_call lib false).andThen fun mask mask' isMask => ?_
  have other : ¬ ("time_between" = "every_minutes") := by decide
  have other' : ¬ ("time_between" = "time_is") := by decide
  simp only [if_neg other, if_neg other', isPair, isStart, isStop, valueMachine, bind_ok]
  exact fillRows_call lib rfl true lower spans upper isMask

theorem condition_alike {node : PyValue F} {checked : Checked F} (rule : ConditionRule v node checked) :
    ConditionAlike lib interpreter moment bars others checked.node := by
  have accepted := rule
  induction rule with
  | comparison member keys found leftRule rightRule =>
      exact comparisonNode_alike runs member leftRule rightRule
  | @conditions operator entries items checked member keys found nonempty length rules ih =>
      refine conditionsNode_alike runs member ?_ (condition_closed accepted) fun item inItems => ?_
      · intro none
        rw [List.map_eq_nil_iff] at none
        rw [none] at length
        exact nonempty (List.length_eq_zero_iff.mp length)
      · obtain ⟨one, inChecked, rfl⟩ := List.mem_map.mp inItems
        rw [← List.map_snd_zip length.ge] at inChecked
        obtain ⟨pair, inZip, rfl⟩ := List.mem_map.mp inChecked
        exact ih pair inZip (rules pair inZip)
  | not keys found rule ih =>
      refine operator_alike runs (condition_closed accepted) fun depth other within within' => ?_
      have notComparison : "not" ∉ comparisonOperators ++ crossOperators := by decide
      have notAll : ¬ ("not" = "all") := by decide
      have notAny : ¬ ("not" = "any") := by decide
      rw [operatorCondition, operatorCondition, if_neg notComparison, if_neg notComparison,
        if_neg notAll, if_neg notAll, if_neg notAny, if_neg notAny, if_pos rfl, if_pos rfl]
      refine (ih rule depth other within within').andThen fun mask mask' isMask => ?_
      exact not_call lib isMask
  | everyMinutes keys found count grid =>
      simp only [isCount, Bool.and_eq_true, decide_eq_true_eq] at count
      have positive : (0 : Int) < v.bar.minutes := by cases v.bar <;> decide
      exact clockNode_alike runs (by decide) (condition_closed accepted)
        (everyMinutes_alike runs (lt_of_lt_of_le positive count.1))
  | timeIs keys found timeClock =>
      exact clockNode_alike runs (by decide) (condition_closed accepted)
        (timeIs_alike runs timeClock)
  | timeBetween keys found startClock stopClock ordered =>
      exact clockNode_alike runs (by decide) (condition_closed accepted)
        (timeBetween_alike runs startClock stopClock ordered)

end Conditions

/-! ## Sides -/

section Sides
variable {lib : Libraries F} {interpreter : Interpreter F} {moment : Moment}
  {bars others : SessionBars (NdArray F) F} {v : Validator F}
  (runs : TwoRuns lib.numerics interpreter v moment bars others)
include runs

theorem side_alike {node : PyValue F} {checked : Checked F} (rule : SideRule v node checked)
    {depth other : Nat} (within : checked.node.depth ≤ depth) (within' : checked.node.depth ≤ other) :
    Alike (LibraryError lib.numerics interpreter) moment.grid.Floats
      (side (valueMachine lib.one) interpreter bars depth checked.node)
      (side (valueMachine lib.other) interpreter others other checked.node) := by
  cases rule with
  | @fixed text member =>
      simp only [List.mem_cons, List.not_mem_nil, or_false] at member
      unfold side
      rcases member with rfl | rfl
      · exact filled_alike runs _
      · have notLong : (PyValue.str (F := F) "short").text? ≠ some "long" := by simp [PyValue.text?]
        have isShort : (PyValue.str (F := F) "short").text? = some "short" := rfl
        rw [if_neg notLong, if_neg notLong, if_pos isShort, if_pos isShort]
        refine (filled_alike runs _).andThen fun ones ones' isOnes => ?_
        exact map_call lib .negative (by decide) isOnes
  | @signed operator operand operandOk member rule =>
      have inside := (depth_le_entries List.mem_cons_self :
        operandOk.node.depth ≤ PyValue.depthEntries [(operator, operandOk.node)])
      rw [PyValue.depth] at within within'
      unfold side
      have plain : ∀ text, (PyValue.dict [(operator, operandOk.node)]).text? ≠ some text := by
        intro text same
        cases same
      rw [if_neg (plain "long"), if_neg (plain "long"), if_neg (plain "short"),
        if_neg (plain "short")]
      simp only [firstEntry, valueMachine, bind_ok]
      refine (series_alike runs rule depth other (by omega) (by omega)).andThen
        fun values values' isValues => ?_
      refine (signsOf_alike isValues).andThen fun signs signs' isSigns => ?_
      split_ifs
      · exact .returned isSigns
      · exact map_call lib .negative (by decide) isSigns

/-- The sides decided so far and the undecided bars agree on the known bars. -/
def DecidedAlike (moment : Moment) (state other : NdArray F × NdArray F) : Prop :=
  moment.grid.Floats state.1 other.1 ∧ moment.grid.Bools state.2 other.2

theorem signalStep_alike {node : PyValue F} {signal : Checked F} (rule : SignalRule v node signal)
    {depth other : Nat} (within : signal.node.depth ≤ depth) (within' : signal.node.depth ≤ other)
    {state state' : NdArray F × NdArray F} (decided : DecidedAlike moment state state') :
    Alike (LibraryError lib.numerics interpreter) (DecidedAlike moment)
      (signalStep (valueMachine lib.one) interpreter bars depth state signal.node)
      (signalStep (valueMachine lib.other) interpreter others other state' signal.node) := by
  obtain ⟨keys, whenFound, sideFound, whenRule, sideRule⟩ := rule
  rename_i whenOk sideOk
  have inWhen := (depth_le_entries List.mem_cons_self :
    whenOk.node.depth ≤ PyValue.depthEntries [("when", whenOk.node), ("side", sideOk.node)])
  have inSide := (depth_le_entries (List.mem_cons_of_mem _ List.mem_cons_self) :
    sideOk.node.depth ≤ PyValue.depthEntries [("when", whenOk.node), ("side", sideOk.node)])
  rw [PyValue.depth] at within within'
  unfold signalStep
  simp only [PyValue.get?, List.lookup_cons, String.reduceBEq, beq_self_eq_true, orRaise,
    valueMachine, bind_ok]
  refine (side_alike runs sideRule (by omega) (by omega)).andThen fun side side' isSide => ?_
  refine (condition_alike runs whenRule depth other (by omega) (by omega)).andThen
    fun holds holds' isHolds => ?_
  refine (numberTest_call lib .notEqual (by decide) _ isSide).andThen
    fun pointed pointed' isPointed => ?_
  refine (logical_call lib .logicalAnd (by decide) (.refl _) isHolds isPointed).andThen
    fun fired fired' isFired => ?_
  refine (logical_call lib .logicalAnd (by decide) (.refl _) decided.2 isFired).andThen
    fun take take' isTake => ?_
  refine (copyWhere_call lib decided.1 isTake isSide).andThen fun sides sides' isSides => ?_
  refine (not_call lib isFired).andThen fun quiet quiet' isQuiet => ?_
  refine (logical_call lib .logicalAnd (by decide) (.refl _) decided.2 isQuiet).andThen
    fun undecided undecided' isUndecided => ?_
  exact .returned ⟨isSides, isUndecided⟩

theorem signalLoop_alike {signals : List (Checked F)}
    (rules : ∀ signal ∈ signals, ∃ original, SignalRule v original signal) {depth other : Nat}
    (within : ∀ signal ∈ signals, signal.node.depth ≤ depth)
    (within' : ∀ signal ∈ signals, signal.node.depth ≤ other)
    {state state' : NdArray F × NdArray F} (decided : DecidedAlike moment state state') :
    Alike (LibraryError lib.numerics interpreter) moment.grid.Floats
      (signalLoop (valueMachine lib.one) interpreter bars depth state
        (signals.map Checked.node))
      (signalLoop (valueMachine lib.other) interpreter others other state'
        (signals.map Checked.node)) := by
  induction signals generalizing state state' with
  | nil => exact .returned decided.1
  | cons signal rest ih =>
      obtain ⟨original, rule⟩ := rules signal List.mem_cons_self
      refine (signalStep_alike runs rule (within _ List.mem_cons_self) (within' _ List.mem_cons_self)
        decided).andThen fun next next' isNext => ?_
      exact ih (fun one member => rules one (List.mem_cons_of_mem _ member))
        (fun one member => within one (List.mem_cons_of_mem _ member))
        (fun one member => within' one (List.mem_cons_of_mem _ member)) isNext

/-- Where the signals of an accepted specification point agrees on the known bars. -/
theorem sidesOf_alike {signals : List (Checked F)}
    (rules : ∀ signal ∈ signals, ∃ original, SignalRule v original signal) {depth other : Nat}
    (within : (PyValue.list (signals.map Checked.node)).depth ≤ depth)
    (within' : (PyValue.list (signals.map Checked.node)).depth ≤ other) :
    Alike (LibraryError lib.numerics interpreter) moment.grid.Floats
      (sidesOf (valueMachine lib.one) interpreter bars depth (signals.map Checked.node))
      (sidesOf (valueMachine lib.other) interpreter others other
        (signals.map Checked.node)) := by
  have inside : ∀ {depth}, (PyValue.list (signals.map Checked.node)).depth ≤ depth →
      ∀ signal ∈ signals, signal.node.depth ≤ depth := fun within signal member =>
    (depth_item_le (List.mem_map_of_mem member)).trans within
  refine cached_alike runs (signals_closed rules) ?_
  unfold barSides
  rw [runs.alike.shape, runs.alike.otherShape]
  refine (full_call lib (floatScalar_float _)).andThen fun sides sides' isSides => ?_
  refine (full_bools_call lib true).andThen fun undecided undecided' isUndecided => ?_
  exact signalLoop_alike runs rules (inside within) (inside within') ⟨isSides, isUndecided⟩

end Sides

end QuantFactory.RuleStrategy
