import Mathlib.Data.List.Forall2
import QuantFactory.Library.Lookup
import QuantFactory.RuleLanguage.Validation

/-!
# The grammar of accepted rules

What the checks of `Validation` let through, as inductive rules from a node to
its normalized form.  Every later result about accepted documents is an
induction over these rules.
-/

set_option autoImplicit false

namespace QuantFactory.RuleLanguage

open QuantFactory.Library QuantFactory.Python

variable {F : Type}

/-! ## Objects -/

/-- The keys of an object: every required one, and none beyond the allowed ones. -/
structure HasKeys (entries : Entries F) (required optional : List String) :
    Prop where
  allowed : ∀ key ∈ entries.map Prod.fst, key ∈ required ++ optional
  present : ∀ key ∈ required, key ∈ entries.map Prod.fst

theorem checkObject_ok_iff {runtime : RuleRuntime F} {node : PyValue F} {path : String}
    {required optional : List String} {entries : Entries F} :
    checkObject runtime node path required optional = .ok entries ↔
      node = .dict entries ∧ HasKeys entries required optional := by
  cases node with
  | dict inner =>
      have allowed : (inner.find? fun entry => entry.1 ∉ required ++ optional) = none ↔
          ∀ key ∈ inner.map Prod.fst, key ∈ required ++ optional := by
        simp [List.find?_eq_none, or_iff_not_imp_left]
      have present : (required.find? fun key => (inner.lookup key).isNone) = none ↔
          ∀ key ∈ required, key ∈ inner.map Prod.fst := by
        simp only [List.find?_eq_none, Bool.not_eq_true, Option.isNone_eq_false_iff,
          lookup_isSome_iff]
      simp only [checkObject]
      split
      · rename_i key value unknown
        simp only [ruleSpecError, reduceCtorEq, PyValue.dict.injEq, false_iff, not_and]
        rintro rfl keys
        rw [allowed.mpr keys.allowed] at unknown
        cases unknown
      · rename_i known
        split
        · rename_i key missing
          simp only [ruleSpecError, reduceCtorEq, PyValue.dict.injEq, false_iff, not_and]
          rintro rfl keys
          rw [present.mpr keys.present] at missing
          cases missing
        · rename_i complete
          simp only [Except.ok.injEq, PyValue.dict.injEq]
          constructor
          · rintro rfl
            exact ⟨rfl, allowed.mp known, present.mp complete⟩
          · rintro ⟨rfl, _⟩
            rfl
  | _ => simp [checkObject, ruleSpecError]

theorem item_ok_iff {entries : Entries F} {key : String} {value : PyValue F} :
    item entries key = .ok value ↔ entries.lookup key = some value := by
  simp [item]

theorem pair_ok_iff {node : PyValue F} {path : String} {operands : PyValue F × PyValue F} :
    pair node path = .ok operands ↔ node = .list [operands.1, operands.2] := by
  unfold pair
  split
  · rename_i first second
    simp [Prod.ext_iff]
  · rename_i other
    simp only [ruleSpecError, reduceCtorEq, false_iff]
    exact other _ _

theorem operatorOf_ok_iff {runtime : RuleRuntime F} {node : PyValue F} {path : String}
    {allowed : List String} {kind : OperatorKind} {operator : String} :
    operatorOf runtime node path allowed kind = .ok operator ↔
      ∃ entries, node = .dict entries ∧
        (entries.map Prod.fst).filter (· ∈ allowed) = [operator] := by
  cases node with
  | dict entries =>
      simp only [operatorOf, PyValue.dict.injEq, exists_eq_left']
      split
      · rename_i head same
        simp [same]
      · rename_i first second rest same
        simp [same, ruleSpecError]
      · rename_i same
        rw [same]
        split <;> simp [ruleSpecError]
  | _ => simp [operatorOf, ruleSpecError]

def FlagIs (entries : Entries F) (key : String) (value : Bool) : Prop :=
  entries.lookup key = some (.bool value) ∨ entries.lookup key = none ∧ value = false

theorem flag_ok_iff {entries : Entries F} {key path : String} {value : Bool} :
    flag entries key path = .ok value ↔ FlagIs entries key value := by
  unfold flag FlagIs
  split
  · rename_i absent
    simp [absent, eq_comm]
  · rename_i found present
    simp [present]
  · rename_i found notBool present
    simp only [ruleSpecError, reduceCtorEq, present, Option.some.injEq, false_iff, false_and,
      or_false]
    exact notBool value

/-! ## Times -/

def IsClock (earliest latest step : Nat) (text : String) : Prop :=
  ∃ minutes, clockMinutes text = some minutes ∧ minutes % step = 0 ∧ earliest ≤ minutes ∧
    minutes ≤ latest

theorem clock_ok_iff {runtime : RuleRuntime F} {value : PyValue F} {path text : String}
    {earliest latest step : Nat} :
    clock runtime value path earliest latest step = .ok text ↔
      value = .str text ∧ IsClock earliest latest step text := by
  cases value with
  | str found =>
      cases read : clockMinutes found with
      | none =>
          simp only [clock, read, ruleSpecError, reduceCtorEq, PyValue.str.injEq, false_iff,
            not_and]
          rintro rfl ⟨minutes, other, _⟩
          rw [read] at other
          cases other
      | some minutes =>
          simp only [clock, read, raiseIf_bind_eq_ok, IsClock, PyValue.str.injEq,
            decide_eq_false_iff_not, not_not, Bool.not_eq_eq_eq_not, Bool.not_false,
            Bool.and_eq_true, decide_eq_true_eq, Except.ok.injEq, ne_eq]
          constructor
          · rintro ⟨grid, ⟨low, high⟩, rfl⟩
            exact ⟨rfl, minutes, read, grid, low, high⟩
          · rintro ⟨rfl, other, same, grid, low, high⟩
            rw [read] at same
            cases Option.some.inj same
            exact ⟨grid, ⟨low, high⟩, rfl⟩
  | _ => simp [clock, ruleSpecError]

/-! ## Numbers and variables -/

section Rules
variable [PyFloat F] (v : Validator F)

open Validator

structure Declared (check : ParamCheck) (name : String) : Prop where
  named : name.isEmpty = false
  values : ∃ definition values, v.packetVariables.lookup name = some definition ∧
    declaredValues definition = some values ∧
    (∀ value ∈ values, ParamCheck.accepts check value = .ok true) ∧
    ∃ floats, collect toFloat values = .ok floats ∧ allDistinct floats = true

theorem collect_unit {α : Type} {ε : Type} {f : α → Except ε Unit} {items : List α} :
    (∃ results, collect f items = .ok results) ↔ ∀ item ∈ items, f item = .ok () := by
  induction items with
  | nil => simp [collect]
  | cons item rest ih =>
      simp only [collect, bind_eq_ok, List.forall_mem_cons, ← ih]
      constructor
      · rintro ⟨_, ⟨⟩, first, others, later, _⟩
        exact ⟨first, others, later⟩
      · rintro ⟨first, others, later⟩
        exact ⟨_, (), first, others, later, rfl⟩

theorem checkValue_ok_iff {name path : String} {check : ParamCheck} {value : PyValue F} :
    v.checkValue name path check value = .ok () ↔ ParamCheck.accepts check value = .ok true := by
  simp only [checkValue, bind_eq_ok, raiseIf_eq_ok, Bool.not_eq_eq_eq_not, Bool.not_false]
  constructor
  · rintro ⟨valid, accepted, rfl⟩
    exact accepted
  · intro accepted
    exact ⟨true, accepted, rfl⟩

theorem param_ok_iff {name : PyValue F} {path text : String} {check : ParamCheck} :
    v.param name path check = .ok text ↔ name = .str text ∧ Declared v check text := by
  have isText : ∀ found, name.text?.filter (fun text => !text.isEmpty) = some found ↔
      name = .str found ∧ found.isEmpty = false := by
    intro found
    cases name <;> simp [PyValue.text?, Option.filter_eq_some_iff]
  simp only [param, bind_eq_ok, orRaise_eq_ok, isText, raiseIf_eq_ok, Bool.not_eq_eq_eq_not,
    Bool.not_false]
  constructor
  · rintro ⟨found, ⟨rfl, named⟩, definition, declared, values, listed, results, checked, floats,
      converted, _, distinct, done⟩
    cases Except.ok.inj done
    have accepted : ∀ value ∈ values, ParamCheck.accepts check value = .ok true :=
      fun value member => (checkValue_ok_iff v).mp (collect_unit.mp ⟨results, checked⟩ value member)
    exact ⟨rfl, named, definition, values, declared, listed, accepted, floats, converted, distinct⟩
  · rintro ⟨rfl, named, definition, values, declared, listed, accepted, floats, converted,
      distinct⟩
    have passed : ∀ value ∈ values, v.checkValue text path check value = .ok () :=
      fun value member => (checkValue_ok_iff v).mpr (accepted value member)
    obtain ⟨results, checked⟩ := collect_unit.mpr passed
    exact ⟨text, ⟨rfl, named⟩, definition, declared, values, listed, results, checked, floats,
      converted, (), distinct, rfl⟩

/-- A number within its check, or the object that names a variable. -/
inductive NumericRule (check : ParamCheck) : PyValue F → Checked F → Prop
  | literal {node : PyValue F} (plain : node.isDict = false)
      (accepted : ParamCheck.accepts check node = .ok true) : NumericRule check node ⟨node, []⟩
  | parameter {entries : Entries F} {name : String}
      (keys : HasKeys entries ["param"] []) (found : entries.lookup "param" = some (.str name))
      (declared : Declared v check name) :
      NumericRule check (.dict entries) ⟨.dict [("param", .str name)], [name]⟩

theorem numeric_ok_iff {check : ParamCheck} {reason path : String} {node : PyValue F}
    {checked : Checked F} :
    v.numeric check reason node path = .ok checked ↔ NumericRule v check node checked := by
  by_cases isDict : node.isDict = true
  · cases node with
    | dict entries =>
        simp only [numeric, bind_eq_ok, checkObject_ok_iff, item_ok_iff, param_ok_iff,
          PyValue.dict.injEq, Except.ok.injEq]
        constructor
        · rintro ⟨_, ⟨rfl, keys⟩, _, found, name, ⟨rfl, declared⟩, rfl⟩
          exact .parameter keys found declared
        · rintro (⟨plain, _⟩ | ⟨keys, found, declared⟩)
          · cases plain
          · exact ⟨entries, ⟨rfl, keys⟩, _, found, _, ⟨rfl, declared⟩, rfl⟩
    | _ => cases isDict
  · have plain : node.isDict = false := by simpa using isDict
    have direct : v.numeric check reason node path = (do
        let valid ← ParamCheck.accepts check node
        raiseIf (!valid) (.ruleSpecError path reason)
        .ok ⟨node, []⟩) := by
      cases node <;> first | rfl | cases plain
    simp only [direct, bind_eq_ok, raiseIf_eq_ok, Bool.not_eq_eq_eq_not, Bool.not_false,
      Except.ok.injEq]
    constructor
    · rintro ⟨valid, accepted, _, rfl, rfl⟩
      exact .literal plain accepted
    · rintro (⟨_, accepted⟩ | ⟨keys, found, declared⟩)
      · exact ⟨true, accepted, (), rfl, rfl⟩
      · cases plain

theorem count_ok_iff {minimum maximum : Nat} {path : String} {node : PyValue F}
    {checked : Checked F} : v.count minimum maximum node path = .ok checked ↔
      NumericRule v (.count minimum maximum) node checked := numeric_ok_iff v

theorem amount_ok_iff {maximum : Option Nat} {path : String} {node : PyValue F}
    {checked : Checked F} : v.amount maximum node path = .ok checked ↔
      NumericRule v (.amount maximum) node checked := numeric_ok_iff v

theorem number_ok_iff {path : String} {node : PyValue F} {checked : Checked F} :
    v.number node path = .ok checked ↔ NumericRule v .number node checked := numeric_ok_iff v

/-! ## Series -/

def ChoiceIs (key : String) (choices : List String) (required : Bool)
    (entries written : Entries F) : Prop :=
  (∃ choice ∈ choices, entries.lookup key = some (.str choice) ∧ written = [(key, .str choice)]) ∨
    entries.lookup key = none ∧ required = false ∧ written = []

omit [PyFloat F] in
theorem choiceEntry_ok_iff {key path : String} {choices : List String} {required : Bool}
    {entries written : Entries F} :
    choiceEntry key choices required entries path = .ok written ↔
      ChoiceIs key choices required entries written := by
  unfold choiceEntry ChoiceIs
  cases found : entries.lookup key with
  | none => cases required <;> simp [eq_comm]
  | some value =>
      cases value with
      | str choice =>
          by_cases member : choice ∈ choices
          · simp [member, eq_comm]
          · simp only [member, if_false, ruleSpecError, reduceCtorEq, Option.some.injEq,
              PyValue.str.injEq, false_iff, false_and, or_false]
            rintro ⟨_, inChoices, rfl, _⟩
            exact member inChoices
      | _ => simp [ruleSpecError]

inductive AtrRule : PyValue F → Checked F → Prop
  | atr {entries smoothing : Entries F} {across : Bool} {length : PyValue F}
      {lengthOk : Checked F} (keys : HasKeys entries ["length"] ["smoothing", "across_sessions"])
      (flag : FlagIs entries "across_sessions" across)
      (found : entries.lookup "length" = some length)
      (count : NumericRule v (.count 1 (v.longestWindow across)) length lengthOk)
      (choice : ChoiceIs "smoothing" atrSmoothings false entries smoothing) :
      AtrRule (.dict entries) ⟨.dict ([("length", lengthOk.node)] ++ smoothing ++
        if (entries.lookup "across_sessions").isSome then [("across_sessions", .bool across)]
        else []), lengthOk.used⟩

def indicatorCheck (across : Bool) : IndicatorParam → ParamCheck
  | .count minimum => .count minimum (v.longestWindow across)
  | .amount => .amount (some maxMultiplier)

def libraryCheck (across : Bool) : ParamKind → ParamCheck
  | .count => .count 0 (v.longestWindow across)
  | .number => .number

def ParamsRule {Kind : Type} (check : Kind → ParamCheck) (entries : Entries F)
    (declared : List (String × Kind)) (params : List (String × Checked F)) : Prop :=
  List.Forall₂ (fun entry param => ∃ value, entries.lookup entry.1 = some value ∧
    param.1 = entry.1 ∧ NumericRule v (check entry.2) value param.2) declared params

def outputChoice (outputs : List String) (entries written : Entries F) : Prop :=
  if outputs.isEmpty then written = [] else ChoiceIs "output" outputs true entries written

def LibraryOutputIs (spec : LibraryIndicator) (entries : Entries F)
    (output : String) : Prop :=
  output ∈ spec.outputs ∧ (entries.lookup "output" = some (.str output) ∨
    entries.lookup "output" = none ∧ spec.outputs = [output])

def outputKeys (spec : IndicatorSpec) : List String :=
  if spec.outputs.isEmpty then [] else ["output"]

inductive SeriesRule : PyValue F → Checked F → Prop
  | int {n : Int} {x : F} (finite : PyFloat.ofInt n = some x) : SeriesRule (.int n) ⟨.int n, []⟩
  | float {x : F} (finite : PyFloat.isFinite x = true) : SeriesRule (.float x) ⟨.float x, []⟩
  | field {name : String} (member : name ∈ priceFields) : SeriesRule (.str name) ⟨.str name, []⟩
  | param {entries : Entries F} {name : String}
      (keys : HasKeys entries ["param"] []) (found : entries.lookup "param" = some (.str name))
      (declared : Declared v .number name) :
      SeriesRule (.dict entries) ⟨.dict [("param", .str name)], [name]⟩
  | binary {operator : String} {entries : Entries F} {left right : PyValue F}
      {leftOk rightOk : Checked F} (member : operator ∈ binaryOperators)
      (keys : HasKeys entries [operator] [])
      (found : entries.lookup operator = some (.list [left, right]))
      (leftRule : SeriesRule left leftOk) (rightRule : SeriesRule right rightOk) :
      SeriesRule (.dict entries)
        ⟨.dict [(operator, .list [leftOk.node, rightOk.node])], leftOk.used ++ rightOk.used⟩
  | unary {operator : String} {entries : Entries F} {operand : PyValue F}
      {operandOk : Checked F} (member : operator ∈ unaryOperators)
      (keys : HasKeys entries [operator] []) (found : entries.lookup operator = some operand)
      (rule : SeriesRule operand operandOk) :
      SeriesRule (.dict entries) ⟨.dict [(operator, operandOk.node)], operandOk.used⟩
  | atr {entries : Entries F} {value : PyValue F} {atrOk : Checked F}
      (keys : HasKeys entries ["atr"] []) (found : entries.lookup "atr" = some value)
      (rule : AtrRule v value atrOk) :
      SeriesRule (.dict entries) ⟨.dict [("atr", atrOk.node)], atrOk.used⟩
  | session {operator : String} {entries : Entries F}
      (member : operator ∈ sessionOperators) (keys : HasKeys entries [operator] [])
      (found : entries.lookup operator = some (.dict [])) :
      SeriesRule (.dict entries) ⟨.dict [(operator, .dict [])], []⟩
  | range {operator start stop : String} {entries window : Entries F}
      (member : operator ∈ rangeOperators) (keys : HasKeys entries [operator] [])
      (found : entries.lookup operator = some (.dict window))
      (windowKeys : HasKeys window ["from", "to"] [])
      (startFound : window.lookup "from" = some (.str start))
      (stopFound : window.lookup "to" = some (.str stop))
      (startClock : IsClock sessionOpenMinutes v.bar.lastExit v.bar.minutes start)
      (stopClock : IsClock v.bar.firstBarEndMinutes sessionCloseMinutes v.bar.minutes stop)
      (ordered : minutesOf start < minutesOf stop) :
      SeriesRule (.dict entries)
        ⟨.dict [(operator, .dict [("from", .str start), ("to", .str stop)])], []⟩
  | prev {entries : Entries F} {operand bars : PyValue F}
      {operandOk barsOk : Checked F} (keys : HasKeys entries ["prev", "bars"] [])
      (found : entries.lookup "prev" = some operand) (barsFound : entries.lookup "bars" = some bars)
      (rule : SeriesRule operand operandOk)
      (count : NumericRule v (.count 1 (v.bar.barsPerSession - 1)) bars barsOk) :
      SeriesRule (.dict entries) ⟨.dict [("prev", operandOk.node), ("bars", barsOk.node)],
        operandOk.used ++ barsOk.used⟩
  | rolling {operator : String} {entries : Entries F} {operand length : PyValue F}
      {across : Bool} {operandOk lengthOk : Checked F} (member : operator ∈ rollingOperators)
      (keys : HasKeys entries [operator, "length"] ["across_sessions"])
      (found : entries.lookup operator = some operand)
      (flag : FlagIs entries "across_sessions" across)
      (lengthFound : entries.lookup "length" = some length)
      (count : NumericRule v
        (.count (if operator = "std" then 2 else 1) (v.longestWindow across)) length lengthOk)
      (rule : SeriesRule operand operandOk) :
      SeriesRule (.dict entries) ⟨.dict [(operator, operandOk.node), ("length", lengthOk.node),
        ("across_sessions", .bool across)], lengthOk.used ++ operandOk.used⟩
  | valueAt {time : String} {entries : Entries F} {operand : PyValue F}
      {operandOk : Checked F} (keys : HasKeys entries ["value_at", "time"] [])
      (found : entries.lookup "value_at" = some operand)
      (timeFound : entries.lookup "time" = some (.str time))
      (timeClock : IsClock v.bar.firstBarEndMinutes sessionCloseMinutes v.bar.minutes time)
      (rule : SeriesRule operand operandOk) :
      SeriesRule (.dict entries) ⟨.dict [("value_at", operandOk.node), ("time", .str time)],
        operandOk.used⟩
  | indicator {operator : String} {spec : IndicatorSpec} {entries output : Entries F}
      {across : Bool} {operand : PyValue F} {operandOk : Checked F}
      {params : List (String × Checked F)} (declared : indicators.lookup operator = some spec)
      (keys : HasKeys entries ([operator] ++ spec.params.map Prod.fst ++ outputKeys spec)
        ["across_sessions"])
      (flag : FlagIs entries "across_sessions" across)
      (found : entries.lookup operator = some operand)
      (rule : spec.takesSeries = true → SeriesRule operand operandOk)
      (plain : spec.takesSeries = false → operand = .dict [] ∧ operandOk = ⟨.dict [], []⟩)
      (paramRules : ParamsRule v (indicatorCheck v across) entries spec.params params)
      (choice : outputChoice spec.outputs entries output) :
      SeriesRule (.dict entries) ⟨.dict ([(operator, operandOk.node)] ++ checkedEntries params ++
        [("across_sessions", .bool across)] ++ output), operandOk.used ++ usedBy params⟩
  | library {spec : LibraryIndicator} {name output : String}
      {entries paramEntries inputEntries : Entries F} {across : Bool}
      {params : List (String × Checked F)} {operand : String → PyValue F}
      {operandOk : String → Checked F}
      (keys : HasKeys entries ["indicator", "params"] ["inputs", "output", "across_sessions"])
      (named : entries.lookup "indicator" = some (.str name))
      (declared : libraryIndicator v.runtime.vbt name = some spec)
      (flag : FlagIs entries "across_sessions" across)
      (paramsFound : entries.lookup "params" = some (.dict paramEntries))
      (paramKeys : HasKeys paramEntries (spec.params.map Prod.fst) [])
      (paramRules : ParamsRule v (libraryCheck v across) paramEntries spec.params params)
      (inputsFound : (entries.lookup "inputs").getD (.dict []) = .dict inputEntries)
      (inputKeys : HasKeys inputEntries [] spec.inputs)
      (operands : ∀ key ∈ spec.inputs.filter (fun key => (inputEntries.lookup key).isSome),
        inputEntries.lookup key = some (operand key))
      (rules : ∀ key ∈ spec.inputs.filter (fun key => (inputEntries.lookup key).isSome),
        SeriesRule (operand key) (operandOk key))
      (outputIs : LibraryOutputIs spec entries output) :
      SeriesRule (.dict entries) ⟨.dict [("indicator", .str spec.name),
        ("params", .dict (checkedEntries params)),
        ("inputs", .dict (checkedEntries ((spec.inputs.filter fun key =>
          (inputEntries.lookup key).isSome).map fun key => (key, operandOk key)))),
        ("output", .str output), ("across_sessions", .bool across)],
        usedBy params ++ usedBy ((spec.inputs.filter fun key =>
          (inputEntries.lookup key).isSome).map fun key => (key, operandOk key))⟩

/-! ### Checked series follow the rules -/

section Sound
variable {v} {recurse : Check F}
  (sound : ∀ {node : PyValue F} {path : String} {checked : Checked F},
    recurse node path = .ok checked → SeriesRule v node checked)
include sound

theorem prevNode_rule {node : PyValue F} {path : String} {checked : Checked F}
    (accepted : v.prevNode recurse node path = .ok checked) : SeriesRule v node checked := by
  simp only [prevNode, bind_eq_ok, checkObject_ok_iff, item_ok_iff, count_ok_iff,
    Except.ok.injEq] at accepted
  obtain ⟨entries, ⟨rfl, keys⟩, operand, found, bars, barsFound, operandOk, rule, barsOk, count,
    rfl⟩ := accepted
  exact .prev keys found barsFound (sound rule) count

theorem rollingNode_rule {operator : String} (member : operator ∈ rollingOperators)
    {node : PyValue F} {path : String} {checked : Checked F}
    (accepted : v.rollingNode recurse operator node path = .ok checked) :
    SeriesRule v node checked := by
  simp only [rollingNode, bind_eq_ok, checkObject_ok_iff, item_ok_iff, flag_ok_iff, count_ok_iff,
    Except.ok.injEq] at accepted
  obtain ⟨entries, ⟨rfl, keys⟩, operand, found, across, flag, length, lengthFound, lengthOk,
    count, operandOk, rule, rfl⟩ := accepted
  exact .rolling member keys found flag lengthFound count (sound rule)

theorem valueAtNode_rule {node : PyValue F} {path : String} {checked : Checked F}
    (accepted : v.valueAtNode recurse node path = .ok checked) : SeriesRule v node checked := by
  simp only [valueAtNode, barEnd, clockWithin, bind_eq_ok, checkObject_ok_iff, item_ok_iff,
    clock_ok_iff, Except.ok.injEq] at accepted
  obtain ⟨entries, ⟨rfl, keys⟩, operand, found, _, timeFound, time, ⟨rfl, timeClock⟩, operandOk,
    rule, rfl⟩ := accepted
  exact .valueAt keys found timeFound timeClock (sound rule)

omit sound in
theorem indicatorParams_rule {entries : Entries F} {path : String} {across : Bool}
    {declared : List (String × IndicatorParam)} {params : List (String × Checked F)}
    (accepted : collect (v.indicatorParam entries path across) declared = .ok params) :
    ParamsRule v (indicatorCheck v across) entries declared params := by
  refine (collect_eq_ok.mp accepted).imp fun entry param checked => ?_
  obtain ⟨key, kind⟩ := entry
  cases kind with
  | count minimum =>
      simp only [indicatorParam, bind_eq_ok, item_ok_iff, count_ok_iff, Except.ok.injEq] at checked
      obtain ⟨value, found, valueOk, rule, rfl⟩ := checked
      exact ⟨value, found, rfl, rule⟩
  | amount =>
      simp only [indicatorParam, bind_eq_ok, item_ok_iff, amount_ok_iff, Except.ok.injEq] at checked
      obtain ⟨value, found, valueOk, rule, rfl⟩ := checked
      exact ⟨value, found, rfl, rule⟩

omit sound in
theorem libraryParams_rule {entries : Entries F} {path : String} {across : Bool}
    {declared : List (String × ParamKind)} {params : List (String × Checked F)}
    (accepted : collect (v.libraryParam entries path across) declared = .ok params) :
    ParamsRule v (libraryCheck v across) entries declared params := by
  refine (collect_eq_ok.mp accepted).imp fun entry param checked => ?_
  obtain ⟨key, kind⟩ := entry
  cases kind with
  | count =>
      simp only [libraryParam, bind_eq_ok, item_ok_iff, count_ok_iff, Except.ok.injEq] at checked
      obtain ⟨value, found, valueOk, rule, rfl⟩ := checked
      exact ⟨value, found, rfl, rule⟩
  | number =>
      simp only [libraryParam, bind_eq_ok, item_ok_iff, number_ok_iff, Except.ok.injEq] at checked
      obtain ⟨value, found, valueOk, rule, rfl⟩ := checked
      exact ⟨value, found, rfl, rule⟩

omit [PyFloat F] sound in
theorem outputEntry_ok_iff {outputs : List String} {entries written : Entries F}
    {path : String} : outputEntry outputs entries path = .ok written ↔
      outputChoice outputs entries written := by
  unfold outputEntry outputChoice
  split
  · simp [eq_comm]
  · exact choiceEntry_ok_iff

theorem indicatorNode_rule {operator : String} {spec : IndicatorSpec}
    (declared : indicators.lookup operator = some spec) {node : PyValue F} {path : String}
    {checked : Checked F} (accepted : v.indicatorNode recurse operator spec node path =
      .ok checked) : SeriesRule v node checked := by
  simp only [indicatorNode, bind_eq_ok, checkObject_ok_iff, item_ok_iff, flag_ok_iff,
    outputEntry_ok_iff, Except.ok.injEq] at accepted
  obtain ⟨entries, ⟨rfl, keys⟩, across, flag, operand, found, operandOk, operandChecked, params,
    paramsChecked, output, choice, rfl⟩ := accepted
  refine .indicator declared keys flag found ?_ ?_ (indicatorParams_rule paramsChecked) choice
  · intro takes
    unfold indicatorOperand at operandChecked
    rw [if_pos takes] at operandChecked
    exact sound operandChecked
  · intro plain
    unfold indicatorOperand at operandChecked
    rw [plain, if_neg Bool.false_ne_true] at operandChecked
    split at operandChecked
    · exact ⟨rfl, (Except.ok.inj operandChecked).symm⟩
    · cases operandChecked

omit [PyFloat F] sound in
theorem libraryOutput_ok_iff {spec : LibraryIndicator} {entries : Entries F}
    {path output : String} : libraryOutput spec entries path = .ok output ↔
      LibraryOutputIs spec entries output := by
  unfold libraryOutput LibraryOutputIs
  cases found : entries.lookup "output" with
  | some value =>
      cases value with
      | str text =>
          by_cases member : text ∈ spec.outputs
          · simp only [member, if_true, Except.ok.injEq, Option.some.injEq, PyValue.str.injEq,
              reduceCtorEq, false_and, or_false]
            constructor
            · rintro rfl
              exact ⟨member, rfl⟩
            · rintro ⟨_, rfl⟩
              rfl
          · simp only [member, if_false, ruleSpecError, reduceCtorEq, Option.some.injEq,
              PyValue.str.injEq, false_and, or_false, false_iff, not_and]
            rintro inOutputs rfl
            exact member inOutputs
      | _ => simp [ruleSpecError]
  | none =>
      match outputs : spec.outputs with
      | [] => simp [ruleSpecError]
      | [only] =>
          simp only [List.mem_singleton, if_true, Except.ok.injEq, reduceCtorEq, false_or, true_and,
            List.cons.injEq, and_true]
          constructor
          · rintro rfl
            exact ⟨rfl, rfl⟩
          · rintro ⟨rfl, _⟩
            rfl
      | first :: second :: rest => simp [ruleSpecError]

theorem libraryNode_rule {node : PyValue F} {path : String} {checked : Checked F}
    (accepted : v.libraryNode recurse node path = .ok checked) : SeriesRule v node checked := by
  simp only [libraryNode, bind_eq_ok, checkObject_ok_iff, item_ok_iff, flag_ok_iff, orRaise_eq_ok,
    libraryOutput_ok_iff, Except.ok.injEq] at accepted
  obtain ⟨entries, ⟨rfl, keys⟩, nameValue, named, spec, declared, across, flag, paramsValue,
    paramsFound, paramEntries, ⟨rfl, paramKeys⟩, params, paramsChecked, inputEntries,
    ⟨inputsFound, inputKeys⟩, inputs, inputsChecked, output, outputIs, rfl⟩ := accepted
  obtain ⟨name, rfl, declared⟩ : ∃ name, nameValue = .str name ∧
      libraryIndicator v.runtime.vbt name = some spec := by
    cases nameValue with
    | str name => exact ⟨name, rfl, declared⟩
    | _ => cases declared
  obtain ⟨same, each⟩ := collect_eq_map inputsChecked fun key => (key, ⟨.none, []⟩)
  let operand (key : String) : PyValue F := (inputEntries.lookup key).getD .none
  let operandOk (key : String) : Checked F :=
    ((libraryInput recurse inputEntries path key).toOption.getD (key, ⟨.none, []⟩)).2
  have checkedInput : ∀ key ∈ spec.inputs.filter (fun key => (inputEntries.lookup key).isSome),
      inputEntries.lookup key = some (operand key) ∧ SeriesRule v (operand key) (operandOk key) ∧
        (libraryInput recurse inputEntries path key).toOption.getD (key, ⟨.none, []⟩) =
          (key, operandOk key) := by
    intro key member
    have inputOk := each key member
    simp only [libraryInput, bind_eq_ok, item_ok_iff, Except.ok.injEq] at inputOk
    obtain ⟨value, found, checkedValue, rule, done⟩ := inputOk
    have isOperand : operand key = value := by simp [operand, found]
    have isChecked : operandOk key = checkedValue := (congrArg Prod.snd done).symm
    refine ⟨by rw [isOperand, found], by rw [isOperand, isChecked]; exact sound rule, ?_⟩
    rw [isChecked]
    exact done.symm
  have inputs_eq : inputs = (spec.inputs.filter fun key =>
      (inputEntries.lookup key).isSome).map fun key => (key, operandOk key) := by
    rw [same]
    exact List.map_congr_left fun key member => (checkedInput key member).2.2
  rw [inputs_eq]
  exact .library keys named declared flag paramsFound paramKeys (libraryParams_rule paramsChecked)
    inputsFound inputKeys (fun key member => (checkedInput key member).1)
    (fun key member => (checkedInput key member).2.1) outputIs

omit sound in
theorem atrNode_ok_iff {value : PyValue F} {path : String} {checked : Checked F} :
    v.atrNode value path = .ok checked ↔ AtrRule v value checked := by
  simp only [atrNode, bind_eq_ok, checkObject_ok_iff, item_ok_iff, flag_ok_iff, count_ok_iff,
    choiceEntry_ok_iff, Except.ok.injEq]
  constructor
  · rintro ⟨entries, ⟨rfl, keys⟩, across, flag, length, found, lengthOk, count, smoothing, choice,
      rfl⟩
    exact .atr keys flag found count choice
  · rintro ⟨keys, flag, found, count, choice⟩
    exact ⟨_, ⟨rfl, keys⟩, _, flag, _, found, _, count, _, choice, rfl⟩

def plainOperators : List String :=
  ["param"] ++ binaryOperators ++ unaryOperators ++ ["atr"] ++ sessionOperators ++ rangeOperators

theorem plainNode_rule {operator : String} (member : operator ∈ plainOperators) {node : PyValue F}
    {path : String} {checked : Checked F}
    (accepted : v.plainNode recurse operator node path = .ok checked) :
    SeriesRule v node checked := by
  simp only [plainNode, bind_eq_ok, checkObject_ok_iff, item_ok_iff] at accepted
  obtain ⟨entries, ⟨rfl, keys⟩, value, found, accepted⟩ := accepted
  simp only [plainOperators, List.mem_append, List.mem_singleton] at member
  split_ifs at accepted with isParam isBinary isUnary isAtr isSession
  · subst isParam
    simp only [bind_eq_ok, param_ok_iff, Except.ok.injEq] at accepted
    obtain ⟨name, ⟨rfl, declared⟩, rfl⟩ := accepted
    exact .param keys found declared
  · simp only [bind_eq_ok, pair_ok_iff, Except.ok.injEq] at accepted
    obtain ⟨operands, rfl, leftOk, leftRule, rightOk, rightRule, rfl⟩ := accepted
    exact .binary isBinary keys found (sound leftRule) (sound rightRule)
  · simp only [bind_eq_ok, Except.ok.injEq] at accepted
    obtain ⟨operandOk, rule, rfl⟩ := accepted
    exact .unary isUnary keys found (sound rule)
  · subst isAtr
    simp only [bind_eq_ok, atrNode_ok_iff, Except.ok.injEq] at accepted
    obtain ⟨atrOk, rule, rfl⟩ := accepted
    exact .atr keys found rule
  · split at accepted
    · cases Except.ok.inj accepted
      exact .session isSession keys found
    · cases accepted
  · simp only [rangeNode, barEnd, clockWithin, bind_eq_ok, checkObject_ok_iff, item_ok_iff,
      clock_ok_iff, raiseIf_eq_ok, Bool.not_eq_eq_eq_not, Bool.not_false, decide_eq_true_eq,
      Except.ok.injEq] at accepted
    obtain ⟨window, ⟨rfl, windowKeys⟩, _, startFound, start, ⟨rfl, startClock⟩, _, stopFound, stop,
      ⟨rfl, stopClock⟩, _, ordered, rfl⟩ := accepted
    refine .range ?_ keys found windowKeys startFound stopFound startClock stopClock ordered
    simpa [isParam, isBinary, isUnary, isAtr, isSession] using member

theorem operatorNode_rule {operator : String} (member : operator ∈ seriesOperators)
    {node : PyValue F} {path : String} {checked : Checked F}
    (accepted : v.operatorNode recurse operator node path = .ok checked) :
    SeriesRule v node checked := by
  unfold operatorNode at accepted
  by_cases isPrev : operator = "prev"
  · rw [if_pos isPrev] at accepted
    exact prevNode_rule sound accepted
  by_cases isRolling : operator ∈ rollingOperators
  · rw [if_neg isPrev, if_pos isRolling] at accepted
    exact rollingNode_rule sound isRolling accepted
  by_cases isValueAt : operator = "value_at"
  · rw [if_neg isPrev, if_neg isRolling, if_pos isValueAt] at accepted
    exact valueAtNode_rule sound accepted
  rw [if_neg isPrev, if_neg isRolling, if_neg isValueAt] at accepted
  cases declared : indicators.lookup operator with
  | some spec =>
      rw [declared] at accepted
      exact indicatorNode_rule sound declared accepted
  | none =>
      rw [declared] at accepted
      by_cases isIndicator : operator = "indicator"
      · simp only [if_pos isIndicator] at accepted
        exact libraryNode_rule sound accepted
      · simp only [if_neg isIndicator] at accepted
        refine plainNode_rule sound ?_ accepted
        have notNamed : operator ∉ indicatorOperators := by
          intro named
          have found := lookup_isSome_iff.mpr named
          rw [declared] at found
          cases found
        simp only [seriesOperators, List.mem_append, List.mem_singleton, isPrev, isRolling,
          isValueAt, isIndicator, notNamed, or_false] at member
        simpa only [plainOperators, List.mem_append, List.mem_singleton] using member

end Sound

theorem series_rule {v : Validator F} {depth : Nat} {node : PyValue F} {path : String}
    {checked : Checked F} (accepted : v.series depth node path = .ok checked) :
    SeriesRule v node checked := by
  induction depth generalizing node path checked with
  | zero => cases accepted
  | succ depth ih =>
      cases node with
      | bool value => cases accepted
      | int n =>
          simp only [series, map_eq_ok, floatOfInt, orRaise_eq_ok] at accepted
          obtain ⟨x, finite, rfl⟩ := accepted
          exact .int finite
      | float x =>
          simp only [series] at accepted
          split_ifs at accepted with finite
          · cases Except.ok.inj accepted
            exact .float finite
          · cases accepted
      | str text =>
          simp only [series] at accepted
          split_ifs at accepted with member
          · cases Except.ok.inj accepted
            exact .field member
          · cases accepted
      | dict entries =>
          simp only [series, bind_eq_ok, operatorOf_ok_iff, PyValue.dict.injEq,
            exists_eq_left'] at accepted
          obtain ⟨operator, heads, accepted⟩ := accepted
          have member : operator ∈ seriesOperators := by
            have inHeads := heads ▸ List.mem_singleton_self operator
            simpa using (List.mem_filter.mp inHeads).2
          exact operatorNode_rule (fun inner => ih inner) member accepted
      | _ => cases accepted

end Rules

end QuantFactory.RuleLanguage
