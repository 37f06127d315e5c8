import Mathlib.Data.List.Dedup
import QuantFactory.RuleLanguage.Normalized
import QuantFactory.RuleStrategy.Batch

/-!
# Cache keys

Two settings with the same key for a node agree on every parameter the node
refers to, and two normalized nodes with the same key are the same node.
-/

set_option autoImplicit false

namespace QuantFactory.RuleStrategy

open QuantFactory.Library QuantFactory.Library.MemoStore QuantFactory.Python
  QuantFactory.Persistence QuantFactory.RuleLanguage

variable {F A : Type} [PyFloat F]

/-! ## Settings that agree on a node -/

def SameParameter (first second : Option (PyValue F)) : Prop :=
  first = second ∨ ∃ value other normalized, first = some value ∧ second = some other ∧
    Persistence.normalize value = .ok normalized ∧ Persistence.normalize other = .ok normalized

def Agree (first second : Entries F) (node : PyValue F) : Prop :=
  ∀ name ∈ referencedParameters node, SameParameter (first.lookup name) (second.lookup name)

omit [PyFloat F] in
theorem referenced_entry {entries : Entries F} {key : String} {value : PyValue F}
    (member : (key, value) ∈ entries) {name : String}
    (referenced : name ∈ referencedParameters value) :
    name ∈ referencedParameters (.dict entries) := by
  rw [referencedParameters]
  induction entries with
  | nil => cases member
  | cons entry rest ih =>
      obtain ⟨head, first⟩ := entry
      rw [referencedInEntries]
      rcases List.mem_cons.mp member with same | inRest
      · cases same
        exact List.mem_append_left _ (List.mem_append_right _ referenced)
      · exact List.mem_append_right _ (ih inRest)

omit [PyFloat F] in
theorem referenced_item {items : List (PyValue F)} {item : PyValue F} (member : item ∈ items)
    {name : String} (referenced : name ∈ referencedParameters item) :
    name ∈ referencedParameters (.list items) := by
  rw [referencedParameters]
  induction items with
  | nil => cases member
  | cons first rest ih =>
      rw [referencedInItems]
      rcases List.mem_cons.mp member with rfl | inRest
      · exact List.mem_append_left _ referenced
      · exact List.mem_append_right _ (ih inRest)

omit [PyFloat F] in
theorem referenced_param {entries : Entries F} {name : String}
    (member : ("param", .str name) ∈ entries) : name ∈ referencedParameters (.dict entries) := by
  rw [referencedParameters]
  induction entries with
  | nil => cases member
  | cons entry rest ih =>
      obtain ⟨head, first⟩ := entry
      rw [referencedInEntries]
      rcases List.mem_cons.mp member with same | inRest
      · cases same
        simp [namedParameter, PyValue.text?]
      · exact List.mem_append_right _ (ih inRest)

section Agree
variable {first second : Entries F}

theorem Agree.refl (node : PyValue F) : Agree first first node := fun _ _ => .inl rfl

theorem Agree.member {entries : Entries F}
    (agree : Agree first second (.dict entries)) {entry : String × PyValue F}
    (member : entry ∈ entries) : Agree first second entry.2 := fun name referenced =>
  agree name (referenced_entry member referenced)

theorem Agree.entry {entries : Entries F} (agree : Agree first second (.dict entries))
    {key : String} {value : PyValue F} (found : entries.lookup key = some value) :
    Agree first second value := agree.member (mem_of_lookup found)

theorem Agree.item {items : List (PyValue F)} (agree : Agree first second (.list items))
    {item : PyValue F} (member : item ∈ items) : Agree first second item := fun name referenced =>
  agree name (referenced_item member referenced)

theorem normalize_kind {value normalized : PyValue F} (done : Persistence.normalize value = .ok normalized) :
    normalized = value ∨ (∃ items others, value = .list items ∧ normalized = .list others) ∨
      ∃ entries others, value = .dict entries ∧ normalized = .dict others := by
  cases value with
  | list items =>
      obtain ⟨written, -, rfl⟩ := normalize_list_inv done
      exact .inr (.inl ⟨_, _, rfl, rfl⟩)
  | dict entries =>
      obtain ⟨written, -, rfl⟩ := normalize_dict_inv done
      exact .inr (.inr ⟨_, _, rfl, rfl⟩)
  | float value =>
      unfold Persistence.normalize at done
      split at done
      · exact .inl (Except.ok.inj done).symm
      · cases done
  | _ => exact .inl (Except.ok.inj done).symm

/-- A number is read off a value and off its JSON alike. -/
theorem int_normalize (interpreter : Interpreter F) {value normalized : PyValue F}
    (done : Persistence.normalize value = .ok normalized) :
    interpreter.int value = interpreter.int normalized := by
  rcases normalize_kind done with rfl | ⟨_, _, rfl, rfl⟩ | ⟨_, _, rfl, rfl⟩ <;> rfl

theorem float_normalize (interpreter : Interpreter F) {value normalized : PyValue F}
    (done : Persistence.normalize value = .ok normalized) :
    interpreter.float value = interpreter.float normalized := by
  rcases normalize_kind done with rfl | ⟨_, _, rfl, rfl⟩ | ⟨_, _, rfl, rfl⟩ <;> rfl

variable {bars : SessionBars A F} {interpreter : Interpreter F}

/-- What is read off a parameter of a node is the same in settings that agree on it. -/
theorem parameter_agree {β : Type} {entries : Entries F}
    (agree : Agree first second (.dict entries)) (read : PyValue F → Except EvaluationError β)
    (normal : ∀ {value normalized}, Persistence.normalize value = .ok normalized →
      read value = read normalized) :
    ((bars.located first).parameter entries >>= read) =
      ((bars.withParameters second).parameter entries >>= read) := by
  unfold SessionBars.parameter
  cases found : entries.lookup "param" with
  | none => rfl
  | some value =>
      cases value with
      | str name =>
          have same := agree name (referenced_param (mem_of_lookup found))
          have named : ∀ parameters : Entries F,
              ((do
                let name ← orRaise (some (PyValue.str (F := F) name)) (.keyError "param")
                let name ← orRaise name.text? (.typeError "param")
                orRaise (parameters.lookup name) (.keyError name)) >>= read) =
                (orRaise (parameters.lookup name) (.keyError name) >>= read) := fun _ => rfl
          refine (named first).trans (Eq.trans ?_ (named second).symm)
          rcases same with equal | ⟨value, other, normalized, isFirst, isSecond, left, right⟩
          · rw [equal]
          · rw [isFirst, isSecond]
            exact (normal left).trans (normal right).symm
      | _ => rfl

theorem count_agree {node : PyValue F} (agree : Agree first second node) :
    (bars.located first).count interpreter node =
      (bars.withParameters second).count interpreter node := by
  cases node with
  | dict entries => exact parameter_agree agree interpreter.int (int_normalize interpreter)
  | _ => rfl

theorem amount_agree {node : PyValue F} (agree : Agree first second node) :
    (bars.located first).amount interpreter node =
      (bars.withParameters second).amount interpreter node := by
  cases node with
  | dict entries => exact parameter_agree agree interpreter.float (float_normalize interpreter)
  | _ => rfl

/-! ## Keys -/

/-- `parameters[name]` for every name. -/
def parameterValues (parameters : Entries F) (names : List String) :
    Except EvaluationError (Entries F) :=
  collect (fun name => (orRaise (parameters.lookup name) (.keyError name)).map fun value =>
    (name, value)) names

theorem parameterValues_agree {names : List String}
    (same : ∀ name ∈ names, SameParameter (first.lookup name) (second.lookup name)) :
    (∃ error, parameterValues first names = .error error ∧
      parameterValues second names = .error error) ∨
    ∃ values others, parameterValues first names = .ok values ∧
      parameterValues second names = .ok others ∧
      normalizeEntries values = normalizeEntries others := by
  induction names with
  | nil => exact .inr ⟨[], [], rfl, rfl, rfl⟩
  | cons name rest ih =>
      have restSame := ih fun other member => same other (List.mem_cons_of_mem _ member)
      have cons : ∀ parameters : Entries F,
          parameterValues parameters (name :: rest) = (do
            let value ← (orRaise (parameters.lookup name) (.keyError name)).map fun value =>
              (name, value)
            let others ← parameterValues parameters rest
            .ok (value :: others)) := fun _ => rfl
      rw [cons, cons]
      rcases same name List.mem_cons_self with equal | ⟨value, other, z, isFirst, isSecond, left, right⟩
      · rw [equal]
        cases found : second.lookup name with
        | none => exact .inl ⟨_, rfl, rfl⟩
        | some value =>
            rcases restSame with ⟨error, isLeft, isRight⟩ | ⟨values, others, isLeft, isRight, json⟩
            · exact .inl ⟨error, by rw [isLeft]; rfl, by rw [isRight]; rfl⟩
            · refine .inr ⟨_, _, by rw [isLeft]; rfl, by rw [isRight]; rfl, ?_⟩
              simp only [normalizeEntries, json]
      · rw [isFirst, isSecond]
        rcases restSame with ⟨error, isLeft, isRight⟩ | ⟨values, others, isLeft, isRight, json⟩
        · exact .inl ⟨error, by rw [isLeft]; rfl, by rw [isRight]; rfl⟩
        · refine .inr ⟨_, _, by rw [isLeft]; rfl, by rw [isRight]; rfl, ?_⟩
          simp only [normalizeEntries, json, left, right]

theorem key_agree {kind : NodeKind} {node : PyValue F} (agree : Agree first second node) :
    (bars.located first).key interpreter kind node =
      (bars.withParameters second).key interpreter kind node := by
  have same : ∀ name ∈ (referencedParameters node).dedup.mergeSort fun a b => decide (a ≤ b),
      SameParameter (first.lookup name) (second.lookup name) := by
    intro name member
    exact agree name (List.mem_dedup.mp (List.mem_mergeSort.mp member))
  have unfolded : ∀ parameters : Entries F, ∀ {R : Type} (located : SessionBars R F),
      located.parameters = parameters → located.key interpreter kind node = (do
        let values ← parameterValues parameters
          ((referencedParameters node).dedup.mergeSort fun a b => decide (a ≤ b))
        canonicalRuleSpecJson interpreter (.list [.str kind.text, node, .dict values])) := by
    intro parameters R located isParameters
    subst isParameters
    rfl
  rw [unfolded first _ rfl, unfolded second _ rfl]
  rcases parameterValues_agree same with ⟨error, left, right⟩ | ⟨values, others, left, right, json⟩
  · rw [left, right]
  · rw [left, right, bind_ok, bind_ok]
    simp only [canonicalRuleSpecJson, Persistence.normalize, normalizeItems, json]

end Agree

/-! ## Nodes with the same JSON -/

/-- Two values with the same JSON: they differ in the order of keys at most. -/
def SameJson (value other : PyValue F) : Prop :=
  ∃ normalized, Persistence.normalize value = .ok normalized ∧ Persistence.normalize other = .ok normalized

theorem normalizeItems_same {items others normalized : List (PyValue F)}
    (left : normalizeItems items = .ok normalized) (right : normalizeItems others = .ok normalized) :
    List.Forall₂ SameJson items others := by
  induction items generalizing others normalized with
  | nil =>
      cases Except.ok.inj left
      cases others with
      | nil => exact .nil
      | cons other rest =>
          obtain ⟨_, _, _, _, empty⟩ := normalizeItems_inv right
          cases empty
  | cons item rest ih =>
      obtain ⟨head, tail, isHead, isTail, rfl⟩ := normalizeItems_inv left
      cases others with
      | nil => cases right
      | cons other others =>
          obtain ⟨head', tail', isHead', isTail', same⟩ := normalizeItems_inv right
          obtain ⟨rfl, rfl⟩ := List.cons.inj same
          exact .cons ⟨_, isHead, isHead'⟩ (ih isTail isTail')

theorem normalizeEntries_keys {entries normalized : Entries F}
    (done : normalizeEntries entries = .ok normalized) :
    normalized.map Prod.fst = entries.map Prod.fst := by
  induction entries generalizing normalized with
  | nil =>
      cases Except.ok.inj done
      rfl
  | cons entry rest ih =>
      obtain ⟨key, value⟩ := entry
      obtain ⟨head, tail, isHead, isTail, rfl⟩ := normalizeEntries_inv done
      rw [List.map_cons, List.map_cons, ih isTail]

theorem normalizeEntries_same {entries others left right : Entries F}
    (isLeft : normalizeEntries entries = .ok left) (isRight : normalizeEntries others = .ok right)
    (sorted : left.insertionSort keyLe = right.insertionSort keyLe) :
    EntriesCopied SameJson entries others where
  keys := by
    rw [← normalizeEntries_keys isLeft, ← normalizeEntries_keys isRight]
    refine List.Perm.map Prod.fst ?_
    exact (List.perm_insertionSort keyLe right).symm.trans
      (sorted ▸ List.perm_insertionSort keyLe left)
  values := by
    intro key value found
    have first := lookup_normalizeEntries isLeft key
    have second := lookup_normalizeEntries isRight key
    rw [found] at first
    obtain ⟨field, isField, present⟩ := first
    have same : right.lookup key = some field := by
      rw [← lookup_insertionSort, ← sorted, lookup_insertionSort, present]
    cases isOther : others.lookup key with
    | none =>
        rw [isOther] at second
        have absent : right.lookup key = none := second
        rw [absent] at same
        cases same
    | some other =>
        rw [isOther] at second
        obtain ⟨field', isField', present'⟩ := second
        rw [same] at present'
        cases present'
        exact ⟨other, rfl, field, isField, isField'⟩

theorem sameJson_copies : Copies (SameJson (F := F)) where
  scalar := by
    intro value other same scalar
    obtain ⟨normalized, left, right⟩ := same
    rcases normalize_kind left with rfl | ⟨_, _, rfl, _⟩ | ⟨_, _, rfl, _⟩
    · rcases normalize_kind right with rfl | ⟨_, _, _, rfl⟩ | ⟨_, _, _, rfl⟩
      · rfl
      · cases scalar
      · cases scalar
    · cases scalar
    · cases scalar
  list := by
    intro items other same
    obtain ⟨normalized, left, right⟩ := same
    obtain ⟨written, isWritten, rfl⟩ := normalize_list_inv left
    rcases normalize_kind right with rfl | ⟨others, _, rfl, _⟩ | ⟨_, _, _, other⟩
    · have fixed := normalize_idempotent _ left
      obtain ⟨again, isAgain, same⟩ := normalize_list_inv fixed
      cases same
      exact ⟨_, rfl, normalizeItems_same isWritten isAgain⟩
    · obtain ⟨again, isAgain, same⟩ := normalize_list_inv right
      cases same
      exact ⟨others, rfl, normalizeItems_same isWritten isAgain⟩
    · cases other
  dict := by
    intro entries other same
    obtain ⟨normalized, left, right⟩ := same
    obtain ⟨written, isWritten, rfl⟩ := normalize_dict_inv left
    rcases normalize_kind right with rfl | ⟨_, _, _, other⟩ | ⟨others, _, rfl, _⟩
    · obtain ⟨again, isAgain, same⟩ := normalize_dict_inv right
      exact ⟨_, rfl, normalizeEntries_same isWritten isAgain (PyValue.dict.inj same)⟩
    · cases other
    · obtain ⟨again, isAgain, same⟩ := normalize_dict_inv right
      exact ⟨others, rfl, normalizeEntries_same isWritten isAgain (PyValue.dict.inj same)⟩

/-! ## Accepted nodes -/

variable {v : Validator F}

variable (v) in
def Admissible : NodeKind → PyValue F → Prop
  | .series, node => ∃ original checked, SeriesRule v original checked ∧ checked.node = node
  | .condition, node => ∃ original checked, ConditionRule v original checked ∧ checked.node = node
  | .distance, node =>
      ∃ stop original checked, DistanceRule v stop original checked ∧ checked.node = node
  | .sides, node => ∃ signals : List (Checked F),
      (∀ signal ∈ signals, ∃ original, SignalRule v original signal) ∧
        .list (signals.map Checked.node) = node

/-- Two normalized nodes with the same JSON that a check takes back are equal. -/
theorem copied_unique {check : Nat → Check F} {checked other : Checked F}
    (left : CheckCopied check SameJson checked) (right : CheckCopied check Eq other)
    (same : SameJson checked.node other.node) : checked = other := by
  have depth := Nat.le_max_left checked.node.depth other.node.depth
  have depth' := Nat.le_max_right checked.node.depth other.node.depth
  have first := left other.node same _ "" depth
  have second := right other.node rfl _ "" depth'
  rw [first] at second
  exact Except.ok.inj second

theorem series_check_copied {copy : PyValue F → PyValue F → Prop} (copies : Copies copy)
    {node : PyValue F} {checked : Checked F} (rule : SeriesRule v node checked) :
    CheckCopied v.series copy checked := series_copied copies rule

theorem stopOnlyDistance_stop {depth : Nat} {kind stop stop' path : String}
    {stops : List String} {value : PyValue F} {checked other : Checked F}
    (left : v.stopOnlyDistance depth kind stop stops value path = .ok checked)
    (right : v.stopOnlyDistance depth kind stop' stops value path = .ok other) :
    checked = other := by
  simp only [Validator.stopOnlyDistance, bind_eq_ok] at left right
  obtain ⟨_, _, left⟩ := left
  obtain ⟨_, _, right⟩ := right
  rw [left] at right
  exact Except.ok.inj right

theorem distance_stop {depth : Nat} {stop stop' path : String} {node : PyValue F}
    {checked other : Checked F} (left : v.distance depth stop node path = .ok checked)
    (right : v.distance depth stop' node path = .ok other) : checked = other := by
  simp only [Validator.distance, bind_eq_ok] at left right
  obtain ⟨kind, isKind, entries, isEntries, value, isValue, valueOk, left, isChecked⟩ := left
  obtain ⟨kind', isKind', entries', isEntries', value', isValue', valueOk', right,
    isOther⟩ := right
  rw [isKind] at isKind'
  cases isKind'
  rw [isEntries] at isEntries'
  cases isEntries'
  rw [isValue] at isValue'
  cases isValue'
  have same : valueOk = valueOk' := by
    unfold Validator.distanceValue at left right
    cases only : stopOnlyKinds.lookup kind with
    | some stops =>
        rw [only] at left right
        exact stopOnlyDistance_stop left right
    | none =>
        rw [only] at left right
        exact Except.ok.inj (left.symm.trans right)
  subst same
  cases isChecked
  cases isOther
  rfl

theorem signals_unique {signals others : List (Checked F)}
    (rules : ∀ signal ∈ signals, ∃ original, SignalRule v original signal)
    (otherRules : ∀ signal ∈ others, ∃ original, SignalRule v original signal)
    (same : List.Forall₂ SameJson (signals.map Checked.node) (others.map Checked.node)) :
    signals = others := by
  rw [List.forall₂_map_left_iff, List.forall₂_map_right_iff] at same
  induction same with
  | nil => rfl
  | @cons signal other signals others first _ ih =>
      obtain ⟨_, rule⟩ := rules signal List.mem_cons_self
      obtain ⟨_, otherRule⟩ := otherRules other List.mem_cons_self
      have head := copied_unique (signal_copied sameJson_copies rule)
        (signal_copied copies_eq otherRule) first
      have tail := ih (fun _ member => rules _ (List.mem_cons_of_mem _ member))
        (fun _ member => otherRules _ (List.mem_cons_of_mem _ member))
      rw [head, tail]

/-- Two nodes of one kind with the same JSON are one node. -/
theorem Admissible.unique {kind : NodeKind} {node other : PyValue F}
    (left : Admissible v kind node) (right : Admissible v kind other)
    (same : SameJson node other) : node = other := by
  cases kind with
  | series =>
      obtain ⟨_, checked, rule, rfl⟩ := left
      obtain ⟨_, checked', rule', rfl⟩ := right
      rw [copied_unique (series_check_copied sameJson_copies rule)
        (series_check_copied copies_eq rule') same]
  | condition =>
      obtain ⟨_, checked, rule, rfl⟩ := left
      obtain ⟨_, checked', rule', rfl⟩ := right
      rw [copied_unique (condition_copied sameJson_copies rule)
        (condition_copied copies_eq rule') same]
  | distance =>
      obtain ⟨stop, _, checked, rule, rfl⟩ := left
      obtain ⟨stop', _, checked', rule', rfl⟩ := right
      have depth := Nat.le_max_left checked.node.depth checked'.node.depth
      have depth' := Nat.le_max_right checked.node.depth checked'.node.depth
      have first := distance_copied sameJson_copies rule checked'.node same _ "" depth
      have second := distance_copied copies_eq rule' checked'.node rfl _ "" depth'
      rw [distance_stop first second]
  | sides =>
      obtain ⟨signals, rules, rfl⟩ := left
      obtain ⟨others, otherRules, rfl⟩ := right
      obtain ⟨_, isList, each⟩ := sameJson_copies.list same
      cases isList
      rw [signals_unique rules otherRules each]

/-! ## What a key says -/

omit [PyFloat F] in
theorem parameterValues_lookup {parameters values : Entries F}
    {names : List String} (done : parameterValues parameters names = .ok values) {name : String}
    (member : name ∈ names) :
    ∃ value, parameters.lookup name = some value ∧ values.lookup name = some value := by
  induction names generalizing values with
  | nil => cases member
  | cons first rest ih =>
      simp only [parameterValues, collect, bind_eq_ok, map_eq_ok, orRaise_eq_ok] at done
      obtain ⟨_, ⟨value, found, rfl⟩, others, isOthers, isValues⟩ := done
      cases isValues
      by_cases same : name = first
      · subst same
        exact ⟨value, found, by simp⟩
      · have inRest := (List.mem_cons.mp member).resolve_left same
        obtain ⟨value', found', present⟩ := ih isOthers inRest
        have differs : (name == first) = false := by simpa using same
        exact ⟨value', found', by simpa only [List.lookup_cons, differs] using present⟩

theorem NodeKind.text_inj {kind other : NodeKind} (same : kind.text = other.text) :
    kind = other := by
  have injective : ∀ kind ∈ [NodeKind.series, .condition, .distance, .sides],
      ∀ other ∈ [NodeKind.series, .condition, .distance, .sides],
        kind.text = other.text → kind = other := by decide
  have all : ∀ kind : NodeKind, kind ∈ [NodeKind.series, .condition, .distance, .sides] := by
    intro kind
    cases kind <;> decide
  exact injective kind (all kind) other (all other) same

/-- Equal keys belong to one kind and one JSON, and to settings that agree on the node. -/
theorem key_injective {R S : Type} {interpreter : Interpreter F}
    (json : ∀ value other, Persistence.normalize value = .ok value → Persistence.normalize other = .ok other →
      interpreter.jsonDumps value = interpreter.jsonDumps other → value = other)
    {bars : SessionBars R F} {bars' : SessionBars S F} {kind kind' : NodeKind}
    {node node' : PyValue F} {key : String} (left : bars.key interpreter kind node = .ok key)
    (right : bars'.key interpreter kind' node' = .ok key) :
    kind = kind' ∧ SameJson node node' ∧
      (node = node' → Agree bars.parameters bars'.parameters node) := by
  have canonical : ∀ {value : PyValue F}, canonicalRuleSpecJson interpreter value = .ok key →
      ∃ normalized, Persistence.normalize value = .ok normalized ∧ interpreter.jsonDumps normalized = key := by
    intro value done
    unfold canonicalRuleSpecJson at done
    split at done
    · cases done
    · rename_i normalized isNormalized
      exact ⟨normalized, isNormalized, Except.ok.inj done⟩
  simp only [SessionBars.key, bind_eq_ok] at left right
  obtain ⟨values, isValues, left⟩ := left
  obtain ⟨values', isValues', right⟩ := right
  obtain ⟨normalized, isNormalized, text⟩ := canonical left
  obtain ⟨normalized', isNormalized', text'⟩ := canonical right
  have one : normalized = normalized' := json _ _ (normalize_idempotent _ isNormalized)
    (normalize_idempotent _ isNormalized') (text.trans text'.symm)
  subst one
  obtain ⟨_, isList, each⟩ := sameJson_copies.list ⟨normalized, isNormalized, isNormalized'⟩
  cases isList
  obtain ⟨kindSame, nodeSame, valuesSame, _⟩ := by simpa only [List.forall₂_cons] using each
  have kinds := NodeKind.text_inj (PyValue.str.inj (sameJson_copies.scalar kindSame rfl)).symm
  refine ⟨kinds, nodeSame, ?_⟩
  rintro rfl name referenced
  obtain ⟨_, isDict, copied⟩ := sameJson_copies.dict valuesSame
  cases isDict
  have member : name ∈ (referencedParameters node).dedup.mergeSort fun a b => decide (a ≤ b) :=
    List.mem_mergeSort.mpr (List.mem_dedup.mpr referenced)
  obtain ⟨value, found, present⟩ := parameterValues_lookup isValues member
  obtain ⟨other, found', present'⟩ := parameterValues_lookup isValues' member
  obtain ⟨other', isOther, normalized, first, second⟩ := copied.values name value present
  rw [present'] at isOther
  cases isOther
  exact .inr ⟨value, other, normalized, found, found', first, second⟩

end QuantFactory.RuleStrategy
