import Mathlib
import QuantFactory.RuleLanguage.Normalized

/-!
# The elements of a normalized document

`_check_size` counts the elements of a document before the checks write what it leaves out.
The normalized copy has the elements of the document and those of its left-out entries, on no
more levels.
-/

set_option autoImplicit false

namespace QuantFactory.RuleLanguage

open QuantFactory.Library QuantFactory.Python Validator

variable {F : Type}

/-! ## The limits on a document -/

theorem size_eq (value : PyValue F) : value.size = 1 + (value.children.map PyValue.size).sum := by
  have items : ∀ values : List (PyValue F),
      PyValue.sizeItems values = (values.map PyValue.size).sum := by
    intro values
    induction values with
    | nil => rfl
    | cons value rest ih => rw [PyValue.sizeItems, ih, List.map_cons, List.sum_cons]
  have entries : ∀ values : Entries F,
      PyValue.sizeEntries values = ((values.map Prod.snd).map PyValue.size).sum := by
    intro values
    induction values with
    | nil => rfl
    | cons entry rest ih =>
        rw [PyValue.sizeEntries, ih, List.map_cons, List.map_cons, List.sum_cons]
  cases value with
  | list values => rw [PyValue.size, items]; rfl
  | dict values => rw [PyValue.size, entries]; rfl
  | _ => rfl

theorem depth_le_succ_iff {value : PyValue F} {bound : Nat} :
    value.depth ≤ bound + 1 ↔ ∀ child ∈ value.children, child.depth ≤ bound := by
  cases value with
  | list items =>
      constructor
      · intro within child member
        exact depth_item within member
      · intro each
        have inside : PyValue.depthItems items ≤ bound := depthItems_le each
        rw [PyValue.depth]
        omega
  | dict entries =>
      constructor
      · intro within child member
        obtain ⟨entry, inEntries, rfl⟩ := List.mem_map.mp member
        exact depth_entry within inEntries
      · intro each
        have inside : PyValue.depthEntries entries ≤ bound :=
          depthEntries_le fun entry member => each _ (List.mem_map_of_mem member)
        rw [PyValue.depth]
        omega
  | _ => exact iff_of_true (Nat.le_add_left 1 bound) fun child member => absurd member List.not_mem_nil

/-- The walk over the elements of a document passes when the stack holds few enough of them, none
of them too deep. -/
theorem checkSizeLoop_ok_iff {allowance : Nat} {stack : List (PyValue F × Nat)} :
    checkSizeLoop allowance stack = .ok () ↔ (stack.map fun entry => entry.1.size).sum ≤ allowance ∧
      ∀ entry ∈ stack, entry.1.depth + entry.2 ≤ maxRuleDepth + 1 := by
  induction allowance generalizing stack with
  | zero =>
      cases stack with
      | nil => simp [checkSizeLoop]
      | cons entry rest =>
          refine iff_of_false (by simp [checkSizeLoop, ruleSpecError]) fun both => ?_
          have filled := both.1
          rw [List.map_cons, List.sum_cons, size_eq] at filled
          omega
  | succ allowance ih =>
      cases stack with
      | nil => simp [checkSizeLoop]
      | cons entry rest =>
          obtain ⟨value, depth⟩ := entry
          rw [checkSizeLoop]
          by_cases deep : maxRuleDepth < depth
          · rw [if_pos deep]
            refine iff_of_false (by simp [ruleSpecError]) fun both => ?_
            have here := both.2 _ List.mem_cons_self
            have positive := depth_pos value
            dsimp only at here
            omega
          · rw [if_neg deep, ih]
            have sizes : value.size = 1 + (value.children.map fun child => child.size).sum :=
              size_eq value
            have depths : value.depth + depth ≤ maxRuleDepth + 1 ↔
                ∀ child ∈ value.children, child.depth + (depth + 1) ≤ maxRuleDepth + 1 := by
              obtain ⟨left, isLeft⟩ := Nat.exists_eq_add_of_le (not_lt.mp deep)
              have shifted : value.depth + depth ≤ maxRuleDepth + 1 ↔ value.depth ≤ left + 1 := by
                omega
              rw [shifted, depth_le_succ_iff]
              exact forall₂_congr fun child _ => by omega
            refine and_congr ?_ ?_
            · simp only [List.map_append, List.map_map, List.sum_append, List.map_cons,
                List.sum_cons, Function.comp_def, List.map_reverse, List.sum_reverse]
              omega
            · simp only [List.forall_mem_append, List.forall_mem_cons, List.forall_mem_map,
                List.mem_reverse, depths]

theorem checkSize_ok_iff {document : PyValue F} : checkSize document = .ok () ↔
    document.size ≤ maxRuleNodes ∧ document.depth ≤ maxRuleDepth := by
  rw [checkSize, checkSizeLoop_ok_iff]
  simp

/-! ## Distinct keys -/

mutual

/-- A `dict` of Python has each of its keys once. -/
def distinctKeys : PyValue F → Bool
  | .list items => distinctKeysItems items
  | .dict entries => decide (entries.map Prod.fst).Nodup && distinctKeysEntries entries
  | _ => true

def distinctKeysItems : List (PyValue F) → Bool
  | [] => true
  | item :: rest => distinctKeys item && distinctKeysItems rest

def distinctKeysEntries : List (String × PyValue F) → Bool
  | [] => true
  | (_, value) :: rest => distinctKeys value && distinctKeysEntries rest

end

theorem distinctKeys_item {items : List (PyValue F)}
    (distinct : distinctKeys (.list items) = true) {item : PyValue F} (member : item ∈ items) :
    distinctKeys item = true := by
  rw [distinctKeys] at distinct
  induction items with
  | nil => cases member
  | cons first rest ih =>
      rw [distinctKeysItems, Bool.and_eq_true] at distinct
      rcases List.mem_cons.mp member with rfl | later
      · exact distinct.1
      · exact ih distinct.2 later

theorem distinctKeys_entry {entries : Entries F}
    (distinct : distinctKeysEntries entries = true) {entry : String × PyValue F}
    (member : entry ∈ entries) : distinctKeys entry.2 = true := by
  induction entries with
  | nil => cases member
  | cons first rest ih =>
      rw [distinctKeysEntries, Bool.and_eq_true] at distinct
      rcases List.mem_cons.mp member with rfl | later
      · exact distinct.1
      · exact ih distinct.2 later

section Dict
variable {entries : Entries F} (distinct : distinctKeys (.dict entries) = true)
include distinct

theorem distinctKeys_nodup : (entries.map Prod.fst).Nodup := by
  rw [distinctKeys, Bool.and_eq_true] at distinct
  exact of_decide_eq_true distinct.1

theorem distinctKeys_lookup {key : String} {value : PyValue F}
    (found : entries.lookup key = some value) : distinctKeys value = true := by
  rw [distinctKeys, Bool.and_eq_true] at distinct
  exact distinctKeys_entry distinct.2 (mem_of_lookup found)

end Dict

/-! ## Counting an object by its keys -/

theorem sum_entries_eq (count : String → PyValue F → Nat) {entries : Entries F}
    (distinct : (entries.map Prod.fst).Nodup) {keys : List String} (nodup : keys.Nodup)
    (known : ∀ key ∈ entries.map Prod.fst, key ∈ keys) :
    (entries.map fun entry => count entry.1 entry.2).sum =
      (keys.map fun key => (entries.lookup key).elim 0 (count key)).sum := by
  induction entries generalizing keys with
  | nil => simp
  | cons entry rest ih =>
      obtain ⟨head, value⟩ := entry
      rw [List.map_cons, List.nodup_cons] at distinct
      have here : head ∈ keys := known head List.mem_cons_self
      have others : ∀ key ∈ rest.map Prod.fst, key ∈ keys.erase head := by
        intro key member
        have differs : key ≠ head := by
          rintro rfl
          exact distinct.1 member
        exact (List.mem_erase_of_ne differs).mpr (known key (List.mem_cons_of_mem _ member))
      have same : ∀ key ∈ keys.erase head,
          (((head, value) :: rest).lookup key).elim 0 (count key) =
            (rest.lookup key).elim 0 (count key) := by
        intro key member
        have other : (key == head) = false := by
          simpa using ((List.Nodup.mem_erase_iff nodup).mp member).1
        rw [List.lookup_cons, other]
      rw [((List.perm_cons_erase here).map _).sum_nat, List.map_cons, List.map_cons, List.sum_cons,
        List.sum_cons, ih distinct.2 (nodup.erase head) others, List.map_congr_left same]
      simp

/-! ## The elements with the left-out entries -/

/-- The operators whose object is given `across_sessions`. -/
def acrossOperators : List String := rollingOperators ++ indicatorOperators ++ ["indicator"]

def writtenKeys (keys : List String) : List String :=
  (if keys.any (· ∈ acrossOperators) then ["across_sessions"] else []) ++
    if "indicator" ∈ keys then ["inputs", "output"] else []

def leftOut (keys : List String) : Nat := ((writtenKeys keys).filter (· ∉ keys)).length

mutual

/-- The elements of a rule with its left-out entries.  The parameters of a library indicator are
no rules, whatever their names. -/
def elements : PyValue F → Nat
  | .list items => 1 + elementsOfItems items
  | .dict entries => 1 + leftOut (entries.map Prod.fst) + elementsOfEntries entries
  | _ => 1

def elementsOfItems : List (PyValue F) → Nat
  | [] => 0
  | item :: rest => elements item + elementsOfItems rest

def elementsOfEntries : List (String × PyValue F) → Nat
  | [] => 0
  | (key, value) :: rest =>
      (if key = "params" then value.size else elements value) + elementsOfEntries rest

end

def elementsAt (entries : Entries F) (key : String) : Nat :=
  (entries.lookup key).elim 0 fun value => if key = "params" then value.size else elements value

section Count
variable {entries : Entries F} {required optional : List String}

theorem elementsAt_some {key : String} {value : PyValue F} (found : entries.lookup key = some value)
    (rule : key ≠ "params") : elementsAt entries key = elements value := by
  rw [elementsAt, found, Option.elim_some, if_neg rule]

theorem elementsAt_none {key : String} (absent : entries.lookup key = none) :
    elementsAt entries key = 0 := by
  rw [elementsAt, absent, Option.elim_none]

theorem elements_scalar {value : PyValue F} (scalar : value.isScalar = true) :
    elements value = 1 ∧ value.size = 1 := by
  cases value with
  | list items => cases scalar
  | dict entries => cases scalar
  | _ => simp [elements, PyValue.size]

theorem elements_str (text : String) : elements (F := F) (.str text) = 1 := (elements_scalar rfl).1

theorem elements_dict (distinct : distinctKeys (.dict entries) = true) {keys : List String}
    (nodup : keys.Nodup) (known : ∀ key ∈ entries.map Prod.fst, key ∈ keys) :
    elements (.dict entries) =
      1 + leftOut (entries.map Prod.fst) + (keys.map (elementsAt entries)).sum := by
  have counted : elementsOfEntries entries = (entries.map fun entry =>
      if entry.1 = "params" then entry.2.size else elements entry.2).sum := by
    clear distinct known
    induction entries with
    | nil => rfl
    | cons entry rest ih => rw [elementsOfEntries, ih, List.map_cons, List.sum_cons]
  rw [elements, counted, sum_entries_eq (fun key value =>
    if key = "params" then value.size else elements value) (distinctKeys_nodup distinct) nodup known]
  rfl

theorem size_dict (distinct : distinctKeys (.dict entries) = true) {keys : List String}
    (nodup : keys.Nodup) (known : ∀ key ∈ entries.map Prod.fst, key ∈ keys) :
    (PyValue.dict entries).size =
      1 + (keys.map fun key => (entries.lookup key).elim 0 PyValue.size).sum := by
  have counted := sum_entries_eq (fun _ value => value.size) (distinctKeys_nodup distinct) nodup known
  rw [size_eq, PyValue.children, List.map_map, ← counted]
  rfl

theorem leftOut_plain {keys : List String} (plain : ∀ key ∈ keys, key ∉ acrossOperators) :
    leftOut keys = 0 := by
  have none : keys.any (· ∈ acrossOperators) = false := by simpa using plain
  have unnamed : "indicator" ∉ keys := fun member => plain _ member (by simp [acrossOperators])
  rw [leftOut, writtenKeys, none, if_neg unnamed]
  rfl

theorem elements_plain (distinct : distinctKeys (.dict entries) = true)
    (keys : HasKeys entries required optional) (nodup : (required ++ optional).Nodup)
    (plain : ∀ key ∈ required ++ optional, key ∉ acrossOperators) :
    elements (.dict entries) = 1 + ((required ++ optional).map (elementsAt entries)).sum := by
  rw [elements_dict distinct nodup keys.allowed,
    leftOut_plain fun key member => plain key (keys.allowed key member)]

theorem elements_single (distinct : distinctKeys (.dict entries) = true) {key : String}
    {value : PyValue F} (keys : HasKeys entries [key] []) (found : entries.lookup key = some value)
    (plain : key ∉ acrossOperators) (rule : key ≠ "params") :
    elements (.dict entries) = 1 + elements value := by
  rw [elements_plain distinct keys (by simp) (by simpa using plain)]
  simp [elementsAt_some found rule]

theorem sizeEntries_append (first second : Entries F) :
    PyValue.sizeEntries (first ++ second) =
      PyValue.sizeEntries first + PyValue.sizeEntries second := by
  induction first with
  | nil => simp [PyValue.sizeEntries]
  | cons entry rest ih =>
      rw [List.cons_append, PyValue.sizeEntries, ih, PyValue.sizeEntries, Nat.add_assoc]

theorem sizeEntries_checked (checked : List (String × Checked F)) :
    PyValue.sizeEntries (checkedEntries checked) =
      (checked.map fun entry => entry.2.node.size).sum := by
  induction checked with
  | nil => rfl
  | cons entry rest ih =>
      rw [List.map_cons, List.sum_cons, ← ih]
      rfl

end Count

/-! ## Series -/

section Series
variable [PyFloat F] {v : Validator F} {node : PyValue F} {checked : Checked F}

/-- The copy of a number, or of the object that names a variable, has its elements. -/
theorem numeric_elements {check : ParamCheck} (rule : NumericRule v check node checked)
    (distinct : distinctKeys node = true) :
    checked.node.size = elements node ∧ checked.node.size = node.size := by
  cases rule with
  | literal plain accepted =>
      obtain ⟨one, same⟩ := elements_scalar (accepts_scalar accepted)
      exact ⟨same.trans one.symm, rfl⟩
  | @parameter entries name keys found declared =>
      have single := elements_single distinct keys found (by decide) (by decide)
      have sized := size_dict distinct (by simp) keys.allowed
      have name : elements (F := F) (.str name) = 1 := (elements_scalar rfl).1
      rw [single, sized, name]
      simp [PyValue.size, PyValue.sizeEntries, found]

/-- The copy of an `atr` object has its elements: its flag is written only where it is given. -/
theorem atr_elements (rule : AtrRule v node checked) (distinct : distinctKeys node = true) :
    checked.node.size = elements node := by
  obtain ⟨keys, flag, found, count, choice⟩ := rule
  rename_i entries smoothing across length lengthOk
  have sameLength := (numeric_elements count (distinctKeys_lookup distinct found)).1
  have sameFlag : PyValue.sizeEntries (acrossEntry entries across) =
      elementsAt entries "across_sessions" := by
    rcases flag with given | ⟨absent, rfl⟩
    · rw [elementsAt_some given (by decide), (elements_scalar rfl).1, acrossEntry, given]
      rfl
    · rw [elementsAt_none absent, acrossEntry, absent]
      rfl
  have sameChoice : PyValue.sizeEntries smoothing = elementsAt entries "smoothing" := by
    rcases choice with ⟨text, _, given, rfl⟩ | ⟨absent, _, rfl⟩
    · rw [elementsAt_some given (by decide), (elements_scalar rfl).1]
      rfl
    · rw [elementsAt_none absent]
      rfl
  rw [elements_plain distinct keys (by decide) (by decide)]
  simp only [List.cons_append, List.nil_append, List.map_cons, List.map_nil, List.sum_cons,
    List.sum_nil, elementsAt_some found (by decide : "length" ≠ "params"), ← sameLength, ← sameFlag,
    ← sameChoice, PyValue.size, PyValue.sizeEntries, sizeEntries_append, acrossEntry]
  omega

omit [PyFloat F] in
theorem plain_unfilled {operator : String} (member : operator ∈ plainOperators) :
    operator ∉ acrossOperators ∧ operator ≠ "params" := by
  have known : ∀ operator ∈ plainOperators, operator ∉ acrossOperators ∧ operator ≠ "params" := by
    decide
  exact known operator member

omit [PyFloat F] in
theorem size_single {key : String} {value : PyValue F} :
    (PyValue.dict [(key, value)]).size = 1 + value.size := by
  simp [PyValue.size, PyValue.sizeEntries]

omit [PyFloat F] in
theorem operator_elements {entries : Entries F} {operator : String}
    {value written : PyValue F} (distinct : distinctKeys (.dict entries) = true)
    (keys : HasKeys entries [operator] []) (found : entries.lookup operator = some value)
    (plain : operator ∉ acrossOperators) (rule : operator ≠ "params")
    (operand : written.size = elements value) :
    (PyValue.dict [(operator, written)]).size = elements (.dict entries) := by
  rw [size_single, operand, elements_single distinct keys found plain rule]

omit [PyFloat F] in
theorem elements_pair {left right : PyValue F} :
    elements (.list [left, right]) = 1 + elements left + elements right := by
  simp [elements, elementsOfItems, Nat.add_assoc]

omit [PyFloat F] in
theorem size_pair {left right : PyValue F} :
    (PyValue.list [left, right]).size = 1 + left.size + right.size := by
  simp [PyValue.size, PyValue.sizeItems, Nat.add_assoc]

/-! ### Left-out entries -/

def missing (keys : List String) (key : String) : Nat := if key ∈ keys then 0 else 1

omit [PyFloat F] in
theorem missing_some {entries : Entries F} {key : String} {value : PyValue F}
    (found : entries.lookup key = some value) : missing (entries.map Prod.fst) key = 0 :=
  if_pos (lookup_isSome_iff.mp (by rw [found]; rfl))

omit [PyFloat F] in
theorem missing_none {entries : Entries F} {key : String}
    (absent : entries.lookup key = none) : missing (entries.map Prod.fst) key = 1 := by
  refine if_neg fun member => ?_
  rw [← lookup_isSome_iff, absent] at member
  cases member

theorem leftOut_eq_sum (keys : List String) :
    leftOut keys = ((writtenKeys keys).map (missing keys)).sum := by
  rw [leftOut]
  induction writtenKeys keys with
  | nil => rfl
  | cons key rest ih =>
      rw [List.map_cons, List.sum_cons, ← ih, missing]
      by_cases member : key ∈ keys
      · simp [member]
      · simp [member, Nat.add_comm]

omit [PyFloat F] in
theorem flag_elements {entries : Entries F} {across : Bool}
    (flag : FlagIs entries "across_sessions" across) :
    missing (entries.map Prod.fst) "across_sessions" + elementsAt entries "across_sessions" = 1 := by
  rcases flag with given | ⟨absent, rfl⟩
  · rw [missing_some given, elementsAt_some given (by decide), (elements_scalar rfl).1]
  · rw [missing_none absent, elementsAt_none absent]

omit [PyFloat F] in
theorem leftOut_across {entries : Entries F} {operator : String}
    (member : operator ∈ entries.map Prod.fst) (filled : operator ∈ acrossOperators)
    (named : "indicator" ∉ entries.map Prod.fst) :
    leftOut (entries.map Prod.fst) = missing (entries.map Prod.fst) "across_sessions" := by
  have some : (entries.map Prod.fst).any (· ∈ acrossOperators) = true :=
    List.any_eq_true.mpr ⟨operator, member, by simpa using filled⟩
  rw [leftOut_eq_sum, writtenKeys, some, if_pos rfl, if_neg named]
  simp

omit [PyFloat F] in
theorem leftOut_library {entries : Entries F}
    (named : "indicator" ∈ entries.map Prod.fst) :
    leftOut (entries.map Prod.fst) = missing (entries.map Prod.fst) "across_sessions" +
      missing (entries.map Prod.fst) "inputs" + missing (entries.map Prod.fst) "output" := by
  have some : (entries.map Prod.fst).any (· ∈ acrossOperators) = true :=
    List.any_eq_true.mpr ⟨"indicator", named, by decide⟩
  rw [leftOut_eq_sum, writtenKeys, some, if_pos rfl, if_pos named]
  simp [Nat.add_assoc]

theorem params_elements {Kind : Type} {check : Kind → ParamCheck}
    {entries : Entries F} {declared : List (String × Kind)}
    {params : List (String × Checked F)} (rule : ParamsRule v check entries declared params)
    (distinct : distinctKeys (.dict entries) = true) :
    (params.map fun param => param.2.node.size) =
        declared.map (fun entry => (entries.lookup entry.1).elim 0 PyValue.size) ∧
      ((∀ entry ∈ declared, entry.1 ≠ "params") → (params.map fun param => param.2.node.size) =
        declared.map fun entry => elementsAt entries entry.1) := by
  unfold ParamsRule at rule
  induction rule with
  | nil => exact ⟨rfl, fun _ => rfl⟩
  | @cons entry param declared params first rest ih =>
      obtain ⟨value, found, _, numeric⟩ := first
      obtain ⟨same, size⟩ := numeric_elements numeric (distinctKeys_lookup distinct found)
      refine ⟨?_, fun plain => ?_⟩
      · rw [List.map_cons, List.map_cons, ih.1, found, Option.elim_some, size]
      · rw [List.map_cons, List.map_cons, ih.2 fun entry member =>
          plain entry (List.mem_cons_of_mem _ member),
          elementsAt_some found (plain entry List.mem_cons_self), same]

omit [PyFloat F] in
theorem indicator_keys {operator : String} {spec : IndicatorSpec}
    (declared : indicators.lookup operator = some spec) :
    operator ∈ acrossOperators ∧ operator ≠ "params" ∧ "indicator" ∉ indicatorKeys operator spec ∧
      ∀ entry ∈ spec.params, entry.1 ≠ "params" := by
  have known : ∀ entry ∈ indicators, entry.1 ∈ acrossOperators ∧ entry.1 ≠ "params" ∧
      "indicator" ∉ indicatorKeys entry.1 entry.2 ∧
      ∀ param ∈ entry.2.params, param.1 ≠ "params" := by decide +kernel
  exact known (operator, spec) (mem_of_lookup declared)

theorem libraryIndicator_inputs {vbt : Option (VectorBT F)} {name : String}
    {spec : LibraryIndicator} (declared : libraryIndicator vbt name = some spec) :
    spec.inputs.Nodup ∧ ∀ input ∈ spec.inputs, input ∈ priceInputs := by
  simp only [libraryIndicator, Option.bind_eq_bind, Option.bind_eq_some_iff, Option.pure_def,
    Option.some.injEq] at declared
  obtain ⟨_, _, _, _, _, _, cls, _, _, _, _, _, _, prices, _, _, rfl⟩ := declared
  refine ⟨cls.inputNames_nodup, ?_⟩
  simpa [guard] using prices

omit [PyFloat F] in
theorem sum_present (entries : Entries F) (keys : List String) :
    (keys.map (elementsAt entries)).sum =
      ((keys.filter fun key => (entries.lookup key).isSome).map (elementsAt entries)).sum := by
  induction keys with
  | nil => rfl
  | cons key rest ih =>
      rw [List.map_cons, List.sum_cons, ih]
      cases found : entries.lookup key with
      | none => simp [found, elementsAt_none found]
      | some value => simp [found]

omit [PyFloat F] in
theorem inputs_elements {entries inputEntries : Entries F} {names : List String}
    {operandOk : String → Checked F} (distinct : distinctKeys (.dict entries) = true)
    (nodup : names.Nodup) (prices : ∀ name ∈ names, name ∈ priceInputs)
    (found : (entries.lookup "inputs").getD (.dict []) = .dict inputEntries)
    (keys : HasKeys inputEntries [] names)
    (same : ∀ key ∈ names.filter (fun key => (inputEntries.lookup key).isSome),
      distinctKeys (.dict inputEntries) = true →
        (operandOk key).node.size = elementsAt inputEntries key) :
    1 + ((names.filter fun key => (inputEntries.lookup key).isSome).map
        fun key => (operandOk key).node.size).sum =
      missing (entries.map Prod.fst) "inputs" + elementsAt entries "inputs" := by
  have plain : ∀ name ∈ priceInputs, name ∉ acrossOperators := by decide
  cases given : entries.lookup "inputs" with
  | none =>
      rw [given] at found
      cases found
      rw [missing_none given, elementsAt_none given]
      simp
  | some value =>
      rw [given, Option.getD_some] at found
      subst found
      have inside := distinctKeys_lookup distinct given
      rw [missing_some given, elementsAt_some given (by decide), elements_plain inside keys nodup
        fun name member => plain name (prices name member), List.nil_append, sum_present,
        List.map_congr_left fun key member => same key member inside, Nat.zero_add]

omit [PyFloat F] in
theorem output_elements {spec : IndicatorSpec} {entries output : Entries F}
    (choice : outputChoice spec.outputs entries output) :
    PyValue.sizeEntries output = ((outputKeys spec).map (elementsAt entries)).sum := by
  unfold outputChoice at choice
  unfold outputKeys
  split at choice
  · rename_i none
    rw [if_pos none, choice]
    rfl
  · rename_i several
    rw [if_neg several]
    rcases choice with ⟨text, _, given, rfl⟩ | ⟨_, optional, _⟩
    · simp [elementsAt_some given, elements, PyValue.size, PyValue.sizeEntries]
    · cases optional

omit [PyFloat F] in
theorem libraryOutput_elements {spec : LibraryIndicator} {entries : Entries F} {output : String}
    (outputIs : LibraryOutputIs spec entries output) :
    missing (entries.map Prod.fst) "output" + elementsAt entries "output" = 1 := by
  rcases outputIs.2 with given | ⟨absent, _⟩
  · rw [missing_some given, elementsAt_some given (by decide), (elements_scalar rfl).1]
  · rw [missing_none absent, elementsAt_none absent]

theorem libraryParams_elements {spec : LibraryIndicator} {name : String} {across : Bool}
    {entries paramEntries : Entries F} {params : List (String × Checked F)}
    (declared : libraryIndicator v.runtime.vbt name = some spec)
    (found : entries.lookup "params" = some (.dict paramEntries))
    (keys : HasKeys paramEntries (spec.params.map Prod.fst) [])
    (rules : ParamsRule v (libraryCheck v across) paramEntries spec.params params)
    (distinct : distinctKeys (.dict paramEntries) = true) :
    (params.map fun param => param.2.node.size).sum + 1 = elementsAt entries "params" := by
  rw [(params_elements rules distinct).1, elementsAt, found, Option.elim_some, if_pos rfl,
    size_dict distinct (libraryIndicator_declares declared).2 (by simpa using keys.allowed),
    List.map_map, Nat.add_comm]
  rfl

theorem series_elements (rule : SeriesRule v node checked) (distinct : distinctKeys node = true) :
    checked.node.size = elements node := by
  induction rule with
  | int finite => rw [(elements_scalar rfl).1, (elements_scalar rfl).2]
  | float finite => rw [(elements_scalar rfl).1, (elements_scalar rfl).2]
  | field member => rw [(elements_scalar rfl).1, (elements_scalar rfl).2]
  | param keys found declared =>
      exact operator_elements distinct keys found (by decide) (by decide)
        ((elements_scalar rfl).2.trans (elements_scalar rfl).1.symm)
  | @binary operator entries left right leftOk rightOk member keys found _ _ left right =>
      obtain ⟨plain, rule⟩ := plain_unfilled (plain_of_binary member).1
      have inside := distinctKeys_lookup distinct found
      refine operator_elements distinct keys found plain rule ?_
      rw [size_pair, elements_pair, left (distinctKeys_item inside (by simp)),
        right (distinctKeys_item inside (by simp))]
  | unary member keys found _ operand =>
      obtain ⟨plain, rule⟩ := plain_unfilled (plain_of_unary member).1
      exact operator_elements distinct keys found plain rule
        (operand (distinctKeys_lookup distinct found))
  | atr keys found rule =>
      exact operator_elements distinct keys found (by decide) (by decide)
        (atr_elements rule (distinctKeys_lookup distinct found))
  | session member keys found =>
      obtain ⟨plain, rule⟩ := plain_unfilled (plain_of_session member).1
      exact operator_elements distinct keys found plain rule rfl
  | @range operator start stop entries window member keys found windowKeys startFound stopFound =>
      obtain ⟨plain, rule⟩ := plain_unfilled (plain_of_range member).1
      refine operator_elements distinct keys found plain rule ?_
      rw [elements_plain (distinctKeys_lookup distinct found) windowKeys (by decide) (by decide)]
      simp [elementsAt, startFound, stopFound, elements, PyValue.size, PyValue.sizeEntries]
  | @prev entries operand bars operandOk barsOk keys found barsFound _ count sameOperand =>
      have sameBars := (numeric_elements count (distinctKeys_lookup distinct barsFound)).1
      rw [elements_plain distinct keys (by decide) (by decide)]
      simp [elementsAt, found, barsFound, ← sameOperand (distinctKeys_lookup distinct found),
        ← sameBars, PyValue.size, PyValue.sizeEntries]
  | @rolling operator entries operand length across operandOk lengthOk member keys found flag
      lengthFound count _ sameOperand =>
      have sameLength := (numeric_elements count (distinctKeys_lookup distinct lengthFound)).1
      have known : ∀ operator ∈ rollingOperators, operator ∈ acrossOperators ∧
          ([operator, "length"] ++ ["across_sessions"]).Nodup ∧ operator ≠ "params" ∧
          "indicator" ∉ [operator, "length"] ++ ["across_sessions"] := by decide
      obtain ⟨filled, nodup, rule, unnamed⟩ := known operator member
      have written := flag_elements flag
      have left := leftOut_across (keys.present operator (by simp)) filled
        fun named => unnamed (keys.allowed _ named)
      rw [elements_dict distinct nodup keys.allowed]
      simp only [List.cons_append, List.nil_append, List.map_cons, List.map_nil, List.sum_cons,
        List.sum_nil, elementsAt_some found rule,
        elementsAt_some lengthFound (by decide : "length" ≠ "params"),
        ← sameOperand (distinctKeys_lookup distinct found), ← sameLength, PyValue.size,
        PyValue.sizeEntries]
      omega
  | @valueAt time entries operand operandOk keys found timeFound _ _ sameOperand =>
      rw [elements_plain distinct keys (by decide) (by decide)]
      simp [elementsAt, found, timeFound, ← sameOperand (distinctKeys_lookup distinct found),
        elements, PyValue.size, PyValue.sizeEntries]
  | @indicator operator spec entries output across operand operandOk params declared keys flag found
      _ plain paramRules choice sameOperand =>
      obtain ⟨filled, rule, unnamed, others⟩ := indicator_keys declared
      obtain ⟨nodup, -⟩ := indicatorKeys_distinct declared
      have known : ∀ key ∈ entries.map Prod.fst, key ∈ indicatorKeys operator spec := by
        intro key member
        have allowed := keys.allowed key member
        simp only [indicatorKeys, List.mem_append] at allowed ⊢
        tauto
      have written := flag_elements flag
      have left := leftOut_across (keys.present operator (by simp)) filled
        fun named => unnamed (known _ named)
      have sameParams := congrArg List.sum ((params_elements paramRules distinct).2 others)
      have sameOutput := output_elements choice
      have sameFirst : operandOk.node.size = elements operand := by
        cases takes : spec.takesSeries with
        | true => exact sameOperand takes (distinctKeys_lookup distinct found)
        | false =>
            obtain ⟨rfl, rfl⟩ := plain takes
            rfl
      rw [elements_dict distinct nodup known]
      simp only [indicatorKeys, List.cons_append, List.nil_append, List.append_assoc,
        List.map_cons, List.map_append, List.map_map, List.sum_cons, List.sum_append,
        Function.comp_def, elementsAt_some found rule, ← sameFirst, ← sameOutput, PyValue.size,
        PyValue.sizeEntries, sizeEntries_append, sizeEntries_checked, sameParams]
      omega
  | @library spec name output entries paramEntries inputEntries across params operand operandOk keys
      named declared flag paramsFound paramKeys paramRules inputsFound inputKeys operands _ outputIs
      sameOperands =>
      have written := flag_elements flag
      have left := leftOut_library (keys.present "indicator" (by simp))
      have sameParams := libraryParams_elements declared paramsFound paramKeys paramRules
        (distinctKeys_lookup distinct paramsFound)
      have sameOutput := libraryOutput_elements outputIs
      obtain ⟨nodup, prices⟩ := libraryIndicator_inputs declared
      have sameInputs := inputs_elements distinct nodup prices inputsFound inputKeys
        fun key member inside => by
          have given := operands key member
          have rule : key ≠ "params" := by
            have known : ∀ name ∈ priceInputs, name ≠ "params" := by decide
            exact known key (prices key (List.mem_of_mem_filter member))
          rw [elementsAt_some given rule]
          exact sameOperands key member (distinctKeys_lookup inside given)
      rw [elements_dict distinct (by decide) keys.allowed, left]
      simp only [List.cons_append, List.nil_append, List.map_cons, List.map_nil, List.map_map,
        Function.comp_def, List.sum_cons, List.sum_nil,
        elementsAt_some named (by decide : "indicator" ≠ "params"), elements, PyValue.size,
        PyValue.sizeEntries, sizeEntries_checked, ← sameParams]
      omega

/-! ## Conditions, sides and distances -/

omit [PyFloat F] in
theorem elementsOfItems_eq (items : List (PyValue F)) :
    elementsOfItems items = (items.map elements).sum := by
  induction items with
  | nil => rfl
  | cons item rest ih => rw [elementsOfItems, ih, List.map_cons, List.sum_cons]

omit [PyFloat F] in
theorem items_elements {items : List (PyValue F)} {checked : List (Checked F)}
    (length : items.length = checked.length)
    (each : ∀ pair ∈ items.zip checked, pair.2.node.size = elements pair.1) :
    (PyValue.list (checked.map Checked.node)).size = elements (.list items) := by
  have same : (checked.map Checked.node).map PyValue.size = items.map elements := by
    have second : checked.map (fun item => item.node.size) =
        (items.zip checked).map fun pair => pair.2.node.size := by
      conv_lhs => rw [← List.map_snd_zip length.ge, List.map_map]
      rfl
    have first : items.map elements = (items.zip checked).map fun pair => elements pair.1 := by
      conv_lhs => rw [← List.map_fst_zip length.le, List.map_map]
      rfl
    rw [List.map_map, first, ← List.map_congr_left each, ← second]
    rfl
  rw [size_eq, elements, elementsOfItems_eq, ← same]
  rfl

theorem condition_elements (rule : ConditionRule v node checked)
    (distinct : distinctKeys node = true) : checked.node.size = elements node := by
  have known : ∀ operator ∈ conditionOperators,
      operator ∉ acrossOperators ∧ operator ≠ "params" := by decide
  induction rule with
  | @comparison operator entries left right leftOk rightOk member keys found leftRule rightRule =>
      obtain ⟨plain, rule⟩ := known _ (comparison_operator member)
      have inside := distinctKeys_lookup distinct found
      refine operator_elements distinct keys found plain rule ?_
      rw [size_pair, elements_pair,
        series_elements leftRule (distinctKeys_item inside (by simp)),
        series_elements rightRule (distinctKeys_item inside (by simp))]
  | conditions member keys found nonempty length rules same =>
      obtain ⟨plain, rule⟩ := known _ (list_operator member).1
      have inside := distinctKeys_lookup distinct found
      refine operator_elements distinct keys found plain rule (items_elements length ?_)
      intro pair inZip
      exact same pair inZip (distinctKeys_item inside (List.of_mem_zip inZip).1)
  | not keys found _ same =>
      exact operator_elements distinct keys found (by decide) (by decide)
        (same (distinctKeys_lookup distinct found))
  | everyMinutes keys found =>
      exact operator_elements distinct keys found (by decide) (by decide)
        ((elements_scalar rfl).2.trans (elements_scalar rfl).1.symm)
  | timeIs keys found =>
      exact operator_elements distinct keys found (by decide) (by decide)
        ((elements_scalar rfl).2.trans (elements_scalar rfl).1.symm)
  | timeBetween keys found =>
      refine operator_elements distinct keys found (by decide) (by decide) ?_
      simp [elements, elementsOfItems, PyValue.size, PyValue.sizeItems]

theorem side_elements (rule : SideRule v node checked) (distinct : distinctKeys node = true) :
    checked.node.size = elements node := by
  cases rule with
  | fixed member => rw [(elements_scalar rfl).1, (elements_scalar rfl).2]
  | @signed operator operand operandOk member rule =>
      have known : ∀ operator ∈ sideOperators, operator ∉ acrossOperators ∧ operator ≠ "params" := by
        decide
      obtain ⟨plain, named⟩ := known operator member
      exact operator_elements distinct (hasKeys_of_eq rfl) List.lookup_cons_self plain named
        (series_elements rule (distinctKeys_lookup distinct List.lookup_cons_self))

theorem distanceValue_elements {stop kind : String}
    (rule : DistanceValueRule v stop kind node checked) (distinct : distinctKeys node = true) :
    checked.node.size = elements node := by
  cases rule with
  | level isKind allowed rule => exact series_elements rule distinct
  | signalBar isKind allowed => rw [(elements_scalar rfl).1, (elements_scalar rfl).2]
  | multiple isKind allowed amount => exact (numeric_elements amount distinct).1
  | @atr atr length multiple lengthOk multipleOk isKind keys lengthFound multipleFound count amount =>
      have sameLength := (numeric_elements count (distinctKeys_lookup distinct lengthFound)).1
      have sameMultiple := (numeric_elements amount (distinctKeys_lookup distinct multipleFound)).1
      rw [elements_plain distinct keys (by decide) (by decide)]
      simp [elementsAt, lengthFound, multipleFound, ← sameLength, ← sameMultiple, PyValue.size,
        PyValue.sizeEntries]
  | amount isKind amount => exact (numeric_elements amount distinct).1

theorem distance_elements {stop : String} (rule : DistanceRule v stop node checked)
    (distinct : distinctKeys node = true) : checked.node.size = elements node := by
  obtain ⟨keys, found, rule⟩ := rule
  have known : ∀ kind ∈ distanceKinds ++ stopOnlyKinds.map Prod.fst,
      kind ∉ acrossOperators ∧ kind ≠ "params" := by decide
  obtain ⟨plain, named⟩ := known _ (distanceKind_known rule)
  exact operator_elements distinct keys found plain named
    (distanceValue_elements rule (distinctKeys_lookup distinct found))

/-! ## Exits and specifications -/

omit [PyFloat F] in
/-- A part that may be left out is written with the elements of its entry. -/
theorem optional_elements {rule : PyValue F → Checked F → Prop}
    {entries : Entries F} {key : String} {part : CheckedEntries F}
    (isPart : OptionalRule rule entries key part) (distinct : distinctKeys (.dict entries) = true)
    (same : ∀ value checked, rule value checked → distinctKeys value = true →
      checked.node.size = elements value) (plain : key ≠ "params") :
    PyValue.sizeEntries part.entries = elementsAt entries key := by
  rcases isPart with ⟨absent, rfl⟩ | ⟨value, checked, given, isRule, rfl⟩
  · rw [elementsAt_none absent]
    rfl
  · rw [elementsAt_some given plain, ← same value checked isRule (distinctKeys_lookup distinct given)]
    simp [PyValue.sizeEntries]

omit [PyFloat F] in
theorem join_elements {rules : String → PyValue F → Checked F → Prop} {keys : List String}
    {entries : Entries F} {parts : List (CheckedEntries F)}
    (each : List.Forall₂ (fun key part => OptionalRule (rules key) entries key part) keys parts)
    (distinct : distinctKeys (.dict entries) = true)
    (same : ∀ key value checked, rules key value checked → distinctKeys value = true →
      checked.node.size = elements value) (plain : ∀ key ∈ keys, key ≠ "params") :
    PyValue.sizeEntries (CheckedEntries.join parts).entries =
      (keys.map (elementsAt entries)).sum := by
  induction each with
  | nil => rfl
  | @cons key part keys parts isPart _ ih =>
      have joined : (CheckedEntries.join (part :: parts)).entries =
          part.entries ++ (CheckedEntries.join parts).entries := rfl
      rw [joined, sizeEntries_append, List.map_cons, List.sum_cons,
        ih fun key member => plain key (List.mem_cons_of_mem _ member),
        optional_elements isPart distinct (same key) (plain key List.mem_cons_self)]

theorem exitWhen_elements (rule : ExitWhenRule v node checked) (distinct : distinctKeys node = true) :
    checked.node.size = elements node := by
  obtain ⟨keys, _, longRule, shortRule⟩ := rule
  have same : ∀ value checked, ConditionRule v value checked → distinctKeys value = true →
      checked.node.size = elements value := fun _ _ => condition_elements
  rw [elements_plain distinct keys (by decide) (by decide)]
  simp only [List.nil_append, List.map_cons, List.map_nil, List.sum_cons, List.sum_nil, PyValue.size,
    sizeEntries_append, optional_elements longRule distinct same (by decide),
    optional_elements shortRule distinct same (by decide), Nat.add_zero]

omit [PyFloat F] in
theorem clock_elements {earliest latest : Nat} (rule : ClockRule v earliest latest node checked) :
    checked.node.size = elements node := by
  obtain ⟨time, rfl, _, rfl⟩ := rule
  rw [(elements_scalar rfl).1, (elements_scalar rfl).2]

theorem exit_elements {flatAt : Option Nat} (rule : ExitRule v flatAt node checked)
    (distinct : distinctKeys node = true) : checked.node.size =
      elements node + if (node.get? "on_opposite_signal").isSome then 0 else 1 := by
  obtain ⟨keys, afterBarsRule, atTimeRule, flag, stopRules, multiples, exitWhenRule⟩ := rule
  rename_i entries afterBars atTime exitWhen opposite stops
  have sameAfter := optional_elements afterBarsRule distinct
    (fun _ _ isRule inside => (numeric_elements isRule inside).1) (by decide)
  have sameTime := optional_elements atTimeRule distinct (fun _ _ isRule _ => clock_elements isRule)
    (by decide)
  have sameStops := join_elements stopRules distinct
    (fun _ _ _ isRule inside => distance_elements isRule inside) (by decide)
  have sameWhen := optional_elements exitWhenRule distinct
    (fun _ _ isRule inside => exitWhen_elements isRule inside) (by decide)
  have sameFlag : (if ((PyValue.dict entries).get? "on_opposite_signal").isSome then 0 else 1) +
      elementsAt entries "on_opposite_signal" = 1 := by
    rw [PyValue.get?]
    rcases flag with given | ⟨absent, _⟩
    · rw [given, elementsAt_some given (by decide), (elements_scalar rfl).1]
      rfl
    · rw [absent, elementsAt_none absent]
      rfl
  rw [elements_plain distinct keys (by decide) (by decide)]
  simp only [exitKeys, stopKeys, List.cons_append, List.nil_append, List.map_cons, List.map_nil,
    List.sum_cons, List.sum_nil] at sameStops ⊢
  simp only [PyValue.size, sizeEntries_append, PyValue.sizeEntries, sameAfter, sameTime, sameStops,
    sameWhen]
  omega

theorem signal_elements (rule : SignalRule v node checked) (distinct : distinctKeys node = true) :
    checked.node.size = elements node := by
  obtain ⟨keys, whenFound, sideFound, whenRule, sideRule⟩ := rule
  have sameWhen := condition_elements whenRule (distinctKeys_lookup distinct whenFound)
  have sameSide := side_elements sideRule (distinctKeys_lookup distinct sideFound)
  rw [elements_plain distinct keys (by decide) (by decide)]
  simp [elementsAt, whenFound, sideFound, ← sameWhen, ← sameSide, PyValue.size, PyValue.sizeEntries]

/-- What the copy of a document has for a left-out exit, or for its left-out flag. -/
def exitLeftOut (document : PyValue F) : Nat :=
  match document.get? "exit" with
  | none => 2
  | some exit => if (exit.get? "on_opposite_signal").isSome then 0 else 1

/-- An empty `skip_days` is not copied. -/
def emptySkipDays (document : PyValue F) : Nat :=
  match document.get? "skip_days" with
  | some (.list []) => 1
  | _ => 0

def copyElements (document : PyValue F) : Nat :=
  elements document + exitLeftOut document - emptySkipDays document

omit [PyFloat F] in
theorem texts_elements (texts : List String) :
    (PyValue.list (F := F) (texts.map .str)).size = elements (F := F) (.list (texts.map .str)) := by
  rw [size_eq, elements, elementsOfItems_eq, PyValue.children, List.map_map, List.map_map]
  refine congrArg (1 + List.sum ·) (List.map_congr_left fun text _ => ?_)
  exact (elements_scalar rfl).2.trans (elements_scalar rfl).1.symm

/-- The copy of a specification has the elements of the document with its left-out entries. -/
theorem spec_elements {entries : Entries F} (rule : SpecRule v entries checked)
    (distinct : distinctKeys (.dict entries) = true) :
    checked.node.size = copyElements (.dict entries) := by
  obtain ⟨keys, language, bar, tickFound, tickOk, sessionFound, sessionKeys, sessionValues,
    flatAtRule, signalsFound, nonempty, length, signalRules, tradesFound, tradesCount, skipRule,
    exitFound, exitRule⟩ := rule
  rename_i tickSize maxTrades exitNode session skip items signals flatAt exitOk
  have tickScalar : ParamCheck.accepts (.amount none) tickSize = .ok true := tickOk
  have sameTick := elements_scalar (accepts_scalar tickScalar)
  have sameTrades : elements maxTrades = 1 ∧ maxTrades.size = 1 := by
    refine elements_scalar ?_
    cases maxTrades with
    | list items => cases tradesCount
    | dict entries => cases tradesCount
    | _ => rfl
  have sameSession : elements (.dict session) = (sessionDocument (F := F)).size := by
    rw [elements_plain (distinctKeys_lookup distinct sessionFound) sessionKeys (by decide)
      (by decide)]
    have values := sessionValues
    simp only [supportedSession, List.forall_mem_cons] at values
    simp [supportedSession, sessionDocument, elementsAt, values.1, values.2.1, values.2.2.1,
      elements, PyValue.size, PyValue.sizeEntries]
  have sameSignals := items_elements length fun pair member =>
    signal_elements (signalRules pair member)
      (distinctKeys_item (distinctKeys_lookup distinct signalsFound) (List.of_mem_zip member).1)
  have sameFlat := optional_elements flatAtRule distinct (fun _ _ isRule _ => clock_elements isRule)
    (by decide)
  have sameExit : exitOk.node.size = elementsAt entries "exit" + exitLeftOut (.dict entries) := by
    rw [exitLeftOut, PyValue.get?]
    cases given : entries.lookup "exit" with
    | none =>
        rw [given] at exitFound
        subst exitFound
        rw [exit_elements exitRule rfl, elementsAt_none given]
        rfl
    | some value =>
        rw [given, Option.getD_some] at exitFound
        subst exitFound
        rw [exit_elements exitRule (distinctKeys_lookup distinct given),
          elementsAt_some given (by decide)]
  have sameSkip : PyValue.sizeEntries skip + emptySkipDays (.dict entries) =
      elementsAt entries "skip_days" := by
    rw [emptySkipDays, PyValue.get?]
    rcases skipRule with ⟨absent, rfl⟩ | ⟨names, given, _, _, rfl⟩
    · rw [absent, elementsAt_none absent]
      rfl
    · rw [given, elementsAt_some given (by decide)]
      cases names with
      | nil => rfl
      | cons name rest =>
          rw [← texts_elements, List.isEmpty_cons, if_neg Bool.false_ne_true]
          simp [PyValue.sizeEntries]
  rw [copyElements, elements_plain distinct keys (by decide) (by decide)]
  simp only [topLevelKeys, List.cons_append, List.nil_append, List.map_cons, List.map_nil,
    List.sum_cons, List.sum_nil, elementsAt_some language (by decide : "language" ≠ "params"),
    elementsAt_some bar (by decide : "bar" ≠ "params"),
    elementsAt_some tickFound (by decide : "tick_size" ≠ "params"), sameTick.1,
    elementsAt_some sessionFound (by decide : "session" ≠ "params"), sameSession,
    elementsAt_some signalsFound (by decide : "signals" ≠ "params"), ← sameSignals,
    elementsAt_some tradesFound (by decide : "max_trades_per_session" ≠ "params"), sameTrades.1,
    elements_str, ← sameFlat, ← sameSkip, PyValue.size, PyValue.sizeEntries, sizeEntries_append,
    sameTick.2, sameTrades.2, sameExit]
  omega

/-! ## Levels -/

def Inside (entries : Entries F) (value : PyValue F) : Prop :=
  ∃ key inner, entries.lookup key = some inner ∧ value.depth ≤ inner.depth

omit [PyFloat F] in
theorem inside_of_lookup {entries : Entries F} {key : String}
    {inner value : PyValue F} (found : entries.lookup key = some inner)
    (within : value.depth ≤ inner.depth) : Inside entries value := ⟨key, inner, found, within⟩

omit [PyFloat F] in
theorem inside_leaf {entries : Entries F} {key : String} {inner value : PyValue F}
    (found : entries.lookup key = some inner) (leaf : value.depth = 1) : Inside entries value :=
  ⟨key, inner, found, leaf.trans_le (depth_pos inner)⟩

omit [PyFloat F] in
theorem depth_dict_le {entries written : Entries F}
    (each : ∀ entry ∈ written, Inside entries entry.2) :
    (PyValue.dict written).depth ≤ (PyValue.dict entries).depth := by
  have inside : PyValue.depthEntries written ≤ PyValue.depthEntries entries :=
    depthEntries_le fun entry member => by
      obtain ⟨key, inner, found, within⟩ := each entry member
      exact within.trans (depth_le_of_lookup found)
  rw [PyValue.depth, PyValue.depth]
  omega

omit [PyFloat F] in
theorem depth_single_le {entries : Entries F} {operator : String}
    {value written : PyValue F} (found : entries.lookup operator = some value)
    (within : written.depth ≤ value.depth) :
    (PyValue.dict [(operator, written)]).depth ≤ (PyValue.dict entries).depth := by
  refine depth_dict_le fun entry member => ?_
  rw [List.mem_singleton.mp member]
  exact inside_of_lookup found within

omit [PyFloat F] in
theorem depth_pair_le {left right leftOk rightOk : PyValue F} (first : leftOk.depth ≤ left.depth)
    (second : rightOk.depth ≤ right.depth) :
    (PyValue.list [leftOk, rightOk]).depth ≤ (PyValue.list [left, right]).depth := by
  simp only [PyValue.depth, PyValue.depthItems]
  omega

theorem numeric_depth {check : ParamCheck} (rule : NumericRule v check node checked) :
    checked.node.depth ≤ node.depth := by
  cases rule with
  | literal plain accepted => exact le_rfl
  | parameter keys found declared => exact depth_single_le found le_rfl

theorem params_inside {Kind : Type} {check : Kind → ParamCheck}
    {entries : Entries F} {declared : List (String × Kind)}
    {params : List (String × Checked F)} (rule : ParamsRule v check entries declared params) :
    ∀ entry ∈ checkedEntries params, Inside entries entry.2 := by
  intro entry member
  obtain ⟨param, inParams, rfl⟩ := List.mem_map.mp member
  obtain ⟨_, _, value, found, _, numeric⟩ := forall₂_mem_right rule inParams
  exact inside_of_lookup found (numeric_depth numeric)

theorem atr_depth (rule : AtrRule v node checked) : checked.node.depth ≤ node.depth := by
  obtain ⟨keys, flag, found, count, choice⟩ := rule
  refine depth_dict_le fun entry member => ?_
  simp only [List.mem_append, List.mem_singleton] at member
  rcases member with (rfl | inChoice) | inFlag
  · exact inside_of_lookup found (numeric_depth count)
  · rcases choice with ⟨text, _, given, rfl⟩ | ⟨_, _, rfl⟩
    · rw [List.mem_singleton.mp inChoice]
      exact inside_leaf found rfl
    · cases inChoice
  · split at inFlag
    · rw [List.mem_singleton.mp inFlag]
      exact inside_leaf found rfl
    · cases inFlag

omit [PyFloat F] in
theorem output_inside {spec : IndicatorSpec} {entries output : Entries F}
    (choice : outputChoice spec.outputs entries output) :
    ∀ entry ∈ output, Inside entries entry.2 := by
  intro entry inOutput
  unfold outputChoice at choice
  split at choice
  · rw [choice] at inOutput
    cases inOutput
  · rcases choice with ⟨text, _, given, rfl⟩ | ⟨_, optional, _⟩
    · rw [List.mem_singleton.mp inOutput]
      exact inside_leaf given rfl
    · cases optional

omit [PyFloat F] in
/-- Inputs that are left out are written as an empty object. -/
theorem inputs_inside {entries inputEntries : Entries F} {name : PyValue F} {inputs : List String}
    {operand : String → PyValue F} {operandOk : String → Checked F}
    (named : entries.lookup "indicator" = some name)
    (found : (entries.lookup "inputs").getD (.dict []) = .dict inputEntries)
    (operands : ∀ key ∈ inputs, inputEntries.lookup key = some (operand key))
    (depths : ∀ key ∈ inputs, (operandOk key).node.depth ≤ (operand key).depth) :
    Inside entries (.dict (checkedEntries (inputs.map fun key => (key, operandOk key)))) := by
  cases given : entries.lookup "inputs" with
  | none =>
      rw [given] at found
      cases found
      have empty : inputs = [] := List.eq_nil_iff_forall_not_mem.mpr fun key member =>
        Option.some_ne_none _ (operands key member).symm
      rw [empty]
      exact inside_leaf named rfl
  | some value =>
      rw [given, Option.getD_some] at found
      subst found
      refine inside_of_lookup given (depth_dict_le fun entry member => ?_)
      simp only [checkedEntries, List.map_map, List.mem_map] at member
      obtain ⟨key, inInputs, rfl⟩ := member
      exact inside_of_lookup (operands key inInputs) (depths key inInputs)

theorem series_depth (rule : SeriesRule v node checked) : checked.node.depth ≤ node.depth := by
  induction rule with
  | int finite => exact le_rfl
  | float finite => exact le_rfl
  | field member => exact le_rfl
  | param keys found declared => exact depth_single_le found le_rfl
  | binary member keys found _ _ left right => exact depth_single_le found (depth_pair_le left right)
  | unary member keys found _ operand => exact depth_single_le found operand
  | atr keys found rule => exact depth_single_le found (atr_depth rule)
  | session member keys found => exact depth_single_le found le_rfl
  | range member keys found windowKeys startFound stopFound =>
      refine depth_single_le found (depth_dict_le fun entry inWindow => ?_)
      simp only [List.mem_cons, List.not_mem_nil, or_false] at inWindow
      rcases inWindow with rfl | rfl
      · exact inside_of_lookup startFound le_rfl
      · exact inside_of_lookup stopFound le_rfl
  | prev keys found barsFound _ count operand =>
      refine depth_dict_le fun entry member => ?_
      simp only [List.mem_cons, List.not_mem_nil, or_false] at member
      rcases member with rfl | rfl
      · exact inside_of_lookup found operand
      · exact inside_of_lookup barsFound (numeric_depth count)
  | rolling _ keys found flag lengthFound count _ operand =>
      refine depth_dict_le fun entry member => ?_
      simp only [List.mem_cons, List.not_mem_nil, or_false] at member
      rcases member with rfl | rfl | rfl
      · exact inside_of_lookup found operand
      · exact inside_of_lookup lengthFound (numeric_depth count)
      · exact inside_leaf found rfl
  | valueAt keys found timeFound _ _ operand =>
      refine depth_dict_le fun entry member => ?_
      simp only [List.mem_cons, List.not_mem_nil, or_false] at member
      rcases member with rfl | rfl
      · exact inside_of_lookup found operand
      · exact inside_of_lookup timeFound le_rfl
  | @indicator operator spec entries output across operand operandOk params declared keys flag found
      _ plain paramRules choice sameOperand =>
      refine depth_dict_le fun entry member => ?_
      simp only [List.mem_append, List.mem_singleton] at member
      rcases member with ((rfl | inParams) | rfl) | inOutput
      · refine inside_of_lookup found ?_
        cases takes : spec.takesSeries with
        | true => exact sameOperand takes
        | false =>
            obtain ⟨rfl, rfl⟩ := plain takes
            exact le_rfl
      · exact params_inside paramRules entry inParams
      · exact inside_leaf found rfl
      · exact output_inside choice entry inOutput
  | @library spec name output entries paramEntries inputEntries across params operand operandOk keys
      named declared flag paramsFound paramKeys paramRules inputsFound inputKeys operands _ outputIs
      sameOperands =>
      have inputs := inputs_inside named inputsFound operands sameOperands
      refine depth_dict_le fun entry member => ?_
      simp only [List.mem_cons, List.not_mem_nil, or_false] at member
      rcases member with rfl | rfl | rfl | rfl | rfl
      · exact inside_leaf named rfl
      · exact inside_of_lookup paramsFound (depth_dict_le (params_inside paramRules))
      · exact inputs
      · exact inside_leaf named rfl
      · exact inside_leaf named rfl

omit [PyFloat F] in
theorem depth_items_le {items : List (PyValue F)} {checked : List (Checked F)}
    (length : items.length = checked.length)
    (each : ∀ pair ∈ items.zip checked, pair.2.node.depth ≤ pair.1.depth) :
    (PyValue.list (checked.map Checked.node)).depth ≤ (PyValue.list items).depth := by
  have inside : PyValue.depthItems (checked.map Checked.node) ≤ PyValue.depthItems items := by
    refine depthItems_le fun node member => ?_
    obtain ⟨item, inChecked, rfl⟩ := List.mem_map.mp member
    rw [← List.map_snd_zip length.ge] at inChecked
    obtain ⟨pair, inZip, rfl⟩ := List.mem_map.mp inChecked
    exact (each pair inZip).trans (depth_le_items (List.of_mem_zip inZip).1)
  rw [PyValue.depth, PyValue.depth]
  omega

theorem condition_depth (rule : ConditionRule v node checked) : checked.node.depth ≤ node.depth := by
  induction rule with
  | comparison member keys found leftRule rightRule =>
      exact depth_single_le found (depth_pair_le (series_depth leftRule) (series_depth rightRule))
  | conditions member keys found nonempty length rules same =>
      exact depth_single_le found (depth_items_le length same)
  | not keys found _ same => exact depth_single_le found same
  | everyMinutes keys found => exact depth_single_le found le_rfl
  | timeIs keys found => exact depth_single_le found le_rfl
  | timeBetween keys found => exact depth_single_le found le_rfl

theorem side_depth (rule : SideRule v node checked) : checked.node.depth ≤ node.depth := by
  cases rule with
  | fixed member => exact le_rfl
  | signed member rule => exact depth_single_le List.lookup_cons_self (series_depth rule)

theorem distance_depth {stop : String} (rule : DistanceRule v stop node checked) :
    checked.node.depth ≤ node.depth := by
  obtain ⟨keys, found, rule⟩ := rule
  refine depth_single_le found ?_
  cases rule with
  | level isKind allowed rule => exact series_depth rule
  | signalBar isKind allowed => exact le_rfl
  | multiple isKind allowed amount => exact numeric_depth amount
  | atr isKind keys lengthFound multipleFound count amount =>
      refine depth_dict_le fun entry member => ?_
      simp only [List.mem_cons, List.not_mem_nil, or_false] at member
      rcases member with rfl | rfl
      · exact inside_of_lookup lengthFound (numeric_depth count)
      · exact inside_of_lookup multipleFound (numeric_depth amount)
  | amount isKind amount => exact numeric_depth amount

omit [PyFloat F] in
theorem optional_inside {rule : PyValue F → Checked F → Prop} {entries : Entries F}
    {key : String} {part : CheckedEntries F} (isPart : OptionalRule rule entries key part)
    (same : ∀ value checked, rule value checked → checked.node.depth ≤ value.depth) :
    ∀ entry ∈ part.entries, Inside entries entry.2 := by
  intro entry member
  rcases isPart with ⟨_, rfl⟩ | ⟨value, checked, given, isRule, rfl⟩
  · cases member
  · rw [List.mem_singleton.mp member]
    exact inside_of_lookup given (same value checked isRule)

theorem exitWhen_depth (rule : ExitWhenRule v node checked) : checked.node.depth ≤ node.depth := by
  obtain ⟨_, _, longRule, shortRule⟩ := rule
  refine depth_dict_le fun entry member => ?_
  rcases List.mem_append.mp member with inLong | inShort
  · exact optional_inside longRule (fun _ _ => condition_depth) entry inLong
  · exact optional_inside shortRule (fun _ _ => condition_depth) entry inShort

omit [PyFloat F] in
theorem clock_depth {earliest latest : Nat} (rule : ClockRule v earliest latest node checked) :
    checked.node.depth ≤ node.depth := by
  obtain ⟨time, rfl, _, rfl⟩ := rule
  exact le_rfl

theorem exit_depth {flatAt : Option Nat} (rule : ExitRule v flatAt node checked) :
    checked.node.depth ≤ max 2 node.depth := by
  obtain ⟨keys, afterBarsRule, atTimeRule, flag, stopRules, multiples, exitWhenRule⟩ := rule
  rename_i entries afterBars atTime exitWhen opposite stops
  have within : ∀ value : PyValue F, Inside entries value →
      value.depth ≤ max 1 (PyValue.depthEntries entries) := by
    rintro value ⟨key, inner, found, below⟩
    exact (below.trans (depth_le_of_lookup found)).trans (le_max_right _ _)
  have each : PyValue.depthEntries (afterBars.entries ++ atTime.entries ++
      [("on_opposite_signal", .bool opposite)] ++ (CheckedEntries.join stops).entries ++
        exitWhen.entries) ≤ max 1 (PyValue.depthEntries entries) := by
    refine depthEntries_le fun entry member => ?_
    simp only [List.mem_append, List.mem_singleton] at member
    rcases member with (((inAfter | inTime) | rfl) | inStops) | inWhen
    · exact within _ (optional_inside afterBarsRule (fun _ _ => numeric_depth) entry inAfter)
    · exact within _ (optional_inside atTimeRule (fun _ _ => clock_depth) entry inTime)
    · exact le_max_left _ _
    · obtain ⟨part, inParts, inPart⟩ := List.mem_flatMap.mp inStops
      obtain ⟨key, _, isPart⟩ := forall₂_mem_right stopRules inParts
      exact within _ (optional_inside isPart (fun _ _ => distance_depth) entry inPart)
    · exact within _ (optional_inside exitWhenRule (fun _ _ => exitWhen_depth) entry inWhen)
  rw [PyValue.depth, PyValue.depth]
  omega

theorem signal_depth (rule : SignalRule v node checked) : checked.node.depth ≤ node.depth := by
  obtain ⟨keys, whenFound, sideFound, whenRule, sideRule⟩ := rule
  refine depth_dict_le fun entry member => ?_
  simp only [List.mem_cons, List.not_mem_nil, or_false] at member
  rcases member with rfl | rfl
  · exact inside_of_lookup whenFound (condition_depth whenRule)
  · exact inside_of_lookup sideFound (side_depth sideRule)

theorem spec_depth {entries : Entries F} (rule : SpecRule v entries checked) :
    checked.node.depth ≤ (PyValue.dict entries).depth := by
  obtain ⟨keys, language, bar, tickFound, tickOk, sessionFound, sessionKeys, sessionValues,
    flatAtRule, signalsFound, nonempty, length, signalRules, tradesFound, tradesCount, skipRule,
    exitFound, exitRule⟩ := rule
  rename_i tickSize maxTrades exitNode session skip items signals flatAt exitOk
  have zone := sessionValues ("timezone", "America/New_York") (by simp [supportedSession])
  have sessionDepth : 2 ≤ (PyValue.dict session).depth := by
    have leaf : 1 ≤ PyValue.depthEntries session := (depth_pos _).trans (depth_le_of_lookup zone)
    rw [PyValue.depth]
    omega
  refine depth_dict_le fun entry member => ?_
  simp only [List.mem_append, List.mem_cons, List.not_mem_nil, or_false] at member
  rcases member with ((rfl | rfl | rfl | rfl | rfl | rfl | rfl) | inFlat) | inSkip
  · exact inside_leaf language rfl
  · exact inside_leaf bar rfl
  · exact inside_of_lookup tickFound le_rfl
  · exact inside_of_lookup sessionFound sessionDepth
  · exact inside_of_lookup signalsFound (depth_items_le length fun pair inZip =>
      signal_depth (signalRules pair inZip))
  · have within := exit_depth exitRule
    cases given : entries.lookup "exit" with
    | none =>
        rw [given] at exitFound
        subst exitFound
        refine inside_of_lookup sessionFound (within.trans ?_)
        simpa [PyValue.depth, PyValue.depthEntries] using sessionDepth
    | some value =>
        rw [given, Option.getD_some] at exitFound
        subst exitFound
        rcases le_total value.depth 2 with shallow | deep
        · exact inside_of_lookup sessionFound (within.trans (by omega))
        · exact inside_of_lookup given (within.trans (by omega))
  · exact inside_of_lookup tradesFound le_rfl
  · exact optional_inside flatAtRule (fun _ _ => clock_depth) entry inFlat
  · rcases skipRule with ⟨_, rfl⟩ | ⟨names, given, _, _, rfl⟩
    · cases inSkip
    · split at inSkip
      · cases inSkip
      · rw [List.mem_singleton.mp inSkip]
        exact inside_of_lookup given le_rfl

end Series

end QuantFactory.RuleLanguage
