import QuantFactory.RuleLanguage.FixedPoint

/-!
# Normalized documents check to themselves

The conditions, sides, distances, exits and signals of a normalized document,
over its series.
-/

set_option autoImplicit false

namespace QuantFactory.RuleLanguage

open QuantFactory.Library QuantFactory.Python Validator

variable {F : Type} [PyFloat F] {v : Validator F} {copy : PyValue F → PyValue F → Prop}

/-! ## Conditions -/

/-- Every copy of a normalized node passes a check, with that node as its result. -/
def CheckCopied (check : Nat → Check F) (copy : PyValue F → PyValue F → Prop)
    (checked : Checked F) : Prop :=
  ∀ other, copy checked.node other → ∀ depth path, checked.node.depth ≤ depth →
    check depth other path = .ok checked

omit [PyFloat F] in
theorem collect_copied {check : Check F} {checked : List (Checked F)} {items : List (PyValue F)}
    (copied : List.Forall₂ copy (checked.map Checked.node) items)
    (each : ∀ item ∈ checked, ∀ other, copy item.node other → ∀ path,
      check other path = .ok item) (path : Nat → String) (start : Nat) :
    collect (fun item => check item.1 (path item.2)) (items.zipIdx start) = .ok checked := by
  induction checked generalizing items start with
  | nil =>
      obtain rfl := List.forall₂_nil_left_iff.mp copied
      rfl
  | cons first rest ih =>
      obtain ⟨item, others, firstCopied, restCopied, rfl⟩ := List.forall₂_cons_left_iff.mp copied
      have firstOk := each first List.mem_cons_self item firstCopied (path start)
      have restOk := ih restCopied (fun other member => each other (List.mem_cons_of_mem _ member))
        (start + 1)
      simp only [List.zipIdx_cons, collect, bind_eq_ok]
      exact ⟨first, firstOk, rest, restOk, rfl⟩

theorem condition_object {operator path : String} {value : PyValue F}
    {copied : Entries F} {checked : Checked F}
    (member : operator ∈ conditionOperators)
    (same : EntriesCopied copy [(operator, value)] copied)
    (node : ∀ inner, value.depth ≤ inner → v.conditionNode (v.series inner) (v.condition inner)
      operator (.dict copied) path = .ok checked)
    {depth : Nat} (within : (PyValue.dict [(operator, value)]).depth ≤ depth) :
    v.condition depth (.dict copied) path = .ok checked := by
  obtain ⟨inner, rfl⟩ := Nat.exists_eq_add_of_le' ((depth_pos _).trans within)
  have heads := same.heads (heads_single member)
  simp only [condition, bind_eq_ok, operatorOf_ok_iff]
  exact ⟨operator, ⟨copied, rfl, heads⟩,
    node inner (depth_entry within List.mem_cons_self)⟩

theorem comparison_operator {operator : String}
    (member : operator ∈ comparisonOperators ++ crossOperators) :
    operator ∈ conditionOperators := by
  have known : ∀ operator ∈ comparisonOperators ++ crossOperators,
      operator ∈ conditionOperators := by decide
  exact known operator member

theorem list_operator {operator : String} (member : operator ∈ ["all", "any"]) :
    operator ∈ conditionOperators ∧ operator ∉ comparisonOperators ++ crossOperators := by
  have known : ∀ operator ∈ ["all", "any"], operator ∈ conditionOperators ∧
      operator ∉ comparisonOperators ++ crossOperators := by decide
  exact known operator member

theorem condition_copied (copies : Copies copy) {node : PyValue F} {checked : Checked F}
    (rule : ConditionRule v node checked) : CheckCopied v.condition copy checked := by
  induction rule with
  | @comparison operator entries left right leftOk rightOk member keys found leftRule rightRule =>
      intro other same depth path within
      obtain ⟨copied, rfl, entriesCopied⟩ := copies.dict same
      refine condition_object (comparison_operator member) entriesCopied (fun inner depths => ?_)
        within
      obtain ⟨operands, present, operandsCopied⟩ := entriesCopied.values operator _ List.lookup_cons_self
      obtain ⟨_, rfl, pairCopied⟩ := copies.list operandsCopied
      obtain ⟨left', _, leftCopied, rest, rfl⟩ := List.forall₂_cons_left_iff.mp pairCopied
      obtain ⟨right', _, rightCopied, none, rfl⟩ := List.forall₂_cons_left_iff.mp rest
      obtain rfl := List.forall₂_nil_left_iff.mp none
      have leftWithin := (depth_item_le (List.mem_cons_self)).trans depths
      have rightWithin := (depth_item_le (List.mem_cons_of_mem _ List.mem_cons_self)).trans depths
      simp only [conditionNode, comparisonNode, bind_eq_ok, checkObject_ok_iff, item_ok_iff,
        if_pos member, pair_ok_iff]
      exact ⟨copied, ⟨rfl, entriesCopied.hasKeys (hasKeys_of_eq rfl)⟩, _, present, (left', right'),
        rfl, leftOk, series_copied copies leftRule _ leftCopied _ _ leftWithin, rightOk,
        series_copied copies rightRule _ rightCopied _ _ rightWithin, rfl⟩
  | @conditions operator entries items checked member keys found nonempty length rules ih =>
      intro other same depth path within
      obtain ⟨copied, rfl, entriesCopied⟩ := copies.dict same
      obtain ⟨isCondition, notComparison⟩ := list_operator member
      refine condition_object isCondition entriesCopied (fun inner depths => ?_) within
      obtain ⟨_, present, listCopied⟩ := entriesCopied.values operator _ List.lookup_cons_self
      obtain ⟨others, rfl, itemsCopied⟩ := copies.list listCopied
      have othersFilled : others ≠ [] := by
        rintro rfl
        have empty := itemsCopied.length_eq
        rw [List.length_map, ← length] at empty
        exact nonempty (List.length_eq_zero_iff.mp empty)
      have each : ∀ item ∈ checked, ∀ other, copy item.node other → ∀ path,
          v.condition inner other path = .ok item := by
        intro item inChecked other itemCopied path
        have itemWithin := (depth_item_le (List.mem_map_of_mem inChecked)).trans depths
        rw [← List.map_snd_zip length.ge] at inChecked
        obtain ⟨pair, inZip, rfl⟩ := List.mem_map.mp inChecked
        exact ih pair inZip other itemCopied inner path itemWithin
      let where_ := s!"{path}.{operator}"
      simp only [conditionNode, conditionsNode, bind_eq_ok, checkObject_ok_iff, item_ok_iff,
        items_ok_iff, if_neg notComparison, if_pos member]
      exact ⟨copied, ⟨rfl, entriesCopied.hasKeys (hasKeys_of_eq rfl)⟩, _, present, others,
        ⟨rfl, othersFilled⟩, checked,
        collect_copied itemsCopied each (fun index => s!"{where_}[{index}]") 0, rfl⟩
  | @not entries inner innerOk keys found rule ih =>
      intro other same depth path within
      obtain ⟨copied, rfl, entriesCopied⟩ := copies.dict same
      refine condition_object (by decide) entriesCopied (fun inner depths => ?_) within
      obtain ⟨value, present, valueCopied⟩ := entriesCopied.values "not" _ List.lookup_cons_self
      have notComparison : "not" ∉ comparisonOperators ++ crossOperators := by decide
      have notList : "not" ∉ ["all", "any"] := by decide
      simp only [conditionNode, bind_eq_ok, checkObject_ok_iff, item_ok_iff,
        if_neg notComparison, if_neg notList, if_true]
      exact ⟨copied, ⟨rfl, entriesCopied.hasKeys (hasKeys_of_eq rfl)⟩, _, present, innerOk,
        ih _ valueCopied _ _ depths, rfl⟩
  | @everyMinutes entries minutes keys found count grid =>
      intro other same depth path within
      obtain ⟨copied, rfl, entriesCopied⟩ := copies.dict same
      refine condition_object (by decide) entriesCopied (fun inner depths => ?_) within
      have present := entriesCopied.scalar copies List.lookup_cons_self rfl
      have notComparison : "every_minutes" ∉ comparisonOperators ++ crossOperators := by decide
      have notList : "every_minutes" ∉ ["all", "any"] := by decide
      have notNot : ("every_minutes" : String) ≠ "not" := by decide
      simp only [conditionNode, bind_eq_ok, checkObject_ok_iff, item_ok_iff,
        if_neg notComparison, if_neg notList, if_neg notNot, if_true, everyMinutesNode_ok_iff]
      exact ⟨copied, ⟨rfl, entriesCopied.hasKeys (hasKeys_of_eq rfl)⟩, _, present, minutes, rfl,
        count, grid, rfl⟩
  | @timeIs entries time keys found timeClock =>
      intro other same depth path within
      obtain ⟨copied, rfl, entriesCopied⟩ := copies.dict same
      refine condition_object (by decide) entriesCopied (fun inner depths => ?_) within
      have present := entriesCopied.text copies List.lookup_cons_self
      have notComparison : "time_is" ∉ comparisonOperators ++ crossOperators := by decide
      have notList : "time_is" ∉ ["all", "any"] := by decide
      have notNot : ("time_is" : String) ≠ "not" := by decide
      have notEvery : ("time_is" : String) ≠ "every_minutes" := by decide
      simp only [conditionNode, bind_eq_ok, checkObject_ok_iff, item_ok_iff, barEnd_ok_iff,
        if_neg notComparison, if_neg notList, if_neg notNot, if_neg notEvery, if_true]
      exact ⟨copied, ⟨rfl, entriesCopied.hasKeys (hasKeys_of_eq rfl)⟩, _, present, time,
        ⟨rfl, timeClock⟩, rfl⟩
  | @timeBetween entries start stop keys found startClock stopClock ordered =>
      intro other same depth path within
      obtain ⟨copied, rfl, entriesCopied⟩ := copies.dict same
      refine condition_object (by decide) entriesCopied (fun inner depths => ?_) within
      obtain ⟨_, present, valueCopied⟩ := entriesCopied.values "time_between" _ List.lookup_cons_self
      obtain ⟨_, rfl, pairCopied⟩ := copies.list valueCopied
      obtain ⟨_, _, startCopied, rest, rfl⟩ := List.forall₂_cons_left_iff.mp pairCopied
      obtain ⟨_, _, stopCopied, none, rfl⟩ := List.forall₂_cons_left_iff.mp rest
      obtain rfl := List.forall₂_nil_left_iff.mp none
      rw [copies.scalar startCopied rfl, copies.scalar stopCopied rfl] at present
      have notComparison : "time_between" ∉ comparisonOperators ++ crossOperators := by decide
      have notList : "time_between" ∉ ["all", "any"] := by decide
      have notNot : ("time_between" : String) ≠ "not" := by decide
      have notEvery : ("time_between" : String) ≠ "every_minutes" := by decide
      have notTime : ("time_between" : String) ≠ "time_is" := by decide
      simp only [conditionNode, bind_eq_ok, checkObject_ok_iff, item_ok_iff,
        if_neg notComparison, if_neg notList, if_neg notNot, if_neg notEvery, if_neg notTime,
        timeBetweenNode_ok_iff]
      exact ⟨copied, ⟨rfl, entriesCopied.hasKeys (hasKeys_of_eq rfl)⟩, _, present, start, stop,
        rfl, startClock, stopClock, ordered, rfl⟩

/-! ## Sides and distances -/

omit [PyFloat F] in
theorem EntriesCopied.single {key : String} {value : PyValue F}
    {copied : Entries F} (same : EntriesCopied copy [(key, value)] copied) :
    ∃ other, copied = [(key, other)] ∧ copy value other := by
  obtain ⟨other, present, valueCopied⟩ := same.values key value List.lookup_cons_self
  have keys := List.perm_singleton.mp same.keys
  obtain ⟨entry, rfl⟩ := List.length_eq_one_iff.mp
    (by simpa using congrArg List.length keys : copied.length = 1)
  obtain ⟨head, first⟩ := entry
  obtain rfl : head = key := by simpa using keys
  obtain rfl : first = other := by simpa using present
  exact ⟨first, rfl, valueCopied⟩

theorem side_copied (copies : Copies copy) {node : PyValue F} {checked : Checked F}
    (rule : SideRule v node checked) : CheckCopied v.side copy checked := by
  intro other same depth path within
  cases rule with
  | fixed member =>
      rw [copies.scalar same rfl]
      simp only [side, if_pos member]
  | @signed operator operand operandOk member rule =>
      obtain ⟨copied, rfl, entriesCopied⟩ := copies.dict same
      obtain ⟨value, rfl, valueCopied⟩ := entriesCopied.single
      have operandWithin : operandOk.node.depth ≤ depth :=
        (depth_entry (within.trans (Nat.le_succ depth)) List.mem_cons_self)
      simp only [side, if_pos member, bind_eq_ok]
      exact ⟨operandOk, series_copied copies rule _ valueCopied _ _ operandWithin, rfl⟩

theorem distanceValue_copied (copies : Copies copy) {stop kind : String} {node other : PyValue F}
    {checked : Checked F} (rule : DistanceValueRule v stop kind node checked)
    (same : copy checked.node other) {depth : Nat} {path : String}
    (within : checked.node.depth ≤ depth) :
    v.distanceValue depth stop kind other path = .ok checked := by
  cases rule with
  | level isKind allowed rule =>
      subst isKind allowed
      exact series_copied copies rule _ same _ _ within
  | signalBar isKind allowed =>
      subst isKind allowed
      rw [copies.scalar same rfl]
      rfl
  | multiple isKind allowed amount =>
      subst isKind
      have only : stopOnlyKinds.lookup "r_multiple" = some ["take_profit", "trail_after"] := by
        decide
      simp only [distanceValue, only, stopOnlyDistance, raiseIf_bind_eq_ok, amount_ok_iff,
        String.reduceEq, if_false]
      exact ⟨by rw [decide_eq_true allowed]; rfl, amount.copied copies same⟩
  | @atr atr length multiple lengthOk multipleOk isKind keys lengthFound multipleFound count amount =>
      subst isKind
      obtain ⟨copied, rfl, entriesCopied⟩ := copies.dict same
      obtain ⟨_, lengthPresent, lengthCopied⟩ := entriesCopied.values "length" lengthOk.node
        (by simp)
      obtain ⟨_, multiplePresent, multipleCopied⟩ := entriesCopied.values "multiple"
        multipleOk.node (by simp [List.lookup_cons])
      have only : stopOnlyKinds.lookup "atr" = none := by decide
      simp only [distanceValue, only, if_true, atrDistance, bind_eq_ok, checkObject_ok_iff,
        item_ok_iff, count_ok_iff, amount_ok_iff]
      exact ⟨copied, ⟨rfl, entriesCopied.hasKeys (hasKeys_of_eq rfl)⟩, _, lengthPresent, lengthOk,
        count.copied copies lengthCopied, _, multiplePresent, multipleOk,
        amount.copied copies multipleCopied, rfl⟩
  | amount isKind amount =>
      have known : ∀ kind ∈ ["percent", "points", "ticks"],
          stopOnlyKinds.lookup kind = none ∧ kind ≠ "atr" := by decide
      obtain ⟨only, notAtr⟩ := known kind isKind
      simp only [distanceValue, only, if_neg notAtr, amount_ok_iff]
      exact amount.copied copies same

theorem distanceKind_known {stop kind : String} {node : PyValue F} {checked : Checked F}
    (rule : DistanceValueRule v stop kind node checked) :
    kind ∈ distanceKinds ++ stopOnlyKinds.map Prod.fst := by
  cases rule with
  | level isKind => simp [isKind, distanceKinds, stopOnlyKinds]
  | signalBar isKind => simp [isKind, distanceKinds, stopOnlyKinds]
  | multiple isKind => simp [isKind, distanceKinds, stopOnlyKinds]
  | atr isKind => simp [isKind, distanceKinds, stopOnlyKinds]
  | amount isKind =>
      have known : ∀ kind ∈ ["percent", "points", "ticks"],
          kind ∈ distanceKinds ++ stopOnlyKinds.map Prod.fst := by decide
      exact known kind isKind

theorem distance_copied (copies : Copies copy) {stop : String} {node : PyValue F}
    {checked : Checked F} (rule : DistanceRule v stop node checked) :
    CheckCopied (fun depth => v.distance depth stop) copy checked := by
  intro other same depth path within
  obtain ⟨keys, found, valueRule⟩ := rule
  rename_i kind entries value valueOk
  obtain ⟨copied, rfl, entriesCopied⟩ := copies.dict same
  obtain ⟨value', present, valueCopied⟩ := entriesCopied.values kind _ List.lookup_cons_self
  have valueWithin : valueOk.node.depth ≤ depth :=
    depth_entry (within.trans (Nat.le_succ depth)) List.mem_cons_self
  have heads := entriesCopied.heads (heads_single (distanceKind_known valueRule))
  simp only [distance, bind_eq_ok, operatorOf_ok_iff, checkObject_ok_iff, item_ok_iff]
  exact ⟨kind, ⟨copied, rfl, heads⟩, copied, ⟨rfl, entriesCopied.hasKeys (hasKeys_of_eq rfl)⟩, _,
    present, valueOk, distanceValue_copied copies valueRule valueCopied valueWithin, rfl⟩

theorem signal_copied (copies : Copies copy) {node : PyValue F} {checked : Checked F}
    (rule : SignalRule v node checked) : CheckCopied v.signal copy checked := by
  intro other same depth path within
  obtain ⟨keys, whenFound, sideFound, whenRule, sideRule⟩ := rule
  rename_i entries whenNode sideNode whenOk sideOk
  obtain ⟨copied, rfl, entriesCopied⟩ := copies.dict same
  obtain ⟨_, whenPresent, whenCopied⟩ := entriesCopied.values "when" whenOk.node (by simp)
  obtain ⟨_, sidePresent, sideCopied⟩ := entriesCopied.values "side" sideOk.node
    (by simp [List.lookup_cons])
  have inside : ∀ entry ∈ [("when", whenOk.node), ("side", sideOk.node)], entry.2.depth ≤ depth :=
    fun entry member => depth_entry (within.trans (Nat.le_succ depth)) member
  have whenWithin := inside _ List.mem_cons_self
  have sideWithin := inside _ (List.mem_cons_of_mem _ List.mem_cons_self)
  simp only [signal, bind_eq_ok, checkObject_ok_iff, item_ok_iff]
  exact ⟨copied, ⟨rfl, entriesCopied.hasKeys (hasKeys_of_eq rfl)⟩, _, whenPresent, _, sidePresent,
    whenOk, condition_copied copies whenRule _ whenCopied _ _ whenWithin, sideOk,
    side_copied copies sideRule _ sideCopied _ _ sideWithin, rfl⟩

end QuantFactory.RuleLanguage
