import QuantFactory.RuleLanguage.Grammar

/-!
# Accepted documents

The rules of conditions, sides, distances, exits and whole specifications, over
the rules of series.
-/

set_option autoImplicit false

namespace QuantFactory.RuleLanguage

open QuantFactory.Library QuantFactory.Python Validator

variable {F : Type} [PyFloat F] (v : Validator F)

/-! ## Conditions -/

def IsBarEnd (text : String) : Prop :=
  IsClock v.bar.firstBarEndMinutes sessionCloseMinutes v.bar.minutes text

inductive ConditionRule : PyValue F → Checked F → Prop
  | comparison {operator : String} {entries : Entries F} {left right : PyValue F}
      {leftOk rightOk : Checked F} (member : operator ∈ comparisonOperators ++ crossOperators)
      (keys : HasKeys entries [operator] [])
      (found : entries.lookup operator = some (.list [left, right]))
      (leftRule : SeriesRule v left leftOk) (rightRule : SeriesRule v right rightOk) :
      ConditionRule (.dict entries)
        ⟨.dict [(operator, .list [leftOk.node, rightOk.node])], leftOk.used ++ rightOk.used⟩
  | conditions {operator : String} {entries : Entries F}
      {items : List (PyValue F)} {checked : List (Checked F)} (member : operator ∈ ["all", "any"])
      (keys : HasKeys entries [operator] [])
      (found : entries.lookup operator = some (.list items)) (nonempty : items ≠ [])
      (length : items.length = checked.length)
      (rules : ∀ pair ∈ items.zip checked, ConditionRule pair.1 pair.2) :
      ConditionRule (.dict entries)
        ⟨.dict [(operator, .list (checked.map Checked.node))], checked.flatMap Checked.used⟩
  | not {entries : Entries F} {inner : PyValue F} {innerOk : Checked F}
      (keys : HasKeys entries ["not"] []) (found : entries.lookup "not" = some inner)
      (rule : ConditionRule inner innerOk) :
      ConditionRule (.dict entries) ⟨.dict [("not", innerOk.node)], innerOk.used⟩
  | everyMinutes {entries : Entries F} {minutes : Int}
      (keys : HasKeys entries ["every_minutes"] [])
      (found : entries.lookup "every_minutes" = some (.int minutes))
      (count : isCount (.int (F := F) minutes) v.bar.minutes
        (sessionCloseMinutes - sessionOpenMinutes) = true)
      (grid : minutes % v.bar.minutes = 0) :
      ConditionRule (.dict entries) ⟨.dict [("every_minutes", .int minutes)], []⟩
  | timeIs {entries : Entries F} {time : String}
      (keys : HasKeys entries ["time_is"] [])
      (found : entries.lookup "time_is" = some (.str time)) (timeClock : IsBarEnd v time) :
      ConditionRule (.dict entries) ⟨.dict [("time_is", .str time)], []⟩
  | timeBetween {entries : Entries F} {start stop : String}
      (keys : HasKeys entries ["time_between"] [])
      (found : entries.lookup "time_between" = some (.list [.str start, .str stop]))
      (startClock : IsBarEnd v start) (stopClock : IsBarEnd v stop)
      (ordered : minutesOf start ≤ minutesOf stop) :
      ConditionRule (.dict entries)
        ⟨.dict [("time_between", .list [.str start, .str stop])], []⟩

variable {v}

omit [PyFloat F] in
theorem barEnd_ok_iff {value : PyValue F} {path text : String} :
    v.barEnd value path = .ok text ↔ value = .str text ∧ IsBarEnd v text := clock_ok_iff

omit [PyFloat F] in
theorem everyMinutesNode_ok_iff {value : PyValue F} {path : String} {checked : Checked F} :
    v.everyMinutesNode value path = .ok checked ↔ ∃ minutes, value = .int minutes ∧
      isCount value v.bar.minutes (sessionCloseMinutes - sessionOpenMinutes) = true ∧
      minutes % v.bar.minutes = 0 ∧ checked = ⟨.dict [("every_minutes", .int minutes)], []⟩ := by
  simp only [everyMinutesNode, bind_eq_ok, raiseIf_eq_ok, orRaise_eq_ok, Bool.not_eq_eq_eq_not,
    Bool.not_false, decide_eq_false_iff_not, not_not, Except.ok.injEq, ne_eq]
  constructor
  · rintro ⟨_, count, minutes, isInt, _, grid, rfl⟩
    cases value with
    | int n =>
        cases Option.some.inj isInt
        exact ⟨_, rfl, count, grid, rfl⟩
    | _ => cases isInt
  · rintro ⟨minutes, rfl, count, grid, rfl⟩
    exact ⟨(), count, minutes, rfl, (), grid, rfl⟩

omit [PyFloat F] in
theorem timeBetweenNode_ok_iff {value : PyValue F} {path : String} {checked : Checked F} :
    v.timeBetweenNode value path = .ok checked ↔ ∃ start stop,
      value = .list [.str start, .str stop] ∧ IsBarEnd v start ∧ IsBarEnd v stop ∧
      minutesOf start ≤ minutesOf stop ∧
      checked = ⟨.dict [("time_between", .list [.str start, .str stop])], []⟩ := by
  simp only [timeBetweenNode, bind_eq_ok, pair_ok_iff, barEnd_ok_iff, raiseIf_eq_ok,
    decide_eq_false_iff_not, Nat.not_lt, Except.ok.injEq]
  constructor
  · rintro ⟨operands, rfl, start, ⟨isStart, startClock⟩, stop, ⟨isStop, stopClock⟩, _, ordered,
      rfl⟩
    rw [isStart, isStop]
    exact ⟨start, stop, rfl, startClock, stopClock, ordered, rfl⟩
  · rintro ⟨start, stop, rfl, startClock, stopClock, ordered, rfl⟩
    exact ⟨(.str start, .str stop), rfl, start, ⟨rfl, startClock⟩, stop, ⟨rfl, stopClock⟩, (),
      ordered, rfl⟩

omit [PyFloat F] in
theorem items_ok_iff {value : PyValue F} {items : List (PyValue F)} {error : RuleError} :
    orRaise (value.items?.filter fun items => !items.isEmpty) error = .ok items ↔
      value = .list items ∧ items ≠ [] := by
  cases value <;> simp [PyValue.items?, Option.filter_eq_some_iff]

/-- A list checked item by item pairs up with its results. -/
theorem collect_zip {α β ε : Type} {f : α × Nat → Except ε β} {items : List α} {start : Nat}
    {results : List β} (collected : collect f (items.zipIdx start) = .ok results) :
    items.length = results.length ∧ ∀ pair ∈ items.zip results, ∃ index,
      f (pair.1, index) = .ok pair.2 := by
  induction items generalizing start results with
  | nil =>
      cases Except.ok.inj collected
      simp
  | cons item rest ih =>
      simp only [List.zipIdx_cons, collect, bind_eq_ok, Except.ok.injEq] at collected
      obtain ⟨first, firstOk, others, restOk, rfl⟩ := collected
      obtain ⟨length, each⟩ := ih restOk
      refine ⟨by simp [length], ?_⟩
      intro pair member
      rw [List.zip_cons_cons] at member
      rcases List.mem_cons.mp member with rfl | inRest
      · exact ⟨start, firstOk⟩
      · exact each pair inRest

theorem conditionNode_rule {depth : Nat} {recurse : Check F}
    (sound : ∀ {node : PyValue F} {path : String} {checked : Checked F},
      recurse node path = .ok checked → ConditionRule v node checked)
    {operator : String} (member : operator ∈ conditionOperators) {node : PyValue F}
    {path : String} {checked : Checked F}
    (accepted : v.conditionNode (v.series depth) recurse operator node path = .ok checked) :
    ConditionRule v node checked := by
  simp only [conditionNode, bind_eq_ok, checkObject_ok_iff, item_ok_iff] at accepted
  obtain ⟨entries, ⟨rfl, keys⟩, value, found, accepted⟩ := accepted
  split_ifs at accepted with isComparison isList isNot isEvery isTime
  · simp only [comparisonNode, bind_eq_ok, pair_ok_iff, Except.ok.injEq] at accepted
    obtain ⟨operands, rfl, leftOk, leftRule, rightOk, rightRule, rfl⟩ := accepted
    exact .comparison isComparison keys found (series_rule leftRule) (series_rule rightRule)
  · simp only [conditionsNode, bind_eq_ok, items_ok_iff, Except.ok.injEq] at accepted
    obtain ⟨items, ⟨rfl, nonempty⟩, results, collected, rfl⟩ := accepted
    obtain ⟨length, each⟩ := collect_zip collected
    refine .conditions isList keys found nonempty length ?_
    intro pair inZip
    obtain ⟨index, pairOk⟩ := each pair inZip
    exact sound pairOk
  · subst isNot
    simp only [bind_eq_ok, Except.ok.injEq] at accepted
    obtain ⟨innerOk, rule, rfl⟩ := accepted
    exact .not keys found (sound rule)
  · subst isEvery
    obtain ⟨minutes, rfl, count, grid, rfl⟩ := everyMinutesNode_ok_iff.mp accepted
    exact .everyMinutes keys found count grid
  · subst isTime
    simp only [bind_eq_ok, barEnd_ok_iff, Except.ok.injEq] at accepted
    obtain ⟨time, ⟨rfl, timeClock⟩, rfl⟩ := accepted
    exact .timeIs keys found timeClock
  · obtain ⟨start, stop, rfl, startClock, stopClock, ordered, rfl⟩ :=
      timeBetweenNode_ok_iff.mp accepted
    have isBetween : operator = "time_between" := by
      simp only [List.mem_append, List.mem_cons, List.not_mem_nil, or_false, not_or] at isComparison isList
      simpa [conditionOperators, isComparison.1, isComparison.2, isList.1, isList.2, isNot, isEvery,
        isTime] using member
    subst isBetween
    exact .timeBetween keys found startClock stopClock ordered

theorem condition_rule {depth : Nat} {node : PyValue F} {path : String} {checked : Checked F}
    (accepted : v.condition depth node path = .ok checked) : ConditionRule v node checked := by
  induction depth generalizing node path checked with
  | zero => cases accepted
  | succ depth ih =>
      simp only [condition, bind_eq_ok, operatorOf_ok_iff] at accepted
      obtain ⟨operator, ⟨entries, rfl, heads⟩, accepted⟩ := accepted
      have member : operator ∈ conditionOperators := by
        have inHeads := heads ▸ List.mem_singleton_self operator
        simpa using (List.mem_filter.mp inHeads).2
      exact conditionNode_rule (fun inner => ih inner) member accepted

/-! ## Sides and distances -/

variable (v) in
inductive SideRule : PyValue F → Checked F → Prop
  | fixed {text : String} (member : text ∈ ["long", "short"]) : SideRule (.str text) ⟨.str text, []⟩
  | signed {operator : String} {operand : PyValue F} {operandOk : Checked F}
      (member : operator ∈ sideOperators) (rule : SeriesRule v operand operandOk) :
      SideRule (.dict [(operator, operand)])
        ⟨.dict [(operator, operandOk.node)], operandOk.used⟩

theorem side_rule {depth : Nat} {node : PyValue F} {path : String} {checked : Checked F}
    (accepted : v.side depth node path = .ok checked) : SideRule v node checked := by
  unfold side at accepted
  split at accepted
  · split_ifs at accepted with member
    · cases Except.ok.inj accepted
      exact .fixed member
    · cases accepted
  · split_ifs at accepted with member
    · simp only [bind_eq_ok, Except.ok.injEq] at accepted
      obtain ⟨operandOk, rule, rfl⟩ := accepted
      exact .signed member (series_rule rule)
    · cases accepted
  · cases accepted

variable (v) in
inductive DistanceValueRule (stop kind : String) : PyValue F → Checked F → Prop
  | level {value : PyValue F} {valueOk : Checked F} (isKind : kind = "level")
      (allowed : stop = "stop_loss") (rule : SeriesRule v value valueOk) :
      DistanceValueRule stop kind value valueOk
  | signalBar (isKind : kind = "signal_bar") (allowed : stop = "stop_loss") :
      DistanceValueRule stop kind (.bool true) ⟨.bool true, []⟩
  | multiple {value : PyValue F} {valueOk : Checked F} (isKind : kind = "r_multiple")
      (allowed : stop ∈ ["take_profit", "trail_after"])
      (amount : NumericRule v (.amount none) value valueOk) :
      DistanceValueRule stop kind value valueOk
  | atr {atr : Entries F} {length multiple : PyValue F}
      {lengthOk multipleOk : Checked F} (isKind : kind = "atr")
      (keys : HasKeys atr ["length", "multiple"] [])
      (lengthFound : atr.lookup "length" = some length)
      (multipleFound : atr.lookup "multiple" = some multiple)
      (count : NumericRule v (.count 1 v.bar.barsPerSession) length lengthOk)
      (amount : NumericRule v (.amount none) multiple multipleOk) :
      DistanceValueRule stop kind (.dict atr)
        ⟨.dict [("length", lengthOk.node), ("multiple", multipleOk.node)],
          lengthOk.used ++ multipleOk.used⟩
  | amount {value : PyValue F} {valueOk : Checked F} (isKind : kind ∈ ["percent", "points", "ticks"])
      (amount : NumericRule v (.amount (if kind = "percent" then some 100 else none)) value
        valueOk) : DistanceValueRule stop kind value valueOk

variable (v) in
inductive DistanceRule (stop : String) : PyValue F → Checked F → Prop
  | distance {kind : String} {entries : Entries F} {value : PyValue F}
      {valueOk : Checked F} (keys : HasKeys entries [kind] [])
      (found : entries.lookup kind = some value)
      (rule : DistanceValueRule v stop kind value valueOk) :
      DistanceRule stop (.dict entries) ⟨.dict [(kind, valueOk.node)], valueOk.used⟩

theorem atrDistance_rule {stop path : String} {value : PyValue F} {checked : Checked F}
    (accepted : v.atrDistance value path = .ok checked) :
    DistanceValueRule v stop "atr" value checked := by
  simp only [atrDistance, bind_eq_ok, checkObject_ok_iff, item_ok_iff, count_ok_iff, amount_ok_iff,
    Except.ok.injEq] at accepted
  obtain ⟨atr, ⟨rfl, keys⟩, length, lengthFound, lengthOk, count, multiple, multipleFound,
    multipleOk, amount, rfl⟩ := accepted
  exact .atr rfl keys lengthFound multipleFound count amount

theorem stopOnlyDistance_rule {depth : Nat} {kind stop path : String} {stops : List String}
    (only : stopOnlyKinds.lookup kind = some stops) {value : PyValue F} {checked : Checked F}
    (accepted : v.stopOnlyDistance depth kind stop stops value path = .ok checked) :
    DistanceValueRule v stop kind value checked := by
  simp only [stopOnlyDistance, raiseIf_bind_eq_ok, Bool.not_eq_eq_eq_not, Bool.not_false,
    decide_eq_true_eq] at accepted
  obtain ⟨allowed, accepted⟩ := accepted
  have kinds : kind = "level" ∧ stops = ["stop_loss"] ∨ kind = "signal_bar" ∧ stops = ["stop_loss"] ∨
      kind = "r_multiple" ∧ stops = ["take_profit", "trail_after"] := by
    simp only [stopOnlyKinds, List.lookup_cons] at only
    split at only
    · rename_i same
      exact .inl ⟨by simpa using same, (Option.some.inj only).symm⟩
    · split at only
      · rename_i same
        exact .inr (.inl ⟨by simpa using same, (Option.some.inj only).symm⟩)
      · split at only
        · rename_i same
          exact .inr (.inr ⟨by simpa using same, (Option.some.inj only).symm⟩)
        · cases only
  rcases kinds with ⟨rfl, rfl⟩ | ⟨rfl, rfl⟩ | ⟨rfl, rfl⟩
  · simp only [String.reduceEq, if_false, if_true] at accepted
    exact .level rfl (List.mem_singleton.mp allowed) (series_rule accepted)
  · simp only [if_true, signalBar] at accepted
    split at accepted
    · cases Except.ok.inj accepted
      exact .signalBar rfl (List.mem_singleton.mp allowed)
    · cases accepted
  · simp only [String.reduceEq, if_false, amount_ok_iff] at accepted
    exact .multiple rfl allowed accepted

theorem distance_rule {depth : Nat} {stop path : String} {node : PyValue F} {checked : Checked F}
    (accepted : v.distance depth stop node path = .ok checked) :
    DistanceRule v stop node checked := by
  simp only [distance, bind_eq_ok, operatorOf_ok_iff, checkObject_ok_iff, item_ok_iff,
    Except.ok.injEq] at accepted
  obtain ⟨kind, ⟨_, rfl, heads⟩, entries, ⟨same, keys⟩, value, found, valueOk, valueChecked,
    rfl⟩ := accepted
  cases same
  have member : kind ∈ distanceKinds ++ stopOnlyKinds.map Prod.fst := by
    have inHeads := heads ▸ List.mem_singleton_self kind
    simpa using (List.mem_filter.mp inHeads).2
  refine .distance keys found ?_
  unfold distanceValue at valueChecked
  cases only : stopOnlyKinds.lookup kind with
  | some stops =>
      rw [only] at valueChecked
      exact stopOnlyDistance_rule only valueChecked
  | none =>
      rw [only] at valueChecked
      by_cases isAtr : kind = "atr"
      · subst isAtr
        exact atrDistance_rule valueChecked
      · simp only [if_neg isAtr, amount_ok_iff] at valueChecked
        refine .amount ?_ valueChecked
        have notOnly : kind ∉ stopOnlyKinds.map Prod.fst := by
          intro named
          have found := lookup_isSome_iff.mpr named
          rw [only] at found
          cases found
        rcases List.mem_append.mp member with isKind | named
        · simpa [distanceKinds, isAtr] using isKind
        · exact absurd named notOnly

/-! ## Exits -/

/-- An entry that may be left out, written only when it is there. -/
def OptionalRule (rule : PyValue F → Checked F → Prop) (entries : Entries F)
    (key : String) (part : CheckedEntries F) : Prop :=
  entries.lookup key = none ∧ part = ⟨[], []⟩ ∨
    ∃ value checked, entries.lookup key = some value ∧ rule value checked ∧
      part = ⟨[(key, checked.node)], checked.used⟩

omit [PyFloat F] in
theorem optionalEntry_rule {check : Check F} {rule : PyValue F → Checked F → Prop}
    (sound : ∀ node path checked, check node path = .ok checked → rule node checked)
    {entries : Entries F} {path key : String} {part : CheckedEntries F}
    (accepted : optionalEntry entries path key check = .ok part) :
    OptionalRule rule entries key part := by
  unfold optionalEntry at accepted
  cases found : entries.lookup key with
  | none =>
      rw [found] at accepted
      exact .inl ⟨found, (Except.ok.inj accepted).symm⟩
  | some value =>
      rw [found] at accepted
      obtain ⟨checked, checkedOk, rfl⟩ := map_eq_ok.mp accepted
      exact .inr ⟨value, checked, found, sound _ _ _ checkedOk, rfl⟩

variable (v) in
def ClockRule (earliest latest : Nat) (value : PyValue F) (checked : Checked F) : Prop :=
  ∃ time, value = .str time ∧ IsClock earliest latest v.bar.minutes time ∧
    checked = ⟨.str time, []⟩

omit [PyFloat F] in
theorem clockCheck_ok_iff {earliest latest : Nat} {value : PyValue F} {path : String}
    {checked : Checked F} : v.clockCheck earliest latest value path = .ok checked ↔
      ClockRule v earliest latest value checked := by
  simp only [clockCheck, clockWithin, map_eq_ok, clock_ok_iff, ClockRule]
  constructor
  · rintro ⟨time, ⟨rfl, timeClock⟩, rfl⟩
    exact ⟨time, rfl, timeClock, rfl⟩
  · rintro ⟨time, rfl, timeClock, rfl⟩
    exact ⟨time, ⟨rfl, timeClock⟩, rfl⟩

variable (v) in
inductive ExitWhenRule : PyValue F → Checked F → Prop
  | sides {entries : Entries F} {long short : CheckedEntries F}
      (keys : HasKeys entries [] ["long", "short"]) (nonempty : entries ≠ [])
      (longRule : OptionalRule (ConditionRule v) entries "long" long)
      (shortRule : OptionalRule (ConditionRule v) entries "short" short) :
      ExitWhenRule (.dict entries) ⟨.dict (long.entries ++ short.entries),
        long.used ++ short.used⟩

theorem exitWhen_rule {depth : Nat} {node : PyValue F} {path : String} {checked : Checked F}
    (accepted : v.exitWhen depth node path = .ok checked) : ExitWhenRule v node checked := by
  simp only [exitWhen, bind_eq_ok, checkObject_ok_iff, raiseIf_eq_ok,
    Except.ok.injEq] at accepted
  obtain ⟨entries, ⟨rfl, keys⟩, _, filled, long, longOk, short, shortOk, rfl⟩ := accepted
  exact .sides keys (by simpa using filled) (optionalEntry_rule (fun _ _ _ => condition_rule) longOk)
    (optionalEntry_rule (fun _ _ _ => condition_rule) shortOk)

structure MultiplesKnown (stops : Entries F) : Prop where
  takeProfit : lacksStopLoss stops "take_profit" = false
  trailAfter : lacksStopLoss stops "trail_after" = false
  trailing : ((stops.lookup "trail_after").isSome && (stops.lookup "trailing_stop").isNone) = false

omit [PyFloat F] in
theorem checkMultiples_ok_iff {stops : Entries F} {path : String} {value : Unit} :
    checkMultiples stops path = .ok value ↔ MultiplesKnown stops := by
  simp only [checkMultiples, raiseIf_bind_eq_ok, raiseIf_eq_ok]
  constructor
  · rintro ⟨takeProfit, trailAfter, trailing⟩
    exact ⟨takeProfit, trailAfter, trailing⟩
  · rintro ⟨takeProfit, trailAfter, trailing⟩
    exact ⟨takeProfit, trailAfter, trailing⟩

variable (v) in
inductive ExitRule (flatAt : Option Nat) : PyValue F → Checked F → Prop
  | exit {entries : Entries F} {afterBars atTime exitWhen : CheckedEntries F}
      {opposite : Bool} {stops : List (CheckedEntries F)} (keys : HasKeys entries [] exitKeys)
      (afterBarsRule : OptionalRule (NumericRule v (.count 1 (v.longestHold flatAt))) entries
        "after_bars" afterBars)
      (atTimeRule : OptionalRule (ClockRule v v.earliestExit (flatAt.getD v.bar.lastExit)) entries
        "at_time" atTime)
      (flag : FlagIs entries "on_opposite_signal" opposite)
      (stopRules : List.Forall₂ (fun key part => OptionalRule (DistanceRule v key) entries key part)
        stopKeys stops)
      (multiples : MultiplesKnown (CheckedEntries.join stops).entries)
      (exitWhenRule : OptionalRule (ExitWhenRule v) entries "exit_when" exitWhen) :
      ExitRule flatAt (.dict entries)
        ⟨.dict (afterBars.entries ++ atTime.entries ++ [("on_opposite_signal", .bool opposite)] ++
            (CheckedEntries.join stops).entries ++ exitWhen.entries),
          afterBars.used ++ atTime.used ++ (CheckedEntries.join stops).used ++ exitWhen.used⟩

theorem exit_rule {depth : Nat} {flatAt : Option Nat} {node : PyValue F} {path : String}
    {checked : Checked F} (accepted : v.exit depth flatAt node path = .ok checked) :
    ExitRule v flatAt node checked := by
  simp only [exit, bind_eq_ok, checkObject_ok_iff, flag_ok_iff, checkMultiples_ok_iff,
    Except.ok.injEq] at accepted
  obtain ⟨entries, ⟨rfl, keys⟩, afterBars, afterBarsOk, atTime, atTimeOk, opposite, flag, stops,
    stopsOk, _, multiples, exitWhen, exitWhenOk, rfl⟩ := accepted
  have countSound : ∀ node path checked, v.count 1 (v.longestHold flatAt) node path = .ok checked →
      NumericRule v (.count 1 (v.longestHold flatAt)) node checked :=
    fun _ _ _ => (count_ok_iff v).mp
  have afterBarsRule := optionalEntry_rule countSound afterBarsOk
  exact .exit keys afterBarsRule
    (optionalEntry_rule (fun _ _ _ => clockCheck_ok_iff.mp) atTimeOk) flag
    ((collect_eq_ok.mp stopsOk).imp fun key part partOk => optionalEntry_rule (fun _ _ _ => distance_rule) partOk)
    multiples (optionalEntry_rule (fun _ _ _ => exitWhen_rule) exitWhenOk)

/-! ## Specifications -/

variable (v) in
inductive SignalRule : PyValue F → Checked F → Prop
  | signal {entries : Entries F} {whenNode sideNode : PyValue F}
      {whenOk sideOk : Checked F} (keys : HasKeys entries ["when", "side"] [])
      (whenFound : entries.lookup "when" = some whenNode)
      (sideFound : entries.lookup "side" = some sideNode)
      (whenRule : ConditionRule v whenNode whenOk) (sideRule : SideRule v sideNode sideOk) :
      SignalRule (.dict entries) ⟨.dict [("when", whenOk.node), ("side", sideOk.node)],
        whenOk.used ++ sideOk.used⟩

theorem signal_rule {depth : Nat} {node : PyValue F} {path : String} {checked : Checked F}
    (accepted : v.signal depth node path = .ok checked) : SignalRule v node checked := by
  simp only [signal, bind_eq_ok, checkObject_ok_iff, item_ok_iff, Except.ok.injEq] at accepted
  obtain ⟨entries, ⟨rfl, keys⟩, whenNode, whenFound, sideNode, sideFound, whenOk, whenRule, sideOk,
    sideRule, rfl⟩ := accepted
  exact .signal keys whenFound sideFound (condition_rule whenRule) (side_rule sideRule)

/-- The names of `skip_days`, and what is written of them. -/
def SkipDaysRule (entries written : Entries F) : Prop :=
  entries.lookup "skip_days" = none ∧ written = [] ∨
    ∃ names : List String, entries.lookup "skip_days" = some (.list (names.map .str)) ∧
      names.Nodup ∧ (∀ name ∈ names, name ∈ skipDayCalendars) ∧
      written = if names.isEmpty then [] else [("skip_days", .list (names.map .str))]

omit [PyFloat F] in
theorem filterMap_text? {items : List (PyValue F)}
    (texts : (items.filterMap PyValue.text?).length = items.length) :
    items = (items.filterMap PyValue.text?).map .str := by
  induction items with
  | nil => rfl
  | cons item rest ih =>
      have shorter := List.length_filterMap_le PyValue.text? rest
      cases item with
      | str text =>
          simp only [List.filterMap_cons, PyValue.text?, List.length_cons, Nat.add_right_cancel_iff]
            at texts ⊢
          rw [List.map_cons, ← ih texts]
      | _ =>
          simp only [List.filterMap_cons, PyValue.text?, List.length_cons] at texts
          omega

omit [PyFloat F] in
theorem skipDayNames_eq_some {value : PyValue F} {names : List String} :
    skipDayNames value = some names ↔ value = .list (names.map .str) ∧ names.Nodup ∧
      ∀ name ∈ names, name ∈ skipDayCalendars := by
  cases value with
  | list items =>
      simp only [skipDayNames, PyValue.items?, Option.bind_eq_bind, Option.bind_some,
        Option.ite_none_right_eq_some, Option.some.injEq, PyValue.list.injEq]
      constructor
      · rintro ⟨⟨length, distinct, known⟩, rfl⟩
        exact ⟨filterMap_text? length, distinct, known⟩
      · rintro ⟨rfl, distinct, known⟩
        have texts : (names.map (PyValue.str (F := F))).filterMap PyValue.text? = names := by
          rw [List.filterMap_map]
          exact List.filterMap_some
        rw [texts, List.length_map]
        exact ⟨⟨rfl, distinct, known⟩, rfl⟩
  | _ => simp [skipDayNames, PyValue.items?]

omit [PyFloat F] in
theorem skipDays_ok_iff {entries written : Entries F} {path : String} :
    skipDays entries path = .ok written ↔ SkipDaysRule entries written := by
  unfold skipDays SkipDaysRule
  cases found : entries.lookup "skip_days" with
  | none =>
      constructor
      · intro done
        exact .inl ⟨rfl, (Except.ok.inj done).symm⟩
      · rintro (⟨_, rfl⟩ | ⟨_, present, _⟩)
        · rfl
        · cases present
  | some value =>
      simp only [reduceCtorEq, false_and, false_or, Option.some.injEq]
      cases read : skipDayNames value with
      | none =>
          simp only [ruleSpecError, reduceCtorEq, false_iff, not_exists]
          rintro names ⟨isList, distinct, known, _⟩
          rw [skipDayNames_eq_some.mpr ⟨isList, distinct, known⟩] at read
          cases read
      | some names =>
          obtain ⟨rfl, distinct, known⟩ := skipDayNames_eq_some.mp read
          have only : ∀ others : List String, PyValue.list (F := F) (names.map .str) =
              .list (others.map .str) → names = others := by
            intro others same
            exact List.map_injective_iff.mpr (fun _ _ => PyValue.str.inj) (PyValue.list.inj same)
          constructor
          · intro done
            refine ⟨names, rfl, distinct, known, ?_⟩
            cases names <;> exact (Except.ok.inj done).symm
          · rintro ⟨others, same, _, _, rfl⟩
            obtain rfl := only others same
            cases names <;> rfl

variable (v) in
inductive SpecRule (entries : Entries F) : Checked F → Prop
  | spec {tickSize maxTrades exitNode : PyValue F} {session skip : Entries F}
      {items : List (PyValue F)} {signals : List (Checked F)} {flatAt : CheckedEntries F}
      {exitOk : Checked F}
      (keys : HasKeys entries topLevelKeys ["exit", "skip_days", "flat_at"])
      (language : entries.lookup "language" = some (.str ruleLanguage))
      (bar : entries.lookup "bar" = some (.str v.bar.text))
      (tickFound : entries.lookup "tick_size" = some tickSize)
      (tickOk : isAmount tickSize none = .ok true)
      (sessionFound : entries.lookup "session" = some (.dict session))
      (sessionKeys : HasKeys session (supportedSession.map Prod.fst) [])
      (sessionValues : ∀ expected ∈ supportedSession,
        session.lookup expected.1 = some (.str expected.2))
      (flatAtRule : OptionalRule (ClockRule v v.earliestExit v.bar.lastExit) entries "flat_at"
        flatAt)
      (signalsFound : entries.lookup "signals" = some (.list items)) (nonempty : items ≠ [])
      (length : items.length = signals.length)
      (signalRules : ∀ pair ∈ items.zip signals, SignalRule v pair.1 pair.2)
      (tradesFound : entries.lookup "max_trades_per_session" = some maxTrades)
      (tradesCount : isCount maxTrades 1 v.bar.barsPerSession = true)
      (skipRule : SkipDaysRule entries skip)
      (exitFound : (entries.lookup "exit").getD (.dict []) = exitNode)
      (exitRule : ExitRule v (flatAtMinutes flatAt) exitNode exitOk) :
      SpecRule entries ⟨.dict ([("language", .str ruleLanguage), ("bar", .str v.bar.text),
          ("tick_size", tickSize), ("session", sessionDocument),
          ("signals", .list (signals.map Checked.node)), ("exit", exitOk.node),
          ("max_trades_per_session", maxTrades)] ++ flatAt.entries ++ skip),
        signals.flatMap Checked.used ++ exitOk.used⟩

omit [PyFloat F] in
theorem checkSessionEntry_ok_iff {runtime : RuleRuntime F} {entries : Entries F}
    {path : String} {expected : String × String} :
    checkSessionEntry runtime entries path expected = .ok () ↔
      entries.lookup expected.1 = some (.str expected.2) := by
  simp only [checkSessionEntry, bind_eq_ok, item_ok_iff, raiseIf_eq_ok, decide_eq_false_iff_not,
    not_not, ne_eq]
  constructor
  · rintro ⟨value, found, text⟩
    cases value with
    | str other =>
        cases Option.some.inj text
        exact found
    | _ => cases text
  · intro found
    exact ⟨_, found, rfl⟩

theorem specEntries_rule {depth : Nat} {entries : Entries F} {checked : Checked F}
    (keys : HasKeys entries topLevelKeys ["exit", "skip_days", "flat_at"])
    (language : entries.lookup "language" = some (.str ruleLanguage))
    (bar : entries.lookup "bar" = some (.str v.bar.text))
    (accepted : v.specEntries depth entries = .ok checked) : SpecRule v entries checked := by
  simp only [specEntries, bind_eq_ok, item_ok_iff, raiseIf_eq_ok, checkObject_ok_iff,
    flatAtEntry, signals, items_ok_iff, skipDays_ok_iff, Bool.not_eq_eq_eq_not, Bool.not_false,
    Except.ok.injEq] at accepted
  obtain ⟨tickSize, tickFound, _, tickOk, _, rfl, _, sessionFound, session, ⟨rfl, sessionKeys⟩,
    results, sessionOk, flatAt, flatAtOk, _, signalsFound, signals, ⟨items, ⟨rfl, nonempty⟩,
    collected⟩, maxTrades, tradesFound, _, tradesCount, skip, skipRule, exitOk, exitChecked,
    rfl⟩ := accepted
  obtain ⟨length, each⟩ := collect_zip collected
  refine .spec keys language bar tickFound tickOk sessionFound sessionKeys ?_
    (optionalEntry_rule (fun _ _ _ => clockCheck_ok_iff.mp) flatAtOk) signalsFound nonempty length
    ?_ tradesFound tradesCount skipRule rfl (exit_rule exitChecked)
  · intro expected member
    exact checkSessionEntry_ok_iff.mp (collect_unit.mp ⟨results, sessionOk⟩ expected member)
  · intro pair member
    obtain ⟨index, pairOk⟩ := each pair member
    exact signal_rule pairOk

/-- What an accepted specification is: its object, its bar and the rules it follows. -/
structure Accepted (runtime : RuleRuntime F) (packetVariables : Entries F)
    (entries : Entries F) (bar : Bar) (checked : Checked F) : Prop where
  small : checkSize (.dict entries) = .ok ()
  rule : SpecRule ⟨runtime, packetVariables, bar⟩ entries checked
  used : checkUnused packetVariables checked.used = .ok ()
  grid : checkGridSize packetVariables = .ok ()

theorem Bar.ofText_eq_some {text : String} {bar : Bar} :
    Bar.ofText text = some bar ↔ text = bar.text := by
  constructor
  · unfold Bar.ofText
    split <;> simp_all [Bar.text, eq_comm]
  · rintro rfl
    cases bar <;> rfl

theorem validate_accepted {runtime : RuleRuntime F} {spec packetVariables normalized : PyValue F}
    (accepted : validateRuleSpec runtime spec packetVariables = .ok normalized) :
    ∃ declared entries bar checked, variableEntries packetVariables = .ok declared ∧
      spec = .dict entries ∧ Accepted runtime declared entries bar checked ∧
      normalized = checked.node := by
  simp only [validateRuleSpec, specNode, checkBar, bind_eq_ok, raiseIf_eq_ok, checkObject_ok_iff,
    item_ok_iff, orRaise_eq_ok, Except.ok.injEq] at accepted
  obtain ⟨_, _, declared, isDeclared, _, small, checked, ⟨entries, ⟨rfl, keys⟩, language,
    languageFound, _, isLanguage, barNode, barFound, bar, isBar, specOk⟩, _, used, _, grid,
    rfl⟩ := accepted
  have isText : ∀ {node : PyValue F} {text : String}, node.text? = some text → node = .str text := by
    intro node text same
    cases node with
    | str other => rw [Option.some.inj same]
    | _ => cases same
  have bar_eq : entries.lookup "bar" = some (.str bar.text) := by
    obtain ⟨text, read, isText'⟩ := Option.bind_eq_some_iff.mp isBar
    rw [barFound, isText read, Bar.ofText_eq_some.mp isText']
  have language_eq : entries.lookup "language" = some (.str ruleLanguage) := by
    have text : language.text? = some ruleLanguage := by simpa using isLanguage
    rw [languageFound, isText text]
  exact ⟨declared, entries, bar, checked, isDeclared, rfl,
    ⟨small, specEntries_rule keys language_eq bar_eq specOk, used, grid⟩, rfl⟩

end QuantFactory.RuleLanguage
