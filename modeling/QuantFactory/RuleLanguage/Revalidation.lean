import Mathlib
import QuantFactory.Python.Samples
import QuantFactory.RuleLanguage.Elements

/-!
# Validating a normalized specification again

The exits and the whole of a normalized specification check to themselves, so nothing but
the limits on the size of a document can refuse it.
-/

set_option autoImplicit false

namespace QuantFactory.RuleLanguage

open QuantFactory.Library QuantFactory.Python Validator

variable {F : Type} [PyFloat F] {v : Validator F}

/-! ## Optional entries -/

section Optional
variable {rule : PyValue F → Checked F → Prop} {entries written : Entries F}
  {key path : String} {part : CheckedEntries F}

omit [PyFloat F] in
theorem OptionalRule.absent (isPart : OptionalRule rule entries key part) {other : String}
    (differs : other ≠ key) : part.entries.lookup other = none := by
  rcases isPart with ⟨_, rfl⟩ | ⟨value, checked, _, _, rfl⟩
  · rfl
  · have unequal : (other == key) = false := by simpa using differs
    simp [List.lookup_cons, unequal]

omit [PyFloat F] in
theorem OptionalRule.key_eq (isPart : OptionalRule rule entries key part)
    {entry : String × PyValue F} (member : entry ∈ part.entries) : entry.1 = key := by
  rcases isPart with ⟨_, rfl⟩ | ⟨value, checked, _, _, rfl⟩
  · cases member
  · rw [List.mem_singleton.mp member]

omit [PyFloat F] in
theorem OptionalRule.lookup_none (isPart : OptionalRule rule entries key part)
    (unwritten : part.entries = []) : entries.lookup key = none := by
  rcases isPart with ⟨none, _⟩ | ⟨value, checked, _, _, rfl⟩
  · exact none
  · cases unwritten

omit [PyFloat F] in
theorem OptionalRule.again {check : Check F} (isPart : OptionalRule rule entries key part)
    (found : written.lookup key = part.entries.lookup key)
    (again : ∀ value checked, rule value checked → (key, checked.node) ∈ part.entries →
      ∀ path, check checked.node path = .ok checked) :
    optionalEntry written path key check = .ok part := by
  unfold optionalEntry
  rcases isPart with ⟨_, rfl⟩ | ⟨value, checked, _, accepted, rfl⟩
  · have absent : written.lookup key = none := found
    rw [absent]
  · have present : written.lookup key = some checked.node := found.trans List.lookup_cons_self
    rw [present]
    simp only [again value checked accepted List.mem_cons_self, Except.map]

variable {rules : String → PyValue F → Checked F → Prop} {keys : List String}
  {parts : List (CheckedEntries F)}

omit [PyFloat F] in
theorem join_key (each : List.Forall₂ (fun key part => OptionalRule (rules key) entries key part)
    keys parts) {entry : String × PyValue F} (member : entry ∈ (CheckedEntries.join parts).entries) :
    entry.1 ∈ keys := by
  induction each with
  | nil => cases member
  | @cons key part keys parts isPart _ ih =>
      rcases List.mem_append.mp member with here | later
      · rw [isPart.key_eq here]
        exact List.mem_cons_self
      · exact List.mem_cons_of_mem _ (ih later)

omit [PyFloat F] in
theorem join_absent
    (each : List.Forall₂ (fun key part => OptionalRule (rules key) entries key part) keys parts)
    {other : String} (differs : other ∉ keys) :
    (CheckedEntries.join parts).entries.lookup other = none := by
  by_contra present
  obtain ⟨entry, member, rfl⟩ := List.mem_map.mp
    (lookup_isSome_iff.mp (Option.ne_none_iff_isSome.mp present))
  exact differs (join_key each member)

omit [PyFloat F] in
theorem join_found
    (each : List.Forall₂ (fun key part => OptionalRule (rules key) entries key part) keys parts)
    (distinct : keys.Nodup) {key : String} {part : CheckedEntries F}
    (member : (key, part) ∈ keys.zip parts) :
    OptionalRule (rules key) entries key part ∧
      (CheckedEntries.join parts).entries.lookup key = part.entries.lookup key := by
  induction each with
  | nil => cases member
  | @cons first firstPart keys parts isFirst rest ih =>
      obtain ⟨fresh, distinct⟩ := List.nodup_cons.mp distinct
      have joined : (CheckedEntries.join (firstPart :: parts)).entries =
          firstPart.entries ++ (CheckedEntries.join parts).entries := rfl
      rw [joined, List.lookup_append]
      rw [List.zip_cons_cons] at member
      rcases List.mem_cons.mp member with here | later
      · cases here
        exact ⟨isFirst, by rw [join_absent rest fresh, Option.or_none]⟩
      · obtain ⟨isPart, found⟩ := ih distinct later
        have differs : key ≠ first := by
          rintro rfl
          exact fresh (List.of_mem_zip later).1
        exact ⟨isPart, by rw [isFirst.absent differs, Option.none_or, found]⟩

end Optional

/-! ## Exits -/

theorem NumericRule.again {check : ParamCheck} {node : PyValue F} {checked : Checked F}
    (rule : NumericRule v check node checked) : NumericRule v check checked.node checked :=
  rule.copied copies_eq rfl

omit [PyFloat F] in
theorem ClockRule.again {earliest latest : Nat} {node : PyValue F} {checked : Checked F}
    (rule : ClockRule v earliest latest node checked) :
    ClockRule v earliest latest checked.node checked := by
  obtain ⟨time, rfl, isClock, rfl⟩ := rule
  exact ⟨time, rfl, isClock, rfl⟩

theorem exitWhen_again {node : PyValue F} {checked : Checked F} (rule : ExitWhenRule v node checked)
    {depth : Nat} (path : String) (within : checked.node.depth ≤ depth) :
    v.exitWhen depth checked.node path = .ok checked := by
  obtain ⟨keys, nonempty, longRule, shortRule⟩ := rule
  rename_i entries long short
  have hasKeys : HasKeys (long.entries ++ short.entries) [] ["long", "short"] := by
    refine ⟨fun key member => ?_, fun key member => absurd member List.not_mem_nil⟩
    obtain ⟨entry, inEntries, rfl⟩ := List.mem_map.mp member
    rcases List.mem_append.mp inEntries with inLong | inShort
    · simp [longRule.key_eq inLong]
    · simp [shortRule.key_eq inShort]
  have filled : long.entries ++ short.entries ≠ [] := by
    intro empty
    obtain ⟨noLong, noShort⟩ := List.append_eq_nil_iff.mp empty
    obtain ⟨entry, rest, rfl⟩ := List.exists_cons_of_ne_nil nonempty
    have known := keys.allowed entry.1 (by simp)
    have present := lookup_isSome_iff.mpr (show entry.1 ∈ (entry :: rest).map Prod.fst by simp)
    rcases (by simpa using known : entry.1 = "long" ∨ entry.1 = "short") with isLong | isShort
    · rw [isLong, longRule.lookup_none noLong] at present
      cases present
    · rw [isShort, shortRule.lookup_none noShort] at present
      cases present
  have inside : ∀ entry ∈ long.entries ++ short.entries, entry.2.depth ≤ depth :=
    fun entry member => depth_entry (within.trans (Nat.le_succ depth)) member
  have longFound : (long.entries ++ short.entries).lookup "long" = long.entries.lookup "long" := by
    rw [List.lookup_append, shortRule.absent (by decide), Option.or_none]
  have shortFound : (long.entries ++ short.entries).lookup "short" =
      short.entries.lookup "short" := by
    rw [List.lookup_append, longRule.absent (by decide), Option.none_or]
  simp only [exitWhen, bind_eq_ok, checkObject_ok_iff, raiseIf_eq_ok, Except.ok.injEq]
  refine ⟨_, ⟨rfl, hasKeys⟩, (), by simpa using filled, long, ?_, short, ?_, rfl⟩
  · exact longRule.again longFound fun value inner isRule member path =>
      condition_copied copies_eq isRule _ rfl _ _ (inside _ (List.mem_append_left _ member))
  · exact shortRule.again shortFound fun value inner isRule member path =>
      condition_copied copies_eq isRule _ rfl _ _ (inside _ (List.mem_append_right _ member))

theorem exit_again {flatAt : Option Nat} {node : PyValue F} {checked : Checked F}
    (rule : ExitRule v flatAt node checked) {depth : Nat} (path : String)
    (within : checked.node.depth ≤ depth) : v.exit depth flatAt checked.node path = .ok checked := by
  obtain ⟨keys, afterBarsRule, atTimeRule, flag, stopRules, multiples, exitWhenRule⟩ := rule
  rename_i entries afterBars atTime exitWhen opposite stops
  have distinct : stopKeys.Nodup := by decide
  generalize isWritten : afterBars.entries ++ atTime.entries ++
    [("on_opposite_signal", .bool opposite)] ++ (CheckedEntries.join stops).entries ++
      exitWhen.entries = written at within ⊢
  have inside : ∀ entry ∈ written, entry.2.depth ≤ depth :=
    fun entry member => depth_entry (within.trans (Nat.le_succ depth)) member
  have isPart : ∀ entry, (entry ∈ afterBars.entries ∨ entry ∈ atTime.entries ∨
      entry = ("on_opposite_signal", .bool opposite) ∨
      entry ∈ (CheckedEntries.join stops).entries ∨ entry ∈ exitWhen.entries) ↔ entry ∈ written := by
    intro entry
    simp [← isWritten]
  have hasKeys : HasKeys written [] exitKeys := by
    refine ⟨fun key member => ?_, fun key member => absurd member List.not_mem_nil⟩
    obtain ⟨entry, inWritten, rfl⟩ := List.mem_map.mp member
    rcases (isPart entry).mpr inWritten with inAfter | inTime | rfl | inStops | inWhen
    · simp [afterBarsRule.key_eq inAfter, exitKeys]
    · simp [atTimeRule.key_eq inTime, exitKeys]
    · simp [exitKeys]
    · have isStop := join_key stopRules inStops
      simp [exitKeys, isStop]
    · simp [exitWhenRule.key_eq inWhen, exitKeys]
  have stopsAbsent : ∀ other ∉ stopKeys, (CheckedEntries.join stops).entries.lookup other = none :=
    fun other differs => join_absent stopRules differs
  have afterFound : written.lookup "after_bars" = afterBars.entries.lookup "after_bars" := by
    simp [← isWritten, List.lookup_append, List.lookup_cons, atTimeRule.absent,
      stopsAbsent "after_bars" (by decide), exitWhenRule.absent]
  have timeFound : written.lookup "at_time" = atTime.entries.lookup "at_time" := by
    simp [← isWritten, List.lookup_append, List.lookup_cons, afterBarsRule.absent,
      stopsAbsent "at_time" (by decide), exitWhenRule.absent]
  have oppositeFound : written.lookup "on_opposite_signal" = some (.bool opposite) := by
    simp [← isWritten, List.lookup_append, afterBarsRule.absent, atTimeRule.absent]
  have whenFound : written.lookup "exit_when" = exitWhen.entries.lookup "exit_when" := by
    simp [← isWritten, List.lookup_append, List.lookup_cons, afterBarsRule.absent,
      atTimeRule.absent, stopsAbsent "exit_when" (by decide)]
  have stopFound : ∀ key ∈ stopKeys,
      written.lookup key = (CheckedEntries.join stops).entries.lookup key := by
    intro key isStop
    have others : ∀ key ∈ stopKeys, key ≠ "after_bars" ∧ key ≠ "at_time" ∧
        key ≠ "on_opposite_signal" ∧ key ≠ "exit_when" := by decide
    obtain ⟨notAfter, notTime, notOpposite, notWhen⟩ := others key isStop
    have unequal : (key == "on_opposite_signal") = false := by simpa using notOpposite
    simp [← isWritten, List.lookup_append, List.lookup_cons, afterBarsRule.absent notAfter,
      atTimeRule.absent notTime, exitWhenRule.absent notWhen, unequal]
  simp only [exit, bind_eq_ok, checkObject_ok_iff, flag_ok_iff, checkMultiples_ok_iff,
    Except.ok.injEq]
  refine ⟨written, ⟨rfl, hasKeys⟩, afterBars, ?_, atTime, ?_, opposite, .inl oppositeFound, stops,
    collect_eq_ok.mpr (List.forall₂_iff_zip.mpr ⟨stopRules.length_eq, fun {key part} member => ?_⟩),
    (), multiples, exitWhen, ?_, by rw [isWritten]⟩
  · exact afterBarsRule.again afterFound fun value inner isRule _ path =>
      (count_ok_iff v).mpr isRule.again
  · exact atTimeRule.again timeFound fun value inner isRule _ path =>
      clockCheck_ok_iff.mpr isRule.again
  · obtain ⟨isRule, found⟩ := join_found stopRules distinct member
    have isStop := (List.of_mem_zip member).1
    refine isRule.again ((stopFound key isStop).trans found) fun value inner accepted inPart path => ?_
    have inJoin : (key, inner.node) ∈ (CheckedEntries.join stops).entries :=
      List.mem_flatMap.mpr ⟨part, (List.of_mem_zip member).2, inPart⟩
    exact distance_copied copies_eq accepted _ rfl _ _
      (inside _ ((isPart _).mp (.inr (.inr (.inr (.inl inJoin))))))
  · exact exitWhenRule.again whenFound fun value inner isRule member path =>
      exitWhen_again isRule path (inside _ ((isPart _).mp (.inr (.inr (.inr (.inr member))))))

/-! ## Specifications -/

theorem spec_again {entries : Entries F} {checked : Checked F}
    (rule : SpecRule v entries checked) : ∃ written, checked.node = .dict written ∧
      HasKeys written topLevelKeys ["exit", "skip_days", "flat_at"] ∧
      written.lookup "language" = some (.str ruleLanguage) ∧
      written.lookup "bar" = some (.str v.bar.text) ∧
      v.specEntries checked.node.depth written = .ok checked := by
  obtain ⟨keys, language, bar, tickFound, tickOk, sessionFound, sessionKeys, sessionValues,
    flatAtRule, signalsFound, nonempty, length, signalRules, tradesFound, tradesCount, skipRule,
    exitFound, exitRule⟩ := rule
  rename_i tickSize maxTrades exitNode session skip items signalsOk flatAt exitOk
  generalize isWritten : [("language", .str ruleLanguage), ("bar", .str v.bar.text),
    ("tick_size", tickSize), ("session", sessionDocument),
    ("signals", .list (signalsOk.map Checked.node)), ("exit", exitOk.node),
    ("max_trades_per_session", maxTrades)] ++ flatAt.entries ++ skip = written
  have skipKeys : ∀ entry ∈ skip, entry.1 = "skip_days" := by
    intro entry member
    rcases skipRule with ⟨_, rfl⟩ | ⟨names, _, _, _, rfl⟩
    · cases member
    · split_ifs at member
      · cases member
      · rw [List.mem_singleton.mp member]
  have noFlat : skip.lookup "flat_at" = none := by
    by_contra present
    obtain ⟨entry, member, isFlat⟩ := List.mem_map.mp
      (lookup_isSome_iff.mp (Option.ne_none_iff_isSome.mp present))
    rw [skipKeys entry member] at isFlat
    exact absurd isFlat (by decide)
  have inside : ∀ entry ∈ written, entry.2.depth ≤ (PyValue.dict written).depth :=
    fun entry member => depth_entry (Nat.le_succ _) member
  have signalsIn : ("signals", .list (signalsOk.map Checked.node)) ∈ written := by
    simp [← isWritten]
  have exitIn : ("exit", exitOk.node) ∈ written := by simp [← isWritten]
  have hasKeys : HasKeys written topLevelKeys ["exit", "skip_days", "flat_at"] := by
    refine ⟨fun key member => ?_, fun key member => ?_⟩
    · obtain ⟨entry, inWritten, rfl⟩ := List.mem_map.mp member
      simp only [← isWritten, List.mem_append] at inWritten
      rcases inWritten with (inFixed | inFlat) | inSkip
      · have isKey := List.mem_map_of_mem (f := Prod.fst) inFixed
        simp only [List.map_cons, List.map_nil] at isKey
        revert isKey
        generalize entry.1 = key
        revert key
        decide
      · rw [flatAtRule.key_eq inFlat]
        decide
      · rw [skipKeys entry inSkip]
        decide
    · have fixed : ∀ key ∈ topLevelKeys, key ∈ ["language", "bar", "tick_size", "session",
          "signals", "exit", "max_trades_per_session"] := by decide
      rw [← isWritten, List.append_assoc, List.map_append]
      exact List.mem_append_left _ (by simpa using fixed key member)
  have tickIs : written.lookup "tick_size" = some tickSize := by
    simp [← isWritten, List.lookup_cons]
  have sessionIs : written.lookup "session" = some sessionDocument := by
    simp [← isWritten, List.lookup_cons]
  have signalsAre : written.lookup "signals" = some (.list (signalsOk.map Checked.node)) := by
    simp [← isWritten, List.lookup_cons]
  have exitIs : written.lookup "exit" = some exitOk.node := by
    simp [← isWritten, List.lookup_cons]
  have tradesAre : written.lookup "max_trades_per_session" = some maxTrades := by
    simp [← isWritten, List.lookup_cons]
  have flatIs : written.lookup "flat_at" = flatAt.entries.lookup "flat_at" := by
    simp [← isWritten, List.lookup_append, List.lookup_cons, noFlat]
  have skipIs : written.lookup "skip_days" = skip.lookup "skip_days" := by
    simp [← isWritten, List.lookup_append, List.lookup_cons, flatAtRule.absent]
  have skipAgain : SkipDaysRule written skip := by
    rcases skipRule with ⟨_, rfl⟩ | ⟨names, _, distinct, known, rfl⟩
    · exact .inl ⟨skipIs, rfl⟩
    · by_cases empty : names.isEmpty
      · rw [if_pos empty] at skipIs ⊢
        exact .inl ⟨skipIs, rfl⟩
      · refine .inr ⟨names, ?_, distinct, known, rfl⟩
        rw [skipIs, if_neg empty]
        exact List.lookup_cons_self
  have filled : signalsOk.map Checked.node ≠ [] := by
    intro empty
    rw [List.map_eq_nil_iff] at empty
    rw [empty] at length
    exact nonempty (List.length_eq_zero_iff.mp length)
  have sessionAgain : ∀ expected ∈ supportedSession,
      checkSessionEntry v.runtime (supportedSession.map fun entry => (entry.1, .str entry.2))
        "rule_spec.session" expected = .ok () := by
    intro expected member
    rw [checkSessionEntry_ok_iff]
    simp only [supportedSession, List.mem_cons, List.not_mem_nil, or_false] at member
    rcases member with rfl | rfl | rfl <;> simp [supportedSession, List.lookup_cons]
  obtain ⟨results, sessionOk⟩ := collect_unit.mpr sessionAgain
  refine ⟨written, rfl, hasKeys, by simp [← isWritten],
    by simp [← isWritten, List.lookup_cons], ?_⟩
  simp only [specEntries, bind_eq_ok, item_ok_iff, raiseIf_eq_ok, checkObject_ok_iff,
    flatAtEntry, Validator.signals, items_ok_iff, skipDays_ok_iff, Bool.not_eq_eq_eq_not, Bool.not_false,
    Except.ok.injEq]
  refine ⟨tickSize, tickIs, true, tickOk, (), rfl, _, sessionIs, _, ⟨rfl, hasKeys_of_eq ?_⟩, results,
    sessionOk, flatAt, ?_, _, signalsAre, signalsOk, ⟨_, ⟨rfl, filled⟩, ?_⟩, maxTrades, tradesAre, (),
    tradesCount, skip, skipAgain, exitOk, ?_, by rw [isWritten]⟩
  · simp
  · exact flatAtRule.again flatIs fun value inner isRule _ path =>
      clockCheck_ok_iff.mpr isRule.again
  · let where_ := "rule_spec"
    have copied : List.Forall₂ Eq (signalsOk.map Checked.node) (signalsOk.map Checked.node) :=
      List.forall₂_refl _
    refine collect_copied copied ?_ (fun index => s!"{where_}.signals[{index}]") 0
    intro item member other same path
    subst same
    have itemWithin := (depth_item_le (List.mem_map_of_mem member)).trans (inside _ signalsIn)
    rw [← List.map_snd_zip length.ge] at member
    obtain ⟨pair, inZip, rfl⟩ := List.mem_map.mp member
    exact signal_copied copies_eq (signalRules pair inZip) _ rfl _ _ itemWithin
  · rw [exitIs]
    exact exit_again exitRule _ (inside _ exitIn)

/-- **Validating again.** The normalized copy of an accepted specification is accepted with the
same variables, and returned unchanged, exactly when the document has few enough elements together
with the entries it leaves out. -/
theorem revalidates_iff {runtime : RuleRuntime F} {document packetVariables normalized : PyValue F}
    (distinct : distinctKeys document = true)
    (accepted : validateRuleSpec runtime document packetVariables = .ok normalized) :
    validateRuleSpec runtime normalized packetVariables = .ok normalized ↔
      copyElements document ≤ maxRuleNodes := by
  obtain ⟨declared, entries, bar, checked, isDeclared, rfl, isAccepted, rfl⟩ :=
    validate_accepted accepted
  obtain ⟨written, isDict, hasKeys, language, isBar, again⟩ := spec_again isAccepted.rule
  have isNode : specNode runtime declared checked.node = .ok checked := by
    simp only [specNode, checkBar, bind_eq_ok, raiseIf_eq_ok, checkObject_ok_iff, item_ok_iff,
      orRaise_eq_ok]
    exact ⟨written, ⟨isDict, hasKeys⟩, _, language, (), by simp [PyValue.text?], _, isBar, bar,
      Bar.ofText_eq_some.mpr rfl, again⟩
  have levels : checked.node.depth ≤ maxRuleDepth :=
    (spec_depth isAccepted.rule).trans (checkSize_ok_iff.mp isAccepted.small).2
  have small : checkSize checked.node = .ok () ↔ copyElements (.dict entries) ≤ maxRuleNodes := by
    rw [checkSize_ok_iff, spec_elements isAccepted.rule distinct, and_iff_left levels]
  have dict : checked.node.isDict = true := by rw [isDict]; rfl
  rw [← small]
  simp only [validateRuleSpec, dict, isDeclared, isNode, isAccepted.used, isAccepted.grid, bind_ok,
    raiseIf, Bool.not_true, Bool.false_eq_true, if_false]
  cases checkSize checked.node with
  | ok done => exact iff_of_true rfl rfl
  | error raised => simp [bind, Except.bind]

/-! ## A crowded specification -/

def clockDocument (signals : Nat) : PyValue WholeFloat := .dict [
  ("language", .str "qf_rules_v1"), ("bar", .str "5m"), ("tick_size", .int 1),
  ("session", .dict [("timezone", .str "America/New_York"), ("open", .str "09:30"),
    ("close", .str "16:00")]),
  ("signals", .list (List.replicate signals
    (.dict [("when", .dict [("time_is", .str "10:00")]), ("side", .str "long")]))),
  ("max_trades_per_session", .int 1), ("flat_at", .str "15:55")]

def bareRuntime : RuleRuntime WholeFloat := ⟨Python.jsonText, none⟩

theorem revalidates_one_signal : ∃ normalized,
    validateRuleSpec bareRuntime (clockDocument 1) .none = .ok normalized ∧
      (validateRuleSpec bareRuntime normalized .none = .ok normalized ↔
        copyElements (clockDocument 1) ≤ maxRuleNodes) := by
  have isAccepted : (validateRuleSpec bareRuntime (clockDocument 1) .none).toOption.isSome = true := by
    decide +kernel
  cases outcome : validateRuleSpec bareRuntime (clockDocument 1) .none with
  | error raised =>
      rw [outcome] at isAccepted
      cases isAccepted
  | ok normalized => exact ⟨normalized, rfl, revalidates_iff (by decide) outcome⟩

/-- With 122 signals the document has 499 elements, and its copy the two of an exit more. -/
theorem crowded_copy_refused : distinctKeys (clockDocument 122) = true ∧ ∃ normalized,
    validateRuleSpec bareRuntime (clockDocument 122) .none = .ok normalized ∧
      validateRuleSpec bareRuntime normalized .none ≠ .ok normalized := by
  refine ⟨by decide +kernel, ?_⟩
  have refused : ((validateRuleSpec bareRuntime (clockDocument 122) .none).toOption.map
      fun normalized => (validateRuleSpec bareRuntime normalized .none).toOption.isSome) =
        some false := by
    decide +kernel
  cases outcome : validateRuleSpec bareRuntime (clockDocument 122) .none with
  | error raised =>
      rw [outcome] at refused
      cases refused
  | ok normalized =>
      refine ⟨normalized, rfl, fun again => ?_⟩
      rw [outcome] at refused
      simp [Except.toOption, again] at refused

end QuantFactory.RuleLanguage
