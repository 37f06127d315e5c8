import Mathlib
import QuantFactory.RuleStrategy.CausalDistances
import QuantFactory.RuleStrategy.SharedCache
import QuantFactory.RuleStrategy.SignalContents

/-!
# Signals of two histories

The signals of one setting on two histories that agree on whole sessions: both are
written from parts that agree on the bars of these sessions.
-/

set_option autoImplicit false

namespace QuantFactory.RuleStrategy

open QuantFactory.Library QuantFactory.Python QuantFactory.RuleLanguage

variable {F : Type} [PyFloat F]

/-! ## Accepted specifications -/

section Accepted
variable {v : Validator F}

omit [PyFloat F] in
theorem isBarEnd_of_clock {earliest latest : Nat} {text : String}
    (clock : IsClock earliest latest v.bar.minutes text)
    (after : v.bar.firstBarEndMinutes ≤ earliest) (before : latest ≤ sessionCloseMinutes) :
    IsBarEnd v text := by
  obtain ⟨minutes, isMinutes, grid, lower, upper⟩ := clock
  exact ⟨minutes, isMinutes, grid, after.trans lower, upper.trans before⟩

omit [PyFloat F] in
theorem lastExit_le (bar : Bar) : bar.lastExit ≤ sessionCloseMinutes := Nat.sub_le _ _

theorem exit_time {flatAt : Option Nat} {node : PyValue F} {checked : Checked F}
    (rule : ExitRule v flatAt node checked) {entries : Entries F}
    (isDict : checked.node = .dict entries) {entry : String × PyValue F}
    (member : entry ∈ entries) :
    (entry.1 = "after_bars" ∧ ∃ original checked,
      NumericRule v (.count 1 (v.longestHold flatAt)) original checked ∧ checked.node = entry.2) ∨
    (entry.1 = "at_time" ∧ ∃ original checked,
      ClockRule v v.earliestExit (flatAt.getD v.bar.lastExit) original checked ∧
        checked.node = entry.2) ∨
    entry.1 ∈ ["on_opposite_signal", "exit_when"] ++ stopKeys := by
  obtain ⟨keys, afterBarsRule, atTimeRule, flag, stopRules, multiples, exitWhenRule⟩ := rule
  cases isDict
  simp only [List.mem_append, List.mem_singleton] at member
  rcases member with (((inAfter | inTime) | inFlag) | inStops) | inWhen
  · exact .inl (optional_member afterBarsRule inAfter)
  · exact .inr (.inl (optional_member atTimeRule inTime))
  · exact .inr (.inr (by simp [inFlag]))
  · obtain ⟨part, inParts, inPart⟩ := List.mem_flatMap.mp inStops
    obtain ⟨stop, isStop, isPart⟩ := forall₂_mem_right stopRules inParts
    obtain ⟨rfl, _⟩ := optional_member isPart inPart
    exact .inr (.inr (List.mem_append_right _ isStop))
  · exact .inr (.inr (by simp [(optional_member exitWhenRule inWhen).1]))

omit [PyFloat F] in
theorem flatAt_le {entries : Entries F} {flatAt : Validator.CheckedEntries F}
    (rule : OptionalRule (ClockRule v v.earliestExit v.bar.lastExit) entries "flat_at" flatAt) :
    (Validator.flatAtMinutes flatAt).getD v.bar.lastExit ≤ v.bar.lastExit := by
  rcases rule with ⟨_, rfl⟩ | ⟨value, checked, _, ⟨time, rfl, clock, rfl⟩, rfl⟩
  · exact le_refl _
  · obtain ⟨minutes, isMinutes, _, _, upper⟩ := clock
    simpa [Validator.flatAtMinutes, PyValue.text?, isMinutes] using upper

theorem runnable_of_rule {entries : Entries F} {checked : Checked F}
    (rule : SpecRule v entries checked) {spec : SpecEntries F}
    (isSpec : specEntriesOf checked.node = .ok spec) : Runnable v spec := by
  obtain ⟨keys, language, bar, tickFound, tickOk, sessionFound, sessionKeys, sessionValues,
    flatAtRule, signalsFound, nonempty, length, signalRules, tradesFound, tradesCount, skipRule,
    exitFound, exitRule⟩ := rule
  rename_i tickSize maxTrades exitNode session skip items signals flatAt exitOk
  have isExit : ∃ exitRules, exitOk.node = .dict exitRules := by
    cases exitRule
    exact ⟨_, rfl⟩
  obtain ⟨exitRules, isExit⟩ := isExit
  rw [isExit] at isSpec
  generalize isWritten : [("language", .str ruleLanguage), ("bar", .str v.bar.text),
    ("tick_size", tickSize), ("session", Validator.sessionDocument),
    ("signals", .list (signals.map Checked.node)), ("exit", .dict exitRules),
    ("max_trades_per_session", maxTrades)] ++ flatAt.entries ++ skip = written at isSpec
  have exitIs : written.lookup "exit" = some (.dict exitRules) := by
    simp [← isWritten, List.lookup_cons]
  have signalsAre : written.lookup "signals" = some (.list (signals.map Checked.node)) := by
    simp [← isWritten, List.lookup_cons]
  have barIs : written.lookup "bar" = some (.str v.bar.text) := by
    simp [← isWritten, List.lookup_cons]
  have isBar : Bar.ofText v.bar.text = some v.bar := Bar.ofText_eq_some.mpr rfl
  simp only [specEntriesOf, objectOf, bind_ok, nodeUnder, exitIs, signalsAre, textUnder, barIs,
    orRaise, conditionItems, PyValue.items?, PyValue.text?, Option.bind_some, isBar,
    Except.ok.injEq] at isSpec
  subst isSpec
  have early : v.bar.firstBarEndMinutes ≤ v.earliestExit := Nat.le_add_right _ _
  have late := lastExit_le v.bar
  refine ⟨rfl, fun time found => ?_, fun time found => ?_, fun node found => ?_,
    fun key node inStops found => ?_⟩
  · have isFlat : flatAt.entries.lookup "flat_at" = some time := by
      have none : skip.lookup "flat_at" = none := by
        rcases skipRule with ⟨_, rfl⟩ | ⟨names, _, _, _, rfl⟩
        · rfl
        · split_ifs <;> simp [List.lookup_cons]
      simp only [← isWritten, List.lookup_append, none, Option.or_none] at found
      simpa [List.lookup_cons] using found
    obtain ⟨_, value, checked, ⟨text, rfl, clock, rfl⟩, isNode⟩ :=
      optional_member flatAtRule (mem_of_lookup isFlat)
    exact ⟨text, isNode.symm, isBarEnd_of_clock clock early late⟩
  · rcases exit_time exitRule isExit (mem_of_lookup found) with
      ⟨isAfter, _⟩ | ⟨_, original, checked, ⟨text, rfl, clock, rfl⟩, isNode⟩ | other
    · exact absurd isAfter (by simp)
    · exact ⟨text, isNode.symm, isBarEnd_of_clock clock early ((flatAt_le flatAtRule).trans late)⟩
    · exact absurd other (by simp [stopKeys])
  · rcases exit_time exitRule isExit (mem_of_lookup found) with
      ⟨_, original, checked, numeric, isNode⟩ | ⟨isTime, _⟩ | other
    · exact ⟨_, original, checked, numeric, isNode⟩
    · exact absurd isTime (by simp)
    · exact absurd other (by simp [stopKeys])
  · have isKnown : ∀ key ∈ stopKeys, key ∉ ["after_bars", "at_time", "on_opposite_signal"] ∧
        key ≠ "exit_when" := by decide
    obtain ⟨notOther, notWhen⟩ := isKnown key inStops
    rcases exit_entry exitRule isExit (mem_of_lookup found) with
      isOther | ⟨_, accepted⟩ | ⟨isWhen, _⟩
    · exact absurd isOther notOther
    · exact accepted
    · exact absurd isWhen notWhen

/-- What an evaluation needs to know of an accepted specification. -/
theorem spec_of_validated {runtime : RuleRuntime F} {document packetVariables normalized : PyValue F}
    (accepted : validateRuleSpec runtime document packetVariables = .ok normalized) :
    ∃ declared spec, variableEntries packetVariables = .ok declared ∧
      specEntriesOf normalized = .ok spec ∧
      AdmissibleSpec ⟨runtime, declared, spec.bar⟩ spec normalized.depth ∧
      Runnable ⟨runtime, declared, spec.bar⟩ spec := by
  obtain ⟨declared, entries, bar, checked, isDeclared, -, isAccepted, rfl⟩ :=
    validate_accepted accepted
  obtain ⟨spec, isSpec, isBar, admissible⟩ := admissible_of_rule isAccepted.rule
  have runnable := runnable_of_rule isAccepted.rule isSpec
  change spec.bar = bar at isBar
  subst isBar
  exact ⟨declared, spec, isDeclared, isSpec, admissible, runnable⟩

end Accepted

/-! ## The parts of two runs -/

structure PartsAlike (moment : Moment) (parts others : SettingParts F) : Prop where
  sides : ∀ r c, moment.Known r c → parts.sides r c = others.sides r c
  fractions : List.Forall₂ (fun one other => one.1 = other.1 ∧
    ∀ r c, moment.Known r c → one.2 r c = other.2 r c) parts.fractions others.fractions
  longLeave : ∀ r c, moment.Known r c → parts.longLeave r c = others.longLeave r c
  shortLeave : ∀ r c, moment.Known r c → parts.shortLeave r c = others.shortLeave r c
  hold : parts.hold = others.hold

variable {lib : Libraries F} {interpreter : Interpreter F} {v : Validator F} {moment : Moment}
  {spec : SpecEntries F} {depth : Nat} {layout layout' : Layout}
  {one other : Sessions (NdArray F) F}

variable (lib) (interpreter) (v) (moment) (spec) (depth) (layout) (layout') (one) (other) in
/-- One setting of an accepted specification on two histories that share whole sessions. -/
structure SettingPair : Prop where
  runs : TwoRuns lib.numerics interpreter v moment one.bars other.bars
  whole : moment.row = 0
  runnable : Runnable v spec
  admissible : AdmissibleSpec v spec depth
  bars : layout.bars = moment.bars
  sessions : layout.sessions = moment.sessions
  otherBars : layout'.bars = moment.bars
  otherSessions : layout'.sessions = moment.others
  positions : one.positions = ⟨layout.bars, layout.sessions, .ints layout.position⟩
  otherPositions : other.positions = ⟨layout'.bars, layout'.sessions, .ints layout'.position⟩
  length : one.length = layout.length
  otherLength : other.length = layout'.length

namespace SettingPair
variable (pair : SettingPair lib interpreter v moment spec depth layout layout' one other)
include pair

theorem values {a b : NdArray F} (floats : moment.grid.Floats a b) :
    ∃ f g, Values layout.bars layout.sessions f a ∧ Values layout'.bars layout'.sessions g b ∧
      ∀ r c, moment.Known r c → f r c = g r c := by
  obtain ⟨f, g, rfl, rfl, same⟩ := floats
  rw [pair.bars, pair.sessions, pair.otherBars, pair.otherSessions]
  exact ⟨f, g, ⟨f, rfl, fun _ _ _ _ => rfl⟩, ⟨g, rfl, fun _ _ _ _ => rfl⟩, same⟩

theorem masks {a b : NdArray F} (bools : moment.grid.Bools a b) :
    ∃ f g, Masks layout.bars layout.sessions f a ∧ Masks layout'.bars layout'.sessions g b ∧
      ∀ r c, moment.Known r c → f r c = g r c := by
  obtain ⟨f, g, rfl, rfl, same⟩ := bools
  rw [pair.bars, pair.sessions, pair.otherBars, pair.otherSessions]
  exact ⟨f, g, ⟨f, rfl, fun _ _ _ _ => rfl⟩, ⟨g, rfl, fun _ _ _ _ => rfl⟩, same⟩

theorem shape : one.bars.shape = ⟨layout.bars, layout.sessions⟩ := by
  rw [pair.runs.alike.shape, pair.bars, pair.sessions]

theorem otherShape : other.bars.shape = ⟨layout'.bars, layout'.sessions⟩ := by
  rw [pair.runs.alike.otherShape, pair.otherBars, pair.otherSessions]

theorem rows : layout.bars = v.bar.barsPerSession := pair.bars.trans pair.runs.rows

theorem otherRows : layout'.bars = v.bar.barsPerSession := pair.otherBars.trans pair.runs.rows

theorem namedValues {fractions fractions' : List (String × NdArray F)}
    (alike : NamedAlike moment.grid fractions fractions') :
    ∃ values values', NamedValues layout.bars layout.sessions fractions values ∧
      NamedValues layout'.bars layout'.sessions fractions' values' ∧
      List.Forall₂ (fun one other => one.1 = other.1 ∧
        ∀ r c, moment.Known r c → one.2 r c = other.2 r c) values values' := by
  induction alike with
  | nil => exact ⟨[], [], .nil, .nil, .nil⟩
  | @cons first second rest rest' both _ ih =>
      obtain ⟨values, values', named, named', related⟩ := ih
      obtain ⟨f, g, isFirst, isSecond, same⟩ := pair.values both.2
      exact ⟨(first.1, f) :: values, (second.1, g) :: values', .cons ⟨rfl, isFirst⟩ named,
        .cons ⟨rfl, isSecond⟩ named', .cons ⟨both.1, same⟩ related⟩

theorem hold : ∃ hold, holdMinutes interpreter one.bars spec = .ok hold ∧
    holdMinutes interpreter other.bars spec = .ok hold := by
  unfold holdMinutes
  cases found : spec.exitRules.lookup "after_bars" with
  | none => exact ⟨-1, rfl, rfl⟩
  | some node =>
      obtain ⟨maximum, original, checked, numeric, rfl⟩ := pair.runnable.afterBars node found
      obtain ⟨n, isCount, _⟩ := count_ok interpreter pair.runs.assigns numeric
      refine ⟨spec.bar.minutes * n, by simp only [isCount, bind_ok], ?_⟩
      simp only [← count_congr pair.runs.alike.parameters, isCount, bind_ok]

/-- What leaves a side on two histories, from conditions that agree on the known bars. -/
def LeavesAlike (moment : Moment) (spec : SpecEntries F) (layout layout' : Layout)
    (opposite opposite' : Nat → Nat → Bool) (a b : NdArray F) : Prop :=
  ∃ leave leave' : Nat → Nat → Bool, (∀ r c, moment.Known r c → leave r c = leave' r c) ∧
    Masks layout.bars layout.sessions (leavesAt spec leave opposite) a ∧
    Masks layout'.bars layout'.sessions (leavesAt spec leave' opposite') b

section Leaves
variable {opposite opposite' : Nat → Nat → Bool} {a b clock clock' : NdArray F}
  (isOpposite : Masks layout.bars layout.sessions opposite a)
  (isOpposite' : Masks layout'.bars layout'.sessions opposite' b)
  (isClock : Masks layout.bars 1 (fun r _ => isClockExit spec r) clock)
  (isClock' : Masks layout'.bars 1 (fun r _ => isClockExit spec r) clock')
include isOpposite isOpposite' isClock isClock'

omit pair in
variable (lib) in
theorem leavesRest_alike {allowed : EvaluationError → Prop} {leave leave' : Nat → Nat → Bool}
    (same : ∀ r c, moment.Known r c → leave r c = leave' r c) {mask mask' : NdArray F}
    (isLeave : Masks layout.bars layout.sessions leave mask)
    (isLeave' : Masks layout'.bars layout'.sessions leave' mask') :
    Alike allowed (LeavesAlike moment spec layout layout' opposite opposite')
      (do
        let leave ← if spec.onOppositeSignal then
            elementwise (valueMachine lib.one) .logicalOr [mask, a]
          else pure mask
        elementwise (valueMachine lib.one) .logicalOr [leave, clock])
      (do
        let leave ← if spec.onOppositeSignal then
            elementwise (valueMachine lib.other) .logicalOr [mask', b]
          else pure mask'
        elementwise (valueMachine lib.other) .logicalOr [leave, clock']) :=
  (Alike.of_yields (leavesRest_yields lib.numerics lib.dates spec isLeave isOpposite isClock)
    (leavesRest_yields lib.numerics lib.otherDates spec isLeave' isOpposite' isClock')).imp
    fun _ _ both => ⟨leave, leave', same, both.1, both.2⟩

theorem leaves_alike (side : String) :
    Alike (LibraryError lib.numerics interpreter)
      (LeavesAlike moment spec layout layout' opposite opposite')
      (leaves (valueMachine lib.one) interpreter one spec depth side a clock)
      (leaves (valueMachine lib.other) interpreter other spec depth side b clock') := by
  unfold leaves
  cases found : spec.exitWhen.lookup side with
  | some node =>
      obtain ⟨⟨original, checked, rule, rfl⟩, shallow⟩ := pair.admissible.exits side node found
      refine (condition_alike pair.runs rule depth depth shallow shallow).andThen
        fun mask mask' isMask => ?_
      obtain ⟨leave, leave', isLeave, isLeave', same⟩ := pair.masks isMask
      exact leavesRest_alike lib isOpposite isOpposite' isClock isClock' same isLeave isLeave'
  | none =>
      rw [pair.shape, pair.otherShape]
      refine (Alike.of_yields (full_yields lib.numerics lib.dates _ _ false)
        (full_yields lib.numerics lib.otherDates _ _ false)).andThen fun mask mask' isMask => ?_
      exact leavesRest_alike lib isOpposite isOpposite' isClock isClock' (fun _ _ _ => rfl)
        isMask.1 isMask.2

end Leaves

end SettingPair

/-! ## The signals of two runs -/

variable (lib) (moment) (spec) (layout) (layout') in
/-- The signals of two histories are written from parts that agree on the known bars. -/
def SignalsAlike (signals others : BatchSignals (NdArray F)) : Prop :=
  ∃ parts parts', PartsAlike moment parts parts' ∧
    Written lib.numerics lib.dates layout spec parts signals ∧
    Written lib.numerics lib.otherDates layout' spec parts' others

theorem stop_planned (runnable : Runnable v spec) {key : String} (present : key ∈ spec.presentStops) :
    key ∈ spec.distanceNodes.map Prod.fst ++
      if spec.atSignalBar "stop_loss" then ["stop_loss"] else [] := by
  obtain ⟨inStops, isPresent⟩ := List.mem_filter.mp present
  obtain ⟨node, found⟩ := Option.isSome_iff_exists.mp isPresent
  by_cases atBar : spec.atSignalBar key
  · obtain ⟨original, checked, rule, isNode⟩ := runnable.stops key node inStops found
    have isStopLoss : key = "stop_loss" := by
      cases rule with
      | @distance kind entries value valueOk keys kindFound valueRule =>
          subst isNode
          have isKind : "signal_bar" = kind := by
            by_contra differs
            replace differs : ("signal_bar" == kind) = false := by simpa using differs
            simp [SpecEntries.atSignalBar, found, PyValue.get?, List.lookup_cons, differs] at atBar
          subst isKind
          cases valueRule with
          | level isKind => exact absurd isKind (by decide)
          | signalBar _ allowed => exact allowed
          | multiple isKind => exact absurd isKind (by decide)
          | atr isKind => exact absurd isKind (by decide)
          | amount isKind => exact absurd isKind (by decide)
    subst isStopLoss
    rw [if_pos atBar]
    exact List.mem_append_right _ List.mem_cons_self
  · refine List.mem_append_left _ (List.mem_map.mpr ⟨(key, node), ?_, rfl⟩)
    exact List.mem_filterMap.mpr ⟨key, inStops, by rw [if_neg atBar, found]; rfl⟩

section Signals
variable (pair : SettingPair lib interpreter v moment spec depth layout layout' one other)
include pair

theorem signals_alike {fractions fractions' : List (String × NdArray F)}
    (named : NamedAlike moment.grid fractions fractions')
    (names : fractions.map Prod.fst = spec.distanceNodes.map Prod.fst ++
      if spec.atSignalBar "stop_loss" then ["stop_loss"] else []) :
    Alike (LibraryError lib.numerics interpreter) (SignalsAlike lib moment spec layout layout')
      (signals (valueMachine lib.one) interpreter one spec depth fractions)
      (signals (valueMachine lib.other) interpreter other spec depth fractions') := by
  obtain ⟨values, values', isValues, isValues', sameValues⟩ := pair.namedValues named
  have isNames : values.map Prod.fst = fractions.map Prod.fst := by
    clear names named sameValues
    induction isValues with
    | nil => rfl
    | cons both _ ih => rw [List.map_cons, List.map_cons, ih, both.1]
  have isNames' : values'.map Prod.fst = values.map Prod.fst := by
    clear isNames isValues isValues' named names
    induction sameValues with
    | nil => rfl
    | cons both _ ih => rw [List.map_cons, List.map_cons, ih, both.1]
  have present : ∀ key ∈ spec.presentStops, (values.lookup key).isSome = true := by
    intro key member
    refine lookup_isSome_iff.mpr ?_
    rw [isNames, names]
    exact stop_planned pair.runnable member
  have present' : ∀ key ∈ spec.presentStops, (values'.lookup key).isSome = true := by
    intro key member
    refine lookup_isSome_iff.mpr ?_
    rw [isNames', isNames, names]
    exact stop_planned pair.runnable member
  obtain ⟨sideNodes, areSignals, rules⟩ := pair.admissible.signals
  have shallow := pair.admissible.shallow
  rw [areSignals] at shallow
  unfold signals
  rw [areSignals]
  refine (sidesOf_alike pair.runs rules shallow shallow).andThen fun sides sides' isSides => ?_
  obtain ⟨side, side', isSide, isSide', sameSides⟩ := pair.values isSides
  rw [pair.shape, pair.otherShape]
  refine (Alike.of_yields (full_yields lib.numerics lib.dates _ _ true)
    (full_yields lib.numerics lib.otherDates _ _ true)).andThen fun valid valid' isValid => ?_
  refine (Alike.of_yields (validLoop_yields isValues.values isValid.1)
    (validLoop_yields isValues'.values isValid.2)).andThen fun valid valid' isValid => ?_
  replace isValid : Masks layout.bars layout.sessions (validAt (values.map Prod.snd)) valid ∧
      Masks layout'.bars layout'.sessions (validAt (values'.map Prod.snd)) valid' :=
    ⟨isValid.1.imp fun r c _ _ => Bool.true_and _, isValid.2.imp fun r c _ _ => Bool.true_and _⟩
  have shaped : one.bars.shape = ⟨v.bar.barsPerSession, layout.sessions⟩ := by
    rw [pair.shape, pair.rows]
  have shaped' : other.bars.shape = ⟨v.bar.barsPerSession, layout'.sessions⟩ := by
    rw [pair.otherShape, pair.otherRows]
  refine (Alike.of_yields
    (allowedEntries_yields pair.runnable shaped pair.rows pair.positions isSide)
    (allowedEntries_yields pair.runnable shaped' pair.otherRows pair.otherPositions isSide')).andThen
      fun allowed allowed' isAllowed => ?_
  refine (Alike.of_yields (not_yields lib.numerics lib.dates isValid.1)
    (not_yields lib.numerics lib.otherDates isValid.2)).andThen fun invalid invalid' isInvalid => ?_
  refine (Alike.of_yields (onBools_yields (· && ·) isAllowed.1 isInvalid.1)
    (onBools_yields (· && ·) isAllowed.2 isInvalid.2)).andThen fun blocked blocked' isBlocked => ?_
  refine (Alike.of_yields (total_yields lib.numerics lib.dates isBlocked.1)
    (total_yields lib.numerics lib.otherDates isBlocked.2)).andThen
      fun skipped skipped' isSkipped => ?_
  refine (Alike.of_yields (onBools_yields (· && ·) isAllowed.1 isValid.1)
    (onBools_yields (· && ·) isAllowed.2 isValid.2)).andThen fun first first' isFirst => ?_
  refine (Alike.of_yields (numberTest_yields lib.numerics lib.dates .greater rfl _ isSide)
    (numberTest_yields lib.numerics lib.otherDates .greater rfl _ isSide')).andThen
      fun long long' isLong => ?_
  refine (Alike.of_yields (numberTest_yields lib.numerics lib.dates .less rfl _ isSide)
    (numberTest_yields lib.numerics lib.otherDates .less rfl _ isSide')).andThen
      fun short short' isShort => ?_
  refine (Alike.of_yields (onBools_yields (· && ·) isFirst.1 isLong.1)
    (onBools_yields (· && ·) isFirst.2 isLong.2)).andThen fun longFirst longFirst' isLongFirst => ?_
  refine (Alike.of_yields (flagged_yields pair.positions pair.length isLongFirst.1)
    (flagged_yields pair.otherPositions pair.otherLength isLongFirst.2)).andThen
      fun entry entry' isEntry => ?_
  refine (Alike.of_yields (onBools_yields (· && ·) isFirst.1 isShort.1)
    (onBools_yields (· && ·) isFirst.2 isShort.2)).andThen
      fun shortFirst shortFirst' isShortFirst => ?_
  refine (Alike.of_yields (flagged_yields pair.positions pair.length isShortFirst.1)
    (flagged_yields pair.otherPositions pair.otherLength isShortFirst.2)).andThen
      fun shortEntry shortEntry' isShortEntry => ?_
  rw [pair.rows, pair.otherRows]
  refine (Alike.of_yields (clockExits_yields pair.runnable)
    (clockExits_yields pair.runnable)).andThen fun clock clock' isClock => ?_
  rw [← pair.rows] at isClock
  have isClock' := isClock.2
  rw [pair.rows, ← pair.otherRows] at isClock'
  refine (pair.leaves_alike isShort.1 isShort.2 isClock.1 isClock' "long").andThen
    fun longLeaves longLeaves' isLongLeaves => ?_
  obtain ⟨longLeave, longLeave', sameLong, isLongLeaves, isLongLeaves'⟩ := isLongLeaves
  refine (Alike.of_yields (flagged_yields pair.positions pair.length isLongLeaves)
    (flagged_yields pair.otherPositions pair.otherLength isLongLeaves')).andThen
      fun exit exit' isExit => ?_
  refine (pair.leaves_alike isLong.1 isLong.2 isClock.1 isClock' "short").andThen
    fun shortLeaves shortLeaves' isShortLeaves => ?_
  obtain ⟨shortLeave, shortLeave', sameShort, isShortLeaves, isShortLeaves'⟩ := isShortLeaves
  refine (Alike.of_yields (flagged_yields pair.positions pair.length isShortLeaves)
    (flagged_yields pair.otherPositions pair.otherLength isShortLeaves')).andThen
      fun shortExit shortExit' isShortExit => ?_
  refine (Alike.of_yields
    (levels_yields pair.positions pair.length isFirst.1 isValues present)
    (levels_yields pair.otherPositions pair.otherLength isFirst.2 isValues' present')).andThen
      fun levels levels' isLevels => ?_
  obtain ⟨hold, isHold, isHold'⟩ := pair.hold
  refine (Alike.of_yields (timeStop_yields pair.length isHold)
    (timeStop_yields pair.otherLength isHold')).andThen fun stop stop' isStop => ?_
  refine .returned ⟨⟨side, values, longLeave, shortLeave, hold⟩,
    ⟨side', values', longLeave', shortLeave', hold⟩,
    ⟨sameSides, sameValues, sameLong, sameShort, rfl⟩, ?_, ?_⟩
  · exact ⟨isEntry.1, isExit.1, isShortEntry.1, isShortExit.1, isLevels.1, present,
      isStop.1, isSkipped.1⟩
  · exact ⟨isEntry.2, isExit.2, isShortEntry.2, isShortExit.2, isLevels.2, present',
      isStop.2, isSkipped.2⟩

theorem settingSignals_alike :
    Alike (LibraryError lib.numerics interpreter) (SignalsAlike lib moment spec layout layout')
      (settingSignals (valueMachine lib.one) interpreter one spec depth)
      (settingSignals (valueMachine lib.other) interpreter other spec depth) := by
  refine (plan_alike pair.runs pair.whole pair.admissible rfl rfl).andThen
    fun fractions fractions' both => ?_
  exact signals_alike pair both.1 both.2

end Signals

end QuantFactory.RuleStrategy
