import Mathlib
import QuantFactory.RuleStrategy.CausalRules

/-!
# Stop distances on two histories

A distance reads the bar after the signal bar, the entry's, so two histories that agree
on whole sessions agree on the distances of these sessions.
-/

set_option autoImplicit false

namespace QuantFactory.RuleStrategy

open QuantFactory.Library QuantFactory.Python QuantFactory.RuleLanguage

variable {F : Type} [PyFloat F] {lib : Libraries F} {interpreter : Interpreter F} {moment : Moment}
  {bars others : SessionBars (NdArray F) F} {v : Validator F} {allowed : EvaluationError → Prop}

variable (lib) in
theorem nextRows_call (whole : moment.row = 0) {a b a' b' : NdArray F}
    (array : moment.grid.Floats a b) (values : moment.grid.Floats a' b') :
    Alike allowed moment.grid.Floats (lib.one .nextRows [a, a']) (lib.other .nextRows [b, b']) := by
  obtain ⟨f, g, rfl, rfl, same⟩ := array
  obtain ⟨f', g', rfl, rfl, same'⟩ := values
  simp only [Libraries.one, Libraries.other, numpy, assignNextRows, Moment.grid, ne_eq,
    not_true_eq_false, decide_false, Bool.or_self, raiseIf, Bool.false_eq_true, if_false, bind_ok,
    NdArray.assign, Contents.assigned, Contents.moved, Except.map]
  refine .returned ⟨_, _, rfl, rfl, ?_⟩
  rintro r c ⟨inRows, earlier⟩
  by_cases next : r + 1 < moment.bars
  · have known : moment.Known (r + 1) c := ⟨next, by omega⟩
    simp only [next, decide_true, if_true]
    exact same' _ _ known
  · simp only [next, decide_false, Bool.false_eq_true, if_false]
    exact same r c ⟨inRows, earlier⟩

variable (runs : TwoRuns lib.numerics interpreter v moment bars others) (whole : moment.row = 0)
include runs whole

theorem levelFraction_alike {node : PyValue F} (alike : SeriesAlike lib interpreter moment bars others node)
    {depth other : Nat} (within : node.depth ≤ depth) (within' : node.depth ≤ other) :
    Alike (LibraryError lib.numerics interpreter) moment.grid.Floats
      (levelFraction (valueMachine lib.one) interpreter bars depth node)
      (levelFraction (valueMachine lib.other) interpreter others other node) := by
  unfold levelFraction
  rw [runs.alike.shape, runs.alike.otherShape]
  refine (full_call lib floatScalar_nan).andThen fun empty empty' isEmpty => ?_
  refine (nextRows_call lib whole isEmpty runs.alike.open_).andThen fun entry entry' isEntry => ?_
  refine (alike depth other within within').andThen fun level level' isLevel => ?_
  refine (floats_call lib .subtract (by decide) isEntry isLevel).andThen
    fun distance distance' isDistance => ?_
  exact divide_alike isDistance isEntry

theorem signalBarFraction_alike {depth other : Nat} (within : 1 ≤ depth) (within' : 1 ≤ other)
    {sides sides' : NdArray F} (isSides : moment.grid.Floats sides sides') :
    Alike (LibraryError lib.numerics interpreter) moment.grid.Floats
      (signalBarFraction (valueMachine lib.one) interpreter bars depth sides)
      (signalBarFraction (valueMachine lib.other) interpreter others other sides') := by
  have field : ∀ name ∈ priceFields, SeriesAlike lib interpreter moment bars others (.str name) :=
    fun name member => field_alike runs member
  have shallow : ∀ name : String, (PyValue.str (F := F) name).depth = 1 := fun _ => by
    simp [PyValue.depth]
  unfold signalBarFraction
  refine (numberTest_call lib .greater (by decide) _ isSides).andThen fun long long' isLong => ?_
  refine (levelFraction_alike runs whole (field "low" (by decide)) (by rwa [shallow])
    (by rwa [shallow])).andThen fun low low' isLow => ?_
  refine (numberTest_call lib .less (by decide) _ isSides).andThen fun short short' isShort => ?_
  refine (levelFraction_alike runs whole (field "high" (by decide)) (by rwa [shallow])
    (by rwa [shallow])).andThen fun high high' isHigh => ?_
  refine (map_call lib .negative (by decide) isHigh).andThen fun high high' isHigh => ?_
  rw [runs.alike.shape, runs.alike.otherShape]
  refine (full_call lib floatScalar_nan).andThen fun nowhere nowhere' isNowhere => ?_
  refine (chosen_call lib isShort isHigh isNowhere).andThen fun either either' isEither => ?_
  exact chosen_call lib isLong isLow isEither

omit whole

theorem amount_filled_alike {check : ParamCheck}
    (amount : check = .number ∨ ∃ maximum, check = .amount maximum) {node : PyValue F}
    {checked : Checked F} (rule : NumericRule v check node checked) (f : F → F) :
    Alike (LibraryError lib.numerics interpreter) moment.grid.Floats
      (do
        let amount ← (valueMachine lib.one).raised _ (bars.amount interpreter checked.node)
        filled (valueMachine lib.one) bars.shape (f amount))
      (do
        let amount ← (valueMachine lib.other).raised _ (others.amount interpreter checked.node)
        filled (valueMachine lib.other) others.shape (f amount)) := by
  obtain ⟨x, isAmount⟩ := amount_ok interpreter runs.assigns amount rule
  have isAmount' : others.amount interpreter checked.node = .ok x := by
    rw [← isAmount]
    exact (amount_congr runs.alike.parameters _).symm
  simp only [valueMachine, isAmount, isAmount', bind_ok]
  exact filled_alike runs (f x)

theorem atrDistance_alike {length multiple : Checked F} {lengthNode multipleNode : PyValue F}
    (count : NumericRule v (.count 1 v.bar.barsPerSession) lengthNode length)
    (amount : NumericRule v (.amount none) multipleNode multiple) :
    Alike (LibraryError lib.numerics interpreter) moment.grid.Floats
      (atrDistance (valueMachine lib.one) interpreter bars
        (.dict [("length", length.node), ("multiple", multiple.node)]))
      (atrDistance (valueMachine lib.other) interpreter others
        (.dict [("length", length.node), ("multiple", multiple.node)])) := by
  obtain ⟨x, isAmount⟩ := amount_ok interpreter runs.assigns (.inr ⟨_, rfl⟩) amount
  have isAmount' : others.amount interpreter multiple.node = .ok x := by
    rw [← isAmount]
    exact (amount_congr runs.alike.parameters _).symm
  obtain ⟨n, isCount, isCount', lower⟩ := count_read runs
    [("length", length.node), ("multiple", multiple.node)] "length" (by simp) count
  have isMultiple : nodeUnder "multiple" [("length", length.node), ("multiple", multiple.node)] =
      .ok multiple.node := by simp [nodeUnder, List.lookup_cons, orRaise]
  unfold atrDistance
  simp only [valueMachine, isMultiple, isAmount, isAmount', isCount, isCount', bind_ok]
  refine (simpleAtr_alike runs.reliable runs.alike (by exact_mod_cast lower)).andThen
    fun atr atr' isAtr => ?_
  exact number_call lib .multiply (by decide) _ isAtr

include whole

/-- Every accepted distance but that of a stop at the signal bar. -/
theorem kindFraction_alike {stop kind : String} {original : PyValue F} {value : Checked F}
    (rule : DistanceValueRule v stop kind original value) (plain : kind ≠ "signal_bar")
    {depth other : Nat} (within : value.node.depth ≤ depth) (within' : value.node.depth ≤ other) :
    Alike (LibraryError lib.numerics interpreter) moment.grid.Floats
      (kindFraction (valueMachine lib.one) interpreter bars depth kind value.node)
      (kindFraction (valueMachine lib.other) interpreter others other kind value.node) := by
  have closes : ∀ distance distance' : NdArray F, moment.grid.Floats distance distance' →
      Alike (LibraryError lib.numerics interpreter) moment.grid.Floats
        (divide (valueMachine lib.one) distance bars.close)
        (divide (valueMachine lib.other) distance' others.close) :=
    fun _ _ isDistance => divide_alike isDistance runs.alike.close
  unfold kindFraction
  cases rule with
  | level isKind allowed rule =>
      rw [if_pos isKind, if_pos isKind]
      refine (levelFraction_alike runs whole (series_alike runs rule) within within').andThen
        fun fraction fraction' isFraction => ?_
      exact map_call lib .absolute (by decide) isFraction
  | signalBar isKind allowed => exact absurd isKind plain
  | multiple isKind allowed amount =>
      subst isKind
      exact amount_filled_alike runs (.inr ⟨_, rfl⟩) amount fun x => x
  | @atr atr length multiple lengthOk multipleOk isKind keys lengthFound multipleFound count amount =>
      subst isKind
      exact (atrDistance_alike runs count amount).andThen closes
  | amount isKind amount =>
      simp only [List.mem_cons, List.not_mem_nil, or_false] at isKind
      rcases isKind with rfl | rfl | rfl
      · exact amount_filled_alike runs (.inr ⟨_, rfl⟩) amount fun x =>
          interpreter.divide x (PyFloat.literal 100)
      · exact (amount_filled_alike runs (.inr ⟨_, rfl⟩) amount fun x => x).andThen closes
      · have ticks := amount_filled_alike runs (.inr ⟨_, rfl⟩) amount fun x =>
          interpreter.multiply x bars.tickSize
        have sameTick : others.tickSize = bars.tickSize := runs.alike.tickSize.symm
        refine Alike.andThen ?_ closes
        unfold pointDistance
        rw [sameTick]
        exact ticks

theorem distanceFraction_alike {stop : String} {original : PyValue F} {checked : Checked F}
    (rule : DistanceRule v stop original checked) (plain : checked.node.get? "signal_bar" = none)
    {depth other : Nat} (within : checked.node.depth ≤ depth)
    (within' : checked.node.depth ≤ other) :
    Alike (LibraryError lib.numerics interpreter) moment.grid.Floats
      (distanceFraction (valueMachine lib.one) interpreter bars depth checked.node)
      (distanceFraction (valueMachine lib.other) interpreter others other checked.node) := by
  have closed := distance_closed rule
  obtain ⟨keys, found, valueRule⟩ := rule
  rename_i kind entries value valueOk
  have notBar : kind ≠ "signal_bar" := by
    rintro rfl
    simp [PyValue.get?] at plain
  have inside := (depth_le_entries List.mem_cons_self :
    valueOk.node.depth ≤ PyValue.depthEntries [(kind, valueOk.node)])
  rw [PyValue.depth] at within within'
  refine cached_alike runs closed ?_
  simp only [firstEntry, valueMachine, bind_ok]
  exact kindFraction_alike runs whole valueRule notBar (by omega) (by omega)

theorem plan_alike {spec : SpecEntries F} {depth : Nat} (admissible : AdmissibleSpec v spec depth)
    {one other : Sessions (NdArray F) F} (isOne : one.bars = bars) (isOther : other.bars = others) :
    Alike (LibraryError lib.numerics interpreter)
      (fun fractions fractions' => NamedAlike moment.grid fractions fractions' ∧
        fractions.map Prod.fst = spec.distanceNodes.map Prod.fst ++
          if spec.atSignalBar "stop_loss" then ["stop_loss"] else [])
      (plan (valueMachine lib.one) interpreter one spec depth)
      (plan (valueMachine lib.other) interpreter other spec depth) := by
  subst isOne isOther
  have nodes : ∀ stops : Entries F, (∀ stop ∈ stops, stop ∈ spec.distanceNodes) →
      Alike (LibraryError lib.numerics interpreter)
        (fun fractions fractions' => NamedAlike moment.grid fractions fractions' ∧
          fractions.map Prod.fst = stops.map Prod.fst)
        (each (fun stop => do
          let fraction ← distanceFraction (valueMachine lib.one) interpreter one.bars depth stop.2
          pure (stop.1, fraction)) stops)
        (each (fun stop => do
          let fraction ← distanceFraction (valueMachine lib.other) interpreter other.bars depth stop.2
          pure (stop.1, fraction)) stops) := by
    intro stops
    induction stops with
    | nil => exact fun _ => .returned ⟨.nil, rfl⟩
    | cons stop rest ih =>
        intro members
        have member := members stop List.mem_cons_self
        obtain ⟨⟨original, checked, rule, isNode⟩, shallow⟩ := admissible.distances stop member
        obtain ⟨key, _, isStop⟩ := List.mem_filterMap.mp member
        split_ifs at isStop with atBar
        obtain ⟨node, found, rfl⟩ := Option.map_eq_some_iff.mp isStop
        have plain : checked.node.get? "signal_bar" = none := by
          change checked.node = node at isNode
          rw [isNode]
          simpa [SpecEntries.atSignalBar, found] using atBar
        change checked.node = node at isNode
        subst isNode
        simp only [each, bind_assoc, pure_bind]
        refine (distanceFraction_alike runs whole rule plain shallow shallow).andThen
          fun fraction fraction' isFraction => ?_
        refine (ih fun other inRest => members other (List.mem_cons_of_mem _ inRest)).andThen
          fun fractions fractions' both => ?_
        refine .returned ⟨.cons ⟨rfl, isFraction⟩ both.1, ?_⟩
        rw [List.map_cons, List.map_cons, both.2]
  unfold plan
  refine (nodes _ fun _ member => member).andThen fun fractions fractions' both => ?_
  obtain ⟨named, names⟩ := both
  by_cases atBar : spec.atSignalBar "stop_loss"
  · rw [if_pos atBar, if_pos atBar, if_pos atBar]
    obtain ⟨signals, isSignals, rules⟩ := admissible.signals
    have shallow := admissible.shallow
    have enough : 1 ≤ depth := (depth_pos _).trans shallow
    rw [isSignals] at shallow ⊢
    refine (sidesOf_alike runs rules shallow shallow).andThen fun sides sides' isSides => ?_
    refine (signalBarFraction_alike runs whole enough enough isSides).andThen
      fun fraction fraction' isFraction => ?_
    refine .returned ⟨List.rel_append named (.cons ⟨rfl, isFraction⟩ .nil), ?_⟩
    rw [List.map_append, names]
    rfl
  · rw [if_neg atBar, if_neg atBar, if_neg atBar]
    exact .returned ⟨named, by rw [names, List.append_nil]⟩

end QuantFactory.RuleStrategy
