import QuantFactory.RuleStrategy.SignalRuns

/-!
# Runs of a setting

The stops and the signals of one setting.  The arrays a setting writes into (the
usable bars, the allowed entries, the clock, the flags and the levels) are its
own.
-/

set_option autoImplicit false

namespace QuantFactory.RuleStrategy

open QuantFactory.Library QuantFactory.Library.MemoStore QuantFactory.Python
  QuantFactory.RuleLanguage

variable {F A : Type} [PyFloat F]

structure AdmissibleSpec (v : Validator F) (spec : SpecEntries F) (depth : Nat) : Prop where
  distances : ∀ stop ∈ spec.distanceNodes,
    (∃ original checked, DistanceRule v stop.1 original checked ∧ checked.node = stop.2) ∧
      stop.2.depth ≤ depth
  signals : ∃ signals : List (Checked F), spec.signals = signals.map Checked.node ∧
    ∀ signal ∈ signals, ∃ original, SignalRule v original signal
  shallow : (PyValue.list spec.signals).depth ≤ depth
  exits : ∀ side node, spec.exitWhen.lookup side = some node →
    (∃ original checked, ConditionRule v original checked ∧ checked.node = node) ∧
      node.depth ≤ depth

def sessionCells (prepared : PreparedSessions A F) : List (Nat × A) :=
  (0, prepared.positions) :: priceCells prepared.bars

theorem NamedHeld.values {store : MemoStore String A} {refs : List (String × Nat)}
    {values : List (String × A)} (named : NamedHeld store refs values) :
    List.Forall₂ store.Holds (refs.map Prod.snd) (values.map Prod.snd) := by
  rw [List.forall₂_map_left_iff, List.forall₂_map_right_iff]
  exact List.Forall₂.imp (fun _ _ related => related.2) named

/-! ## Arrays of a setting's own -/

section Steps
variable {library : ArrayLibrary F A} {bound : MemoStore.Bound A} {pinned : Nat}
  {meaning : String → A → Prop} {start store : MemoStore String A} {context : List (Nat × A)}

omit [PyFloat F] in
/-- A write into an array of one's own, at the end of a function that hands it on. -/
theorem write_own {function : ArrayCall F} (args : List (Nat × A)) {target : Nat} {contents : A}
    (total : Grown pinned start store) (sound : Sound pinned meaning store)
    (own : Fresh pinned start store target contents) (held : store.HoldsAll context)
    (known : ∀ arg ∈ args, arg ∈ context) :
    Computes pinned meaning start (Fresh pinned start)
      ((heapMachine library bound).write target function (args.map Prod.fst) store)
      ((valueMachine library).write contents function (args.map Prod.snd)) := by
  refine (overwrite_computes total sound own (held.subset known)).widen (.refl start) ?_
  intro after ref value _ written
  obtain ⟨rfl, fresh, _⟩ := written
  exact fresh

theorem validLoop_computes {fractions : List Nat} {values : List A}
    (total : Grown pinned start store) (sound : Sound pinned meaning store)
    (held : List.Forall₂ start.Holds fractions values) {valid : Nat} {contents : A}
    (own : Fresh pinned start store valid contents) :
    Computes pinned meaning start (Fresh pinned start)
      (validLoop (heapMachine library bound) valid fractions store)
      (validLoop (valueMachine library) contents values) := by
  induction held generalizing store valid contents with
  | nil => exact .pure total sound own
  | @cons fraction value fractions values first rest ih =>
      have known : store.HoldsAll [(fraction, value)] := ⟨total.holds first, trivial⟩
      refine call_then [(fraction, value)] total sound known (by simp)
        fun finite s1 isFinite total sound step _ _ held => ?_
      have own := own.later step
      refine call_then [(fraction, value)] total sound held (by simp)
        fun positive s2 isPositive total sound step _ _ held => ?_
      have own := own.later step
      refine call_then [(finite, isFinite), (positive, isPositive)] total sound held (by simp)
        fun usable s3 isUsable total sound step _ _ held => ?_
      have own := own.later step
      refine Computes.bind (write_own [(usable, isUsable)] total sound own held (by simp))
        fun ref after result total sound own => ?_
      exact ih total sound own

omit [PyFloat F] in
theorem entryWindow_computes (spec : SpecEntries F) (rows : Nat)
    (sound : Sound pinned meaning store) :
    Computes pinned meaning store (Returned pinned store)
      (entryWindow (heapMachine library bound) spec rows store)
      (entryWindow (valueMachine library) spec rows) := by
  have nothing : store.HoldsAll [] := trivial
  refine call_then [] (.refl store) sound nothing (by simp)
    fun allowed s1 all total sound _ _ own held => ?_
  cases spec.entries.lookup "flat_at" with
  | none => exact .pure total sound own.returned
  | some time =>
      refine raised_then fun row _ => ?_
      exact write_last [] total sound own held (by simp)

omit [PyFloat F] in
theorem clockRow_computes (spec : SpecEntries F) (time : Option (PyValue F))
    (total : Grown pinned start store) (sound : Sound pinned meaning store) {clock : Nat}
    {contents : A} (own : Fresh pinned start store clock contents) :
    Computes pinned meaning start (Fresh pinned start)
      (clockRow (heapMachine library bound) spec time clock store)
      (clockRow (valueMachine library) spec time contents) := by
  have nothing : store.HoldsAll [] := trivial
  cases time with
  | none => exact .pure total sound own
  | some time =>
      refine raised_then fun row _ => ?_
      exact write_own [] total sound own nothing (by simp)

omit [PyFloat F] in
theorem clockExits_computes (spec : SpecEntries F) (rows : Nat)
    (sound : Sound pinned meaning store) :
    Computes pinned meaning store (Returned pinned store)
      (clockExits (heapMachine library bound) spec rows store)
      (clockExits (valueMachine library) spec rows) := by
  have nothing : store.HoldsAll [] := trivial
  refine call_then [] (.refl store) sound nothing (by simp)
    fun clock s1 unset total sound _ _ own _ => ?_
  refine Computes.bind (clockRow_computes spec _ total sound own)
    fun clock s2 rows total sound own => ?_
  refine (clockRow_computes spec _ total sound own).widen (.refl store) ?_
  intro after ref value _ fresh
  exact fresh.returned

end Steps

section Setting
variable {library : ArrayLibrary F A} {bound : MemoStore.Bound A} {interpreter : Interpreter F}
  {v : Validator F} {prepared : PreparedSessions A F} {spec : SpecEntries F} {depth : Nat}
  {parameters : Entries F} {pinned : Nat} {meaning : String → A → Prop}
  {store : MemoStore String A}

omit [PyFloat F] in
theorem flagged_computes (sound : Sound pinned meaning store)
    (cells : store.HoldsAll (sessionCells prepared)) {mask : Nat} {contents : A}
    (holds : store.Holds mask contents) :
    Computes pinned meaning store (Returned pinned store)
      (flagged (heapMachine library bound) (prepared.references parameters) mask store)
      (flagged (valueMachine library) (prepared.contents parameters) contents) := by
  have held : store.HoldsAll [(0, prepared.positions), (mask, contents)] :=
    ⟨cells.1, holds, trivial⟩
  refine call_then [] (.refl store) sound held (by simp)
    fun flags s1 unset total sound _ _ own held => ?_
  exact write_last [(0, prepared.positions), (mask, contents)] total sound own held (by simp)

theorem allowedEntries_computes (sound : Sound pinned meaning store)
    (cells : store.HoldsAll (sessionCells prepared)) {sides : Nat} {contents : A}
    (holds : store.Holds sides contents) :
    Computes pinned meaning store (Returned pinned store)
      (allowedEntries (heapMachine library bound) (prepared.references parameters) spec sides store)
      (allowedEntries (valueMachine library) (prepared.contents parameters) spec contents) := by
  have held : store.HoldsAll [(0, prepared.positions), (sides, contents)] :=
    ⟨cells.1, holds, trivial⟩
  refine run_then (.refl store) held (entryWindow_computes spec _ sound)
    fun window s1 rows total sound _ _ held => ?_
  refine call_then [(sides, contents)] total sound held (by simp)
    fun pointed s2 isPointed total sound _ _ _ held => ?_
  refine call_then [(window, rows), (pointed, isPointed)] total sound held (by simp)
    fun allowed s3 isAllowed total sound _ _ own held => ?_
  split_ifs
  · exact .pure total sound own.returned
  · refine call_then [(0, prepared.positions)] total sound held (by simp)
      fun skipped s4 isSkipped total sound step _ _ held => ?_
    have own := own.later step
    refine call_then [(skipped, isSkipped)] total sound held (by simp)
      fun traded s5 isTraded total sound step _ _ held => ?_
    exact write_last [(traded, isTraded)] total sound (own.later step) held (by simp)

omit [PyFloat F] in
theorem stopLevel_computes (sound : Sound pinned meaning store)
    (cells : store.HoldsAll (sessionCells prepared)) {fractions : List (String × Nat)}
    {values : List (String × A)} (named : NamedHeld store fractions values) {first : Nat}
    {contents : A} (holds : store.Holds first contents) (key : String) :
    Computes pinned meaning store
      (fun after ref value => ref.1 = value.1 ∧ after.Holds ref.2 value.2)
      (stopLevel (heapMachine library bound) (prepared.references parameters) fractions first key
        store)
      (stopLevel (valueMachine library) (prepared.contents parameters) values contents key) := by
  have held : store.HoldsAll [(0, prepared.positions), (first, contents)] :=
    ⟨cells.1, holds, trivial⟩
  refine call_then [] (.refl store) sound held (by simp)
    fun level s1 unset total sound step recent own held => ?_
  refine frameOf_then (named.later step) fun fraction away isHeld => ?_
  have context : s1.HoldsAll [(0, prepared.positions), (first, contents), (fraction, away)] :=
    ⟨held.2.1, held.2.2.1, isHeld, trivial⟩
  refine Computes.bind (write_own [(0, prepared.positions), (first, contents), (fraction, away)]
    total sound own context (by simp)) fun ref after value total sound own => ?_
  exact .pure total sound ⟨rfl, own.holds⟩

theorem timeStop_computes (sound : Sound pinned meaning store) :
    Computes pinned meaning store (Returned pinned store)
      (timeStop (heapMachine library bound) interpreter (prepared.references parameters) spec store)
      (timeStop (valueMachine library) interpreter (prepared.contents parameters) spec) := by
  have nothing : store.HoldsAll [] := trivial
  refine call_then [] (.refl store) sound nothing (by simp)
    fun stop s1 unset total sound _ _ own held => ?_
  cases spec.exitRules.lookup "after_bars" with
  | none => exact .pure total sound own.returned
  | some node =>
      refine raised_agree_then (count_agree (Agree.refl node)) fun count _ => ?_
      exact write_last [] total sound own held (by simp)

variable (json : ∀ value other, Persistence.normalize value = .ok value →
    Persistence.normalize other = .ok other →
    interpreter.jsonDumps value = interpreter.jsonDumps other → value = other)
  (admissible : AdmissibleSpec v spec depth)
include json admissible

theorem sidesOf_evaluates : Evaluates library interpreter v prepared.bars
    (sidesOf (heapMachine library bound) interpreter (prepared.bars.located parameters) depth
      spec.signals)
    (sidesOf (valueMachine library) interpreter (prepared.bars.withParameters parameters) depth
      spec.signals) := by
  obtain ⟨signals, isSignals, rules⟩ := admissible.signals
  have shallow := admissible.shallow
  rw [isSignals] at shallow ⊢
  exact sides_runs json rules parameters parameters depth depth (Agree.refl _) shallow shallow

theorem distanceFraction_evaluates {stop : String × PyValue F}
    (member : stop ∈ spec.distanceNodes) : Evaluates library interpreter v prepared.bars
    (distanceFraction (heapMachine library bound) interpreter (prepared.bars.located parameters)
      depth stop.2)
    (distanceFraction (valueMachine library) interpreter
      (prepared.bars.withParameters parameters) depth stop.2) := by
  obtain ⟨⟨original, checked, rule, isNode⟩, shallow⟩ := admissible.distances stop member
  rw [← isNode] at shallow ⊢
  exact distance_runs json rule parameters parameters depth depth (Agree.refl _) shallow shallow

theorem exitCondition_evaluates {side : String} {node : PyValue F}
    (found : spec.exitWhen.lookup side = some node) :
    Evaluates library interpreter v prepared.bars
      (condition (heapMachine library bound) interpreter (prepared.bars.located parameters) depth
        node)
      (condition (valueMachine library) interpreter (prepared.bars.withParameters parameters) depth
        node) := by
  obtain ⟨⟨original, checked, rule, rfl⟩, shallow⟩ := admissible.exits side node found
  exact condition_runs json rule parameters parameters depth depth (Agree.refl _) shallow shallow

theorem plan_computes
    (sound : Sound pinnedCells (Meaning library interpreter v prepared.bars) store)
    (cells : store.HoldsAll (sessionCells prepared)) :
    Computes pinnedCells (Meaning library interpreter v prepared.bars) store NamedHeld
      (plan (heapMachine library bound) interpreter (prepared.references parameters) spec depth
        store)
      (plan (valueMachine library) interpreter (prepared.contents parameters) spec depth) := by
  have kept : ∀ {before after : MemoStore String A}, Grown pinnedCells before after →
      ∀ (ref : String × Nat) (value : String × A), ref.1 = value.1 ∧ before.Holds ref.2 value.2 →
        ref.1 = value.1 ∧ after.Holds ref.2 value.2 :=
    fun step _ _ related => ⟨related.1, step.holds related.2⟩
  refine Computes.andThen (.refl store) (each_computes kept (.refl store) sound
    (List.forall₂_same.mpr fun stop member before grown sound => ?_))
    fun fractions s1 values total step sound named => ?_
  · have held := grown.holdsAll cells
    refine run_then (.refl before) held
      (distanceFraction_evaluates json admissible member before sound held.2)
      fun fraction after away total sound _ returned _ => ?_
    exact .pure total sound ⟨rfl, returned.holds⟩
  · have held := total.holdsAll cells
    split_ifs
    · refine run_then total held (sidesOf_evaluates json admissible s1 sound held.2)
        fun sides s2 contents total sound step returned held => ?_
      have named := NamedHeld.later step named
      have enough : 1 ≤ depth := (depth_pos _).trans admissible.shallow
      refine run_then total held
        (signalBarFraction_computes enough enough sound held.2.2 returned.holds)
        fun fraction s3 away total sound step returned _ => ?_
      exact .pure total sound
        (List.rel_append (NamedHeld.later step named) (.cons ⟨rfl, returned.holds⟩ .nil))
    · exact .pure total sound named

theorem leaves_computes (side : String)
    (sound : Sound pinnedCells (Meaning library interpreter v prepared.bars) store)
    (cells : store.HoldsAll (sessionCells prepared)) {opposite clock : Nat}
    {oppositeValue clockValue : A}
    (held : store.HoldsAll [(opposite, oppositeValue), (clock, clockValue)]) :
    Computes pinnedCells (Meaning library interpreter v prepared.bars) store
      (Returned pinnedCells store)
      (leaves (heapMachine library bound) interpreter (prepared.references parameters) spec depth
        side opposite clock store)
      (leaves (valueMachine library) interpreter (prepared.contents parameters) spec depth side
        oppositeValue clockValue) := by
  have last : ∀ {after : MemoStore String A} {leave : Nat} {leaveValue : A},
      Grown pinnedCells store after →
      Sound pinnedCells (Meaning library interpreter v prepared.bars) after →
      after.HoldsAll [(leave, leaveValue), (opposite, oppositeValue), (clock, clockValue)] →
      Computes pinnedCells (Meaning library interpreter v prepared.bars) store
        (Returned pinnedCells store)
        ((do
          let leave ← if spec.onOppositeSignal then
              elementwise (heapMachine (F := F) library bound) .logicalOr [leave, opposite]
            else pure leave
          elementwise (heapMachine (F := F) library bound) .logicalOr [leave, clock] :
            ArrayRun A Nat) after)
        (do
          let leave ← if spec.onOppositeSignal then
              elementwise (valueMachine (F := F) library) .logicalOr [leaveValue, oppositeValue]
            else pure leaveValue
          elementwise (valueMachine (F := F) library) .logicalOr [leave, clockValue]) := by
    intro after leave leaveValue total sound held
    split_ifs
    · refine call_then [(leave, leaveValue), (opposite, oppositeValue)] total sound held (by simp)
        fun either s1 eitherValue total sound _ _ _ held => ?_
      exact call_last [(either, eitherValue), (clock, clockValue)] total sound held (by simp)
    · simp only [pure_bind]
      exact call_last [(leave, leaveValue), (clock, clockValue)] total sound held (by simp)
  unfold leaves
  cases found : spec.exitWhen.lookup side with
  | none =>
      refine call_then [] (.refl store) sound held (by simp)
        fun leave s1 unset total sound _ _ _ held => ?_
      exact last total sound held
  | some node =>
      refine run_then (.refl store) held
        (exitCondition_evaluates json admissible found store sound cells.2)
        fun leave s1 leaveValue total sound _ _ held => ?_
      exact last total sound held

structure SignalsHeld (store : MemoStore String A) (refs : BatchSignals Nat)
    (values : BatchSignals A) : Prop where
  entry : store.Holds refs.entry values.entry
  exit : store.Holds refs.exit values.exit
  shortEntry : store.Holds refs.shortEntry values.shortEntry
  shortExit : store.Holds refs.shortExit values.shortExit
  levels : NamedHeld store refs.levels values.levels
  timeStop : store.Holds refs.timeStop values.timeStop
  skipped : store.Holds refs.skipped values.skipped

theorem signals_computes
    (sound : Sound pinnedCells (Meaning library interpreter v prepared.bars) store)
    (cells : store.HoldsAll (sessionCells prepared)) {fractions : List (String × Nat)}
    {values : List (String × A)} (named : NamedHeld store fractions values) :
    Computes pinnedCells (Meaning library interpreter v prepared.bars) store SignalsHeld
      (signals (heapMachine library bound) interpreter (prepared.references parameters) spec depth
        fractions store)
      (signals (valueMachine library) interpreter (prepared.contents parameters) spec depth
        values) := by
  refine run_then (.refl store) cells (sidesOf_evaluates json admissible store sound cells.2)
    fun sides s1 sidesValue grown sound step _ held => ?_
  have namedOnce := named.later step
  refine call_then [] grown sound held (by simp)
    fun valid s2 ones total sound step recent own _ => ?_
  refine Computes.andThen grown (validLoop_computes step sound namedOnce.values
    ⟨own.holds, recent, own.own⟩) fun valid s3 usable total step sound own => ?_
  have held : s3.HoldsAll ((valid, usable) :: (sides, sidesValue) :: sessionCells prepared) :=
    ⟨own.holds, step.holdsAll held⟩
  refine run_then total held (allowedEntries_computes sound held.2.2 held.2.1)
    fun allowed s4 allowedValue total sound _ _ held => ?_
  refine call_then [(valid, usable)] total sound held (by simp)
    fun invalid s5 unusable total sound _ _ _ held => ?_
  refine call_then [(allowed, allowedValue), (invalid, unusable)] total sound held (by simp)
    fun blocked s6 blockedValue total sound _ _ _ held => ?_
  refine call_then [(blocked, blockedValue)] total sound held (by simp)
    fun skipped s7 count total sound _ _ _ held => ?_
  refine call_then [(allowed, allowedValue), (valid, usable)] total sound held (by simp)
    fun first s8 firstValue total sound _ _ _ held => ?_
  refine call_then [(sides, sidesValue)] total sound held (by simp)
    fun long s9 longValue total sound _ _ _ held => ?_
  refine call_then [(sides, sidesValue)] total sound held (by simp)
    fun short s10 shortValue total sound _ _ _ held => ?_
  refine call_then [(first, firstValue), (long, longValue)] total sound held (by simp)
    fun longFirst s11 longFirstValue total sound _ _ _ held => ?_
  refine run_then total held (flagged_computes sound (total.holdsAll cells) held.1)
    fun entry s12 entryValue total sound _ _ held => ?_
  refine call_then [(first, firstValue), (short, shortValue)] total sound held (by simp)
    fun shortFirst s13 shortFirstValue total sound _ _ _ held => ?_
  refine run_then total held (flagged_computes sound (total.holdsAll cells) held.1)
    fun shortEntry s14 shortEntryValue total sound _ _ held => ?_
  refine run_then total held (clockExits_computes spec _ sound)
    fun clock s15 clockValue total sound _ _ held => ?_
  have longSides : s15.HoldsAll [(short, shortValue), (clock, clockValue)] :=
    held.subset (by simp)
  refine run_then total held
    (leaves_computes json admissible "long" sound (total.holdsAll cells) longSides)
    fun longLeaves s16 longLeavesValue total sound _ _ held => ?_
  refine run_then total held (flagged_computes sound (total.holdsAll cells) held.1)
    fun exit s17 exitValue total sound _ _ held => ?_
  have shortSides : s17.HoldsAll [(long, longValue), (clock, clockValue)] :=
    held.subset (by simp)
  refine run_then total held
    (leaves_computes json admissible "short" sound (total.holdsAll cells) shortSides)
    fun shortLeaves s18 shortLeavesValue total sound _ _ held => ?_
  refine run_then total held (flagged_computes sound (total.holdsAll cells) held.1)
    fun shortExit s19 shortExitValue total sound _ _ held => ?_
  have kept : ∀ {before after : MemoStore String A}, Grown pinnedCells before after →
      ∀ (ref : String × Nat) (value : String × A), ref.1 = value.1 ∧ before.Holds ref.2 value.2 →
        ref.1 = value.1 ∧ after.Holds ref.2 value.2 :=
    fun step _ _ related => ⟨related.1, step.holds related.2⟩
  have stops : List.Forall₂ (fun key other => ∀ before, Grown pinnedCells s19 before →
      Sound pinnedCells (Meaning library interpreter v prepared.bars) before →
        Computes pinnedCells (Meaning library interpreter v prepared.bars) before
          (fun after ref value => ref.1 = value.1 ∧ after.Holds ref.2 value.2)
          (stopLevel (heapMachine library bound) (prepared.references parameters) fractions first
            key before)
          (stopLevel (valueMachine library) (prepared.contents parameters) values firstValue
            other)) spec.presentStops spec.presentStops := by
    apply List.forall₂_same.mpr
    intro key _ before grown sound
    have all := total.trans grown
    have isFirst : s19.Holds first firstValue := held.mem (by simp)
    exact stopLevel_computes sound (all.holdsAll cells) (named.later all) (grown.holds isFirst) key
  refine Computes.andThen total (each_computes kept (.refl s19) sound stops)
    fun levels s20 levelValues total step sound levelsHeld => ?_
  have held := step.holdsAll held
  refine run_then total held (timeStop_computes sound)
    fun timeStop s21 timeStopValue total sound step _ held => ?_
  exact .pure total sound ⟨held.mem (by simp), held.mem (by simp), held.mem (by simp),
    held.mem (by simp), NamedHeld.later step levelsHeld, held.mem (by simp), held.mem (by simp)⟩

theorem settingSignals_computes
    (sound : Sound pinnedCells (Meaning library interpreter v prepared.bars) store)
    (cells : store.HoldsAll (sessionCells prepared)) :
    Computes pinnedCells (Meaning library interpreter v prepared.bars) store SignalsHeld
      (settingSignals (heapMachine library bound) interpreter (prepared.references parameters) spec
        depth store)
      (settingSignals (valueMachine library) interpreter (prepared.contents parameters) spec
        depth) := by
  refine Computes.andThen (.refl store) (plan_computes json admissible sound cells)
    fun fractions s1 values total step sound named => ?_
  exact (signals_computes json admissible sound (step.holdsAll cells) named).widen total
    fun _ _ _ _ held => held

end Setting

end QuantFactory.RuleStrategy
