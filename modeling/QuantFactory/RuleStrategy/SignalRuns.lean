import QuantFactory.RuleStrategy.SeriesRuns

/-!
# Runs of conditions, distances and sides

The rest of a specification over its series.  The sides are decided in two
arrays that the loop over the signals overwrites and nothing else refers to.
-/

set_option autoImplicit false

namespace QuantFactory.RuleStrategy

open QuantFactory.Library QuantFactory.Library.MemoStore QuantFactory.Python
  QuantFactory.RuleLanguage

variable {F A : Type} [PyFloat F]

/-! ## Comparisons and the clock -/

section Steps
variable {library : ArrayLibrary F A} {bound : MemoStore.Bound A} {pinned : Nat}
  {meaning : String → A → Prop} {store : MemoStore String A} {bars : SessionBars A F}
  {first second : Entries F}

omit [PyFloat F] in
theorem crossing_computes (before now : NumpyFunction) (sound : Sound pinned meaning store)
    {left right : Nat} {leftValue rightValue : A}
    (held : store.HoldsAll [(left, leftValue), (right, rightValue)]) :
    Computes pinned meaning store (Returned pinned store)
      (crossing (heapMachine (F := F) library bound) before now left right store)
      (crossing (valueMachine library) before now leftValue rightValue) := by
  refine call_then [(left, leftValue)] (.refl store) sound held (by simp)
    fun leftBefore s1 leftOld total sound _ _ _ held => ?_
  refine call_then [(right, rightValue)] total sound held (by simp)
    fun rightBefore s2 rightOld total sound _ _ _ held => ?_
  refine call_then [(leftBefore, leftOld), (rightBefore, rightOld)] total sound held (by simp)
    fun was s3 wasValue total sound _ _ _ held => ?_
  refine call_then [(left, leftValue), (right, rightValue)] total sound held (by simp)
    fun is s4 isValue total sound _ _ _ held => ?_
  exact call_last [(was, wasValue), (is, isValue)] total sound held (by simp)

omit [PyFloat F] in
theorem comparison_computes (operator : String) (sound : Sound pinned meaning store)
    {left right : Nat} {leftValue rightValue : A}
    (held : store.HoldsAll [(left, leftValue), (right, rightValue)]) :
    Computes pinned meaning store (Returned pinned store)
      (comparison (heapMachine library bound) (bars.located first) operator left right store)
      (comparison (valueMachine library) (bars.withParameters second) operator leftValue
        rightValue) := by
  unfold comparison
  split_ifs
  · exact crossing_computes _ _ sound held
  · exact crossing_computes _ _ sound held
  · refine call_then [(left, leftValue), (right, rightValue)] (.refl store) sound held (by simp)
      fun compared s1 mask total sound _ _ _ held => ?_
    exact call_last [(compared, mask)] total sound held (by simp)

omit [PyFloat F] in
theorem clockCondition_computes (operator : String) (value : PyValue F)
    (sound : Sound pinned meaning store) :
    Computes pinned meaning store (Returned pinned store)
      (clockCondition (heapMachine library bound) (bars.located first) operator value store)
      (clockCondition (valueMachine library) (bars.withParameters second) operator value) := by
  have nothing : store.HoldsAll [] := trivial
  refine call_then [] (.refl store) sound nothing (by simp)
    fun mask s1 unset total sound _ _ own held => ?_
  split_ifs
  · refine raised_then fun minutes _ => ?_
    refine call_then [] total sound held (by simp)
      fun grid s2 marked total sound step _ _ held => ?_
    exact write_last [(grid, marked)] total sound (own.later step) held (by simp)
  · refine raised_then fun row _ => ?_
    exact write_last [] total sound own held (by simp)
  · refine raised_then fun times _ => ?_
    refine raised_then fun start _ => ?_
    refine raised_then fun last _ => ?_
    exact write_last [] total sound own held (by simp)

end Steps

/-! ## Conditions -/

section Conditions
variable {library : ArrayLibrary F A} {bound : MemoStore.Bound A} {interpreter : Interpreter F}
  {v : Validator F} {bars : SessionBars A F} {first second : Entries F}

theorem operatorCondition_evaluates {operator : String} {value : PyValue F}
    {recurse : PyValue F → ArrayRun A Nat} {other : PyValue F → Except EvaluationError A}
    {depth depth' : Nat}
    (operands : operator ∈ comparisonOperators ++ crossOperators → ∀ left right,
      operandPair value = .ok (left, right) →
      Evaluates library interpreter v bars
        (series (heapMachine library bound) interpreter (bars.located first) depth left)
        (series (valueMachine library) interpreter (bars.withParameters second) depth' left) ∧
      Evaluates library interpreter v bars
        (series (heapMachine library bound) interpreter (bars.located first) depth right)
        (series (valueMachine library) interpreter (bars.withParameters second) depth' right))
    (items : operator ∈ ["all", "any"] → ∀ items, conditionItems value = .ok items →
      ∀ item ∈ items, Evaluates library interpreter v bars (recurse item) (other item))
    (inner : operator = "not" →
      Evaluates library interpreter v bars (recurse value) (other value)) :
    Evaluates library interpreter v bars
      (operatorCondition (heapMachine library bound) interpreter (bars.located first) recurse
        depth operator value)
      (operatorCondition (valueMachine library) interpreter (bars.withParameters second) other
        depth' operator value) := by
  intro store sound prices
  have list : operator ∈ ["all", "any"] → ∀ function : ArrayCall F,
      Computes pinnedCells (Meaning library interpreter v bars) store (Returned pinnedCells store)
        ((do
          let items ← (heapMachine library bound).raised _ (conditionItems value)
          let masks ← each recurse items
          (heapMachine library bound).call function masks : ArrayRun A Nat) store)
        (do
          let items ← (valueMachine library).raised _ (conditionItems value)
          let masks ← each other items
          (valueMachine library).call function masks) := by
    intro isList function
    refine raised_then fun found isFound => ?_
    have runs : List.Forall₂ (fun item item' => ∀ before, Grown pinnedCells store before →
        Sound pinnedCells (Meaning library interpreter v bars) before →
          Computes pinnedCells (Meaning library interpreter v bars) before
            Holds (recurse item before) (other item')) found found := by
      apply List.forall₂_same.mpr
      intro item member before grown sound
      exact (items isList found isFound item member before sound (grown.holdsAll prices)).widen
        (.refl before) fun _ _ _ _ returned => returned.holds
    have kept : ∀ {before after : MemoStore String A}, Grown pinnedCells before after →
        ∀ ref value, before.Holds ref value → after.Holds ref value :=
      fun step _ _ holds => step.holds holds
    refine Computes.andThen (.refl store) (each_computes kept (.refl store) sound runs)
      fun masks s1 values total _ sound held => ?_
    exact callList_last total sound held
  unfold operatorCondition
  split_ifs with isComparison isAll isAny isNot
  · refine raised_then fun pair isPair => ?_
    obtain ⟨leftRun, rightRun⟩ := operands isComparison pair.1 pair.2 isPair
    refine run_then (.refl store) prices (leftRun store sound prices)
      fun left s1 leftValue total sound _ _ held => ?_
    refine run_then total held (rightRun s1 sound held.2)
      fun right s2 rightValue total sound _ _ held => ?_
    exact run_last total (comparison_computes operator sound ⟨held.2.1, held.1, trivial⟩)
  · exact list (by simp [isAll]) _
  · exact list (by simp [isAny]) _
  · refine run_then (.refl store) prices (inner isNot store sound prices)
      fun mask s1 value total sound _ _ held => ?_
    exact call_last [(mask, value)] total sound held (by simp)
  · exact clockCondition_computes operator value sound

variable (json : ∀ value other, Persistence.normalize value = .ok value →
    Persistence.normalize other = .ok other →
    interpreter.jsonDumps value = interpreter.jsonDumps other → value = other)
include json

theorem condition_object_runs {operator : String} {value : PyValue F}
    (admissible : Admissible v .condition (.dict [(operator, value)]))
    (runs : ∀ first second depth other, Agree first second value →
      value.depth ≤ depth → value.depth ≤ other →
      Evaluates library interpreter v bars
        (operatorCondition (heapMachine library bound) interpreter (bars.located first)
          (condition (heapMachine library bound) interpreter (bars.located first) depth) depth
          operator value)
        (operatorCondition (valueMachine library) interpreter (bars.withParameters second)
          (condition (valueMachine library) interpreter (bars.withParameters second) other) other
          operator value)) :
    NodeRuns library bound interpreter v bars .condition (.dict [(operator, value)]) := by
  have positive : ∀ {depth}, (PyValue.dict [(operator, value)]).depth ≤ depth →
      depth - 1 + 1 = depth := by
    intro depth within
    have one := depth_pos (PyValue.dict [(operator, value)])
    omega
  refine cached_runs json admissible
    (fun first depth => operatorCondition (heapMachine library bound) interpreter
      (bars.located first) (condition (heapMachine library bound) interpreter (bars.located first)
        (depth - 1)) (depth - 1) operator value)
    (fun second other => operatorCondition (valueMachine library) interpreter
      (bars.withParameters second) (condition (valueMachine library) interpreter
        (bars.withParameters second) (other - 1)) (other - 1) operator value) ?_ ?_ ?_
  · intro parameters depth within
    rw [nodeOn, ← positive within]
    rfl
  · intro parameters depth within
    rw [nodeOn, ← positive within]
    rfl
  · intro first second depth other agree within within'
    rw [← positive within] at within
    rw [← positive within'] at within'
    exact runs first second (depth - 1) (other - 1) (agree.entry List.lookup_cons_self)
      (depth_entry within List.mem_cons_self) (depth_entry within' List.mem_cons_self)

theorem clockNode_runs {operator : String} {value original : PyValue F} {used : List String}
    (isClock : operator ∈ ["every_minutes", "time_is", "time_between"])
    (rule : ConditionRule v original ⟨.dict [(operator, value)], used⟩) :
    NodeRuns library bound interpreter v bars .condition (.dict [(operator, value)]) := by
  have known : ∀ operator ∈ ["every_minutes", "time_is", "time_between"],
      operator ∉ comparisonOperators ++ crossOperators ∧ operator ∉ ["all", "any"] ∧
        operator ≠ "not" := by decide
  obtain ⟨notComparison, notList, notNot⟩ := known operator isClock
  refine condition_object_runs json ⟨_, _, rule, rfl⟩
    fun first second depth other agree within within' => ?_
  apply operatorCondition_evaluates
  · intro isComparison
    exact absurd isComparison notComparison
  · intro isList
    exact absurd isList notList
  · intro isNot
    exact absurd isNot notNot

theorem condition_runs {node : PyValue F} {checked : Checked F}
    (rule : ConditionRule v node checked) :
    NodeRuns library bound interpreter v bars .condition checked.node := by
  have accepted := rule
  induction rule with
  | @comparison operator entries left right leftOk rightOk member keys found leftRule rightRule =>
      refine condition_object_runs json ⟨_, _, accepted, rfl⟩
        fun first second depth other agree within within' => ?_
      have inList : rightOk.node ∈ [leftOk.node, rightOk.node] :=
        List.mem_cons_of_mem _ List.mem_cons_self
      have notList : operator ∉ ["all", "any"] := by
        intro isList
        exact (list_operator isList).2 member
      apply operatorCondition_evaluates
      · intro _ left right isPair
        cases isPair
        constructor
        · exact series_runs json leftRule first second depth other
            (agree.item List.mem_cons_self) ((depth_item_le List.mem_cons_self).trans within)
            ((depth_item_le List.mem_cons_self).trans within')
        · exact series_runs json rightRule first second depth other (agree.item inList)
            ((depth_item_le inList).trans within) ((depth_item_le inList).trans within')
      · intro isList
        exact absurd isList notList
      · rintro rfl
        exact absurd member (by decide)
  | @conditions operator entries items checked member keys found nonempty length rules ih =>
      refine condition_object_runs json ⟨_, _, accepted, rfl⟩
        fun first second depth other agree within within' => ?_
      apply operatorCondition_evaluates
      · intro isComparison
        exact absurd isComparison (list_operator member).2
      · intro _ others isOthers item inItems
        cases isOthers
        obtain ⟨checkedItem, inChecked, rfl⟩ := List.mem_map.mp inItems
        rw [← List.map_snd_zip length.ge] at inChecked
        obtain ⟨pair, inZip, rfl⟩ := List.mem_map.mp inChecked
        exact ih pair inZip (rules pair inZip) first second depth other (agree.item inItems)
          ((depth_item_le inItems).trans within) ((depth_item_le inItems).trans within')
      · rintro rfl
        exact absurd member (by decide)
  | @not entries inner innerOk keys found rule ih =>
      refine condition_object_runs json ⟨_, _, accepted, rfl⟩
        fun first second depth other agree within within' => ?_
      apply operatorCondition_evaluates
      · intro isComparison
        exact absurd isComparison (by decide)
      · intro isList
        exact absurd isList (by decide)
      · intro _
        exact ih rule first second depth other agree within within'
  | everyMinutes keys found count grid => exact clockNode_runs json (by decide) accepted
  | timeIs keys found timeClock => exact clockNode_runs json (by decide) accepted
  | timeBetween keys found startClock stopClock ordered =>
      exact clockNode_runs json (by decide) accepted

end Conditions

/-! ## Sides and distances -/

section Distances
variable {library : ArrayLibrary F A} {bound : MemoStore.Bound A} {interpreter : Interpreter F}
  {v : Validator F} {bars : SessionBars A F} {first second : Entries F}
  {depth depth' : Nat}

theorem side_evaluates {node : PyValue F}
    (operand : ∀ entry, firstEntry node = .ok entry → Evaluates library interpreter v bars
      (series (heapMachine library bound) interpreter (bars.located first) depth entry.2)
      (series (valueMachine library) interpreter (bars.withParameters second) depth' entry.2)) :
    Evaluates library interpreter v bars
      (side (heapMachine library bound) interpreter (bars.located first) depth node)
      (side (valueMachine library) interpreter (bars.withParameters second) depth' node) := by
  intro store sound prices
  have nothing : store.HoldsAll [] := trivial
  unfold side
  split_ifs
  · exact call_last [] (.refl store) sound nothing (by simp)
  · refine call_then [] (.refl store) sound nothing (by simp)
      fun ones s1 value total sound _ _ _ held => ?_
    exact call_last [(ones, value)] total sound held (by simp)
  · refine raised_then fun entry isEntry => ?_
    refine run_then (.refl store) prices (operand entry isEntry store sound prices)
      fun values s1 contents total sound _ _ held => ?_
    refine run_then total held (signsOf_computes sound held.1)
      fun signs s2 signed total sound _ returned held => ?_
    split_ifs
    · exact .pure total sound (returned.widen (by assumption))
    · exact call_last [(signs, signed)] total sound held (by simp)

theorem levelFraction_evaluates {node : PyValue F}
    (level : Evaluates library interpreter v bars
      (series (heapMachine library bound) interpreter (bars.located first) depth node)
      (series (valueMachine library) interpreter (bars.withParameters second) depth' node)) :
    Evaluates library interpreter v bars
      (levelFraction (heapMachine library bound) interpreter (bars.located first) depth node)
      (levelFraction (valueMachine library) interpreter (bars.withParameters second) depth'
        node) := by
  intro store sound prices
  refine call_then [] (.refl store) sound prices (by simp)
    fun entryOpen s1 empty total sound step recent own held => ?_
  refine write_then [(1, bars.open_)] total sound own held (by simp [priceCells]) recent step prices
    fun s2 opens total sound _ held => ?_
  refine run_then total held (level s2 sound held.2)
    fun values s3 contents total sound _ _ held => ?_
  refine call_then [(entryOpen, opens), (values, contents)] total sound held (by simp)
    fun distance s4 away total sound _ _ _ held => ?_
  exact run_last total (divide_computes sound held (by simp))

theorem signalBarFraction_computes {store : MemoStore String A}
    (enough : 1 ≤ depth) (enough' : 1 ≤ depth')
    (sound : Sound pinnedCells (Meaning library interpreter v bars) store)
    (prices : store.HoldsAll (priceCells bars)) {sides : Nat} {contents : A}
    (holds : store.Holds sides contents) :
    Computes pinnedCells (Meaning library interpreter v bars) store (Returned pinnedCells store)
      (signalBarFraction (heapMachine library bound) interpreter (bars.located first) depth sides
        store)
      (signalBarFraction (valueMachine library) interpreter (bars.withParameters second) depth'
        contents) := by
  have level : ∀ name ∈ priceFields, Evaluates library interpreter v bars
      (levelFraction (heapMachine library bound) interpreter (bars.located first) depth (.str name))
      (levelFraction (valueMachine library) interpreter (bars.withParameters second) depth'
        (.str name)) := by
    intro name member
    apply levelFraction_evaluates
    exact field_runs member first second depth depth' (fun _ none => by cases none) enough enough'
  have held : store.HoldsAll ((sides, contents) :: priceCells bars) := ⟨holds, prices⟩
  refine call_then [(sides, contents)] (.refl store) sound held (by simp)
    fun long s1 isLong total sound _ _ _ held => ?_
  refine run_then total held (level "low" (by decide) s1 sound held.2.2)
    fun low s2 lows total sound _ _ held => ?_
  refine call_then [(sides, contents)] total sound held (by simp)
    fun short s3 isShort total sound _ _ _ held => ?_
  refine run_then total held (level "high" (by decide) s3 sound held.2.2.2.2)
    fun high s4 highs total sound _ _ held => ?_
  refine call_then [(high, highs)] total sound held (by simp)
    fun above s5 aboves total sound _ _ _ held => ?_
  refine call_then [] total sound held (by simp)
    fun nowhere s6 empty total sound _ _ _ held => ?_
  refine call_then [(short, isShort), (above, aboves), (nowhere, empty)] total sound held (by simp)
    fun shortOrNone s7 chosen total sound _ _ _ held => ?_
  exact call_last [(long, isLong), (low, lows), (shortOrNone, chosen)] total sound held (by simp)

theorem atrDistance_evaluates {value : PyValue F} (agree : Agree first second value) :
    Evaluates library interpreter v bars
      (atrDistance (heapMachine library bound) interpreter (bars.located first) value)
      (atrDistance (valueMachine library) interpreter (bars.withParameters second) value) := by
  intro store sound prices
  refine raised_then fun atr isAtr => ?_
  have isDict : value = .dict atr := by
    cases value with
    | dict found => rw [Except.ok.inj isAtr]
    | _ => cases isAtr
  rw [isDict] at agree
  refine raised_agree_then (amountUnder_agree agree "multiple") fun multiple _ => ?_
  refine raised_agree_then (countUnder_agree agree "length") fun length _ => ?_
  refine run_then (.refl store) prices (simpleAtr_computes length sound prices)
    fun atr s1 range total sound _ _ held => ?_
  exact call_last [(atr, range)] total sound held (by simp)

theorem pointDistance_evaluates {kind : String} {value : PyValue F}
    (agree : Agree first second value) :
    Evaluates library interpreter v bars
      (pointDistance (heapMachine library bound) interpreter (bars.located first) kind value)
      (pointDistance (valueMachine library) interpreter (bars.withParameters second) kind
        value) := by
  intro store sound prices
  have nothing : store.HoldsAll [] := trivial
  unfold pointDistance
  split_ifs
  · refine raised_agree_then (amount_agree agree) fun amount _ => ?_
    exact call_last [] (.refl store) sound nothing (by simp)
  · refine raised_agree_then (amount_agree agree) fun amount _ => ?_
    exact call_last [] (.refl store) sound nothing (by simp)
  · exact atrDistance_evaluates agree store sound prices

theorem kindFraction_evaluates {kind : String} {value : PyValue F}
    (agree : Agree first second value)
    (level : kind = "level" → Evaluates library interpreter v bars
      (series (heapMachine library bound) interpreter (bars.located first) depth value)
      (series (valueMachine library) interpreter (bars.withParameters second) depth' value)) :
    Evaluates library interpreter v bars
      (kindFraction (heapMachine library bound) interpreter (bars.located first) depth kind value)
      (kindFraction (valueMachine library) interpreter (bars.withParameters second) depth' kind
        value) := by
  intro store sound prices
  have nothing : store.HoldsAll [] := trivial
  unfold kindFraction
  split_ifs with isLevel
  · refine run_then (.refl store) prices
      (levelFraction_evaluates (level isLevel) store sound prices)
      fun fraction s1 away total sound _ _ held => ?_
    exact call_last [(fraction, away)] total sound held (by simp)
  · refine raised_agree_then (amount_agree agree) fun amount _ => ?_
    exact call_last [] (.refl store) sound nothing (by simp)
  · refine raised_agree_then (amount_agree agree) fun amount _ => ?_
    exact call_last [] (.refl store) sound nothing (by simp)
  · refine run_then (.refl store) prices (pointDistance_evaluates agree store sound prices)
      fun distance s1 points total sound _ _ held => ?_
    exact run_last total (divide_computes sound held
      (by simp [priceCells, SessionBars.located, SessionBars.withParameters]))

variable (json : ∀ value other, Persistence.normalize value = .ok value →
    Persistence.normalize other = .ok other →
    interpreter.jsonDumps value = interpreter.jsonDumps other → value = other)
include json

theorem distance_runs {stop : String} {node : PyValue F} {checked : Checked F}
    (rule : DistanceRule v stop node checked) :
    NodeRuns library bound interpreter v bars .distance checked.node := by
  have accepted := rule
  obtain ⟨keys, found, valueRule⟩ := rule
  rename_i kind entries value valueOk
  refine cached_runs json ⟨stop, _, _, accepted, rfl⟩
    (fun first depth => kindFraction (heapMachine library bound) interpreter (bars.located first)
      depth kind valueOk.node)
    (fun second other => kindFraction (valueMachine library) interpreter
      (bars.withParameters second) other kind valueOk.node) (fun _ _ _ => rfl) (fun _ _ _ => rfl)
    fun first second depth other agree within within' => ?_
  have inside := depth_entry (within.trans (Nat.le_succ depth)) List.mem_cons_self
  have inside' := depth_entry (within'.trans (Nat.le_succ other)) List.mem_cons_self
  have agreeInside : Agree first second valueOk.node := agree.entry List.lookup_cons_self
  apply kindFraction_evaluates agreeInside
  rintro rfl
  have isSeries : ∃ original, SeriesRule v original valueOk := by
    cases valueRule with
    | level isKind allowed rule => exact ⟨_, rule⟩
    | signalBar isKind => exact absurd isKind (by decide)
    | multiple isKind => exact absurd isKind (by decide)
    | atr isKind => exact absurd isKind (by decide)
    | amount isKind => exact absurd isKind (by decide)
  obtain ⟨original, seriesRule⟩ := isSeries
  exact series_runs json seriesRule first second depth other agreeInside inside inside'

theorem side_runs {node : PyValue F} {checked : Checked F} (rule : SideRule v node checked)
    (agree : Agree first second checked.node) (within : checked.node.depth ≤ depth)
    (within' : checked.node.depth ≤ depth') :
    Evaluates library interpreter v bars
      (side (heapMachine library bound) interpreter (bars.located first) depth checked.node)
      (side (valueMachine library) interpreter (bars.withParameters second) depth'
        checked.node) := by
  apply side_evaluates
  intro entry isEntry
  cases rule with
  | fixed member => cases isEntry
  | @signed operator operand operandOk member rule =>
      cases isEntry
      exact series_runs json rule first second depth depth' (agree.entry List.lookup_cons_self)
        (depth_entry (within.trans (Nat.le_succ depth)) List.mem_cons_self)
        (depth_entry (within'.trans (Nat.le_succ depth')) List.mem_cons_self)

end Distances

/-! ## The loop over the signals -/

section Buffers
variable {library : ArrayLibrary F A} {bound : MemoStore.Bound A} {pinned : Nat}
  {meaning : String → A → Prop} {start store : MemoStore String A}

structure Buffers (pinned : Nat) (start store : MemoStore String A) (refs : Nat × Nat)
    (values : A × A) : Prop where
  first : Fresh pinned start store refs.1 values.1
  second : Fresh pinned start store refs.2 values.2
  apart : refs.1 ≠ refs.2

theorem Buffers.later {before after : MemoStore String A} {refs : Nat × Nat} {values : A × A}
    (buffers : Buffers pinned start before refs values) (step : Grown pinned before after) :
    Buffers pinned start after refs values :=
  ⟨buffers.first.later step, buffers.second.later step, buffers.apart⟩

theorem Buffers.swap {refs : Nat × Nat} {values : A × A}
    (buffers : Buffers pinned start store refs values) :
    Buffers pinned start store (refs.2, refs.1) (values.2, values.1) :=
  ⟨buffers.second, buffers.first, buffers.apart.symm⟩

omit [PyFloat F] in
/-- A write into the first of two buffers leaves the second and whatever else is held. -/
theorem write_first_then {γ δ : Type} {next : MemoStore String A → γ → δ → Prop}
    {function : ArrayCall F} {f : Nat → ArrayRun A γ} {g : A → Except EvaluationError δ}
    {context known : List (Nat × A)} (args : List (Nat × A)) {refs : Nat × Nat} {values : A × A}
    (total : Grown pinned start store) (sound : Sound pinned meaning store)
    (buffers : Buffers pinned start store refs values) (held : store.HoldsAll context)
    (isKnown : ∀ arg ∈ args, arg ∈ context) (others : store.HoldsAll known)
    (apart : ∀ arg ∈ known, arg.1 ≠ refs.1)
    (rest : ∀ after value, Grown pinned start after → Sound pinned meaning after →
      Buffers pinned start after refs (value, values.2) → after.HoldsAll known →
        Computes pinned meaning start next (f refs.1 after) (g value)) :
    Computes pinned meaning start next
      (((heapMachine library bound).write refs.1 function (args.map Prod.fst) >>= f) store)
      ((valueMachine library).write values.1 function (args.map Prod.snd) >>= g) := by
  refine Computes.bind (overwrite_computes total sound buffers.first (held.subset isKnown)) ?_
  intro ref after value later sound written
  obtain ⟨rfl, fresh, kept, entries⟩ := written
  have second : Fresh pinned start after refs.2 values.2 := by
    refine ⟨kept _ _ buffers.apart.symm buffers.second.holds, buffers.second.recent, ?_⟩
    intro shared
    rw [Shared, entries] at shared
    exact buffers.second.own shared
  have stillHeld : after.HoldsAll known := .of_mem fun ref value member =>
    kept ref value (apart (ref, value) member) (others.mem member)
  exact rest after value later sound ⟨fresh, second, buffers.apart⟩ stillHeld

variable {interpreter : Interpreter F} {v : Validator F} {bars : SessionBars A F}
  {first second : Entries F} {depth depth' : Nat}

structure SignalRuns (library : ArrayLibrary F A) (bound : MemoStore.Bound A)
    (interpreter : Interpreter F) (v : Validator F) (bars : SessionBars A F)
    (first second : Entries F) (depth depth' : Nat) (signal : PyValue F) :
    Prop where
  side : ∀ node, signal.get? "side" = some node → Evaluates library interpreter v bars
    (side (heapMachine library bound) interpreter (bars.located first) depth node)
    (side (valueMachine library) interpreter (bars.withParameters second) depth' node)
  when_ : ∀ node, signal.get? "when" = some node → Evaluates library interpreter v bars
    (condition (heapMachine library bound) interpreter (bars.located first) depth node)
    (condition (valueMachine library) interpreter (bars.withParameters second) depth' node)

theorem signalStep_computes {start store : MemoStore String A} {signal : PyValue F}
    (runs : SignalRuns library bound interpreter v bars first second depth depth' signal)
    (total : Grown pinnedCells start store)
    (sound : Sound pinnedCells (Meaning library interpreter v bars) store)
    (prices : start.HoldsAll (priceCells bars)) {refs : Nat × Nat} {values : A × A}
    (buffers : Buffers pinnedCells start store refs values) :
    Computes pinnedCells (Meaning library interpreter v bars) start (Buffers pinnedCells start)
      (signalStep (heapMachine library bound) interpreter (bars.located first) depth refs signal
        store)
      (signalStep (valueMachine library) interpreter (bars.withParameters second) depth' values
        signal) := by
  have held := total.holdsAll prices
  refine raised_then fun sideNode isSide => ?_
  refine run_then total held (runs.side sideNode (orRaise_eq_ok.mp isSide) store sound held)
    fun side s1 sideValue total sound step _ held => ?_
  have buffers := buffers.later step
  refine raised_then fun whenNode isWhen => ?_
  refine run_then total held (runs.when_ whenNode (orRaise_eq_ok.mp isWhen) s1 sound held.2)
    fun holds s2 holdsValue total sound step _ held => ?_
  have buffers := buffers.later step
  refine call_then [(side, sideValue)] total sound held (by simp)
    fun pointed s3 pointedValue total sound step _ _ held => ?_
  have buffers := buffers.later step
  refine call_then [(holds, holdsValue), (pointed, pointedValue)] total sound held (by simp)
    fun fired s4 firedValue total sound step recent _ held => ?_
  have apart : fired ≠ refs.1 := by
    have old := buffers.first.holds.lt
    omega
  have buffers := buffers.later step
  have held : s4.HoldsAll ((refs.2, values.2) :: (fired, firedValue) :: [(side, sideValue)]) :=
    ⟨buffers.second.holds, held.1, held.2.2.2.1, trivial⟩
  refine call_then [(refs.2, values.2), (fired, firedValue)] total sound held (by simp)
    fun take s5 takeValue total sound step _ _ held => ?_
  have buffers := buffers.later step
  have others : s5.HoldsAll [(fired, firedValue)] := ⟨held.2.2.1, trivial⟩
  refine write_first_then [(take, takeValue), (side, sideValue)] total sound buffers held
    (by simp) others (by simpa using apart) fun s6 sidesValue total sound buffers held => ?_
  refine call_then [(fired, firedValue)] total sound held (by simp)
    fun quiet s7 quietValue total sound step _ _ held => ?_
  have swapped := (buffers.later step).swap
  have nothing : s7.HoldsAll [] := trivial
  refine write_first_then [(quiet, quietValue)] total sound swapped held (by simp) nothing
    (by simp) fun s8 undecidedValue total sound swapped _ => ?_
  exact .pure total sound swapped.swap

theorem signalLoop_computes {start store : MemoStore String A} {signals : List (PyValue F)}
    (runs : ∀ signal ∈ signals,
      SignalRuns library bound interpreter v bars first second depth depth' signal)
    (total : Grown pinnedCells start store)
    (sound : Sound pinnedCells (Meaning library interpreter v bars) store)
    (prices : start.HoldsAll (priceCells bars)) {refs : Nat × Nat} {values : A × A}
    (buffers : Buffers pinnedCells start store refs values) :
    Computes pinnedCells (Meaning library interpreter v bars) start (Returned pinnedCells start)
      (signalLoop (heapMachine library bound) interpreter (bars.located first) depth refs signals
        store)
      (signalLoop (valueMachine library) interpreter (bars.withParameters second) depth' values
        signals) := by
  induction signals generalizing store refs values with
  | nil => exact .pure total sound buffers.first.returned
  | cons signal rest ih =>
      refine Computes.bind (signalStep_computes (runs signal List.mem_cons_self) total sound prices
        buffers) fun refs' after values' total sound buffers => ?_
      exact ih (fun other member => runs other (List.mem_cons_of_mem _ member)) total sound buffers

theorem barSides_evaluates {signals : List (PyValue F)}
    (runs : ∀ signal ∈ signals,
      SignalRuns library bound interpreter v bars first second depth depth' signal) :
    Evaluates library interpreter v bars
      (barSides (heapMachine library bound) interpreter (bars.located first) depth signals)
      (barSides (valueMachine library) interpreter (bars.withParameters second) depth'
        signals) := by
  intro store sound prices
  refine call_then [] (.refl store) sound prices (by simp)
    fun sides s1 zeros total sound _ _ own held => ?_
  refine call_then [] total sound held (by simp)
    fun undecided s2 ones total sound step recent own' held => ?_
  have apart : sides ≠ undecided := by
    have old := own.holds.lt
    omega
  exact signalLoop_computes runs total sound prices ⟨own.later step, own', apart⟩

theorem sides_runs (json : ∀ value other, Persistence.normalize value = .ok value →
      Persistence.normalize other = .ok other →
      interpreter.jsonDumps value = interpreter.jsonDumps other → value = other)
    {signals : List (Checked F)}
    (rules : ∀ signal ∈ signals, ∃ original, SignalRule v original signal) :
    NodeRuns library bound interpreter v bars .sides (.list (signals.map Checked.node)) := by
  refine cached_runs json ⟨signals, rules, rfl⟩
    (fun first depth => barSides (heapMachine library bound) interpreter (bars.located first) depth
      (signals.map Checked.node))
    (fun second other => barSides (valueMachine library) interpreter (bars.withParameters second)
      other (signals.map Checked.node)) (fun _ _ _ => rfl) (fun _ _ _ => rfl)
    fun first second depth other agree within within' => ?_
  apply barSides_evaluates
  intro node member
  have agreeSignal := agree.item member
  have inside := (depth_item_le member).trans within
  have inside' := (depth_item_le member).trans within'
  obtain ⟨signal, inSignals, rfl⟩ := List.mem_map.mp member
  obtain ⟨original, rule⟩ := rules signal inSignals
  obtain ⟨keys, whenFound, sideFound, whenRule, sideRule⟩ := rule
  rename_i entries whenNode sideNode whenOk sideOk
  have entry : ∀ key value, [("when", whenOk.node), ("side", sideOk.node)].lookup key =
      some value → Agree first second value ∧ value.depth ≤ depth ∧ value.depth ≤ other := by
    intro key value found
    have member := mem_of_lookup found
    exact ⟨agreeSignal.member member, depth_entry (inside.trans (Nat.le_succ depth)) member,
      depth_entry (inside'.trans (Nat.le_succ other)) member⟩
  constructor
  · intro node isSide
    obtain ⟨agree, within, within'⟩ := entry "side" node isSide
    obtain rfl : sideOk.node = node := by simpa [PyValue.get?, List.lookup_cons] using isSide
    exact side_runs json sideRule agree within within'
  · intro node isWhen
    obtain ⟨agree, within, within'⟩ := entry "when" node isWhen
    obtain rfl : whenOk.node = node := by simpa [PyValue.get?] using isWhen
    exact condition_runs json whenRule first second depth other agree within within'

end Buffers

end QuantFactory.RuleStrategy
