import QuantFactory.RuleStrategy.NodeRuns

/-!
# Runs of series

Every operator of a series, given the runs of its operands, and from these every
accepted series.
-/

set_option autoImplicit false

namespace QuantFactory.RuleStrategy

open QuantFactory.Library QuantFactory.Library.MemoStore QuantFactory.Python
  QuantFactory.RuleLanguage

variable {F A : Type} [PyFloat F]

/-! ## The branches of an operator -/

section Branches
variable {m : Type → Type} [Monad m] {R : Type} (machine : ArrayMachine F m R)
  (interpreter : Interpreter F) (bars : SessionBars R F) (recurse : PyValue F → m R)
  {operator : String} (value : PyValue F) (entries : Entries F)

theorem operatorSeries_binary (member : operator ∈ binaryOperators) :
    operatorSeries machine interpreter bars recurse operator value entries = (do
      let operands ← machine.raised _ (operandPair value)
      let left ← recurse operands.1
      let right ← recurse operands.2
      arithmetic machine operator left right) := by
  have known : ∀ operator ∈ binaryOperators, operator ≠ "param" := by decide
  rw [operatorSeries, if_neg (known operator member), if_pos member]

theorem operatorSeries_unary (member : operator ∈ unaryOperators) :
    operatorSeries machine interpreter bars recurse operator value entries = (do
      let operand ← recurse value
      unarySeries machine bars operator operand) := by
  have known : ∀ operator ∈ unaryOperators, operator ≠ "param" ∧ operator ∉ binaryOperators := by
    decide
  obtain ⟨notParam, notBinary⟩ := known operator member
  rw [operatorSeries, if_neg notParam, if_neg notBinary, if_pos member]

theorem operatorSeries_prev :
    operatorSeries machine interpreter bars recurse "prev" value entries = (do
      let operand ← recurse value
      let lag ← machine.raised _ (do bars.count interpreter (← nodeUnder "bars" entries))
      shiftBars machine operand lag) := by
  rw [operatorSeries, if_neg (by decide), if_neg (by decide), if_neg (by decide), if_pos rfl]

theorem operatorSeries_rolling (member : operator ∈ rollingOperators) :
    operatorSeries machine interpreter bars recurse operator value entries = (do
      let length ← machine.raised _ (do bars.count interpreter (← nodeUnder "length" entries))
      let operand ← recurse value
      let across ← machine.raised _ (acrossSessions entries)
      rolling machine operand operator length across) := by
  have known : ∀ operator ∈ rollingOperators, operator ≠ "param" ∧ operator ∉ binaryOperators ∧
      operator ∉ unaryOperators ∧ operator ≠ "prev" := by decide
  obtain ⟨notParam, notBinary, notUnary, notPrev⟩ := known operator member
  rw [operatorSeries, if_neg notParam, if_neg notBinary, if_neg notUnary, if_neg notPrev,
    if_pos member]

theorem operatorSeries_atr :
    operatorSeries machine interpreter bars recurse "atr" value entries =
      atrSeries machine interpreter bars value := by
  rw [operatorSeries, if_neg (by decide), if_neg (by decide), if_neg (by decide),
    if_neg (by decide), if_neg (by decide), if_pos rfl]

/-- An operator after `atr` in the source's chain of tests. -/
def lateOperators : List String :=
  indicatorOperators ++ ["indicator"] ++ sessionOperators ++ ["value_at"] ++ rangeOperators

theorem operatorSeries_late (member : operator ∈ lateOperators) :
    operatorSeries machine interpreter bars recurse operator value entries =
      match indicators.lookup operator with
      | some spec => indicatorSeries machine interpreter bars recurse operator spec value entries
      | none =>
          if operator = "indicator" then librarySeries machine interpreter bars recurse entries
          else if operator ∈ sessionOperators then sessionSeries machine bars operator
          else if operator = "value_at" then do
            let operand ← recurse value
            let row ← machine.raised _ (do barPosition bars.bar (← nodeUnder "time" entries))
            let values ← machine.call (.row row) [operand]
            fromRow machine bars.shape values row
          else rangeSeries machine bars operator value := by
  have known : ∀ operator ∈ lateOperators, operator ≠ "param" ∧ operator ∉ binaryOperators ∧
      operator ∉ unaryOperators ∧ operator ≠ "prev" ∧ operator ∉ rollingOperators ∧
      operator ≠ "atr" := by decide
  obtain ⟨notParam, notBinary, notUnary, notPrev, notRolling, notAtr⟩ := known operator member
  rw [operatorSeries, if_neg notParam, if_neg notBinary, if_neg notUnary, if_neg notPrev,
    if_neg notRolling]
  exact if_neg notAtr

theorem operatorSeries_indicator {spec : IndicatorSpec}
    (declared : indicators.lookup operator = some spec) :
    operatorSeries machine interpreter bars recurse operator value entries =
      indicatorSeries machine interpreter bars recurse operator spec value entries := by
  have named : operator ∈ indicatorOperators :=
    lookup_isSome_iff.mp (by rw [declared]; rfl)
  rw [operatorSeries_late _ _ _ _ _ _ (by simp [lateOperators, named]), declared]

theorem operatorSeries_library :
    operatorSeries machine interpreter bars recurse "indicator" value entries =
      librarySeries machine interpreter bars recurse entries := by
  have none : indicators.lookup "indicator" = none := by decide
  rw [operatorSeries_late _ _ _ _ _ _ (by decide), none]
  exact if_pos rfl

theorem operatorSeries_session (member : operator ∈ sessionOperators) :
    operatorSeries machine interpreter bars recurse operator value entries =
      sessionSeries machine bars operator := by
  have known : ∀ operator ∈ sessionOperators, indicators.lookup operator = none ∧
      operator ≠ "indicator" ∧ operator ∈ lateOperators := by decide
  obtain ⟨none, notIndicator, late⟩ := known operator member
  rw [operatorSeries_late _ _ _ _ _ _ late, none]
  exact (if_neg notIndicator).trans (if_pos member)

theorem operatorSeries_valueAt :
    operatorSeries machine interpreter bars recurse "value_at" value entries = (do
      let operand ← recurse value
      let row ← machine.raised _ (do barPosition bars.bar (← nodeUnder "time" entries))
      let values ← machine.call (.row row) [operand]
      fromRow machine bars.shape values row) := by
  have none : indicators.lookup "value_at" = none := by decide
  rw [operatorSeries_late _ _ _ _ _ _ (by decide), none]
  exact (if_neg (by decide)).trans ((if_neg (by decide)).trans (if_pos rfl))

theorem operatorSeries_range (member : operator ∈ rangeOperators) :
    operatorSeries machine interpreter bars recurse operator value entries =
      rangeSeries machine bars operator value := by
  have known : ∀ operator ∈ rangeOperators, indicators.lookup operator = none ∧
      operator ≠ "indicator" ∧ operator ∉ sessionOperators ∧ operator ≠ "value_at" ∧
      operator ∈ lateOperators := by decide
  obtain ⟨none, notIndicator, notSession, notValueAt, late⟩ := known operator member
  rw [operatorSeries_late _ _ _ _ _ _ late, none]
  exact (if_neg notIndicator).trans ((if_neg notSession).trans (if_neg notValueAt))

theorem series_operator {rest : Entries F} (named : operator ∉ modifiers)
    (depth : Nat) :
    series machine interpreter bars (depth + 1) (.dict ((operator, value) :: rest)) =
      cachedNode machine interpreter bars .series (.dict ((operator, value) :: rest))
        (operatorSeries machine interpreter bars (series machine interpreter bars depth) operator
          value ((operator, value) :: rest)) := by
  have first : operatorEntry ((operator, value) :: rest) = some (operator, value) := by
    simp [operatorEntry, named]
  rw [series, first]

end Branches

/-! ## Operators without operands of their own -/

section Operators
variable {library : ArrayLibrary F A} {bound : MemoStore.Bound A} {pinned : Nat}
  {meaning : String → A → Prop} {store : MemoStore String A} {context : List (Nat × A)}
  {bars : SessionBars A F} {first second : Entries F}

theorem arithmetic_computes (operator : String) (sound : Sound pinned meaning store)
    {left right : Nat} {leftValue rightValue : A}
    (held : store.HoldsAll [(left, leftValue), (right, rightValue)]) :
    Computes pinned meaning store (Returned pinned store)
      (arithmetic (heapMachine library bound) operator left right store)
      (arithmetic (valueMachine library) operator leftValue rightValue) := by
  have call : ∀ function : NumpyFunction, Computes pinned meaning store (Returned pinned store)
      (elementwise (heapMachine library bound) function [left, right] store)
      (elementwise (valueMachine library) function [leftValue, rightValue]) := by
    intro function
    exact call_last [(left, leftValue), (right, rightValue)] (.refl store) sound held (by simp)
  unfold arithmetic
  split_ifs
  · exact divide_computes sound held (by simp)
  · exact call .add
  · exact call .subtract
  · exact call .multiply

theorem unarySeries_computes (operator : String) (sound : Sound pinned meaning store)
    {ref : Nat} {value : A} (holds : store.Holds ref value) :
    Computes pinned meaning store (Returned pinned store)
      (unarySeries (heapMachine library bound) (bars.located first) operator ref store)
      (unarySeries (valueMachine library) (bars.withParameters second) operator value) := by
  have held : store.HoldsAll [(ref, value)] := ⟨holds, trivial⟩
  have call : ∀ function : ArrayCall F, Computes pinned meaning store (Returned pinned store)
      ((heapMachine library bound).call function [ref] store)
      ((valueMachine library).call function [value]) := by
    intro function
    exact call_last [(ref, value)] (.refl store) sound held (by simp)
  unfold unarySeries
  split_ifs with isTicks isAbs isSign isNeg isRun isChange
  · exact call _
  · exact call _
  · exact call _
  · exact call _
  · exact sameSignRun_computes _ sound holds
  · refine call_then [(ref, value)] (.refl store) sound held (by simp)
      fun previous s1 earlier total sound _ _ _ held => ?_
    refine call_then [(ref, value), (previous, earlier)] total sound held (by simp)
      fun change s2 changed total sound _ _ own held => ?_
    exact .pure total sound own.returned
  · refine call_then [(ref, value)] (.refl store) sound held (by simp)
      fun previous s1 earlier total sound _ _ _ held => ?_
    refine call_then [(ref, value), (previous, earlier)] total sound held (by simp)
      fun change s2 changed total sound _ _ _ held => ?_
    exact run_last total (divide_computes sound held (by simp))

theorem vwap_computes (sound : Sound pinned meaning store)
    (held : store.HoldsAll (priceCells bars)) :
    Computes pinned meaning store (Returned pinned store)
      (vwap (heapMachine library bound) (bars.located first) store)
      (vwap (valueMachine library) (bars.withParameters second)) := by
  unfold priceCells at held
  refine call_then [(2, bars.high), (3, bars.low)] (.refl store) sound held (by simp)
    fun sum s1 range total sound _ _ _ held => ?_
  refine call_then [(sum, range), (4, bars.close)] total sound held (by simp)
    fun sum s2 prices total sound _ _ _ held => ?_
  refine call_then [(sum, prices)] total sound held (by simp)
    fun typical s3 mean total sound _ _ _ held => ?_
  refine call_then [(typical, mean), (5, bars.volume)] total sound held (by simp)
    fun traded s4 value total sound _ _ _ held => ?_
  refine call_then [(traded, value)] total sound held (by simp)
    fun turnover s5 values total sound _ _ _ held => ?_
  refine call_then [(5, bars.volume)] total sound held (by simp)
    fun volume s6 volumes total sound _ _ _ held => ?_
  exact call_last [(turnover, values), (volume, volumes)] total sound held (by simp)

theorem sessionSeries_computes (operator : String) (sound : Sound pinned meaning store)
    (held : store.HoldsAll (priceCells bars)) :
    Computes pinned meaning store (Returned pinned store)
      (sessionSeries (heapMachine library bound) (bars.located first) operator store)
      (sessionSeries (valueMachine library) (bars.withParameters second) operator) := by
  unfold sessionSeries
  split_ifs
  · exact vwap_computes sound held
  · refine call_then [(1, bars.open_)] (.refl store) sound held (by simp [priceCells])
      fun row s1 opens total sound _ _ _ held => ?_
    exact call_last [(row, opens)] total sound held (by simp)
  · refine call_then [] (.refl store) sound held (by simp)
      fun numbers s1 counted total sound _ _ _ held => ?_
    exact call_last [(numbers, counted)] total sound held (by simp)

omit [PyFloat F] in
theorem rangeSeries_computes (operator : String) (value : PyValue F)
    (sound : Sound pinned meaning store) (held : store.HoldsAll (priceCells bars)) :
    Computes pinned meaning store (Returned pinned store)
      (rangeSeries (heapMachine library bound) (bars.located first) operator value store)
      (rangeSeries (valueMachine library) (bars.withParameters second) operator value) := by
  refine raised_then fun window _ => ?_
  refine raised_then fun start _ => ?_
  refine raised_then fun last _ => ?_
  split_ifs
  · refine call_then [(2, bars.high)] (.refl store) sound held (by simp [priceCells])
      fun extreme s1 highest total sound _ _ _ held => ?_
    exact run_last total (fromRow_computes _ last sound held.1)
  · refine call_then [(3, bars.low)] (.refl store) sound held (by simp [priceCells])
      fun extreme s1 lowest total sound _ _ _ held => ?_
    exact run_last total (fromRow_computes _ last sound held.1)

theorem combined_computes {interpreter : Interpreter F} (operator : String)
    (params : List (String × Scalar F)) (output : String) (sound : Sound pinned meaning store)
    {refs : List (String × Nat)} {values : List (String × A)} (data : NamedHeld store refs values) :
    Computes pinned meaning store (Returned pinned store)
      (combined (heapMachine library bound) interpreter operator refs params output store)
      (combined (valueMachine library) interpreter operator values params output) := by
  unfold combined
  split_ifs
  · exact keltner_computes params output sound data
  · exact donchian_computes params output sound data
  · exact rfl

/-! ## What the settings agree on -/

variable {interpreter : Interpreter F} {entries : Entries F}

theorem countUnder_agree (agree : Agree first second (.dict entries)) (key : String) :
    (do (bars.located first).count interpreter (← nodeUnder key entries)) =
      (do (bars.withParameters second).count interpreter (← nodeUnder key entries)) := by
  unfold nodeUnder
  cases found : entries.lookup key with
  | none => rfl
  | some node => exact count_agree (agree.entry found)

theorem amountUnder_agree (agree : Agree first second (.dict entries)) (key : String) :
    (do (bars.located first).amount interpreter (← nodeUnder key entries)) =
      (do (bars.withParameters second).amount interpreter (← nodeUnder key entries)) := by
  unfold nodeUnder
  cases found : entries.lookup key with
  | none => rfl
  | some node => exact amount_agree (agree.entry found)

theorem indicatorValue_agree (agree : Agree first second (.dict entries)) :
    indicatorValue interpreter (bars.located first) entries =
      indicatorValue interpreter (bars.withParameters second) entries := by
  funext declared
  unfold indicatorValue
  cases found : entries.lookup declared.1 with
  | none => rfl
  | some value =>
      have inside := agree.entry found
      rw [orRaise, bind_ok, bind_ok]
      cases declared.2 with
      | count minimum => simp only [count_agree inside]
      | amount => simp only [amount_agree inside]

theorem libraryValue_agree {library : LibraryIndicator} {param : String × PyValue F}
    (agree : Agree first second param.2) :
    libraryValue interpreter (bars.located first) library param =
      libraryValue interpreter (bars.withParameters second) library param := by
  unfold libraryValue
  cases library.params.lookup param.1 with
  | none => rfl
  | some kind =>
      rw [orRaise, bind_ok, bind_ok]
      cases kind with
      | count => simp only [count_agree agree]
      | number => simp only [amount_agree agree]

end Operators

/-! ## Indicators -/

section Indicators
variable {library : ArrayLibrary F A} {bound : MemoStore.Bound A} {interpreter : Interpreter F}
  {v : Validator F} {bars : SessionBars A F} {first second : Entries F}
  {recurse : PyValue F → ArrayRun A Nat} {other : PyValue F → Except EvaluationError A}
  {entries : Entries F}

omit [PyFloat F] in
theorem indicatorSources_computes {pinned : Nat} {meaning : String → A → Prop}
    {store : MemoStore String A} (spec : IndicatorSpec) (known : LibraryIndicator)
    (value : PyValue F) (sound : Sound pinned meaning store)
    (operand : spec.takesSeries = true →
      Computes pinned meaning store (Returned pinned store) (recurse value store) (other value)) :
    Computes pinned meaning store NamedHeld
      (indicatorSources (heapMachine library bound) recurse spec known value store)
      (indicatorSources (valueMachine library) other spec known value) := by
  unfold indicatorSources
  split_ifs with takesSeries
  · refine raised_then fun input _ => ?_
    have held : store.HoldsAll [] := trivial
    refine run_then (.refl store) held (operand takesSeries)
      fun source after contents total sound _ returned _ => ?_
    exact .pure total sound (.cons ⟨rfl, returned.holds⟩ .nil)
  · exact .pure (.refl store) sound .nil

theorem indicatorSeries_evaluates (agree : Agree first second (.dict entries))
    {operator : String} {spec : IndicatorSpec} {value : PyValue F}
    (operand : spec.takesSeries = true →
      Evaluates library interpreter v bars (recurse value) (other value)) :
    Evaluates library interpreter v bars
      (indicatorSeries (heapMachine library bound) interpreter (bars.located first) recurse
        operator spec value entries)
      (indicatorSeries (valueMachine library) interpreter (bars.withParameters second) other
        operator spec value entries) := by
  intro store sound prices
  refine raised_agree_then (by rw [indicatorValue_agree agree]) fun params _ => ?_
  refine raised_then fun across _ => ?_
  refine raised_then fun output _ => ?_
  have nothing : ∀ {after : MemoStore String A}, after.HoldsAll [] := trivial
  cases named : spec.library with
  | none =>
      refine Computes.andThen (.refl store) (frames_computes across sound prices .nil)
        fun data s1 contents total step sound held => ?_
      refine run_then total nothing (combined_computes operator params output sound held)
        fun band s2 values total sound step returned _ => ?_
      exact run_last total (scopeArray_computes across sound returned.holds)
  | some name =>
      refine raised_then fun known _ => ?_
      refine Computes.andThen (.refl store) (indicatorSources_computes spec known value sound
        fun takesSeries => operand takesSeries store sound prices)
        fun sources s1 series total step sound held => ?_
      refine Computes.andThen total (frames_computes across sound (step.holdsAll prices) held)
        fun data s2 contents total step sound held => ?_
      refine raised_then fun libraryOutput _ => ?_
      refine run_then total nothing (runLibrary_computes _ _ _ _ sound held)
        fun frame s3 values total sound step returned _ => ?_
      exact run_last total (scopeArray_computes across sound returned.holds)

theorem librarySeries_evaluates (agree : Agree first second (.dict entries))
    (operands : ∀ inputs, objectUnder "inputs" entries = .ok inputs → ∀ input ∈ inputs,
      Evaluates library interpreter v bars (recurse input.2) (other input.2)) :
    Evaluates library interpreter v bars
      (librarySeries (heapMachine library bound) interpreter (bars.located first) recurse entries)
      (librarySeries (valueMachine library) interpreter (bars.withParameters second) other
        entries) := by
  intro store sound prices
  refine raised_then fun name _ => ?_
  refine raised_then fun known _ => ?_
  refine raised_then fun given isGiven => ?_
  have inside : ∀ param ∈ given, Agree first second param.2 := by
    have found : entries.lookup "params" = some (.dict given) := by
      unfold objectUnder at isGiven
      split at isGiven
      · rename_i inner found
        rw [found, Except.ok.inj isGiven]
      · cases isGiven
      · cases isGiven
    intro param member
    exact (agree.entry found).member member
  refine raised_agree_then (collect_congr fun param member =>
    libraryValue_agree (inside param member)) fun params _ => ?_
  refine raised_then fun across _ => ?_
  refine raised_then fun inputs isInputs => ?_
  have sources : List.Forall₂ (fun item other' : String × PyValue F => ∀ before,
      Grown pinnedCells store before → Sound pinnedCells (Meaning library interpreter v bars) before →
        Computes pinnedCells (Meaning library interpreter v bars) before
          (fun after ref value => ref.1 = value.1 ∧ after.Holds ref.2 value.2)
          ((do
            let source ← recurse item.2
            pure (item.1, source) : ArrayRun A (String × Nat)) before)
          (do
            let source ← other other'.2
            pure (other'.1, source))) inputs inputs := by
    apply List.forall₂_same.mpr
    intro input member before grown sound
    have held := grown.holdsAll prices
    refine run_then (.refl before) held (operands inputs isInputs input member before sound held)
      fun source after contents total sound _ returned _ => ?_
    exact .pure total sound ⟨rfl, returned.holds⟩
  refine Computes.andThen (.refl store)
    (each_computes (fun step _ _ related => ⟨related.1, step.holds related.2⟩) (.refl store) sound
      sources) fun refs s1 series total step sound held => ?_
  refine Computes.andThen total (frames_computes across sound (step.holdsAll prices) held)
    fun data s2 contents total step sound held => ?_
  refine raised_then fun output _ => ?_
  have nothing : s2.HoldsAll [] := trivial
  refine run_then total nothing (runLibrary_computes _ _ _ _ sound held)
    fun frame s3 values total sound step returned _ => ?_
  exact run_last total (scopeArray_computes across sound returned.holds)

theorem atrSeries_evaluates {value : PyValue F} (agree : Agree first second value) :
    Evaluates library interpreter v bars
      (atrSeries (heapMachine library bound) interpreter (bars.located first) value)
      (atrSeries (valueMachine library) interpreter (bars.withParameters second) value) := by
  intro store sound prices
  refine raised_then fun atr isAtr => ?_
  have isDict : value = .dict atr := by
    cases value with
    | dict found => rw [Except.ok.inj isAtr]
    | _ => cases isAtr
  rw [isDict] at agree
  refine raised_agree_then (countUnder_agree agree "length") fun length _ => ?_
  refine raised_then fun across _ => ?_
  split_ifs
  · exact simpleAtr_computes length sound prices
  · refine Computes.andThen (.refl store) (frames_computes across sound prices .nil)
      fun data s1 contents total step sound held => ?_
    have nothing : s1.HoldsAll [] := trivial
    refine run_then total nothing (runLibrary_computes _ _ _ _ sound held)
      fun frame s2 values total sound step returned _ => ?_
    exact run_last total (scopeArray_computes across sound returned.holds)

end Indicators

/-! ## Accepted series -/

section Series
variable {library : ArrayLibrary F A} {bound : MemoStore.Bound A} {interpreter : Interpreter F}
  {v : Validator F} {bars : SessionBars A F}
  (json : ∀ value other, Persistence.normalize value = .ok value →
    Persistence.normalize other = .ok other →
    interpreter.jsonDumps value = interpreter.jsonDumps other → value = other)

theorem field_runs {name : String} (member : name ∈ priceFields) :
    NodeRuns library bound interpreter v bars .series (.str name) := by
  intro first second depth other _ within within'
  obtain ⟨depth, rfl⟩ := Nat.exists_eq_add_of_le' ((depth_pos _).trans within)
  obtain ⟨other, rfl⟩ := Nat.exists_eq_add_of_le' ((depth_pos _).trans within')
  intro store sound prices
  obtain ⟨isOpen, isHigh, isLow, isClose, isVolume, _⟩ := prices
  simp only [priceFields, List.mem_cons, List.not_mem_nil, or_false] at member
  rcases member with rfl | rfl | rfl | rfl | rfl
  · exact ⟨.refl store, sound, isOpen, fun _ => .inl (by decide : 1 < pinnedCells)⟩
  · exact ⟨.refl store, sound, isHigh, fun _ => .inl (by decide : 2 < pinnedCells)⟩
  · exact ⟨.refl store, sound, isLow, fun _ => .inl (by decide : 3 < pinnedCells)⟩
  · exact ⟨.refl store, sound, isClose, fun _ => .inl (by decide : 4 < pinnedCells)⟩
  · exact ⟨.refl store, sound, isVolume, fun _ => .inl (by decide : 5 < pinnedCells)⟩

theorem number_runs {node : PyValue F} (isNumber : (∃ n, node = .int n) ∨ ∃ x, node = .float x) :
    NodeRuns library bound interpreter v bars .series node := by
  intro first second depth other _ within within'
  obtain ⟨depth, rfl⟩ := Nat.exists_eq_add_of_le' ((depth_pos _).trans within)
  obtain ⟨other, rfl⟩ := Nat.exists_eq_add_of_le' ((depth_pos _).trans within')
  intro store sound _
  have held : store.HoldsAll [] := trivial
  rcases isNumber with ⟨n, rfl⟩ | ⟨x, rfl⟩
  · refine raised_then fun value _ => ?_
    exact call_last [] (.refl store) sound held (by simp)
  · refine raised_then fun value _ => ?_
    exact call_last [] (.refl store) sound held (by simp)

include json

theorem object_runs {operator : String} {value : PyValue F} {rest : Entries F}
    (named : operator ∉ modifiers)
    (admissible : Admissible v .series (.dict ((operator, value) :: rest)))
    (runs : ∀ first second depth other, Agree first second (.dict ((operator, value) :: rest)) →
      (PyValue.dict ((operator, value) :: rest)).depth ≤ depth + 1 →
      (PyValue.dict ((operator, value) :: rest)).depth ≤ other + 1 →
      Evaluates library interpreter v bars
        (operatorSeries (heapMachine library bound) interpreter (bars.located first)
          (series (heapMachine library bound) interpreter (bars.located first) depth) operator
          value ((operator, value) :: rest))
        (operatorSeries (valueMachine library) interpreter (bars.withParameters second)
          (series (valueMachine library) interpreter (bars.withParameters second) other) operator
          value ((operator, value) :: rest))) :
    NodeRuns library bound interpreter v bars .series (.dict ((operator, value) :: rest)) := by
  have positive : ∀ {depth}, (PyValue.dict ((operator, value) :: rest)).depth ≤ depth →
      depth - 1 + 1 = depth := by
    intro depth within
    have one := depth_pos (PyValue.dict ((operator, value) :: rest))
    omega
  refine cached_runs json admissible
    (fun first depth => operatorSeries (heapMachine library bound) interpreter
      (bars.located first) (series (heapMachine library bound) interpreter (bars.located first)
        (depth - 1)) operator value ((operator, value) :: rest))
    (fun second other => operatorSeries (valueMachine library) interpreter
      (bars.withParameters second) (series (valueMachine library) interpreter
        (bars.withParameters second) (other - 1)) operator value ((operator, value) :: rest))
    ?_ ?_ ?_
  · intro parameters depth within
    rw [nodeOn, ← positive within]
    exact series_operator _ _ _ _ named _
  · intro parameters depth within
    rw [nodeOn, ← positive within]
    exact series_operator _ _ _ _ named _
  · intro first second depth other agree within within'
    exact runs first second (depth - 1) (other - 1) agree (by rwa [positive within])
      (by rwa [positive within'])

theorem binary_runs {operator : String} {left right : Checked F} {original : PyValue F}
    {used : List String} (member : operator ∈ binaryOperators)
    (rule : SeriesRule v original ⟨.dict [(operator, .list [left.node, right.node])], used⟩)
    (leftRuns : NodeRuns library bound interpreter v bars .series left.node)
    (rightRuns : NodeRuns library bound interpreter v bars .series right.node) :
    NodeRuns library bound interpreter v bars .series
      (.dict [(operator, .list [left.node, right.node])]) := by
  have known : ∀ operator ∈ binaryOperators, operator ∉ modifiers := by decide
  refine object_runs json (known operator member) ⟨_, _, rule, rfl⟩
    fun first second depth other agree within within' => ?_
  rw [operatorSeries_binary _ _ _ _ _ _ member, operatorSeries_binary _ _ _ _ _ _ member]
  have operands := agree.entry List.lookup_cons_self
  have inside := depth_entry within List.mem_cons_self
  have inside' := depth_entry within' List.mem_cons_self
  have leftRun := leftRuns first second depth other (operands.item List.mem_cons_self)
    ((depth_item_le List.mem_cons_self).trans inside)
    ((depth_item_le List.mem_cons_self).trans inside')
  have inList : right.node ∈ [left.node, right.node] :=
    List.mem_cons_of_mem _ List.mem_cons_self
  have rightRun := rightRuns first second depth other (operands.item inList)
    ((depth_item_le inList).trans inside) ((depth_item_le inList).trans inside')
  intro store sound prices
  refine raised_then fun pair isPair => ?_
  cases isPair
  refine run_then (.refl store) prices (leftRun store sound prices)
    fun ref s1 value total sound _ _ held => ?_
  refine run_then total held (rightRun s1 sound held.2)
    fun ref' s2 value' total sound _ _ held => ?_
  exact run_last total (arithmetic_computes operator sound ⟨held.2.1, held.1, trivial⟩)

theorem unary_runs {operator : String} {operand : Checked F} {original : PyValue F}
    {used : List String} (member : operator ∈ unaryOperators)
    (rule : SeriesRule v original ⟨.dict [(operator, operand.node)], used⟩)
    (operandRuns : NodeRuns library bound interpreter v bars .series operand.node) :
    NodeRuns library bound interpreter v bars .series (.dict [(operator, operand.node)]) := by
  have known : ∀ operator ∈ unaryOperators, operator ∉ modifiers := by decide
  refine object_runs json (known operator member) ⟨_, _, rule, rfl⟩
    fun first second depth other agree within within' => ?_
  rw [operatorSeries_unary _ _ _ _ _ _ member, operatorSeries_unary _ _ _ _ _ _ member]
  have run := operandRuns first second depth other (agree.entry List.lookup_cons_self)
    (depth_entry within List.mem_cons_self) (depth_entry within' List.mem_cons_self)
  intro store sound prices
  refine run_then (.refl store) prices (run store sound prices)
    fun ref s1 value total sound _ _ held => ?_
  exact run_last total (unarySeries_computes operator sound held.1)

theorem prev_runs {operand bars' : Checked F} {original : PyValue F} {used : List String}
    (rule : SeriesRule v original
      ⟨.dict [("prev", operand.node), ("bars", bars'.node)], used⟩)
    (operandRuns : NodeRuns library bound interpreter v bars .series operand.node) :
    NodeRuns library bound interpreter v bars .series
      (.dict [("prev", operand.node), ("bars", bars'.node)]) := by
  refine object_runs json (by decide) ⟨_, _, rule, rfl⟩
    fun first second depth other agree within within' => ?_
  rw [operatorSeries_prev, operatorSeries_prev]
  have run := operandRuns first second depth other (agree.member List.mem_cons_self)
    (depth_entry within List.mem_cons_self) (depth_entry within' List.mem_cons_self)
  intro store sound prices
  refine run_then (.refl store) prices (run store sound prices)
    fun ref s1 value total sound _ _ held => ?_
  refine raised_agree_then (countUnder_agree agree "bars") fun lag _ => ?_
  exact call_last [(ref, value)] total sound held (by simp)

theorem rolling_runs {operator : String} {operand length : Checked F} {across : Bool}
    {original : PyValue F} {used : List String} (member : operator ∈ rollingOperators)
    (rule : SeriesRule v original ⟨.dict [(operator, operand.node), ("length", length.node),
      ("across_sessions", .bool across)], used⟩)
    (operandRuns : NodeRuns library bound interpreter v bars .series operand.node) :
    NodeRuns library bound interpreter v bars .series (.dict [(operator, operand.node),
      ("length", length.node), ("across_sessions", .bool across)]) := by
  have known : ∀ operator ∈ rollingOperators, operator ∉ modifiers := by decide
  refine object_runs json (known operator member) ⟨_, _, rule, rfl⟩
    fun first second depth other agree within within' => ?_
  rw [operatorSeries_rolling _ _ _ _ _ _ member, operatorSeries_rolling _ _ _ _ _ _ member]
  have run := operandRuns first second depth other (agree.member List.mem_cons_self)
    (depth_entry within List.mem_cons_self) (depth_entry within' List.mem_cons_self)
  intro store sound prices
  refine raised_agree_then (countUnder_agree agree "length") fun bars _ => ?_
  refine run_then (.refl store) prices (run store sound prices)
    fun ref s1 value total sound _ _ held => ?_
  refine raised_then fun flag _ => ?_
  exact call_last [(ref, value)] total sound held (by simp)

theorem valueAt_runs {operand : Checked F} {time : String} {original : PyValue F}
    {used : List String}
    (rule : SeriesRule v original ⟨.dict [("value_at", operand.node), ("time", .str time)], used⟩)
    (operandRuns : NodeRuns library bound interpreter v bars .series operand.node) :
    NodeRuns library bound interpreter v bars .series
      (.dict [("value_at", operand.node), ("time", .str time)]) := by
  refine object_runs json (by decide) ⟨_, _, rule, rfl⟩
    fun first second depth other agree within within' => ?_
  rw [operatorSeries_valueAt, operatorSeries_valueAt]
  have run := operandRuns first second depth other (agree.member List.mem_cons_self)
    (depth_entry within List.mem_cons_self) (depth_entry within' List.mem_cons_self)
  intro store sound prices
  refine run_then (.refl store) prices (run store sound prices)
    fun ref s1 value total sound _ _ held => ?_
  refine raised_then fun row _ => ?_
  refine call_then [(ref, value)] total sound held (by simp)
    fun values s2 contents total sound _ _ _ held => ?_
  exact run_last total (fromRow_computes _ row sound held.1)

theorem indicator_runs {operator : String} {spec : IndicatorSpec} {operand : Checked F}
    {rest : Entries F} {original : PyValue F} {used : List String}
    (declared : indicators.lookup operator = some spec)
    (rule : SeriesRule v original ⟨.dict ((operator, operand.node) :: rest), used⟩)
    (operandRuns : spec.takesSeries = true →
      NodeRuns library bound interpreter v bars .series operand.node) :
    NodeRuns library bound interpreter v bars .series
      (.dict ((operator, operand.node) :: rest)) := by
  have known : ∀ operator ∈ indicatorOperators, operator ∉ modifiers := by decide
  have named : operator ∈ indicatorOperators := lookup_isSome_iff.mp (by rw [declared]; rfl)
  refine object_runs json (known operator named) ⟨_, _, rule, rfl⟩
    fun first second depth other agree within within' => ?_
  rw [operatorSeries_indicator _ _ _ _ _ _ declared, operatorSeries_indicator _ _ _ _ _ _ declared]
  apply indicatorSeries_evaluates agree
  intro takesSeries
  exact operandRuns takesSeries first second depth other (agree.member List.mem_cons_self)
    (depth_entry within List.mem_cons_self) (depth_entry within' List.mem_cons_self)

theorem library_runs {name output : String} {across : Bool}
    {params : Entries F} {inputs : List (String × Checked F)}
    {original : PyValue F} {used : List String}
    (rule : SeriesRule v original ⟨.dict [("indicator", .str name), ("params", .dict params),
      ("inputs", .dict (Validator.checkedEntries inputs)), ("output", .str output),
      ("across_sessions", .bool across)], used⟩)
    (inputRuns : ∀ input ∈ inputs,
      NodeRuns library bound interpreter v bars .series input.2.node) :
    NodeRuns library bound interpreter v bars .series (.dict [("indicator", .str name),
      ("params", .dict params), ("inputs", .dict (Validator.checkedEntries inputs)),
      ("output", .str output), ("across_sessions", .bool across)]) := by
  refine object_runs json (by decide) ⟨_, _, rule, rfl⟩
    fun first second depth other agree within within' => ?_
  rw [operatorSeries_library, operatorSeries_library]
  apply librarySeries_evaluates agree
  intro found isFound input member
  have isInputs : found = Validator.checkedEntries inputs := by
    simpa [objectUnder, List.lookup_cons] using isFound.symm
  subst isInputs
  have inNode : ("inputs", PyValue.dict (Validator.checkedEntries inputs)) ∈
      [("indicator", .str name), ("params", .dict params),
        ("inputs", .dict (Validator.checkedEntries inputs)), ("output", .str output),
        ("across_sessions", .bool across)] := by simp
  obtain ⟨checked, inInputs, rfl⟩ := List.mem_map.mp member
  have inside : ∀ {depth}, (PyValue.dict (Validator.checkedEntries inputs)).depth ≤ depth →
      checked.2.node.depth ≤ depth := by
    intro depth within
    have entry := depth_le_entries member
    rw [PyValue.depth] at within
    omega
  exact inputRuns checked inInputs first second depth other
    ((agree.member inNode).member member) (inside (depth_entry within inNode))
    (inside (depth_entry within' inNode))

theorem series_runs {node : PyValue F} {checked : Checked F} (rule : SeriesRule v node checked) :
    NodeRuns library bound interpreter v bars .series checked.node := by
  have accepted := rule
  induction rule with
  | @int n x finite => exact number_runs (.inl ⟨n, rfl⟩)
  | @float x finite => exact number_runs (.inr ⟨x, rfl⟩)
  | field member => exact field_runs member
  | @param entries name keys found declared =>
      refine object_runs json (by decide) ⟨_, _, accepted, rfl⟩
        fun first second depth other agree _ _ store sound _ => ?_
      have held : store.HoldsAll [] := trivial
      refine raised_agree_then (amount_agree agree) fun amount _ => ?_
      exact call_last [] (.refl store) sound held (by simp)
  | binary member keys found leftRule rightRule leftIh rightIh =>
      exact binary_runs json member accepted (leftIh leftRule) (rightIh rightRule)
  | unary member keys found rule ih => exact unary_runs json member accepted (ih rule)
  | @atr entries value atrOk keys found rule =>
      refine object_runs json (by decide) ⟨_, _, accepted, rfl⟩
        fun first second depth other agree _ _ => ?_
      rw [operatorSeries_atr, operatorSeries_atr]
      exact atrSeries_evaluates (agree.member List.mem_cons_self)
  | @session operator entries member keys found =>
      have known : ∀ operator ∈ sessionOperators, operator ∉ modifiers := by decide
      refine object_runs json (known operator member) ⟨_, _, accepted, rfl⟩
        fun first second depth other agree _ _ store sound prices => ?_
      rw [operatorSeries_session _ _ _ _ _ _ member, operatorSeries_session _ _ _ _ _ _ member]
      exact sessionSeries_computes operator sound prices
  | @range operator start stop entries window member keys found windowKeys startFound stopFound
      startClock stopClock ordered =>
      have known : ∀ operator ∈ rangeOperators, operator ∉ modifiers := by decide
      refine object_runs json (known operator member) ⟨_, _, accepted, rfl⟩
        fun first second depth other agree _ _ store sound prices => ?_
      rw [operatorSeries_range _ _ _ _ _ _ member, operatorSeries_range _ _ _ _ _ _ member]
      exact rangeSeries_computes operator _ sound prices
  | prev keys found barsFound rule count ih => exact prev_runs json accepted (ih rule)
  | rolling member keys found flag lengthFound count rule ih =>
      exact rolling_runs json member accepted (ih rule)
  | valueAt keys found timeFound timeClock rule ih => exact valueAt_runs json accepted (ih rule)
  | indicator declared keys flag found rule plain paramRules choice ih =>
      exact indicator_runs json declared accepted fun takesSeries =>
        ih takesSeries (rule takesSeries)
  | library keys named declared flag paramsFound paramKeys paramRules inputsFound inputKeys operands
      rules outputIs ih =>
      refine library_runs json accepted fun input member => ?_
      obtain ⟨key, inInputs, rfl⟩ := List.mem_map.mp member
      exact ih key inInputs (rules key inInputs)

end Series

end QuantFactory.RuleStrategy
