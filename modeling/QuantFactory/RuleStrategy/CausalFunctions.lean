import Mathlib
import QuantFactory.RuleStrategy.Moments
import QuantFactory.RuleStrategy.Settings

/-!
# The array functions on two histories

Every function of the evaluator returns on both histories and agrees on the known bars,
or the indicator library raises the same on both.
-/

set_option autoImplicit false

namespace QuantFactory.RuleStrategy

open QuantFactory.Library QuantFactory.Python QuantFactory.RuleLanguage

variable {F : Type} [PyFloat F]

/-- What the indicator library itself raises: it is not installed, it does not have a named
indicator, or a run of one fails. -/
inductive LibraryError (numerics : Numerics F) (interpreter : Interpreter F) :
    EvaluationError → Prop
  | missing (none : interpreter.vbt = none) :
      LibraryError numerics interpreter (.library "VectorBT PRO is not installed")
  | unknown {operator name : String} {spec : IndicatorSpec}
      (declared : indicators.lookup operator = some spec) (named : spec.library = some name)
      (none : libraryIndicator interpreter.vbt name = none) :
      LibraryError numerics interpreter (.attributeError "inputs")
  | run {name output : String} {inputs : List String} {params : List (String × Scalar F)}
      {error : EvaluationError} (raised : numerics.indicator name inputs params output = .error error) :
      LibraryError numerics interpreter error

omit [PyFloat F] in
/-- Windows return from their least length on, and nothing is computed from the future. -/
structure Reliable (numerics : Numerics F) (moment : Moment) : Prop where
  window : ∀ operator ∈ rollingOperators, ∀ length : Int,
    (if operator = "std" then 2 else 1) ≤ length →
    ∃ f, numerics.window operator length = .ok f ∧ ∀ r c, moment.Known r c → Causal f
  rollingMax : ∀ length : Int, 1 ≤ length →
    ∃ f, numerics.rollingMax length = .ok f ∧ ∀ r c, moment.Known r c → Causal f
  rollingMin : ∀ length : Int, 1 ≤ length →
    ∃ f, numerics.rollingMin length = .ok f ∧ ∀ r c, moment.Known r c → Causal f
  indicator : ∀ name inputs params output f, numerics.indicator name inputs params output = .ok f →
    ∀ r c, moment.Known r c → Causal f

omit [PyFloat F] in
structure BarsAlike (moment : Moment) (bars others : SessionBars (NdArray F) F) : Prop where
  shape : bars.shape = ⟨moment.bars, moment.sessions⟩
  otherShape : others.shape = ⟨moment.bars, moment.others⟩
  open_ : moment.grid.Floats bars.open_ others.open_
  high : moment.grid.Floats bars.high others.high
  low : moment.grid.Floats bars.low others.low
  close : moment.grid.Floats bars.close others.close
  volume : moment.grid.Floats bars.volume others.volume
  tickSize : bars.tickSize = others.tickSize
  bar : bars.bar = others.bar
  parameters : bars.parameters = others.parameters

section Functions
variable {lib : Libraries F} {interpreter : Interpreter F} {moment : Moment}
  {bars others : SessionBars (NdArray F) F} {a b a' b' : NdArray F}

/-! ## Arithmetic -/

theorem divide_alike {extent : Extent} (left : extent.Floats a b) (right : extent.Floats a' b') :
    Alike (LibraryError lib.numerics interpreter) extent.Floats
      (divide (valueMachine lib.one) a a') (divide (valueMachine lib.other) b b') := by
  refine (floats_call lib .divide (by decide) left right).andThen fun result other isResult => ?_
  refine (numberTest_call lib .equal (by decide) _ right).andThen fun zero zero' isZero => ?_
  refine (test_call lib .isfinite (by decide) isResult).andThen fun finite finite' isFinite => ?_
  refine (not_call lib isFinite).andThen fun infinite infinite' isInfinite => ?_
  refine (logical_call lib .logicalOr (by decide) (.refl extent) isZero isInfinite).andThen
    fun undefined undefined' isUndefined => ?_
  exact fillWhere_call lib floatScalar_nan isResult isUndefined

theorem signsOf_alike {extent : Extent} (values : extent.Floats a b) :
    Alike (LibraryError lib.numerics interpreter) extent.Floats
      (signsOf (valueMachine lib.one) a) (signsOf (valueMachine lib.other) b) := by
  refine (map_call lib .sign (by decide) values).andThen fun signs signs' isSigns => ?_
  refine (test_call lib .isfinite (by decide) isSigns).andThen fun finite finite' isFinite => ?_
  refine (not_call lib isFinite).andThen fun infinite infinite' isInfinite => ?_
  exact fillWhere_call lib (floatScalar_float _) isSigns isInfinite

theorem fromRow_alike {row : Int} (lower : 0 ≤ row) (upper : row ≤ moment.bars)
    (values : (moment.fromRow row.toNat).Floats a b) :
    Alike (LibraryError lib.numerics interpreter) moment.grid.Floats
      (fromRow (valueMachine lib.one) ⟨moment.bars, moment.sessions⟩ a row)
      (fromRow (valueMachine lib.other) ⟨moment.bars, moment.others⟩ b row) := by
  refine (full_call lib floatScalar_nan).andThen fun empty empty' isEmpty => ?_
  exact rowsFrom_call lib lower upper isEmpty values

theorem sameSignRun_alike (values : moment.grid.Floats a b) :
    Alike (LibraryError lib.numerics interpreter) moment.grid.Floats
      (sameSignRun (valueMachine lib.one) ⟨moment.bars, moment.sessions⟩ a)
      (sameSignRun (valueMachine lib.other) ⟨moment.bars, moment.others⟩ b) := by
  refine (signsOf_alike values).andThen fun signs signs' isSigns => ?_
  refine (frame_call lib true isSigns).andThen fun flat flat' isFlat => ?_
  refine (fullFlat_call lib false).andThen fun marks marks' isMarks => ?_
  refine (fillEvery_call lib isMarks).andThen fun starts starts' isStarts => ?_
  refine (runCounts_call lib isFlat isStarts).andThen fun runs runs' isRuns => ?_
  refine (numberTest_call lib .notEqual (by decide) _ isFlat).andThen fun counted counted' isCounted => ?_
  refine (masked_call lib isRuns isCounted).andThen fun product product' isProduct => ?_
  exact unflattened_alike lib.numerics isProduct

theorem each_alike {α β : Type} {related : α → β → Prop} {allowed : EvaluationError → Prop}
    {γ δ : Type} {f : γ → Except EvaluationError α} {g : δ → Except EvaluationError β}
    {items : List γ} {others : List δ}
    (pairs : List.Forall₂ (fun item other => Alike allowed related (f item) (g other)) items others) :
    Alike allowed (List.Forall₂ related) (each f items) (each g others) := by
  induction pairs with
  | nil => exact .returned .nil
  | cons first rest ih =>
      refine first.andThen fun head head' isHead => ?_
      refine ih.andThen fun tail tail' isTail => ?_
      exact .returned (.cons isHead isTail)

theorem simpleAtr_alike (reliable : Reliable lib.numerics moment)
    (alike : BarsAlike moment bars others) {length : Int} (positive : 1 ≤ length) :
    Alike (LibraryError lib.numerics interpreter) moment.grid.Floats
      (simpleAtr (valueMachine lib.one) bars length)
      (simpleAtr (valueMachine lib.other) others length) := by
  obtain ⟨f, isWindow, causal⟩ := reliable.window "sma" (by decide) length (by simpa using positive)
  refine (shift_call lib (by decide) alike.close).andThen fun previous previous' isPrevious => ?_
  refine (floats_call lib .subtract (by decide) alike.high isPrevious).andThen fun high high' isHigh => ?_
  refine (map_call lib .absolute (by decide) isHigh).andThen fun high high' isHigh => ?_
  refine (floats_call lib .subtract (by decide) alike.low isPrevious).andThen fun low low' isLow => ?_
  refine (map_call lib .absolute (by decide) isLow).andThen fun low low' isLow => ?_
  refine (floats_call lib .fmax (by decide) isHigh isLow).andThen fun gaps gaps' isGaps => ?_
  refine (floats_call lib .subtract (by decide) alike.high alike.low).andThen
    fun range range' isRange => ?_
  refine (floats_call lib .fmax (by decide) isRange isGaps).andThen fun true_ true' isTrue => ?_
  exact rolling_call lib isWindow causal false isTrue

/-! ## Frames -/

omit [PyFloat F] in
def NamedAlike (extent : Extent) (data data' : List (String × NdArray F)) : Prop :=
  List.Forall₂ (fun first second => first.1 = second.1 ∧ extent.Floats first.2 second.2) data data'

omit [PyFloat F] in
theorem NamedAlike.lookup {extent : Extent} {data data' : List (String × NdArray F)}
    (alike : NamedAlike extent data data') (name : String) :
    (data.lookup name = none ∧ data'.lookup name = none) ∨
      ∃ a b, data.lookup name = some a ∧ data'.lookup name = some b ∧ extent.Floats a b := by
  induction alike with
  | nil => exact .inl ⟨rfl, rfl⟩
  | @cons first second data data' isFirst rest ih =>
      obtain ⟨key, a⟩ := first
      obtain ⟨key', b⟩ := second
      obtain ⟨rfl, floats⟩ := isFirst
      by_cases same : name = key
      · subst same
        exact .inr ⟨a, b, by simp, by simp, floats⟩
      · have differs : (name == key) = false := by simpa using same
        simpa only [List.lookup_cons, differs] using ih

theorem frameOf_alike {extent : Extent} {data data' : List (String × NdArray F)}
    (alike : NamedAlike extent data data') {name : String}
    (present : (data.lookup name).isSome = true) :
    Alike (LibraryError lib.numerics interpreter) extent.Floats (frameOf data name)
      (frameOf data' name) := by
  rcases alike.lookup name with ⟨absent, _⟩ | ⟨a, b, isFirst, isSecond, floats⟩
  · rw [absent] at present
    cases present
  · rw [frameOf, frameOf, isFirst, isSecond]
    exact .returned floats

theorem collect_alike {allowed : EvaluationError → Prop} {α β γ : Type} {related : α → β → Prop}
    {f : γ → Except EvaluationError α} {g : γ → Except EvaluationError β} {items : List γ}
    (pairs : ∀ item ∈ items, Alike allowed related (f item) (g item)) :
    Alike allowed (List.Forall₂ related) (collect f items) (collect g items) := by
  induction items with
  | nil => exact .returned .nil
  | cons item rest ih =>
      refine (pairs item List.mem_cons_self).andThen fun head head' isHead => ?_
      refine (ih fun other member => pairs other (List.mem_cons_of_mem _ member)).andThen
        fun tail tail' isTail => ?_
      exact .returned (.cons isHead isTail)

omit [PyFloat F] in
theorem each_names {sources data : List (String × NdArray F)} {across : Bool} [PyFloat F]
    (isData : each (fun field => do
      let frame ← (valueMachine lib.one).call (.frame across) [field.2]
      pure (field.1, frame)) sources = .ok data) :
    data.map Prod.fst = sources.map Prod.fst := by
  induction sources generalizing data with
  | nil =>
      cases isData
      rfl
  | cons field rest ih =>
      obtain ⟨head, isHead, done⟩ := bind_eq_ok.mp isData
      obtain ⟨tail, isTail, done⟩ := bind_eq_ok.mp done
      obtain ⟨frame, _, isPair⟩ := bind_eq_ok.mp isHead
      cases done
      cases isPair
      rw [List.map_cons, List.map_cons, ih isTail]

/-- The price fields with other series in the place of some: every price field is there. -/
theorem frames_alike (alike : BarsAlike moment bars others) (across : Bool)
    {sources sources' : List (String × NdArray F)}
    (isSources : NamedAlike moment.grid sources sources') :
    Alike (LibraryError lib.numerics interpreter)
      (fun data data' => NamedAlike (moment.frame across) data data' ∧
        ∀ input ∈ priceInputs, (data.lookup input).isSome = true)
      (frames (valueMachine lib.one) bars across sources)
      (frames (valueMachine lib.other) others across sources') := by
  have fields : NamedAlike moment.grid bars.fields others.fields :=
    .cons ⟨rfl, alike.open_⟩ (.cons ⟨rfl, alike.high⟩ (.cons ⟨rfl, alike.low⟩
      (.cons ⟨rfl, alike.close⟩ (.cons ⟨rfl, alike.volume⟩ .nil))))
  have prices : NamedAlike moment.grid
      (bars.fields.map fun field => (field.1, (sources.lookup field.1).getD field.2))
      (others.fields.map fun field => (field.1, (sources'.lookup field.1).getD field.2)) := by
    rw [NamedAlike, List.forall₂_map_left_iff, List.forall₂_map_right_iff]
    refine fields.imp fun first second same => ?_
    rcases isSources.lookup first.1 with ⟨absent, absent'⟩ | ⟨a, b, present, present', floats⟩
    · rw [← same.1, absent, absent']
      exact ⟨rfl, same.2⟩
    · rw [← same.1, present, present']
      exact ⟨rfl, floats⟩
  have rest : NamedAlike moment.grid (sources.filter fun source => decide (source.1 ∉ priceInputs))
      (sources'.filter fun source => decide (source.1 ∉ priceInputs)) := by
    clear prices
    induction isSources with
    | nil => exact .nil
    | @cons first second data data' isFirst _ ih =>
        rw [List.filter_cons, List.filter_cons, ← isFirst.1]
        split_ifs
        · exact .cons isFirst ih
        · exact ih
  refine Alike.with_left (each_alike ((List.rel_append prices rest).imp fun first second same => ?_)) ?_
  · refine (frame_call lib across same.2).andThen fun frame frame' isFrame => ?_
    exact .returned ⟨same.1, isFrame⟩
  · intro data isData input member
    rw [lookup_isSome_iff, each_names isData, List.map_append, List.map_map]
    exact List.mem_append_left _ member

theorem scopeArray_alike (alike : BarsAlike moment bars others) {across : Bool}
    (frame : (moment.frame across).Floats a b) :
    Alike (LibraryError lib.numerics interpreter) moment.grid.Floats
      (scopeArray (valueMachine lib.one) bars across a)
      (scopeArray (valueMachine lib.other) others across b) := by
  refine (fromFrame_call lib frame).andThen fun values values' isValues => ?_
  refine (test_call lib .isinf (by decide) isValues).andThen fun infinite infinite' isInfinite => ?_
  refine (fillWhere_call lib floatScalar_nan isValues isInfinite).andThen
    fun values values' isValues => ?_
  cases across with
  | true =>
      simp only [if_true, alike.shape, alike.otherShape]
      exact unflattened_alike lib.numerics isValues
  | false => exact .returned isValues

/-! ## Indicators -/

theorem installed_alike :
    Alike (LibraryError lib.numerics interpreter) Eq (requireVectorbtpro interpreter)
      (requireVectorbtpro interpreter) := by
  refine .same fun error raised => ?_
  unfold requireVectorbtpro at raised
  split_ifs at raised with installed
  cases raised
  exact .missing (by simpa using installed)

theorem runLibrary_alike (reliable : Reliable lib.numerics moment) {name : String}
    {inputs : List String} (some_inputs : inputs ≠ []) {across : Bool}
    {data data' : List (String × NdArray F)} (alike : NamedAlike (moment.frame across) data data')
    (present : ∀ input ∈ inputs, (data.lookup input).isSome = true)
    (params : List (String × Scalar F)) (output : String) :
    Alike (LibraryError lib.numerics interpreter) (moment.frame across).Floats
      (runLibrary (valueMachine lib.one) interpreter name inputs data params output)
      (runLibrary (valueMachine lib.other) interpreter name inputs data' params output) := by
  refine (collect_alike fun input member => frameOf_alike alike (present input member)).bind
    fun arrays arrays' isArrays _ each => ?_
  refine installed_alike.andThen fun _ _ _ => ?_
  have nonempty : arrays ≠ [] := by
    rintro rfl
    have length := (collect_eq_ok.mp isArrays).length_eq
    exact some_inputs (List.length_eq_zero_iff.mp length)
  change Alike _ _ (lib.one (.runLibrary name inputs params output) arrays)
    (lib.other (.runLibrary name inputs params output) arrays')
  simp only [Libraries.one, Libraries.other, numpy]
  refine (Alike.same fun error raised => .run raised).bind fun f g isRun _ same => ?_
  subst same
  exact indicator_alike lib.numerics (reliable.indicator _ _ _ _ _ isRun) nonempty each

end Functions

end QuantFactory.RuleStrategy
