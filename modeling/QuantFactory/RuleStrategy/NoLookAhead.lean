import Mathlib
import QuantFactory.RuleStrategy.CausalSignals

/-!
# No look-ahead

An accepted specification reads no bar before it is complete, and its evaluation fails
only where the indicator library does.
-/

set_option autoImplicit false

namespace QuantFactory.RuleStrategy

open QuantFactory.Library QuantFactory.Python QuantFactory.RuleLanguage

variable {F : Type} [PyFloat F]

/-! ## What no later bar changes -/

/-- Every series, every condition, every side and the sides of the signals agree on the known
bars, or the indicator library raises the same on both histories. -/
structure NothingAhead (lib : Libraries F) (interpreter : Interpreter F) (v : Validator F)
    (spec : SpecEntries F) (depth : Nat) (moment : Moment)
    (bars others : SessionBars (NdArray F) F) : Prop where
  series : ∀ node, Admissible v .series node → SeriesAlike lib interpreter moment bars others node
  conditions : ∀ node, Admissible v .condition node →
    ConditionAlike lib interpreter moment bars others node
  side : ∀ original checked, SideRule v original checked → ∀ depth, checked.node.depth ≤ depth →
    Alike (LibraryError lib.numerics interpreter) moment.grid.Floats
      (side (valueMachine lib.one) interpreter bars depth checked.node)
      (side (valueMachine lib.other) interpreter others depth checked.node)
  sides : Alike (LibraryError lib.numerics interpreter) moment.grid.Floats
    (sidesOf (valueMachine lib.one) interpreter bars depth spec.signals)
    (sidesOf (valueMachine lib.other) interpreter others depth spec.signals)

theorem nothingAhead {lib : Libraries F} {interpreter : Interpreter F} {v : Validator F}
    {spec : SpecEntries F} {depth : Nat} {moment : Moment} {bars others : SessionBars (NdArray F) F}
    (admissible : AdmissibleSpec v spec depth)
    (runs : TwoRuns lib.numerics interpreter v moment bars others) :
    NothingAhead lib interpreter v spec depth moment bars others where
  series node isSeries := by
    obtain ⟨original, checked, rule, rfl⟩ := isSeries
    exact series_alike runs rule
  conditions node isCondition := by
    obtain ⟨original, checked, rule, rfl⟩ := isCondition
    exact condition_alike runs rule
  side original checked rule depth within := side_alike runs rule within within
  sides := by
    obtain ⟨signals, areSignals, rules⟩ := admissible.signals
    have shallow := admissible.shallow
    rw [areSignals] at shallow ⊢
    exact sidesOf_alike runs rules shallow shallow

/-- No look-ahead: two histories that agree on all earlier sessions and on the first rows of a
session give every series, condition and side of an accepted specification the same values there,
in every setting. -/
theorem no_look_ahead {runtime : RuleRuntime F} {document packetVariables normalized : PyValue F}
    (accepted : validateRuleSpec runtime document packetVariables = .ok normalized) :
    ∃ declared spec, variableEntries packetVariables = .ok declared ∧
      specEntriesOf normalized = .ok spec ∧
      ∀ (lib : Libraries F) (interpreter : Interpreter F) (moment : Moment)
        (bars others : SessionBars (NdArray F) F),
        TwoRuns lib.numerics interpreter ⟨runtime, declared, spec.bar⟩ moment bars others →
          NothingAhead lib interpreter ⟨runtime, declared, spec.bar⟩ spec normalized.depth moment
            bars others := by
  obtain ⟨declared, spec, isDeclared, isSpec, admissible, -⟩ := spec_of_validated accepted
  exact ⟨declared, spec, isDeclared, isSpec, fun lib interpreter moment bars others runs =>
    nothingAhead admissible runs⟩

/-! ## What an evaluation can raise -/

/-- The windows of pandas and of VectorBT PRO's accessor return from their least length on. -/
structure WindowsReturn (numerics : Numerics F) : Prop where
  window : ∀ operator ∈ rollingOperators, ∀ length : Int,
    (if operator = "std" then 2 else 1) ≤ length → ∃ f, numerics.window operator length = .ok f
  rollingMax : ∀ length : Int, 1 ≤ length → ∃ f, numerics.rollingMax length = .ok f
  rollingMin : ∀ length : Int, 1 ≤ length → ∃ f, numerics.rollingMin length = .ok f

def IsGrid (bars sessions : Nat) (a : NdArray F) : Prop := ∃ f, a = ⟨bars, sessions, .floats f⟩

structure FullSessions (bar : Bar) (sessions : Nat) (bars : SessionBars (NdArray F) F) : Prop where
  shape : bars.shape = ⟨bar.barsPerSession, sessions⟩
  open_ : IsGrid bar.barsPerSession sessions bars.open_
  high : IsGrid bar.barsPerSession sessions bars.high
  low : IsGrid bar.barsPerSession sessions bars.low
  close : IsGrid bar.barsPerSession sessions bars.close
  volume : IsGrid bar.barsPerSession sessions bars.volume
  bar : bars.bar = bar

omit [PyFloat F] in
theorem barsPerSession_pos (bar : Bar) : 0 < bar.barsPerSession := by
  cases bar <;> decide

def Moment.start (bar : Bar) (sessions : Nat) : Moment where
  bars := bar.barsPerSession
  sessions := sessions
  others := sessions
  session := 0
  row := 0
  someBars := barsPerSession_pos bar
  inBars := Nat.zero_le _
  inSessions := Nat.zero_le _
  inOthers := Nat.zero_le _
  here := .inl rfl

theorem not_known_start (bar : Bar) (sessions r c : Nat) : ¬ (Moment.start bar sessions).Known r c := by
  rintro ⟨_, earlier⟩
  simp [Moment.start] at earlier

omit [PyFloat F] in
theorem IsGrid.alike {bar : Bar} {sessions : Nat} {a : NdArray F}
    (grid : IsGrid bar.barsPerSession sessions a) : (Moment.start bar sessions).grid.Floats a a := by
  obtain ⟨f, rfl⟩ := grid
  exact ⟨f, f, rfl, rfl, fun _ _ _ => rfl⟩

omit [PyFloat F] in
theorem isGrid_of_floats {bar : Bar} {sessions : Nat} {a b : NdArray F}
    (floats : (Moment.start bar sessions).grid.Floats a b) : IsGrid bar.barsPerSession sessions a := by
  obtain ⟨f, _, rfl, _, _⟩ := floats
  exact ⟨f, rfl⟩

theorem runs_twice {numerics : Numerics F} {interpreter : Interpreter F} {v : Validator F}
    {sessions : Nat} {bars : SessionBars (NdArray F) F} (windows : WindowsReturn numerics)
    (full : FullSessions v.bar sessions bars) (assigns : Assigns v bars.parameters)
    (vbt : interpreter.vbt = v.runtime.vbt) :
    TwoRuns numerics interpreter v (.start v.bar sessions) bars bars where
  reliable := by
    have nothing := not_known_start v.bar sessions
    constructor
    · intro operator member length enough
      obtain ⟨f, isWindow⟩ := windows.window operator member length enough
      exact ⟨f, isWindow, fun r c known => absurd known (nothing r c)⟩
    · intro length enough
      obtain ⟨f, isWindow⟩ := windows.rollingMax length enough
      exact ⟨f, isWindow, fun r c known => absurd known (nothing r c)⟩
    · intro length enough
      obtain ⟨f, isWindow⟩ := windows.rollingMin length enough
      exact ⟨f, isWindow, fun r c known => absurd known (nothing r c)⟩
    · intro name inputs params output f _ r c known
      exact absurd known (nothing r c)
  alike := ⟨full.shape, full.shape, full.open_.alike, full.high.alike, full.low.alike,
    full.close.alike, full.volume.alike, rfl, rfl, rfl⟩
  assigns := assigns
  bar := full.bar
  rows := rfl
  vbt := vbt

structure FailsOnlyInLibrary (numerics : Numerics F) (dates : SkipDates)
    (interpreter : Interpreter F) (v : Validator F) (spec : SpecEntries F) (depth : Nat)
    (layout : Layout) (sessions : Sessions (NdArray F) F) : Prop where
  series : ∀ node, Admissible v .series node → ∀ depth, node.depth ≤ depth →
    Yields (LibraryError numerics interpreter) (IsGrid v.bar.barsPerSession layout.sessions)
      (series (valueMachine (numpy numerics dates)) interpreter sessions.bars depth node)
  conditions : ∀ node, Admissible v .condition node → ∀ depth, node.depth ≤ depth →
    Yields (LibraryError numerics interpreter)
      (fun a => ∃ f, a = ⟨v.bar.barsPerSession, layout.sessions, .bools f⟩)
      (condition (valueMachine (numpy numerics dates)) interpreter sessions.bars depth node)
  sides : Yields (LibraryError numerics interpreter) (IsGrid v.bar.barsPerSession layout.sessions)
    (sidesOf (valueMachine (numpy numerics dates)) interpreter sessions.bars depth spec.signals)
  signals : Yields (LibraryError numerics interpreter)
    (fun signals => ∃ parts, Written numerics dates layout spec parts signals)
    (settingSignals (valueMachine (numpy numerics dates)) interpreter sessions spec depth)

structure OnIndex (bar : Bar) (layout : Layout) (sessions : Sessions (NdArray F) F) : Prop where
  rows : layout.bars = bar.barsPerSession
  positions : sessions.positions = ⟨layout.bars, layout.sessions, .ints layout.position⟩
  length : sessions.length = layout.length

theorem failsOnlyInLibrary {numerics : Numerics F} {dates : SkipDates} {interpreter : Interpreter F}
    {v : Validator F} {spec : SpecEntries F} {depth : Nat} {layout : Layout}
    {sessions : Sessions (NdArray F) F} (runnable : Runnable v spec)
    (admissible : AdmissibleSpec v spec depth) (onIndex : OnIndex v.bar layout sessions)
    (runs : TwoRuns numerics interpreter v (.start v.bar layout.sessions) sessions.bars sessions.bars) :
    FailsOnlyInLibrary numerics dates interpreter v spec depth layout sessions := by
  have nothing : NothingAhead ⟨numerics, dates, dates⟩ interpreter v spec depth
      (.start v.bar layout.sessions) sessions.bars sessions.bars := nothingAhead admissible runs
  constructor
  · intro node isSeries depth within
    exact (nothing.series node isSeries depth depth within within).yields.mono
      fun a _ floats => isGrid_of_floats floats
  · intro node isCondition depth within
    refine (nothing.conditions node isCondition depth depth within within).yields.mono
      fun a _ bools => ?_
    obtain ⟨f, _, rfl, _, _⟩ := bools
    exact ⟨f, rfl⟩
  · exact nothing.sides.yields.mono fun a _ floats => isGrid_of_floats floats
  · have pair : SettingPair ⟨numerics, dates, dates⟩ interpreter v (.start v.bar layout.sessions)
        spec depth layout layout sessions sessions :=
      { runs := runs, whole := rfl, runnable := runnable, admissible := admissible
        bars := onIndex.rows, sessions := rfl, otherBars := onIndex.rows, otherSessions := rfl
        positions := onIndex.positions, otherPositions := onIndex.positions
        length := onIndex.length, otherLength := onIndex.length }
    refine (settingSignals_alike pair).yields.mono fun signals _ both => ?_
    obtain ⟨parts, _, _, written, _⟩ := both
    exact ⟨parts, written⟩

/-- Evaluation of an accepted specification, in a setting of the declared values and on full
sessions, raises nothing but what the indicator library raises: no parameter is undefined, and with
strict arrays no row, no bound of a slice and no lag lies outside its range. -/
theorem accepted_fails_only_in_library {runtime : RuleRuntime F}
    {document packetVariables normalized : PyValue F}
    (accepted : validateRuleSpec runtime document packetVariables = .ok normalized) :
    ∃ declared spec, variableEntries packetVariables = .ok declared ∧
      specEntriesOf normalized = .ok spec ∧
      ∀ (numerics : Numerics F) (dates : SkipDates) (interpreter : Interpreter F) (layout : Layout)
        (sessions : Sessions (NdArray F) F), WindowsReturn numerics →
        interpreter.vbt = runtime.vbt → OnIndex spec.bar layout sessions →
        FullSessions spec.bar layout.sessions sessions.bars →
        Assigns ⟨runtime, declared, spec.bar⟩ sessions.bars.parameters →
          FailsOnlyInLibrary numerics dates interpreter ⟨runtime, declared, spec.bar⟩ spec
            normalized.depth layout sessions := by
  obtain ⟨declared, spec, isDeclared, isSpec, admissible, runnable⟩ := spec_of_validated accepted
  refine ⟨declared, spec, isDeclared, isSpec, ?_⟩
  intro numerics dates interpreter layout sessions windows vbt onIndex full assigns
  exact failsOnlyInLibrary runnable admissible onIndex (runs_twice windows full assigns vbt)

/-! ## A sample -/

/-- A value at every bar from the bars of a trailing window, undefined before the first full
one. -/
def trailing {α : Type} (undefined : α) (aggregate : List α → α) (length : Nat) (values : List α) :
    List α :=
  (List.range values.length).map fun last =>
    if last + 1 < length then undefined
    else aggregate ((values.take (last + 1)).drop (last + 1 - length))

theorem trailing_causal {α : Type} (undefined : α) (aggregate : List α → α) (length : Nat) :
    Causal (trailing undefined aggregate length) where
  length history := by simp [trailing]
  past history other n same := by
    have lengths : min n history.length = min n other.length := by
      rw [← List.length_take, same, List.length_take]
    refine take_map_range lengths fun last earlier _ => ?_
    have past : history.take (last + 1) = other.take (last + 1) := by
      rw [← min_eq_left (show last + 1 ≤ n from earlier), ← List.take_take, same, List.take_take]
    rw [past]

def wholly (op : Int → Int → Int) : WholeFloat → WholeFloat → WholeFloat
  | .whole a, .whole b => .whole (op a b)
  | _, _ => .nan

def wholeSum (values : List WholeFloat) : WholeFloat := values.foldr (wholly (· + ·)) (.whole 0)

def windowFrom (least length : Int) (aggregate : List WholeFloat → WholeFloat) :
    Except EvaluationError (List WholeFloat → List WholeFloat) :=
  if length < least then .error (.valueError "min_periods must be less than or equal to window")
  else .ok (trailing .nan aggregate length.toNat)

/-- Strict arrays of whole floats, with `talib:SMA` on a time period from two bars on. -/
def sampleNumerics : Numerics WholeFloat where
  nan := .nan
  add := wholly (· + ·)
  subtract := wholly (· - ·)
  multiply := wholly (· * ·)
  divide := sampleInterpreter.divide
  fmax
    | .nan, b => b
    | a, .nan => a
    | a, b => wholly max a b
  maximum := wholly max
  minimum := wholly min
  absolute a := wholly (fun n _ => n.natAbs) a a
  sign a := wholly (fun n _ => n.sign) a a
  negative a := wholly (fun n _ => -n) a a
  isinf _ := false
  window operator length := windowFrom (if operator = "std" then 2 else 1) length wholeSum
  rollingMax length := windowFrom 1 length fun values => values.foldr (wholly max) (.whole 0)
  rollingMin length := windowFrom 1 length fun values => values.foldr (wholly min) (.whole 0)
  indicator _ _ params _ :=
    match params with
    | [("timeperiod", .int length)] =>
        if length < 2 then .error (.library "Bad Parameter (TA_BAD_PARAM)")
        else .ok fun rows => trailing .nan
          (fun values => sampleInterpreter.divide (wholeSum values) (.whole values.length))
          length.toNat (rows.map fun row => row.headD .nan)
    | _ => .error (.library "not supported")
  strict := true

theorem windowFrom_ok {least length : Int} (enough : least ≤ length)
    (aggregate : List WholeFloat → WholeFloat) :
    windowFrom least length aggregate = .ok (trailing .nan aggregate length.toNat) :=
  if_neg (not_lt.mpr enough)

theorem sampleNumerics_windows : WindowsReturn sampleNumerics where
  window _ _ _ enough := ⟨_, windowFrom_ok enough _⟩
  rollingMax _ enough := ⟨_, windowFrom_ok enough _⟩
  rollingMin _ enough := ⟨_, windowFrom_ok enough _⟩

theorem sampleNumerics_reliable (moment : Moment) : Reliable sampleNumerics moment where
  window _ _ _ enough := ⟨_, windowFrom_ok enough _, fun _ _ _ => trailing_causal _ _ _⟩
  rollingMax _ enough := ⟨_, windowFrom_ok enough _, fun _ _ _ => trailing_causal _ _ _⟩
  rollingMin _ enough := ⟨_, windowFrom_ok enough _, fun _ _ _ => trailing_causal _ _ _⟩
  indicator name inputs params output f isRun r c _ := by
    simp only [sampleNumerics] at isRun
    split at isRun
    · split_ifs at isRun
      cases isRun
      exact (trailing_causal _ _ _).comp (Causal.map _)
    · cases isRun

def sampleSession (parameters : Entries WholeFloat) (close : Nat → Int) :
    SessionBars (NdArray WholeFloat) WholeFloat :=
  let column (f : Nat → Int) : NdArray WholeFloat := ⟨78, 1, .floats fun r _ => .whole (f r)⟩
  { shape := ⟨78, 1⟩, open_ := column fun _ => 2, high := column fun _ => 4,
    low := column fun _ => 1, close := column close, volume := column fun _ => 5,
    tickSize := .whole 1, bar := .fiveMinutes, parameters := parameters }

theorem sampleSession_full (parameters : Entries WholeFloat) (close : Nat → Int) :
    FullSessions .fiveMinutes 1 (sampleSession parameters close) :=
  ⟨rfl, ⟨_, rfl⟩, ⟨_, rfl⟩, ⟨_, rfl⟩, ⟨_, rfl⟩, ⟨_, rfl⟩, rfl⟩

def sampleMoment : Moment where
  bars := 78
  sessions := 1
  others := 1
  session := 0
  row := 40
  someBars := by decide
  inBars := by decide
  inSessions := by decide
  inOthers := by decide
  here := .inr (by decide)

theorem sampleSessions_alike (parameters : Entries WholeFloat) :
    BarsAlike sampleMoment (sampleSession parameters fun _ => 3)
      (sampleSession parameters fun r => if r < 40 then 3 else 9) := by
  refine ⟨rfl, rfl, ⟨_, _, rfl, rfl, fun _ _ _ => rfl⟩, ⟨_, _, rfl, rfl, fun _ _ _ => rfl⟩,
    ⟨_, _, rfl, rfl, fun _ _ _ => rfl⟩, ⟨_, _, rfl, rfl, fun r c known => ?_⟩,
    ⟨_, _, rfl, rfl, fun _ _ _ => rfl⟩, rfl, rfl, rfl⟩
  have early : r < 40 := by
    rcases known with ⟨_, before | ⟨_, before⟩⟩
    · exact absurd before (Nat.not_lt_zero _)
    · exact before
  exact congrArg WholeFloat.whole (if_pos early).symm

def barOf (runtime : RuleRuntime WholeFloat) (document packetVariables : PyValue WholeFloat) :
    Option Bar :=
  (validateRuleSpec runtime document packetVariables).toOption.bind fun normalized =>
    (specEntriesOf normalized).toOption.map SpecEntries.bar

theorem bar_of_validated {runtime : RuleRuntime WholeFloat}
    {document packetVariables normalized : PyValue WholeFloat} {bar : Bar}
    (known : barOf runtime document packetVariables = some bar)
    (isNormalized : validateRuleSpec runtime document packetVariables = .ok normalized)
    {spec : SpecEntries WholeFloat} (isSpec : specEntriesOf normalized = .ok spec) :
    spec.bar = bar := by
  simpa [barOf, isNormalized, isSpec, Except.toOption] using known

/-- The rules of the sample with every way out: stops, times of day and skipped days. -/
def exitsDocument : PyValue WholeFloat := .dict [
  ("language", .str "qf_rules_v1"), ("bar", .str "5m"), ("tick_size", .int 1),
  ("session", .dict [("timezone", .str "America/New_York"), ("open", .str "09:30"),
    ("close", .str "16:00")]),
  ("signals", .list [.dict [("when", .dict [("lt", .list [.str "close",
    .dict [("sum", .str "close"), ("length", .dict [("param", .str "n")])]])]),
    ("side", .str "long")]]),
  ("exit", .dict [("after_bars", .dict [("param", .str "n")]), ("at_time", .str "15:30"),
    ("on_opposite_signal", .bool true), ("stop_loss", .dict [("level", .str "low")]),
    ("take_profit", .dict [("r_multiple", .int 2)]),
    ("trailing_stop", .dict [("atr", .dict [("length", .dict [("param", .str "n")]),
      ("multiple", .int 2)])]),
    ("trail_after", .dict [("points", .int 1)]),
    ("exit_when", .dict [("long", .dict [("gt", .list [.str "high", .str "close"])])])]),
  ("flat_at", .str "15:55"), ("skip_days", .list [.str "cpi", .str "fomc"]),
  ("max_trades_per_session", .int 1)]

theorem exitsDocument_accepted : ∃ normalized,
    validateRuleSpec sampleRuntime exitsDocument sampleVariables = .ok normalized := by
  have isAccepted :
      (validateRuleSpec sampleRuntime exitsDocument sampleVariables).toOption.isSome = true := by
    decide +kernel
  cases outcome : validateRuleSpec sampleRuntime exitsDocument sampleVariables with
  | error raised =>
      rw [outcome] at isAccepted
      cases isAccepted
  | ok normalized => exact ⟨normalized, rfl⟩

theorem exitsDocument_bar : barOf sampleRuntime exitsDocument sampleVariables = some .fiveMinutes := by
  decide +kernel

theorem sample_assigns {declared : Entries WholeFloat}
    (isDeclared : variableEntries sampleVariables = .ok declared) (bar : Bar) :
    Assigns ⟨sampleRuntime, declared, bar⟩ [("n", .int 2)] := by
  cases isDeclared
  intro name definition values found listed
  have isName : name = "n" := by
    by_contra differs
    have unequal : (name == "n") = false := by simpa using differs
    simp [List.lookup_cons, unequal] at found
  subst isName
  cases found
  cases listed
  exact ⟨_, rfl, .int 2, List.mem_cons_self, rfl, fun x isFloat => by cases isFloat⟩

theorem no_look_ahead_sample :
    ∃ normalized declared spec,
      validateRuleSpec sampleRuntime exitsDocument sampleVariables = .ok normalized ∧
      NothingAhead ⟨sampleNumerics, fun _ _ => false, fun _ _ => true⟩ sampleInterpreter
        ⟨sampleRuntime, declared, spec.bar⟩ spec normalized.depth sampleMoment
        (sampleSession [("n", .int 2)] fun _ => 3)
        (sampleSession [("n", .int 2)] fun r => if r < 40 then 3 else 9) := by
  obtain ⟨normalized, accepted⟩ := exitsDocument_accepted
  obtain ⟨declared, spec, isDeclared, isSpec, nothing⟩ := no_look_ahead accepted
  have isBar := bar_of_validated exitsDocument_bar accepted isSpec
  refine ⟨normalized, declared, spec, accepted, nothing _ _ _ _ _ ?_⟩
  exact
    { reliable := sampleNumerics_reliable _
      alike := sampleSessions_alike _
      assigns := sample_assigns isDeclared _
      bar := isBar.symm
      rows := by
        rw [isBar]
        exact (by decide : 78 = Bar.fiveMinutes.barsPerSession)
      vbt := rfl }

def sampleLayout : Layout where
  bars := 78
  sessions := 1
  length := 78
  position r _ := r
  someBars := by decide
  placed :=
    { inside := fun r c inBars _ => ⟨by omega, by omega⟩
      distinct := fun r c r' c' _ inSessions _ inSessions' same => ⟨by omega, by omega⟩ }

def sampleSessions (parameters : Entries WholeFloat) (close : Nat → Int) :
    Sessions (NdArray WholeFloat) WholeFloat where
  length := 78
  positions := ⟨78, 1, .ints fun r _ => r⟩
  bars := sampleSession parameters close

theorem sampleSessions_onIndex (parameters : Entries WholeFloat) (close : Nat → Int) :
    OnIndex .fiveMinutes sampleLayout (sampleSessions parameters close) := ⟨by decide, rfl, rfl⟩

theorem accepted_fails_only_in_library_sample :
    ∃ normalized declared spec,
      validateRuleSpec sampleRuntime exitsDocument sampleVariables = .ok normalized ∧
      FailsOnlyInLibrary sampleNumerics (fun _ _ => false) sampleInterpreter
        ⟨sampleRuntime, declared, spec.bar⟩ spec normalized.depth sampleLayout
        (sampleSessions [("n", .int 2)] fun _ => 3) := by
  obtain ⟨normalized, accepted⟩ := exitsDocument_accepted
  obtain ⟨declared, spec, isDeclared, isSpec, fails⟩ := accepted_fails_only_in_library accepted
  have isBar := bar_of_validated exitsDocument_bar accepted isSpec
  refine ⟨normalized, declared, spec, accepted, fails _ _ _ _ _ sampleNumerics_windows rfl ?_ ?_
    (sample_assigns isDeclared _)⟩
  · rw [isBar]
    exact sampleSessions_onIndex _ _
  · rw [isBar]
    exact sampleSession_full _ _

def movingAverage : VectorBT WholeFloat where
  indicator
    | "talib:SMA" => some ⟨"vectorbtpro.indicators.talib_", ["close"], ["timeperiod"],
        [("timeperiod", .int 30)], ["real"], by decide, by decide⟩
    | _ => none

/-- A time period is accepted from zero on, and TA-Lib takes it from two on. -/
def averageDocument : PyValue WholeFloat := .dict [
  ("language", .str "qf_rules_v1"), ("bar", .str "5m"), ("tick_size", .int 1),
  ("session", .dict [("timezone", .str "America/New_York"), ("open", .str "09:30"),
    ("close", .str "16:00")]),
  ("signals", .list [.dict [("when", .dict [("lt", .list [.str "close",
    .dict [("indicator", .str "talib:SMA"), ("params", .dict [("timeperiod", .int 0)])]])]),
    ("side", .str "long")]]),
  ("max_trades_per_session", .int 1)]

def averageRuntime : RuleRuntime WholeFloat := ⟨Python.jsonText, some movingAverage⟩

def averageInterpreter : Interpreter WholeFloat := { sampleInterpreter with vbt := some movingAverage }

/-- An accepted specification can fail: with windows that return, in its only setting and on a full
session, the indicator library refuses a time period the check has accepted. -/
theorem accepted_can_fail :
    ∃ normalized spec, validateRuleSpec averageRuntime averageDocument (.dict []) = .ok normalized ∧
      variableEntries (.dict [] : PyValue WholeFloat) = .ok [] ∧
      specEntriesOf normalized = .ok spec ∧ WindowsReturn sampleNumerics ∧
      averageInterpreter.vbt = averageRuntime.vbt ∧
      OnIndex spec.bar sampleLayout (sampleSessions [] fun _ => 3) ∧
      FullSessions spec.bar sampleLayout.sessions (sampleSessions [] fun _ => 3).bars ∧
      Assigns ⟨averageRuntime, [], spec.bar⟩ (sampleSessions [] fun _ => 3).bars.parameters ∧
      ¬ ∃ signals, settingSignals (valueMachine (numpy sampleNumerics fun _ _ => false))
        averageInterpreter (sampleSessions [] fun _ => 3) spec normalized.depth = .ok signals := by
  have run : ((validateRuleSpec averageRuntime averageDocument (.dict [])).toOption.bind
      fun normalized => (specEntriesOf normalized).toOption.map fun spec =>
        (spec.bar, (settingSignals (valueMachine (numpy sampleNumerics fun _ _ => false))
          averageInterpreter (sampleSessions [] fun _ => 3) spec normalized.depth).toOption.isSome)) =
      some (.fiveMinutes, false) := by decide +kernel
  cases outcome : validateRuleSpec averageRuntime averageDocument (.dict []) with
  | error raised =>
      rw [outcome] at run
      cases run
  | ok normalized =>
      rw [outcome] at run
      cases isSpec : specEntriesOf normalized with
      | error raised => simp [Except.toOption, isSpec] at run
      | ok spec =>
          simp only [Except.toOption, isSpec, Option.bind_some, Option.map_some, Option.some.injEq,
            Prod.mk.injEq] at run
          obtain ⟨isBar, fails⟩ := run
          refine ⟨normalized, spec, rfl, rfl, isSpec, sampleNumerics_windows, rfl, ?_, ?_, ?_, ?_⟩
          · rw [isBar]
            exact sampleSessions_onIndex _ _
          · rw [isBar]
            exact sampleSession_full _ _
          · intro name definition values found
            cases found
          · rintro ⟨signals, returned⟩
            rw [returned] at fails
            cases fails

end QuantFactory.RuleStrategy
