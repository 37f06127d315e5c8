import QuantFactory.RuleStrategy.SharedFrames

/-!
# The signals of a rule strategy

`iter_rule_signals` on a frame: the signals of every setting with the engine's stop inputs.
Frames that agree up to the close of a full session are given the same ones up to there.
-/

set_option autoImplicit false

namespace QuantFactory.RuleStrategy

open QuantFactory.Library QuantFactory.Library.MemoStore QuantFactory.Python QuantFactory.RuleLanguage

variable {F : Type} [PyFloat F]

/-! ## The engine's stop inputs -/

section Engine
variable (numerics : Numerics F)

/-- `on_index`: the values of the sessions on their index, and NaN elsewhere. -/
def onIndex (sessions : Sessions (NdArray F) F) (values : NdArray F) : Nat → F :=
  match sessions.positions.contents, values.contents with
  | .ints position, .floats at_ =>
      levelsOf numerics values.rows values.columns position (fun _ _ => true) at_
  | _, _ => fun _ => numerics.nan

def wrongSide (signals : BatchSignals (NdArray F)) (signed : Nat → F) (k : Nat) : Bool :=
  signals.entry.marks k && !PyFloat.lt (PyFloat.literal 0) (signed k) ||
    signals.shortEntry.marks k && !PyFloat.lt (signed k) (PyFloat.literal 0)

omit [PyFloat F] in
/-- The signals without the entries of some bars, and without their levels. -/
def masked (wrong : Nat → Bool) (signals : BatchSignals (NdArray F)) : BatchSignals (NdArray F) :=
  { signals with
    entry := flagArray signals.entry.rows fun k => signals.entry.marks k && !wrong k
    shortEntry := flagArray signals.shortEntry.rows fun k => signals.shortEntry.marks k && !wrong k
    levels := signals.levels.map fun stop => (stop.1, levelArray stop.2.rows fun k =>
      if wrong k then numerics.nan else stop.2.level numerics k) }

omit [PyFloat F] in
/-- `levels[key] = levels[key] * levels["stop_loss"]`. -/
def scaledByStop (key : String) (signals : BatchSignals (NdArray F)) :
    Except EvaluationError (BatchSignals (NdArray F)) := do
  let stopLoss ← frameOf signals.levels "stop_loss"
  .ok { signals with
    levels := signals.levels.map fun stop => (stop.1,
      if stop.1 = key then levelArray stop.2.rows fun k =>
        numerics.multiply (stop.2.level numerics k) (stopLoss.level numerics k)
      else stop.2) }

omit [PyFloat F] in
def scaledByStops : List String → BatchSignals (NdArray F) →
    Except EvaluationError (BatchSignals (NdArray F))
  | [], signals => .ok signals
  | key :: rest, signals => do
      let signals ← scaledByStop numerics key signals
      scaledByStops rest signals

def multiplesOf (spec : SpecEntries F) : List String :=
  ["take_profit", "trail_after"].filter fun key =>
    ((spec.exitRules.lookup key).bind (PyValue.get? "r_multiple")).isSome

/-- `_engine_exit_inputs`, with the number of dropped entries. -/
def engineExitInputs (dates : SkipDates) (interpreter : Interpreter F)
    (sessions : Sessions (NdArray F) F) (spec : SpecEntries F) (depth : Nat)
    (signals : BatchSignals (NdArray F)) : Except EvaluationError (BatchSignals (NdArray F) × Nat) :=
  match (spec.exitRules.lookup "stop_loss").bind (PyValue.get? "level") with
  | none => do
      let inputs ← scaledByStops numerics (multiplesOf spec) signals
      .ok (inputs, 0)
  | some node => do
      let fraction ← levelFraction (valueMachine (numpy numerics dates)) interpreter sessions.bars
        depth node
      let wrong := wrongSide signals (onIndex numerics sessions fraction)
      let inputs ← scaledByStops numerics (multiplesOf spec) (masked numerics wrong signals)
      .ok (inputs, (List.range sessions.length).countP wrong)

variable {numerics} {cut : Nat} {signals others : BatchSignals (NdArray F)}
  (agree : AgreeBefore numerics cut signals others)
include agree

theorem AgreeBefore.wrongSide {signed signed' : Nat → F}
    (same : ∀ k < cut, signed k = signed' k) {k : Nat} (early : k < cut) :
    RuleStrategy.wrongSide signals signed k = RuleStrategy.wrongSide others signed' k := by
  rw [RuleStrategy.wrongSide, RuleStrategy.wrongSide, agree.entry k early, agree.shortEntry k early,
    same k early]

omit [PyFloat F] in
theorem AgreeBefore.masked {wrong wrong' : Nat → Bool} (same : ∀ k < cut, wrong k = wrong' k) :
    AgreeBefore numerics cut (masked numerics wrong signals) (masked numerics wrong' others) where
  entry k early := by
    rw [RuleStrategy.masked, RuleStrategy.masked, flagArray_marks, flagArray_marks,
      agree.entry k early, same k early]
  exit := agree.exit
  shortEntry k early := by
    rw [RuleStrategy.masked, RuleStrategy.masked, flagArray_marks, flagArray_marks,
      agree.shortEntry k early, same k early]
  shortExit := agree.shortExit
  levels := by
    refine List.forall₂_map_left_iff.mpr (List.forall₂_map_right_iff.mpr ?_)
    refine agree.levels.imp fun stop stop' both => ⟨both.1, fun k early => ?_⟩
    rw [levelArray_level, levelArray_level, both.2 k early, same k early]
  timeStop := agree.timeStop

omit [PyFloat F] in
/-- Both signals have a stop's level, or neither has. -/
theorem AgreeBefore.frameOf (key : String) : Alike (fun _ => True)
    (fun level level' => ∀ k < cut, level.level numerics k = level'.level numerics k)
    (frameOf signals.levels key) (frameOf others.levels key) := by
  have levels := agree.levels
  generalize signals.levels = stops at levels
  generalize others.levels = stops' at levels
  unfold RuleStrategy.frameOf
  induction levels with
  | nil => exact .raised trivial
  | @cons stop stop' rest rest' both _ ih =>
      obtain ⟨name, level⟩ := stop
      obtain ⟨name', level'⟩ := stop'
      obtain ⟨rfl, same⟩ := both
      rw [List.lookup_cons, List.lookup_cons]
      cases key == name with
      | true => exact .returned same
      | false => exact ih

omit [PyFloat F] in
theorem AgreeBefore.scaledByStop (key : String) : Alike (fun _ => True) (AgreeBefore numerics cut)
    (scaledByStop numerics key signals) (scaledByStop numerics key others) := by
  refine (agree.frameOf "stop_loss").andThen fun stopLoss stopLoss' same => ?_
  refine .returned ⟨agree.entry, agree.exit, agree.shortEntry, agree.shortExit, ?_, agree.timeStop⟩
  refine List.forall₂_map_left_iff.mpr (List.forall₂_map_right_iff.mpr ?_)
  refine agree.levels.imp fun stop stop' both => ⟨both.1, fun k early => ?_⟩
  simp only [both.1]
  split_ifs
  · rw [levelArray_level, levelArray_level, both.2 k early, same k early]
  · exact both.2 k early

omit agree [PyFloat F] in
theorem scaledByStops_alike (keys : List String) : ∀ signals others : BatchSignals (NdArray F),
    AgreeBefore numerics cut signals others → Alike (fun _ => True) (AgreeBefore numerics cut)
      (scaledByStops numerics keys signals) (scaledByStops numerics keys others) := by
  induction keys with
  | nil => exact fun signals others agree => .returned agree
  | cons key rest ih => exact fun signals others agree => (agree.scaledByStop key).andThen ih

end Engine

/-! ## One setting on two frames -/

section Setting
variable {numerics : Numerics F} {exchange : Exchange} {frame other : List (FrameBar F)}
  {cut : Nat} {moment : Moment} {interpreter : Interpreter F} {v : Validator F}
  {spec : SpecEntries F} {depth : Nat} {tickSize : F} {parameters : Entries F}

theorem level_rule (runnable : Runnable v spec) (admissible : AdmissibleSpec v spec depth)
    {node : PyValue F}
    (found : (spec.exitRules.lookup "stop_loss").bind (PyValue.get? "level") = some node) :
    ∃ original checked, SeriesRule v original checked ∧ checked.node = node ∧ node.depth ≤ depth := by
  obtain ⟨stop, stopFound, isLevel⟩ := Option.bind_eq_some_iff.mp found
  obtain ⟨original, checked, rule, isNode⟩ := runnable.stops "stop_loss" stop (by decide) stopFound
  cases rule with
  | @distance kind entries value valueOk keys kindFound valueRule =>
      subst isNode
      have isKind : "level" = kind := by
        by_contra differs
        replace differs : ("level" == kind) = false := by simpa using differs
        simp [PyValue.get?, List.lookup_cons, differs] at isLevel
      subst isKind
      have sameNode : valueOk.node = node := by simpa [PyValue.get?] using isLevel
      have notBar : ¬ spec.atSignalBar "stop_loss" = true := by
        simp [SpecEntries.atSignalBar, stopFound, PyValue.get?, List.lookup_cons]
      have member : ("stop_loss", .dict [("level", valueOk.node)]) ∈ spec.distanceNodes :=
        List.mem_filterMap.mpr ⟨"stop_loss", by decide, by rw [if_neg notBar, stopFound]; rfl⟩
      have within := (admissible.distances _ member).2
      have inside : valueOk.node.depth ≤ depth :=
        depth_entry (within.trans (Nat.le_succ depth)) List.mem_cons_self
      cases valueRule with
      | level isKind allowed rule => exact ⟨_, valueOk, rule, sameNode, sameNode ▸ inside⟩
      | signalBar isKind => exact absurd isKind (by decide)
      | multiple isKind => exact absurd isKind (by decide)
      | atr isKind => exact absurd isKind (by decide)
      | amount isKind => exact absurd isKind (by decide)

theorem SharedUpTo.onIndex_eq (upTo : SharedUpTo exchange frame other spec.bar cut moment)
    (lawful : exchange.Lawful) {a b : NdArray F} (floats : moment.grid.Floats a b) {k : Nat}
    (early : k < cut) :
    onIndex numerics ((preparedSessions numerics exchange frame spec.bar tickSize).contents parameters)
        a k =
      onIndex numerics ((preparedSessions numerics exchange other spec.bar tickSize).contents
        parameters) b k := by
  obtain ⟨f, g, rfl, rfl, same⟩ := floats
  change levelsOf numerics moment.bars moment.sessions _ _ f k =
    levelsOf numerics moment.bars moment.others _ _ g k
  rw [upTo.bars, upTo.sessions, upTo.others]
  exact upTo.levels_eq lawful (fun _ _ _ => rfl) same early

variable (numerics) (interpreter) (spec) (depth) in
/-- One setting of `iter_rule_signals`. -/
def ruleSetting (dates : SkipDates) (sessions : Sessions (NdArray F) F) :
    Except EvaluationError (BatchSignals (NdArray F)) := do
  let signals ← settingSignals (valueMachine (numpy numerics dates)) interpreter sessions spec depth
  let inputs ← engineExitInputs numerics dates interpreter sessions spec depth signals
  .ok inputs.1

variable (numerics) (exchange) (frame) (other) (moment) (interpreter) (v) (spec) (depth) (tickSize)
  (parameters) in
abbrev FramePair (lawful : exchange.Lawful) : Prop :=
  SettingPair ⟨numerics, skipDates exchange frame, skipDates exchange other⟩ interpreter v moment spec
    depth (frameLayout exchange frame spec.bar lawful) (frameLayout exchange other spec.bar lawful)
    ((preparedSessions numerics exchange frame spec.bar tickSize).contents parameters)
    ((preparedSessions numerics exchange other spec.bar tickSize).contents parameters)

theorem SharedSessions.framePair {day : SessionDay}
    (shared : SharedSessions exchange frame other spec.bar cut day)
    (upTo : SharedUpTo exchange frame other spec.bar cut moment) (runnable : Runnable v spec)
    (admissible : AdmissibleSpec v spec depth) (isBar : spec.bar = v.bar)
    (reliable : Reliable numerics moment) (vbt : interpreter.vbt = v.runtime.vbt)
    (assigns : Assigns v parameters) :
    FramePair numerics exchange frame other moment interpreter v spec depth tickSize parameters
      shared.lawful where
  runs :=
    { reliable := reliable
      alike :=
        { shape := by rw [upTo.bars, upTo.sessions]; rfl
          otherShape := by rw [upTo.bars, upTo.others]; rfl
          open_ := upTo.field_alike shared.bars _
          high := upTo.field_alike shared.bars _
          low := upTo.field_alike shared.bars _
          close := upTo.field_alike shared.bars _
          volume := upTo.field_alike shared.bars _
          tickSize := rfl, bar := rfl, parameters := rfl }
      assigns := assigns, bar := isBar, rows := isBar ▸ upTo.bars, vbt := vbt }
  whole := upTo.whole
  runnable := runnable
  admissible := admissible
  bars := upTo.bars.symm
  sessions := upTo.sessions.symm
  otherBars := upTo.bars.symm
  otherSessions := upTo.others.symm
  positions := rfl
  otherPositions := rfl
  length := rfl
  otherLength := rfl

theorem engineExitInputs_alike {lawful : exchange.Lawful}
    (pair : FramePair numerics exchange frame other moment interpreter v spec depth tickSize parameters
      lawful)
    (upTo : SharedUpTo exchange frame other spec.bar cut moment)
    {signals others : BatchSignals (NdArray F)} (agree : AgreeBefore numerics cut signals others) :
    Alike (fun _ => True) (fun inputs inputs' => AgreeBefore numerics cut inputs.1 inputs'.1)
      (engineExitInputs numerics (skipDates exchange frame) interpreter
        ((preparedSessions numerics exchange frame spec.bar tickSize).contents parameters) spec depth
        signals)
      (engineExitInputs numerics (skipDates exchange other) interpreter
        ((preparedSessions numerics exchange other spec.bar tickSize).contents parameters) spec depth
        others) := by
  unfold engineExitInputs
  cases found : (spec.exitRules.lookup "stop_loss").bind (PyValue.get? "level") with
  | none =>
      exact (scaledByStops_alike _ _ _ agree).andThen fun inputs inputs' same => .returned same
  | some node =>
      obtain ⟨original, checked, rule, rfl, within⟩ :=
        level_rule pair.runnable pair.admissible found
      have fractions := (levelFraction_alike pair.runs pair.whole (series_alike pair.runs rule) within
        within).weaken fun _ _ => trivial
      refine fractions.andThen fun fraction fraction' isFraction => ?_
      have sameWrong : ∀ k < cut, wrongSide signals (onIndex numerics
          ((preparedSessions numerics exchange frame spec.bar tickSize).contents parameters) fraction) k =
          wrongSide others (onIndex numerics
            ((preparedSessions numerics exchange other spec.bar tickSize).contents parameters)
            fraction') k :=
        fun k early => agree.wrongSide (fun k early => upTo.onIndex_eq lawful isFraction early) early
      exact (scaledByStops_alike _ _ _ (agree.masked sameWrong)).andThen
        fun inputs inputs' same => .returned same

theorem ruleSetting_alike {day : SessionDay}
    (shared : SharedSessions exchange frame other spec.bar cut day)
    (upTo : SharedUpTo exchange frame other spec.bar cut moment)
    (pair : FramePair numerics exchange frame other moment interpreter v spec depth tickSize parameters
      shared.lawful) :
    Alike (fun _ => True) (AgreeBefore numerics cut)
      (ruleSetting numerics interpreter spec depth (skipDates exchange frame)
        ((preparedSessions numerics exchange frame spec.bar tickSize).contents parameters))
      (ruleSetting numerics interpreter spec depth (skipDates exchange other)
        ((preparedSessions numerics exchange other spec.bar tickSize).contents parameters)) := by
  refine ((settingSignals_alike pair).weaken fun _ _ => trivial).andThen fun signals others both => ?_
  obtain ⟨parts, parts', partsAlike, written, written'⟩ := both
  have agree := upTo.agree shared.lawful shared.bars partsAlike written written'
  exact (engineExitInputs_alike pair upTo agree).andThen fun inputs inputs' same => .returned same

end Setting

/-! ## All settings -/

section Settings
variable (numerics : Numerics F) (dates : SkipDates) (bound : MemoStore.Bound (NdArray F))
  (interpreter : Interpreter F) (prepared : PreparedSessions (NdArray F) F) (spec : SpecEntries F)
  (depth : Nat)

/-- The loop of `iter_rule_signals`: the next setting of the batch, and its stop inputs. -/
def iterSettings : List (Entries F) → MemoStore String (NdArray F) →
    List (BatchSignals (NdArray F)) × Option EvaluationError
  | [], _ => ([], none)
  | parameters :: rest, store =>
      match turn (numpy numerics dates) bound interpreter prepared spec depth parameters store with
      | .error raised => ([], some raised)
      | .ok (signals, after) =>
          match engineExitInputs numerics dates interpreter (prepared.contents parameters) spec depth
            signals with
          | .error raised => ([], some raised)
          | .ok (inputs, _) =>
              let later := iterSettings rest after
              (inputs :: later.1, later.2)

/-- `iter_rule_signals`, of a frame that has sessions. -/
def iterRuleSignals (exchange : Exchange) (tickSize : F) (settings : List (Entries F))
    (frame : List (FrameBar F)) :
    Except EvaluationError (List (BatchSignals (NdArray F)) × Option EvaluationError) := do
  checkedFrame frame
  checkDataFrequency frame spec.bar
  let prepared := preparedSessions numerics exchange frame spec.bar tickSize
  .ok (iterSettings numerics (skipDates exchange frame) bound interpreter prepared spec depth settings
    prepared.store)

variable {numerics} {dates} {interpreter} {prepared} {spec} {depth} {v : Validator F}

/-- Each setting yields what it yields alone, up to the first error. -/
theorem iterSettings_eq (json : ∀ value other, Persistence.normalize value = .ok value →
      Persistence.normalize other = .ok other →
      interpreter.jsonDumps value = interpreter.jsonDumps other → value = other)
    (admissible : AdmissibleSpec v spec depth) (settings : List (Entries F)) :
    ∀ store : MemoStore String (NdArray F),
      Sound pinnedCells (Meaning (numpy numerics dates) interpreter v prepared.bars) store →
      store.HoldsAll (sessionCells prepared) →
      iterSettings numerics dates bound interpreter prepared spec depth settings store =
        untilError (settings.map fun parameters =>
          ruleSetting numerics interpreter spec depth dates (prepared.contents parameters)) := by
  induction settings with
  | nil => exact fun _ _ _ => rfl
  | cons parameters rest ih =>
      intro store sound cells
      have computes := turn_computes bound json admissible sound cells parameters
      have same := computes.outcome
      rw [List.map_cons, ruleSetting, ← same]
      cases run : turn (numpy numerics dates) bound interpreter prepared spec depth parameters store with
      | error raised =>
          simp only [iterSettings, run]
          rfl
      | ok outcome =>
          obtain ⟨signals, after⟩ := outcome
          obtain ⟨grown, soundAfter⟩ := evaluation_kept json admissible (.setting run) sound cells
          have later := ih after soundAfter (grown.holdsAll cells)
          simp only [iterSettings, run]
          change _ = untilError ((engineExitInputs numerics dates interpreter
            (prepared.contents parameters) spec depth signals >>= fun inputs => .ok inputs.1) :: _)
          cases engineExitInputs numerics dates interpreter (prepared.contents parameters) spec depth
            signals with
          | error raised => rfl
          | ok inputs =>
              obtain ⟨inputs, dropped⟩ := inputs
              change _ = untilError (.ok inputs :: _)
              rw [untilError, ← later]

end Settings

theorem untilError_alike {ε α β : Type} {related : α → β → Prop} {outcomes : List (Except ε α)}
    {others : List (Except ε β)}
    (alike : List.Forall₂ (Alike (fun _ => True) related) outcomes others) :
    List.Forall₂ related (untilError outcomes).1 (untilError others).1 ∧
      (untilError outcomes).2 = (untilError others).2 := by
  induction alike with
  | nil => exact ⟨.nil, rfl⟩
  | cons first _ ih =>
      cases first with
      | returned isRelated => exact ⟨.cons isRelated ih.1, ih.2⟩
      | raised => exact ⟨.nil, rfl⟩

/-! ## Windows -/

inductive ExecutionMode where
  | sameBarClose | nextBarOpen
  deriving DecidableEq

/-- `align_signals_for_execution` on one series: a signal is executed on its bar or on the next. -/
def aligned {α : Type} (mode : ExecutionMode) (unset : α) (values : Nat → α) : Nat → α :=
  match mode with
  | .sameBarClose => values
  | .nextBarOpen => fun k => if k = 0 then unset else values (k - 1)

theorem aligned_congr {α : Type} (mode : ExecutionMode) (unset : α) {values others : Nat → α} {cut : Nat}
    (same : ∀ k < cut, values k = others k) {k : Nat} (early : k < cut) :
    aligned mode unset values k = aligned mode unset others k := by
  cases mode with
  | sameBarClose => exact same k early
  | nextBarOpen => simp only [aligned, same (k - 1) (by omega)]

structure WindowSignals (F : Type) where
  entries : List Bool
  exits : List Bool
  shortEntries : List Bool
  shortExits : List Bool
  levels : List (String × List F)

omit [PyFloat F] in
/-- `signals_in_window`: the aligned signals on the rows of a window. -/
def signalsInWindow (numerics : Numerics F) (mode : ExecutionMode)
    (signals : BatchSignals (NdArray F)) (start count : Nat) : WindowSignals F where
  entries := (List.range' start count).map (aligned mode false signals.entry.marks)
  exits := (List.range' start count).map (aligned mode false signals.exit.marks)
  shortEntries := (List.range' start count).map (aligned mode false signals.shortEntry.marks)
  shortExits := (List.range' start count).map (aligned mode false signals.shortExit.marks)
  levels := signals.levels.map fun stop =>
    (stop.1, (List.range' start count).map (aligned mode numerics.nan (stop.2.level numerics)))

omit [PyFloat F] in
theorem AgreeBefore.window {numerics : Numerics F} {cut : Nat}
    {signals others : BatchSignals (NdArray F)} (agree : AgreeBefore numerics cut signals others)
    (mode : ExecutionMode) {start count : Nat} (inside : start + count ≤ cut) :
    signalsInWindow numerics mode signals start count =
      signalsInWindow numerics mode others start count := by
  have rows : ∀ {α : Type} (unset : α) {values others : Nat → α}, (∀ k < cut, values k = others k) →
      (List.range' start count).map (aligned mode unset values) =
        (List.range' start count).map (aligned mode unset others) := by
    intro α unset values others same
    refine List.map_congr_left fun k member => aligned_congr mode unset same ?_
    have bounds := List.mem_range'_1.mp member
    omega
  have levels : signals.levels.map (fun stop => (stop.1, (List.range' start count).map
        (aligned mode numerics.nan (stop.2.level numerics)))) =
      others.levels.map fun stop => (stop.1, (List.range' start count).map
        (aligned mode numerics.nan (stop.2.level numerics))) := by
    have alike := agree.levels
    generalize signals.levels = stops at alike
    generalize others.levels = stops' at alike
    induction alike with
    | nil => rfl
    | cons both _ ih => rw [List.map_cons, List.map_cons, ih, both.1, rows numerics.nan both.2]
  rw [signalsInWindow, signalsInWindow, levels, rows false agree.entry, rows false agree.exit,
    rows false agree.shortEntry, rows false agree.shortExit]

/-! ## Prefix invariance -/

/-- The signals of a setting on two frames: the same bar by bar before a row, and the same in every
window of rows before it, once they are aligned. -/
structure SameBefore (numerics : Numerics F) (cut : Nat) (signals others : BatchSignals (NdArray F)) :
    Prop where
  bars : AgreeBefore numerics cut signals others
  windows : ∀ mode start count, start + count ≤ cut →
    signalsInWindow numerics mode signals start count =
      signalsInWindow numerics mode others start count

/-- **Prefix invariance.** On two frames that share their bars up to the close of a full session,
the settings of an accepted specification are given the same signals and stop inputs on every bar
up to that close, and the loop over the settings ends the same way. -/
theorem compiled_prefix_invariance {runtime : RuleRuntime F}
    {document packetVariables normalized : PyValue F}
    (accepted : validateRuleSpec runtime document packetVariables = .ok normalized)
    {interpreter : Interpreter F} (vbt : interpreter.vbt = runtime.vbt)
    (json : ∀ value other, Persistence.normalize value = .ok value →
      Persistence.normalize other = .ok other →
      interpreter.jsonDumps value = interpreter.jsonDumps other → value = other) :
    ∃ declared spec, variableEntries packetVariables = .ok declared ∧
      specEntriesOf normalized = .ok spec ∧
      ∀ (numerics : Numerics F) (bound : MemoStore.Bound (NdArray F)) (exchange : Exchange)
        (tickSize : F) (settings : List (Entries F)) (frame other : List (FrameBar F))
        (cut : Nat) (day : SessionDay),
        (∀ moment, Reliable numerics moment) →
        (∀ parameters ∈ settings, Assigns ⟨runtime, declared, spec.bar⟩ parameters) →
        SharedSessions exchange frame other spec.bar cut day → ∀ compiled others,
        iterRuleSignals numerics bound interpreter spec normalized.depth exchange tickSize settings
          frame = .ok compiled →
        iterRuleSignals numerics bound interpreter spec normalized.depth exchange tickSize settings
          other = .ok others →
        List.Forall₂ (SameBefore numerics cut) compiled.1 others.1 ∧ compiled.2 = others.2 := by
  obtain ⟨declared, spec, isDeclared, isSpec, admissible, runnable⟩ := spec_of_validated accepted
  refine ⟨declared, spec, isDeclared, isSpec, ?_⟩
  intro numerics bound exchange tickSize settings frame other cut day reliable assigns shared compiled
    others isCompiled isOthers
  simp only [iterRuleSignals, bind_eq_ok, Except.ok.injEq] at isCompiled isOthers
  obtain ⟨_, _, _, _, rfl⟩ := isCompiled
  obtain ⟨_, _, _, _, rfl⟩ := isOthers
  rw [iterSettings_eq bound json admissible settings _ fresh_sound fresh_cells,
    iterSettings_eq bound json admissible settings _ fresh_sound fresh_cells]
  obtain ⟨moment, upTo⟩ := shared.upTo
  refine untilError_alike (List.forall₂_map_left_iff.mpr (List.forall₂_map_right_iff.mpr
    (List.forall₂_same.mpr fun parameters member => ?_)))
  have pair : FramePair numerics exchange frame other moment interpreter ⟨runtime, declared, spec.bar⟩
      spec normalized.depth tickSize parameters shared.lawful :=
    shared.framePair upTo runnable admissible rfl (reliable moment) vbt (assigns parameters member)
  exact (ruleSetting_alike shared upTo pair).imp fun signals others agree =>
    ⟨agree, fun mode start count inside => agree.window mode inside⟩

/-! ## A day more -/

def sampleDay : SessionDay := ⟨0, 0, regularSession, "09:30"⟩

def sampleExchange : Exchange where
  days := [sampleDay]
  dateOf time := time / (1440 * minuteNanoseconds)
  skips _ _ := false

theorem sampleExchange_lawful : sampleExchange.Lawful where
  chronological := List.pairwise_singleton _ _
  monotone _ _ ordered := Int.ediv_le_ediv (by decide) ordered
  sameDay day member time isOpen isClosed := by
    obtain rfl := List.mem_singleton.mp member
    have opened : 0 ≤ time := isOpen
    have closed : time < 390 * minuteNanoseconds := isClosed
    change time / (1440 * minuteNanoseconds) = 0
    unfold minuteNanoseconds at closed ⊢
    omega

def sampleFrame : List (FrameBar WholeFloat) := (List.range 78).map fun r =>
  ⟨barTime .fiveMinutes sampleDay r, .whole 2, .whole 4, .whole 1, .whole 3, .whole 5⟩

def longerFrame : List (FrameBar WholeFloat) :=
  sampleFrame ++ [⟨1440 * minuteNanoseconds, .whole 9, .whole 9, .whole 9, .whole 9, .whole 9⟩]

theorem sampleFrames_shared :
    SharedSessions sampleExchange sampleFrame longerFrame .fiveMinutes 78 sampleDay where
  lawful := sampleExchange_lawful
  bars :=
    { sorted := by decide +kernel
      sorted' := by decide +kernel
      shared := by
        have length : sampleFrame.length = 78 := by simp [sampleFrame]
        rw [longerFrame, List.take_left' length, List.take_of_length_le length.le] }
  traded := List.mem_filter.mpr ⟨List.mem_singleton_self _, by decide +kernel⟩
  closing := ⟨by decide, by decide +kernel⟩

theorem sample_compiles (spec : SpecEntries WholeFloat) (isBar : spec.bar = .fiveMinutes)
    (bound : MemoStore.Bound (NdArray WholeFloat)) (depth : Nat)
    (settings : List (Entries WholeFloat)) :
    ∀ frame ∈ [sampleFrame, longerFrame], ∃ compiled,
      iterRuleSignals sampleNumerics bound sampleInterpreter spec depth sampleExchange (.whole 1)
        settings frame = .ok compiled := by
  have checks : ∀ frame ∈ [sampleFrame, longerFrame], checkedFrame frame = .ok () ∧
      checkDataFrequency frame .fiveMinutes = .ok () := by
    intro frame member
    rcases List.mem_pair.mp member with rfl | rfl
    · exact ⟨checkedFrame_ok_iff.mpr sampleFrames_shared.bars.sorted, by decide +kernel⟩
    · exact ⟨checkedFrame_ok_iff.mpr sampleFrames_shared.bars.sorted', by decide +kernel⟩
  intro frame member
  obtain ⟨isChecked, isFrequent⟩ := checks frame member
  rw [iterRuleSignals, isBar, isChecked, isFrequent]
  exact ⟨_, rfl⟩

theorem compiled_prefix_invariance_sample :
    ∃ normalized spec compiled others,
      validateRuleSpec sampleRuntime exitsDocument sampleVariables = .ok normalized ∧
      specEntriesOf normalized = .ok spec ∧
      iterRuleSignals sampleNumerics ⟨some 4, fun _ => 1⟩ sampleInterpreter spec normalized.depth
        sampleExchange (.whole 1) [[("n", .int 2)]] sampleFrame = .ok compiled ∧
      iterRuleSignals sampleNumerics ⟨some 4, fun _ => 1⟩ sampleInterpreter spec normalized.depth
        sampleExchange (.whole 1) [[("n", .int 2)]] longerFrame = .ok others ∧
      List.Forall₂ (SameBefore sampleNumerics 78) compiled.1 others.1 ∧ compiled.2 = others.2 := by
  obtain ⟨normalized, accepted⟩ := exitsDocument_accepted
  have json : ∀ value other, Persistence.normalize value = .ok value →
      Persistence.normalize other = .ok other →
      sampleInterpreter.jsonDumps value = sampleInterpreter.jsonDumps other →
      value = other := fun _ _ => Persistence.jsonDumps_injective wholeText_texts
  obtain ⟨declared, spec, isDeclared, isSpec, same⟩ :=
    compiled_prefix_invariance accepted (show sampleInterpreter.vbt = sampleRuntime.vbt from rfl) json
  have isBar := bar_of_validated exitsDocument_bar accepted isSpec
  have compiles := sample_compiles spec isBar ⟨some 4, fun _ => 1⟩ normalized.depth
    [[("n", .int 2)]]
  obtain ⟨compiled, isCompiled⟩ := compiles sampleFrame List.mem_cons_self
  obtain ⟨others, isOthers⟩ := compiles longerFrame (by simp)
  refine ⟨normalized, spec, compiled, others, accepted, isSpec, isCompiled, isOthers, ?_⟩
  refine same sampleNumerics _ sampleExchange _ _ _ _ 78 sampleDay sampleNumerics_reliable ?_ ?_ _ _
    isCompiled isOthers
  · intro parameters member
    obtain rfl := List.mem_singleton.mp member
    exact sample_assigns isDeclared _
  · rw [isBar]
    exact sampleFrames_shared

end QuantFactory.RuleStrategy
