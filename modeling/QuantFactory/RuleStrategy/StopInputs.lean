import QuantFactory.RuleStrategy.RuleSignals

/-!
# What the stop inputs promise

The signals of a setting after `_engine_exit_inputs`: entries are only dropped, and those
that stay have their level on the losing side.
-/

set_option autoImplicit false

namespace QuantFactory.RuleStrategy

open QuantFactory.Library QuantFactory.Python QuantFactory.RuleLanguage

variable {F : Type}

/-! ## What scaling keeps -/

structure ScaledFrom (keys : List String) (signals inputs : BatchSignals (NdArray F)) : Prop where
  entry : inputs.entry = signals.entry
  exit : inputs.exit = signals.exit
  shortEntry : inputs.shortEntry = signals.shortEntry
  shortExit : inputs.shortExit = signals.shortExit
  stops : inputs.levels.map Prod.fst = signals.levels.map Prod.fst
  others : ∀ stop ∈ inputs.levels, stop.1 ∉ keys → stop ∈ signals.levels

section Scaled
variable {numerics : Numerics F} {signals inputs : BatchSignals (NdArray F)}

theorem scaledByStop_from {key : String}
    (scaled : scaledByStop numerics key signals = .ok inputs) :
    ScaledFrom [key] signals inputs := by
  simp only [scaledByStop, bind_eq_ok, Except.ok.injEq] at scaled
  obtain ⟨stopLoss, _, rfl⟩ := scaled
  refine ⟨rfl, rfl, rfl, rfl, ?_, fun stop member differs => ?_⟩
  · rw [List.map_map]
    rfl
  · obtain ⟨original, inLevels, rfl⟩ := List.mem_map.mp member
    have unscaled : original.1 ≠ key := by simpa using differs
    rw [if_neg unscaled]
    exact inLevels

theorem scaledByStops_from {keys : List String} :
    ∀ {signals}, scaledByStops numerics keys signals = .ok inputs →
      ScaledFrom keys signals inputs := by
  induction keys with
  | nil =>
      intro signals scaled
      cases scaled
      exact ⟨rfl, rfl, rfl, rfl, rfl, fun _ member _ => member⟩
  | cons key rest ih =>
      intro signals scaled
      obtain ⟨between, first, later⟩ := bind_eq_ok.mp scaled
      have fromFirst := scaledByStop_from first
      have fromRest := ih later
      refine ⟨fromRest.entry.trans fromFirst.entry, fromRest.exit.trans fromFirst.exit,
        fromRest.shortEntry.trans fromFirst.shortEntry,
        fromRest.shortExit.trans fromFirst.shortExit,
        fromRest.stops.trans fromFirst.stops, fun stop member unscaled => ?_⟩
      rw [List.mem_cons, not_or] at unscaled
      refine fromFirst.others stop (fromRest.others stop member unscaled.2) ?_
      simpa using unscaled.1

theorem ScaledFrom.opensAt {keys : List String} (scaled : ScaledFrom keys signals inputs)
    (k : Nat) : inputs.opensAt k = signals.opensAt k := by
  rw [BatchSignals.opensAt, BatchSignals.opensAt, scaled.entry, scaled.shortEntry]

end Scaled

/-! ## Sound inputs -/

variable [PyFloat F]

section Sound
variable (numerics : Numerics F) (dates : SkipDates) (interpreter : Interpreter F) (layout : Layout)
  (spec : SpecEntries F) (depth : Nat) (sessions : Sessions (NdArray F) F)

/-- Where a level stop is measured from: positive with the level below the entry's open, negative
with the level above it. -/
def LevelSide (inputs : BatchSignals (NdArray F)) : Prop :=
  ∀ node, (spec.exitRules.lookup "stop_loss").bind (PyValue.get? "level") = some node →
    ∃ fraction, levelFraction (valueMachine (numpy numerics dates)) interpreter sessions.bars
        depth node = .ok fraction ∧
      ∀ k, (inputs.entry.marks k = true →
          PyFloat.lt (PyFloat.literal 0) (onIndex numerics sessions fraction k) = true) ∧
        (inputs.shortEntry.marks k = true →
          PyFloat.lt (onIndex numerics sessions fraction k) (PyFloat.literal 0) = true)

structure SoundInputs (inputs : BatchSignals (NdArray F)) : Prop where
  oneSide : ∀ k, ¬ (inputs.entry.marks k = true ∧ inputs.shortEntry.marks k = true)
  entries : ∀ k : Nat, inputs.opensAt k = true → ∃ r c, r < layout.bars ∧ c < layout.sessions ∧
    layout.position r c = k ∧ inEntryWindow spec r = true ∧
    isSkipped spec dates layout.position c = false
  stops : inputs.levels.map Prod.fst = spec.presentStops
  usable : ∀ k, inputs.opensAt k = true → ∀ stop ∈ inputs.levels, stop.1 ∉ multiplesOf spec →
    PyFloat.isFinite (stop.2.level numerics k) = true ∧
      PyFloat.lt (PyFloat.literal 0) (stop.2.level numerics k) = true
  closed : ∀ (r c k : Nat), r < layout.bars → c < layout.sessions → layout.position r c = k →
    isClockExit spec r = true → inputs.exit.marks k = true ∧ inputs.shortExit.marks k = true
  losing : LevelSide numerics dates interpreter spec depth sessions inputs

variable {numerics dates interpreter layout spec depth sessions}

theorem SoundSignals.scaled {signals inputs : BatchSignals (NdArray F)}
    (sound : SoundSignals numerics dates layout spec signals)
    (scaled : ScaledFrom (multiplesOf spec) signals inputs)
    (losing : LevelSide numerics dates interpreter spec depth sessions signals) :
    SoundInputs numerics dates interpreter layout spec depth sessions inputs where
  oneSide k := by
    rw [scaled.entry, scaled.shortEntry]
    exact sound.oneSide k
  entries k opens := sound.entries k (scaled.opensAt k ▸ opens)
  stops := scaled.stops.trans sound.stops
  usable k opens stop member unscaled :=
    sound.usable k (scaled.opensAt k ▸ opens) stop (scaled.others stop member unscaled)
  closed r c k inBars inSessions isBar clock := by
    rw [scaled.exit, scaled.shortExit]
    exact sound.closed r c k inBars inSessions isBar clock
  losing node found := by
    rw [scaled.entry, scaled.shortEntry]
    exact losing node found

omit [PyFloat F] in
theorem masked_opensAt {wrong : Nat → Bool} {signals : BatchSignals (NdArray F)} {k : Nat}
    (opens : (masked numerics wrong signals).opensAt k = true) :
    signals.opensAt k = true ∧ wrong k = false := by
  simp only [BatchSignals.opensAt, masked, flagArray_marks, Bool.or_eq_true, Bool.and_eq_true,
    Bool.not_eq_true'] at opens ⊢
  rcases opens with long | short
  · exact ⟨.inl long.1, long.2⟩
  · exact ⟨.inr short.1, short.2⟩

theorem SoundSignals.masked {signals : BatchSignals (NdArray F)}
    (sound : SoundSignals numerics dates layout spec signals) (wrong : Nat → Bool) :
    SoundSignals numerics dates layout spec (masked numerics wrong signals) where
  oneSide k both := by
    simp only [RuleStrategy.masked, flagArray_marks, Bool.and_eq_true] at both
    exact sound.oneSide k ⟨both.1.1, both.2.1⟩
  entries k opens := sound.entries k (masked_opensAt opens).1
  stops := by
    rw [RuleStrategy.masked, List.map_map]
    exact sound.stops
  usable k opens stop member := by
    obtain ⟨wasOpen, kept⟩ := masked_opensAt opens
    obtain ⟨original, inLevels, rfl⟩ := List.mem_map.mp member
    rw [levelArray_level, kept]
    exact sound.usable k wasOpen original inLevels
  elsewhere k outside stop member := by
    obtain ⟨original, inLevels, rfl⟩ := List.mem_map.mp member
    rw [levelArray_level, sound.elsewhere k outside original inLevels, ite_self]
  closed := sound.closed

theorem SoundSignals.engineExitInputs {signals : BatchSignals (NdArray F)}
    (sound : SoundSignals numerics dates layout spec signals) :
    Yields (fun _ => True) (fun inputs =>
        SoundInputs numerics dates interpreter layout spec depth sessions inputs.1)
      (RuleStrategy.engineExitInputs numerics dates interpreter sessions spec depth signals) := by
  cases outcome : RuleStrategy.engineExitInputs numerics dates interpreter sessions spec depth
    signals with
  | error raised => trivial
  | ok inputs =>
      unfold RuleStrategy.engineExitInputs at outcome
      cases found : (spec.exitRules.lookup "stop_loss").bind (PyValue.get? "level") with
      | none =>
          rw [found] at outcome
          obtain ⟨scaled, isScaled, isInputs⟩ := bind_eq_ok.mp outcome
          cases isInputs
          refine sound.scaled (scaledByStops_from isScaled) fun node isLevel => ?_
          rw [found] at isLevel
          cases isLevel
      | some node =>
          rw [found] at outcome
          obtain ⟨fraction, isFraction, rest⟩ := bind_eq_ok.mp outcome
          obtain ⟨scaled, isScaled, isInputs⟩ := bind_eq_ok.mp rest
          cases isInputs
          refine (sound.masked _).scaled (scaledByStops_from isScaled) fun other isLevel => ?_
          obtain rfl : node = other := Option.some.inj (found.symm.trans isLevel)
          refine ⟨fraction, isFraction, fun k => ⟨fun long => ?_, fun short => ?_⟩⟩
          · simp only [RuleStrategy.masked, flagArray_marks, Bool.and_eq_true, Bool.not_eq_true',
              wrongSide, Bool.or_eq_false_iff] at long
            simpa [long.1] using long.2.1
          · simp only [RuleStrategy.masked, flagArray_marks, Bool.and_eq_true, Bool.not_eq_true',
              wrongSide, Bool.or_eq_false_iff] at short
            simpa [short.1] using short.2.2

end Sound

/-- The signals `iter_rule_signals` gives a setting of an accepted specification on full sessions:
whatever `_engine_exit_inputs` drops and scales, they are sound, and a level stop lies on the losing
side of every entry that stays. -/
theorem rule_signals_sound {runtime : RuleRuntime F}
    {document packetVariables normalized : PyValue F}
    (accepted : validateRuleSpec runtime document packetVariables = .ok normalized)
    (asymmetric : ∀ a b : F, PyFloat.lt a b = true → PyFloat.lt b a = false) :
    ∃ declared spec, variableEntries packetVariables = .ok declared ∧
      specEntriesOf normalized = .ok spec ∧
      ∀ (numerics : Numerics F) (dates : SkipDates) (interpreter : Interpreter F) (layout : Layout)
        (sessions : Sessions (NdArray F) F), WindowsReturn numerics →
        interpreter.vbt = runtime.vbt → OnIndex spec.bar layout sessions →
        FullSessions spec.bar layout.sessions sessions.bars →
        Assigns ⟨runtime, declared, spec.bar⟩ sessions.bars.parameters →
          Yields (fun _ => True)
            (SoundInputs numerics dates interpreter layout spec normalized.depth sessions)
            (ruleSetting numerics interpreter spec normalized.depth dates sessions) := by
  obtain ⟨declared, spec, isDeclared, isSpec, admissible, runnable⟩ := spec_of_validated accepted
  refine ⟨declared, spec, isDeclared, isSpec, ?_⟩
  intro numerics dates interpreter layout sessions windows vbt onIndex full assigns
  have compiled : Yields (LibraryError numerics interpreter)
      (fun signals => ∃ parts, Written numerics dates layout spec parts signals)
      (settingSignals (valueMachine (numpy numerics dates)) interpreter sessions spec
        normalized.depth) :=
    (failsOnlyInLibrary runnable admissible onIndex (runs_twice windows full assigns vbt)).signals
  unfold ruleSetting
  cases outcome : settingSignals (valueMachine (numpy numerics dates)) interpreter sessions spec
    normalized.depth with
  | error raised => trivial
  | ok signals =>
      rw [outcome] at compiled
      obtain ⟨parts, written⟩ := compiled
      exact ((written.sound asymmetric).engineExitInputs).andThen fun inputs sound => sound

theorem rule_signals_sound_sample :
    ∃ normalized declared spec,
      validateRuleSpec sampleRuntime exitsDocument sampleVariables = .ok normalized ∧
      variableEntries sampleVariables = .ok declared ∧
      Yields (fun _ => True)
        (SoundInputs sampleNumerics (fun _ _ => false) sampleInterpreter sampleLayout spec
          normalized.depth (sampleSessions [("n", .int 2)] fun _ => 3))
        (ruleSetting sampleNumerics sampleInterpreter spec normalized.depth (fun _ _ => false)
          (sampleSessions [("n", .int 2)] fun _ => 3)) := by
  obtain ⟨normalized, accepted⟩ := exitsDocument_accepted
  obtain ⟨declared, spec, isDeclared, isSpec, sound⟩ :=
    rule_signals_sound accepted wholeFloat_asymmetric
  have isBar := bar_of_validated exitsDocument_bar accepted isSpec
  refine ⟨normalized, declared, spec, accepted, isDeclared,
    sound _ _ _ _ _ sampleNumerics_windows rfl ?_ ?_ (sample_assigns isDeclared _)⟩
  · rw [isBar]
    exact sampleSessions_onIndex _ _
  · rw [isBar]
    exact sampleSession_full _ _

end QuantFactory.RuleStrategy
