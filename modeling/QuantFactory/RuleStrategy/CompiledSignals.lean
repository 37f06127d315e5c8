import QuantFactory.RuleStrategy.NoLookAhead

/-!
# What compiled signals promise

No bar opens both sides, every entry lies where entries are allowed and has a usable
distance for each stop, and the clock closes both sides.
-/

set_option autoImplicit false

namespace QuantFactory.RuleStrategy

open QuantFactory.Library QuantFactory.Python QuantFactory.RuleLanguage

variable {F : Type}

/-! ## Arrays on the index -/

def NdArray.marks (a : NdArray F) (k : Nat) : Bool :=
  match a.contents with
  | .bools at_ => at_ k 0
  | _ => false

def NdArray.level (numerics : Numerics F) (a : NdArray F) (k : Nat) : F :=
  match a.contents with
  | .floats at_ => at_ k 0
  | _ => numerics.nan

@[simp] theorem flagArray_marks (length : Nat) (flags : Nat → Bool) (k : Nat) :
    (flagArray (F := F) length flags).marks k = flags k := rfl

@[simp] theorem levelArray_level (numerics : Numerics F) (length : Nat) (levels : Nat → F) (k : Nat) :
    (levelArray length levels).level numerics k = levels k := rfl

def BatchSignals.opensAt (signals : BatchSignals (NdArray F)) (k : Nat) : Bool :=
  signals.entry.marks k || signals.shortEntry.marks k

variable [PyFloat F]

/-- The signals of a setting: one side at most, entries before the flat time of full sessions that
are not skipped, a usable distance of each stop on each of them and none elsewhere, and the exits
of the clock. -/
structure SoundSignals (numerics : Numerics F) (dates : SkipDates) (layout : Layout)
    (spec : SpecEntries F) (signals : BatchSignals (NdArray F)) : Prop where
  oneSide : ∀ k, ¬ (signals.entry.marks k = true ∧ signals.shortEntry.marks k = true)
  entries : ∀ k : Nat, signals.opensAt k = true → ∃ r c, r < layout.bars ∧ c < layout.sessions ∧
    layout.position r c = k ∧ inEntryWindow spec r = true ∧
    isSkipped spec dates layout.position c = false
  stops : signals.levels.map Prod.fst = spec.presentStops
  usable : ∀ k, signals.opensAt k = true → ∀ stop ∈ signals.levels,
    PyFloat.isFinite (stop.2.level numerics k) = true ∧
      PyFloat.lt (PyFloat.literal 0) (stop.2.level numerics k) = true
  elsewhere : ∀ k : Nat, (∀ r c, r < layout.bars → c < layout.sessions → layout.position r c = k →
    inEntryWindow spec r = false) → ∀ stop ∈ signals.levels, stop.2.level numerics k = numerics.nan
  closed : ∀ (r c k : Nat), r < layout.bars → c < layout.sessions → layout.position r c = k →
    isClockExit spec r = true → signals.exit.marks k = true ∧ signals.shortExit.marks k = true

section Written
variable {numerics : Numerics F} {dates : SkipDates} {layout : Layout} {spec : SpecEntries F}
  {parts : SettingParts F} {signals : BatchSignals (NdArray F)}
  (written : Written numerics dates layout spec parts signals)
include written

theorem Written.opensAt {k : Nat} (opens : signals.opensAt k = true) :
    ∃ r c, r < layout.bars ∧ c < layout.sessions ∧
      firstAt spec dates layout.position parts.sides parts.fractions r c = true ∧
      layout.position r c = k := by
  rw [BatchSignals.opensAt, written.entry, written.shortEntry, flagArray_marks, flagArray_marks,
    Bool.or_eq_true, flagsOf_eq_true layout.placed, flagsOf_eq_true layout.placed] at opens
  rcases opens with ⟨r, c, inBars, inSessions, long, isBar⟩ | ⟨r, c, inBars, inSessions, short, isBar⟩
  · exact ⟨r, c, inBars, inSessions, (Bool.and_eq_true_iff.mp long).1, isBar⟩
  · exact ⟨r, c, inBars, inSessions, (Bool.and_eq_true_iff.mp short).1, isBar⟩

theorem Written.oneSide (asymmetric : ∀ a b : F, PyFloat.lt a b = true → PyFloat.lt b a = false)
    (k : Nat) : ¬ (signals.entry.marks k = true ∧ signals.shortEntry.marks k = true) := by
  rintro ⟨isEntry, isShortEntry⟩
  rw [written.entry, flagArray_marks, flagsOf_eq_true layout.placed] at isEntry
  rw [written.shortEntry, flagArray_marks, flagsOf_eq_true layout.placed] at isShortEntry
  obtain ⟨r, c, inBars, inSessions, long, isBar⟩ := isEntry
  obtain ⟨r', c', inBars', inSessions', short, isBar'⟩ := isShortEntry
  obtain ⟨rfl, rfl⟩ := layout.placed.distinct r c r' c' inBars inSessions inBars' inSessions'
    (isBar.trans isBar'.symm)
  have positive : PyFloat.lt (PyFloat.literal 0) (parts.sides r c) = true :=
    (Bool.and_eq_true_iff.mp long).2
  have negative : PyFloat.lt (parts.sides r c) (PyFloat.literal 0) = true :=
    (Bool.and_eq_true_iff.mp short).2
  rw [asymmetric _ _ positive] at negative
  cases negative

theorem Written.usable {k r c : Nat} (inBars : r < layout.bars) (inSessions : c < layout.sessions)
    (first : firstAt spec dates layout.position parts.sides parts.fractions r c = true)
    (isBar : layout.position r c = k) {stop : String × NdArray F} (member : stop ∈ signals.levels) :
    PyFloat.isFinite (stop.2.level numerics k) = true ∧
      PyFloat.lt (PyFloat.literal 0) (stop.2.level numerics k) = true := by
  rw [written.levels] at member
  obtain ⟨key, present, rfl⟩ := List.mem_map.mp member
  obtain ⟨fraction, found⟩ := Option.isSome_iff_exists.mp (written.planned key present)
  have isLevel : fractionOf parts.fractions numerics key = fraction := by
    rw [fractionOf, found, Option.getD_some]
  rw [levelArray_level, levelsOf_placed layout.placed inBars inSessions first isBar, isLevel]
  have valid := List.all_eq_true.mp (Bool.and_eq_true_iff.mp first).2 fraction
    (List.mem_map_of_mem (mem_of_lookup found))
  exact Bool.and_eq_true_iff.mp valid

theorem Written.sound (asymmetric : ∀ a b : F, PyFloat.lt a b = true → PyFloat.lt b a = false) :
    SoundSignals numerics dates layout spec signals where
  oneSide := written.oneSide asymmetric
  entries k opens := by
    obtain ⟨r, c, inBars, inSessions, first, isBar⟩ := written.opensAt opens
    have isAllowed := (Bool.and_eq_true_iff.mp first).1
    simp only [allowedAt, Bool.and_eq_true, Bool.not_eq_true'] at isAllowed
    exact ⟨r, c, inBars, inSessions, isBar, isAllowed.1.1, isAllowed.2⟩
  stops := by
    rw [written.levels, List.map_map]
    exact List.map_id _
  usable k opens stop member := by
    obtain ⟨r, c, inBars, inSessions, first, isBar⟩ := written.opensAt opens
    exact written.usable inBars inSessions first isBar member
  elsewhere k outside stop member := by
    rw [written.levels] at member
    obtain ⟨key, present, rfl⟩ := List.mem_map.mp member
    rw [levelArray_level]
    refine levelsOf_absent ?_
    by_contra isFirst
    obtain ⟨r, c, inBars, inSessions, first, isBar⟩ :=
      (flagsOf_eq_true layout.placed).mp (Bool.eq_true_of_not_eq_false isFirst)
    have isAllowed := (Bool.and_eq_true_iff.mp first).1
    simp only [allowedAt, Bool.and_eq_true] at isAllowed
    rw [outside r c inBars inSessions isBar] at isAllowed
    cases isAllowed.1.1
  closed r c k inBars inSessions isBar clock := by
    have leaves : ∀ leave opposite, leavesAt spec leave opposite r c = true := by
      intro leave opposite
      rw [leavesAt, clock, Bool.or_true]
    rw [written.exit, written.shortExit, flagArray_marks, flagArray_marks,
      flagsOf_eq_true layout.placed, flagsOf_eq_true layout.placed]
    exact ⟨⟨r, c, inBars, inSessions, leaves _ _, isBar⟩, ⟨r, c, inBars, inSessions, leaves _ _, isBar⟩⟩

end Written

theorem wholeFloat_asymmetric (a b : WholeFloat) (less : PyFloat.lt a b = true) :
    PyFloat.lt b a = false := by
  cases a with
  | nan => cases less
  | whole n =>
      cases b with
      | nan => cases less
      | whole m =>
          have ordered : n < m := of_decide_eq_true less
          exact decide_eq_false (not_lt.mpr ordered.le)

/-- The signals of an accepted specification, in a setting of the declared values and on full
sessions, are sound whenever they are returned at all. -/
theorem compiled_signals_sound {runtime : RuleRuntime F}
    {document packetVariables normalized : PyValue F}
    (accepted : validateRuleSpec runtime document packetVariables = .ok normalized)
    (asymmetric : ∀ a b : F, PyFloat.lt a b = true → PyFloat.lt b a = false) :
    ∃ declared spec, variableEntries packetVariables = .ok declared ∧
      specEntriesOf normalized = .ok spec ∧
      ∀ (numerics : Numerics F) (dates : SkipDates) (interpreter : Interpreter F) (layout : Layout)
        (sessions : Sessions (NdArray F) F), WindowsReturn numerics →
        interpreter.vbt = runtime.vbt → OnIndex spec.bar layout sessions →
        FullSessions spec.bar layout.sessions sessions.bars →
        Assigns ⟨runtime, declared, spec.bar⟩ sessions.bars.parameters →
          Yields (LibraryError numerics interpreter) (SoundSignals numerics dates layout spec)
            (settingSignals (valueMachine (numpy numerics dates)) interpreter sessions spec
              normalized.depth) := by
  obtain ⟨declared, spec, isDeclared, isSpec, admissible, runnable⟩ := spec_of_validated accepted
  refine ⟨declared, spec, isDeclared, isSpec, ?_⟩
  intro numerics dates interpreter layout sessions windows vbt onIndex full assigns
  refine (failsOnlyInLibrary runnable admissible onIndex
    (runs_twice windows full assigns vbt)).signals.mono fun signals _ isWritten => ?_
  obtain ⟨parts, written⟩ := isWritten
  exact written.sound asymmetric

theorem compiled_signals_sound_sample :
    ∃ normalized declared spec,
      validateRuleSpec sampleRuntime exitsDocument sampleVariables = .ok normalized ∧
      variableEntries sampleVariables = .ok declared ∧
      Yields (LibraryError sampleNumerics sampleInterpreter)
        (SoundSignals sampleNumerics (fun _ _ => false) sampleLayout spec)
        (settingSignals (valueMachine (numpy sampleNumerics fun _ _ => false)) sampleInterpreter
          (sampleSessions [("n", .int 2)] fun _ => 3) spec normalized.depth) := by
  obtain ⟨normalized, accepted⟩ := exitsDocument_accepted
  obtain ⟨declared, spec, isDeclared, isSpec, sound⟩ :=
    compiled_signals_sound accepted wholeFloat_asymmetric
  have isBar := bar_of_validated exitsDocument_bar accepted isSpec
  refine ⟨normalized, declared, spec, accepted, isDeclared,
    sound _ _ _ _ _ sampleNumerics_windows rfl ?_ ?_ (sample_assigns isDeclared _)⟩
  · rw [isBar]
    exact sampleSessions_onIndex _ _
  · rw [isBar]
    exact sampleSession_full _ _

end QuantFactory.RuleStrategy
