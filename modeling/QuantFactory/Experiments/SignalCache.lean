import QuantFactory.Library.Outcome
import QuantFactory.Library.Runs
import QuantFactory.RuleStrategy.SharedCache

/-!
# Signals generated once

`generate_signals_once` of `experiments/windows.py`: the settings of a window whose signals
the cache still holds are not generated again, the others are generated once, in one pass
where the strategy has one.  Whatever the cache has kept or dropped, each setting gets its
own signals, in the order of the settings.
-/

set_option autoImplicit false

namespace QuantFactory.Experiments

open QuantFactory.Library

/-- A strategy on one history: the key of a setting, and the signals of a setting, alone and in
one pass. -/
structure SignalStrategy (ε S K V : Type) where
  /-- `repr` of the sorted parameters. -/
  signalKey : S → K
  generate : S → Except ε V
  key_faithful : ∀ first second, signalKey first = signalKey second →
    generate first = generate second
  batch : Option (List S → Except ε (List V))
  /-- The pass gives the signals of each setting in order, or raises when one of them does. -/
  batch_each : ∀ run, batch = some run → ∀ settings,
    (run settings).toOption = settings.mapM fun setting => (generate setting).toOption

/-- A cache keeps some of its entries when one is read or written. -/
structure CachePolicy (K V : Type) where
  touch : List (K × V) → K → List (K × V)
  store : List (K × V) → K → V → List (K × V)
  touch_subset : ∀ cache key, touch cache key ⊆ cache
  store_subset : ∀ cache key value, store cache key value ⊆ (key, value) :: cache

section Signals
variable {ε S K V : Type} [DecidableEq K]

/-- `hits = {key: cache[key] for key in keys if key in cache}`. -/
def cacheHits (policy : CachePolicy K V) : List K → List (K × V) →
    List (K × V) × List (K × V)
  | [], cache => (cache, [])
  | key :: rest, cache =>
      match cache.lookup key with
      | none => cacheHits policy rest cache
      | some signals =>
          let (after, hits) := cacheHits policy rest (policy.touch cache key)
          (after, (key, signals) :: hits)

def generateMissing (strategy : SignalStrategy ε S K V) (missing : List S) :
    Except ε (List V) :=
  match strategy.batch with
  | none => collect strategy.generate missing
  | some run => if missing.isEmpty then collect strategy.generate missing else run missing

def lastByKey (entries : List (K × V)) : List (K × V) := entries.reverse

def missingSettings (strategy : SignalStrategy ε S K V) (hits : List (K × V))
    (accepted : List S) : List S :=
  accepted.filter fun setting => (hits.lookup (strategy.signalKey setting)).isNone

def generatedEntries (strategy : SignalStrategy ε S K V) (hits : List (K × V))
    (accepted : List S) (fresh : List V) : List (K × V) :=
  lastByKey (((missingSettings strategy hits accepted).map strategy.signalKey).zip fresh)

/-- The signals of a setting: its hit, or what was generated under its key. -/
def hitOrGenerated (hits generated : List (K × V)) (key : K) : Option V :=
  (hits.lookup key).or (generated.lookup key)

variable (keyError : ε)

/-- What is generated beside the hits, and the signals in the order of the settings. -/
def generateBesideHits (policy : CachePolicy K V) (strategy : SignalStrategy ε S K V)
    (cache hits : List (K × V)) (accepted : List S) :
    Except ε (List (K × V) × List V) := do
  let fresh ← generateMissing strategy (missingSettings strategy hits accepted)
  let generated := generatedEntries strategy hits accepted fresh
  let signals ← collect (fun setting =>
    orRaise (hitOrGenerated hits generated (strategy.signalKey setting)) keyError) accepted
  .ok (generated.foldr (fun entry cache => policy.store cache entry.1 entry.2) cache, signals)

/-- `generate_signals_once`; without a cache the entries are dropped. -/
def generateSignalsOnce (policy : CachePolicy K V) (strategy : SignalStrategy ε S K V)
    (held : Option (List (K × V))) (accepted : List S) :
    Except ε (Option (List (K × V)) × List V) := do
  let found := cacheHits policy (accepted.map strategy.signalKey) (held.getD [])
  let generated ← generateBesideHits keyError policy strategy found.1 found.2 accepted
  .ok (held.map fun _ => generated.1, generated.2)

/-- `[strategy.generate_signals(data, setting) for setting in accepted]`. -/
def generateDirectly (strategy : SignalStrategy ε S K V) (accepted : List S) :
    Option (List V) :=
  accepted.mapM fun setting => (strategy.generate setting).toOption

end Signals

/-! ## A sound cache -/

section Cache
variable {ε S K V : Type} (strategy : SignalStrategy ε S K V)

/-- The entries of a cache are the signals of every setting with their key. -/
def CacheSound (entries : List (K × V)) : Prop :=
  ∀ entry ∈ entries, ∀ setting, strategy.signalKey setting = entry.1 →
    strategy.generate setting = .ok entry.2

variable {strategy}

theorem CacheSound.subset {entries kept : List (K × V)}
    (sound : CacheSound strategy entries) (subset : kept ⊆ entries) : CacheSound strategy kept :=
  fun entry member => sound entry (subset member)

theorem cacheSound_nil : CacheSound strategy [] := by
  intro entry member
  cases member

theorem generateMissing_toOption (missing : List S) :
    (generateMissing strategy missing).toOption = generateDirectly strategy missing := by
  unfold generateMissing
  cases run : strategy.batch with
  | none => exact toOption_collect
  | some batch =>
      cases empty : missing.isEmpty with
      | true => exact toOption_collect
      | false => exact strategy.batch_each batch run missing

theorem toOption_eq_some_iff {α : Type} {result : Except ε α} {value : α} :
    result.toOption = some value ↔ result = .ok value := by
  cases result with
  | error raised => simp [Except.toOption]
  | ok other => simp [Except.toOption]

theorem storeAll_sound (policy : CachePolicy K V) (generated : List (K × V))
    {cache : List (K × V)} (sound : CacheSound strategy cache)
    (fresh : CacheSound strategy generated) :
    CacheSound strategy
      (generated.foldr (fun entry cache => policy.store cache entry.1 entry.2) cache) := by
  induction generated with
  | nil => exact sound
  | cons entry rest ih =>
      have tail := ih fun other member => fresh other (List.mem_cons_of_mem entry member)
      intro kept member
      rcases List.mem_cons.mp (policy.store_subset _ _ _ member) with rfl | inRest
      · exact fresh _ List.mem_cons_self
      · exact tail kept inRest

variable [DecidableEq K]

theorem CacheSound.lookup {entries : List (K × V)} (sound : CacheSound strategy entries)
    {setting : S} {signals : V}
    (found : entries.lookup (strategy.signalKey setting) = some signals) :
    strategy.generate setting = .ok signals :=
  sound _ (mem_of_lookup found) setting rfl

theorem cacheHits_sound (policy : CachePolicy K V) (keys : List K) :
    ∀ cache : List (K × V), CacheSound strategy cache →
      CacheSound strategy (cacheHits policy keys cache).1 ∧
        CacheSound strategy (cacheHits policy keys cache).2 := by
  induction keys with
  | nil =>
      intro cache sound
      exact ⟨sound, cacheSound_nil⟩
  | cons key rest ih =>
      intro cache sound
      cases found : cache.lookup key with
      | none =>
          simp only [cacheHits, found]
          exact ih cache sound
      | some signals =>
          simp only [cacheHits, found]
          obtain ⟨after, hits⟩ := ih (policy.touch cache key)
            (sound.subset (policy.touch_subset cache key))
          refine ⟨after, ?_⟩
          intro entry member
          rcases List.mem_cons.mp member with rfl | inRest
          · exact sound _ (mem_of_lookup found)
          · exact hits entry inRest

theorem lookup_reverse_zip {keys : List K} {fresh : List V} (same : fresh.length = keys.length)
    {key : K} (member : key ∈ keys) : ((keys.zip fresh).reverse.lookup key).isSome = true := by
  rw [List.lookup_isSome_iff]
  obtain ⟨row, inside, rfl⟩ := List.mem_iff_getElem.mp member
  refine ⟨(keys[row], fresh[row]), ?_, by simp⟩
  rw [List.mem_reverse]
  exact List.mem_iff_getElem.mpr ⟨row, by rw [List.length_zip]; omega, by simp⟩

section Generated
variable {hits : List (K × V)} {accepted : List S} {fresh : List V}
variable (generated : generateDirectly strategy (missingSettings strategy hits accepted) =
  some fresh)

include generated

theorem generatedEntries_sound :
    CacheSound strategy (generatedEntries strategy hits accepted fresh) := by
  intro entry listed setting same
  rw [generatedEntries, lastByKey, List.mem_reverse, List.zip_map_left, List.mem_map] at listed
  obtain ⟨⟨other, signals⟩, paired, rfl⟩ := listed
  have own := toOption_eq_some_iff.mp (mem_zip_of_mapM generated paired)
  exact (strategy.key_faithful setting other same).trans own

theorem hitOrGenerated_own (hitsSound : CacheSound strategy hits) {setting : S}
    (member : setting ∈ accepted) : ∃ signals,
      hitOrGenerated hits (generatedEntries strategy hits accepted fresh)
        (strategy.signalKey setting) = some signals ∧ strategy.generate setting = .ok signals := by
  unfold hitOrGenerated
  cases hit : hits.lookup (strategy.signalKey setting) with
  | some signals => exact ⟨signals, rfl, hitsSound.lookup hit⟩
  | none =>
      have missed : setting ∈ missingSettings strategy hits accepted :=
        List.mem_filter.mpr ⟨member, by rw [hit]; rfl⟩
      have length : fresh.length =
          ((missingSettings strategy hits accepted).map strategy.signalKey).length := by
        rw [List.length_map]
        exact length_of_mapM generated
      obtain ⟨signals, found⟩ := Option.isSome_iff_exists.mp
        (lookup_reverse_zip length (List.mem_map_of_mem missed))
      exact ⟨signals, found, (generatedEntries_sound generated).lookup found⟩

end Generated

variable {keyError : ε}

theorem generateBesideHits_eq (policy : CachePolicy K V) {cache hits : List (K × V)}
    (cacheSound : CacheSound strategy cache) (hitsSound : CacheSound strategy hits)
    (accepted : List S) :
    (generateBesideHits keyError policy strategy cache hits accepted).toOption.map Prod.snd =
        generateDirectly strategy accepted ∧
      ∀ after signals,
        generateBesideHits keyError policy strategy cache hits accepted = .ok (after, signals) →
        CacheSound strategy after := by
  have missed : (generateMissing strategy (missingSettings strategy hits accepted)).toOption = _ :=
    generateMissing_toOption _
  unfold generateBesideHits
  cases generated : generateMissing strategy (missingSettings strategy hits accepted) with
  | error raised =>
      rw [generated] at missed
      obtain ⟨setting, member, failed⟩ := exists_of_mapM_none missed.symm
      constructor
      · rw [generateDirectly, mapM_none_of_mem (List.mem_filter.mp member).1 failed]
        rfl
      · intro after signals returned
        cases returned
  | ok fresh =>
      rw [generated] at missed
      have all : (collect (fun setting => orRaise (hitOrGenerated hits
          (generatedEntries strategy hits accepted fresh) (strategy.signalKey setting)) keyError)
          accepted).toOption = generateDirectly strategy accepted := by
        rw [toOption_collect]
        refine mapM_congr fun setting member => ?_
        obtain ⟨signals, found, own⟩ := hitOrGenerated_own missed.symm hitsSound member
        rw [found, own]
        rfl
      rw [bind_ok]
      constructor
      · rw [← all]
        dsimp only
        cases collect _ accepted <;> rfl
      · intro after signals returned
        obtain ⟨results, -, done⟩ := bind_eq_ok.mp returned
        cases done
        exact storeAll_sound policy _ cacheSound (generatedEntries_sound missed.symm)

/-- Whatever a sound cache holds, the signals are those of the settings, and the cache stays
sound. -/
theorem generateSignalsOnce_eq (policy : CachePolicy K V) {held : Option (List (K × V))}
    (sound : CacheSound strategy (held.getD [])) (accepted : List S) :
    (generateSignalsOnce keyError policy strategy held accepted).toOption.map Prod.snd =
        generateDirectly strategy accepted ∧
      ∀ after signals,
        generateSignalsOnce keyError policy strategy held accepted = .ok (after, signals) →
        CacheSound strategy (after.getD []) := by
  obtain ⟨cacheSound, hitsSound⟩ := cacheHits_sound policy (accepted.map strategy.signalKey)
    (held.getD []) sound
  obtain ⟨same, kept⟩ :=
    generateBesideHits_eq policy cacheSound hitsSound accepted
  unfold generateSignalsOnce
  constructor
  · rw [← same]
    dsimp only
    cases generateBesideHits keyError policy strategy _ _ accepted <;> rfl
  · intro after signals returned
    obtain ⟨⟨entries, results⟩, generated, done⟩ := bind_eq_ok.mp returned
    cases done
    cases held with
    | none => exact cacheSound_nil
    | some entries => exact kept _ _ generated

/-! ## Every state of the cache -/

inductive CacheAction (S K V : Type) where
  | generate (policy : CachePolicy K V) (accepted : List S)
  | evict (kept : K × V → Bool)

variable (strategy keyError)

def cacheStep (held : Option (List (K × V))) : CacheAction S K V → Option (List (K × V))
  | .generate policy accepted =>
      match generateSignalsOnce keyError policy strategy held accepted with
      | .ok (after, _) => after
      | .error _ => held.map fun entries =>
          (cacheHits policy (accepted.map strategy.signalKey) entries).1
  | .evict kept => held.map (List.filter kept)

variable {strategy keyError}

def HeldSound (strategy : SignalStrategy ε S K V) (held : Option (List (K × V))) : Prop :=
  CacheSound strategy (held.getD [])

theorem cacheStep_sound (held : Option (List (K × V))) (action : CacheAction S K V)
    (sound : HeldSound strategy held) :
    HeldSound strategy (cacheStep strategy keyError held action) := by
  unfold HeldSound at sound ⊢
  cases action with
  | generate policy accepted =>
      cases called : generateSignalsOnce keyError policy strategy held accepted with
      | ok result =>
          simp only [cacheStep, called]
          exact (generateSignalsOnce_eq policy sound accepted).2 _ _ called
      | error raised =>
          simp only [cacheStep, called]
          cases held with
          | none => exact cacheSound_nil
          | some entries => exact (cacheHits_sound policy _ entries sound).1
  | evict kept =>
      cases held with
      | none => exact cacheSound_nil
      | some entries => exact sound.subset (List.filter_subset_self entries)

/-- Without a cache, or from an empty one: whatever the windows before it left and whatever has
been evicted, a call hands each of its settings the signals generated directly for it. -/
theorem signals_once_are_direct (strategy : SignalStrategy ε S K V) (keyError : ε) (shared : Bool)
    (earlier : List (CacheAction S K V)) (policy : CachePolicy K V) (accepted : List S) :
    (generateSignalsOnce keyError policy strategy
        (run (cacheStep strategy keyError) (if shared then some [] else none) earlier)
        accepted).toOption.map Prod.snd = generateDirectly strategy accepted := by
  have start : HeldSound strategy (if shared then some [] else none) := by
    cases shared <;> exact cacheSound_nil
  have sound : HeldSound strategy _ :=
    run_invariant (cacheStep strategy keyError) cacheStep_sound earlier _ start
  exact (generateSignalsOnce_eq policy sound accepted).1

end Cache

/-! ## The strategies with a pass of their own -/

section Rules
open QuantFactory.Python QuantFactory.RuleLanguage QuantFactory.RuleStrategy

variable {F A : Type} [PyFloat F]

theorem untilError_toOption {ε α β : Type} (f : α → Except ε β) (items : List α) :
    (match untilError (items.map f) with
      | (results, none) => Except.ok results
      | (_, some raised) => .error raised).toOption =
      items.mapM fun item => (f item).toOption := by
  induction items with
  | nil => rfl
  | cons item rest ih =>
      rw [List.mapM_cons, ← ih, List.map_cons]
      cases f item with
      | error raised => rfl
      | ok result =>
          rw [untilError]
          rcases untilError (rest.map f) with ⟨results, raised⟩
          cases raised <;> rfl

variable (library : ArrayLibrary F A) (bound : MemoStore.Bound A) (interpreter : Interpreter F)
  (prepared : PreparedSessions A F) (spec : SpecEntries F) (depth : Nat)

/-- `list(strategy.iter_signals_batch(data, settings))`. -/
def ruleBatch (settings : List (Entries F)) :
    Except EvaluationError (List (BatchSignals A)) :=
  let batch := iterBatchSignals library bound interpreter prepared spec depth settings
    prepared.store
  match batch.raised with
  | none => .ok batch.yielded
  | some raised => .error raised

/-- A rule strategy generates a setting alone as it does in one pass with others. -/
theorem ruleBatch_each {v : Validator F} {interpreter : Interpreter F}
    (json : ∀ value other, Persistence.normalize value = .ok value →
      Persistence.normalize other = .ok other →
      interpreter.jsonDumps value = interpreter.jsonDumps other → value = other)
    {spec : SpecEntries F} {depth : Nat} (admissible : AdmissibleSpec v spec depth)
    (settings : List (Entries F)) :
    (ruleBatch library bound interpreter prepared spec depth settings).toOption =
      settings.mapM fun parameters =>
        (alone library bound interpreter prepared spec depth parameters).toOption := by
  have same : ((iterBatchSignals library bound interpreter prepared spec depth settings
        prepared.store).yielded,
      (iterBatchSignals library bound interpreter prepared spec depth settings
        prepared.store).raised) = untilError _ :=
    (batch_alone json admissible settings fresh_sound fresh_cells).1
  rw [← untilError_toOption, ← same]
  unfold ruleBatch
  dsimp only
  cases (iterBatchSignals library bound interpreter prepared spec depth settings
    prepared.store).raised <;> rfl

/-- A rule strategy whose specification was accepted, as a strategy with a pass of its own. -/
def ruleStrategy [DecidableEq F] {v : Validator F}
    (json : ∀ value other, Persistence.normalize value = .ok value →
      Persistence.normalize other = .ok other →
      interpreter.jsonDumps value = interpreter.jsonDumps other → value = other)
    (admissible : AdmissibleSpec v spec depth) :
    SignalStrategy EvaluationError (Entries F) (Entries F)
      (BatchSignals A) where
  signalKey := id
  generate := alone library bound interpreter prepared spec depth
  key_faithful first second same := by rw [show first = second from same]
  batch := some (ruleBatch library bound interpreter prepared spec depth)
  batch_each run held settings := by
    cases held
    exact ruleBatch_each library bound prepared json admissible settings

end Rules

end QuantFactory.Experiments
