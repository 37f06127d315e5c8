import QuantFactory.MarketData.PriceFiles

/-!
# Readers of committed price files

The verified catalog loader (`_load_verified_catalog_data` of
`market_data/__init__.py`) and the gateway's `open_dataset`
(`orchestration/committed_price_files.py`), any number of each, between the file
operations of one refresh after another.  An opened file stays the file that was
opened, whatever is renamed over its path afterwards.
-/

set_option autoImplicit false

namespace QuantFactory.MarketData

open QuantFactory.Library

structure CatalogRequest where
  provider : String
  symbol : String
  interval : String
  adjusted : Bool
  deriving DecidableEq, Repr

inductive ReaderKind where
  | catalog (request : CatalogRequest) (verifySha256 : Bool)
  | gateway
  deriving DecidableEq, Repr

def manifestIsAdjusted (manifest : PriceManifest) : Bool :=
  manifest.adjustment.toLower ∉ ["", "raw", "none"]

def ReaderKind.accepts (manifest : PriceManifest) : ReaderKind → Bool
  | .catalog request _ =>
      manifest.isReadable && decide (manifest.provider = request.provider) &&
        decide (manifest.symbol = request.symbol) &&
        decide (manifest.timeframe = request.interval) &&
        decide (manifest.format.toLower = "parquet") &&
        decide (request.adjusted = manifestIsAdjusted manifest) &&
        decide (manifest.status = "validated")
  | .gateway => manifest.isReadable &&
      decide (manifest.localCanonicalPath.getD manifest.canonicalRelativePath =
        manifest.canonicalRelativePath)

inductive FileStep where
  | isFile
  | statSize
  | calculateSha256
  | readVerifiedBytes
  /-- `open` and `fstat` of the opened file. -/
  | openStream
  deriving DecidableEq, Repr

def ReaderKind.fileSteps : ReaderKind → List FileStep
  | .catalog _ verifySha256 =>
      [.isFile, .statSize] ++ (if verifySha256 then [.calculateSha256] else []) ++
        [.readVerifiedBytes]
  | .gateway => [.isFile, .openStream]

def FileStep.handsOut : FileStep → Bool
  | .readVerifiedBytes => true
  | .openStream => true
  | _ => false

section Steps
variable (sha : Sha256)

def FileStep.passes (manifest : PriceManifest) (content : Content) : FileStep → Bool
  | .isFile => true
  | .statSize => content.length = manifest.sizeBytes
  | .calculateSha256 => sha.hex content = manifest.sha256
  | .readVerifiedBytes =>
      decide (content.length = manifest.sizeBytes) && decide (sha.hex content = manifest.sha256)
  | .openStream => content.length = manifest.sizeBytes

end Steps

/-- The refreshes since a reader read its manifest, which the reader does not see. -/
structure Window where
  commits : Nat
  overtaken : Bool
  deriving DecidableEq, Repr

def Window.after (window : Window) : RefreshEffect → Window
  | .quiet => window
  | .placed => { window with overtaken := window.overtaken || decide (1 ≤ window.commits) }
  | .committed => { window with commits := window.commits + 1 }

/-- At most one top-up has committed, and none has placed a file after it. -/
def Window.quiet (window : Window) : Bool :=
  decide (window.commits = 0) || (decide (window.commits = 1) && !window.overtaken)

structure HeldManifest where
  manifest : PriceManifest
  committed : Option Content
  window : Window

inductive ReaderPhase where
  | looking
  | located
  | rejected
  | reading (steps : List FileStep) (held : HeldManifest)
  | succeeded (held : HeldManifest) (bytes : Content)
  | failed (held : HeldManifest)

structure StoreReader where
  kind : ReaderKind
  phase : ReaderPhase

def ReaderPhase.after (effect : RefreshEffect) : ReaderPhase → ReaderPhase
  | .reading steps held => .reading steps { held with window := held.window.after effect }
  | phase => phase

/-! ## The system -/

structure StoreSystem where
  store : PriceStore
  refresh : RefreshPhase
  readers : List StoreReader

inductive StoreAction where
  | refresh (action : RefreshAction)
  | arrive (kind : ReaderKind)
  | read (reader : Nat)
  deriving DecidableEq

section System
variable (sha : Sha256) (verifySha256 : Bool) (kind : RefreshKind)

def holdManifest (store : PriceStore) (reader : ReaderKind) : ReaderPhase :=
  match store.manifest with
  | none => .rejected
  | some manifest =>
      if reader.accepts manifest then
        .reading reader.fileSteps ⟨manifest, store.committed, ⟨0, false⟩⟩
      else .rejected

def fileStep (store : PriceStore) (step : FileStep) (rest : List FileStep)
    (held : HeldManifest) : ReaderPhase :=
  match store.files held.manifest.canonicalRelativePath with
  | none => .failed held
  | some content =>
      if step.passes sha held.manifest content then
        if step.handsOut then .succeeded held content else .reading rest held
      else .failed held

def readerStep (store : PriceStore) (reader : StoreReader) : ReaderPhase :=
  match reader.phase with
  | .looking => if store.manifest.isSome then .located else .rejected
  | .located => holdManifest store reader.kind
  | .reading (step :: rest) held => fileStep sha store step rest held
  | phase => phase

def storeStep (system : StoreSystem) : StoreAction → StoreSystem
  | .refresh action =>
      let moved := refreshStep sha verifySha256 kind system.store system.refresh action
      let effect := refreshEffect system.refresh action
      { store := moved.1
        refresh := moved.2
        readers := system.readers.map fun reader =>
          { reader with phase := reader.phase.after effect } }
  | .arrive reader => { system with readers := system.readers ++ [⟨reader, .looking⟩] }
  | .read index => match system.readers[index]? with
      | none => system
      | some reader => { system with
          readers := system.readers.set index
            { reader with phase := readerStep sha system.store reader } }

end System

/-! ## The property and the condition -/

section Property
variable (sha : Sha256) (kind : RefreshKind)

/-- Bytes a reader handed out are the file committed with its manifest, and a reader overlapped
by at most one top-up has not failed. -/
def PhaseExact : ReaderPhase → Prop
  | .succeeded held bytes => held.committed = some bytes ∧ held.manifest.Describes sha bytes
  | .failed held => kind.isInPlace = false → 2 ≤ held.window.commits
  | _ => True

def ReadersExact (system : StoreSystem) : Prop :=
  ∀ reader ∈ system.readers, PhaseExact sha kind reader.phase

/-- When a reader accesses the file, no top-up has placed a file after the only commit since its
manifest read; or the claim does not speak of that many commits, and another file that the reader
cannot tell from the committed one is not in its place. -/
def FileAllowed (store : PriceStore) (step : FileStep) (held : HeldManifest) : Prop :=
  (kind.isInPlace = false ∧ held.window.quiet = true) ∨
    ((kind.isInPlace = true ∨ 2 ≤ held.window.commits) ∧
      (step.handsOut = true → ∀ content ∈ store.files held.manifest.canonicalRelativePath,
        step.passes sha held.manifest content = true → held.committed = some content))

instance (store : PriceStore) (step : FileStep) (held : HeldManifest) :
    Decidable (FileAllowed sha kind store step held) :=
  inferInstanceAs (Decidable (_ ∨ _))

def PhaseAllowed (store : PriceStore) : ReaderPhase → Prop
  | .reading (step :: _) held => FileAllowed sha kind store step held
  | _ => True

instance (store : PriceStore) :
    (reader : ReaderPhase) → Decidable (PhaseAllowed sha kind store reader)
  | .reading (step :: _) held => inferInstanceAs (Decidable (FileAllowed sha kind store step held))
  | .reading [] _ => .isTrue trivial
  | .looking => .isTrue trivial
  | .located => .isTrue trivial
  | .rejected => .isTrue trivial
  | .succeeded _ _ => .isTrue trivial
  | .failed _ => .isTrue trivial

def ReadAllowed (system : StoreSystem) : StoreAction → Prop
  | .read index => ∀ reader ∈ system.readers[index]?,
      PhaseAllowed sha kind system.store reader.phase
  | _ => True

instance (system : StoreSystem) :
    (action : StoreAction) → Decidable (ReadAllowed sha kind system action)
  | .read index => inferInstanceAs (Decidable (∀ reader ∈ system.readers[index]?,
      PhaseAllowed sha kind system.store reader.phase))
  | .refresh _ => .isTrue trivial
  | .arrive _ => .isTrue trivial

/-- No refresh is running, no reader has come, and the manifest names the file it was written
for. -/
structure AtRest (system : StoreSystem) : Prop where
  noRefresh : system.refresh = .idle
  noReaders : system.readers = []
  kept : ∀ manifest, system.store.manifest = some manifest →
    ∃ content, system.store.files manifest.canonicalRelativePath = some content ∧
      system.store.committed = some content ∧ manifest.Describes sha content

end Property

/-! ## What a reader knows -/

section Invariant
variable (sha : Sha256) (kind : RefreshKind)

/-- The file committed with a held manifest is still there while at most one top-up has committed
and none has placed a file after it. -/
structure HeldSound (store : PriceStore) (refresh : RefreshPhase) (held : HeldManifest) :
    Prop where
  described : ∃ content, held.committed = some content ∧ held.manifest.Describes sha content
  current : kind.isInPlace = false → held.window.commits = 0 →
    held.window.overtaken = false ∧ store.manifest = some held.manifest ∧
      store.committed = held.committed
  once : kind.isInPlace = false → held.window.commits = 1 → held.window.overtaken = false →
    store.files held.manifest.canonicalRelativePath = held.committed ∧
      (refresh = .idle ∨ ∃ path, refresh = .acquiring path)

def PhaseSound (store : PriceStore) (refresh : RefreshPhase) (reader : ReaderPhase) : Prop :=
  PhaseExact sha kind reader ∧
    ∀ steps held, reader = .reading steps held → HeldSound sha kind store refresh held

structure SystemSound (system : StoreSystem) : Prop where
  refresh : RefreshSound sha kind system.store system.refresh
  readers : ∀ reader ∈ system.readers,
    PhaseSound sha kind system.store system.refresh reader.phase

variable {sha} {kind} {store : PriceStore} {refresh : RefreshPhase}

theorem phaseExact_after {reader : ReaderPhase} (effect : RefreshEffect)
    (exact_ : PhaseExact sha kind reader) : PhaseExact sha kind (reader.after effect) := by
  cases reader with
  | reading steps held => trivial
  | _ => exact exact_

theorem heldSound_move {verifySha256 : Bool} {next : PriceStore} {after : RefreshPhase}
    {effect : RefreshEffect}
    (moved : RefreshMove sha verifySha256 kind store refresh effect next after)
    (sound : RefreshSound sha kind store refresh) {held : HeldManifest}
    (heldSound : HeldSound sha kind store refresh held) :
    HeldSound sha kind next after { held with window := held.window.after effect } := by
  refine ⟨heldSound.described, ?_, ?_⟩
  · intro sip none_
    cases moved with
    | placed path content =>
        obtain ⟨quiet, named, kept⟩ := heldSound.current sip none_
        refine ⟨?_, named, kept⟩
        have noCommit : held.window.commits = 0 := none_
        simp [Window.after, quiet, noCommit]
    | committed manifest => simp [Window.after] at none_
    | staled path details inPlace =>
        rw [inPlace] at sip
        cases sip
    | _ => exact heldSound.current sip none_
  · intro sip one quiet
    cases moved with
    | kept => exact heldSound.once sip one quiet
    | stopped => exact ⟨(heldSound.once sip one quiet).1, .inl rfl⟩
    | began path chosen => exact ⟨(heldSound.once sip one quiet).1, .inr ⟨path, rfl⟩⟩
    | reused path inPlace present =>
        rw [inPlace] at sip
        cases sip
    | placed path content =>
        have oneCommit : held.window.commits = 1 := one
        simp [Window.after, oneCommit] at quiet
    | staled path details inPlace =>
        rw [inPlace] at sip
        cases sip
    | described path content details phase placed present =>
        obtain ⟨_, idle | ⟨other, acquiring⟩⟩ := heldSound.once sip one quiet
        · rcases placed with placed | placed <;> rw [placed] at idle <;> cases idle
        · rcases placed with placed | placed <;> rw [placed] at acquiring <;> cases acquiring
    | committed manifest =>
        have noCommit : held.window.commits = 0 := by
          simp only [Window.after] at one
          omega
        obtain ⟨_, named, kept⟩ := heldSound.current sip noCommit
        refine ⟨?_, .inl rfl⟩
        rw [← kept]
        exact (sound.inPlace sip held.manifest named).1

/-- In a quiet window the committed file is still in its place. -/
theorem heldSound_present (sound : RefreshSound sha kind store refresh) {held : HeldManifest}
    (heldSound : HeldSound sha kind store refresh held) (sip : kind.isInPlace = false)
    (quiet : held.window.quiet = true) :
    store.files held.manifest.canonicalRelativePath = held.committed := by
  simp only [Window.quiet, Bool.or_eq_true, Bool.and_eq_true, decide_eq_true_eq,
    Bool.not_eq_true'] at quiet
  rcases quiet with noCommit | ⟨one, notOvertaken⟩
  · obtain ⟨_, named, kept⟩ := heldSound.current sip noCommit
    rw [← kept]
    exact (sound.inPlace sip held.manifest named).1
  · exact (heldSound.once sip one notOvertaken).1

theorem passes_of_describes {manifest : PriceManifest} {content : Content}
    (describes : manifest.Describes sha content) (step : FileStep) :
    step.passes sha manifest content = true := by
  obtain ⟨size, digest⟩ := describes
  cases step <;> simp [FileStep.passes, size, digest]

/-- A step that hands out bytes has compared their size, and the loader's their digest too. -/
theorem phaseSound_fileStep (sound : RefreshSound sha kind store refresh) {held : HeldManifest}
    (heldSound : HeldSound sha kind store refresh held) {step : FileStep}
    (allowed : FileAllowed sha kind store step held) (rest : List FileStep) :
    PhaseSound sha kind store refresh (fileStep sha store step rest held) := by
  obtain ⟨committed, isCommitted, describes⟩ := heldSound.described
  have reads (content : Content) (same : content = committed) :
      PhaseSound sha kind store refresh
        (if step.handsOut then .succeeded held content else .reading rest held) := by
    subst same
    cases step.handsOut with
    | true =>
        refine ⟨⟨isCommitted, describes⟩, ?_⟩
        intro steps other isReading
        cases isReading
    | false =>
        refine ⟨trivial, ?_⟩
        intro steps other isReading
        cases isReading
        exact heldSound
  rcases allowed with ⟨sip, quiet⟩ | ⟨many, detected⟩
  · have present := heldSound_present sound heldSound sip quiet
    rw [isCommitted] at present
    unfold fileStep
    rw [present]
    simp only [passes_of_describes describes step, if_true]
    exact reads committed rfl
  · have fails : PhaseSound sha kind store refresh (.failed held) := by
      refine ⟨?_, ?_⟩
      · intro sip
        rcases many with inPlace | many
        · rw [inPlace] at sip
          cases sip
        · exact many
      · intro steps other isReading
        cases isReading
    unfold fileStep
    cases found : store.files held.manifest.canonicalRelativePath with
    | none => exact fails
    | some content =>
        simp only
        by_cases passes : step.passes sha held.manifest content = true
        · rw [if_pos passes]
          by_cases handsOut : step.handsOut = true
          · have same := detected handsOut content found passes
            rw [isCommitted] at same
            exact reads content (Option.some.inj same).symm
          · simp only [handsOut]
            refine ⟨trivial, ?_⟩
            intro steps other isReading
            cases isReading
            exact heldSound
        · rw [if_neg passes]
          exact fails

theorem phaseSound_holdManifest (sound : RefreshSound sha kind store refresh)
    (reader : ReaderKind) : PhaseSound sha kind store refresh (holdManifest store reader) := by
  have rejected : PhaseSound sha kind store refresh .rejected :=
    ⟨trivial, by intro steps held isReading; cases isReading⟩
  unfold holdManifest
  cases named : store.manifest with
  | none => exact rejected
  | some manifest =>
      simp only
      split
      · rename_i accepted
        have readable : manifest.isReadable = true := by
          cases reader with
          | catalog request verify =>
              simp only [ReaderKind.accepts, Bool.and_eq_true] at accepted
              exact accepted.1.1.1.1.1.1
          | gateway =>
              simp only [ReaderKind.accepts, Bool.and_eq_true] at accepted
              exact accepted.1
        refine ⟨trivial, ?_⟩
        intro steps held isReading
        cases isReading
        refine ⟨sound.committed manifest named readable, ?_, ?_⟩
        · intro _ _
          exact ⟨rfl, named, rfl⟩
        · intro _ one
          cases one
      · exact rejected

theorem systemSound_step {verifySha256 : Bool} {system : StoreSystem} {action : StoreAction}
    (allowed : ReadAllowed sha kind system action) (sound : SystemSound sha kind system) :
    SystemSound sha kind (storeStep sha verifySha256 kind system action) := by
  cases action with
  | refresh action =>
      have moved := refreshStep_move sha verifySha256 kind system.store system.refresh action
      refine ⟨refreshMove_sound sha verifySha256 moved sound.refresh, ?_⟩
      intro reader member
      obtain ⟨before, inBefore, rfl⟩ := List.mem_map.mp member
      obtain ⟨isExact, reading⟩ := sound.readers before inBefore
      refine ⟨phaseExact_after _ isExact, ?_⟩
      intro steps held isReading
      cases phase : before.phase with
      | reading earlier heldBefore =>
          rw [phase] at isReading
          cases isReading
          exact heldSound_move moved sound.refresh (reading _ _ phase)
      | _ =>
          rw [phase] at isReading
          cases isReading
  | arrive reader =>
      refine ⟨sound.refresh, ?_⟩
      intro other member
      rcases List.mem_append.mp member with earlier | last
      · exact sound.readers other earlier
      · rw [List.mem_singleton.mp last]
        refine ⟨trivial, ?_⟩
        intro steps held isReading
        cases isReading
  | read index =>
      unfold storeStep
      simp only
      cases found : system.readers[index]? with
      | none => exact sound
      | some reader =>
          refine ⟨sound.refresh, ?_⟩
          intro other member
          rcases List.mem_or_eq_of_mem_set member with earlier | rfl
          · exact sound.readers other earlier
          · have before := sound.readers reader (List.mem_of_getElem? found)
            simp only [readerStep]
            cases phase : reader.phase with
            | looking =>
                simp only
                split
                · exact ⟨trivial, by intro steps held isReading; cases isReading⟩
                · exact ⟨trivial, by intro steps held isReading; cases isReading⟩
            | located => exact phaseSound_holdManifest sound.refresh reader.kind
            | reading steps held =>
                rw [phase] at before
                cases steps with
                | nil => exact before
                | cons step rest =>
                    have isAllowed := allowed reader found
                    rw [phase] at isAllowed
                    exact phaseSound_fileStep sound.refresh (before.2 _ held rfl) isAllowed rest
            | _ =>
                rw [phase] at before
                exact before

theorem systemSound_atRest {system : StoreSystem} (rest : AtRest sha system) :
    SystemSound sha kind system := by
  refine ⟨⟨?_, ?_, ?_, ?_⟩, ?_⟩
  · intro path placed
    rw [rest.noRefresh] at placed
    rcases placed with placed | placed <;> cases placed
  · intro manifest described
    rw [rest.noRefresh] at described
    cases described
  · intro manifest named _
    obtain ⟨content, _, committed, describes⟩ := rest.kept manifest named
    exact ⟨content, committed, describes⟩
  · intro _ manifest named
    obtain ⟨content, present, committed, _⟩ := rest.kept manifest named
    refine ⟨present.trans committed.symm, ?_⟩
    rw [rest.noRefresh]
    simp [RefreshPhase.target]
  · intro reader member
    rw [rest.noReaders] at member
    cases member

end Invariant

/-- However readers and refreshes interleave, along allowed reads every reader that succeeds has
the file committed with its manifest, and none that at most one top-up overlapped fails. -/
theorem readers_get_committed_version (sha : Sha256) (verifySha256 : Bool) (kind : RefreshKind)
    {start : StoreSystem} (rest : AtRest sha start) {actions : List StoreAction}
    (allowed : Along (storeStep sha verifySha256 kind) (ReadAllowed sha kind) start actions) :
    ReadersExact sha kind (run (storeStep sha verifySha256 kind) start actions) := by
  have sound := run_invariant_along (storeStep sha verifySha256 kind)
    (fun _ _ isAllowed holds => systemSound_step isAllowed holds) actions start allowed
    (systemSound_atRest rest)
  intro reader member
  exact (sound.readers reader member).1

/-! ## Three runs -/

def sampleSha : Sha256 where
  hex content := String.ofList (List.replicate 63 '0' ++
    [if content = [1] then '1' else if content = [2] then '2' else '3'])
  wellFormed content := by
    unfold isDigest
    rw [String.toList_ofList]
    split
    · decide
    · split <;> decide

def sampleSlot (slot : String) : String := slotRelativePath "SPY" slot

def sampleStore (path : String) : PriceStore where
  files := Function.update (fun _ => none) path (some [1])
  manifest := some (sipManifest "SPY" path (sampleSha.hex [1]) 1)
  committed := some [1]

def sampleSystem (path : String) : StoreSystem := ⟨sampleStore path, .idle, []⟩

theorem sampleSystem_atRest (path : String) : AtRest sampleSha (sampleSystem path) := by
  refine ⟨rfl, rfl, ?_⟩
  intro manifest named
  cases named
  exact ⟨[1], by simp [sampleSystem, sampleStore, sipManifest], rfl, rfl, rfl⟩

def sampleDetails : RefreshDetails := ⟨"validated", "databento", "SPY", "1m", "raw"⟩

def topUp (content : Content) : List StoreAction :=
  [.refresh .begin, .refresh (.place content), .refresh (.describe sampleDetails),
    .refresh .commit]

def gatewayHolds : List StoreAction := [.arrive .gateway, .read 0, .read 0]

/-- A top-up commits between the manifest read and the file read of a reader. -/
def readOverTopUp : List StoreAction := gatewayHolds ++ topUp [2] ++ [.read 0, .read 0]

theorem readOverTopUp_exact : ReadersExact sampleSha (.sip "SPY")
    (run (storeStep sampleSha true (.sip "SPY")) (sampleSystem (sampleSlot "a")) readOverTopUp) :=
  readers_get_committed_version sampleSha true (.sip "SPY") (sampleSystem_atRest _)
    (by decide +kernel)

/-- A refresh in place puts another file of the same size in the place of the committed one. -/
def readOverReplacement : List StoreAction :=
  gatewayHolds ++ [.refresh .begin, .refresh (.place [2]), .read 0, .read 0]

/-- After a top-up has committed, the next one places its file in the slot the reader is about to
open. -/
def readOvertaken : List StoreAction :=
  gatewayHolds ++ topUp [2] ++ [.refresh .begin, .refresh (.place [3, 3]), .read 0, .read 0]

def phaseIsExact (sha : Sha256) (kind : RefreshKind) : ReaderPhase → Bool
  | .succeeded held bytes => decide (held.committed = some bytes) &&
      decide (held.manifest.sizeBytes = bytes.length) &&
      decide (held.manifest.sha256 = sha.hex bytes)
  | .failed held => kind.isInPlace || decide (2 ≤ held.window.commits)
  | _ => true

theorem phaseExact_iff (sha : Sha256) (kind : RefreshKind) (reader : ReaderPhase) :
    PhaseExact sha kind reader ↔ phaseIsExact sha kind reader = true := by
  cases reader with
  | succeeded held bytes =>
      simp [PhaseExact, phaseIsExact, PriceManifest.Describes, and_assoc]
  | failed held => cases inPlace : kind.isInPlace <;> simp [PhaseExact, phaseIsExact, inPlace]
  | _ => simp [PhaseExact, phaseIsExact]

/-- The gateway hands out the replaced file with the old size and digest, and a reader that one
top-up overlapped fails. -/
theorem replaced_file_is_misread :
    ¬ ReadersExact sampleSha (.inPlace "prices.parquet")
        (run (storeStep sampleSha true (.inPlace "prices.parquet"))
          (sampleSystem "prices.parquet") readOverReplacement) ∧
      ¬ ReadersExact sampleSha (.sip "SPY")
        (run (storeStep sampleSha true (.sip "SPY")) (sampleSystem (sampleSlot "a"))
          readOvertaken) := by
  constructor
  · intro isExact
    have all : (run (storeStep sampleSha true (.inPlace "prices.parquet"))
        (sampleSystem "prices.parquet") readOverReplacement).readers.all (fun reader =>
          phaseIsExact sampleSha (.inPlace "prices.parquet") reader.phase) = true :=
      List.all_eq_true.mpr fun reader member => (phaseExact_iff _ _ _).mp (isExact reader member)
    exact absurd all (by decide +kernel)
  · intro isExact
    have all : (run (storeStep sampleSha true (.sip "SPY")) (sampleSystem (sampleSlot "a"))
        readOvertaken).readers.all (fun reader =>
          phaseIsExact sampleSha (.sip "SPY") reader.phase) = true :=
      List.all_eq_true.mpr fun reader member => (phaseExact_iff _ _ _).mp (isExact reader member)
    exact absurd all (by decide +kernel)

end QuantFactory.MarketData
