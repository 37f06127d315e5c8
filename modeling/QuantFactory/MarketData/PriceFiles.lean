import Mathlib.Data.List.Basic
import QuantFactory.Library.Runs

/-!
# Price files and their manifests

The stored price files of one dataset, the manifest that names the committed one
(`market_data/catalog.py`), and the two ways it is refreshed: the two-slot top-up
of `providers/alpaca_sip.py` and the refresh in place of `providers/databento.py`.
A refresh takes one file operation at a time and may stop after any of them.
-/

set_option autoImplicit false

namespace QuantFactory.MarketData

abbrev Content := List UInt8

def isDigest (text : String) : Bool :=
  decide (text.toList.length = 64) &&
    text.toList.all fun c => c.isDigit || ('a' ≤ c && c ≤ 'f')

structure Sha256 where
  hex : Content → String
  wellFormed : ∀ content, isDigest (hex content) = true

def allowedStatuses : List String := ["validated", "provisional", "quarantined", "superseded"]

structure PriceManifest where
  status : String
  provider : String
  symbol : String
  timeframe : String
  format : String
  adjustment : String
  canonicalRelativePath : String
  localCanonicalPath : Option String
  sha256 : String
  sizeBytes : Nat
  deriving DecidableEq, Repr

namespace PriceManifest

/-- `DatasetManifest.from_dict` accepts the document. -/
def isReadable (manifest : PriceManifest) : Bool :=
  decide (manifest.status ∈ allowedStatuses) && isDigest manifest.sha256

def Describes (sha : Sha256) (manifest : PriceManifest) (content : Content) : Prop :=
  manifest.sizeBytes = content.length ∧ manifest.sha256 = sha.hex content

end PriceManifest

structure PriceStore where
  files : String → Option Content
  manifest : Option PriceManifest
  /-- The file the manifest named when it was written, which no reader sees. -/
  committed : Option Content

namespace PriceStore

def placeFile (store : PriceStore) (path : String) (content : Content) : PriceStore :=
  { store with files := Function.update store.files path (some content) }

def writeManifest (store : PriceStore) (manifest : PriceManifest) : PriceStore :=
  { store with
    manifest := some manifest
    committed := store.files manifest.canonicalRelativePath }

@[simp] theorem placeFile_manifest (store : PriceStore) (path : String) (content : Content) :
    (store.placeFile path content).manifest = store.manifest := rfl

@[simp] theorem placeFile_committed (store : PriceStore) (path : String) (content : Content) :
    (store.placeFile path content).committed = store.committed := rfl

theorem placeFile_self (store : PriceStore) (path : String) (content : Content) :
    (store.placeFile path content).files path = some content := by
  simp [placeFile]

theorem placeFile_other (store : PriceStore) {path other : String} (content : Content)
    (different : other ≠ path) :
    (store.placeFile path content).files other = store.files other := by
  simp [placeFile, different]

@[simp] theorem writeManifest_files (store : PriceStore) (manifest : PriceManifest) :
    (store.writeManifest manifest).files = store.files := rfl

@[simp] theorem writeManifest_manifest (store : PriceStore) (manifest : PriceManifest) :
    (store.writeManifest manifest).manifest = some manifest := rfl

@[simp] theorem writeManifest_committed (store : PriceStore) (manifest : PriceManifest) :
    (store.writeManifest manifest).committed =
      store.files manifest.canonicalRelativePath := rfl

end PriceStore

/-- `verify_dataset_file`, with `verify_sha256_before_use`. -/
def verifyDatasetFile (sha : Sha256) (verifySha256 : Bool) (store : PriceStore)
    (manifest : PriceManifest) : Bool :=
  decide (manifest.status = "validated") &&
    match store.files manifest.canonicalRelativePath with
    | none => false
    | some content => decide (content.length = manifest.sizeBytes) &&
        (!verifySha256 || decide (sha.hex content = manifest.sha256))

/-! ## The slots of a SIP file -/

def slotRelativePath (symbol slot : String) : String :=
  "equities/" ++ symbol ++ "/1m/" ++ symbol ++ "_1m_alpaca_sip." ++ slot ++ ".parquet"

def isSlotA (path : String) : Bool := ".a.parquet".toList.isSuffixOf path.toList

/-- The slot a top-up writes: the one the committed manifest does not name. -/
def inactiveSlot : Option String → String
  | some target => if isSlotA target then "b" else "a"
  | none => "a"

theorem slotRelativePath_suffix (symbol slot : String) :
    ("." ++ slot ++ ".parquet").toList <:+ (slotRelativePath symbol slot).toList := by
  refine ⟨("equities/" ++ symbol ++ "/1m/" ++ symbol ++ "_1m_alpaca_sip").toList, ?_⟩
  simp [slotRelativePath]

theorem slotRelativePath_inactive (symbol target : String) :
    slotRelativePath symbol (inactiveSlot (some target)) ≠ target := by
  intro same
  by_cases active : isSlotA target = true
  · have named : ".a.parquet".toList <:+ target.toList := List.isSuffixOf_iff_suffix.mp active
    have written : ".b.parquet".toList <:+ target.toList := by
      have suffix := slotRelativePath_suffix symbol "b"
      simp only [inactiveSlot, active, if_true] at same
      rw [same] at suffix
      exact suffix
    have equal := (List.suffix_of_suffix_length_le named written (by decide)).eq_of_length
      (by decide)
    exact absurd equal (by decide)
  · have written : ".a.parquet".toList <:+ target.toList := by
      have suffix := slotRelativePath_suffix symbol "a"
      simp only [inactiveSlot, active] at same
      rw [← same]
      exact suffix
    exact active (List.isSuffixOf_iff_suffix.mpr written)

/-! ## One refresh -/

inductive RefreshKind where
  | sip (symbol : String)
  | inPlace (path : String)
  deriving DecidableEq, Repr

structure RefreshDetails where
  status : String
  provider : String
  symbol : String
  timeframe : String
  adjustment : String
  deriving DecidableEq, Repr

inductive RefreshPhase where
  | idle
  /-- The vendor is asked; the temporary file is no file of the dataset. -/
  | acquiring (path : String)
  | placed (path : String)
  | staled (path : String)
  | described (manifest : PriceManifest)
  deriving DecidableEq, Repr

inductive RefreshAction where
  | begin
  /-- In place: the stored file covers every session and only its manifest is rewritten. -/
  | reuse
  | place (content : Content)
  | stale (details : RefreshDetails)
  | describe (details : RefreshDetails)
  | commit
  | stop
  deriving DecidableEq

section Refresh
variable (sha : Sha256) (verifySha256 : Bool)

/-- The path a refresh is going to write, unless it refuses the stored state. -/
def refreshPath (kind : RefreshKind) (store : PriceStore) : Option String :=
  match kind with
  | .sip symbol => match store.manifest with
      | none => some (slotRelativePath symbol (inactiveSlot none))
      | some manifest =>
          if manifest.isReadable && verifyDatasetFile sha verifySha256 store manifest then
            some (slotRelativePath symbol (inactiveSlot (some manifest.canonicalRelativePath)))
          else none
  | .inPlace path => match store.files path, store.manifest with
      | none, _ => some path
      | some _, none => none
      | some content, some manifest =>
          if sha.hex content = manifest.sha256 then some path else none

/-- `build_manifest` of a top-up. -/
def sipManifest (symbol path sha256 : String) (sizeBytes : Nat) : PriceManifest where
  status := "validated"
  provider := "alpaca"
  symbol := symbol
  timeframe := "1m"
  format := "parquet"
  adjustment := "split"
  canonicalRelativePath := path
  localCanonicalPath := some path
  sha256 := sha256
  sizeBytes := sizeBytes

/-- `_build_manifest` of a refresh in place; its digest is filled in later. -/
def inPlaceManifest (details : RefreshDetails) (path sha256 : String) (sizeBytes : Nat) :
    PriceManifest where
  status := details.status
  provider := details.provider
  symbol := details.symbol
  timeframe := details.timeframe
  format := "parquet"
  adjustment := details.adjustment
  canonicalRelativePath := path
  localCanonicalPath := some path
  sha256 := sha256
  sizeBytes := sizeBytes

def refreshedManifest (kind : RefreshKind) (details : RefreshDetails) (path : String)
    (content : Content) : PriceManifest :=
  match kind with
  | .sip symbol => sipManifest symbol path (sha.hex content) content.length
  | .inPlace _ => inPlaceManifest details path (sha.hex content) content.length

def RefreshKind.isInPlace : RefreshKind → Bool
  | .sip _ => false
  | .inPlace _ => true

/-- One file operation of a refresh; an action out of turn does nothing. -/
def refreshStep (kind : RefreshKind) (store : PriceStore) (phase : RefreshPhase) :
    RefreshAction → PriceStore × RefreshPhase
  | .begin => match phase, refreshPath sha verifySha256 kind store with
      | .idle, some path => (store, .acquiring path)
      | phase, _ => (store, phase)
  | .reuse => match phase, kind with
      | .acquiring path, .inPlace _ =>
          if (store.files path).isSome then (store, .staled path) else (store, phase)
      | phase, _ => (store, phase)
  | .place content => match phase with
      | .acquiring path => (store.placeFile path content, .placed path)
      | phase => (store, phase)
  | .stale details => match phase, kind with
      | .placed path, .inPlace _ =>
          (store.writeManifest (inPlaceManifest details path "" 0), .staled path)
      | phase, _ => (store, phase)
  | .describe details =>
      let describe (path : String) : PriceStore × RefreshPhase :=
        match store.files path with
        | some content => (store, .described (refreshedManifest sha kind details path content))
        | none => (store, .idle)
      match phase, kind with
      | .placed path, .sip _ => describe path
      | .staled path, .inPlace _ => describe path
      | phase, _ => (store, phase)
  | .commit => match phase with
      | .described manifest => (store.writeManifest manifest, .idle)
      | phase => (store, phase)
  | .stop => (store, .idle)

inductive RefreshEffect where
  | quiet
  | placed
  | committed
  deriving DecidableEq, Repr

def refreshEffect : RefreshPhase → RefreshAction → RefreshEffect
  | .acquiring _, .place _ => .placed
  | .described _, .commit => .committed
  | _, _ => .quiet

inductive RefreshMove (kind : RefreshKind) (store : PriceStore) :
    RefreshPhase → RefreshEffect → PriceStore → RefreshPhase → Prop
  | kept (phase : RefreshPhase) : RefreshMove kind store phase .quiet store phase
  | stopped (phase : RefreshPhase) : RefreshMove kind store phase .quiet store .idle
  | began (path : String) (chosen : refreshPath sha verifySha256 kind store = some path) :
      RefreshMove kind store .idle .quiet store (.acquiring path)
  | reused (path : String) (inPlace : kind.isInPlace = true)
      (present : (store.files path).isSome = true) :
      RefreshMove kind store (.acquiring path) .quiet store (.staled path)
  | placed (path : String) (content : Content) :
      RefreshMove kind store (.acquiring path) .placed (store.placeFile path content)
        (.placed path)
  | staled (path : String) (details : RefreshDetails) (inPlace : kind.isInPlace = true) :
      RefreshMove kind store (.placed path) .quiet
        (store.writeManifest (inPlaceManifest details path "" 0)) (.staled path)
  | described (path : String) (content : Content) (details : RefreshDetails)
      (phase : RefreshPhase) (after : phase = .placed path ∨ phase = .staled path)
      (present : store.files path = some content) :
      RefreshMove kind store phase .quiet store
        (.described (refreshedManifest sha kind details path content))
  | committed (manifest : PriceManifest) :
      RefreshMove kind store (.described manifest) .committed (store.writeManifest manifest) .idle

theorem refreshStep_move (kind : RefreshKind) (store : PriceStore) (phase : RefreshPhase)
    (action : RefreshAction) :
    RefreshMove sha verifySha256 kind store phase (refreshEffect phase action)
      (refreshStep sha verifySha256 kind store phase action).1
      (refreshStep sha verifySha256 kind store phase action).2 := by
  cases action with
  | begin =>
      cases phase with
      | idle =>
          cases chosen : refreshPath sha verifySha256 kind store with
          | none => simpa [refreshStep, chosen, refreshEffect] using RefreshMove.kept _
          | some path =>
              simpa [refreshStep, chosen, refreshEffect] using RefreshMove.began path chosen
      | _ => exact .kept _
  | reuse =>
      cases phase with
      | acquiring path =>
          cases kind with
          | sip symbol => exact .kept _
          | inPlace kindPath =>
              by_cases present : (store.files path).isSome = true
              · simpa [refreshStep, present, refreshEffect] using
                  RefreshMove.reused path rfl present
              · simpa [refreshStep, present, refreshEffect] using RefreshMove.kept _
      | _ => exact .kept _
  | place content =>
      cases phase with
      | acquiring path => exact .placed path content
      | _ => exact .kept _
  | stale details =>
      cases phase with
      | placed path =>
          cases kind with
          | sip symbol => exact .kept _
          | inPlace kindPath => exact .staled path details rfl
      | _ => exact .kept _
  | describe details =>
      cases phase with
      | placed path =>
          cases kind with
          | sip symbol =>
              cases present : store.files path with
              | none => simpa [refreshStep, present, refreshEffect] using RefreshMove.stopped _
              | some content =>
                  simpa [refreshStep, present, refreshEffect] using
                    RefreshMove.described path content details _ (.inl rfl) present
          | inPlace kindPath => exact .kept _
      | staled path =>
          cases kind with
          | sip symbol => exact .kept _
          | inPlace kindPath =>
              cases present : store.files path with
              | none => simpa [refreshStep, present, refreshEffect] using RefreshMove.stopped _
              | some content =>
                  simpa [refreshStep, present, refreshEffect] using
                    RefreshMove.described path content details _ (.inr rfl) present
      | _ => exact .kept _
  | commit =>
      cases phase with
      | described manifest => exact .committed manifest
      | _ => exact .kept _
  | stop => cases phase <;> exact .stopped _

/-! ## What every refresh keeps -/

def RefreshPhase.target : RefreshPhase → Option String
  | .idle => none
  | .acquiring path => some path
  | .placed path => some path
  | .staled path => some path
  | .described manifest => some manifest.canonicalRelativePath

/-- A manifest that can be read describes the file it was committed with; a top-up leaves that
file alone. -/
structure RefreshSound (kind : RefreshKind) (store : PriceStore) (phase : RefreshPhase) : Prop where
  present : ∀ path, phase = .placed path ∨ phase = .staled path →
    (store.files path).isSome = true
  described : ∀ manifest, phase = .described manifest →
    ∃ content, store.files manifest.canonicalRelativePath = some content ∧
      manifest.Describes sha content
  committed : ∀ manifest, store.manifest = some manifest → manifest.isReadable = true →
    ∃ content, store.committed = some content ∧ manifest.Describes sha content
  inPlace : kind.isInPlace = false → ∀ manifest, store.manifest = some manifest →
    store.files manifest.canonicalRelativePath = store.committed ∧
      phase.target ≠ some manifest.canonicalRelativePath

theorem refreshedManifest_path (kind : RefreshKind) (details : RefreshDetails) (path : String)
    (content : Content) :
    (refreshedManifest sha kind details path content).canonicalRelativePath = path := by
  cases kind <;> rfl

theorem refreshedManifest_describes (kind : RefreshKind) (details : RefreshDetails)
    (path : String) (content : Content) :
    (refreshedManifest sha kind details path content).Describes sha content := by
  cases kind <;> exact ⟨rfl, rfl⟩

theorem staleManifest_unreadable (details : RefreshDetails) (path : String) :
    (inPlaceManifest details path "" 0).isReadable = false := by
  simp [PriceManifest.isReadable, inPlaceManifest, isDigest]

/-- A top-up never chooses the slot the committed manifest names. -/
theorem refreshPath_sip {kind : RefreshKind} {store : PriceStore} {path : String}
    {manifest : PriceManifest} (sip : kind.isInPlace = false)
    (chosen : refreshPath sha verifySha256 kind store = some path)
    (named : store.manifest = some manifest) : path ≠ manifest.canonicalRelativePath := by
  cases kind with
  | inPlace kindPath => cases sip
  | sip symbol =>
      simp only [refreshPath, named] at chosen
      split at chosen
      · cases chosen
        exact slotRelativePath_inactive symbol manifest.canonicalRelativePath
      · cases chosen

theorem refreshMove_sound {kind : RefreshKind} {store next : PriceStore}
    {phase after : RefreshPhase} {effect : RefreshEffect}
    (moved : RefreshMove sha verifySha256 kind store phase effect next after)
    (sound : RefreshSound sha kind store phase) : RefreshSound sha kind next after := by
  cases moved with
  | kept => exact sound
  | stopped =>
      refine ⟨?_, ?_, sound.committed, ?_⟩
      · intro path placed
        rcases placed with placed | placed <;> cases placed
      · intro manifest described
        cases described
      · intro sip manifest named
        exact ⟨(sound.inPlace sip manifest named).1, by simp [RefreshPhase.target]⟩
  | began path chosen =>
      refine ⟨?_, ?_, sound.committed, ?_⟩
      · intro other placed
        rcases placed with placed | placed <;> cases placed
      · intro manifest described
        cases described
      · intro sip manifest named
        refine ⟨(sound.inPlace sip manifest named).1, ?_⟩
        have different := refreshPath_sip sha verifySha256 sip chosen named
        simpa [RefreshPhase.target] using different
  | reused path inPlace present =>
      refine ⟨?_, ?_, sound.committed, ?_⟩
      · intro other placed
        rcases placed with placed | placed
        · cases placed
        · cases placed
          exact present
      · intro manifest described
        cases described
      · intro sip
        rw [inPlace] at sip
        cases sip
  | placed path content =>
      refine ⟨?_, ?_, sound.committed, ?_⟩
      · intro other placed
        rcases placed with placed | placed
        · cases placed
          rw [PriceStore.placeFile_self]
          rfl
        · cases placed
      · intro manifest described
        cases described
      · intro sip manifest named
        obtain ⟨kept, different⟩ := sound.inPlace sip manifest named
        have other : manifest.canonicalRelativePath ≠ path := by
          intro same
          exact different (by rw [same]; rfl)
        refine ⟨?_, different⟩
        rw [PriceStore.placeFile_other _ _ other]
        exact kept
  | staled path details inPlace =>
      refine ⟨?_, ?_, ?_, ?_⟩
      · intro other placed
        rcases placed with placed | placed
        · cases placed
        · cases placed
          exact sound.present path (.inl rfl)
      · intro manifest described
        cases described
      · intro manifest named readable
        cases named
        rw [staleManifest_unreadable] at readable
        cases readable
      · intro sip
        rw [inPlace] at sip
        cases sip
  | described path content details phase placed present =>
      refine ⟨?_, ?_, sound.committed, ?_⟩
      · intro other placed
        rcases placed with placed | placed <;> cases placed
      · intro manifest described
        cases described
        refine ⟨content, ?_, refreshedManifest_describes sha kind details path content⟩
        rw [refreshedManifest_path]
        exact present
      · intro sip manifest named
        obtain ⟨kept, different⟩ := sound.inPlace sip manifest named
        refine ⟨kept, ?_⟩
        have target : phase.target = some path := by
          rcases placed with rfl | rfl <;> rfl
        rw [target] at different
        simpa [RefreshPhase.target, refreshedManifest_path] using different
  | committed manifest =>
      obtain ⟨content, present, describes⟩ := sound.described manifest rfl
      refine ⟨?_, ?_, ?_, ?_⟩
      · intro path placed
        rcases placed with placed | placed <;> cases placed
      · intro other described
        cases described
      · intro other named _
        cases named
        exact ⟨content, present, describes⟩
      · intro _ other named
        cases named
        exact ⟨rfl, by simp [RefreshPhase.target]⟩

end Refresh

end QuantFactory.MarketData
