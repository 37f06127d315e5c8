import Mathlib.Logic.Equiv.List
import QuantFactory.MarketData.PriceFiles
import QuantFactory.MarketData.TopUp

/-!
# Runs of top-ups

Calls one after another on one symbol, each of them stopping at any file operation: the
committed manifest always names a file that matches it, the file it names is not written,
and a call that commits keeps the stored bars.
-/

set_option autoImplicit false

namespace QuantFactory.MarketData

open QuantFactory.Library

structure ParquetCodec (F : Type) where
  write : List (Bar F) → Content
  read : Content → List (Bar F)
  read_write : ∀ frame, read (write frame) = frame

/-! ## Calls one after another -/

structure TopUpState (F : Type) where
  store : PriceStore
  phase : RefreshPhase
  candidate : Option (Candidate F)

/-- The next thing a call does; a call begins when none is running. -/
inductive TopUpAction (F : Type) where
  | begin (call : TopUpCall F) (endOfData : Int)
  /-- The temporary file is written, read back, checked and put in the slot. -/
  | place
  | describe
  | commit
  | stop

section Steps
variable {F : Type} [BarNumber F] [DecidableEq F]
variable (sha : Sha256) (verifySha256 : Bool) (codec : ParquetCodec F) (clock : MarketClock)
variable (symbol : String)

def committedBars (store : PriceStore) : List (Bar F) :=
  match store.manifest with
  | none => []
  | some manifest => match store.files manifest.canonicalRelativePath with
      | none => []
      | some content => codec.read content

def Candidate.isValid (candidate : Candidate F) (onDisk : List (Bar F)) : Bool :=
  decide (validateBars onDisk candidate.endOfData candidate.previous = [])

def noDetails : RefreshDetails := ⟨"", "", "", "", ""⟩

def fileAction (state : TopUpState F) : TopUpAction F → RefreshAction
  | .begin call endOfData =>
      match state.phase, call.plan clock endOfData (committedBars codec state.store) with
      | .idle, .store _ => .begin
      | .idle, _ => .stop
      | _, _ => .begin
  | .place => match state.candidate with
      | none => .stop
      | some candidate =>
          let content := codec.write candidate.frame
          if candidate.isValid (codec.read content) then .place content else .stop
  | .describe => .describe noDetails
  | .commit => .commit
  | .stop => .stop

def nextCandidate (state : TopUpState F) : TopUpAction F → Option (Candidate F)
  | .begin call endOfData =>
      match state.phase, call.plan clock endOfData (committedBars codec state.store) with
      | .idle, .store candidate => some candidate
      | _, _ => state.candidate
  | _ => state.candidate

def topUpStep (state : TopUpState F) (action : TopUpAction F) : TopUpState F :=
  let (store, phase) := refreshStep sha verifySha256 (.sip symbol) state.store state.phase
    (fileAction codec clock state action)
  { store, phase, candidate := nextCandidate codec clock state action }

def topUpEffect (state : TopUpState F) (action : TopUpAction F) : RefreshEffect :=
  refreshEffect state.phase (fileAction codec clock state action)

/-! ## What one step can do -/

inductive TopUpMove (state : TopUpState F) :
    TopUpAction F → RefreshEffect → TopUpState F → Prop
  | kept (action : TopUpAction F) : TopUpMove state action .quiet state
  | stopped (action : TopUpAction F) (candidate : Option (Candidate F)) :
      TopUpMove state action .quiet ⟨state.store, .idle, candidate⟩
  | began (call : TopUpCall F) (endOfData : Int) (candidate : Candidate F) (path : String)
      (planned : call.plan clock endOfData (committedBars codec state.store) = .store candidate)
      (chosen : refreshPath sha verifySha256 (.sip symbol) state.store = some path) :
      TopUpMove state (.begin call endOfData) .quiet ⟨state.store, .acquiring path, some candidate⟩
  | placed (path : String) (candidate : Candidate F) (acquiring : state.phase = .acquiring path)
      (running : state.candidate = some candidate)
      (valid : validateBars candidate.frame candidate.endOfData candidate.previous = []) :
      TopUpMove state .place .placed
        ⟨state.store.placeFile path (codec.write candidate.frame), .placed path, state.candidate⟩
  | described (path : String) (content : Content) (placed : state.phase = .placed path)
      (present : state.store.files path = some content) :
      TopUpMove state .describe .quiet
        ⟨state.store, .described (sipManifest symbol path (sha.hex content) content.length),
          state.candidate⟩
  | committed (manifest : PriceManifest) (described : state.phase = .described manifest) :
      TopUpMove state .commit .committed
        ⟨state.store.writeManifest manifest, .idle, state.candidate⟩

theorem topUpStep_move (state : TopUpState F) (action : TopUpAction F) :
    TopUpMove sha verifySha256 codec clock symbol state action
      (topUpEffect codec clock state action)
      (topUpStep sha verifySha256 codec clock symbol state action) := by
  obtain ⟨store, phase, running⟩ := state
  cases action with
  | begin call endOfData =>
      cases phase with
      | idle =>
          cases planned : call.plan clock endOfData (committedBars codec store) with
          | store candidate =>
              cases chosen : refreshPath sha verifySha256 (.sip symbol) store with
              | none =>
                  simpa [topUpStep, topUpEffect, fileAction, nextCandidate, planned, refreshStep,
                    chosen, refreshEffect] using TopUpMove.stopped _ _
              | some path =>
                  simpa [topUpStep, topUpEffect, fileAction, nextCandidate, planned, refreshStep,
                    chosen, refreshEffect] using
                    TopUpMove.began call endOfData candidate path planned chosen
          | raises =>
              simpa [topUpStep, topUpEffect, fileAction, nextCandidate, planned, refreshStep,
                refreshEffect] using TopUpMove.stopped _ _
          | current =>
              simpa [topUpStep, topUpEffect, fileAction, nextCandidate, planned, refreshStep,
                refreshEffect] using TopUpMove.stopped _ _
      | _ =>
          simpa [topUpStep, topUpEffect, fileAction, nextCandidate, refreshStep, refreshEffect]
            using TopUpMove.kept _
  | place =>
      cases running with
      | none =>
          have quiet : refreshEffect phase .stop = .quiet := by cases phase <;> rfl
          simpa [topUpStep, topUpEffect, fileAction, nextCandidate, refreshStep, quiet] using
            TopUpMove.stopped _ _
      | some candidate =>
          by_cases valid : candidate.isValid (codec.read (codec.write candidate.frame)) = true
          · cases phase with
            | acquiring path =>
                have accepted : validateBars candidate.frame candidate.endOfData
                    candidate.previous = [] := by
                  simpa [Candidate.isValid, codec.read_write] using valid
                simpa [topUpStep, topUpEffect, fileAction, nextCandidate, valid, refreshStep,
                  refreshEffect] using TopUpMove.placed path candidate rfl rfl accepted
            | _ =>
                simpa [topUpStep, topUpEffect, fileAction, nextCandidate, valid, refreshStep,
                  refreshEffect] using TopUpMove.kept _
          · have quiet : refreshEffect phase .stop = .quiet := by cases phase <;> rfl
            simpa [topUpStep, topUpEffect, fileAction, nextCandidate, valid, refreshStep, quiet]
              using TopUpMove.stopped _ _
  | describe =>
      cases phase with
      | placed path =>
          cases present : store.files path with
          | none =>
              simpa [topUpStep, topUpEffect, fileAction, nextCandidate, refreshStep, present,
                refreshEffect] using TopUpMove.stopped _ _
          | some content =>
              simpa [topUpStep, topUpEffect, fileAction, nextCandidate, refreshStep, present,
                refreshEffect, refreshedManifest] using
                TopUpMove.described path content rfl present
      | _ => exact .kept _
  | commit =>
      cases phase with
      | described manifest => exact .committed manifest rfl
      | _ => exact .kept _
  | stop => cases phase <;> exact .stopped _ _

/-! ## The invariant of the store -/

def RefreshPhase.written : RefreshPhase → Option String
  | .placed path => some path
  | .described manifest => some manifest.canonicalRelativePath
  | _ => none

structure TopUpSound (state : TopUpState F) : Prop where
  refresh : RefreshSound sha (.sip symbol) state.store state.phase
  readable : ∀ manifest, state.store.manifest = some manifest ∨ state.phase = .described manifest →
    manifest.isReadable = true
  bars : Increasing (committedBars codec state.store) ∧
    Labelled clock (committedBars codec state.store)
  candidate : state.phase ≠ .idle → ∃ candidate, state.candidate = some candidate ∧
    Labelled clock candidate.frame ∧ candidate.Follows clock (committedBars codec state.store)
  placed : ∀ path, state.phase.written = some path → ∃ candidate,
    state.candidate = some candidate ∧
      state.store.files path = some (codec.write candidate.frame) ∧
      validateBars candidate.frame candidate.endOfData candidate.previous = []

omit [BarNumber F] [DecidableEq F] in
theorem committedBars_congr {store next : PriceStore} (manifest : next.manifest = store.manifest)
    (files : ∀ named, store.manifest = some named →
      next.files named.canonicalRelativePath = store.files named.canonicalRelativePath) :
    committedBars codec next = committedBars codec store := by
  unfold committedBars
  rw [manifest]
  cases held : store.manifest with
  | none => rfl
  | some named =>
      dsimp only
      rw [files named held]

omit [BarNumber F] [DecidableEq F] in
theorem committedBars_written {store : PriceStore} {manifest : PriceManifest}
    {frame : List (Bar F)}
    (present : store.files manifest.canonicalRelativePath = some (codec.write frame)) :
    committedBars codec (store.writeManifest manifest) = frame := by
  simp [committedBars, present, codec.read_write]

theorem sipManifest_readable (path : String) (content : Content) :
    (sipManifest symbol path (sha.hex content) content.length).isReadable = true := by
  simp [PriceManifest.isReadable, sipManifest, allowedStatuses, sha.wellFormed]

section Moves
variable {sha verifySha256 codec clock symbol}
variable {state next : TopUpState F} {action : TopUpAction F} {effect : RefreshEffect}

theorem topUpMove_named
    (moved : TopUpMove sha verifySha256 codec clock symbol state action effect next)
    (sound : TopUpSound sha codec clock symbol state) (manifest : PriceManifest)
    (named : state.store.manifest = some manifest) :
    next.store.files manifest.canonicalRelativePath =
      state.store.files manifest.canonicalRelativePath := by
  cases moved with
  | placed path candidate acquiring running valid =>
      obtain ⟨-, different⟩ := sound.refresh.inPlace rfl manifest named
      refine PriceStore.placeFile_other _ _ ?_
      intro same
      exact different (by rw [acquiring, same]; rfl)
  | _ => rfl

theorem topUpMove_manifest
    (moved : TopUpMove sha verifySha256 codec clock symbol state action effect next)
    (quiet : effect ≠ .committed) : next.store.manifest = state.store.manifest := by
  cases moved with
  | committed => exact absurd rfl quiet
  | _ => rfl

theorem topUpMove_bars
    (moved : TopUpMove sha verifySha256 codec clock symbol state action effect next)
    (sound : TopUpSound sha codec clock symbol state) (quiet : effect ≠ .committed) :
    committedBars codec next.store = committedBars codec state.store :=
  committedBars_congr codec (topUpMove_manifest moved quiet) (topUpMove_named moved sound)

theorem topUpMove_committed
    (moved : TopUpMove sha verifySha256 codec clock symbol state action .committed next)
    (sound : TopUpSound sha codec clock symbol state) :
    ∃ candidate, state.candidate = some candidate ∧
      committedBars codec next.store = candidate.frame ∧ Labelled clock candidate.frame ∧
      candidate.Follows clock (committedBars codec state.store) ∧
      validateBars candidate.frame candidate.endOfData candidate.previous = [] := by
  cases moved with
  | committed manifest described =>
      obtain ⟨candidate, running, labelled, follows⟩ := sound.candidate (by simp [described])
      obtain ⟨other, held, present, valid⟩ := sound.placed manifest.canonicalRelativePath
        (by rw [described]; rfl)
      obtain rfl : candidate = other := by
        rw [running] at held
        exact Option.some.inj held
      exact ⟨candidate, running, committedBars_written codec present, labelled, follows, valid⟩

def TopUpAction.KeepsStored (clock : MarketClock) (existing : List (Bar F)) :
    TopUpAction F → Prop
  | .begin call endOfData => call.KeepsStored clock endOfData existing
  | _ => True

theorem topUpMove_readable
    (moved : TopUpMove sha verifySha256 codec clock symbol state action effect next)
    (sound : TopUpSound sha codec clock symbol state) (manifest : PriceManifest)
    (held : next.store.manifest = some manifest ∨ next.phase = .described manifest) :
    manifest.isReadable = true := by
  cases moved with
  | kept => exact sound.readable manifest held
  | stopped | began | placed =>
      rcases held with named | described
      · exact sound.readable manifest (.inl named)
      · cases described
  | described path content placed present =>
      rcases held with named | described
      · exact sound.readable manifest (.inl named)
      · cases described
        exact sipManifest_readable sha symbol path content
  | committed written described =>
      rcases held with named | idle
      · cases named
        exact sound.readable manifest (.inr described)
      · cases idle

theorem topUpMove_candidate
    (moved : TopUpMove sha verifySha256 codec clock symbol state action effect next)
    (sound : TopUpSound sha codec clock symbol state)
    (keepsStored : action.KeepsStored clock (committedBars codec state.store))
    (running : next.phase ≠ .idle) : ∃ candidate, next.candidate = some candidate ∧
      Labelled clock candidate.frame ∧
      candidate.Follows clock (committedBars codec next.store) := by
  cases moved with
  | kept => exact sound.candidate running
  | stopped => exact absurd rfl running
  | began call endOfData candidate path planned chosen =>
      exact ⟨candidate, rfl, plan_labelled clock sound.bars.2 planned,
        plan_follows clock sound.bars.1 sound.bars.2 keepsStored planned⟩
  | placed path candidate acquiring held valid =>
      have move : TopUpMove sha verifySha256 codec clock symbol state .place .placed _ :=
        .placed path candidate acquiring held valid
      rw [topUpMove_bars move sound (by simp)]
      exact sound.candidate (by simp [acquiring])
  | described path content placed present => exact sound.candidate (by simp [placed])
  | committed => exact absurd rfl running

theorem topUpMove_placed
    (moved : TopUpMove sha verifySha256 codec clock symbol state action effect next)
    (sound : TopUpSound sha codec clock symbol state) (path : String)
    (written : next.phase.written = some path) : ∃ candidate, next.candidate = some candidate ∧
      next.store.files path = some (codec.write candidate.frame) ∧
      validateBars candidate.frame candidate.endOfData candidate.previous = [] := by
  cases moved with
  | kept => exact sound.placed path written
  | stopped | began | committed => cases written
  | placed slot candidate acquiring running valid =>
      cases written
      exact ⟨candidate, running, PriceStore.placeFile_self _ _ _, valid⟩
  | described slot content placed present =>
      cases written
      exact sound.placed slot (by rw [placed]; rfl)

end Moves

theorem topUpStep_sound {state : TopUpState F} {action : TopUpAction F}
    (sound : TopUpSound sha codec clock symbol state)
    (keepsStored : action.KeepsStored clock (committedBars codec state.store)) :
    TopUpSound sha codec clock symbol
      (topUpStep sha verifySha256 codec clock symbol state action) := by
  have moved := topUpStep_move sha verifySha256 codec clock symbol state action
  refine ⟨?_, topUpMove_readable moved sound, ?_, topUpMove_candidate moved sound keepsStored,
    topUpMove_placed moved sound⟩
  · exact refreshMove_sound sha verifySha256 (refreshStep_move sha verifySha256 _ _ _ _)
      sound.refresh
  · by_cases committed : topUpEffect codec clock state action = .committed
    · rw [committed] at moved
      obtain ⟨candidate, -, bars, labelled, -, valid⟩ := topUpMove_committed moved sound
      rw [bars]
      exact ⟨validateBars_increasing valid, labelled⟩
    · rw [topUpMove_bars moved sound committed]
      exact sound.bars

/-! ## Every run of calls -/

section History
variable (state : TopUpState F) (later : List (TopUpAction F))

structure StoreKept : Prop where
  valid : ∀ manifest, state.store.manifest = some manifest → ∃ content,
    state.store.files manifest.canonicalRelativePath = some content ∧
      manifest.Describes sha content
  apart : ∀ manifest, state.store.manifest = some manifest →
    state.phase.target ≠ some manifest.canonicalRelativePath
  unchanged : ∀ part, part <+: later →
    Along (topUpStep sha verifySha256 codec clock symbol)
      (fun state action => topUpEffect codec clock state action ≠ .committed) state part →
    (run (topUpStep sha verifySha256 codec clock symbol) state part).store.manifest =
        state.store.manifest ∧
      ∀ manifest, state.store.manifest = some manifest →
        (run (topUpStep sha verifySha256 codec clock symbol) state part).store.files
            manifest.canonicalRelativePath =
          state.store.files manifest.canonicalRelativePath
  grows : ∀ action rest, later = action :: rest →
    topUpEffect codec clock state action = .committed → committedBars codec state.store ≠ [] →
    let next := topUpStep sha verifySha256 codec clock symbol state action
    endsAtOrAfter (committedBars codec next.store) (committedBars codec state.store) = true ∧
      ∀ candidate, state.candidate = some candidate → candidate.discarded = none →
        candidate.mode ≠ .refetchedAfterAdjustmentChange →
        ∀ bar ∈ committedBars codec state.store,
          BeforeLastSession clock (committedBars codec state.store) bar →
          bar ∈ committedBars codec next.store

def RunKeepsStore (start : TopUpState F) (actions : List (TopUpAction F)) : Prop :=
  ∀ earlier later, earlier ++ later = actions →
    StoreKept sha verifySha256 codec clock symbol
      (run (topUpStep sha verifySha256 codec clock symbol) start earlier) later

end History

/-- Steps that do not commit leave the manifest and the file it names. -/
theorem uncommitted_unchanged (part : List (TopUpAction F)) : ∀ state : TopUpState F,
    TopUpSound sha codec clock symbol state →
    Along (topUpStep sha verifySha256 codec clock symbol)
      (fun state action => action.KeepsStored clock (committedBars codec state.store)) state part →
    Along (topUpStep sha verifySha256 codec clock symbol)
      (fun state action => topUpEffect codec clock state action ≠ .committed) state part →
    (run (topUpStep sha verifySha256 codec clock symbol) state part).store.manifest =
        state.store.manifest ∧
      ∀ manifest, state.store.manifest = some manifest →
        (run (topUpStep sha verifySha256 codec clock symbol) state part).store.files
            manifest.canonicalRelativePath =
          state.store.files manifest.canonicalRelativePath := by
  induction part with
  | nil =>
      intro state _ _ _
      exact ⟨rfl, fun manifest _ => rfl⟩
  | cons action rest ih =>
      intro state sound keepsStored quiet
      have moved := topUpStep_move sha verifySha256 codec clock symbol state action
      have same := topUpMove_manifest moved quiet.1
      have files := topUpMove_named moved sound
      obtain ⟨restManifest, restFiles⟩ := ih _
        (topUpStep_sound sha verifySha256 codec clock symbol sound keepsStored.1)
        keepsStored.2 quiet.2
      refine ⟨restManifest.trans same, ?_⟩
      intro manifest named
      rw [run_cons, restFiles manifest (same.trans named), files manifest named]

theorem sound_keepsStore {state : TopUpState F} {later : List (TopUpAction F)}
    (sound : TopUpSound sha codec clock symbol state)
    (keepsStored : Along (topUpStep sha verifySha256 codec clock symbol)
      (fun state action => action.KeepsStored clock (committedBars codec state.store))
      state later) : StoreKept sha verifySha256 codec clock symbol state later := by
  refine ⟨?_, ?_, ?_, ?_⟩
  · intro manifest named
    obtain ⟨content, held, describes⟩ := sound.refresh.committed manifest named
      (sound.readable manifest (.inl named))
    refine ⟨content, ?_, describes⟩
    rw [(sound.refresh.inPlace rfl manifest named).1, held]
  · intro manifest named
    exact (sound.refresh.inPlace rfl manifest named).2
  · rintro part ⟨rest, rfl⟩ quiet
    obtain ⟨first, -⟩ := (along_append _ part rest state).mp keepsStored
    exact uncommitted_unchanged sha verifySha256 codec clock symbol part state sound first quiet
  · rintro action rest rfl committed stored
    have moved := topUpStep_move sha verifySha256 codec clock symbol state action
    rw [committed] at moved
    obtain ⟨candidate, running, bars, -, follows, valid⟩ := topUpMove_committed moved sound
    obtain ⟨ends, keeps⟩ := follows valid stored
    dsimp only
    rw [bars]
    refine ⟨ends, ?_⟩
    intro other held uncut mode
    obtain rfl : candidate = other := by
      rw [running] at held
      exact Option.some.inj held
    exact keeps uncut mode

def TopUpState.fresh (store : PriceStore) : TopUpState F := ⟨store, .idle, none⟩

theorem fresh_sound {store : PriceStore} (nothing : store.manifest = none) :
    TopUpSound sha codec clock symbol (TopUpState.fresh store) := by
  have empty : committedBars codec store = [] := by simp [committedBars, nothing]
  refine ⟨⟨?_, ?_, ?_, ?_⟩, ?_, ?_, ?_, ?_⟩
  · intro path placed
    rcases placed with placed | placed <;> cases placed
  · intro manifest described
    cases described
  · intro manifest named
    exact absurd (nothing.symm.trans named) (by simp)
  · intro _ manifest named
    exact absurd (nothing.symm.trans named) (by simp)
  · intro manifest held
    rcases held with named | described
    · exact absurd (nothing.symm.trans named) (by simp)
    · cases described
  · change Increasing (committedBars codec store) ∧ Labelled clock (committedBars codec store)
    rw [empty]
    exact ⟨List.Pairwise.nil, fun bar member => by cases member⟩
  · intro running
    exact absurd rfl running
  · intro path written
    cases written

/-- Calls whose adjustment refetches end no earlier than the store, and whose VBT answers leave the
trade counts and averages of the older bars, keep the store whatever else the vendor answers and
wherever they stop. -/
theorem top_ups_keep_the_store {store : PriceStore} (nothing : store.manifest = none)
    {actions : List (TopUpAction F)}
    (keepsStored : Along (topUpStep sha verifySha256 codec clock symbol)
      (fun state action => action.KeepsStored clock (committedBars codec state.store))
      (TopUpState.fresh store) actions) :
    RunKeepsStore sha verifySha256 codec clock symbol (TopUpState.fresh store) actions := by
  rintro earlier later rfl
  obtain ⟨before, after⟩ := (along_append _ earlier later _).mp keepsStored
  refine sound_keepsStore sha verifySha256 codec clock symbol ?_ after
  refine run_invariant_along _ (fun state action allowed sound => ?_) earlier _ before
    (fresh_sound sha codec clock symbol nothing)
  exact topUpStep_sound sha verifySha256 codec clock symbol sound allowed

/-! ## A call that runs to its end -/

def afterTopUp (store : PriceStore) (slot : String) (frame : List (Bar F)) : PriceStore :=
  (store.placeFile slot (codec.write frame)).writeManifest
    (sipManifest symbol slot (sha.hex (codec.write frame)) (codec.write frame).length)

def untilCommit (call : TopUpCall F) (endOfData : Int) : List (TopUpAction F) :=
  [.begin call endOfData, .place, .describe]

def wholeTopUp (call : TopUpCall F) (endOfData : Int) : List (TopUpAction F) :=
  untilCommit call endOfData ++ [.commit]

section Whole
variable {store : PriceStore} {held : Option (Candidate F)} {call : TopUpCall F}
variable {endOfData : Int} {candidate : Candidate F} {slot : String}
variable (planned : call.plan clock endOfData (committedBars codec store) = .store candidate)
variable (chosen : refreshPath sha verifySha256 (.sip symbol) store = some slot)
variable (valid : validateBars candidate.frame candidate.endOfData candidate.previous = [])

include planned chosen valid

theorem run_untilCommit :
    run (topUpStep sha verifySha256 codec clock symbol) ⟨store, .idle, held⟩
        (untilCommit call endOfData) =
      ⟨store.placeFile slot (codec.write candidate.frame),
        .described (sipManifest symbol slot (sha.hex (codec.write candidate.frame))
          (codec.write candidate.frame).length), some candidate⟩ := by
  simp [untilCommit, topUpStep, fileAction, nextCandidate, refreshStep, planned, chosen,
    Candidate.isValid, codec.read_write, valid, PriceStore.placeFile_self, refreshedManifest]

theorem run_wholeTopUp :
    run (topUpStep sha verifySha256 codec clock symbol) ⟨store, .idle, held⟩
        (wholeTopUp call endOfData) =
      ⟨afterTopUp sha codec symbol store slot candidate.frame, .idle, some candidate⟩ := by
  rw [wholeTopUp, run_append, run_untilCommit sha verifySha256 codec clock symbol planned chosen
    valid]
  rfl

end Whole

omit [BarNumber F] [DecidableEq F] in
@[simp] theorem committedBars_afterTopUp (store : PriceStore) (slot : String)
    (frame : List (Bar F)) :
    committedBars codec (afterTopUp sha codec symbol store slot frame) = frame :=
  committedBars_written codec (PriceStore.placeFile_self _ _ _)

omit [BarNumber F] [DecidableEq F] in
/-- The next call accepts what a top-up committed and takes the other slot. -/
theorem refreshPath_afterTopUp (store : PriceStore) (slot : String) (frame : List (Bar F)) :
    refreshPath sha verifySha256 (.sip symbol) (afterTopUp sha codec symbol store slot frame) =
      some (slotRelativePath symbol (inactiveSlot (some slot))) := by
  have readable := sipManifest_readable sha symbol slot (codec.write frame)
  have present := PriceStore.placeFile_self store slot (codec.write frame)
  simp only [refreshPath, afterTopUp, PriceStore.writeManifest_manifest, readable,
    verifyDatasetFile, PriceStore.writeManifest_files]
  simp [sipManifest, present]

/-- A run of the calls' own actions meets the condition when its beginning does. -/
theorem along_wholeTopUp {state : TopUpState F} {call : TopUpCall F} {endOfData : Int}
    (keepsStored : call.KeepsStored clock endOfData (committedBars codec state.store)) :
    Along (topUpStep sha verifySha256 codec clock symbol)
      (fun state action => action.KeepsStored clock (committedBars codec state.store)) state
      (wholeTopUp call endOfData) :=
  ⟨keepsStored, trivial, trivial, trivial, trivial⟩

end Steps

/-! ## Two runs -/

instance centNumber : BarNumber Int where
  zero := 0
  isNull _ := false
  below a b := decide (a < b)
  atMost a b := decide (a ≤ b)
  isClose a b := decide (a = b)

abbrev BarFields := Int × Int × Int × Int × Int × Int × Option Int × Int × List Nat

def Bar.fields (bar : Bar Int) : BarFields :=
  (bar.timestamp, bar.openPrice, bar.high, bar.low, bar.closePrice, bar.volume, bar.tradeCount,
    bar.vwap, bar.session.toList.map Char.toNat)

def Bar.ofFields : BarFields → Bar Int
  | (timestamp, openPrice, high, low, closePrice, volume, tradeCount, vwap, session) =>
      ⟨⟨timestamp, openPrice, high, low, closePrice, volume, tradeCount, vwap⟩,
        String.ofList (session.map Char.ofNat)⟩

theorem Bar.ofFields_fields (bar : Bar Int) : Bar.ofFields bar.fields = bar := by
  obtain ⟨⟨timestamp, openPrice, high, low, closePrice, volume, tradeCount, vwap⟩, session⟩ := bar
  simp [Bar.fields, Bar.ofFields, Function.comp_def]

instance barEncodable : Encodable (Bar Int) :=
  Encodable.ofLeftInverse Bar.fields Bar.ofFields Bar.ofFields_fields

def lengthCodec : ParquetCodec Int where
  write frame := List.replicate (Encodable.encode frame) 0
  read content := (Encodable.decode content.length).getD []
  read_write frame := by simp

def plainClock : MarketClock where
  sessionStart timestamp := timestamp / 86400000000000 * 86400000000000
  day timestamp := timestamp / 86400000000000
  sessionLabel _ := "regular"
  validDaysBetween previous next := (next - previous - 1).toNat

def sampleBar (day : Int) : RawBar Int :=
  ⟨day * 86400000000000, 10, 12, 9, 11, 100, some 5, 11⟩

def constantSha : Sha256 where
  hex _ := String.ofList (List.replicate 64 '0')
  wellFormed _ := by
    unfold isDigest
    rw [String.toList_ofList]
    decide

def emptyStore : PriceStore := ⟨fun _ => none, none, none⟩

def endOfSample : Int := 864000000000000

def firstCall : TopUpCall Int := .legacy 0 fun _ _ _ => some [sampleBar 0, sampleBar 1]

def firstStore : PriceStore :=
  afterTopUp constantSha lengthCodec "SPY" emptyStore (slotRelativePath "SPY" "a")
    (markSessions plainClock [sampleBar 0, sampleBar 1])

def firstCandidate : Candidate Int :=
  ⟨markSessions plainClock [sampleBar 0, sampleBar 1], none, .full, none, endOfSample, 0⟩

theorem run_firstCall :
    run (topUpStep constantSha true lengthCodec plainClock "SPY") (TopUpState.fresh emptyStore)
      (wholeTopUp firstCall endOfSample) = ⟨firstStore, .idle, some firstCandidate⟩ := by
  have planned : firstCall.plan plainClock endOfSample (committedBars lengthCodec emptyStore) =
      .store firstCandidate := rfl
  exact run_wholeTopUp constantSha true lengthCodec plainClock "SPY" planned rfl (by decide)

/-- The answer from the last kept bar on repeats it and goes on to a third day. -/
def secondCall : TopUpCall Int :=
  .legacy 0 fun _ _ _ => some [sampleBar 0, sampleBar 1, sampleBar 2]

theorem twoCalls_keep_the_store :
    RunKeepsStore constantSha true lengthCodec plainClock "SPY" (TopUpState.fresh emptyStore)
      (wholeTopUp firstCall endOfSample ++ wholeTopUp secondCall endOfSample) := by
  refine top_ups_keep_the_store constantSha true lengthCodec plainClock "SPY" rfl ?_
  refine (along_append _ _ _ _).mpr ⟨?_, ?_⟩
  · refine along_wholeTopUp constantSha true lengthCodec plainClock "SPY" ?_
    intro first anchor fetched refetched head
    cases head
  · rw [run_firstCall]
    refine along_wholeTopUp constantSha true lengthCodec plainClock "SPY" ?_
    intro first anchor fetched refetched _ last answered moved
    simp only [firstStore, committedBars_afterTopUp] at last
    cases answered
    obtain rfl : anchor = ⟨sampleBar 0, "regular"⟩ := by
      have kept : (keptBars plainClock (markSessions plainClock
          [sampleBar 0, sampleBar 1])).getLast? = some ⟨sampleBar 0, "regular"⟩ := by decide
      rw [kept] at last
      exact (Option.some.inj last).symm
    exact absurd moved (by decide)

/-- The answer from the last kept bar on is empty, and the history fetched again lacks the second
day. -/
def truncatedCall : TopUpCall Int :=
  .legacy 0 fun request _ _ => if request = 0 then some [] else some [sampleBar 0]

def truncatedCandidate : Candidate Int :=
  ⟨markSessions plainClock [sampleBar 0], none, .refetchedAfterAdjustmentChange, none,
    endOfSample, 0⟩

theorem truncated_refetch_drops_bars :
    ¬ RunKeepsStore constantSha true lengthCodec plainClock "SPY" (TopUpState.fresh emptyStore)
      (wholeTopUp firstCall endOfSample ++ wholeTopUp truncatedCall endOfSample) := by
  intro keeps
  have planned : truncatedCall.plan plainClock endOfSample
      (committedBars lengthCodec firstStore) = .store truncatedCandidate := by
    rw [firstStore, committedBars_afterTopUp]
    rfl
  have kept := keeps (wholeTopUp firstCall endOfSample ++ untilCommit truncatedCall endOfSample)
    [.commit] (List.append_assoc _ _ _)
  rw [run_append, run_firstCall, run_untilCommit constantSha true lengthCodec plainClock "SPY"
    planned (refreshPath_afterTopUp _ _ _ _ _ _ _) (by decide)] at kept
  have before : committedBars lengthCodec (firstStore.placeFile
      (slotRelativePath "SPY" (inactiveSlot (some (slotRelativePath "SPY" "a"))))
      (lengthCodec.write truncatedCandidate.frame)) =
      markSessions plainClock [sampleBar 0, sampleBar 1] := by
    refine (committedBars_congr lengthCodec (PriceStore.placeFile_manifest firstStore _ _)
      ?_).trans (committedBars_afterTopUp _ _ _ _ _ _)
    intro named held
    cases held
    refine PriceStore.placeFile_other _ _ ?_
    exact (slotRelativePath_inactive "SPY" (slotRelativePath "SPY" "a")).symm
  obtain ⟨ends, -⟩ := kept.grows .commit [] rfl rfl (by rw [before]; decide)
  have after : committedBars lengthCodec (afterTopUp constantSha lengthCodec "SPY" firstStore
      (slotRelativePath "SPY" (inactiveSlot (some (slotRelativePath "SPY" "a"))))
      truncatedCandidate.frame) = truncatedCandidate.frame :=
    committedBars_afterTopUp _ _ _ _ _ _
  rw [before] at ends
  change endsAtOrAfter (committedBars lengthCodec (afterTopUp constantSha lengthCodec "SPY"
    firstStore _ truncatedCandidate.frame)) _ = true at ends
  rw [after] at ends
  exact absurd ends (by decide)

end QuantFactory.MarketData
