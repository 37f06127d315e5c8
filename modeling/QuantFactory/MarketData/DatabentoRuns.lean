import QuantFactory.MarketData.Databento
import QuantFactory.MarketData.TopUpRuns

/-!
# Runs of Databento acquisitions

Calls one after another on one store, each of them ending after any of its file operations.  The
data file and its manifest are renamed into place one after the other, and the manifest twice, so
a call that ends in between leaves a pair that every later call refuses; and what was downloaded
replaces the stored file whatever it covers.
-/

set_option autoImplicit false

namespace QuantFactory.MarketData

open QuantFactory.Library

section Runs
variable {F : Type} [BarNumber F] {sha : Sha256} {codec : FrameCodec F} {request : OhlcvRequest}
variable {store : DatabentoStore} {call : AcquireCall F}

/-! ## What a call does -/

omit [BarNumber F] in
theorem manifestMismatch_expected {manifest : DatabentoManifest}
    (own : manifest.identity = request.expected) : manifestMismatch request manifest = none := by
  simp only [manifestMismatch, own, Option.map_eq_none_iff, List.find?_eq_none]
  simp only [OhlcvRequest.expected, List.forall_mem_cons]
  simp [List.lookup]

inductive AcquirePlan (sha : Sha256) (codec : FrameCodec F) (request : OhlcvRequest)
    (call : AcquireCall F) (store : DatabentoStore) : List StoreOperation → Prop
  | reuse {content : Content} {manifest : DatabentoManifest} (stored : store.data = some content)
      (own : manifestMismatch request manifest = none) :
      AcquirePlan sha codec request call store
        [.temporary, .replaceManifest (manifest.withDigest sha content)]
  | download {schedule : List ExchangeSession} {raw : List (OhlcvRow F)}
      {manifest : DatabentoManifest} (completed : completedSessions call = .ok schedule)
      (answered : call.answer = some raw) (unsealed : manifest.sha256 = "")
      (own : manifestMismatch request manifest = none) :
      AcquirePlan sha codec request call store
        [.temporary, .replaceData (codec.write (coverageForSchedule schedule (sortByTimestamp raw))),
          .temporary, .replaceManifest manifest, .temporary,
          .replaceManifest (manifest.withDigest sha
            (codec.write (coverageForSchedule schedule (sortByTimestamp raw))))]

theorem acquireFromStart_plan {operations : List StoreOperation}
    (ok : acquireFromStart sha codec request call store = .ok operations) :
    AcquirePlan sha codec request call store operations := by
  rw [acquireFromStart] at ok
  obtain ⟨schedule, completed, ok⟩ := bind_eq_ok.mp ok
  obtain ⟨cost, -, ok⟩ := bind_eq_ok.mp ok
  obtain ⟨-, ok⟩ := raiseIf_bind_eq_ok.mp ok
  obtain ⟨⟨existing, previous⟩, read, ok⟩ := bind_eq_ok.mp ok
  dsimp only at ok
  split at ok
  · rename_i covered
    obtain ⟨resolved, -, ok⟩ := bind_eq_ok.mp ok
    cases ok
    cases stored : store.data with
    | none =>
        rw [readExistingVerified, stored] at read
        cases read
        cases covered
    | some content => exact .reuse stored (manifestMismatch_expected rfl)
  · obtain ⟨raw, answered, ok⟩ := bind_eq_ok.mp ok
    obtain ⟨resolved, -, ok⟩ := bind_eq_ok.mp ok
    cases ok
    refine .download completed ?_ rfl (manifestMismatch_expected rfl)
    cases given : call.answer with
    | none =>
        rw [given] at answered
        cases answered
    | some rows =>
        rw [given] at answered
        cases answered
        rfl

theorem acquireFromStart_eq_download {schedule : List ExchangeSession} {cost : Rat}
    {existing raw : List (OhlcvRow F)} {previous : Option DatabentoManifest} {resolved : Bool}
    (completed : completedSessions call = .ok schedule) (priced : call.estimatedCost = some cost)
    (affordable : decide (call.maxCostUsd ≤ cost) = false)
    (read : readExistingVerified sha codec request store = .ok (existing, previous))
    (uncovered : coversSchedule existing schedule = false) (answered : call.answer = some raw)
    (named : call.resolved = some resolved) :
    ∃ manifest, manifest = buildDatabentoManifest request
        (coverageForSchedule schedule (sortByTimestamp raw)) schedule resolved
        (if existing.isEmpty then .created else .refreshed) previous ∧
      acquireFromStart sha codec request call store = .ok [.temporary,
        .replaceData (codec.write (coverageForSchedule schedule (sortByTimestamp raw))),
        .temporary, .replaceManifest manifest, .temporary,
        .replaceManifest (manifest.withDigest sha
          (codec.write (coverageForSchedule schedule (sortByTimestamp raw))))] := by
  refine ⟨_, rfl, ?_⟩
  simp only [acquireFromStart, completed, priced, orRaise, bind_ok, affordable, raiseIf, read,
    uncovered, answered, named]
  rfl

/-! ## What a later call finds -/

/-- A stored data file has a manifest of the request with its digest. -/
def Readable (sha : Sha256) (request : OhlcvRequest) (store : DatabentoStore) : Prop :=
  ∀ content, store.data = some content → ∃ manifest, store.manifest = some manifest ∧
    manifestMismatch request manifest = none ∧ sha.hex content = manifest.sha256

/-! ## The condition on the end of the process -/

def writtenData (operations : List StoreOperation) : Option Content :=
  operations.findSome? fun operation => match operation with
    | .replaceData content => some content
    | _ => none

/-- A call that replaces the data file ends before it does or after all six operations, or before
the first manifest when the stored one has the new digest. -/
def SafeExit (sha : Sha256) (codec : FrameCodec F) (request : OhlcvRequest)
    (store : DatabentoStore) (event : AcquireEvent F) : Prop :=
  ∀ operations content count,
    acquireFromStart sha codec request event.call store = .ok operations →
    writtenData operations = some content → event.exitAfter = some count →
      count ≤ 1 ∨ 6 ≤ count ∨ (count ≤ 3 ∧ ∃ manifest, store.manifest = some manifest ∧
        manifestMismatch request manifest = none ∧ sha.hex content = manifest.sha256)

omit [BarNumber F] in
theorem Sha256.hex_ne_empty (sha : Sha256) (content : Content) : sha.hex content ≠ "" := by
  intro empty
  have digest := sha.wellFormed content
  rw [empty] at digest
  cases digest

def afterOperations (store : DatabentoStore) (operations : List StoreOperation)
    (exitAfter : Option Nat) : DatabentoStore :=
  ((exitAfter.map operations.take).getD operations).foldl DatabentoStore.apply store

omit [BarNumber F] in
theorem readable_withDigest {content : Content} {manifest : DatabentoManifest}
    (own : manifestMismatch request manifest = none) :
    Readable sha request ⟨some content, some (manifest.withDigest sha content)⟩ := by
  intro other same
  cases same
  exact ⟨_, rfl, own, rfl⟩

theorem readable_between {content : Content} :
    Readable sha request { store with data := some content } ↔
      ∃ manifest, store.manifest = some manifest ∧ manifestMismatch request manifest = none ∧
        sha.hex content = manifest.sha256 := by
  constructor
  · intro readable
    exact readable content rfl
  · intro matching other same
    cases same
    exact matching

theorem not_readable_unsealed {content : Content} {manifest : DatabentoManifest}
    (unsealed : manifest.sha256 = "") : ¬ Readable sha request ⟨some content, some manifest⟩ := by
  intro readable
  obtain ⟨other, same, -, digest⟩ := readable content rfl
  cases same
  rw [unsealed] at digest
  exact sha.hex_ne_empty content digest

/-- When a call that replaces the data file leaves a readable store. -/
theorem readable_afterDownload {content : Content} {manifest : DatabentoManifest}
    (readable : Readable sha request store) (unsealed : manifest.sha256 = "")
    (own : manifestMismatch request manifest = none) (count : Nat) :
    Readable sha request (afterOperations store [.temporary, .replaceData content, .temporary,
      .replaceManifest manifest, .temporary,
      .replaceManifest (manifest.withDigest sha content)] (some count)) ↔
    count ≤ 1 ∨ 6 ≤ count ∨ (count ≤ 3 ∧ ∃ held, store.manifest = some held ∧
      manifestMismatch request held = none ∧ sha.hex content = held.sha256) := by
  match count with
  | 0 => exact iff_of_true readable (.inl (by omega))
  | 1 => exact iff_of_true readable (.inl (by omega))
  | 2 => exact readable_between.trans (by simp [DatabentoStore.apply])
  | 3 => exact readable_between.trans (by simp [DatabentoStore.apply])
  | 4 => exact iff_of_false (not_readable_unsealed unsealed) (by omega)
  | 5 => exact iff_of_false (not_readable_unsealed unsealed) (by omega)
  | count + 6 =>
      refine iff_of_true ?_ (.inr (.inl (by omega)))
      simp only [afterOperations, Option.map_some, Option.getD_some, List.take_succ_cons,
        List.take_nil, List.foldl_cons, List.foldl_nil, DatabentoStore.apply]
      exact readable_withDigest own

theorem readable_acquireStep_iff {event : AcquireEvent F} (readable : Readable sha request store) :
    Readable sha request (acquireStep sha codec request store event) ↔
      SafeExit sha codec request store event := by
  rw [acquireStep]
  cases planned : acquireFromStart sha codec request event.call store with
  | error raised =>
      refine iff_of_true readable ?_
      intro operations content count ok
      rw [planned] at ok
      cases ok
  | ok operations =>
      change Readable sha request (afterOperations store operations event.exitAfter) ↔ _
      cases acquireFromStart_plan planned with
      | @reuse content manifest stored own =>
          refine iff_of_true ?_ ?_
          · have whole : Readable sha request
                { store with manifest := some (manifest.withDigest sha content) } := by
              rw [stored]
              exact readable_withDigest own
            cases event.exitAfter with
            | none => exact whole
            | some count =>
                match count with
                | 0 => exact readable
                | 1 => exact readable
                | count + 2 => simpa [afterOperations, DatabentoStore.apply] using whole
          · intro operations written count ok found
            rw [planned] at ok
            cases ok
            cases found
      | download completed answered unsealed own =>
          cases exit : event.exitAfter with
          | none =>
              refine iff_of_true (readable_withDigest own) ?_
              intro operations written count ok found ended
              rw [exit] at ended
              cases ended
          | some count =>
              rw [readable_afterDownload readable unsealed own count]
              constructor
              · intro safe operations written other ok found ended
                rw [planned] at ok
                cases ok
                cases found
                rw [exit] at ended
                cases ended
                exact safe
              · intro safe
                exact safe _ _ count planned rfl exit

/-! ## What a refresh covers -/

def coveredSessions (schedule : List ExchangeSession) (frame : List (OhlcvRow F)) : Nat :=
  schedule.countP (isCovered frame)

theorem minute_isOpen {session : ExchangeSession} {minute : Int}
    (member : minute ∈ session.minutes) : session.isOpen minute = true := by
  obtain ⟨offset, inside, rfl⟩ := List.mem_map.mp member
  have below := List.mem_range.mp inside
  simp only [nanosecondsPerMinute] at below
  refine decide_eq_true ⟨?_, ?_⟩
  · simp only [nanosecondsPerMinute]
    omega
  · simp only [nanosecondsPerMinute]
    omega

omit [BarNumber F] in
theorem isCovered_coverage {schedule : List ExchangeSession} {session : ExchangeSession}
    (scheduled : session ∈ schedule) (raw : List (OhlcvRow F)) :
    isCovered (coverageForSchedule schedule (sortByTimestamp raw)) session =
      isCovered raw session := by
  rw [Bool.eq_iff_iff]
  simp only [isCovered, coverageForSchedule, sortByTimestamp, List.any_eq_true, List.mem_filter,
    List.mem_insertionSort, decide_eq_true_eq]
  constructor
  · rintro ⟨minute, member, row, ⟨⟨stored, -⟩, -⟩, same⟩
    exact ⟨minute, member, row, stored, same⟩
  · rintro ⟨minute, member, row, stored, same⟩
    refine ⟨minute, member, row, ⟨⟨stored, session, scheduled, ?_⟩, ?_⟩, same⟩
    · rw [same]
      exact minute_isOpen member
    · rw [same]
      exact List.contains_iff_mem.mpr (List.mem_flatMap.mpr ⟨session, scheduled, member⟩)

omit [BarNumber F] in
theorem coveredSessions_coverage (schedule : List ExchangeSession) (raw : List (OhlcvRow F)) :
    coveredSessions schedule (coverageForSchedule schedule (sortByTimestamp raw)) =
      coveredSessions schedule raw :=
  List.countP_congr fun _ scheduled => by rw [isCovered_coverage scheduled raw]

/-- A stored validated dataset is not replaced by one that covers fewer completed sessions. -/
def KeepsCoverage (sha : Sha256) (codec : FrameCodec F) (request : OhlcvRequest)
    (store : DatabentoStore) (event : AcquireEvent F) : Prop :=
  ∀ schedule content manifest after, completedSessions event.call = .ok schedule →
    store.data = some content → store.manifest = some manifest →
    manifest.status = "validated" →
    (acquireStep sha codec request store event).data = some after →
      coveredSessions schedule (codec.read content) ≤ coveredSessions schedule (codec.read after)

/-- The vendor's answer to a call that replaces a validated dataset has a bar in as many of the
completed sessions. -/
def AnswerCovers (sha : Sha256) (codec : FrameCodec F) (request : OhlcvRequest)
    (store : DatabentoStore) (event : AcquireEvent F) : Prop :=
  ∀ schedule content manifest operations written raw,
    completedSessions event.call = .ok schedule → store.data = some content →
    store.manifest = some manifest → manifest.status = "validated" →
    acquireFromStart sha codec request event.call store = .ok operations →
    writtenData operations = some written → event.exitAfter.all (1 < ·) = true →
    event.call.answer = some raw →
      coveredSessions schedule (codec.read content) ≤ coveredSessions schedule raw

theorem data_afterReuse {manifest : DatabentoManifest} (exitAfter : Option Nat) :
    (afterOperations store [.temporary, .replaceManifest manifest] exitAfter).data =
      store.data := by
  cases exitAfter with
  | none => rfl
  | some count =>
      match count with
      | 0 => rfl
      | 1 => rfl
      | count + 2 => simp [afterOperations, DatabentoStore.apply]

theorem data_afterDownload {content : Content} {first second : DatabentoManifest}
    (exitAfter : Option Nat) :
    (afterOperations store [.temporary, .replaceData content, .temporary, .replaceManifest first,
      .temporary, .replaceManifest second] exitAfter).data =
    if exitAfter.all (1 < ·) then some content else store.data := by
  cases exitAfter with
  | none => rfl
  | some count =>
      match count with
      | 0 => rfl
      | 1 => rfl
      | 2 => rfl
      | 3 => rfl
      | 4 => rfl
      | 5 => rfl
      | count + 6 => simp [afterOperations, DatabentoStore.apply]

theorem keepsCoverage_iff (event : AcquireEvent F) :
    KeepsCoverage sha codec request store event ↔ AnswerCovers sha codec request store event := by
  constructor
  · intro keeps schedule content manifest operations written raw completed data held validated ok
      found placed answered
    cases acquireFromStart_plan ok with
    | reuse => cases found
    | @download plannedSchedule plannedRaw _ plannedCompleted plannedAnswer unsealed own =>
        cases found
        rw [completed] at plannedCompleted
        cases plannedCompleted
        rw [answered] at plannedAnswer
        cases plannedAnswer
        have after : (acquireStep sha codec request store event).data =
            some (codec.write (coverageForSchedule schedule (sortByTimestamp raw))) := by
          rw [acquireStep, ok]
          exact (data_afterDownload event.exitAfter).trans (if_pos placed)
        have covers := keeps schedule content manifest _ completed data held validated after
        rw [codec.read_write, coveredSessions_coverage] at covers
        exact covers
  · intro covers schedule content manifest after completed data held validated stored
    rw [acquireStep] at stored
    cases planned : acquireFromStart sha codec request event.call store with
    | error raised =>
        rw [planned] at stored
        rw [data] at stored
        cases stored
        exact le_refl _
    | ok operations =>
        rw [planned] at stored
        change (afterOperations store operations event.exitAfter).data = some after at stored
        cases acquireFromStart_plan planned with
        | reuse present own =>
            rw [data_afterReuse, data] at stored
            cases stored
            exact le_refl _
        | @download plannedSchedule raw _ plannedCompleted answered unsealed own =>
            rw [data_afterDownload] at stored
            rw [completed] at plannedCompleted
            cases plannedCompleted
            by_cases placed : event.exitAfter.all (1 < ·) = true
            · rw [if_pos placed] at stored
              cases stored
              rw [codec.read_write, coveredSessions_coverage]
              exact covers schedule content manifest _ _ raw completed data held validated planned
                rfl placed answered
            · rw [if_neg placed, data] at stored
              cases stored
              exact le_refl _

/-! ## Whole runs -/

def DatabentoStore.empty : DatabentoStore := ⟨none, none⟩

/-- **The store survives.** In a run from an empty store every state is readable and no refresh
loses a completed session of a validated dataset, exactly when every process that ends early does
so outside the renames of a download and every answer to a refresh covers as much as the stored
file. -/
theorem databento_store_survives_iff (events : List (AcquireEvent F)) :
    ((∀ earlier, earlier <+: events → Readable sha request
        (run (acquireStep sha codec request) DatabentoStore.empty earlier)) ∧
      Along (acquireStep sha codec request) (KeepsCoverage sha codec request)
        DatabentoStore.empty events) ↔
    Along (acquireStep sha codec request) (fun store event =>
      SafeExit sha codec request store event ∧ AnswerCovers sha codec request store event)
      DatabentoStore.empty events := by
  have start : Readable sha request DatabentoStore.empty := by
    intro content same
    cases same
  have kept (store : DatabentoStore) (event : AcquireEvent F)
      (readable : Readable sha request store) :
      Readable sha request (acquireStep sha codec request store event) ↔
        SafeExit sha codec request store event := readable_acquireStep_iff readable
  have states := prefixes_iff_along (acquireStep sha codec request) (Readable sha request) kept
    events DatabentoStore.empty start
  have refreshes : Along (acquireStep sha codec request) (KeepsCoverage sha codec request)
        DatabentoStore.empty events ↔
      Along (acquireStep sha codec request) (AnswerCovers sha codec request)
        DatabentoStore.empty events :=
    along_congr _ (fun _ event => keepsCoverage_iff event) events _
  rw [along_and, states, refreshes]

end Runs

/-! ## Two runs -/

def sampleSession (day : Nat) : ExchangeSession :=
  ⟨toString day, day * 86400000000000, day * 86400000000000 + 60000000000⟩

def sampleRow (day : Nat) : OhlcvRow Int := ⟨day * 86400000000000, 10, 12, 9, 11, 100⟩

def sampleAcquire (today : Nat) (answered : List Nat) : AcquireCall Int where
  sessions := (List.range today).map sampleSession
  now := today * 86400000000000
  maxCostUsd := 1
  estimatedCost := some 0
  resolved := some true
  answer := some (answered.map sampleRow)

def sampleRequest : OhlcvRequest :=
  ⟨"equities_SPYM_1m", "EQUS.MINI", "ohlcv-1m", "SPYM", "1m", "raw"⟩

def OhlcvRow.fields (row : OhlcvRow Int) : Int × Int × Int × Int × Int × Int :=
  (row.timestamp, row.openPrice, row.high, row.low, row.closePrice, row.volume)

instance rowEncodable : Encodable (OhlcvRow Int) :=
  Encodable.ofLeftInverse OhlcvRow.fields
    (fun (timestamp, openPrice, high, low, closePrice, volume) =>
      ⟨timestamp, openPrice, high, low, closePrice, volume⟩)
    fun _ => rfl

def lengthFrameCodec : FrameCodec Int where
  write frame := List.replicate (Encodable.encode frame) 0
  read content := (Encodable.decode content.length).getD []
  read_write frame := by simp

theorem first_acquisition (sha : Sha256) (codec : FrameCodec Int) (exitAfter : Option Nat) :
    ∃ manifest : DatabentoManifest, manifest.status = "validated" ∧
      manifest.identity = sampleRequest.expected ∧
      acquireStep sha codec sampleRequest DatabentoStore.empty
        ⟨sampleAcquire 2 [0, 1], exitAfter⟩ = afterOperations DatabentoStore.empty
          [.temporary, .replaceData (codec.write [sampleRow 0, sampleRow 1]), .temporary,
            .replaceManifest manifest, .temporary, .replaceManifest
              (manifest.withDigest sha (codec.write [sampleRow 0, sampleRow 1]))] exitAfter := by
  have completed : completedSessions (sampleAcquire 2 [0, 1]) =
      .ok ((List.range 2).map sampleSession) := by decide +kernel
  have read : readExistingVerified sha codec sampleRequest DatabentoStore.empty =
      .ok ([], none) := rfl
  have stored : coverageForSchedule ((List.range 2).map sampleSession)
      (sortByTimestamp ([0, 1].map sampleRow)) = [sampleRow 0, sampleRow 1] := by decide +kernel
  obtain ⟨manifest, built, planned⟩ := acquireFromStart_eq_download completed rfl (by decide) read
    rfl rfl rfl
  rw [stored] at built planned
  refine ⟨manifest, ?_, ?_, ?_⟩
  · rw [built]
    decide +kernel
  · rw [built]
    rfl
  · rw [acquireStep, planned]
    rfl

/-- The process ends when the first data file is in place, or the vendor answers a refresh of two
validated sessions with one of three. -/
theorem acquisition_loses_the_store :
    ¬ Readable constantSha sampleRequest (acquireStep constantSha lengthFrameCodec sampleRequest
      DatabentoStore.empty ⟨sampleAcquire 2 [0, 1], some 2⟩) ∧
    ¬ KeepsCoverage constantSha lengthFrameCodec sampleRequest
      (acquireStep constantSha lengthFrameCodec sampleRequest DatabentoStore.empty
        ⟨sampleAcquire 2 [0, 1], none⟩)
      ⟨sampleAcquire 3 [0], none⟩ := by
  constructor
  · obtain ⟨manifest, -, -, after⟩ := first_acquisition constantSha lengthFrameCodec (some 2)
    rw [after]
    intro readable
    obtain ⟨held, same, -⟩ := readable _ rfl
    cases same
  · obtain ⟨manifest, validated, own, after⟩ := first_acquisition constantSha lengthFrameCodec none
    rw [after]
    generalize lengthFrameCodec = codec
    intro keeps
    have completed : completedSessions (sampleAcquire 3 [0]) =
        .ok ((List.range 3).map sampleSession) := by decide +kernel
    have read : readExistingVerified constantSha codec sampleRequest
        ⟨some (codec.write [sampleRow 0, sampleRow 1]), some (manifest.withDigest constantSha
          (codec.write [sampleRow 0, sampleRow 1]))⟩ = .ok ([sampleRow 0, sampleRow 1],
            some (manifest.withDigest constantSha (codec.write [sampleRow 0, sampleRow 1]))) := by
      have named : manifestMismatch sampleRequest (manifest.withDigest constantSha
          (codec.write [sampleRow 0, sampleRow 1])) = none := manifestMismatch_expected own
      have sorted : sortByTimestamp [sampleRow 0, sampleRow 1] = [sampleRow 0, sampleRow 1] := by
        decide +kernel
      simp only [readExistingVerified, named, codec.read_write, sorted]
      exact if_neg (by simp [DatabentoManifest.withDigest])
    have stored : coverageForSchedule ((List.range 3).map sampleSession)
        (sortByTimestamp ([0].map sampleRow)) = [sampleRow 0] := by decide +kernel
    obtain ⟨refreshed, -, planned⟩ := acquireFromStart_eq_download completed rfl (by decide) read
      (by decide +kernel) rfl rfl
    rw [stored] at planned
    have replaced : (acquireStep constantSha codec sampleRequest
        ⟨some (codec.write [sampleRow 0, sampleRow 1]), some (manifest.withDigest constantSha
          (codec.write [sampleRow 0, sampleRow 1]))⟩ ⟨sampleAcquire 3 [0], none⟩).data =
        some (codec.write [sampleRow 0]) := by
      rw [acquireStep, planned]
      rfl
    have fewer := keeps _ _ _ _ completed rfl rfl validated replaced
    rw [codec.read_write, codec.read_write] at fewer
    exact absurd fewer (by decide +kernel)

end QuantFactory.MarketData
