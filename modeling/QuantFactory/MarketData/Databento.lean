import Mathlib
import QuantFactory.Library.Outcome
import QuantFactory.MarketData.Bars
import QuantFactory.MarketData.PriceFiles

/-!
# The Databento store

`DatabentoOhlcvProvider.acquire_from_start` of `market_data/providers/databento.py`: what a call
reads of the stored pair of files, when it downloads, what it says of the bars, and the file
operations it takes one after another.
-/

set_option autoImplicit false

namespace QuantFactory.MarketData

open QuantFactory.Library

/-! ## Sessions and bars -/

structure ExchangeSession where
  label : String
  marketOpen : Int
  marketClose : Int
  deriving DecidableEq, Repr

def ExchangeSession.minutes (session : ExchangeSession) : List Int :=
  (List.range ((session.marketClose - session.marketOpen + nanosecondsPerMinute - 1) /
    nanosecondsPerMinute).toNat).map fun minute : Nat =>
      session.marketOpen + minute * nanosecondsPerMinute

def ExchangeSession.isOpen (session : ExchangeSession) (timestamp : Int) : Bool :=
  decide (session.marketOpen ≤ timestamp ∧ timestamp < session.marketClose)

def expectedRegularMinutes (schedule : List ExchangeSession) : List Int :=
  schedule.flatMap ExchangeSession.minutes

/-- A row of the frame, its numbers as `to_numeric` leaves them. -/
structure OhlcvRow (F : Type) where
  timestamp : Int
  openPrice : F
  high : F
  low : F
  closePrice : F
  volume : F
  deriving DecidableEq

section Frames
variable {F : Type}

def OhlcvRow.prices (row : OhlcvRow F) : List F :=
  [row.openPrice, row.high, row.low, row.closePrice]

/-- `sort_values("timestamp", kind="mergesort")`. -/
def sortByTimestamp (frame : List (OhlcvRow F)) : List (OhlcvRow F) :=
  frame.insertionSort (·.timestamp ≤ ·.timestamp)

def coverageForSchedule (schedule : List ExchangeSession) (frame : List (OhlcvRow F)) :
    List (OhlcvRow F) :=
  (frame.filter fun row => schedule.any (·.isOpen row.timestamp)).filter fun row =>
    (expectedRegularMinutes schedule).contains row.timestamp

def isCovered (frame : List (OhlcvRow F)) (session : ExchangeSession) : Bool :=
  session.minutes.any fun minute => frame.any (·.timestamp = minute)

def missingSessions (frame : List (OhlcvRow F)) (schedule : List ExchangeSession) : List String :=
  (schedule.filter fun session => !isCovered frame session).map ExchangeSession.label

def coversSchedule (frame : List (OhlcvRow F)) (schedule : List ExchangeSession) : Bool :=
  !frame.isEmpty && (missingSessions frame schedule).isEmpty

section Counts
variable [BarNumber F]

open BarNumber

/-- `_count_ohlc_violations`: the largest and the smallest price leave nulls out. -/
def countOhlcViolations (frame : List (OhlcvRow F)) : Nat :=
  frame.countP fun row =>
    ([row.openPrice, row.closePrice, row.low].any fun price => below row.high price) ||
      [row.openPrice, row.closePrice, row.high].any fun price => below price row.low

def countInvalidPrices (frame : List (OhlcvRow F)) : Nat :=
  frame.countP fun row => row.prices.any fun price => isNull price || atMost price zero

def countNegativeVolume (frame : List (OhlcvRow F)) : Nat :=
  frame.countP fun row => below row.volume zero

/-- `_null_counts`, by column. -/
def ohlcvNullCounts (frame : List (OhlcvRow F)) : List Nat :=
  let count (column : OhlcvRow F → F) : Nat := frame.countP fun row => isNull (column row)
  [0, count (·.openPrice), count (·.high), count (·.low), count (·.closePrice), count (·.volume)]

end Counts

/-- `duplicated(keep=False).sum()`. -/
def countDuplicates (frame : List (OhlcvRow F)) : Nat :=
  frame.countP fun row => 1 < frame.countP (·.timestamp = row.timestamp)

end Frames

/-! ## The manifest -/

structure OhlcvRequest where
  datasetId : String
  dataset : String
  schema : String
  symbol : String
  timeframe : String
  adjustment : String
  deriving DecidableEq, Repr

inductive CacheStatus where
  | created
  | refreshed
  | fullReuse
  deriving DecidableEq, Repr

/-- The manifest, by its identity and the fields computed from the bars. -/
structure DatabentoManifest where
  identity : List (String × String)
  status : String
  sha256 : String
  sizeBytes : Nat
  rowCount : Nat
  requestedSessions : List String
  cacheStatus : CacheStatus
  previousManifestSha256 : String
  missingSessions : List String
  possibleMinuteCount : Nat
  missingMinutes : List Int
  duplicateCount : Nat
  invalidPriceCount : Nat
  negativeVolumeCount : Nat
  nullCounts : List Nat
  ohlcViolationCount : Nat
  monotonicIncreasing : Bool
  deriving DecidableEq, Repr

/-- The fields of `_read_existing_verified`, in its order. -/
def OhlcvRequest.expected (request : OhlcvRequest) : List (String × String) :=
  [("dataset_id", request.datasetId), ("provider", "databento"), ("dataset", request.dataset),
    ("schema", request.schema), ("symbol", request.symbol), ("timeframe", request.timeframe),
    ("adjustment", request.adjustment)]

section Manifest
variable {F : Type} [BarNumber F]

/-- `_build_manifest`; `resolved` says that the symbology named an instrument. -/
def buildDatabentoManifest (request : OhlcvRequest) (frame : List (OhlcvRow F))
    (schedule : List ExchangeSession) (resolved : Bool) (cacheStatus : CacheStatus)
    (previous : Option DatabentoManifest) : DatabentoManifest :=
  let missing := missingSessions frame schedule
  let nulls := ohlcvNullCounts frame
  let duplicates := countDuplicates frame
  let invalid := countInvalidPrices frame
  let negative := countNegativeVolume frame
  let violations := countOhlcViolations frame
  let increasing := isMonotonicIncreasing (frame.map (·.timestamp))
  let valid := decide (0 < frame.length) && missing.isEmpty && decide (duplicates = 0) &&
    decide (nulls.sum = 0) && decide (invalid = 0) && decide (negative = 0) &&
    decide (violations = 0) && increasing && resolved
  { identity := request.expected
    status := if valid then "validated" else "provisional"
    sha256 := ""
    sizeBytes := 0
    rowCount := frame.length
    requestedSessions := schedule.map ExchangeSession.label
    cacheStatus
    previousManifestSha256 := (previous.map DatabentoManifest.sha256).getD ""
    missingSessions := missing
    possibleMinuteCount := (expectedRegularMinutes schedule).length
    missingMinutes := (expectedRegularMinutes schedule).filter fun minute =>
      !(frame.map (·.timestamp)).contains minute
    duplicateCount := duplicates
    invalidPriceCount := invalid
    negativeVolumeCount := negative
    nullCounts := nulls
    ohlcViolationCount := violations
    monotonicIncreasing := increasing }

def DatabentoManifest.withDigest (manifest : DatabentoManifest) (sha : Sha256) (content : Content) :
    DatabentoManifest :=
  { manifest with sha256 := sha.hex content, sizeBytes := content.length }

end Manifest

/-! ## The store and one call -/

structure FrameCodec (F : Type) where
  write : List (OhlcvRow F) → Content
  read : Content → List (OhlcvRow F)
  read_write : ∀ frame, read (write frame) = frame

structure DatabentoStore where
  data : Option Content
  manifest : Option DatabentoManifest

inductive DatabentoError where
  | noCompletedSessions
  | vendorFailed
  | costLimit (estimated limit : Rat)
  | withoutManifest
  | manifestMismatch (field expected : String) (actual : Option String)
  | digestMismatch
  deriving DecidableEq

/-- A file operation of a call; the temporary files are not read by anyone. -/
inductive StoreOperation where
  | temporary
  | replaceData (content : Content)
  | replaceManifest (manifest : DatabentoManifest)

/-- A call, with what the calendar and the vendor answer; `none` where a request raises. -/
structure AcquireCall (F : Type) where
  sessions : List ExchangeSession
  now : Int
  maxCostUsd : Rat
  estimatedCost : Option Rat
  resolved : Option Bool
  answer : Option (List (OhlcvRow F))

/-- `completed_sessions_from_start`. -/
def completedSessions {F : Type} (call : AcquireCall F) :
    Except DatabentoError (List ExchangeSession) := do
  let completed := call.sessions.filter (·.marketClose ≤ call.now)
  raiseIf completed.isEmpty .noCompletedSessions
  .ok completed

section Acquire
variable {F : Type} (sha : Sha256) (codec : FrameCodec F) (request : OhlcvRequest)

/-- The first field in which a stored manifest differs from the request. -/
def manifestMismatch (manifest : DatabentoManifest) : Option DatabentoError :=
  (request.expected.find? fun field => manifest.identity.lookup field.1 ≠ some field.2).map
    fun field => .manifestMismatch field.1 field.2 (manifest.identity.lookup field.1)

def readExistingVerified (store : DatabentoStore) :
    Except DatabentoError (List (OhlcvRow F) × Option DatabentoManifest) :=
  match store.data, store.manifest with
  | none, _ => .ok ([], none)
  | some _, none => .error .withoutManifest
  | some content, some manifest =>
      match manifestMismatch request manifest with
      | some mismatch => .error mismatch
      | none =>
          if sha.hex content ≠ manifest.sha256 then .error .digestMismatch
          else .ok (sortByTimestamp (codec.read content), some manifest)

variable [BarNumber F]

/-- `acquire_from_start` up to the file operations it takes. -/
def acquireFromStart (call : AcquireCall F) (store : DatabentoStore) :
    Except DatabentoError (List StoreOperation) := do
  let schedule ← completedSessions call
  let cost ← orRaise call.estimatedCost .vendorFailed
  raiseIf (decide (call.maxCostUsd ≤ cost)) (.costLimit cost call.maxCostUsd)
  let (existing, previous) ← readExistingVerified sha codec request store
  if coversSchedule existing schedule then do
    let resolved ← orRaise call.resolved .vendorFailed
    let manifest :=
      buildDatabentoManifest request existing schedule resolved .fullReuse previous
    .ok [.temporary, .replaceManifest (manifest.withDigest sha (store.data.getD []))]
  else do
    let raw ← orRaise call.answer .vendorFailed
    let frame := coverageForSchedule schedule (sortByTimestamp raw)
    let resolved ← orRaise call.resolved .vendorFailed
    let manifest := buildDatabentoManifest request frame schedule resolved
      (if existing.isEmpty then .created else .refreshed) previous
    let content := codec.write frame
    -- the manifest is written without a digest first
    .ok [.temporary, .replaceData content, .temporary, .replaceManifest manifest, .temporary,
      .replaceManifest (manifest.withDigest sha content)]

def DatabentoStore.apply (store : DatabentoStore) : StoreOperation → DatabentoStore
  | .temporary => store
  | .replaceData content => { store with data := some content }
  | .replaceManifest manifest => { store with manifest := some manifest }

/-- A call, and the number of file operations after which the process ends, if it does. -/
structure AcquireEvent (F : Type) where
  call : AcquireCall F
  exitAfter : Option Nat

def acquireStep (store : DatabentoStore) (event : AcquireEvent F) : DatabentoStore :=
  match acquireFromStart sha codec request event.call store with
  | .error _ => store
  | .ok operations =>
      ((event.exitAfter.map operations.take).getD operations).foldl DatabentoStore.apply store

end Acquire

end QuantFactory.MarketData
