import Mathlib
import QuantFactory.Library.Outcome
import QuantFactory.Library.SortedSearch

/-!
# Chart bars and trade markers

`dashboard/results_model.py`: the saved price rows are checked, put together to bars of a
wider interval, and the events of the trades are placed on these bars.  A time is its
microseconds since the epoch, in UTC.  Prices are finite numbers in their order.
-/

set_option autoImplicit false

namespace QuantFactory.Dashboard

open QuantFactory.Library

/-- `SUPPORTED_INTERVALS`, the widths in seconds. -/
def supportedIntervals : List (String × Int) :=
  [("1m", 60), ("5m", 300), ("15m", 900), ("1h", 3600), ("1D", 86400)]

def microsPerSecond : Nat := 1000000

/-! ## Epoch buckets -/

/-- The nearest whole number to `a / b`, the even one of two. -/
def roundHalfEven (a b : Nat) : Nat :=
  if 2 * (a % b) < b then a / b
  else if b < 2 * (a % b) then a / b + 1
  else if a / b % 2 = 0 then a / b else a / b + 1

/-- `int(micros / 10**6)`: the quotient is a double, with 53 bits from the first of its
whole part on.  Below one second it stays below one. -/
def truncatedSeconds (micros : Nat) : Nat :=
  let whole := micros / microsPerSecond
  if whole = 0 then 0
  else
    let scale := 2 ^ (52 - Nat.log2 whole)
    roundHalfEven (micros * scale) microsPerSecond / scale

/-- `int(timestamp.timestamp())`, towards zero. -/
def epochSeconds (timestamp : Int) : Int :=
  if 0 ≤ timestamp then truncatedSeconds timestamp.natAbs
  else -(truncatedSeconds timestamp.natAbs : Int)

/-- The time `_bucket_start` computes, for a width in seconds. -/
def bucketStart (timestamp width : Int) : Int :=
  (epochSeconds timestamp - epochSeconds timestamp % width) * microsPerSecond

/-! ## Saved price rows -/

inductive ResultsError where
  | resultsDataError (code reason : String)
  | overflowError (message : String)
  | valueError (message : String)
  deriving DecidableEq, Repr

/-- The first microsecond that no `datetime` has. -/
def pastYear9999 : Int := 253402300800000000

/-- `_bucket_start`, whose `fromtimestamp` raises past the year 9999. -/
def checkedBucketStart (timestamp width : Int) : Except ResultsError Int := do
  raiseIf (decide (pastYear9999 ≤ bucketStart timestamp width))
    (.valueError "year 10000 is out of range")
  .ok (bucketStart timestamp width)

/-- What a row has under `timestamp`. -/
inductive TimestampField where
  | notTimestamp
  | unreadable
  | withoutZone
  | beyondRange
  | aware (micros : Int)

inductive NumberField (F : Type) where
  | notNumber
  | tooLarge
  | notFinite
  | finite (number : F)

inductive OhlcRow (F : Type) where
  | notMapping
  | mapping (timestamp : TimestampField) (opened high low close : NumberField F)

structure OhlcBar (F : Type) where
  timestamp : Int
  «open» : F
  high : F
  low : F
  close : F
  sourceCount : Nat
  deriving DecidableEq

def awareTimestamp (value : TimestampField) (field : String) : Except ResultsError Int :=
  match value with
  | .notTimestamp => .error (.resultsDataError "invalid_timestamp"
      (field ++ " must be a timezone-aware timestamp."))
  | .unreadable => .error (.resultsDataError "invalid_timestamp"
      (field ++ " is not a valid ISO-8601 timestamp."))
  | .withoutZone => .error (.resultsDataError "timezone_required"
      (field ++ " must include a timezone offset."))
  | .beyondRange => .error (.overflowError "date value out of range")
  | .aware micros => .ok micros

section Rows
variable {F : Type}

def finiteNumber (value : NumberField F) (field : String) : Except ResultsError F :=
  match value with
  | .notNumber => .error (.resultsDataError "invalid_number" (field ++ " must be a finite number."))
  | .tooLarge => .error (.overflowError "int too large to convert to float")
  | .notFinite => .error (.resultsDataError "nonfinite_number" (field ++ " must be finite."))
  | .finite number => .ok number

variable [LinearOrder F]

/-- The body of the loop of `validate_ohlc_rows`, with the timestamp and the bucket before. -/
def validateRow (sourceInterval : String) (sourceWidth : Int) (index : Nat)
    (previous : Option (Int × Int)) (row : OhlcRow F) : Except ResultsError (OhlcBar F) :=
  let name := s!"OHLC row {index}"
  match row with
  | .notMapping => .error (.resultsDataError "invalid_row" (name ++ " must be an object."))
  | .mapping timestamp opened high low close => do
      let timestamp ← awareTimestamp timestamp (name ++ " timestamp")
      let relationship :=
        if previous.map Prod.fst = some timestamp then "duplicates" else "is out of order"
      raiseIf (previous.any fun (before, _) => decide (timestamp ≤ before))
        (.resultsDataError "unordered_timestamp"
          (name ++ " " ++ relationship ++ "; timestamps must be unique and increasing."))
      let sourceBucket ← checkedBucketStart timestamp sourceWidth
      raiseIf (previous.any fun (_, bucket) => decide (sourceBucket = bucket))
        (.resultsDataError "duplicate_source_bucket"
          (name ++ " duplicates the preceding " ++ sourceInterval ++ " UTC epoch-left bucket."))
      raiseIf (decide (timestamp ≠ sourceBucket))
        (.resultsDataError "misaligned_source_bar"
          (name ++ " is not aligned to its " ++ sourceInterval ++ " UTC epoch-left bucket."))
      let opened ← finiteNumber opened (name ++ " open")
      let high ← finiteNumber high (name ++ " high")
      let low ← finiteNumber low (name ++ " low")
      let close ← finiteNumber close (name ++ " close")
      raiseIf (decide (high < max (max opened close) low))
        (.resultsDataError "inconsistent_ohlc" (name ++ " high is below another recorded price."))
      raiseIf (decide (min (min opened close) high < low))
        (.resultsDataError "inconsistent_ohlc" (name ++ " low is above another recorded price."))
      .ok ⟨timestamp, opened, high, low, close, 1⟩

/-- The loop of `validate_ohlc_rows`. -/
def validateRows (sourceInterval : String) (sourceWidth : Int) :
    Nat → Option (Int × Int) → List (OhlcRow F) → Except ResultsError (List (OhlcBar F))
  | _, _, [] => .ok []
  | index, previous, row :: rest => do
      let bar ← validateRow sourceInterval sourceWidth index previous row
      let previous := some (bar.timestamp, bucketStart bar.timestamp sourceWidth)
      let others ← validateRows sourceInterval sourceWidth (index + 1) previous rest
      .ok (bar :: others)

/-- `validate_ohlc_rows`; `repr` is Python's. -/
def validateOhlcRows (repr : Option String → String) (rows : List (OhlcRow F))
    (sourceInterval : String) : Except ResultsError (List (OhlcBar F)) :=
  match supportedIntervals.lookup sourceInterval with
  | none => .error (.resultsDataError "unsupported_source_interval"
      ("Source bars interval " ++ repr (some sourceInterval) ++ " is not supported."))
  | some sourceWidth => validateRows sourceInterval sourceWidth 0 none rows

/-! ## Bars of an interval -/

structure IntervalBars (F : Type) where
  interval : String
  bars : List (OhlcBar F)
  available : Bool
  reason : Option String
  deriving DecidableEq

/-- The local variables of the loop of `prepare_interval`. -/
structure Aggregation (F : Type) where
  aggregated : List (OhlcBar F)
  bucket : Option Int
  bucketRows : List (OhlcBar F)

/-- The bar that `append_bucket` makes of rows. -/
def bucketBar (bucket : Int) (first : OhlcBar F) (rest : List (OhlcBar F)) : OhlcBar F where
  timestamp := bucket
  «open» := first.open
  high := rest.foldl (fun high row => max high row.high) first.high
  low := rest.foldl (fun low row => min low row.low) first.low
  close := (rest.getLastD first).close
  sourceCount := ((first :: rest).map OhlcBar.sourceCount).sum

def Aggregation.appendBucket (state : Aggregation F) : Aggregation F :=
  match state.bucket, state.bucketRows with
  | some bucket, first :: rest =>
      { state with aggregated := state.aggregated ++ [bucketBar bucket first rest] }
  | _, _ => state

def Aggregation.read (width : Int) (state : Aggregation F) (row : OhlcBar F) : Aggregation F :=
  let rowBucket := bucketStart row.timestamp width
  let state :=
    if state.bucket.any fun bucket => decide (rowBucket ≠ bucket) then
      { state.appendBucket with bucketRows := [] }
    else state
  { state with bucket := some rowBucket, bucketRows := state.bucketRows ++ [row] }

def aggregate (width : Int) (source : List (OhlcBar F)) : List (OhlcBar F) :=
  (source.foldl (Aggregation.read width) ⟨[], none, []⟩).appendBucket.aggregated

def unavailableBars (interval reason : String) : IntervalBars F :=
  ⟨interval, [], false, some reason⟩

def prepareInterval (repr : Option String → String) (rows : List (OhlcRow F)) (interval : String)
    (sourceInterval : Option String) : Except ResultsError (IntervalBars F) :=
  match supportedIntervals.lookup interval with
  | none => .ok (unavailableBars interval
      ("Bars interval " ++ repr (some interval) ++ " is not supported."))
  | some targetWidth =>
      match sourceInterval.bind fun name => (supportedIntervals.lookup name).map (name, ·) with
      | none => .ok (unavailableBars interval
          ("Bars interval " ++ interval ++ " is unavailable because truthful aggregation " ++
            "does not support persisted source interval " ++ repr sourceInterval ++ "."))
      | some (sourceInterval, sourceWidth) =>
          if targetWidth < sourceWidth then
            .ok (unavailableBars interval
              ("Bars interval " ++ interval ++ " is finer than the persisted " ++ sourceInterval ++
                " source; finer bars cannot be fabricated."))
          else do
            let source ← validateOhlcRows repr rows sourceInterval
            if source.isEmpty then
              .ok (unavailableBars interval "No price chart was saved for this run.")
            else if interval = sourceInterval then
              .ok ⟨interval, source, true, none⟩
            else
              .ok ⟨interval, aggregate targetWidth source, true, none⟩

end Rows

/-! ## Trade markers -/

/-- An event whose time is a `datetime` in UTC. -/
structure TradeEvent (F : Type) where
  tradeId : String
  leg : String
  timestamp : Int
  price : F
  fromYearOne : -62135596800000000 ≤ timestamp
  toYear9999 : timestamp < pastYear9999

structure EventBarMapping (F : Type) where
  event : TradeEvent F
  interval : String
  barTimestamp : Option Int
  available : Bool
  reason : Option String

def mapEventToBar {F : Type} (repr : Option String → String) (event : TradeEvent F)
    (intervalBars : IntervalBars F) : Except ResultsError (EventBarMapping F) :=
  if intervalBars.available = false then
    .ok ⟨event, intervalBars.interval, none, false,
      some ((intervalBars.reason.filter (· ≠ "")).getD "The selected bars are unavailable.")⟩
  else
    match supportedIntervals.lookup intervalBars.interval with
    | none => .ok ⟨event, intervalBars.interval, none, false,
        some ("Bars interval " ++ repr (some intervalBars.interval) ++ " is not supported.")⟩
    | some width => do
        let containingTimestamp ← checkedBucketStart event.timestamp width
        let position := bisectLeft (intervalBars.bars.map OhlcBar.timestamp) containingTimestamp
        if (intervalBars.bars[position]?).map OhlcBar.timestamp = some containingTimestamp then
          .ok ⟨event, intervalBars.interval, some containingTimestamp, true, none⟩
        else
          .ok ⟨event, intervalBars.interval, none, false,
            some ("The persisted trade event falls in a bucket with no persisted OHLC bar; " ++
              "no marker position was fabricated.")⟩

end QuantFactory.Dashboard
