import Mathlib.Data.Option.NAry
import QuantFactory.Library.ArrayIndexing
import QuantFactory.Library.Chunks
import QuantFactory.Library.OrderStatistics
import QuantFactory.Library.Outcome
import QuantFactory.MarketData.Bars

/-!
# Suspect bars

The outlier rule of `market_data/bar_outliers.py`, computed for all New York dates at once:
rank filters over the whole column where a window lies inside its date, medians of gathered
windows where it touches an edge of the date.  `none` is NaN.
-/

set_option autoImplicit false

namespace QuantFactory.MarketData

open QuantFactory.Library

inductive SuspectBarError where
  | valueError (message : String)
  | rankFilter (message : String)
  deriving DecidableEq, Repr

/-- The float arithmetic on finite prices and on what is computed from them. -/
structure PriceArithmetic (F : Type) where
  /-- `(a + b) / 2`. -/
  middle : F → F → F
  /-- `np.abs(a - b)`. -/
  distance : F → F → F
  /-- `MAD_CONSTANT * a`. -/
  scaled : F → F
  minMad : F
  /-- `a * b`, none when it is NaN. -/
  times : F → F → Option F

structure OutlierLibrary (F : Type) where
  /-- `rank_filter(values, rank, size=size, mode="nearest", origin=origin)`. -/
  rankFilter : List F → Int → Int → Int → Except String (List F)
  /-- The median of one group of `groupby(...).transform("median")`. -/
  groupMedian : List F → F

def edgeBatchRows : Nat := 10000

def arange (start stop : Int) : List Int :=
  (List.range (stop - start).toNat).map fun step : Nat => start + step

/-- `np.fmin`, which ignores a NaN beside a number. -/
def fmin {F : Type} [LinearOrder F] : Option F → Option F → Option F
  | some a, some b => some (min a b)
  | some a, none => some a
  | none, b => b

section Edges
variable {F : Type} [LinearOrder F] (arithmetic : PriceArithmetic F)

/-- What one row gathers: a position outside `[first, stop)` becomes NaN. -/
def pickedValues (values : List F) (offsets : List Int) (first stop : List Nat) (row : Nat) :
    List (Option F) :=
  offsets.map fun offset =>
    let index := (row : Int) + offset
    if (first.getD row 0 : Int) ≤ index ∧ index < (stop.getD row 0 : Int) then
      values[(max 0 (min index ((values.length : Int) - 1))).toNat]?
    else none

def middleOfPicked (picked : List (Option F)) : Option F :=
  let ordered := ascendingMissingLast picked
  let valid := (picked.filter Option.isSome).length
  if valid = 0 then none
  else Option.map₂ arithmetic.middle (ordered.getD ((valid - 1) / 2) none)
    (ordered.getD (valid / 2) none)

/-- `_edge_medians`, batch after batch. -/
def edgeMedians (batchRows : Nat) (values : List F) (rows : List Nat) (offsets : List Int)
    (first stop : List Nat) : List (Option F) :=
  (slices batchRows rows).flatMap fun part =>
    part.map fun row => middleOfPicked arithmetic (pickedValues values offsets first stop row)

end Edges

section Criterion
variable {F : Type} [LinearOrder F] (arithmetic : PriceArithmetic F) (batchRows : Nat)
  (values : List F) (first stop : List Nat) (window : Nat)

/-- The rows of a mask, `position[mask]`. -/
def rowsWhere (count : Nat) (mask : Nat → Bool) : List Nat := (List.range count).filter mask

def centreEdge (row : Nat) : Bool :=
  !(decide (first.getD row 0 + window / 2 ≤ row) && decide (row + window / 2 < stop.getD row 0))

def trailEdge (row : Nat) : Bool := !decide (first.getD row 0 + window ≤ row)

/-- The last `window` rows of a date without its last row. -/
def quirkRow (row : Nat) : Bool :=
  decide (max (stop.getD row 0 - window) (first.getD row 0) ≤ row) &&
    decide (row + 1 < stop.getD row 0)

def lastRow (row : Nat) : Bool := decide (row + 1 = stop.getD row 0)

def centreMedians (low high : List F) : List (Option F) :=
  let interior := (values.zip (low.zip high)).map fun (value, low, high) =>
    some (if value ≤ low then high else low)
  let rows := rowsWhere values.length (centreEdge first stop window)
  let offsets := (arange (-(window / 2 : Nat)) ((window / 2 : Nat) + 1)).eraseIdx (window / 2)
  scatter interior rows (edgeMedians arithmetic batchRows values rows offsets first stop)

/-- The median of the `window` preceding values. -/
def trailMedians (lower : List F) : List (Option F) :=
  let shifted := (none :: lower.map some).take values.length
  let rows := rowsWhere values.length (trailEdge first window)
  scatter shifted rows
    (edgeMedians arithmetic batchRows values rows (arange (-(window : Int)) 0) first stop)

/-- The median of the `window` following values; the last `window` rows of a date reach back
and hold the value itself, and its last row has none. -/
def followMedians (lower : List F) : List (Option F) :=
  let shifted :=
    if window < values.length then
      (lower.drop window).map some ++ List.replicate window none
    else List.replicate values.length none
  let quirk := rowsWhere values.length (quirkRow first stop window)
  let medians := scatter shifted quirk
    (edgeMedians arithmetic batchRows values quirk (arange (-(window : Int)) window) first stop)
  let last := rowsWhere values.length (lastRow stop)
  scatter medians last (last.map fun _ => none)

/-- The smallest of the three distances, NaN only when every median is. -/
def nearestDistances (low high lower : List F) : List (Option F) :=
  (values.zip ((centreMedians arithmetic batchRows values first stop window low high).zip
      ((trailMedians arithmetic batchRows values first stop window lower).zip
        (followMedians arithmetic batchRows values first stop window lower)))).map
    fun (value, centre, trail, follow) =>
      fmin (fmin (centre.map (arithmetic.distance value)) (trail.map (arithmetic.distance value)))
        (follow.map (arithmetic.distance value))

end Criterion

section Flags
variable {F : Type} [LinearOrder F] (library : OutlierLibrary F) (arithmetic : PriceArithmetic F)
  (batchRows : Nat)

/-- `_criterion`.  A rank filter of no positive size raises, so the window is positive after
the three calls. -/
def criterion (values : List F) (first stop : List Nat) (window : Int) :
    Except SuspectBarError (List (Option F)) := do
  let half := window / 2
  let low ← (library.rankFilter values (half - 1) (window + 1) 0).mapError .rankFilter
  let high ← (library.rankFilter values half (window + 1) 0).mapError .rankFilter
  let lower ←
    (library.rankFilter values ((window - 1) / 2) window (window / 2 - 1)).mapError .rankFilter
  .ok (nearestDistances arithmetic batchRows values first stop window.toNat low high lower)

/-- `groupby(labels).transform("median")`. -/
def groupTransform (labels : List Nat) (values : List F) : List F :=
  (labels.zip values).map fun entry =>
    library.groupMedian
      (((labels.zip values).filter fun other => decide (other.1 = entry.1)).map Prod.snd)

/-- `criterion >= maxi * mad`, false beside a NaN. -/
def reaches (maxi : F) (criterion : Option F) (mad : F) : Bool :=
  match criterion, arithmetic.times maxi mad with
  | some criterion, some threshold => decide (threshold ≤ criterion)
  | _, _ => false

def flagColumn (values : List F) (bounds : List Nat) (window : Int) (maxi : F) :
    Except SuspectBarError (List Bool) := do
  let sizes := differences bounds
  let first := repeated bounds.dropLast sizes
  let stop := repeated bounds.tail sizes
  let date := repeated (List.range sizes.length) sizes
  let deviation := List.zipWith arithmetic.distance values (groupTransform library date values)
  let mad := (groupTransform library date deviation).map fun median =>
    max (arithmetic.scaled median) arithmetic.minMad
  let criterion ← criterion library arithmetic batchRows values first stop window
  .ok (List.zipWith (reaches arithmetic maxi) criterion mad)

/-- `SUSPECT_COLUMNS` with the column of each. -/
def suspectColumns : List (String × (RawBar F → F)) :=
  [("high", RawBar.high), ("low", RawBar.low), ("close", RawBar.closePrice)]

/-- `np.logical_or.reduce`. -/
def logicalOrReduce : List (List Bool) → List Bool
  | [] => []
  | flags :: rest => rest.foldl (List.zipWith (· || ·)) flags

structure SuspectBars where
  flags : List Bool
  counts : List (String × Nat)
  deriving DecidableEq, Repr

/-- `(order == np.arange(len(order))).all()`. -/
def inOrder (order : List Nat) : Bool := order == List.range order.length

/-- The flags of one price column, computed in timestamp order and put back. -/
def columnFlags (bars : List (RawBar F)) (order bounds : List Nat) (window : Int) (maxi : F)
    (price : RawBar F → F) : Except SuspectBarError (List Bool) := do
  let values := bars.map price
  let values := if inOrder order then values else taken values order
  let flags ← flagColumn library arithmetic batchRows values bounds window maxi
  .ok (if inOrder order then flags else taken flags (argsort order))

/-- `flag_suspect_bars`; `newYorkDate` is the calendar date of a timestamp. -/
def flagSuspectBars (newYorkDate : Int → Int) (bars : List (RawBar F)) (window : Int) (maxi : F) :
    Except SuspectBarError SuspectBars := do
  raiseIf (window % 2 != 0) (.valueError "window must be even (as in the source)")
  let columns := (suspectColumns (F := F)).map Prod.fst
  if bars.isEmpty then
    .ok ⟨[], columns.map (fun column => (column, 0)) ++ [("any", 0)]⟩
  else
    let order := argsort (bars.map RawBar.timestamp)
    let days := bars.map fun bar => newYorkDate bar.timestamp
    let bounds := blockBounds (if inOrder order then days else taken days order)
    let perColumn ← collect (fun column =>
      columnFlags library arithmetic batchRows bars order bounds window maxi column.2)
        suspectColumns
    let combined := logicalOrReduce perColumn
    .ok ⟨combined,
      columns.zip (perColumn.map (·.count true)) ++ [("any", combined.count true)]⟩

end Flags

end QuantFactory.MarketData
