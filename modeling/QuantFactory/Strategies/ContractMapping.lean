import Mathlib.Data.List.Sort
import QuantFactory.Library.AdjacentIntervals
import QuantFactory.Python.Equality
import QuantFactory.Python.Text
import QuantFactory.Strategies.SessionScan

/-!
# The contract mapping of the overnight-gap reversal

`normalize_mes_mapping` of `strategies/mes_overnight_gap_reversal.py`: a symbology response
becomes the intervals `[d0, d1)` in which one instrument stands for the continuous contract.
A date is its ordinal.
-/

set_option autoImplicit false

namespace QuantFactory.Strategies

open QuantFactory.Library QuantFactory.Python

structure MappingInterval where
  startDate : Int
  endDateExclusive : Int
  instrumentId : String
  deriving DecidableEq, Repr

def MappingInterval.contains (interval : MappingInterval) (sessionDate : Int) : Bool :=
  decide (interval.startDate ≤ sessionDate) && decide (sessionDate < interval.endDateExclusive)

/-- The order of the dataclass: by the two dates, then by the text of the instrument. -/
def MappingInterval.before (a b : MappingInterval) : Prop :=
  a.startDate < b.startDate ∨ a.startDate = b.startDate ∧
    (a.endDateExclusive < b.endDateExclusive ∨ a.endDateExclusive = b.endDateExclusive ∧
      a.instrumentId ≤ b.instrumentId)

instance : DecidableRel MappingInterval.before := fun _ _ =>
  inferInstanceAs (Decidable (_ ∨ _ ∧ (_ ∨ _ ∧ _)))

structure MappingReaders (F : Type) where
  /-- `date.fromisoformat(str(value))`. -/
  isoDate : PyValue F → Option Int
  /-- `int(text)` of a text of decimal characters. -/
  decimal : String → Option Nat

section Mapping
variable {F : Type} [PyNumber F] (readers : MappingReaders F)

/-- `mapping.get(key)`. -/
def entry (document : Entries F) (key : String) : PyValue F :=
  (document.lookup key).getD .none

def parseDate (value : PyValue F) (label : String) : Except StrategyError Int :=
  orRaise (readers.isoDate value) (.valueError ("MES mapping " ++ label ++ " must be an ISO date"))

/-- The stripped text of an instrument given as a text or an integer. -/
def instrumentText : PyValue F → Except StrategyError String
  | .str text => .ok (strip text)
  | .int number => .ok (toString number)
  | _ => .error (.valueError "MES mapping interval has an invalid instrument ID")

def mappingInterval (item : PyValue F) : Except StrategyError MappingInterval :=
  match item with
  | .dict item => do
      let start ← parseDate readers (entry item "d0") "d0"
      let endExclusive ← parseDate readers (entry item "d1") "d1"
      let instrumentId ← instrumentText (entry item "s")
      raiseIf (decide (endExclusive ≤ start))
        (.valueError "MES mapping interval must have a positive [d0, d1) span")
      raiseIf (decide ((readers.decimal instrumentId).getD 0 = 0))
        (.valueError "MES mapping interval has an invalid instrument ID")
      .ok ⟨start, endExclusive, instrumentId⟩
  | _ => .error (.valueError "MES.c.0 mapping interval must be an object")

def checkAdjoining (pair : MappingInterval × MappingInterval) : Except StrategyError Unit := do
  raiseIf (decide (pair.2.startDate < pair.1.endDateExclusive))
    (.valueError "MES mapping intervals overlap")
  raiseIf (decide (pair.1.endDateExclusive < pair.2.startDate))
    (.valueError "MES mapping intervals have incomplete calendar coverage")

/-- The first interval begins by the start of the coverage and the last one reaches its end. -/
def coversBoundary (coverageStart coverageEndExclusive : Int) (intervals : List MappingInterval) :
    Bool :=
  intervals.head?.any (fun first => decide (first.startDate ≤ coverageStart)) &&
    intervals.getLast?.any fun last => decide (coverageEndExclusive ≤ last.endDateExclusive)

def normalizeMesMapping (response : PyValue F) (coverageStart coverageEndExclusive : Int) :
    Except StrategyError (List MappingInterval) :=
  match response with
  | .dict response => do
      raiseIf (!pyEq (entry response "status") (.int 0) || !pyEq (entry response "message") (.str "OK"))
        (.valueError "MES symbology response must have status 0 and message OK")
      raiseIf (!pyEq (entry response "partial") (.list []))
        (.valueError "MES symbology response contains partial intervals")
      raiseIf (!pyEq (entry response "not_found") (.list []))
        (.valueError "MES symbology response contains not-found intervals")
      match entry response "result" with
      | .dict result =>
          match entry result "MES.c.0" with
          | .list rawIntervals => do
              let parsed ← collect (mappingInterval readers) rawIntervals
              let intervals := parsed.insertionSort MappingInterval.before
              raiseIf intervals.isEmpty (.valueError "MES.c.0 symbology resolution is empty")
              let _ ← collect checkAdjoining (intervals.zip intervals.tail)
              raiseIf (!coversBoundary coverageStart coverageEndExclusive intervals)
                (.valueError "MES mapping intervals do not cover the development boundary")
              .ok intervals
          | _ => .error (.valueError "MES.c.0 symbology intervals are missing")
      | _ => .error (.valueError "MES symbology response result is missing")
  | _ => .error (.typeError "MES symbology response must be a mapping")

/-- `_mapping_for_date`; the message leaves the date out. -/
def mappingForDate (intervals : List MappingInterval) (sessionDate : Int) :
    Except StrategyError MappingInterval :=
  match intervals.filter fun interval => interval.contains sessionDate with
  | [interval] => .ok interval
  | _ => .error (.runtimeError "complete MES mapping does not identify exactly one interval")

end Mapping

/-- The dates from the first interval's start to the last one's end. -/
def MappedDate (intervals : List MappingInterval) (sessionDate : Int) : Prop :=
  Spanned MappingInterval.startDate MappingInterval.endDateExclusive intervals sessionDate

section Coverage
variable {F : Type} [PyNumber F] {readers : MappingReaders F}

omit [PyNumber F] in
theorem positive_of_mappingInterval {item : PyValue F} {interval : MappingInterval}
    (ok : mappingInterval readers item = .ok interval) :
    interval.startDate < interval.endDateExclusive := by
  cases item with
  | dict item =>
      obtain ⟨start, -, ok⟩ := bind_eq_ok.mp ok
      obtain ⟨endExclusive, -, ok⟩ := bind_eq_ok.mp ok
      obtain ⟨instrumentId, -, ok⟩ := bind_eq_ok.mp ok
      obtain ⟨positive, ok⟩ := raiseIf_bind_eq_ok.mp ok
      obtain ⟨-, ok⟩ := raiseIf_bind_eq_ok.mp ok
      rw [← Except.ok.inj ok]
      simpa using positive
  | _ => cases ok

theorem adjoining_of_checked {pair : MappingInterval × MappingInterval}
    (ok : checkAdjoining pair = .ok ()) : pair.2.startDate = pair.1.endDateExclusive := by
  obtain ⟨noOverlap, ok⟩ := raiseIf_bind_eq_ok.mp ok
  have noGap := raiseIf_eq_ok.mp ok
  simp only [decide_eq_false_iff_not] at noOverlap noGap
  omega

/-- The intervals of an accepted response meet end to end and span the coverage. -/
theorem normalizeMesMapping_ok {response : PyValue F} {coverageStart coverageEndExclusive : Int}
    {intervals : List MappingInterval}
    (ok : normalizeMesMapping readers response coverageStart coverageEndExclusive = .ok intervals) :
    Adjacent MappingInterval.startDate MappingInterval.endDateExclusive intervals ∧
      ∀ sessionDate, coverageStart ≤ sessionDate → sessionDate < coverageEndExclusive →
        MappedDate intervals sessionDate := by
  unfold normalizeMesMapping at ok
  split at ok
  · obtain ⟨-, ok⟩ := raiseIf_bind_eq_ok.mp ok
    obtain ⟨-, ok⟩ := raiseIf_bind_eq_ok.mp ok
    obtain ⟨-, ok⟩ := raiseIf_bind_eq_ok.mp ok
    split at ok
    · split at ok
      · obtain ⟨parsed, collected, ok⟩ := bind_eq_ok.mp ok
        obtain ⟨-, ok⟩ := raiseIf_bind_eq_ok.mp ok
        obtain ⟨checks, checked, ok⟩ := bind_eq_ok.mp ok
        obtain ⟨covers, ok⟩ := raiseIf_bind_eq_ok.mp ok
        rw [← Except.ok.inj ok]
        refine ⟨⟨?_, ?_⟩, ?_⟩
        · intro interval member
          have inParsed : interval ∈ parsed := (List.perm_insertionSort _ _).mem_iff.mp member
          obtain ⟨position, within, here⟩ := List.getElem_of_mem inParsed
          have pairs := collect_eq_ok.mp collected
          have answered := (List.forall₂_iff_get.mp pairs).2 position
            (by rwa [pairs.length_eq]) within
          rw [List.get_eq_getElem, List.get_eq_getElem, here] at answered
          exact positive_of_mappingInterval answered
        · intro pair member
          obtain ⟨position, within, here⟩ := List.getElem_of_mem member
          obtain ⟨answer, -, answered⟩ :=
            collect_getElem? checked (List.getElem?_eq_some_iff.mpr ⟨within, here⟩)
          exact adjoining_of_checked answered
        · intro sessionDate begun before
          simp only [coversBoundary, Bool.not_eq_false', Bool.and_eq_true, Option.any_eq_true,
            decide_eq_true_eq] at covers
          obtain ⟨⟨first, isFirst, early⟩, last, isLast, late⟩ := covers
          exact ⟨⟨first, isFirst, early.trans begun⟩, last, isLast, before.trans_le late⟩
      · cases ok
    · cases ok
  · cases ok

variable {intervals : List MappingInterval}
  (adjacent : Adjacent MappingInterval.startDate MappingInterval.endDateExclusive intervals)

include adjacent in
theorem mappingForDate_of_mapped {sessionDate : Int} (mapped : MappedDate intervals sessionDate) :
    ∃ interval, intervals.filter (fun item => item.contains sessionDate) = [interval] ∧
      mappingForDate intervals sessionDate = .ok interval := by
  obtain ⟨interval, single⟩ := adjacent.exactly_one mapped
  refine ⟨interval, single, ?_⟩
  have matched : intervals.filter (fun item => item.contains sessionDate) = [interval] := single
  rw [mappingForDate, matched]

end Coverage

theorem mappingForDate_mem {intervals : List MappingInterval} {sessionDate : Int}
    {interval : MappingInterval} (ok : mappingForDate intervals sessionDate = .ok interval) :
    interval ∈ intervals ∧ interval.contains sessionDate = true ∧
      ∀ other ∈ intervals, other.contains sessionDate = true → other = interval := by
  unfold mappingForDate at ok
  split at ok
  · rename_i only matched
    rw [← Except.ok.inj ok]
    have member : only ∈ intervals.filter fun item => item.contains sessionDate := by
      rw [matched]
      exact List.mem_singleton_self _
    obtain ⟨inIntervals, contains⟩ := List.mem_filter.mp member
    refine ⟨inIntervals, contains, fun other otherMember holds => ?_⟩
    have among : other ∈ intervals.filter fun item => item.contains sessionDate :=
      List.mem_filter.mpr ⟨otherMember, holds⟩
    rw [matched] at among
    exact List.mem_singleton.mp among
  · cases ok

end QuantFactory.Strategies
