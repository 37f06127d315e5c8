import Mathlib
import QuantFactory.RuleStrategy.CausalRules
import QuantFactory.RuleStrategy.IndexWrites

/-!
# What the signals hold

The arrays of one setting's signals bar by bar, from the sides, the distances and the
exit conditions they are written from.
-/

set_option autoImplicit false

namespace QuantFactory.RuleStrategy

open QuantFactory.Library QuantFactory.Python QuantFactory.RuleLanguage

variable {F : Type}

/-! ## Known arrays -/

def Masks (rows columns : Nat) (f : Nat → Nat → Bool) (a : NdArray F) : Prop :=
  ∃ g, a = ⟨rows, columns, .bools g⟩ ∧ ∀ r c, r < rows → c < columns → g r c = f r c

def Values (rows columns : Nat) (f : Nat → Nat → F) (a : NdArray F) : Prop :=
  ∃ g, a = ⟨rows, columns, .floats g⟩ ∧ ∀ r c, r < rows → c < columns → g r c = f r c

section Calls
variable {rows columns : Nat} {f g : Nat → Nat → Bool} {values : Nat → Nat → F} {a b : NdArray F}
  {allowed : EvaluationError → Prop}

theorem stretched_lt {n m i : Nat} (covered : m = n ∨ m = 1) (inside : i < n) :
    stretched m i < m := by
  unfold stretched
  split_ifs with one
  · omega
  · rcases covered with rfl | rfl
    · exact inside
    · exact absurd rfl one

/-- A function of two masks, the first of which is stretched over the second. -/
theorem onBools_left_yields (op : Bool → Bool → Bool) {small narrow : Nat}
    (coversRows : small = rows ∨ small = 1) (coversColumns : narrow = columns ∨ narrow = 1)
    (first : Masks small narrow f a) (second : Masks rows columns g b) :
    Yields allowed (Masks rows columns fun r c =>
      op (f (stretched small r) (stretched narrow c)) (g r c)) (onBools op a b) := by
  obtain ⟨f', rfl, same⟩ := first
  obtain ⟨g', rfl, same'⟩ := second
  simp only [onBools, NdArray.bools?, broadcastShape, broadcastAxis_covering coversRows,
    broadcastAxis_covering coversColumns, bind_ok]
  refine ⟨_, rfl, fun r c inRows inColumns => ?_⟩
  simp only [pointwise, stretched_of_lt inRows, stretched_of_lt inColumns, same' r c inRows inColumns,
    same _ _ (stretched_lt coversRows inRows) (stretched_lt coversColumns inColumns)]

theorem onBools_right_yields (op : Bool → Bool → Bool) {small narrow : Nat}
    (coversRows : small = rows ∨ small = 1) (coversColumns : narrow = columns ∨ narrow = 1)
    (first : Masks rows columns f a) (second : Masks small narrow g b) :
    Yields allowed (Masks rows columns fun r c =>
      op (f r c) (g (stretched small r) (stretched narrow c))) (onBools op a b) := by
  obtain ⟨f', rfl, same⟩ := first
  obtain ⟨g', rfl, same'⟩ := second
  simp only [onBools, NdArray.bools?, broadcastShape, broadcastAxis_covered coversRows,
    broadcastAxis_covered coversColumns, bind_ok]
  refine ⟨_, rfl, fun r c inRows inColumns => ?_⟩
  simp only [pointwise, stretched_of_lt inRows, stretched_of_lt inColumns, same r c inRows inColumns,
    same' _ _ (stretched_lt coversRows inRows) (stretched_lt coversColumns inColumns)]

theorem Masks.imp (mask : Masks rows columns f a)
    (same : ∀ r c, r < rows → c < columns → f r c = g r c) : Masks rows columns g a := by
  obtain ⟨f', rfl, isMask⟩ := mask
  exact ⟨f', rfl, fun r c inRows inColumns =>
    (isMask r c inRows inColumns).trans (same r c inRows inColumns)⟩

theorem onBools_yields (op : Bool → Bool → Bool) (first : Masks rows columns f a)
    (second : Masks rows columns g b) :
    Yields allowed (Masks rows columns fun r c => op (f r c) (g r c)) (onBools op a b) := by
  refine (onBools_left_yields op (.inl rfl) (.inl rfl) first second).mono fun mask _ isMask => ?_
  exact isMask.imp fun r c inRows inColumns => by
    rw [stretched_of_lt inRows, stretched_of_lt inColumns]

variable [PyFloat F] (numerics : Numerics F) (dates : SkipDates)

theorem numberTest_yields (function : NumpyFunction) {op : F → F → Bool}
    (isOp : binaryFunction numerics function = comparing numerics op) (value : F)
    (array : Values rows columns values a) :
    Yields allowed (Masks rows columns fun r c => op (values r c) value)
      (numpy numerics dates (.withScalar function (.float value)) [a]) := by
  obtain ⟨f, rfl, same⟩ := array
  simp only [numpy, isOp, Scalar.constant, bind_ok, comparing, broadcastShape, broadcastAxis_one]
  refine ⟨_, rfl, fun r c inRows inColumns => ?_⟩
  simp only [pointwise, NdArray.asFloats, stretched_of_lt inRows, stretched_of_lt inColumns,
    same r c inRows inColumns]

theorem isfinite_yields (array : Values rows columns values a) :
    Yields allowed (Masks rows columns fun r c => PyFloat.isFinite (values r c))
      (numpy numerics dates (.elementwise .isfinite) [a]) := by
  obtain ⟨f, rfl, same⟩ := array
  exact ⟨_, rfl, fun r c inRows inColumns => congrArg _ (same r c inRows inColumns)⟩

theorem not_yields (mask : Masks rows columns f a) :
    Yields allowed (Masks rows columns fun r c => !f r c)
      (numpy numerics dates (.elementwise .logicalNot) [a]) := by
  obtain ⟨f', rfl, same⟩ := mask
  exact ⟨_, rfl, fun r c inRows inColumns => congrArg _ (same r c inRows inColumns)⟩

theorem full_yields (bars sessions : Nat) (value : Bool) :
    Yields allowed (Masks bars sessions fun _ _ => value)
      (numpy numerics dates (.full ⟨bars, sessions⟩ (.bool value)) []) :=
  ⟨_, rfl, fun _ _ _ _ => rfl⟩

omit [PyFloat F] in
theorem fill_yields {hit : Nat → Nat → Bool} (value : Bool) (mask : Masks rows columns f a) :
    Yields allowed (Masks rows columns fun r c => if hit r c then value else f r c)
      (a.fill numerics hit (.bool value)) := by
  obtain ⟨f', rfl, same⟩ := mask
  simp only [NdArray.fill, Scalar.constant, bind_ok, NdArray.assign, Contents.assigned, Except.map]
  refine ⟨_, rfl, fun r c inRows inColumns => ?_⟩
  rw [same r c inRows inColumns]

theorem fillRow_yields (value : Bool) {row : Int} (lower : 0 ≤ row) (upper : row < rows)
    (mask : Masks rows columns f a) :
    Yields allowed (Masks rows columns fun r c => if r = row.toNat then value else f r c)
      (numpy numerics dates (.fillRow row (.bool value)) [a]) := by
  have filled : Yields allowed (Masks rows columns fun r c =>
      if decide (r = row.toNat) = true then value else f r c)
      (a.fill numerics (fun r _ => decide (r = row.toNat)) (.bool value)) := fill_yields numerics value mask
  obtain ⟨f', rfl, same⟩ := mask
  simp only [decide_eq_true_eq] at filled
  simp only [numpy, assignRow, pythonIndex_inside _ lower upper]
  exact filled

theorem fillFrom_yields (value : Bool) {row : Int} (lower : 0 ≤ row) (upper : row ≤ rows)
    (mask : Masks rows columns f a) :
    Yields allowed (Masks rows columns fun r c => if row.toNat ≤ r then value else f r c)
      (numpy numerics dates (.fillFrom row (.bool value)) [a]) := by
  have filled : Yields allowed (Masks rows columns fun r c =>
      if decide (row.toNat ≤ r) = true then value else f r c)
      (a.fill numerics (fun r _ => decide (row.toNat ≤ r)) (.bool value)) := fill_yields numerics value mask
  obtain ⟨f', rfl, same⟩ := mask
  simp only [decide_eq_true_eq] at filled
  simp only [numpy, sliceBound_inside numerics.strict rows lower upper, bind_ok]
  exact filled

theorem skipped_yields {bars sessions : Nat} (some_bars : 0 < bars) (calendars : List String)
    (position : Nat → Nat → Int) :
    Yields allowed (Masks 1 sessions fun _ c => dates calendars (position 0 c))
      (numpy numerics dates (.skippedSessions calendars) [⟨bars, sessions, .ints position⟩]) := by
  have filled : decide (bars = 0) = false := decide_eq_false some_bars.ne'
  simp only [numpy, skippedColumns, NdArray.ints?, filled, raiseIf, Bool.false_eq_true, if_false,
    bind_ok]
  exact ⟨_, rfl, fun _ _ _ _ => rfl⟩

end Calls

/-! ## One setting -/

/-- What one setting's signals are written from: the side at every bar, the distance of each stop,
the bars on which the rules leave each side and the minutes of the maximum hold. -/
structure SettingParts (F : Type) where
  sides : Nat → Nat → F
  fractions : List (String × (Nat → Nat → F))
  longLeave : Nat → Nat → Bool
  shortLeave : Nat → Nat → Bool
  hold : Int

structure Layout where
  bars : Nat
  sessions : Nat
  length : Nat
  position : Nat → Nat → Int
  someBars : 0 < bars
  placed : Placed bars sessions length position

section Setting
variable [PyFloat F] (spec : SpecEntries F) (dates : SkipDates) (position : Nat → Nat → Int)
  (sides : Nat → Nat → F) (fractions : List (String × (Nat → Nat → F)))

def rowOfTime (time : PyValue F) : Nat := (rowAt spec.bar (time.text?.getD "")).toNat

def inEntryWindow (r : Nat) : Bool :=
  match spec.entries.lookup "flat_at" with
  | none => true
  | some time => decide (r < rowOfTime spec time)

def isRowOf (r : Nat) : Option (PyValue F) → Bool
  | none => false
  | some time => decide (r = rowOfTime spec time)

def isClockExit (r : Nat) : Bool :=
  isRowOf spec r (spec.entries.lookup "flat_at") || isRowOf spec r (spec.exitRules.lookup "at_time")

def isSkipped (c : Nat) : Bool :=
  !spec.skippedCalendars.isEmpty && dates spec.skippedCalendars (position 0 c)

def allowedAt (r c : Nat) : Bool :=
  inEntryWindow spec r && !PyFloat.eq (sides r c) (PyFloat.literal 0) &&
    !isSkipped spec dates position c

def validAt (fractions : List (Nat → Nat → F)) (r c : Nat) : Bool :=
  fractions.all fun fraction =>
    PyFloat.isFinite (fraction r c) && PyFloat.lt (PyFloat.literal 0) (fraction r c)

def firstAt (r c : Nat) : Bool :=
  allowedAt spec dates position sides r c && validAt (fractions.map Prod.snd) r c

def isLong (r c : Nat) : Bool := PyFloat.lt (PyFloat.literal 0) (sides r c)

def isShort (r c : Nat) : Bool := PyFloat.lt (sides r c) (PyFloat.literal 0)

def entryAt (r c : Nat) : Bool := firstAt spec dates position sides fractions r c && isLong sides r c

def shortEntryAt (r c : Nat) : Bool :=
  firstAt spec dates position sides fractions r c && isShort sides r c

def leavesAt (leave opposite : Nat → Nat → Bool) (r c : Nat) : Bool :=
  (leave r c || spec.onOppositeSignal && opposite r c) || isClockExit spec r

/-- The distance of a stop, and NaN of a stop without one. -/
def fractionOf (numerics : Numerics F) (key : String) : Nat → Nat → F :=
  (fractions.lookup key).getD fun _ _ => numerics.nan

end Setting

section Flat
variable (length : Nat)

def flagArray (flags : Nat → Bool) : NdArray F := ⟨length, 1, .bools fun k _ => flags k⟩

def levelArray (levels : Nat → F) : NdArray F := ⟨length, 1, .floats fun k _ => levels k⟩

end Flat

structure Written [PyFloat F] (numerics : Numerics F) (dates : SkipDates) (layout : Layout)
    (spec : SpecEntries F) (parts : SettingParts F) (result : BatchSignals (NdArray F)) : Prop where
  entry : result.entry = flagArray layout.length (flagsOf layout.bars layout.sessions
    layout.position (entryAt spec dates layout.position parts.sides parts.fractions))
  exit : result.exit = flagArray layout.length (flagsOf layout.bars layout.sessions
    layout.position (leavesAt spec parts.longLeave (isShort parts.sides)))
  shortEntry : result.shortEntry = flagArray layout.length (flagsOf layout.bars layout.sessions
    layout.position (shortEntryAt spec dates layout.position parts.sides parts.fractions))
  shortExit : result.shortExit = flagArray layout.length (flagsOf layout.bars layout.sessions
    layout.position (leavesAt spec parts.shortLeave (isLong parts.sides)))
  levels : result.levels = spec.presentStops.map fun key =>
    (key, levelArray layout.length (levelsOf numerics layout.bars layout.sessions layout.position
      (firstAt spec dates layout.position parts.sides parts.fractions)
      (fractionOf parts.fractions numerics key)))
  planned : ∀ key ∈ spec.presentStops, (parts.fractions.lookup key).isSome = true
  timeStop : result.timeStop = ⟨layout.length, 1, .ints fun _ _ => parts.hold⟩
  skipped : result.skipped = ⟨1, 1, .ints fun _ _ => ((places layout.bars layout.sessions).filter
    fun place => allowedAt spec dates layout.position parts.sides place.1 place.2 &&
      !validAt (parts.fractions.map Prod.snd) place.1 place.2).length⟩

/-- The minutes of `td_stop`, where the rules have a maximum hold. -/
def holdMinutes {A : Type} (interpreter : Interpreter F) (bars : SessionBars A F)
    (spec : SpecEntries F) : Except EvaluationError Int :=
  match spec.exitRules.lookup "after_bars" with
  | none => .ok (-1)
  | some node => do
      let count ← bars.count interpreter node
      .ok (spec.bar.minutes * count)

/-! ## Accepted specifications -/

structure Runnable [PyFloat F] (v : Validator F) (spec : SpecEntries F) : Prop where
  bar : spec.bar = v.bar
  flatAt : ∀ time, spec.entries.lookup "flat_at" = some time →
    ∃ text, time = .str text ∧ IsBarEnd v text
  atTime : ∀ time, spec.exitRules.lookup "at_time" = some time →
    ∃ text, time = .str text ∧ IsBarEnd v text
  afterBars : ∀ node, spec.exitRules.lookup "after_bars" = some node →
    ∃ maximum original checked, NumericRule v (.count 1 maximum) original checked ∧
      checked.node = node
  stops : ∀ key node, key ∈ stopKeys → spec.exitRules.lookup key = some node →
    ∃ original checked, DistanceRule v key original checked ∧ checked.node = node

/-! ## The steps -/

section Steps
variable [PyFloat F] {numerics : Numerics F} {dates : SkipDates} {allowed : EvaluationError → Prop}
  {v : Validator F} {spec : SpecEntries F} {layout : Layout} {sessions : Sessions (NdArray F) F}
  {sides : Nat → Nat → F} {f : Nat → Nat → Bool} {a : NdArray F}

theorem validLoop_yields {rows columns : Nat} {fractions : List (NdArray F)}
    {values : List (Nat → Nat → F)}
    (known : List.Forall₂ (fun fraction value => Values rows columns value fraction) fractions
      values) (valid : Masks rows columns f a) :
    Yields allowed (Masks rows columns fun r c => f r c && validAt values r c)
      (validLoop (valueMachine (numpy numerics dates)) a fractions) := by
  induction known generalizing f a with
  | nil =>
      exact valid.imp fun r c _ _ => by simp [validAt]
  | @cons fraction value fractions values first rest ih =>
      refine (isfinite_yields numerics dates first).andThen fun finite isFinite => ?_
      refine (numberTest_yields numerics dates .greater rfl _ first).andThen fun positive isPositive => ?_
      refine (onBools_yields _ isFinite isPositive).andThen fun usable isUsable => ?_
      refine (onBools_yields _ valid isUsable).andThen fun valid isValid => ?_
      refine (ih isValid).mono fun mask _ isMask => isMask.imp fun r c _ _ => ?_
      simp only [validAt, List.all_cons, Bool.and_assoc]

theorem row_of_time (runnable : Runnable v spec) {text : String} (barEnd : IsBarEnd v text) :
    barPosition spec.bar (.str (F := F) text) = .ok (rowAt spec.bar text) ∧
      0 ≤ rowAt spec.bar text ∧ rowAt spec.bar text < v.bar.barsPerSession := by
  rw [runnable.bar]
  exact ⟨barPosition_ok barEnd, row_inside barEnd⟩

theorem entryWindow_yields (runnable : Runnable v spec) :
    Yields allowed (Masks v.bar.barsPerSession 1 fun r _ => inEntryWindow spec r)
      (entryWindow (valueMachine (numpy numerics dates)) spec v.bar.barsPerSession) := by
  refine (full_yields numerics dates _ 1 true).andThen fun window isWindow => ?_
  unfold inEntryWindow
  cases found : spec.entries.lookup "flat_at" with
  | none => exact isWindow
  | some time =>
      obtain ⟨text, rfl, barEnd⟩ := runnable.flatAt time found
      obtain ⟨isRow, lower, upper⟩ := row_of_time runnable barEnd
      simp only [valueMachine, isRow, bind_ok]
      refine (fillFrom_yields numerics dates false lower upper.le isWindow).mono fun mask _ isMask => ?_
      refine isMask.imp fun r c _ _ => ?_
      have row : rowOfTime spec (.str text) = (rowAt spec.bar text).toNat := rfl
      by_cases late : (rowAt spec.bar text).toNat ≤ r
      · rw [if_pos late, decide_eq_false (by omega)]
      · rw [if_neg late, decide_eq_true (by omega)]

theorem allowedEntries_yields (runnable : Runnable v spec)
    (shape : sessions.bars.shape = ⟨v.bar.barsPerSession, layout.sessions⟩)
    (rows : layout.bars = v.bar.barsPerSession)
    (positions : sessions.positions = ⟨layout.bars, layout.sessions, .ints layout.position⟩)
    (isSides : Values layout.bars layout.sessions sides a) :
    Yields allowed (Masks layout.bars layout.sessions (allowedAt spec dates layout.position sides))
      (allowedEntries (valueMachine (numpy numerics dates)) sessions spec a) := by
  unfold allowedEntries
  rw [shape]
  refine (entryWindow_yields runnable).andThen fun window isWindow => ?_
  rw [← rows] at isWindow
  refine (numberTest_yields numerics dates .notEqual rfl _ isSides).andThen fun pointed isPointed => ?_
  refine (onBools_left_yields _ (.inl rfl) (.inr rfl) isWindow isPointed).andThen
    fun allowed isAllowed => ?_
  by_cases none : spec.skippedCalendars.isEmpty
  · rw [if_pos none]
    refine isAllowed.imp fun r c inRows _ => ?_
    simp [allowedAt, isSkipped, none, stretched_of_lt inRows]
  · rw [if_neg none, positions]
    refine (skipped_yields numerics dates layout.someBars _ _).andThen fun skipped isSkipped => ?_
    refine (not_yields numerics dates isSkipped).andThen fun traded isTraded => ?_
    refine (onBools_right_yields _ (.inr rfl) (.inl rfl) isAllowed isTraded).mono
      fun mask _ isMask => isMask.imp fun r c inRows inColumns => ?_
    simp [allowedAt, RuleStrategy.isSkipped, none, stretched_of_lt inRows,
      stretched_of_lt inColumns]

theorem clockRow_yields (runnable : Runnable v spec) {time : Option (PyValue F)}
    (known : ∀ value, time = some value → ∃ text, value = .str text ∧ IsBarEnd v text)
    (clock : Masks v.bar.barsPerSession 1 f a) :
    Yields allowed (Masks v.bar.barsPerSession 1 fun r c => f r c || isRowOf spec r time)
      (clockRow (valueMachine (numpy numerics dates)) spec time a) := by
  cases time with
  | none => exact clock.imp fun r c _ _ => (Bool.or_false _).symm
  | some value =>
      obtain ⟨text, rfl, barEnd⟩ := known value rfl
      obtain ⟨isRow, lower, upper⟩ := row_of_time runnable barEnd
      simp only [clockRow, valueMachine, isRow, bind_ok]
      refine (fillRow_yields numerics dates true lower upper clock).mono fun mask _ isMask => ?_
      refine isMask.imp fun r c _ _ => ?_
      have row : rowOfTime spec (.str text) = (rowAt spec.bar text).toNat := rfl
      by_cases here : r = (rowAt spec.bar text).toNat
      · rw [if_pos here, isRowOf, decide_eq_true (by omega), Bool.or_true]
      · rw [if_neg here, isRowOf, decide_eq_false (by omega), Bool.or_false]

theorem clockExits_yields (runnable : Runnable v spec) :
    Yields allowed (Masks v.bar.barsPerSession 1 fun r _ => isClockExit spec r)
      (clockExits (valueMachine (numpy numerics dates)) spec v.bar.barsPerSession) := by
  refine (full_yields numerics dates _ 1 false).andThen fun clock isClock => ?_
  refine (clockRow_yields runnable runnable.flatAt isClock).andThen fun clock isClock => ?_
  refine (clockRow_yields runnable runnable.atTime isClock).mono fun mask _ isMask => ?_
  exact isMask.imp fun r c _ _ => by rw [Bool.false_or, isClockExit]

theorem flagged_yields
    (positions : sessions.positions = ⟨layout.bars, layout.sessions, .ints layout.position⟩)
    (length : sessions.length = layout.length) (mask : Masks layout.bars layout.sessions f a) :
    Yields allowed (fun flags => flags = flagArray layout.length
        (flagsOf layout.bars layout.sessions layout.position f))
      (flagged (valueMachine (numpy numerics dates)) sessions a) := by
  obtain ⟨g, rfl, same⟩ := mask
  have unset : numpy numerics dates (.fullFlat layout.length (.bool false)) [] =
      .ok ⟨layout.length, 1, .bools fun _ _ => false⟩ := rfl
  unfold flagged
  simp only [valueMachine, positions, length, unset, bind_ok, fillAt_call layout.placed]
  exact congrArg (flagArray layout.length) (funext fun k => by rw [flagsOf, placed_congr same]; rfl)

theorem stopLevel_yields
    (positions : sessions.positions = ⟨layout.bars, layout.sessions, .ints layout.position⟩)
    (length : sessions.length = layout.length) (first : Masks layout.bars layout.sessions f a)
    {fractions : List (String × NdArray F)} {values : List (String × (Nat → Nat → F))}
    (named : List.Forall₂ (fun fraction value => fraction.1 = value.1 ∧
      Values layout.bars layout.sessions value.2 fraction.2) fractions values) {key : String}
    (present : (values.lookup key).isSome = true) :
    Yields allowed (fun level => level = (key, levelArray layout.length
        (levelsOf numerics layout.bars layout.sessions layout.position f
          ((values.lookup key).getD fun _ _ => numerics.nan))))
      (stopLevel (valueMachine (numpy numerics dates)) sessions fractions a key) := by
  have found : ∃ fraction, frameOf fractions key = .ok fraction ∧
      Values layout.bars layout.sessions ((values.lookup key).getD fun _ _ => numerics.nan)
        fraction := by
    unfold frameOf
    clear first length positions
    induction named with
    | nil => cases present
    | @cons one value fractions values isOne rest ih =>
        obtain ⟨name, fraction⟩ := one
        obtain ⟨name', value⟩ := value
        obtain ⟨rfl, isValue⟩ := isOne
        by_cases same : key = name
        · subst same
          exact ⟨fraction, by simp [orRaise], by simpa using isValue⟩
        · have differs : (key == name) = false := by simpa using same
          simp only [List.lookup_cons, differs] at present ⊢
          exact ih present
  obtain ⟨fraction, isFraction, values', rfl, sameValues⟩ := found
  obtain ⟨g, rfl, same⟩ := first
  have unset : numpy numerics dates (.fullFlat layout.length .nan) [] =
      .ok ⟨layout.length, 1, .floats fun _ _ => numerics.nan⟩ := rfl
  unfold stopLevel
  simp only [valueMachine, positions, length, unset, isFraction, bind_ok,
    copyAt_call layout.placed]
  refine congrArg (Prod.mk key) (congrArg (levelArray layout.length) ?_)
  exact levelsOf_congr layout.placed same sameValues

variable (numerics) (dates) in
theorem total_yields {rows columns : Nat} (mask : Masks rows columns f a) :
    Yields allowed (fun total => total = ⟨1, 1, .ints fun _ _ =>
        ((places rows columns).filter fun place => f place.1 place.2).length⟩)
      (numpy numerics dates .total [a]) := by
  obtain ⟨g, rfl, same⟩ := mask
  have chosen : (places rows columns).filter (fun place => g place.1 place.2) =
      (places rows columns).filter fun place => f place.1 place.2 :=
    List.filter_congr fun place member =>
      same _ _ (mem_places.mp member).1 (mem_places.mp member).2
  simp only [numpy, totalOf, NdArray.bools?, bind_ok, chosen]
  exact rfl

theorem timeStop_yields {interpreter : Interpreter F} (length : sessions.length = layout.length)
    {hold : Int} (isHold : holdMinutes interpreter sessions.bars spec = .ok hold) :
    Yields allowed (fun stop => stop = ⟨layout.length, 1, .ints fun _ _ => hold⟩)
      (timeStop (valueMachine (numpy numerics dates)) interpreter sessions spec) := by
  have unset : numpy numerics dates (.fullFlat layout.length (.int (-1))) [] =
      .ok ⟨layout.length, 1, .ints fun _ _ => -1⟩ := rfl
  unfold holdMinutes at isHold
  unfold timeStop
  simp only [valueMachine, length, unset, bind_ok]
  cases found : spec.exitRules.lookup "after_bars" with
  | none =>
      rw [found] at isHold
      cases isHold
      exact rfl
  | some node =>
      rw [found] at isHold
      obtain ⟨count, isCount, done⟩ := bind_eq_ok.mp isHold
      cases done
      simp only [isCount, bind_ok]
      exact rfl

variable (numerics) (dates) (spec) in
theorem leavesRest_yields {leave opposite : Nat → Nat → Bool} {mask clock : NdArray F}
    (isLeave : Masks layout.bars layout.sessions leave mask)
    (isOpposite : Masks layout.bars layout.sessions opposite a)
    (isClock : Masks layout.bars 1 (fun r _ => isClockExit spec r) clock) :
    Yields allowed (Masks layout.bars layout.sessions (leavesAt spec leave opposite)) (do
      let leave ← if spec.onOppositeSignal then
          elementwise (valueMachine (numpy numerics dates)) .logicalOr [mask, a]
        else pure mask
      elementwise (valueMachine (numpy numerics dates)) .logicalOr [leave, clock]) := by
  split_ifs with onOpposite
  · refine (onBools_yields (· || ·) isLeave isOpposite).andThen fun both isBoth => ?_
    refine (onBools_right_yields (· || ·) (.inl rfl) (.inr rfl) isBoth isClock).mono
      fun result _ isResult => isResult.imp fun r c inRows _ => ?_
    rw [leavesAt, onOpposite, Bool.true_and, stretched_of_lt inRows]
  · refine (onBools_right_yields (· || ·) (.inl rfl) (.inr rfl) isLeave isClock).mono
      fun result _ isResult => isResult.imp fun r c inRows _ => ?_
    rw [leavesAt, eq_false_of_ne_true onOpposite, Bool.false_and, Bool.or_false,
      stretched_of_lt inRows]

def NamedValues (rows columns : Nat) (fractions : List (String × NdArray F))
    (values : List (String × (Nat → Nat → F))) : Prop :=
  List.Forall₂ (fun fraction value => fraction.1 = value.1 ∧ Values rows columns value.2 fraction.2)
    fractions values

omit [PyFloat F] in
theorem NamedValues.values {rows columns : Nat} {fractions : List (String × NdArray F)}
    {values : List (String × (Nat → Nat → F))} (named : NamedValues rows columns fractions values) :
    List.Forall₂ (fun fraction value => Values rows columns value fraction)
      (fractions.map Prod.snd) (values.map Prod.snd) := by
  rw [List.forall₂_map_left_iff, List.forall₂_map_right_iff]
  exact named.imp fun _ _ both => both.2

theorem levels_yields
    (positions : sessions.positions = ⟨layout.bars, layout.sessions, .ints layout.position⟩)
    (length : sessions.length = layout.length) (isFirst : Masks layout.bars layout.sessions f a)
    {fractions : List (String × NdArray F)} {values : List (String × (Nat → Nat → F))}
    (named : NamedValues layout.bars layout.sessions fractions values)
    {keys : List String} (present : ∀ key ∈ keys, (values.lookup key).isSome = true) :
    Yields allowed (fun levels => levels = keys.map fun key =>
        (key, levelArray layout.length (levelsOf numerics layout.bars layout.sessions layout.position
          f (fractionOf values numerics key))))
      (each (stopLevel (valueMachine (numpy numerics dates)) sessions fractions a) keys) := by
  induction keys with
  | nil => exact rfl
  | cons key rest ih =>
      refine (stopLevel_yields positions length isFirst named
        (present key List.mem_cons_self)).andThen fun level isLevel => ?_
      refine (ih fun other member => present other (List.mem_cons_of_mem _ member)).andThen
        fun levels isLevels => ?_
      subst isLevel isLevels
      exact rfl

end Steps

end QuantFactory.RuleStrategy
