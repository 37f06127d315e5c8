import QuantFactory.MarketData.SuspectBars

/-!
# The outlier rule of one date

The rule as it is published, on the prices of one date in time order, and what the
computation over all dates gives for a row of that date.
-/

set_option autoImplicit false

namespace QuantFactory.MarketData

open QuantFactory.Library

section Rule
variable {F : Type} [LinearOrder F] (arithmetic : PriceArithmetic F)

def lowerMedian (values : List F) : Option F := (ascending values)[(values.length - 1) / 2]?

/-- The middle value, of an even count the mean of the two middle values. -/
def plainMedian (values : List F) : Option F :=
  if values.length % 2 = 1 then (ascending values)[values.length / 2]?
  else Option.map₂ arithmetic.middle (ascending values)[values.length / 2 - 1]?
    (ascending values)[values.length / 2]?

variable (window : Nat) (day : List F) (k : Nat)

/-- The neighbours on both sides without the value itself; the window shrinks at both ends. -/
def centredMedian : Option F :=
  let neighbours := (day.take k).drop (k - window / 2) ++ (day.drop (k + 1)).take (window / 2)
  if window / 2 ≤ k ∧ k + window / 2 < day.length then lowerMedian neighbours
  else plainMedian arithmetic neighbours

/-- The preceding values; the window expands from one value at the start. -/
def precedingMedian : Option F :=
  let preceding := (day.take k).drop (k - window)
  if window ≤ k then lowerMedian preceding else plainMedian arithmetic preceding

/-- The following values; near the end the copied last window, and nothing for the last value. -/
def followingMedian : Option F :=
  if k + window < day.length then lowerMedian ((day.drop (k + 1)).take window)
  else if k + 1 < day.length then plainMedian arithmetic (day.drop (k - window))
  else none

def dateCriterion : Option F :=
  day[k]?.bind fun value =>
    fmin (fmin ((centredMedian arithmetic window day k).map (arithmetic.distance value))
        ((precedingMedian arithmetic window day k).map (arithmetic.distance value)))
      ((followingMedian arithmetic window day k).map (arithmetic.distance value))

def medianDeviation : Option F :=
  (plainMedian arithmetic day).bind fun median =>
    plainMedian arithmetic (day.map fun value => arithmetic.distance value median)

/-- `criterion >= maxi * max(1.4826 * MAD, 0.01)` on the prices of the date. -/
def suspectPrice (maxi : F) : Bool :=
  match medianDeviation arithmetic day with
  | some deviation =>
      reaches arithmetic maxi (dateCriterion arithmetic window day k)
        (max (arithmetic.scaled deviation) arithmetic.minMad)
  | none => false

end Rule

structure OutlierLibrary.Documented {F : Type} [LinearOrder F] (library : OutlierLibrary F)
    (arithmetic : PriceArithmetic F) : Prop where
  /-- The value of the rank in the window of a position, where the window lies inside. -/
  ranks : ∀ (values : List F) (rank size origin : Int), 0 ≤ rank → rank < size →
    -(size / 2) ≤ origin → origin ≤ (size - 1) / 2 →
    ∃ ranked, library.rankFilter values rank size origin = .ok ranked ∧
      ranked.length = values.length ∧
      ∀ i : Nat, 0 ≤ i - size / 2 - origin → i - size / 2 - origin + size ≤ values.length →
        ranked[i]? = (ascending
          ((values.drop (i - size / 2 - origin).toNat).take size.toNat))[rank.toNat]?
  refuses : ∀ (values : List F) (rank size origin : Int), size ≤ 0 →
    ∃ message, library.rankFilter values rank size origin = .error message
  median : ∀ values : List F, values ≠ [] →
    plainMedian arithmetic values = some (library.groupMedian values)

section Windows
variable {F : Type} [LinearOrder F] (arithmetic : PriceArithmetic F)

theorem arange_append {start between stop : Int} (low : start ≤ between) (high : between ≤ stop) :
    arange start stop = arange start between ++ arange between stop := by
  have count : (stop - start).toNat = (between - start).toNat + (stop - between).toNat := by omega
  rw [arange, count, List.range_add, List.map_append, List.map_map, arange, arange]
  congr 1
  apply List.map_congr_left
  intro step _
  simp only [Function.comp_apply]
  omega

theorem arange_one (start : Int) : arange start (start + 1) = [start] := by
  have one : (start + 1 - start).toNat = 1 := by omega
  rw [arange, one]
  simp

omit [LinearOrder F] in
theorem reduceOption_arange (day : List F) (k start : Int) (count : Nat) :
    ((arange start (start + count)).map fun offset =>
        if 0 ≤ k + offset then day[(k + offset).toNat]? else none).reduceOption =
      (day.take (k + start + count).toNat).drop (k + start).toNat := by
  induction count with
  | zero =>
      have none : arange start (start + (0 : Nat)) = [] := by simp [arange]
      have empty : (k + start + (0 : Nat)).toNat = (k + start).toNat := by omega
      rw [none, empty, List.map_nil, List.reduceOption_nil, List.drop_take_self]
  | succ count ih =>
      have stop : start + ((count + 1 : Nat) : Int) = start + count + 1 := by omega
      rw [stop, arange_append (by omega : start ≤ start + count) (by omega), arange_one,
        List.map_append, List.reduceOption_append, ih, List.map_singleton]
      rcases lt_or_ge (k + (start + count)) 0 with before | inside
      · have early : (k + start + (count + 1 : Nat)).toNat = (k + start + count).toNat := by omega
        rw [if_neg (by omega), early]
        simp [List.reduceOption]
      · have late : (k + start + (count + 1 : Nat)).toNat = (k + start + count).toNat + 1 := by
          omega
        have here : (k + (start + count)).toNat = (k + start + count).toNat := by omega
        rw [if_pos inside, late, here, List.take_add_one]
        cases there : day[(k + start + count).toNat]? with
        | none => simp [List.reduceOption]
        | some value =>
            have within := (List.getElem?_eq_some_iff.mp there).1
            have ends : (k + start).toNat ≤ (day.take (k + start + count).toNat).length := by
              rw [List.length_take]
              omega
            rw [List.drop_append_of_le_length ends]
            simp [List.reduceOption]

theorem centre_offsets (half : Nat) :
    (arange (-(half : Int)) (half + 1)).eraseIdx half = arange (-half) 0 ++ arange 1 (half + 1) := by
  have split : arange (-(half : Int)) (half + 1) = arange (-half) 0 ++ 0 :: arange 1 (half + 1) := by
    rw [arange_append (by omega : -(half : Int) ≤ 0) (by omega),
      arange_append (by omega : (0 : Int) ≤ 0 + 1) (by omega : (0 : Int) + 1 ≤ half + 1), arange_one]
    rfl
  have length : (arange (-(half : Int)) 0).length = half := by simp [arange]
  rw [split, List.eraseIdx_append_of_length_le (by omega), length, Nat.sub_self,
    List.eraseIdx_cons_zero]

theorem middleOfPicked_eq {picked : List (Option F)}
    (doubles : ∀ value ∈ picked.reduceOption, arithmetic.middle value value = value) :
    middleOfPicked arithmetic picked = plainMedian arithmetic picked.reduceOption := by
  have count : (picked.filter Option.isSome).length = picked.reduceOption.length :=
    (List.reduceOption_length_eq).symm
  rw [middleOfPicked, count]
  generalize size : picked.reduceOption.length = valid
  rcases Nat.eq_zero_or_pos valid with rfl | positive
  · have empty := List.length_eq_zero_iff.mp size
    rw [if_pos rfl, empty]
    rfl
  · have read : ∀ rank, rank < valid → (ascendingMissingLast picked).getD rank none =
        (ascending picked.reduceOption)[rank]? := by
      intro rank below
      have within : rank < (ascending picked.reduceOption).length := by
        rw [length_ascending]
        omega
      rw [List.getD_eq_getElem?_getD, getElem?_ascendingMissingLast (by omega),
        List.getElem?_eq_getElem within]
      rfl
    rw [if_neg (by omega), read _ (by omega), read _ (by omega), plainMedian, size]
    rcases Nat.mod_two_eq_zero_or_one valid with even | odd
    · have lower : (valid - 1) / 2 = valid / 2 - 1 := by omega
      rw [if_neg (by omega), lower]
    · have same : (valid - 1) / 2 = valid / 2 := by omega
      have within : valid / 2 < (ascending picked.reduceOption).length := by
        rw [length_ascending]
        omega
      rw [if_pos odd, same, List.getElem?_eq_getElem within, Option.map₂_some_some,
        doubles _ ((ascending_perm _).mem_iff.mp (List.getElem_mem within))]

end Windows

section Rows
variable {F : Type} [LinearOrder F] (arithmetic : PriceArithmetic F)

def DateBounds (first stop : List Nat) (start count : Nat) : Prop :=
  ∀ k < count, first.getD (start + k) 0 = start ∧ stop.getD (start + k) 0 = start + count

variable {before day after : List F} {first stop : List Nat}

variable (before after) in
omit [LinearOrder F] in
theorem getElem?_of_date {k : Nat} (within : k < day.length) :
    (before ++ (day ++ after))[before.length + k]? = day[k]? := by
  rw [List.getElem?_append_right (by omega), Nat.add_sub_cancel_left,
    List.getElem?_append_left within]

omit [LinearOrder F] in
theorem window_of_date {j size : Nat} (inside : j + size ≤ day.length) :
    ((before ++ (day ++ after)).drop (before.length + j)).take size = (day.drop j).take size := by
  rw [List.drop_append, List.drop_of_length_le (by omega), List.nil_append,
    Nat.add_sub_cancel_left, List.drop_append_of_le_length (by omega), List.take_append_of_le_length]
  rw [List.length_drop]
  omega

omit [LinearOrder F] in
theorem pickedValues_of_date (bounds : DateBounds first stop before.length day.length) {k : Nat}
    (within : k < day.length) (offsets : List Int) :
    pickedValues (before ++ (day ++ after)) offsets first stop (before.length + k) =
      offsets.map fun offset =>
        if 0 ≤ (k : Int) + offset then day[((k : Int) + offset).toNat]? else none := by
  obtain ⟨start, last⟩ := bounds k within
  have length : (before ++ (day ++ after)).length =
      before.length + (day.length + after.length) := by simp
  apply List.map_congr_left
  intro offset _
  simp only [start, last, length]
  rcases lt_or_ge ((k : Int) + offset) 0 with early | inside
  · rw [if_neg (by omega), if_neg (by omega)]
  · rw [if_pos inside]
    rcases lt_or_ge ((k : Int) + offset) day.length with held | late
    · have clipped : (max 0 (min (((before.length + k : Nat) : Int) + offset)
          (((before.length + (day.length + after.length) : Nat) : Int) - 1))).toNat =
            before.length + ((k : Int) + offset).toNat := by omega
      rw [if_pos (by omega), clipped, getElem?_of_date _ _ (by omega)]
    · rw [if_neg (by omega), List.getElem?_eq_none (by omega)]

variable (before after) in
omit [LinearOrder F] in
theorem gathered_of_date (bounds : DateBounds first stop before.length day.length) {k : Nat}
    (within : k < day.length) {start last : Int} (ordered : start ≤ last) :
    (pickedValues (before ++ (day ++ after)) (arange start last) first stop
        (before.length + k)).reduceOption =
      (day.take (k + last).toNat).drop (k + start).toNat := by
  obtain ⟨count, rfl⟩ : ∃ count : Nat, last = start + count :=
    ⟨(last - start).toNat, by omega⟩
  rw [pickedValues_of_date bounds within, reduceOption_arange, ← add_assoc]

variable (before after) in
omit [LinearOrder F] in
theorem gathered_centre (bounds : DateBounds first stop before.length day.length) {k : Nat}
    (within : k < day.length) (half : Nat) :
    (pickedValues (before ++ (day ++ after)) ((arange (-(half : Int)) (half + 1)).eraseIdx half)
        first stop (before.length + k)).reduceOption =
      (day.take k).drop (k - half) ++ (day.drop (k + 1)).take half := by
  have left := gathered_of_date before after bounds within (by omega : -(half : Int) ≤ 0)
  have right := gathered_of_date before after bounds within
    (by omega : (1 : Int) ≤ (half : Int) + 1)
  have atLeft : ((k : Int) + 0).toNat = k ∧ ((k : Int) + -(half : Int)).toNat = k - half := by omega
  have atRight : ((k : Int) + ((half : Int) + 1)).toNat = k + 1 + half ∧
      ((k : Int) + 1).toNat = k + 1 := by omega
  rw [atLeft.1, atLeft.2] at left
  rw [atRight.1, atRight.2, List.drop_take, Nat.add_sub_cancel_left] at right
  rw [centre_offsets, pickedValues, List.map_append, List.reduceOption_append]
  exact congrArg₂ (· ++ ·) left right

theorem edgeMedians_eq {batchRows : Nat} (positive : 0 < batchRows) (values : List F)
    (rows : List Nat) (offsets : List Int) (first stop : List Nat) :
    edgeMedians arithmetic batchRows values rows offsets first stop =
      rows.map fun row =>
        middleOfPicked arithmetic (pickedValues values offsets first stop row) := by
  rw [edgeMedians, ← List.map_flatMap]
  congr 1
  rw [List.flatMap_id', slices_flatten positive]

theorem scattered_edge {batchRows : Nat} (positive : 0 < batchRows) (values : List F)
    (target : List (Option F)) (mask : Nat → Bool) (offsets : List Int) {row : Nat}
    (inTarget : row < target.length) (inValues : row < values.length) :
    (scatter target (rowsWhere values.length mask)
        (edgeMedians arithmetic batchRows values (rowsWhere values.length mask) offsets first
          stop))[row]? =
      if mask row = true then
        some (middleOfPicked arithmetic (pickedValues values offsets first stop row))
      else target[row]? := by
  rw [edgeMedians_eq arithmetic positive, getElem?_scatter _ inTarget]
  have inMask : row ∈ rowsWhere values.length mask ↔ mask row = true := by
    rw [rowsWhere, List.mem_filter, List.mem_range]
    exact ⟨And.right, fun held => ⟨inValues, held⟩⟩
  by_cases held : mask row = true
  · rw [if_pos held, if_pos (inMask.mpr held)]
  · rw [if_neg held, if_neg fun member => held (inMask.mp member)]

/-- Order statistics of windows of one size that start `shift` rows before the row. -/
def RankedWindows (values ranked : List F) (size rank shift : Nat) : Prop :=
  ranked.length = values.length ∧ ∀ i, shift ≤ i → i - shift + size ≤ values.length →
    ranked[i]? = (ascending ((values.drop (i - shift)).take size))[rank]?

theorem RankedWindows.at_date {ranked : List F} {size rank shift : Nat}
    (windows : RankedWindows (before ++ (day ++ after)) ranked size rank shift) {k : Nat}
    (low : shift ≤ k) (high : k - shift + size ≤ day.length) :
    ranked[before.length + k]? = (ascending ((day.drop (k - shift)).take size))[rank]? := by
  have start : before.length + k - shift = before.length + (k - shift) := by omega
  rw [windows.2 _ (by omega) (by simp only [List.length_append]; omega), start, window_of_date high]

theorem getElem?_zip_of {α β : Type} {xs : List α} {ys : List β} {i : Nat} {x : α} {y : β}
    (left : xs[i]? = some x) (right : ys[i]? = some y) : (xs.zip ys)[i]? = some (x, y) :=
  List.getElem?_zip_eq_some.mpr ⟨left, right⟩

variable {half : Nat} {batchRows : Nat}

omit [LinearOrder F] in
theorem centred_window {k : Nat} {value : F} (there : day[k]? = some value) (low : half ≤ k) :
    (day.drop (k - half)).take (2 * half + 1) =
      (day.take k).drop (k - half) ++ value :: (day.drop (k + 1)).take half := by
  have within := (List.getElem?_eq_some_iff.mp there).1
  have front : ((day.take k).drop (k - half)).length = half := by
    rw [List.length_drop, List.length_take]
    omega
  have cut : day = day.take k ++ value :: day.drop (k + 1) := by
    have read := (List.getElem?_eq_some_iff.mp there).2
    rw [← read, ← List.drop_eq_getElem_cons within, List.take_append_drop]
  have size : 2 * half + 1 = half + (half + 1) := by omega
  conv_lhs => rw [cut]
  rw [List.drop_append_of_le_length (by rw [List.length_take]; omega), size, List.take_append,
    List.take_of_length_le (by omega), front, Nat.add_sub_cancel_left, List.take_succ_cons]

theorem centreMedians_at (positive : 0 < half) (batches : 0 < batchRows)
    (bounds : DateBounds first stop before.length day.length)
    (doubles : ∀ value ∈ day, arithmetic.middle value value = value) {low high : List F}
    (lows : RankedWindows (before ++ (day ++ after)) low (2 * half + 1) (half - 1) half)
    (highs : RankedWindows (before ++ (day ++ after)) high (2 * half + 1) half half) {k : Nat}
    (within : k < day.length) :
    (centreMedians arithmetic batchRows (before ++ (day ++ after)) first stop (2 * half) low
        high)[before.length + k]? = some (centredMedian arithmetic (2 * half) day k) := by
  obtain ⟨start, last⟩ := bounds k within
  have halved : 2 * half / 2 = half := by omega
  have total : (before ++ (day ++ after)).length =
      before.length + (day.length + after.length) := by simp
  have lengths : ((before ++ (day ++ after)).zip (low.zip high)).length =
      (before ++ (day ++ after)).length := by
    rw [List.length_zip, List.length_zip, lows.1, highs.1, Nat.min_self, Nat.min_self]
  rw [centreMedians, scattered_edge arithmetic batches _ _ _ _
    (by rw [List.length_map, lengths]; omega) (by omega)]
  simp only [centreEdge, centredMedian, start, last, halved]
  by_cases interior : half ≤ k ∧ k + half < day.length
  · have there := List.getElem?_eq_getElem within
    generalize day[k] = value at there
    have window := centred_window there interior.1
    have size : k - half + (2 * half + 1) ≤ day.length := by omega
    have perm : ((day.drop (k - half)).take (2 * half + 1)).Perm
        (value :: ((day.take k).drop (k - half) ++ (day.drop (k + 1)).take half)) := by
      rw [window]
      exact List.perm_middle
    have count : ((day.drop (k - half)).take (2 * half + 1)).length = 2 * half + 1 := by
      rw [List.length_take, List.length_drop]
      omega
    have neighbours : ((day.take k).drop (k - half) ++ (day.drop (k + 1)).take half).length =
        2 * half := by
      have same := perm.length_eq
      rw [count, List.length_cons] at same
      omega
    have below : half - 1 < (ascending ((day.drop (k - half)).take (2 * half + 1))).length := by
      rw [length_ascending, count]
      omega
    have middle : half < (ascending ((day.drop (k - half)).take (2 * half + 1))).length := by
      rw [length_ascending, count]
      omega
    have atLow := List.getElem?_eq_getElem below
    have atHigh := List.getElem?_eq_getElem middle
    generalize (ascending ((day.drop (k - half)).take (2 * half + 1)))[half - 1] = lower at atLow
    generalize (ascending ((day.drop (k - half)).take (2 * half + 1)))[half] = upper at atHigh
    have rank : (2 * half - 1) / 2 = half - 1 := by omega
    have next : half - 1 + 1 = half := by omega
    have removed := rank_without perm atLow (by rw [next]; exact atHigh)
    have ranks := getElem?_zip_of ((lows.at_date interior.1 size).trans atLow)
      ((highs.at_date interior.1 size).trans atHigh)
    have row := getElem?_zip_of
      ((getElem?_of_date before after within).trans there) ranks
    rw [if_neg (by simp; omega), List.getElem?_map, row, if_pos interior, lowerMedian, neighbours,
      rank, removed]
    rfl
  · have members : ∀ other ∈ (day.take k).drop (k - half) ++ (day.drop (k + 1)).take half,
        other ∈ day := by
      intro other member
      rcases List.mem_append.mp member with left | right
      · exact List.mem_of_mem_take (List.mem_of_mem_drop left)
      · exact List.mem_of_mem_drop (List.mem_of_mem_take right)
    have gathered := gathered_centre before after bounds within half
    rw [if_pos (by simp; omega), if_neg interior, middleOfPicked_eq, gathered]
    rw [gathered]
    exact fun other member => doubles other (members other member)

/-- The rank filter that ends at its row, read as the lower median of a window of the date. -/
theorem lower_median_at (positive : 0 < half) {lower : List F}
    (lowers : RankedWindows (before ++ (day ++ after)) lower (2 * half) (half - 1) (2 * half - 1))
    {j : Nat} (high : j + 2 * half ≤ day.length) :
    ∃ median, lower[before.length + (j + (2 * half - 1))]? = some median ∧
      lowerMedian ((day.drop j).take (2 * half)) = some median := by
  have start : j + (2 * half - 1) - (2 * half - 1) = j := by omega
  have read := lowers.at_date (k := j + (2 * half - 1)) (by omega) (by omega)
  have count : ((day.drop j).take (2 * half)).length = 2 * half := by
    rw [List.length_take, List.length_drop]
    omega
  have rank : (2 * half - 1) / 2 = half - 1 := by omega
  have below : half - 1 < (ascending ((day.drop j).take (2 * half))).length := by
    rw [length_ascending, count]
    omega
  rw [start, List.getElem?_eq_getElem below] at read
  refine ⟨_, read, ?_⟩
  rw [lowerMedian, count, rank, List.getElem?_eq_getElem below]

theorem trailMedians_at (positive : 0 < half) (batches : 0 < batchRows)
    (bounds : DateBounds first stop before.length day.length)
    (doubles : ∀ value ∈ day, arithmetic.middle value value = value) {lower : List F}
    (lowers : RankedWindows (before ++ (day ++ after)) lower (2 * half) (half - 1) (2 * half - 1))
    {k : Nat} (within : k < day.length) :
    (trailMedians arithmetic batchRows (before ++ (day ++ after)) first stop (2 * half)
        lower)[before.length + k]? = some (precedingMedian arithmetic (2 * half) day k) := by
  obtain ⟨start, last⟩ := bounds k within
  have total : (before ++ (day ++ after)).length =
      before.length + (day.length + after.length) := by simp
  rw [trailMedians, scattered_edge arithmetic batches _ _ _ _
    (by rw [List.length_take, List.length_cons, List.length_map, lowers.1]; omega) (by omega)]
  simp only [trailEdge, precedingMedian, start]
  by_cases interior : 2 * half ≤ k
  · obtain ⟨median, read, value⟩ := lower_median_at (j := k - 2 * half) positive lowers (by omega)
    have previous : before.length + (k - 2 * half + (2 * half - 1)) = before.length + k - 1 := by
      omega
    have row : before.length + k = before.length + k - 1 + 1 := by omega
    have span : k - (k - 2 * half) = 2 * half := by omega
    rw [previous] at read
    rw [if_neg (by simp; omega), List.getElem?_take_of_lt (by omega), row,
      List.getElem?_cons_succ, List.getElem?_map, read, if_pos interior, List.drop_take, span, value]
    rfl
  · have gathered := gathered_of_date before after bounds within
      (by omega : -((2 * half : Nat) : Int) ≤ 0)
    have ends : ((k : Int) + 0).toNat = k ∧
        ((k : Int) + -((2 * half : Nat) : Int)).toNat = k - 2 * half := by omega
    rw [ends.1, ends.2] at gathered
    rw [if_pos (by simp; omega), if_neg interior, middleOfPicked_eq, gathered]
    rw [gathered]
    exact fun other member => doubles other (List.mem_of_mem_take (List.mem_of_mem_drop member))

theorem followMedians_at (positive : 0 < half) (batches : 0 < batchRows)
    (bounds : DateBounds first stop before.length day.length)
    (doubles : ∀ value ∈ day, arithmetic.middle value value = value) {lower : List F}
    (lowers : RankedWindows (before ++ (day ++ after)) lower (2 * half) (half - 1) (2 * half - 1))
    {k : Nat} (within : k < day.length) :
    (followMedians arithmetic batchRows (before ++ (day ++ after)) first stop (2 * half)
        lower)[before.length + k]? = some (followingMedian arithmetic (2 * half) day k) := by
  obtain ⟨start, last⟩ := bounds k within
  have total : (before ++ (day ++ after)).length =
      before.length + (day.length + after.length) := by simp
  have shifted : (if 2 * half < (before ++ (day ++ after)).length then
      (lower.drop (2 * half)).map some ++ List.replicate (2 * half) none
      else List.replicate (before ++ (day ++ after)).length (none : Option F)).length =
        (before ++ (day ++ after)).length := by
    split
    · rw [List.length_append, List.length_map, List.length_drop, List.length_replicate, lowers.1]
      omega
    · exact List.length_replicate
  have inLast : before.length + k ∈ rowsWhere (before ++ (day ++ after)).length (lastRow stop) ↔
      k + 1 = day.length := by
    rw [rowsWhere, List.mem_filter, List.mem_range, lastRow, last, decide_eq_true_iff]
    omega
  rw [followMedians, getElem?_scatter _ (by rw [length_scatter, shifted]; omega),
    scattered_edge arithmetic batches _ _ _ _ (by rw [shifted]; omega) (by omega)]
  simp only [inLast, quirkRow, followingMedian, start, last]
  by_cases final : k + 1 = day.length
  · rw [if_pos final, if_neg (by omega), if_neg (by omega)]
  · rw [if_neg final]
    by_cases interior : k + 2 * half < day.length
    · obtain ⟨median, read, value⟩ := lower_median_at (j := k + 1) positive lowers (by omega)
      have ahead : before.length + (k + 1 + (2 * half - 1)) =
          2 * half + (before.length + k) := by omega
      have inDrop : before.length + k < ((lower.drop (2 * half)).map some).length := by
        rw [List.length_map, List.length_drop, lowers.1]
        omega
      rw [ahead] at read
      rw [if_neg (by simp; omega), if_pos (by omega), List.getElem?_append_left inDrop,
        List.getElem?_map, List.getElem?_drop, read, if_pos interior, value]
      rfl
    · have gathered := gathered_of_date before after bounds within
        (by omega : -((2 * half : Nat) : Int) ≤ (2 * half : Nat))
      have ends : ((k : Int) + (2 * half : Nat)).toNat = k + 2 * half ∧
          ((k : Int) + -((2 * half : Nat) : Int)).toNat = k - 2 * half := by omega
      rw [ends.1, ends.2, List.take_of_length_le (by omega)] at gathered
      rw [if_pos (by simp; omega), if_neg interior, if_pos (by omega), middleOfPicked_eq, gathered]
      rw [gathered]
      exact fun other member => doubles other (List.mem_of_mem_drop member)

theorem nearestDistances_at (positive : 0 < half) (batches : 0 < batchRows)
    (bounds : DateBounds first stop before.length day.length)
    (doubles : ∀ value ∈ day, arithmetic.middle value value = value) {low high lower : List F}
    (lows : RankedWindows (before ++ (day ++ after)) low (2 * half + 1) (half - 1) half)
    (highs : RankedWindows (before ++ (day ++ after)) high (2 * half + 1) half half)
    (lowers : RankedWindows (before ++ (day ++ after)) lower (2 * half) (half - 1) (2 * half - 1))
    {k : Nat} (within : k < day.length) :
    (nearestDistances arithmetic batchRows (before ++ (day ++ after)) first stop (2 * half) low high
        lower)[before.length + k]? = some (dateCriterion arithmetic (2 * half) day k) := by
  have there := List.getElem?_eq_getElem within
  have medians := getElem?_zip_of
    (trailMedians_at arithmetic positive batches bounds doubles lowers within)
    (followMedians_at arithmetic positive batches bounds doubles lowers within)
  have all := getElem?_zip_of
    (centreMedians_at arithmetic positive batches bounds doubles lows highs within) medians
  have row := getElem?_zip_of
    ((getElem?_of_date before after within).trans there) all
  rw [nearestDistances, List.getElem?_map, row, dateCriterion, there]
  rfl

end Rows

end QuantFactory.MarketData
