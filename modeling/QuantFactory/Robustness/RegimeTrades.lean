import Mathlib.Algebra.Order.Ring.Abs
import Mathlib.Algebra.Order.Field.Rat
import QuantFactory.Library.OrderedCuts
import QuantFactory.Robustness.Regimes

/-!
# Which regime a return and an entry belong to

The returns of a period go to the regime whose label was known one period earlier; the
entries of a period are counted under the label of their own period.  The two agree
exactly when no entry is made in a period whose label is new.
-/

set_option autoImplicit false

namespace QuantFactory.Robustness

open QuantFactory.Library

/-- The label of period `i`. -/
def labelAt (labels : List (Option String)) (i : Nat) : Option String := labels[i]?.join

/-- The label known when period `i` begins. -/
def labelBefore (labels : List (Option String)) : Nat → String
  | 0 => unknownRegime
  | i + 1 => (labelAt labels i).getD unknownRegime

section Filters
variable {α β : Type}

theorem filter_map_eq_iff {f : α → β} {xs : List α} (distinct : (xs.map f).Nodup)
    {p q : α → Bool} :
    (xs.filter p).map f = (xs.filter q).map f ↔ ∀ x ∈ xs, p x = q x := by
  constructor
  · intro same x member
    have transfer : ∀ {p q : α → Bool}, (xs.filter p).map f = (xs.filter q).map f →
        p x = true → q x = true := by
      intro p q same holds
      have image : f x ∈ (xs.filter q).map f := by
        rw [← same]
        exact List.mem_map_of_mem (List.mem_filter.mpr ⟨member, holds⟩)
      obtain ⟨y, kept, sameImage⟩ := List.mem_map.mp image
      obtain ⟨listed, holdsY⟩ := List.mem_filter.mp kept
      rwa [← List.inj_on_of_nodup_map distinct listed member sameImage]
    rw [Bool.eq_iff_iff]
    exact ⟨transfer same, transfer same.symm⟩
  · intro same
    rw [List.filter_congr same]

end Filters

theorem getElem?_previousLabels {labels : List (Option String)} {i : Nat}
    (inside : i < labels.length) :
    (previousLabels labels)[i]? = some (labelBefore labels i) := by
  rw [previousLabels, List.getElem?_map, List.getElem?_dropLast, List.length_cons,
    if_pos (by omega)]
  cases i with
  | zero => rfl
  | succ i =>
      have present : labels[i]? = some labels[i] := List.getElem?_eq_getElem (by omega)
      rw [List.getElem?_cons_succ, labelBefore, labelAt, present]
      rfl

theorem length_previousLabels (labels : List (Option String)) :
    (previousLabels labels).length = labels.length := by
  simp [previousLabels]

section Series
variable {T F : Type}

def returnsAfterLabel (returns : Series T F) (labels : List (Option String)) (regimeId : String) :
    Series T F :=
  (returns.zipIdx.filter fun row => labelBefore labels row.2 == regimeId).map Prod.fst

def entriesAfterLabel (entries : Series T (Option Bool)) (labels : List (Option String))
    (regimeId : String) : List T :=
  (entries.zipIdx.filter fun row =>
    labelBefore labels row.2 == regimeId && row.1.2.getD false).map fun row => row.1.1

/-- A second list read along the positions of the first. -/
theorem zip_eq_zipIdx {α β : Type} {xs : List α} {ys : List β} {f : Nat → β}
    (length : ys.length = xs.length) (values : ∀ i, i < xs.length → ys[i]? = some (f i)) :
    xs.zip ys = xs.zipIdx.map fun row => (row.1, f row.2) := by
  apply List.ext_getElem
  · simp [length]
  · intro i inZip inIdx
    have inside : i < xs.length := by
      rw [List.length_map, List.length_zipIdx] at inIdx
      exact inIdx
    obtain ⟨_, value⟩ := List.getElem?_eq_some_iff.mp (values i inside)
    simp [value]

variable {labels : Series T (Option String)}

theorem labelAt_snd {i : Nat} (inside : i < labels.length) :
    (labels.map Prod.snd)[i]? = some (labelAt (labels.map Prod.snd) i) := by
  have present : (labels.map Prod.snd)[i]? = some (labels[i].2) := by
    rw [List.getElem?_map, List.getElem?_eq_getElem inside]
    rfl
  rw [labelAt, present]
  rfl

theorem entriesCounted_eq {entries : Series T (Option Bool)}
    (length : labels.length = entries.length) (regimeId : String) :
    entriesCounted labels entries regimeId =
      (entries.zipIdx.filter fun row =>
        labelAt (labels.map Prod.snd) row.2 == some regimeId && row.1.2.getD false).map
          fun row => row.1.1 := by
  have rows : entries.zip (labels.map Prod.snd) =
      entries.zipIdx.map fun row => (row.1, labelAt (labels.map Prod.snd) row.2) := by
    apply zip_eq_zipIdx
    · rw [List.length_map, length]
    · intro i inside
      exact labelAt_snd (by omega)
  have counted : entriesCounted labels entries regimeId =
      ((entries.zip (labels.map Prod.snd)).filter fun row =>
        row.2 == some regimeId && row.1.2.getD false).map fun row => row.1.1 := by
    rw [entriesCounted, List.zip_map_right, List.filter_map, List.map_map]
    rfl
  rw [counted, rows, List.filter_map, List.map_map]
  rfl

/-- The entries counted for a regime are those whose returns go to it exactly when the two
labels of every entry's period agree on it. -/
theorem entriesCounted_eq_after_iff {entries : Series T (Option Bool)}
    (length : labels.length = entries.length) (distinct : (entries.map Prod.fst).Nodup)
    (regimeId : String) :
    entriesCounted labels entries regimeId =
        entriesAfterLabel entries (labels.map Prod.snd) regimeId ↔
      ∀ i time, entries[i]? = some (time, some true) →
        (labelAt (labels.map Prod.snd) i = some regimeId ↔
          labelBefore (labels.map Prod.snd) i = regimeId) := by
  have times : (entries.zipIdx.map fun row => row.1.1).Nodup := by
    have same : (entries.zipIdx.map fun row => row.1.1) = entries.map Prod.fst := by
      conv_rhs => rw [← List.zipIdx_map_fst 0 entries]
      rw [List.map_map]
      rfl
    rwa [same]
  rw [entriesCounted_eq length, entriesAfterLabel, filter_map_eq_iff times]
  constructor
  · intro agree i time entered
    have row := agree ((time, some true), i) (List.mk_mem_zipIdx_iff_getElem?.mpr entered)
    simp only [Option.getD_some, Bool.and_true] at row
    rwa [Bool.eq_iff_iff, beq_iff_eq, beq_iff_eq] at row
  · rintro agree ⟨⟨time, entry⟩, i⟩ member
    have present := List.mk_mem_zipIdx_iff_getElem?.mp member
    rcases entry with _ | _ | _
    · simp only [Option.getD_none, Bool.and_false]
    · simp only [Option.getD_some, Bool.and_false]
    · simp only [Option.getD_some, Bool.and_true]
      rw [Bool.eq_iff_iff, beq_iff_eq, beq_iff_eq]
      exact agree i time present

end Series

/-! ## What an evaluation measures -/

theorem mem_regimeIds {regimes : List String} {regimeId : String} :
    regimeId ∈ regimeIds regimes ↔ regimeId ∈ regimes ∧ regimeId ≠ unknownRegime := by
  rw [regimeIds, List.mem_insertionSort, List.mem_filter, List.mem_eraseDups, bne_iff_ne]

theorem regimeIds_nodup (regimes : List String) : (regimeIds regimes).Nodup := by
  have distinct : regimes.eraseDups.Nodup := eraseDups_nodup regimes
  exact (List.perm_insertionSort _ _).nodup_iff.mpr (distinct.filter _)

section Runs
variable {T F : Type} [LinearOrder T]
variable {engine : RegimeEngine F} {isoformat : T → String} {config : RegimeConfig F}
  {limits : RegimeLimits F} {returns : Series T F} {labels : Series T (Option String)}
  {entries : Series T (Option Bool)}

omit [LinearOrder T] in
theorem regimeResult_ok {regimeId : String} {group : Series T F} {tradeCount : Option Nat}
    {result : RegimeEvaluationResult F}
    (ok : regimeResult engine isoformat config limits regimeId group tradeCount = .ok result) :
    result.regimeId = regimeId ∧ result.tradeCount = tradeCount := by
  obtain ⟨components, _, ok⟩ := bind_eq_ok.mp ok
  dsimp only at ok
  split at ok
  · cases ok
    exact ⟨rfl, rfl⟩
  · cases ok
    exact ⟨rfl, rfl⟩

theorem attributeReturnsToRegimes_ok {attributed : List (AttributedReturn T F)}
    (ok : attributeReturnsToRegimes engine returns labels = .ok attributed) :
    returns.map Prod.fst = labels.map Prod.fst ∧ (returns.map Prod.fst).Nodup ∧
      attributed = returns.zipIdx.map fun row =>
        ⟨row.1.1, row.1.2, labelBefore (labels.map Prod.snd) row.2⟩ := by
  obtain ⟨⟨⟩, valid, ok⟩ := bind_eq_ok.mp ok
  obtain ⟨-, valid⟩ := raiseIf_bind_eq_ok.mp valid
  obtain ⟨distinct, -⟩ := raiseIf_bind_eq_ok.mp valid
  obtain ⟨⟨⟩, -, ok⟩ := bind_eq_ok.mp ok
  obtain ⟨aligned, ok⟩ := raiseIf_bind_eq_ok.mp ok
  obtain ⟨-, ok⟩ := raiseIf_bind_eq_ok.mp ok
  have same : returns.map Prod.fst = labels.map Prod.fst := by simpa using aligned
  have length : labels.length = returns.length := by
    simpa using (congrArg List.length same).symm
  refine ⟨same, by simpa using distinct, ?_⟩
  cases ok
  have rows : returns.zip (previousLabels (labels.map Prod.snd)) =
      returns.zipIdx.map fun row => (row.1, labelBefore (labels.map Prod.snd) row.2) := by
    apply zip_eq_zipIdx
    · rw [length_previousLabels, List.length_map, length]
    · intro i inside
      apply getElem?_previousLabels
      rw [List.length_map]
      omega
  rw [rows, List.map_map]
  rfl

omit [LinearOrder T] in
theorem returnsOf_attributed (labels : List (Option String)) (regimeId : String) :
    returnsOf (returns.zipIdx.map fun row =>
        (⟨row.1.1, row.1.2, labelBefore labels row.2⟩ : AttributedReturn T F)) regimeId =
      returnsAfterLabel returns labels regimeId := by
  rw [returnsOf, List.filter_map, List.map_map]
  rfl

def evaluatedRegimes (returns : Series T F) (labels : List (Option String)) : List String :=
  regimeIds (returns.zipIdx.map fun row => labelBefore labels row.2)

omit [LinearOrder T] in
theorem mem_evaluatedRegimes {labels : List (Option String)} {regimeId : String} :
    regimeId ∈ evaluatedRegimes returns labels ↔
      (∃ i < returns.length, labelBefore labels i = regimeId) ∧ regimeId ≠ unknownRegime := by
  rw [evaluatedRegimes, mem_regimeIds]
  refine and_congr_left fun _ => ?_
  constructor
  · intro member
    obtain ⟨⟨entry, i⟩, listed, rfl⟩ := List.mem_map.mp member
    have present := List.mk_mem_zipIdx_iff_getElem?.mp listed
    exact ⟨i, (List.getElem?_eq_some_iff.mp present).1, rfl⟩
  · rintro ⟨i, inside, rfl⟩
    apply List.mem_map.mpr
    refine ⟨(returns[i], i), ?_, rfl⟩
    exact List.mk_mem_zipIdx_iff_getElem?.mpr (List.getElem?_eq_getElem inside)

theorem evaluateRegimes_ok {results : List (RegimeEvaluationResult F)}
    (ok : evaluateRegimes engine isoformat config limits returns labels (some entries) =
      .ok results) :
    labels.length = returns.length ∧ entries.length = returns.length ∧
      (entries.map Prod.fst).Nodup ∧
      collect (fun regimeId =>
        regimeResult engine isoformat config limits regimeId
          (returnsAfterLabel returns (labels.map Prod.snd) regimeId)
          (some (entriesCounted labels entries regimeId).length))
        (evaluatedRegimes returns (labels.map Prod.snd)) = .ok results := by
  obtain ⟨attributed, attributedOk, ok⟩ := bind_eq_ok.mp ok
  obtain ⟨same, distinct, rfl⟩ := attributeReturnsToRegimes_ok attributedOk
  obtain ⟨⟨⟩, valid, ok⟩ := bind_eq_ok.mp ok
  obtain ⟨⟨⟩, -, valid⟩ := bind_eq_ok.mp valid
  obtain ⟨aligned, -⟩ := raiseIf_bind_eq_ok.mp valid
  have sameEntries : entries.map Prod.fst = returns.map Prod.fst := by simpa using aligned
  refine ⟨by simpa using (congrArg List.length same).symm,
    by simpa using congrArg List.length sameEntries, by rwa [sameEntries], ?_⟩
  simp only [returnsOf_attributed, Option.map_some, List.map_map] at ok
  exact ok

/-! ## The two groupings -/

/-- Every return is measured in the regime of the label before it and in no other; that
label does not depend on later ones. -/
structure ReturnsGoToTheLabelBefore (engine : RegimeEngine F) (isoformat : T → String)
    (config : RegimeConfig F) (limits : RegimeLimits F) (returns : Series T F)
    (labels : List (Option String)) (results : List (RegimeEvaluationResult F)) : Prop where
  measured : ∀ result ∈ results, regimeResult engine isoformat config limits result.regimeId
    (returnsAfterLabel returns labels result.regimeId) result.tradeCount = .ok result
  onceEach : (results.map (·.regimeId)).Nodup
  none_lost : ∀ i < returns.length, labelBefore labels i = unknownRegime ∨
    labelBefore labels i ∈ results.map (·.regimeId)
  past_only : ∀ (others : List (Option String)) (i : Nat),
    (∀ j < i, labelAt others j = labelAt labels j) → labelBefore others i = labelBefore labels i

def EntriesGoWithTheirReturns (labels : Series T (Option String))
    (entries : Series T (Option Bool)) (results : List (RegimeEvaluationResult F)) : Prop :=
  ∀ result ∈ results,
    result.tradeCount = some (entriesCounted labels entries result.regimeId).length ∧
      entriesCounted labels entries result.regimeId =
        entriesAfterLabel entries (labels.map Prod.snd) result.regimeId

/-- No entry is made in a period whose label differs from the label before, unless neither
of the two is a regime that returns go to. -/
def EntriesKeepTheLabel (labels : List (Option String)) (entries : Series T (Option Bool)) :
    Prop :=
  ∀ i time, entries[i]? = some (time, some true) →
    labelAt labels i = some (labelBefore labels i) ∨
      (labelBefore labels i = unknownRegime ∧
        ∀ j < entries.length, labelAt labels i ≠ some (labelBefore labels j))

omit [LinearOrder T] in
theorem collected_regimes {regimes : List String} {group : String → Series T F}
    {tradeCount : String → Option Nat} {results : List (RegimeEvaluationResult F)}
    (collected : collect (fun regimeId => regimeResult engine isoformat config limits regimeId
      (group regimeId) (tradeCount regimeId)) regimes = .ok results) :
    results.map (·.regimeId) = regimes ∧ ∀ result ∈ results,
      result.tradeCount = tradeCount result.regimeId ∧
        regimeResult engine isoformat config limits result.regimeId (group result.regimeId)
          result.tradeCount = .ok result := by
  have pairs := collect_eq_ok.mp collected
  clear collected
  induction pairs with
  | nil => simp
  | @cons regimeId result regimes results head _ ih =>
      obtain ⟨names, each⟩ := ih
      obtain ⟨name, count⟩ := regimeResult_ok head
      constructor
      · rw [List.map_cons, name, names]
      · intro other member
        rcases List.mem_cons.mp member with rfl | inRest
        · rw [name, count]
          exact ⟨rfl, head⟩
        · exact each other inRest

theorem returns_go_to_the_label_before {results : List (RegimeEvaluationResult F)}
    (ok : evaluateRegimes engine isoformat config limits returns labels (some entries) =
      .ok results) :
    ReturnsGoToTheLabelBefore engine isoformat config limits returns (labels.map Prod.snd)
      results := by
  obtain ⟨_, _, _, collected⟩ := evaluateRegimes_ok ok
  obtain ⟨names, each⟩ := collected_regimes collected
  refine ⟨fun result member => (each result member).2, ?_, ?_, ?_⟩
  · rw [names]
    exact regimeIds_nodup _
  · intro i inside
    by_cases unknown : labelBefore (labels.map Prod.snd) i = unknownRegime
    · exact Or.inl unknown
    · rw [names]
      exact Or.inr (mem_evaluatedRegimes.mpr ⟨⟨i, inside, rfl⟩, unknown⟩)
  · intro others i agree
    cases i with
    | zero => rfl
    | succ i => rw [labelBefore, labelBefore, agree i (by omega)]

theorem entries_go_with_their_returns_iff {results : List (RegimeEvaluationResult F)}
    (ok : evaluateRegimes engine isoformat config limits returns labels (some entries) =
      .ok results) :
    EntriesGoWithTheirReturns labels entries results ↔
      EntriesKeepTheLabel (labels.map Prod.snd) entries := by
  obtain ⟨sameLabels, sameEntries, distinct, collected⟩ := evaluateRegimes_ok ok
  obtain ⟨names, each⟩ := collected_regimes collected
  have sameLength : labels.length = entries.length := by omega
  have evaluated : ∀ regimeId, regimeId ∈ results.map (·.regimeId) ↔
      (∃ i < returns.length, labelBefore (labels.map Prod.snd) i = regimeId) ∧
        regimeId ≠ unknownRegime := by
    intro regimeId
    rw [names, mem_evaluatedRegimes]
  constructor
  · intro follow i time entered
    have inside : i < entries.length := (List.getElem?_eq_some_iff.mp entered).1
    have agree : ∀ regimeId ∈ results.map (·.regimeId),
        (labelAt (labels.map Prod.snd) i = some regimeId ↔
          labelBefore (labels.map Prod.snd) i = regimeId) := by
      intro regimeId member
      obtain ⟨result, listed, rfl⟩ := List.mem_map.mp member
      exact (entriesCounted_eq_after_iff sameLength distinct result.regimeId).mp
        (follow result listed).2 i time entered
    by_cases kept : labelAt (labels.map Prod.snd) i = some (labelBefore (labels.map Prod.snd) i)
    · exact Or.inl kept
    · right
      have unknown : labelBefore (labels.map Prod.snd) i = unknownRegime := by
        by_contra known
        have member := (evaluated _).mpr ⟨⟨i, by omega, rfl⟩, known⟩
        exact kept ((agree _ member).mpr rfl)
      refine ⟨unknown, ?_⟩
      intro j inRange same
      by_cases known : labelBefore (labels.map Prod.snd) j = unknownRegime
      · rw [known, ← unknown] at same
        exact kept same
      · have member := (evaluated _).mpr ⟨⟨j, by omega, rfl⟩, known⟩
        exact known (((agree _ member).mp same).symm.trans unknown)
  · intro keep result member
    refine ⟨(each result member).1, ?_⟩
    obtain ⟨⟨j, inRange, before⟩, known⟩ :=
      (evaluated result.regimeId).mp (List.mem_map_of_mem member)
    apply (entriesCounted_eq_after_iff sameLength distinct result.regimeId).mpr
    intro i time entered
    rcases keep i time entered with same | ⟨unknown, never⟩
    · rw [same, Option.some_inj]
    · constructor
      · intro now
        exact absurd (now.trans (congrArg some before.symm)) (never j (by omega))
      · intro earlier
        exact absurd (earlier.symm.trans unknown) known

/-- The trade counts and the returns of every regime are about the same trades exactly when
entries keep the label. -/
theorem regimes_describe_their_trades_iff {results : List (RegimeEvaluationResult F)}
    (ok : evaluateRegimes engine isoformat config limits returns labels (some entries) =
      .ok results) :
    (ReturnsGoToTheLabelBefore engine isoformat config limits returns (labels.map Prod.snd)
        results ∧ EntriesGoWithTheirReturns labels entries results) ↔
      EntriesKeepTheLabel (labels.map Prod.snd) entries := by
  rw [← entries_go_with_their_returns_iff ok]
  exact and_iff_right (returns_go_to_the_label_before ok)

end Runs

/-! ## An entry on the first bar of a regime -/

def drawdownStep (state : ℚ × ℚ × ℚ) (value : ℚ) : ℚ × ℚ × ℚ :=
  let wealth := state.1 * (1 + value)
  let peak := max state.2.1 wealth
  (wealth, peak, min state.2.2 (wealth / peak - 1))

def singleReturnEngine : RegimeEngine ℚ where
  isFinite _ := true
  cumulativeReturn values := values.foldl (fun wealth value => wealth * (1 + value)) 1 - 1
  maximumDrawdown values := (values.foldl drawdownStep (1, 1, 0)).2.2
  pathSharpe _ _ := 0
  winRate values := (values.filter (0 < ·)).length / values.length
  absolute := abs
  le x y := decide (x ≤ y)
  repr _ := "a number"

def twoRegimesConfig : RegimeConfig ℚ := ⟨252, 1, some 1⟩

def noLossLimits : RegimeLimits ℚ := ⟨0, 1 / 4, none⟩

def dayText (day : Nat) : String := if day = 1 then "2020-01-02" else "2020-01-03"

def threeReturns : Series Nat ℚ := [(0, 0), (1, 1 / 10), (2, 1 / 20)]

def turningLabels : Series Nat (Option String) :=
  [(0, some "bullish|low_volatility"), (1, some "bearish|high_volatility"),
    (2, some "bearish|high_volatility")]

def entryAtTheTurn : Series Nat (Option Bool) := [(0, some false), (1, some true), (2, some false)]

def entryAfterTheTurn : Series Nat (Option Bool) :=
  [(0, some false), (1, some false), (2, some true)]

/-- The entry of the first bearish bar is counted as bearish; its return is bullish. -/
theorem entry_at_the_turn_is_misplaced :
    ∃ results, evaluateRegimes singleReturnEngine dayText twoRegimesConfig noLossLimits
        threeReturns turningLabels (some entryAtTheTurn) = .ok results ∧
      results.map (fun result => (result.regimeId, result.tradeCount)) =
        [("bearish|high_volatility", some 1), ("bullish|low_volatility", some 0)] ∧
      entriesAfterLabel entryAtTheTurn (turningLabels.map Prod.snd) "bullish|low_volatility" =
        [1] ∧
      ¬ EntriesGoWithTheirReturns turningLabels entryAtTheTurn results := by
  have counts : (evaluateRegimes singleReturnEngine dayText twoRegimesConfig noLossLimits
      threeReturns turningLabels (some entryAtTheTurn)).toOption.map
        (fun results => results.map fun result => (result.regimeId, result.tradeCount)) =
      some [("bearish|high_volatility", some 1), ("bullish|low_volatility", some 0)] := by
    decide +kernel
  cases run : evaluateRegimes singleReturnEngine dayText twoRegimesConfig noLossLimits
      threeReturns turningLabels (some entryAtTheTurn) with
  | error raised =>
      rw [run] at counts
      cases counts
  | ok results =>
      rw [run] at counts
      have named : results.map (fun result => (result.regimeId, result.tradeCount)) =
          [("bearish|high_volatility", some 1), ("bullish|low_volatility", some 0)] :=
        Option.some.inj counts
      refine ⟨results, rfl, named, by decide +kernel, ?_⟩
      intro follow
      have listed : ("bullish|low_volatility", some 0) ∈
          results.map fun result => (result.regimeId, result.tradeCount) := by
        rw [named]
        simp
      obtain ⟨result, member, same⟩ := List.mem_map.mp listed
      obtain ⟨name, -⟩ := Prod.mk.inj same
      have agree := (follow result member).2
      rw [name] at agree
      exact absurd agree (by decide +kernel)

/-- One bar later the two agree. -/
theorem entry_after_the_turn_is_placed :
    ∃ results, evaluateRegimes singleReturnEngine dayText twoRegimesConfig noLossLimits
        threeReturns turningLabels (some entryAfterTheTurn) = .ok results ∧
      ReturnsGoToTheLabelBefore singleReturnEngine dayText twoRegimesConfig noLossLimits
        threeReturns (turningLabels.map Prod.snd) results ∧
      EntriesGoWithTheirReturns turningLabels entryAfterTheTurn results := by
  cases run : evaluateRegimes singleReturnEngine dayText twoRegimesConfig noLossLimits
      threeReturns turningLabels (some entryAfterTheTurn) with
  | error raised =>
      have total : (evaluateRegimes singleReturnEngine dayText twoRegimesConfig noLossLimits
          threeReturns turningLabels (some entryAfterTheTurn)).toOption.isSome = true := by
        decide +kernel
      rw [run] at total
      cases total
  | ok results =>
      refine ⟨results, rfl, (regimes_describe_their_trades_iff run).mpr ?_⟩
      intro i time entered
      left
      rcases i with _ | _ | _ | i
      · cases entered
      · cases entered
      · rfl
      · cases entered

end QuantFactory.Robustness
