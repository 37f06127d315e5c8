import QuantFactory.MarketData.Bars

/-!
# What a top-up stores

`AlpacaSipProvider.top_up` and `VbtSipProvider.top_up` up to the file they write: what a
call decides to store from the committed bars and the vendor's answers, and what the
validated candidate keeps of the store.
-/

set_option autoImplicit false

namespace QuantFactory.MarketData

open QuantFactory.Library

inductive TopUpMode where
  | full
  | incremental
  | refetchedAfterAdjustmentChange
  deriving DecidableEq, Repr

/-- What `_store` is going to write, its listing gap already cut. -/
structure Candidate (F : Type) where
  frame : List (Bar F)
  previous : Option (List (Bar F))
  mode : TopUpMode
  discarded : Option Nat
  endOfData : Int
  storedRows : Nat

inductive TopUpPlan (F : Type) where
  | raises
  | current
  | store (candidate : Candidate F)

inductive PullStatus where
  | full
  | incremental
  | refetchedAfterAdjustmentChange
  | current
  deriving DecidableEq, Repr

/-- What `pull_or_update` returns. -/
structure VbtPull (F : Type) where
  bars : List (RawBar F)
  status : PullStatus

/-- A call, with what the vendor answers to its requests; `none` where a request raises. -/
inductive TopUpCall (F : Type) where
  | legacy (since : Int) (answer : Nat → Int → Int → Option (List (RawBar F)))
  | vbt (pulled : Option (VbtPull F))

section Plans
variable {F : Type} [BarNumber F] [DecidableEq F] (clock : MarketClock)

/-- `_store` up to the file it writes. -/
def storeCandidate (frame : List (Bar F)) (previous : Option (List (Bar F))) (mode : TopUpMode)
    (endOfData : Int) (storedRows : Option Nat) : Candidate F :=
  let (kept, newCut) := cutAtLastListingGap clock frame
  let previous := if newCut.isSome then none else previous
  { frame := kept, previous, mode, discarded := newCut, endOfData
    storedRows := storedRows.getD ((previous.map List.length).getD 0) }

/-- The end of both `top_up`s: nothing is stored that ends earlier or says the same. -/
def storeUnlessCurrent (existing frame : List (Bar F)) (candidate : Candidate F) : TopUpPlan F :=
  if !endsAtOrAfter frame existing || sameBars frame existing then .current else .store candidate

/-- `AlpacaSipProvider.top_up`. -/
def legacyPlan (since endOfData : Int) (answer : Nat → Int → Int → Option (List (RawBar F)))
    (existing : List (Bar F)) : TopUpPlan F :=
  let fetch (request : Nat) (start : Int) : Option (List (Bar F)) :=
    (answer request start endOfData).map (markSessions clock)
  match existing.head?, existing.getLast? with
  | some first, some lastStored =>
      if endOfData ≤ lastStored.timestamp then .current
      else
        let kept := keptBars clock existing
        match kept.getLast? with
        | none => match fetch 0 first.timestamp with
            | none => .raises
            | some combined => storeUnlessCurrent existing combined
                (storeCandidate clock combined none .incremental endOfData existing.length)
        | some anchor => match fetch 0 anchor.timestamp with
            | none => .raises
            | some fetched =>
                if overlapMatches anchor fetched then
                  let later := fetched.filter (anchor.timestamp < ·.timestamp)
                  storeUnlessCurrent existing (kept ++ later) (storeCandidate clock
                    (kept ++ later) (some kept) .incremental endOfData existing.length)
                else match fetch 1 first.timestamp with
                  | none => .raises
                  | some refetched => .store (storeCandidate clock refetched none
                      .refetchedAfterAdjustmentChange endOfData none)
  | _, _ => match fetch 0 since with
      | none => .raises
      | some frame => .store (storeCandidate clock frame none .full endOfData none)

def olderBars (existing : List (Bar F)) : List (Bar F) :=
  match existing.getLast? with
  | none => []
  | some lastStored =>
      existing.filter (·.timestamp < clock.sessionStart lastStored.timestamp)

/-- `VbtSipProvider.top_up`. -/
def vbtPlan (endOfData : Int) (pulled : Option (VbtPull F)) (existing : List (Bar F)) :
    TopUpPlan F :=
  if existing.getLast?.any (endOfData ≤ ·.timestamp) then .current
  else match pulled with
    | none => .raises
    | some pull =>
        let frame := markSessions clock pull.bars
        let adjusted := decide (pull.status = .refetchedAfterAdjustmentChange)
        if existing = [] then
          if frame = [] then .raises
          else .store (storeCandidate clock frame none .full endOfData none)
        else storeUnlessCurrent existing frame (storeCandidate clock frame
          (if adjusted then none else some (olderBars clock existing))
          (if adjusted then .refetchedAfterAdjustmentChange else .incremental)
          endOfData existing.length)

def TopUpCall.plan (endOfData : Int) (existing : List (Bar F)) : TopUpCall F → TopUpPlan F
  | .legacy since answer => legacyPlan clock since endOfData answer existing
  | .vbt pulled => vbtPlan clock endOfData pulled existing

/-- An adjustment refetch that is stored ends no earlier than the store, and a VBT answer that
repeats the compared columns of the older bars repeats their trade counts and averages. -/
def TopUpCall.KeepsStored (endOfData : Int) (existing : List (Bar F)) : TopUpCall F → Prop
  | .legacy _ answer => ∀ first anchor fetched refetched, existing.head? = some first →
      (keptBars clock existing).getLast? = some anchor →
      answer 0 anchor.timestamp endOfData = some fetched →
      overlapMatches anchor (markSessions clock fetched) = false →
      answer 1 first.timestamp endOfData = some refetched →
      validateBars (cutAtLastListingGap clock (markSessions clock refetched)).1 endOfData none =
        [] →
      endsAtOrAfter (markSessions clock refetched) existing = true
  | .vbt pulled => ∀ pull, pulled = some pull → pull.status ≠ .refetchedAfterAdjustmentChange →
      listingGapRow clock (markSessions clock pull.bars) = none →
      validateBars (markSessions clock pull.bars) endOfData (some (olderBars clock existing)) = [] →
      (pull.bars.take (olderBars clock existing).length).map
          (fun bar => (bar.tradeCount, bar.vwap)) =
        (olderBars clock existing).map (fun bar => (bar.tradeCount, bar.vwap))

/-! ## What a plan stores -/

def Labelled (frame : List (Bar F)) : Prop :=
  ∀ bar ∈ frame, bar.session = clock.sessionLabel bar.timestamp

/-- Once validated, the candidate ends no earlier than the store and, unless it was cut or
fetched again after an adjustment, holds every bar before the last stored session. -/
def Candidate.Follows (existing : List (Bar F)) (candidate : Candidate F) : Prop :=
  validateBars candidate.frame candidate.endOfData candidate.previous = [] → existing ≠ [] →
    endsAtOrAfter candidate.frame existing = true ∧
      (candidate.discarded = none → candidate.mode ≠ .refetchedAfterAdjustmentChange →
        ∀ bar ∈ existing, BeforeLastSession clock existing bar → bar ∈ candidate.frame)

omit [BarNumber F] [DecidableEq F] in
theorem markSessions_labelled (frame : List (RawBar F)) :
    Labelled clock (markSessions clock frame) := by
  intro bar member
  obtain ⟨raw, -, rfl⟩ := List.mem_map.mp member
  rfl

omit [BarNumber F] [DecidableEq F] in
theorem Labelled.subset {frame other : List (Bar F)} (labelled : Labelled clock frame)
    (subset : other ⊆ frame) : Labelled clock other :=
  fun bar member => labelled bar (subset member)

omit [BarNumber F] [DecidableEq F] in
theorem storeCandidate_labelled {frame : List (Bar F)} (labelled : Labelled clock frame)
    (previous : Option (List (Bar F))) (mode : TopUpMode) (endOfData : Int)
    (storedRows : Option Nat) :
    Labelled clock (storeCandidate clock frame previous mode endOfData storedRows).frame :=
  labelled.subset clock (cut_subset clock frame)

/-- An uncut candidate is checked against the given previous bars. -/
theorem storeCandidate_follows {existing frame : List (Bar F)}
    {previous : Option (List (Bar F))} {mode : TopUpMode} {endOfData : Int}
    {storedRows : Option Nat}
    (ends : validateBars (cutAtLastListingGap clock frame).1 endOfData
      (storeCandidate clock frame previous mode endOfData storedRows).previous = [] →
      endsAtOrAfter frame existing = true)
    (keeps : listingGapRow clock frame = none → mode ≠ .refetchedAfterAdjustmentChange →
      validateBars frame endOfData previous = [] →
      ∀ bar ∈ existing, BeforeLastSession clock existing bar → bar ∈ frame) :
    (storeCandidate clock frame previous mode endOfData storedRows).Follows clock existing := by
  intro accepted _
  refine ⟨?_, ?_⟩
  · have longer := ends accepted
    rw [← endsAtOrAfter_cut clock] at longer
    exact longer
  · intro uncut notRefetched bar stored before
    have whole : listingGapRow clock frame = none := by
      simp only [storeCandidate, cutAtLastListingGap] at uncut
      cases found : listingGapRow clock frame with
      | none => rfl
      | some row => simp [found] at uncut
    have same : cutAtLastListingGap clock frame = (frame, none) := by
      simp [cutAtLastListingGap, whole]
    have checked : validateBars frame endOfData previous = [] := by
      simpa [storeCandidate, same] using accepted
    have member := keeps whole notRefetched checked bar stored before
    simpa [storeCandidate, same] using member

theorem storeUnlessCurrent_eq_store {existing frame : List (Bar F)}
    {candidate stored : Candidate F}
    (planned : storeUnlessCurrent existing frame candidate = .store stored) :
    stored = candidate ∧ endsAtOrAfter frame existing = true := by
  unfold storeUnlessCurrent at planned
  split at planned
  · cases planned
  · rename_i neither
    simp only [Bool.or_eq_true, Bool.not_eq_true', not_or, Bool.not_eq_false] at neither
    cases planned
    exact ⟨rfl, neither.1⟩

omit [BarNumber F] [DecidableEq F] in
theorem keptBars_none {existing : List (Bar F)} (increasing : Increasing existing)
    (none : (keptBars clock existing).getLast? = none) (bar : Bar F) (stored : bar ∈ existing) :
    ¬ BeforeLastSession clock existing bar := by
  intro before
  have member := mem_keptBars increasing stored before
  rw [List.getLast?_eq_none_iff] at none
  rw [none] at member
  cases member

/-- A legacy call stores what follows the store, when it is not an adjustment refetch that ends
earlier. -/
theorem legacyPlan_follows {since endOfData : Int}
    {answer : Nat → Int → Int → Option (List (RawBar F))} {existing : List (Bar F)}
    {candidate : Candidate F} (increasing : Increasing existing)
    (keepsStored : (TopUpCall.legacy since answer).KeepsStored clock endOfData existing)
    (planned : legacyPlan clock since endOfData answer existing = .store candidate) :
    candidate.Follows clock existing := by
  intro accepted nonempty
  revert accepted
  obtain ⟨first, head⟩ := Option.isSome_iff_exists.mp (List.isSome_head?.mpr nonempty)
  obtain ⟨lastStored, last⟩ : ∃ lastStored, existing.getLast? = some lastStored :=
    ⟨_, List.getLast?_eq_some_getLast nonempty⟩
  simp only [legacyPlan, head, last] at planned
  split at planned
  · cases planned
  cases keptLast : (keptBars clock existing).getLast? with
  | none =>
      simp only [keptLast] at planned
      cases fetched : answer 0 first.timestamp endOfData with
      | none => simp [fetched] at planned
      | some combined =>
          simp only [fetched, Option.map_some] at planned
          obtain ⟨rfl, longer⟩ := storeUnlessCurrent_eq_store planned
          intro accepted
          refine storeCandidate_follows clock (fun _ => longer) ?_ accepted nonempty
          intro _ _ _ bar stored before
          exact absurd before (keptBars_none clock increasing keptLast bar stored)
  | some anchor =>
      simp only [keptLast] at planned
      cases fetched : answer 0 anchor.timestamp endOfData with
      | none => simp [fetched] at planned
      | some overlap =>
          simp only [fetched, Option.map_some] at planned
          split at planned
          · obtain ⟨rfl, longer⟩ := storeUnlessCurrent_eq_store planned
            intro accepted
            refine storeCandidate_follows clock (fun _ => longer) ?_ accepted nonempty
            intro _ _ _ bar stored before
            exact List.mem_append_left _ (mem_keptBars increasing stored before)
          · rename_i moved
            cases again : answer 1 first.timestamp endOfData with
            | none => simp [again] at planned
            | some refetched =>
                simp only [again, Option.map_some] at planned
                cases planned
                intro accepted
                refine storeCandidate_follows clock (fun validated => ?_) ?_ accepted nonempty
                · refine keepsStored first anchor overlap refetched head keptLast fetched
                    (by simpa using moved) again ?_
                  simpa [storeCandidate] using validated
                · intro _ refetch
                  exact absurd rfl refetch

omit [BarNumber F] [DecidableEq F] in
theorem mem_olderBars {existing : List (Bar F)} {bar : Bar F} (stored : bar ∈ existing)
    (before : BeforeLastSession clock existing bar) : bar ∈ olderBars clock existing := by
  obtain ⟨lastStored, last, earlier⟩ := before
  simp only [olderBars, last, List.mem_filter, decide_eq_true_eq]
  exact ⟨stored, earlier⟩

omit [BarNumber F] [DecidableEq F] in
/-- A labelled bar is the one with its compared columns, its trade count and its average. -/
theorem bar_ext_of_keys {bar other : Bar F} (keys : bar.keys = other.keys)
    (counts : (bar.tradeCount, bar.vwap) = (other.tradeCount, other.vwap))
    (label : bar.session = clock.sessionLabel bar.timestamp)
    (otherLabel : other.session = clock.sessionLabel other.timestamp) : bar = other := by
  obtain ⟨⟨timestamp, openPrice, high, low, closePrice, volume, tradeCount, vwap⟩, session⟩ := bar
  obtain ⟨⟨timestamp', openPrice', high', low', closePrice', volume', tradeCount', vwap'⟩,
    session'⟩ := other
  change session = clock.sessionLabel timestamp at label
  change session' = clock.sessionLabel timestamp' at otherLabel
  simp only [RawBar.keys, RawBar.prices, Prod.mk.injEq, List.cons.injEq] at keys counts
  obtain ⟨rfl, ⟨rfl, rfl, rfl, rfl, -⟩, rfl⟩ := keys
  obtain ⟨rfl, rfl⟩ := counts
  rw [label, otherLabel]

omit [BarNumber F] [DecidableEq F] in
/-- Frames that agree row by row in the columns and the labels are the same. -/
theorem frame_ext_of_keys {frame other : List (Bar F)}
    (keys : frame.map (·.keys) = other.map (·.keys))
    (counts : frame.map (fun bar => (bar.tradeCount, bar.vwap)) =
      other.map (fun bar => (bar.tradeCount, bar.vwap)))
    (labelled : Labelled clock frame) (otherLabelled : Labelled clock other) : frame = other := by
  induction frame generalizing other with
  | nil =>
      symm
      simpa using keys
  | cons bar rest ih =>
      cases other with
      | nil => simp at keys
      | cons first others =>
          simp only [List.map_cons, List.cons.injEq] at keys counts
          have head := bar_ext_of_keys clock keys.1 counts.1 (labelled bar List.mem_cons_self)
            (otherLabelled first List.mem_cons_self)
          have tail := ih keys.2 counts.2 (labelled.subset clock (List.subset_cons_self bar rest))
            (otherLabelled.subset clock (List.subset_cons_self first others))
          rw [head, tail]

/-- A VBT call stores what follows the store, when its answer does not change the trade count or
average of an older bar. -/
theorem vbtPlan_follows {endOfData : Int} {pulled : Option (VbtPull F)}
    {existing : List (Bar F)} {candidate : Candidate F} (labelled : Labelled clock existing)
    (keepsStored : (TopUpCall.vbt pulled).KeepsStored clock endOfData existing)
    (planned : vbtPlan clock endOfData pulled existing = .store candidate) :
    candidate.Follows clock existing := by
  intro accepted nonempty
  revert accepted
  simp only [vbtPlan, nonempty, if_false] at planned
  split at planned
  · cases planned
  cases pulled with
  | none => cases planned
  | some pull =>
      obtain ⟨rfl, longer⟩ := storeUnlessCurrent_eq_store planned
      intro accepted
      refine storeCandidate_follows clock (fun _ => longer) ?_ accepted nonempty
      intro uncut mode validated bar stored before
      have unadjusted : pull.status ≠ .refetchedAfterAdjustmentChange := by
        intro adjusted
        simp [adjusted] at mode
      simp only [unadjusted, decide_false, Bool.false_eq_true, if_false] at validated
      have keys := validateBars_prefix validated
      have counts := keepsStored pull rfl unadjusted uncut validated
      have older : Labelled clock (olderBars clock existing) := by
        refine labelled.subset clock ?_
        unfold olderBars
        cases existing.getLast? with
        | none => exact List.nil_subset existing
        | some lastStored => exact List.filter_subset_self existing
      have same := frame_ext_of_keys clock keys
        (by simpa [markSessions, ← List.map_take, Function.comp_def] using counts)
        ((markSessions_labelled clock pull.bars).subset clock (List.take_subset _ _)) older
      have member := mem_olderBars clock stored before
      rw [← same] at member
      exact List.mem_of_mem_take member

theorem plan_follows {call : TopUpCall F} {endOfData : Int} {existing : List (Bar F)}
    {candidate : Candidate F} (increasing : Increasing existing)
    (labelled : Labelled clock existing) (keepsStored : call.KeepsStored clock endOfData existing)
    (planned : call.plan clock endOfData existing = .store candidate) :
    candidate.Follows clock existing := by
  cases call with
  | legacy since answer => exact legacyPlan_follows clock increasing keepsStored planned
  | vbt pulled => exact vbtPlan_follows clock labelled keepsStored planned

theorem storeUnlessCurrent_labelled {existing frame : List (Bar F)}
    {previous : Option (List (Bar F))} {mode : TopUpMode} {endOfData : Int}
    {storedRows : Option Nat} {candidate : Candidate F} (labelled : Labelled clock frame)
    (planned : storeUnlessCurrent existing frame
      (storeCandidate clock frame previous mode endOfData storedRows) = .store candidate) :
    Labelled clock candidate.frame := by
  obtain ⟨rfl, -⟩ := storeUnlessCurrent_eq_store planned
  exact storeCandidate_labelled clock labelled previous mode endOfData storedRows

theorem legacyPlan_labelled {since endOfData : Int}
    {answer : Nat → Int → Int → Option (List (RawBar F))} {existing : List (Bar F)}
    {candidate : Candidate F} (labelled : Labelled clock existing)
    (planned : legacyPlan clock since endOfData answer existing = .store candidate) :
    Labelled clock candidate.frame := by
  simp only [legacyPlan] at planned
  split at planned
  · rename_i first lastStored head last
    split at planned
    · cases planned
    split at planned
    · cases fetched : answer 0 first.timestamp endOfData with
      | none => simp [fetched] at planned
      | some combined =>
          simp only [fetched, Option.map_some] at planned
          exact storeUnlessCurrent_labelled clock (markSessions_labelled clock combined) planned
    · rename_i anchor keptLast
      cases fetched : answer 0 anchor.timestamp endOfData with
      | none => simp [fetched] at planned
      | some overlap =>
          simp only [fetched, Option.map_some] at planned
          split at planned
          · refine storeUnlessCurrent_labelled clock ?_ planned
            intro bar member
            rcases List.mem_append.mp member with kept | later
            · simp only [keptBars, last] at kept
              exact labelled bar (List.mem_of_mem_take kept)
            · exact markSessions_labelled clock overlap bar (List.mem_filter.mp later).1
          · cases again : answer 1 first.timestamp endOfData with
            | none => simp [again] at planned
            | some refetched =>
                simp only [again, Option.map_some] at planned
                cases planned
                exact storeCandidate_labelled clock (markSessions_labelled clock refetched) _ _ _ _
  · cases fetched : answer 0 since endOfData with
    | none => simp [fetched] at planned
    | some frame =>
        simp only [fetched, Option.map_some] at planned
        cases planned
        exact storeCandidate_labelled clock (markSessions_labelled clock frame) _ _ _ _

theorem vbtPlan_labelled {endOfData : Int} {pulled : Option (VbtPull F)}
    {existing : List (Bar F)} {candidate : Candidate F}
    (planned : vbtPlan clock endOfData pulled existing = .store candidate) :
    Labelled clock candidate.frame := by
  simp only [vbtPlan] at planned
  split at planned
  · cases planned
  cases pulled with
  | none => cases planned
  | some pull =>
      have marked := markSessions_labelled clock pull.bars
      dsimp only at planned
      split at planned
      · split at planned
        · cases planned
        · cases planned
          exact storeCandidate_labelled clock marked _ _ _ _
      · exact storeUnlessCurrent_labelled clock marked planned

theorem plan_labelled {call : TopUpCall F} {endOfData : Int} {existing : List (Bar F)}
    {candidate : Candidate F} (labelled : Labelled clock existing)
    (planned : call.plan clock endOfData existing = .store candidate) :
    Labelled clock candidate.frame := by
  cases call with
  | legacy since answer => exact legacyPlan_labelled clock labelled planned
  | vbt pulled => exact vbtPlan_labelled clock planned

end Plans

end QuantFactory.MarketData
