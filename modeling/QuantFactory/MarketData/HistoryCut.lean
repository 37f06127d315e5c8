import Mathlib.Data.Finset.Card
import Mathlib.Data.List.Nodup
import Mathlib.Tactic.IntervalCases
import QuantFactory.MarketData.ListingGap
import QuantFactory.MarketData.TopUpRuns

/-!
# The record of the discarded bars

`_store` cuts the frame it is given at the last listing gap and adds what it cut to the record of
the committed manifest.  The record counts cut rows, so it counts a bar again that a later frame
presents again.
-/

set_option autoImplicit false

namespace QuantFactory.MarketData

open QuantFactory.Library

/-! ## The record -/

/-- `history_cut` of a manifest; the reason names the sessions of the silence and the bars around
it. -/
structure HistoryCut where
  discardedFrom : Int
  discardedTo : Int
  discardedRows : Nat
  sessionsBetween : Nat
  keptFrom : Int
  deriving DecidableEq, Repr

section Record
variable {F : Type} (clock : MarketClock)

/-- The record `cut_at_last_listing_gap` returns. -/
def describeCut (frame : List (Bar F)) : Option HistoryCut := do
  let row ← listingGapRow clock frame
  let first ← frame.head?
  let before ← frame[row - 1]?
  let after ← frame[row]?
  some ⟨first.timestamp, before.timestamp, row,
    clock.validDaysBetween (clock.day before.timestamp) (clock.day after.timestamp),
    after.timestamp⟩

/-- The record `_store` writes: a new cut continues the earlier one. -/
def mergeCut (earlier new : Option HistoryCut) : Option HistoryCut :=
  match new, earlier with
  | none, earlier => earlier
  | some new, none => some new
  | some new, some earlier => some
      { new with
        discardedFrom := earlier.discardedFrom
        discardedRows := earlier.discardedRows + new.discardedRows }

def recordedRows (cut : Option HistoryCut) : Nat := (cut.map HistoryCut.discardedRows).getD 0

def cutOffRows (frame : List (Bar F)) : List (Bar F) :=
  frame.take ((listingGapRow clock frame).getD 0)

theorem recordedRows_mergeCut (earlier new : Option HistoryCut) :
    recordedRows (mergeCut earlier new) = recordedRows earlier + recordedRows new := by
  cases new with
  | none => rfl
  | some new => cases earlier <;> simp [mergeCut, recordedRows]

theorem recordedRows_describeCut (frame : List (Bar F)) :
    recordedRows (describeCut clock frame) = (cutOffRows clock frame).length := by
  cases found : listingGapRow clock frame with
  | none => simp [describeCut, cutOffRows, recordedRows, found]
  | some row =>
      have inside := listingGapRow_inside found
      have nonempty : 0 < frame.length := by omega
      simp only [describeCut, cutOffRows, recordedRows, found, List.head?_eq_getElem?,
        Option.bind_eq_bind, Option.bind_some, List.getElem?_eq_getElem nonempty,
        List.getElem?_eq_getElem inside,
        List.getElem?_eq_getElem (show row - 1 < frame.length by omega), Option.map_some,
        Option.getD_some, List.length_take]
      omega

end Record

/-! ## Top-ups one after another -/

section Calls
variable {F : Type} [BarNumber F] [DecidableEq F] (clock : MarketClock)

/-- The frame a call hands to `_store`. -/
def TopUpCall.presented (call : TopUpCall F) (endOfData : Int) (existing : List (Bar F)) :
    List (Bar F) :=
  match call with
  | .vbt pulled => markSessions clock ((pulled.map VbtPull.bars).getD [])
  | .legacy since answer =>
      let fetch (request : Nat) (start : Int) : List (Bar F) :=
        markSessions clock ((answer request start endOfData).getD [])
      match existing.head? with
      | none => fetch 0 since
      | some first =>
          match (keptBars clock existing).getLast? with
          | none => fetch 0 first.timestamp
          | some anchor =>
              let fetched := fetch 0 anchor.timestamp
              if overlapMatches anchor fetched then
                keptBars clock existing ++ fetched.filter (anchor.timestamp < ·.timestamp)
              else fetch 1 first.timestamp

theorem plan_presented {call : TopUpCall F} {endOfData : Int} {existing : List (Bar F)}
    {candidate : Candidate F} (planned : call.plan clock endOfData existing = .store candidate) :
    ∃ previous mode storedRows, candidate = storeCandidate clock
      (call.presented clock endOfData existing) previous mode endOfData storedRows := by
  cases call with
  | vbt pulled =>
      simp only [TopUpCall.plan, vbtPlan] at planned
      split at planned
      · cases planned
      cases pulled with
      | none => cases planned
      | some pull =>
          dsimp only at planned
          split at planned
          · split at planned
            · cases planned
            · cases planned
              exact ⟨_, _, _, rfl⟩
          · obtain ⟨rfl, -⟩ := storeUnlessCurrent_eq_store planned
            exact ⟨_, _, _, rfl⟩
  | legacy since answer =>
      simp only [TopUpCall.plan, legacyPlan] at planned
      simp only [TopUpCall.presented]
      cases existing with
      | nil =>
          simp only [List.head?_nil] at planned ⊢
          cases fetched : answer 0 since endOfData with
          | none => simp [fetched] at planned
          | some frame =>
              simp only [fetched, Option.map_some] at planned
              cases planned
              exact ⟨_, _, _, rfl⟩
      | cons first rest =>
          simp only [List.head?_cons, List.getLast?_cons] at planned ⊢
          split at planned
          · cases planned
          cases last : (keptBars clock (first :: rest)).getLast? with
          | none =>
              simp only [last] at planned
              cases fetched : answer 0 first.timestamp endOfData with
              | none => simp [fetched] at planned
              | some combined =>
                  simp only [fetched, Option.map_some] at planned
                  obtain ⟨rfl, -⟩ := storeUnlessCurrent_eq_store planned
                  exact ⟨_, _, _, rfl⟩
          | some anchor =>
              simp only [last] at planned
              cases fetched : answer 0 anchor.timestamp endOfData with
              | none => simp [fetched] at planned
              | some overlap =>
                  simp only [fetched, Option.map_some, Option.getD_some] at planned ⊢
                  split at planned
                  · rename_i matching
                    obtain ⟨rfl, -⟩ := storeUnlessCurrent_eq_store planned
                    simp only [matching, if_true]
                    exact ⟨_, _, _, rfl⟩
                  · rename_i moved
                    cases again : answer 1 first.timestamp endOfData with
                    | none => simp [again] at planned
                    | some refetched =>
                        simp only [again, Option.map_some] at planned
                        cases planned
                        simp only [moved, Option.getD_some]
                        exact ⟨_, _, _, rfl⟩

/-- The committed bars with their record; the timestamps of all rows cut off so far are kept
beside them for the statements. -/
structure CutState (F : Type) where
  bars : List (Bar F)
  historyCut : Option HistoryCut
  cutOff : List Int

def cutStep (state : CutState F) (call : TopUpCall F × Int) : CutState F :=
  match call.1.plan clock call.2 state.bars with
  | .store candidate =>
      if validateBars candidate.frame candidate.endOfData candidate.previous = [] then
        let presented := call.1.presented clock call.2 state.bars
        { bars := candidate.frame
          historyCut := mergeCut state.historyCut (describeCut clock presented)
          cutOff := state.cutOff ++ (cutOffRows clock presented).map (·.timestamp) }
      else state
  | _ => state

def CutState.fresh : CutState F := ⟨[], none, []⟩

def CountsEachOnce (state : CutState F) : Prop :=
  recordedRows state.historyCut = state.cutOff.toFinset.card

/-- The rows a stored frame loses are different bars, none of which was cut off before. -/
def CutsNewBars (state : CutState F) (call : TopUpCall F × Int) : Prop :=
  ∀ candidate, call.1.plan clock call.2 state.bars = .store candidate →
    validateBars candidate.frame candidate.endOfData candidate.previous = [] →
    let rows := (cutOffRows clock (call.1.presented clock call.2 state.bars)).map (·.timestamp)
    rows.Nodup ∧ ∀ timestamp ∈ rows, timestamp ∉ state.cutOff

theorem cutStep_cases (state : CutState F) (call : TopUpCall F × Int) :
    (cutStep clock state call = state ∧ CutsNewBars clock state call) ∨
    ∃ candidate, call.1.plan clock call.2 state.bars = .store candidate ∧
      validateBars candidate.frame candidate.endOfData candidate.previous = [] ∧
      cutStep clock state call =
        { bars := candidate.frame
          historyCut := mergeCut state.historyCut
            (describeCut clock (call.1.presented clock call.2 state.bars))
          cutOff := state.cutOff ++
            (cutOffRows clock (call.1.presented clock call.2 state.bars)).map (·.timestamp) } := by
  cases planned : call.1.plan clock call.2 state.bars with
  | store candidate =>
      by_cases valid : validateBars candidate.frame candidate.endOfData candidate.previous = []
      · right
        refine ⟨candidate, rfl, valid, ?_⟩
        rw [cutStep, planned]
        exact if_pos valid
      · left
        refine ⟨?_, ?_⟩
        · rw [cutStep, planned]
          exact if_neg valid
        · intro other same accepted
          rw [planned] at same
          cases same
          exact absurd accepted valid
  | raises =>
      left
      refine ⟨by rw [cutStep, planned], fun candidate same => ?_⟩
      rw [planned] at same
      cases same
  | current =>
      left
      refine ⟨by rw [cutStep, planned], fun candidate same => ?_⟩
      rw [planned] at same
      cases same

def RecordCountsRows (state : CutState F) : Prop :=
  recordedRows state.historyCut = state.cutOff.length

theorem recordedRows_cutStep {state : CutState F} {call : TopUpCall F × Int}
    (counts : RecordCountsRows state) : RecordCountsRows (cutStep clock state call) := by
  rcases cutStep_cases clock state call with ⟨same, -⟩ | ⟨candidate, -, -, same⟩
  · rw [same]
    exact counts
  · rw [RecordCountsRows] at counts ⊢
    rw [same, recordedRows_mergeCut, recordedRows_describeCut, List.length_append, counts,
      List.length_map]

omit [BarNumber F] [DecidableEq F] in
theorem countsEachOnce_iff {state : CutState F}
    (counts : RecordCountsRows state) : CountsEachOnce state ↔ state.cutOff.Nodup := by
  rw [RecordCountsRows] at counts
  rw [CountsEachOnce, counts, eq_comm]
  exact (Multiset.toFinset_card_eq_card_iff_nodup (m := (state.cutOff : Multiset Int)))

/-- A call keeps the rows cut off apart exactly when it cuts new ones. -/
theorem nodup_cutStep_iff {state : CutState F} {call : TopUpCall F × Int}
    (apart : state.cutOff.Nodup) :
    (cutStep clock state call).cutOff.Nodup ↔ CutsNewBars clock state call := by
  rcases cutStep_cases clock state call with ⟨same, new⟩ | ⟨candidate, planned, valid, same⟩
  · rw [same]
    exact iff_of_true apart new
  · rw [same, List.nodup_append]
    constructor
    · rintro ⟨-, rows, disjoint⟩ other stored -
      refine ⟨rows, fun timestamp member before => ?_⟩
      exact disjoint timestamp before timestamp member rfl
    · intro new
      obtain ⟨rows, fresh⟩ := new candidate planned valid
      refine ⟨apart, rows, ?_⟩
      rintro timestamp before other member rfl
      exact fresh timestamp member before

theorem recordedRows_run (calls : List (TopUpCall F × Int)) :
    RecordCountsRows (run (cutStep clock) CutState.fresh calls) :=
  run_invariant (cutStep clock) (fun _ _ counts => recordedRows_cutStep clock counts) calls _ rfl

/-- After every call of a run the record gives the number of different bars cut off, exactly when
every call of the run cuts new ones. -/
theorem countsEachOnce_run_iff (calls : List (TopUpCall F × Int)) :
    (∀ earlier, earlier <+: calls →
        CountsEachOnce (run (cutStep clock) CutState.fresh earlier)) ↔
      Along (cutStep clock) (CutsNewBars clock) CutState.fresh calls := by
  rw [← prefixes_iff_along (cutStep clock) (fun state => state.cutOff.Nodup)
    (fun state call apart => nodup_cutStep_iff clock apart) calls CutState.fresh List.nodup_nil]
  refine forall_congr' fun earlier => imp_congr_right fun _ => ?_
  exact countsEachOnce_iff (recordedRows_run clock earlier)

/-! ## The provider without a second store -/

/-- A call of the legacy class whose answers hold each bar once, in order and from the requested
start on. -/
def InOrder (call : TopUpCall F × Int) : Prop :=
  match call.1 with
  | .legacy _ answer => ∀ request start frame, answer request start call.2 = some frame →
      (frame.map (·.timestamp)).Pairwise (· < ·) ∧ ∀ bar ∈ frame, start ≤ bar.timestamp
  | .vbt _ => False

structure CutBefore (state : CutState F) : Prop where
  increasing : Increasing state.bars
  before : ∀ timestamp ∈ state.cutOff, ∀ bar ∈ state.bars, timestamp < bar.timestamp
  nothing : state.bars = [] → state.cutOff = []

omit [BarNumber F] [DecidableEq F] in
theorem increasing_sublist {frame part : List (Bar F)} (increasing : Increasing frame)
    (sublist : part.Sublist frame) : Increasing part :=
  increasing.sublist (sublist.map _)

omit [BarNumber F] [DecidableEq F] in
theorem increasing_append {first second : List (Bar F)} (before : Increasing first)
    (after : Increasing second)
    (apart : ∀ bar ∈ first, ∀ later ∈ second, bar.timestamp < later.timestamp) :
    Increasing (first ++ second) := by
  rw [Increasing, List.map_append, List.pairwise_append]
  refine ⟨before, after, ?_⟩
  intro timestamp member other later
  obtain ⟨bar, inFirst, rfl⟩ := List.mem_map.mp member
  obtain ⟨next, inSecond, rfl⟩ := List.mem_map.mp later
  exact apart bar inFirst next inSecond

omit [BarNumber F] [DecidableEq F] in
theorem increasing_head {first : Bar F} {frame : List (Bar F)} (increasing : Increasing frame)
    (head : frame.head? = some first) : ∀ bar ∈ frame, first.timestamp ≤ bar.timestamp := by
  cases frame with
  | nil => cases head
  | cons bar rest =>
      cases head
      intro other member
      rcases List.mem_cons.mp member with rfl | later
      · exact le_refl _
      · have less := (List.pairwise_cons.mp increasing).1 other.timestamp
          (List.mem_map.mpr ⟨other, later, rfl⟩)
        exact le_of_lt less

omit [BarNumber F] [DecidableEq F] in
theorem increasing_last {last : Bar F} {frame : List (Bar F)} (increasing : Increasing frame)
    (ends : frame.getLast? = some last) : ∀ bar ∈ frame, bar.timestamp ≤ last.timestamp := by
  obtain ⟨front, rfl⟩ := List.getLast?_eq_some_iff.mp ends
  rw [Increasing, List.map_append, List.pairwise_append] at increasing
  intro bar member
  rcases List.mem_append.mp member with earlier | same
  · exact le_of_lt (increasing.2.2 bar.timestamp (List.mem_map.mpr ⟨bar, earlier, rfl⟩)
      last.timestamp (by simp))
  · rw [List.mem_singleton.mp same]

omit [BarNumber F] [DecidableEq F] in
theorem fetched_inOrder {since endOfData : Int}
    {answer : Nat → Int → Int → Option (List (RawBar F))}
    (inOrder : InOrder (.legacy since answer, endOfData)) (request : Nat) (start : Int) :
    Increasing (markSessions clock ((answer request start endOfData).getD [])) ∧
      ∀ bar ∈ markSessions clock ((answer request start endOfData).getD []),
        start ≤ bar.timestamp := by
  cases fetched : answer request start endOfData with
  | none => exact ⟨List.Pairwise.nil, fun bar member => by cases member⟩
  | some frame =>
      obtain ⟨ordered, from_⟩ := inOrder request start frame fetched
      refine ⟨?_, ?_⟩
      · rw [Increasing, Option.getD_some, markSessions, List.map_map]
        exact ordered
      · intro bar member
        obtain ⟨raw, inside, rfl⟩ := List.mem_map.mp member
        exact from_ raw inside

omit [DecidableEq F] in
/-- What a call of the legacy class presents is in order, and starts with the stored bars. -/
theorem presented_inOrder {call : TopUpCall F × Int} (inOrder : InOrder call)
    {existing : List (Bar F)} (increasing : Increasing existing) :
    Increasing (call.1.presented clock call.2 existing) ∧
      ∀ first, existing.head? = some first →
        ∀ bar ∈ call.1.presented clock call.2 existing, first.timestamp ≤ bar.timestamp := by
  obtain ⟨call, endOfData⟩ := call
  cases call with
  | vbt pulled => cases inOrder
  | legacy since answer =>
      have fetched := fetched_inOrder clock inOrder
      simp only [TopUpCall.presented]
      cases head : existing.head? with
      | none => exact ⟨(fetched 0 since).1, fun first same => by cases same⟩
      | some first =>
          cases last : (keptBars clock existing).getLast? with
          | none =>
              refine ⟨(fetched 0 first.timestamp).1, fun other same => ?_⟩
              cases same
              exact (fetched 0 first.timestamp).2
          | some anchor =>
              dsimp only
              obtain ⟨ordered, from_⟩ := fetched 0 anchor.timestamp
              have part : (keptBars clock existing).Sublist existing := by
                unfold keptBars
                cases existing.getLast? with
                | none => exact List.nil_sublist existing
                | some lastStored => exact List.take_sublist _ existing
              have kept := increasing_sublist increasing part
              have anchored : first.timestamp ≤ anchor.timestamp :=
                increasing_head increasing head anchor
                  (part.subset (List.mem_of_getLast? last))
              split
              · refine ⟨increasing_append kept
                  (increasing_sublist ordered List.filter_sublist) ?_, ?_⟩
                · intro bar member later behind
                  have after := of_decide_eq_true (List.mem_filter.mp behind).2
                  exact lt_of_le_of_lt (increasing_last kept last bar member) after
                · intro other same bar member
                  cases same
                  rcases List.mem_append.mp member with stored | later
                  · exact increasing_head increasing head bar (part.subset stored)
                  · exact le_trans anchored (from_ bar (List.mem_filter.mp later).1)
              · refine ⟨(fetched 1 first.timestamp).1, fun other same => ?_⟩
                cases same
                exact (fetched 1 first.timestamp).2

theorem cutStep_inOrder {state : CutState F} {call : TopUpCall F × Int}
    (sound : CutBefore state) (inOrder : InOrder call) :
    CutsNewBars clock state call ∧ CutBefore (cutStep clock state call) := by
  obtain ⟨increasing, starts⟩ := presented_inOrder clock inOrder sound.increasing
  generalize shown : call.1.presented clock call.2 state.bars = frame at increasing starts
  -- a presented bar lies behind all that were cut off
  have behind : ∀ timestamp ∈ state.cutOff, ∀ bar ∈ frame, timestamp < bar.timestamp := by
    intro timestamp member bar presented
    cases head : state.bars.head? with
    | none =>
        rw [sound.nothing (List.head?_eq_none_iff.mp head)] at member
        cases member
    | some first =>
        have before := sound.before timestamp member first (List.mem_of_head? head)
        exact lt_of_lt_of_le before (starts first head bar presented)
  have cut : Increasing (cutOffRows clock frame) :=
    increasing_sublist increasing (List.take_sublist _ frame)
  refine ⟨?_, ?_⟩
  · intro candidate _ _
    rw [shown]
    refine ⟨cut.imp ne_of_lt, ?_⟩
    intro timestamp member before
    obtain ⟨bar, inside, rfl⟩ := List.mem_map.mp member
    exact lt_irrefl _ (behind _ before bar (List.mem_of_mem_take inside))
  · rcases cutStep_cases clock state call with ⟨same, -⟩ | ⟨candidate, planned, valid, same⟩
    · rw [same]
      exact sound
    · obtain ⟨previous, mode, storedRows, rfl⟩ := plan_presented clock planned
      rw [same, shown]
      have kept : (storeCandidate clock frame previous mode call.2 storedRows).frame =
          frame.drop ((listingGapRow clock frame).getD 0) := by
        unfold storeCandidate cutAtLastListingGap
        cases listingGapRow clock frame <;> rfl
      rw [shown] at valid
      refine ⟨validateBars_increasing valid, ?_, fun empty => absurd empty
        (validateBars_nonempty valid)⟩
      rw [kept]
      intro timestamp member bar stored
      rcases List.mem_append.mp member with before | now
      · exact behind timestamp before bar (List.mem_of_mem_drop stored)
      · obtain ⟨other, discarded, rfl⟩ := List.mem_map.mp now
        have parts := increasing
        rw [← List.take_append_drop ((listingGapRow clock frame).getD 0) frame, Increasing,
          List.map_append, List.pairwise_append] at parts
        exact parts.2.2 _ (List.mem_map.mpr ⟨other, discarded, rfl⟩) _
          (List.mem_map.mpr ⟨bar, stored, rfl⟩)

theorem along_cutsNewBars (calls : List (TopUpCall F × Int)) : ∀ state : CutState F,
    CutBefore state → (∀ call ∈ calls, InOrder call) →
      Along (cutStep clock) (CutsNewBars clock) state calls := by
  induction calls with
  | nil => intro state _ _; trivial
  | cons call rest ih =>
      intro state sound inOrder
      obtain ⟨new, next⟩ := cutStep_inOrder clock sound (inOrder call List.mem_cons_self)
      exact ⟨new, ih _ next fun other member =>
        inOrder other (List.mem_cons_of_mem call member)⟩

/-- Top-ups of the legacy class alone count every discarded bar once. -/
theorem legacy_top_ups_count_each_bar_once (calls : List (TopUpCall F × Int))
    (inOrder : ∀ call ∈ calls, InOrder call) (earlier : List (TopUpCall F × Int))
    (before : earlier <+: calls) :
    CountsEachOnce (run (cutStep clock) CutState.fresh earlier) := by
  refine (countsEachOnce_run_iff clock calls).mpr ?_ earlier before
  refine along_cutsNewBars clock calls _ ⟨List.Pairwise.nil, ?_, fun _ => rfl⟩ inOrder
  intro timestamp member
  cases member

/-! ## The calls as file operations -/

section Files
variable (sha : Sha256) (verifySha256 : Bool) (codec : ParquetCodec F) (symbol : String)

/-- With no call running the later actions of one leave the store alone. -/
theorem run_idle (store : PriceStore) (held : Option (Candidate F)) :
    run (topUpStep sha verifySha256 codec clock symbol) ⟨store, .idle, held⟩
      [.place, .describe, .commit] = ⟨store, .idle, held⟩ := by
  cases held with
  | none => rfl
  | some candidate =>
      by_cases valid : candidate.isValid (codec.read (codec.write candidate.frame)) = true <;>
      simp [topUpStep, fileAction, nextCandidate, refreshStep, valid]

theorem run_unplanned {store : PriceStore} (held : Option (Candidate F)) {call : TopUpCall F}
    {endOfData : Int} (unplanned : ∀ candidate,
      call.plan clock endOfData (committedBars codec store) ≠ .store candidate) :
    run (topUpStep sha verifySha256 codec clock symbol) ⟨store, .idle, held⟩
      (wholeTopUp call endOfData) = ⟨store, .idle, held⟩ := by
  have begun : topUpStep sha verifySha256 codec clock symbol ⟨store, .idle, held⟩
      (.begin call endOfData) = ⟨store, .idle, held⟩ := by
    cases planned : call.plan clock endOfData (committedBars codec store) with
    | store candidate => exact absurd planned (unplanned candidate)
    | raises => simp [topUpStep, fileAction, nextCandidate, refreshStep, planned]
    | current => simp [topUpStep, fileAction, nextCandidate, refreshStep, planned]
  rw [wholeTopUp, untilCommit, List.cons_append, run_cons, begun, List.cons_append,
    List.cons_append, List.nil_append, run_idle]

theorem run_refused {store : PriceStore} {slot : String}
    (chosen : refreshPath sha verifySha256 (.sip symbol) store = some slot)
    (held : Option (Candidate F)) {call : TopUpCall F} {endOfData : Int} {candidate : Candidate F}
    (planned : call.plan clock endOfData (committedBars codec store) = .store candidate)
    (refused : ¬validateBars candidate.frame candidate.endOfData candidate.previous = []) :
    run (topUpStep sha verifySha256 codec clock symbol) ⟨store, .idle, held⟩
      (wholeTopUp call endOfData) = ⟨store, .idle, some candidate⟩ := by
  simp [wholeTopUp, untilCommit, topUpStep, fileAction, nextCandidate, refreshStep, planned,
    chosen, Candidate.isValid, codec.read_write, refused]

def Refreshes (store : PriceStore) : Prop :=
  ∃ slot, refreshPath sha verifySha256 (.sip symbol) store = some slot

theorem run_wholeTopUp_bars {store : PriceStore} (accepted : Refreshes sha verifySha256 symbol store)
    (held : Option (Candidate F)) (call : TopUpCall F × Int) (cut : Option HistoryCut)
    (cutOff : List Int) :
    ∃ after candidate, run (topUpStep sha verifySha256 codec clock symbol) ⟨store, .idle, held⟩
        (wholeTopUp call.1 call.2) = ⟨after, .idle, candidate⟩ ∧
      Refreshes sha verifySha256 symbol after ∧
      committedBars codec after =
        (cutStep clock ⟨committedBars codec store, cut, cutOff⟩ call).bars := by
  cases planned : call.1.plan clock call.2 (committedBars codec store) with
  | store candidate =>
      obtain ⟨slot, chosen⟩ := accepted
      by_cases valid : validateBars candidate.frame candidate.endOfData candidate.previous = []
      · refine ⟨_, _, run_wholeTopUp sha verifySha256 codec clock symbol planned chosen valid,
          ⟨_, refreshPath_afterTopUp sha verifySha256 codec symbol store slot candidate.frame⟩, ?_⟩
        simp [cutStep, planned, valid]
      · refine ⟨_, _, run_refused clock sha verifySha256 codec symbol chosen held planned valid,
          ⟨slot, chosen⟩, ?_⟩
        simp [cutStep, planned, valid]
  | raises =>
      refine ⟨_, _, run_unplanned clock sha verifySha256 codec symbol held (by simp [planned]),
        accepted, ?_⟩
      simp [cutStep, planned]
  | current =>
      refine ⟨_, _, run_unplanned clock sha verifySha256 codec symbol held (by simp [planned]),
        accepted, ?_⟩
      simp [cutStep, planned]

def wholeTopUps (calls : List (TopUpCall F × Int)) : List (TopUpAction F) :=
  calls.flatMap fun call => wholeTopUp call.1 call.2

theorem committedBars_wholeTopUps (calls : List (TopUpCall F × Int)) {store : PriceStore}
    (accepted : Refreshes sha verifySha256 symbol store) (held : Option (Candidate F))
    (cut : Option HistoryCut) (cutOff : List Int) :
    committedBars codec (run (topUpStep sha verifySha256 codec clock symbol) ⟨store, .idle, held⟩
      (wholeTopUps calls)).store =
    (run (cutStep clock) ⟨committedBars codec store, cut, cutOff⟩ calls).bars := by
  induction calls generalizing store held cut cutOff with
  | nil => rfl
  | cons call rest ih =>
      obtain ⟨after, candidate, done, next, bars⟩ :=
        run_wholeTopUp_bars clock sha verifySha256 codec symbol accepted held call cut cutOff
      rw [wholeTopUps, List.flatMap_cons, run_append, done, run_cons]
      exact (ih next candidate _ _).trans (by rw [bars])

theorem committedBars_fromNothing (calls : List (TopUpCall F × Int)) {store : PriceStore}
    (nothing : store.manifest = none) :
    committedBars codec (run (topUpStep sha verifySha256 codec clock symbol)
      (TopUpState.fresh store) (wholeTopUps calls)).store =
    (run (cutStep clock) CutState.fresh calls).bars := by
  have accepted : Refreshes sha verifySha256 symbol store :=
    ⟨slotRelativePath symbol (inactiveSlot none), by simp [refreshPath, nothing]⟩
  have empty : committedBars codec store = [] := by simp [committedBars, nothing]
  have same := committedBars_wholeTopUps clock sha verifySha256 codec symbol calls accepted none
    none []
  rw [empty] at same
  exact same

end Files

/-! ## The cut and its record -/

/-- **The listing-gap cut.** Of every frame the rows behind the last silence of more than ten
sessions are kept, the days in front of the session count hide none, and a second cut changes
nothing; after every call of a run the record gives the number of different bars cut off, exactly
when every frame that is stored loses new ones only.  The bars of such a run are those its file
operations commit. -/
theorem listing_gap_cut_iff {isSession : Int → Bool} (follows : clock.Follows isSession)
    (closed : ClosedTwoInTwelve isSession) :
    (∀ frame : List (Bar F),
      KeepsAfterLastSilence clock isSession frame (cutAtLastListingGap clock frame).1 ∧
      (∀ row, SilentBefore clock isSession frame row → isListingGap clock frame row = true) ∧
      (cutAtLastListingGap clock (cutAtLastListingGap clock frame).1).1 =
        (cutAtLastListingGap clock frame).1) ∧
    ∀ calls : List (TopUpCall F × Int),
      ((∀ earlier, earlier <+: calls →
        CountsEachOnce (run (cutStep clock) CutState.fresh earlier)) ↔
      Along (cutStep clock) (CutsNewBars clock) CutState.fresh calls) ∧
      ∀ (sha : Sha256) (verifySha256 : Bool) (codec : ParquetCodec F) (symbol : String)
        (store : PriceStore), store.manifest = none →
        committedBars codec (run (topUpStep sha verifySha256 codec clock symbol)
          (TopUpState.fresh store) (wholeTopUps calls)).store =
        (run (cutStep clock) CutState.fresh calls).bars := by
  refine ⟨fun frame => ⟨cut_keeps follows closed frame, ?_, ?_⟩, fun calls =>
    ⟨countsEachOnce_run_iff clock calls, fun sha verifySha256 codec symbol _ nothing =>
      committedBars_fromNothing clock sha verifySha256 codec symbol calls nothing⟩⟩
  · intro row silent
    exact (isListingGap_iff follows closed row).mpr silent
  · rw [cut_again]

end Calls

/-! ## Two calls -/

def isWeekday (day : Int) : Bool := decide (day % 7 < 5)

def weekClock : MarketClock where
  sessionStart timestamp := timestamp / 86400000000000 * 86400000000000
  day timestamp := timestamp / 86400000000000
  sessionLabel _ := "regular"
  validDaysBetween := sessionsBetween isWeekday

theorem weekend_closed : ClosedTwoInTwelve isWeekday := by
  intro day
  have residue : ∀ offset : Nat, isWeekday (day + offset) = isWeekday (day % 7 + offset) := by
    intro offset
    simp [isWeekday]
  simp only [residue]
  have range : 0 ≤ day % 7 ∧ day % 7 < 7 := by omega
  generalize day % 7 = first at range
  obtain ⟨low, high⟩ := range
  interval_cases first <;> decide

/-- The history of two securities under one ticker, answered by the VBT class up to a day. -/
def reusedTicker (lastDay : Int) : TopUpCall Int × Int :=
  (.vbt (some ⟨([0, 1, 20, 21, 22].filter (· ≤ lastDay)).map sampleBar, .incremental⟩),
    lastDay * 86400000000000)

theorem first_cut_is_counted :
    KeepsAfterLastSilence weekClock isWeekday (markSessions weekClock ([0, 1, 20].map sampleBar))
      (cutAtLastListingGap weekClock (markSessions weekClock ([0, 1, 20].map sampleBar))).1 ∧
    CountsEachOnce (run (cutStep weekClock) CutState.fresh [reusedTicker 21]) := by
  have follows : weekClock.Follows isWeekday := fun _ _ => rfl
  obtain ⟨cut, counted⟩ := @listing_gap_cut_iff Int _ _ weekClock isWeekday follows weekend_closed
  refine ⟨(cut _).1, (counted [reusedTicker 21]).1.mpr ⟨?_, trivial⟩ _ (List.prefix_refl _)⟩
  intro candidate _ _
  decide +kernel

/-- The second call is given the first security's bars again, and counts them again. -/
theorem presented_again_is_counted_again :
    weekClock.Follows isWeekday ∧ ClosedTwoInTwelve isWeekday ∧
      ¬ CountsEachOnce (run (cutStep weekClock) CutState.fresh [reusedTicker 21, reusedTicker 22]) := by
  refine ⟨fun _ _ => rfl, weekend_closed, ?_⟩
  rw [CountsEachOnce]
  decide +kernel

/-- The same history, answered by the legacy class from the requested start on. -/
def reusedTickerFrom (lastDay : Int) : TopUpCall Int × Int :=
  (.legacy 0 fun _ start stop =>
      some ((([0, 1, 20, 21, 22].map sampleBar).filter fun bar => decide (bar.timestamp ≤ stop)).filter
        fun bar => decide (start ≤ bar.timestamp)),
    lastDay * 86400000000000)

theorem reusedTickerFrom_inOrder (lastDay : Int) : InOrder (reusedTickerFrom lastDay) := by
  intro request start frame answered
  cases answered
  refine ⟨?_, fun bar member => of_decide_eq_true (List.mem_filter.mp member).2⟩
  have ordered : (([0, 1, 20, 21, 22].map sampleBar).map RawBar.timestamp).Pairwise (· < ·) := by
    decide
  exact ordered.sublist ((List.filter_sublist.trans List.filter_sublist).map _)

theorem legacy_top_ups_of_reused_ticker :
    CountsEachOnce (run (cutStep weekClock) CutState.fresh
      [reusedTickerFrom 21, reusedTickerFrom 22]) :=
  legacy_top_ups_count_each_bar_once weekClock [reusedTickerFrom 21, reusedTickerFrom 22]
    (fun call member => by
      rcases List.mem_pair.mp member with rfl | rfl
      · exact reusedTickerFrom_inOrder 21
      · exact reusedTickerFrom_inOrder 22)
    _ (List.prefix_refl _)

end QuantFactory.MarketData
