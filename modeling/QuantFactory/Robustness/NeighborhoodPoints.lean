import QuantFactory.RuleLanguage.Copies
import QuantFactory.Robustness.ParameterNeighborhood

/-!
# The points of a neighbourhood

The candidates of `build_neighborhood` are the validated combinations, each once, in
order and with one locked point, and every combination is counted once: as a candidate,
as a duplicate or as a rejection.
-/

set_option autoImplicit false

namespace QuantFactory.Robustness

open QuantFactory.Library

/-! ## Equal parameter sets -/

/-- Entries up to `==` of their values. -/
def keyed (entries : List (String × ParameterValue)) : List (String × ValueKey) :=
  entries.map fun item => (item.1, item.2.key)

theorem keyed_fst (entries : List (String × ParameterValue)) :
    (keyed entries).map Prod.fst = entries.map Prod.fst := by
  rw [keyed, List.map_map]
  rfl

theorem keyed_nodup (a : ParameterSet) : (keyed a.entries).Nodup := by
  apply List.Nodup.of_map Prod.fst
  rw [keyed_fst]
  exact a.distinct

theorem sortedItems_perm (a : ParameterSet) : (sortedItems a).Perm a.entries :=
  List.perm_insertionSort _ _

theorem sortedItems_strict (a : ParameterSet) :
    (keyed (sortedItems a)).Pairwise fun x y => x.1 < y.1 := by
  have names : ((sortedItems a).map Prod.fst).Nodup :=
    ((sortedItems_perm a).map Prod.fst).nodup_iff.mpr a.distinct
  have apart : (sortedItems a).Pairwise fun x y => x.1 ≠ y.1 := List.pairwise_map.mp names
  have ordered : (sortedItems a).Pairwise fun x y => x.1 ≤ y.1 := by
    have total : Std.Total fun x y : String × ParameterValue => x.1 ≤ y.1 :=
      ⟨fun x y => le_total x.1 y.1⟩
    have transitive : IsTrans (String × ParameterValue) fun x y => x.1 ≤ y.1 :=
      ⟨fun _ _ _ => le_trans⟩
    exact List.pairwise_insertionSort _ _
  exact List.pairwise_map.mpr ((ordered.and apart).imp fun both => lt_of_le_of_ne both.1 both.2)

/-- Sorted items agree exactly when the entries do, whatever their order. -/
theorem sameItems_iff_perm (a b : ParameterSet) :
    sameItems (sortedItems a) (sortedItems b) = true ↔
      (keyed a.entries).Perm (keyed b.entries) := by
  have sortedA : (keyed (sortedItems a)).Perm (keyed a.entries) := (sortedItems_perm a).map _
  have sortedB : (keyed (sortedItems b)).Perm (keyed b.entries) := (sortedItems_perm b).map _
  rw [sameItems, decide_eq_true_iff]
  constructor
  · intro same
    have listed : keyed (sortedItems a) = keyed (sortedItems b) := same
    exact sortedA.symm.trans (listed ▸ sortedB)
  · intro entries
    have perm : (keyed (sortedItems a)).Perm (keyed (sortedItems b)) :=
      (sortedA.trans entries).trans sortedB.symm
    refine perm.eq_of_pairwise ?_ (sortedItems_strict a) (sortedItems_strict b)
    intro x y _ _ before after
    exact absurd after before.asymm

theorem sameParameters_iff_perm (a b : ParameterSet) :
    sameParameters a b = true ↔ (keyed a.entries).Perm (keyed b.entries) := by
  rw [sameParameters, Bool.and_eq_true, decide_eq_true_iff, List.all_eq_true]
  constructor
  · rintro ⟨length, each⟩
    have listed : keyed a.entries ⊆ keyed b.entries := by
      intro pair member
      obtain ⟨item, inA, rfl⟩ := List.mem_map.mp member
      obtain ⟨value, found, same⟩ := (Option.any_eq_true _ _).mp (each item inA)
      rw [sameValue, decide_eq_true_iff] at same
      rw [same]
      exact List.mem_map.mpr ⟨(item.1, value), mem_of_lookup found, rfl⟩
    apply (List.subperm_of_subset (keyed_nodup a) listed).perm_of_length_le
    rw [keyed, keyed, List.length_map, List.length_map, length]
  · intro perm
    constructor
    · simpa [keyed] using perm.length_eq
    · intro item inA
      have inB := perm.subset (List.mem_map_of_mem inA)
      obtain ⟨other, listed, same⟩ := List.mem_map.mp inB
      obtain ⟨name, key⟩ := Prod.mk.inj same
      have found : b.entries.lookup item.1 = some other.2 := by
        apply lookup_of_nodup b.distinct
        rw [← name]
        exact listed
      rw [found, Option.any_some, sameValue, decide_eq_true_iff, key]

theorem sameItems_sorted (a b : ParameterSet) :
    sameItems (sortedItems a) (sortedItems b) = sameParameters a b := by
  rw [Bool.eq_iff_iff, sameItems_iff_perm, sameParameters_iff_perm]

theorem sameParameters_symm {a b : ParameterSet} (same : sameParameters a b = true) :
    sameParameters b a = true :=
  (sameParameters_iff_perm b a).mpr ((sameParameters_iff_perm a b).mp same).symm

theorem sameParameters_trans {a b c : ParameterSet} (first : sameParameters a b = true)
    (second : sameParameters b c = true) : sameParameters a c = true :=
  (sameParameters_iff_perm a c).mpr
    (((sameParameters_iff_perm a b).mp first).trans ((sameParameters_iff_perm b c).mp second))

theorem sameParameters_refl (a : ParameterSet) : sameParameters a a = true :=
  (sameParameters_iff_perm a a).mpr (List.Perm.refl _)

/-! ## The product -/

theorem length_product {α : Type} (choices : List (List α)) :
    (product choices).length = (choices.map List.length).prod := by
  induction choices with
  | nil => rfl
  | cons values rest ih =>
      rw [product, List.length_flatMap, List.map_cons, List.prod_cons, ← ih]
      simp

/-! ## Exploring the combinations -/

section Explored
variable {strategy : Strategy} {locked : ParameterSet}

def isRejection (item : CandidateDerivation) : Bool := item.method == .strategyValidation

/-- What is known after the combinations `explored`. -/
structure Explored (strategy : Strategy) (locked : ParameterSet)
    (explored : List (List (ParameterValue × CandidateDerivation))) (state : Exploration) :
    Prop where
  sound : ∀ candidate ∈ state.candidates, ∃ combination ∈ explored,
    validateCombination strategy combination = .ok candidate.normalizedParameters
  complete : ∀ combination ∈ explored, ∀ normalized,
    validateCombination strategy combination = .ok normalized →
      ∃ candidate ∈ state.candidates,
        sameParameters normalized candidate.normalizedParameters = true
  once : state.candidates.Pairwise fun a b =>
    sameParameters a.normalizedParameters b.normalizedParameters = false
  seen : state.seen = state.candidates.map fun candidate =>
    sortedItems candidate.normalizedParameters
  lockedPoint : ∀ candidate ∈ state.candidates,
    candidate.isLockedPoint = sameParameters candidate.normalizedParameters locked
  counted : state.candidates.length + state.duplicateCount +
    state.rejections.countP isRejection = explored.length

theorem startExploration_explored : Explored strategy locked [] startExploration := by
  constructor
  · intro candidate member
    cases member
  · intro combination member
    cases member
  · exact List.Pairwise.nil
  · rfl
  · intro candidate member
    cases member
  · rfl

variable {explored : List (List (ParameterValue × CandidateDerivation))} {state next : Exploration}
  {combination : List (ParameterValue × CandidateDerivation)}

theorem seen_any (known : Explored strategy locked explored state) (normalized : ParameterSet) :
    state.seen.any (sameItems (sortedItems normalized)) = true ↔
      ∃ candidate ∈ state.candidates,
        sameParameters normalized candidate.normalizedParameters = true := by
  rw [known.seen, List.any_map, List.any_eq_true]
  simp only [Function.comp_apply, sameItems_sorted]

theorem Explored.reject (known : Explored strategy locked explored state)
    (refused : ∀ normalized, validateCombination strategy combination ≠ .ok normalized)
    (reason : String) (candidate : List (String × ParameterValue)) :
    Explored strategy locked (explored ++ [combination])
      { state with
        rejections := state.rejections ++ [combinationRejection locked candidate reason] } := by
  constructor
  · intro found member
    obtain ⟨source, listed, ok⟩ := known.sound found member
    exact ⟨source, List.mem_append_left _ listed, ok⟩
  · intro other member normalized ok
    rcases List.mem_append.mp member with before | last
    · exact known.complete other before normalized ok
    · rw [List.mem_singleton.mp last] at ok
      exact absurd ok (refused normalized)
  · exact known.once
  · exact known.seen
  · exact known.lockedPoint
  · have counted := known.counted
    rw [List.countP_append, List.length_append, List.length_singleton]
    have one : [combinationRejection locked candidate reason].countP isRejection = 1 := rfl
    rw [one]
    change state.candidates.length + state.duplicateCount + _ = _
    omega

/-- A combination that gives a set seen before only adds to the duplicates. -/
theorem Explored.repeat (known : Explored strategy locked explored state)
    {normalized : ParameterSet}
    (valid : validateCombination strategy combination = .ok normalized)
    (again : state.seen.any (sameItems (sortedItems normalized)) = true)
    (candidate : List (String × ParameterValue)) :
    Explored strategy locked (explored ++ [combination])
      { state with
        duplicateCount := state.duplicateCount + 1
        rejections := state.rejections ++ [duplicateCombination locked candidate normalized] } := by
  constructor
  · intro found member
    obtain ⟨source, listed, ok⟩ := known.sound found member
    exact ⟨source, List.mem_append_left _ listed, ok⟩
  · intro other member set ok
    rcases List.mem_append.mp member with before | last
    · exact known.complete other before set ok
    · rw [List.mem_singleton.mp last, valid] at ok
      cases ok
      exact (seen_any known normalized).mp again
  · exact known.once
  · exact known.seen
  · exact known.lockedPoint
  · have counted := known.counted
    rw [List.countP_append, List.length_append, List.length_singleton]
    have none : [duplicateCombination locked candidate normalized].countP isRejection = 0 := rfl
    rw [none]
    change state.candidates.length + (state.duplicateCount + 1) + _ = _
    omega

/-- A combination that gives a new set adds a candidate. -/
theorem Explored.accept (known : Explored strategy locked explored state)
    {normalized : ParameterSet}
    (valid : validateCombination strategy combination = .ok normalized)
    (new : state.seen.any (sameItems (sortedItems normalized)) = false)
    (derivations : List CandidateDerivation) :
    Explored strategy locked (explored ++ [combination])
      { state with
        candidates := state.candidates ++
          [⟨normalized, derivations, sameParameters normalized locked⟩]
        seen := state.seen ++ [sortedItems normalized] } := by
  constructor
  · intro found member
    rcases List.mem_append.mp member with before | last
    · obtain ⟨source, listed, ok⟩ := known.sound found before
      exact ⟨source, List.mem_append_left _ listed, ok⟩
    · rw [List.mem_singleton.mp last]
      exact ⟨combination, by simp, valid⟩
  · intro other member set ok
    rcases List.mem_append.mp member with before | last
    · obtain ⟨candidate, listed, same⟩ := known.complete other before set ok
      exact ⟨candidate, List.mem_append_left _ listed, same⟩
    · rw [List.mem_singleton.mp last, valid] at ok
      cases ok
      exact ⟨_, List.mem_append_right _ List.mem_cons_self, sameParameters_refl normalized⟩
  · apply List.pairwise_append.mpr
    refine ⟨known.once, List.pairwise_singleton _ _, ?_⟩
    intro candidate member other last
    rw [List.mem_singleton.mp last]
    by_contra same
    have reached := (seen_any known normalized).mpr
      ⟨candidate, member, sameParameters_symm (by simpa using same)⟩
    rw [new] at reached
    cases reached
  · simp [known.seen]
  · intro candidate member
    rcases List.mem_append.mp member with before | last
    · exact known.lockedPoint candidate before
    · rw [List.mem_singleton.mp last]
  · have counted := known.counted
    rw [List.length_append, List.length_append, List.length_singleton, List.length_singleton]
    change state.candidates.length + 1 + state.duplicateCount +
      state.rejections.countP isRejection = _
    omega

theorem exploreCombination_explored (known : Explored strategy locked explored state)
    (ok : exploreCombination strategy locked state combination = .ok next) :
    Explored strategy locked (explored ++ [combination]) next := by
  rw [exploreCombination] at ok
  split at ok
  · rename_i reason refused
    cases ok
    exact known.reject (by simp [refused]) reason _
  · rename_i reason refused
    cases ok
    exact known.reject (by simp [refused]) reason _
  · cases ok
  · rename_i normalized valid
    split at ok
    · rename_i again
      cases ok
      exact known.repeat valid again _
    · rename_i new
      cases ok
      exact known.accept valid (by simpa using new) _

theorem exploreAll_explored {rest : List (List (ParameterValue × CandidateDerivation))}
    (known : Explored strategy locked explored state)
    (ok : exploreAll strategy locked state rest = .ok next) :
    Explored strategy locked (explored ++ rest) next := by
  induction rest generalizing explored state with
  | nil =>
      cases ok
      rwa [List.append_nil]
  | cons combination rest ih =>
      obtain ⟨middle, step, ok⟩ := bind_eq_ok.mp ok
      have after := ih (exploreCombination_explored known step) ok
      rwa [List.append_assoc] at after

end Explored

/-! ## The sort -/

section Sorting
variable {strategy : Strategy}

theorem valueRank_eq_iff (a b : ParameterValue) : valueRank a = valueRank b ↔ a.key = b.key := by
  rw [valueRank, valueRank]
  cases a.key <;> cases b.key <;> simp

theorem lessValue_rank {a b : ParameterValue} {less : Bool} (ok : lessValue a b = .ok less) :
    less = true ↔ valueRank a < valueRank b := by
  rw [lessValue] at ok
  rw [valueRank, valueRank]
  split at ok
  · rename_i x y keyA keyB
    cases ok
    rw [keyA, keyB]
    simp [Prod.Lex.toLex_lt_toLex]
  · rename_i s t keyA keyB
    cases ok
    rw [keyA, keyB]
    simp [Prod.Lex.toLex_lt_toLex]
  · cases ok

theorem lessTuple_rank {as bs : List ParameterValue} {less : Bool}
    (ok : lessTuple as bs = .ok less) :
    less = true ↔ as.map valueRank < bs.map valueRank := by
  induction as generalizing bs with
  | nil =>
      cases bs with
      | nil =>
          cases ok
          simp
      | cons b bs =>
          cases ok
          simp
  | cons a as ih =>
      cases bs with
      | nil =>
          cases ok
          simp
      | cons b bs =>
          rw [lessTuple] at ok
          split at ok
          · rename_i same
            have ranks : valueRank a = valueRank b := by
              rw [valueRank_eq_iff]
              simpa [sameValue] using same
            rw [ih ok, List.map_cons, List.map_cons, ranks, List.cons_lt_cons_self]
          · rename_i differ
            have ranks : valueRank a ≠ valueRank b := by
              rw [ne_eq, valueRank_eq_iff]
              simpa [sameValue] using differ
            rw [lessValue_rank ok, List.map_cons, List.map_cons]
            simp [List.cons_lt_cons_iff, ranks]

def InOrder (strategy : Strategy) (candidates : List NeighborhoodCandidate) : Prop :=
  candidates.Pairwise fun earlier later => ∃ first second,
    sortKey strategy earlier = .ok first ∧ sortKey strategy later = .ok second ∧
      lessTuple second first = .ok false

theorem sortCandidates_ok {candidates sorted : List NeighborhoodCandidate}
    (ok : sortCandidates strategy candidates = .ok sorted) :
    sorted.Perm candidates ∧ InOrder strategy sorted := by
  obtain ⟨keys, collected, ok⟩ := bind_eq_ok.mp ok
  obtain ⟨ordered, ok⟩ := raiseIf_bind_eq_ok.mp ok
  cases ok
  have pairs := (collect_eq_ok.mp collected).flip
  obtain ⟨length, keyOf⟩ := List.forall₂_iff_zip.mp pairs
  have comparable : ∀ a ∈ keys, ∀ b ∈ keys, (lessTuple a b).toOption.isSome = true := by
    simpa using ordered
  have perm := List.perm_insertionSort
    (fun a b : List ParameterValue × NeighborhoodCandidate =>
      a.1.map valueRank ≤ b.1.map valueRank) (keys.zip candidates)
  constructor
  · refine (perm.map Prod.snd).trans ?_
    rw [List.map_snd_zip (by omega)]
  · have total : Std.Total fun a b : List ParameterValue × NeighborhoodCandidate =>
        a.1.map valueRank ≤ b.1.map valueRank := ⟨fun a b => le_total _ _⟩
    have transitive : IsTrans (List ParameterValue × NeighborhoodCandidate) fun a b =>
        a.1.map valueRank ≤ b.1.map valueRank := ⟨fun _ _ _ => le_trans⟩
    apply List.pairwise_map.mpr
    refine (List.pairwise_insertionSort _ (keys.zip candidates)).imp_of_mem ?_
    intro a b inA inB before
    have zippedA : (a.1, a.2) ∈ keys.zip candidates := perm.subset inA
    have zippedB : (b.1, b.2) ∈ keys.zip candidates := perm.subset inB
    refine ⟨a.1, b.1, keyOf zippedA, keyOf zippedB, ?_⟩
    have answers := comparable b.1 (List.of_mem_zip zippedB).1 a.1 (List.of_mem_zip zippedA).1
    cases compared : lessTuple b.1 a.1 with
    | error raised =>
        rw [compared] at answers
        cases answers
    | ok less =>
        have rank := lessTuple_rank compared
        cases less with
        | false => rfl
        | true => exact absurd (rank.mp rfl) (not_lt.mpr before)

end Sorting

/-! ## The neighbourhood -/

section Choices
variable {floats : FloatArithmetic}

theorem length_derived (derived : List (Option ParameterValue × CandidateDerivation)) :
    derived.length = (acceptedValues derived).length + (rejectedValues derived).length := by
  induction derived with
  | nil => rfl
  | cons item rest ih =>
      obtain ⟨value, derivation⟩ := item
      rw [acceptedValues, rejectedValues] at ih ⊢
      cases value with
      | none =>
          simp only [List.length_cons, List.filterMap_cons, Option.map_none, Option.isNone_none]
          simp only [if_true, List.length_cons]
          omega
      | some value =>
          simp only [List.length_cons, List.filterMap_cons, Option.map_some, Option.isNone_some]
          simp only [Bool.false_eq_true, if_false]
          omega

theorem rawValues_method {definition : ParameterNeighborhoodDefinition} {valueType : ValueType}
    {lockedValue : ParameterValue} {result : DerivationMethod × List (RawValue × RawValue)}
    (ok : rawValues floats definition valueType lockedValue = .ok result) :
    result.1 ≠ .strategyValidation := by
  rw [rawValues] at ok
  cases method : definition.method with
  | explicitValues values =>
      rw [method] at ok
      cases ok
      simp
  | integerOffsets offsets =>
      rw [method] at ok
      obtain ⟨-, ok⟩ := raiseIf_bind_eq_ok.mp ok
      obtain ⟨raw, _, ok⟩ := bind_eq_ok.mp ok
      cases ok
      simp
  | percentageOffsets offsets =>
      rw [method] at ok
      obtain ⟨-, ok⟩ := raiseIf_bind_eq_ok.mp ok
      obtain ⟨-, ok⟩ := raiseIf_bind_eq_ok.mp ok
      obtain ⟨raw, _, ok⟩ := bind_eq_ok.mp ok
      cases ok
      simp

theorem deriveValue_method {name : String} {method : DerivationMethod}
    {definition : ParameterDefinition} {lockedValue : ParameterValue}
    {sources : RawValue × RawValue} {derived : Option ParameterValue × CandidateDerivation}
    (ok : deriveValue floats name method definition lockedValue sources = .ok derived) :
    derived.2.method = method := by
  rw [deriveValue] at ok
  split at ok
  · cases ok
    rfl
  · cases ok
    rfl
  · cases ok
    rfl
  · cases ok

theorem parameterChoice_ok {config : NeighborhoodConfig} {locked : ParameterSet}
    {parameter : String × ParameterDefinition} {choice : Choice}
    (ok : parameterChoice floats config locked parameter = .ok choice) :
    choice.derivedCount = choice.accepted.length + choice.rejected.length ∧
      ∀ item ∈ choice.rejected, isRejection item = false := by
  obtain ⟨lockedValue, _, ok⟩ := bind_eq_ok.mp ok
  cases found : config.find parameter.1 with
  | none =>
      rw [found] at ok
      cases ok
      exact ⟨rfl, fun item member => absurd member List.not_mem_nil⟩
  | some definition =>
      rw [found] at ok
      obtain ⟨derived, derivedOk, ok⟩ := bind_eq_ok.mp ok
      obtain ⟨-, ok⟩ := raiseIf_bind_eq_ok.mp ok
      cases ok
      refine ⟨length_derived derived, ?_⟩
      intro item member
      obtain ⟨⟨method, sources⟩, raw, collected⟩ := bind_eq_ok.mp derivedOk
      have pairs := (collect_eq_ok.mp collected).flip
      obtain ⟨entry, inDerived, kept⟩ := List.mem_filterMap.mp member
      obtain ⟨length, each⟩ := List.forall₂_iff_zip.mp pairs
      obtain ⟨i, inside, rfl⟩ := List.getElem_of_mem inDerived
      have source : (derived[i], sources[i]) ∈ derived.zip sources := by
        apply List.mem_iff_getElem.mpr
        exact ⟨i, by simp; omega, by simp⟩
      have same := deriveValue_method (each source)
      have allowed := rawValues_method raw
      split at kept
      · cases kept
        rw [isRejection, same]
        simpa using allowed
      · cases kept

theorem collectedChoices_ok {config : NeighborhoodConfig} {locked : ParameterSet}
    {parameters : List (String × ParameterDefinition)} {choices : List Choice}
    (collected : collect (parameterChoice floats config locked) parameters = .ok choices) :
    ∀ choice ∈ choices, choice.derivedCount = choice.accepted.length + choice.rejected.length ∧
      ∀ item ∈ choice.rejected, isRejection item = false := by
  have pairs := collect_eq_ok.mp collected
  clear collected
  induction pairs with
  | nil =>
      intro choice member
      cases member
  | cons head _ ih =>
      intro choice member
      rcases List.mem_cons.mp member with rfl | inRest
      · exact parameterChoice_ok head
      · exact ih choice inRest

end Choices

/-- Of several points no two of which are the same, at most one is the locked one. -/
theorem countP_le_one {α : Type} {p : α → Bool} {xs : List α}
    (apart : xs.Pairwise fun a b => ¬ (p a = true ∧ p b = true)) : xs.countP p ≤ 1 := by
  induction xs with
  | nil => simp
  | cons x rest ih =>
      obtain ⟨head, tail⟩ := List.pairwise_cons.mp apart
      cases holds : p x with
      | false =>
          rw [List.countP_cons_of_neg (by simp [holds])]
          exact ih tail
      | true =>
          have none : rest.countP p = 0 := by
            apply List.countP_eq_zero.mpr
            intro other member also
            exact head other member ⟨holds, also⟩
          rw [List.countP_cons_of_pos holds, none]

structure IsNeighborhood (strategy : Strategy) (locked : ParameterSet) (choices : List Choice)
    (result : NeighborhoodConstructionResult) : Prop where
  sound : ∀ candidate ∈ result.candidates, ∃ combination ∈ product (choices.map (·.accepted)),
    validateCombination strategy combination = .ok candidate.normalizedParameters
  complete : ∀ combination ∈ product (choices.map (·.accepted)), ∀ normalized,
    validateCombination strategy combination = .ok normalized →
      ∃ candidate ∈ result.candidates,
        sameParameters normalized candidate.normalizedParameters = true
  once : result.candidates.Pairwise fun a b =>
    sameParameters a.normalizedParameters b.normalizedParameters = false
  sorted : InOrder strategy result.candidates
  lockedPoint : ∀ candidate ∈ result.candidates,
    candidate.isLockedPoint = sameParameters candidate.normalizedParameters locked
  oneLocked : result.candidates.countP (·.isLockedPoint) = 1
  accepted : result.acceptedCount = result.candidates.length
  counted : result.acceptedCount + result.duplicateCount +
    result.rejectedDerivations.countP isRejection =
      (choices.map fun choice => choice.accepted.length).prod
  requested : result.requestedCandidateCount =
    (choices.map fun choice => choice.accepted.length + choice.rejected.length).prod

section Build
variable {floats : FloatArithmetic} {strategy : Strategy}
  {lockedParameters : List (String × RawValue)} {config : NeighborhoodConfig}
  {locked : ParameterSet} {choices : List Choice} {result : NeighborhoodConstructionResult}

theorem neighborhoodChoices_ok
    (ok : neighborhoodChoices floats strategy lockedParameters config = .ok (locked, choices)) :
    ∀ choice ∈ choices, choice.derivedCount = choice.accepted.length + choice.rejected.length ∧
      ∀ item ∈ choice.rejected, isRejection item = false := by
  obtain ⟨⟨⟩, _, ok⟩ := bind_eq_ok.mp ok
  obtain ⟨set, _, ok⟩ := bind_eq_ok.mp ok
  obtain ⟨-, ok⟩ := raiseIf_bind_eq_ok.mp ok
  obtain ⟨-, ok⟩ := raiseIf_bind_eq_ok.mp ok
  obtain ⟨each, collected, ok⟩ := bind_eq_ok.mp ok
  obtain ⟨-, ok⟩ := raiseIf_bind_eq_ok.mp ok
  cases ok
  exact collectedChoices_ok collected

theorem neighborhoodOf_isNeighborhood
    (known : ∀ choice ∈ choices,
      choice.derivedCount = choice.accepted.length + choice.rejected.length ∧
        ∀ item ∈ choice.rejected, isRejection item = false)
    (ok : neighborhoodOf strategy locked choices = .ok result) :
    IsNeighborhood strategy locked choices result := by
  obtain ⟨explored, exploredOk, ok⟩ := bind_eq_ok.mp ok
  obtain ⟨candidates, sortedOk, ok⟩ := bind_eq_ok.mp ok
  obtain ⟨someLocked, ok⟩ := raiseIf_bind_eq_ok.mp ok
  obtain ⟨-, ok⟩ := raiseIf_bind_eq_ok.mp ok
  cases ok
  have facts := exploreAll_explored startExploration_explored exploredOk
  rw [List.nil_append] at facts
  obtain ⟨perm, inOrder⟩ := sortCandidates_ok sortedOk
  have lockedPoint : ∀ candidate ∈ candidates,
      candidate.isLockedPoint = sameParameters candidate.normalizedParameters locked :=
    fun candidate member => facts.lockedPoint candidate (perm.subset member)
  have once : candidates.Pairwise fun a b =>
      sameParameters a.normalizedParameters b.normalizedParameters = false := by
    refine (perm.pairwise_iff ?_).mpr facts.once
    intro a b differ
    by_contra same
    have back := sameParameters_symm (by simpa using same)
    rw [differ] at back
    cases back
  constructor
  · intro candidate member
    exact facts.sound candidate (perm.subset member)
  · intro combination member normalized valid
    obtain ⟨candidate, listed, same⟩ := facts.complete combination member normalized valid
    exact ⟨candidate, perm.symm.subset listed, same⟩
  · exact once
  · exact inOrder
  · exact lockedPoint
  · have atLeast : 0 < candidates.countP (·.isLockedPoint) := by
      obtain ⟨candidate, member, isLocked⟩ :=
        List.any_eq_true.mp (by simpa only [Bool.not_eq_false'] using someLocked)
      exact List.countP_pos_iff.mpr ⟨candidate, member, isLocked⟩
    have atMost : candidates.countP (·.isLockedPoint) ≤ 1 := by
      apply countP_le_one
      refine once.imp_of_mem ?_
      intro a b inA inB differ both
      obtain ⟨lockedA, lockedB⟩ := both
      rw [lockedPoint a inA] at lockedA
      rw [lockedPoint b inB] at lockedB
      have same := sameParameters_trans lockedA (sameParameters_symm lockedB)
      rw [differ] at same
      cases same
    change candidates.countP (·.isLockedPoint) = 1
    omega
  · rfl
  · have counted := facts.counted
    have none : (choices.flatMap (·.rejected)).countP isRejection = 0 := by
      apply List.countP_eq_zero.mpr
      intro item member
      obtain ⟨choice, listed, inChoice⟩ := List.mem_flatMap.mp member
      simp [(known choice listed).2 item inChoice]
    rw [length_product, List.map_map, ← perm.length_eq] at counted
    change candidates.length + explored.duplicateCount +
      (choices.flatMap (·.rejected) ++ explored.rejections).countP isRejection = _
    rw [List.countP_append, none, Nat.zero_add, counted]
    rfl
  · change (choices.map (·.derivedCount)).prod = _
    congr 1
    exact List.map_congr_left fun choice member => (known choice member).1

/-- `build_neighborhood` returns the validated combinations of its choices. -/
theorem buildNeighborhood_isNeighborhood
    (ok : buildNeighborhood floats strategy lockedParameters config = .ok result) :
    ∃ locked choices,
      neighborhoodChoices floats strategy lockedParameters config = .ok (locked, choices) ∧
        IsNeighborhood strategy locked choices result := by
  obtain ⟨⟨locked, choices⟩, chosen, ok⟩ := bind_eq_ok.mp ok
  exact ⟨locked, choices, chosen, neighborhoodOf_isNeighborhood (neighborhoodChoices_ok chosen) ok⟩

end Build

/-! ## Two ordered settings -/

def smallFloats : FloatArithmetic where
  ofInt n := some n
  onePlus x := 1 + x
  plus x y := .plain (.float (x + y))
  times x y := .plain (.float (x * y))

def wholeDefinition : ParameterDefinition where
  valueType := .int
  normalize
    | .plain (.int n) => .ok (.int n)
    | _ => .error (.typeError "value must be int")

def pairStrategy : Strategy where
  parameterMap := [("low", wholeDefinition), ("high", wholeDefinition)]
  distinct := by decide
  validateParameters parameters :=
    match parameters.lookup "low", parameters.lookup "high" with
    | some (.plain (.int low)), some (.plain (.int high)) =>
        if low < high then .ok ⟨[("low", .int low), ("high", .int high)], by simp⟩
        else .error (.valueError "low must be below high")
    | _, _ => .error (.typeError "value must be int")

def pairConfig : NeighborhoodConfig where
  definitions :=
    [⟨"low", .integerOffsets [0, 1]⟩,
      ⟨"high", .explicitValues [.plain (.int 2), .plain (.int 2), .nan]⟩]
  some := by simp
  distinct := by decide

def pairLocked : List (String × RawValue) := [("low", .plain (.int 1)), ("high", .plain (.int 2))]

/-- Six values asked for; four combinations: one candidate, its duplicate, two refused. -/
theorem pair_neighborhood :
    ∃ result, buildNeighborhood smallFloats pairStrategy pairLocked pairConfig = .ok result ∧
      result.requestedCandidateCount = 6 ∧ result.acceptedCount = 1 ∧
      result.duplicateCount = 1 ∧ result.rejectedDerivations.countP isRejection = 2 ∧
      ∃ locked choices,
        neighborhoodChoices smallFloats pairStrategy pairLocked pairConfig =
          .ok (locked, choices) ∧ IsNeighborhood pairStrategy locked choices result := by
  have counts : (buildNeighborhood smallFloats pairStrategy pairLocked pairConfig).toOption.map
      (fun result => (result.requestedCandidateCount, result.acceptedCount, result.duplicateCount,
        result.rejectedDerivations.countP isRejection)) = some (6, 1, 1, 2) := by
    decide +kernel
  cases run : buildNeighborhood smallFloats pairStrategy pairLocked pairConfig with
  | error raised =>
      rw [run] at counts
      cases counts
  | ok result =>
      rw [run] at counts
      simp only [Except.toOption, Option.map_some, Option.some.injEq, Prod.mk.injEq] at counts
      obtain ⟨requested, accepted, duplicates, rejections⟩ := counts
      exact ⟨result, rfl, requested, accepted, duplicates, rejections,
        buildNeighborhood_isNeighborhood run⟩

end QuantFactory.Robustness
