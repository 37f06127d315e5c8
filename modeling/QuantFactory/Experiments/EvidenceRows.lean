import QuantFactory.Experiments.ScreeningEvidence

/-!
# The rows of screening evidence

What one registration adds to the store, what the loop over the captured portfolios adds under
which keys, and what the observer has captured.
-/

set_option autoImplicit false

namespace QuantFactory.Experiments

open QuantFactory.Library QuantFactory.Python QuantFactory.Persistence QuantFactory.Launch

/-! ## Registering documents -/

section Registering
variable {F Content S : Type} [PyFloat F] [ColumnNumber F] {runtime : EvidenceRuntime F Content}
variable {config : EvidenceConfig F} {runId : String} {clock : Clock}

abbrev DocumentKey := ArtifactType × String

def EvidenceDocument.key (document : EvidenceDocument F) : DocumentKey :=
  (document.artifactType, document.logicalName)

/-- The run is known, and none of its artifacts has one of the keys. -/
structure FreshFor (runId : String) (store : ArtifactStore Content) (keys : List DocumentKey) :
    Prop where
  known : (findRun store runId).isSome
  named : ∀ key ∈ keys, key.2 ≠ ""
  distinct : keys.Nodup
  fresh : ∀ artifact ∈ store.artifacts, artifact.runId = runId →
    (artifact.artifactType, artifact.logicalName) ∉ keys

/-- A row holds a document: it is the run's, has the document's key, and its checksum is that of
the document's text. -/
def RowHolds (runtime : EvidenceRuntime F Content) (runId : String) (document : EvidenceDocument F)
    (row : ArtifactContractRecord) : Prop :=
  row.runId = runId ∧ (row.artifactType, row.logicalName) = document.key ∧
    ∃ text, canonicalText runtime.toArtifactRuntime document.document = .ok text ∧
      row.checksum = runtime.checksum (runtime.encode (text ++ "\n"))

omit [ColumnNumber F] in
theorem canonicalText_ok_iff (runtime : EvidenceRuntime F Content) (document : PyValue F) :
    (∃ text, canonicalText runtime.toArtifactRuntime document = .ok text) ↔
      allFinite document = true := by
  rw [← normalize_ok_iff]
  unfold canonicalText canonicalJson
  cases Persistence.normalize document with
  | error message => simp
  | ok normalized => simp

theorem documentLocation_ne_empty (runId name : String) : documentLocation runId name ≠ "" := by
  intro empty
  obtain ⟨-, suffix⟩ := String.append_eq_empty_iff.mp empty
  exact absurd suffix (by decide)

omit [PyFloat F] [ColumnNumber F] in
theorem FreshFor.unregistered {store : ArtifactStore Content} {document : EvidenceDocument F}
    {keys : List DocumentKey} (fresh : FreshFor runId store (document.key :: keys))
    (content : Content) (now : String) :
    store.artifacts.find? (sameIdentity (documentRegistration runId document content now)) =
      none := by
  rw [List.find?_eq_none]
  intro artifact member same
  unfold sameIdentity at same
  simp only [Bool.and_eq_true, decide_eq_true_eq] at same
  obtain ⟨⟨⟨ofRun, kind⟩, name⟩, -⟩ := same
  have key : (artifact.artifactType, artifact.logicalName) = document.key := Prod.ext kind name
  refine fresh.fresh artifact member ofRun ?_
  rw [key]
  exact List.mem_cons_self

omit [PyFloat F] [ColumnNumber F] in
theorem registerArtifact_fresh (runtime : EvidenceRuntime F Content) {store : ArtifactStore Content} {document : EvidenceDocument F}
    {keys : List DocumentKey} (fresh : FreshFor runId store (document.key :: keys))
    (files : String → FileAt Content) (content : Content) (now : String) :
    registerArtifact runtime.toArtifactRuntime { store with files }
        (documentRegistration runId document content now) =
      .ok { store with
        files
        artifacts := store.artifacts ++ [registeredRow runtime.toArtifactRuntime
          (documentRegistration runId document content now) (store.artifacts.length + 1)] } := by
  have named : document.logicalName ≠ "" := fresh.named document.key List.mem_cons_self
  have located := documentLocation_ne_empty runId document.logicalName
  have complete : (document.logicalName.isEmpty || "application/json".isEmpty || "json".isEmpty ||
      (documentLocation runId document.logicalName).isEmpty || decide ((1 : Int) < 1)) = false := by
    simp [named, located]
  unfold registerArtifact
  refine (if_neg (Bool.eq_false_iff.mp complete)).trans ?_
  rw [fresh.unregistered]
  refine if_neg ?_
  have known := fresh.known
  unfold findRun at known ⊢
  intro missing
  rw [Option.isNone_iff_eq_none] at missing
  exact absurd known (by rw [show store.runs.find? (fun run => run.runId = runId) = none from missing]; simp)

omit [ColumnNumber F] in
/-- A document whose key is fresh and whose text can be written adds its row, and the other keys
stay fresh. -/
theorem persistDocument_fresh (runtime : EvidenceRuntime F Content) (clock : Clock)
    {store : ArtifactStore Content} {document : EvidenceDocument F} {keys : List DocumentKey}
    (fresh : FreshFor runId store (document.key :: keys))
    (finite : allFinite document.document = true) :
    ∃ after row, persistDocument runtime runId clock store document = .ok after ∧
      after.artifacts = store.artifacts ++ [row] ∧ RowHolds runtime runId document row ∧
        FreshFor runId after keys := by
  obtain ⟨text, written⟩ := (canonicalText_ok_iff runtime _).mpr finite
  let content := runtime.encode (text ++ "\n")
  let now := clock store.artifacts.length
  let row := registeredRow runtime.toArtifactRuntime
    (documentRegistration runId document content now) (store.artifacts.length + 1)
  let files := Function.update store.files (documentLocation runId document.logicalName)
    (.regular content)
  have registered := registerArtifact_fresh runtime fresh files content now
  obtain ⟨unnamed, distinct⟩ := List.nodup_cons.mp fresh.distinct
  refine ⟨{ store with files, artifacts := store.artifacts ++ [row] }, row, ?_, rfl,
    ⟨rfl, rfl, text, written, rfl⟩, ?_⟩
  · unfold persistDocument
    rw [written]
    exact registered
  · refine ⟨fresh.known, fun key member => fresh.named key (List.mem_cons_of_mem _ member),
      distinct, ?_⟩
    intro artifact member ofRun listed
    rcases List.mem_append.mp member with old | new
    · exact fresh.fresh artifact old ofRun (List.mem_cons_of_mem _ listed)
    · rw [List.mem_singleton.mp new] at listed
      exact unnamed listed

omit [ColumnNumber F] in
theorem persistDocument_finite {store after : ArtifactStore Content}
    {document : EvidenceDocument F}
    (ok : persistDocument runtime runId clock store document = .ok after) :
    allFinite document.document = true := by
  obtain ⟨text, written, -⟩ := bind_eq_ok.mp ok
  exact (canonicalText_ok_iff runtime _).mp ⟨text, written⟩

omit [ColumnNumber F] in
theorem persistDocuments_finite {documents : List (EvidenceDocument F)} :
    ∀ {store after : ArtifactStore Content},
      persistDocuments runtime runId clock store documents = .ok after →
        ∀ document ∈ documents, allFinite document.document = true := by
  induction documents with
  | nil =>
      intro store after _ document member
      cases member
  | cons first rest ih =>
      intro store after ok
      obtain ⟨between, one, later⟩ := bind_eq_ok.mp ok
      rintro document (_ | ⟨_, member⟩)
      · exact persistDocument_finite one
      · exact ih later document member

omit [ColumnNumber F] in
theorem persistDocuments_fresh (runtime : EvidenceRuntime F Content) (clock : Clock)
    {documents : List (EvidenceDocument F)} {keys : List DocumentKey}
    (finite : ∀ document ∈ documents, allFinite document.document = true) :
    ∀ {store : ArtifactStore Content},
      FreshFor runId store (documents.map (·.key) ++ keys) →
        ∃ after rows, persistDocuments runtime runId clock store documents = .ok after ∧
          after.artifacts = store.artifacts ++ rows ∧
            List.Forall₂ (RowHolds runtime runId) documents rows ∧ FreshFor runId after keys := by
  induction documents with
  | nil =>
      intro store fresh
      exact ⟨store, [], rfl, (List.append_nil _).symm, .nil, fresh⟩
  | cons first rest ih =>
      intro store fresh
      obtain ⟨between, row, one, appended, holds, fresh⟩ :=
        persistDocument_fresh runtime clock fresh
          (finite first List.mem_cons_self)
      obtain ⟨after, rows, later, others, each, fresh⟩ :=
        ih (fun document member => finite document (List.mem_cons_of_mem _ member)) fresh
      refine ⟨after, row :: rows, ?_, ?_, .cons holds each, fresh⟩
      · rw [persistDocuments, one]
        exact later
      · rw [others, appended, List.append_assoc, List.singleton_append]

/-! ## One setting, and all of them -/

def evidenceKeys (space : Option String) : List DocumentKey :=
  [(.runSummary, qualifiedName space "run_summary"), (.metrics, qualifiedName space "metrics"),
    (.tradesOrOrders, qualifiedName space "trades_and_orders"),
    (.equityCurve, qualifiedName space "equity_curve"),
    (.metrics, qualifiedName space "performance_summary")]

theorem screeningArtifacts_keys {ranked : List (EvaluatedSetting S F)} {rowId : String}
    {snapshot : ScreeningPortfolioSnapshot F} {documents : List (EvidenceDocument F)}
    (ok : screeningArtifacts runtime config ranked rowId snapshot = .ok documents)
    (space : Option String) :
    (documents.map (·.under space)).map (·.key) = evidenceKeys space := by
  unfold screeningArtifacts at ok
  split at ok
  · split at ok
    · cases ok
    · split at ok
      · cases ok
      · cases ok
        rfl
  · cases ok

def Writable (runtime : EvidenceRuntime F Content) (config : EvidenceConfig F)
    (ranked : List (EvaluatedSetting S F)) (entry : String × ScreeningPortfolioSnapshot F) : Prop :=
  ∃ documents, screeningArtifacts runtime config ranked entry.1 entry.2 = .ok documents ∧
    ∀ document ∈ documents, allFinite document.document = true

def EvidenceRows (runtime : EvidenceRuntime F Content) (config : EvidenceConfig F)
    (runId : String) (ranked : List (EvaluatedSetting S F)) (combinationCount : Nat)
    (entry : String × ScreeningPortfolioSnapshot F) (rows : List ArtifactContractRecord) : Prop :=
  ∃ documents, screeningArtifacts runtime config ranked entry.1 entry.2 = .ok documents ∧
    List.Forall₂ (RowHolds runtime runId)
      (documents.map (·.under (configurationNamespace combinationCount entry.1))) rows

def capturedKeys (combinationCount : Nat) (captured : CapturedPortfolios F) : List DocumentKey :=
  captured.flatMap fun entry => evidenceKeys (configurationNamespace combinationCount entry.1)

theorem persistConfigurations_writable {ranked : List (EvaluatedSetting S F)}
    {combinationCount : Nat} {captured : CapturedPortfolios F} :
    ∀ {store after : ArtifactStore Content},
      persistConfigurations runtime config runId clock ranked combinationCount store captured =
        .ok after → ∀ entry ∈ captured, Writable runtime config ranked entry := by
  induction captured with
  | nil =>
      intro store after _ entry member
      cases member
  | cons first rest ih =>
      intro store after ok
      obtain ⟨between, one, later⟩ := bind_eq_ok.mp ok
      obtain ⟨documents, made, one⟩ := bind_eq_ok.mp one
      rintro entry (_ | ⟨_, member⟩)
      · refine ⟨documents, made, fun document member => ?_⟩
        have listed := List.mem_map_of_mem
          (f := (·.under (configurationNamespace combinationCount first.1))) member
        have finite := persistDocuments_finite one _ listed
        exact finite
      · exact ih later entry member

/-- Captured portfolios that can be written, under fresh keys, add one evidence set each. -/
theorem persistConfigurations_fresh (clock : Clock) {ranked : List (EvaluatedSetting S F)}
    {combinationCount : Nat} {captured : CapturedPortfolios F} {keys : List DocumentKey}
    (writable : ∀ entry ∈ captured, Writable runtime config ranked entry) :
    ∀ {store : ArtifactStore Content},
      FreshFor runId store (capturedKeys combinationCount captured ++ keys) →
        ∃ after sets, persistConfigurations runtime config runId clock ranked combinationCount
            store captured = .ok after ∧ after.artifacts = store.artifacts ++ sets.flatten ∧
          List.Forall₂ (EvidenceRows runtime config runId ranked combinationCount) captured
            sets := by
  induction captured with
  | nil =>
      intro store fresh
      exact ⟨store, [], rfl, (List.append_nil _).symm, .nil⟩
  | cons first rest ih =>
      intro store fresh
      obtain ⟨documents, made, finite⟩ := writable first List.mem_cons_self
      have named := screeningArtifacts_keys made (configurationNamespace combinationCount first.1)
      rw [capturedKeys, List.flatMap_cons, List.append_assoc, ← named] at fresh
      have finite : ∀ document ∈ documents.map
          (·.under (configurationNamespace combinationCount first.1)),
          allFinite document.document = true := by
        intro document member
        obtain ⟨original, listed, rfl⟩ := List.mem_map.mp member
        exact finite original listed
      obtain ⟨between, rows, one, appended, holds, fresh⟩ :=
        persistDocuments_fresh runtime clock finite fresh
      obtain ⟨after, sets, later, others, each⟩ :=
        ih (fun entry member => writable entry (List.mem_cons_of_mem _ member)) fresh
      refine ⟨after, rows :: sets, ?_, ?_, .cons ⟨documents, made, holds⟩ each⟩
      · rw [persistConfigurations, persistScreeningArtifacts, made, bind_ok, one]
        exact later
      · rw [others, appended, List.flatten_cons, List.append_assoc]

end Registering

/-! ## The keys of a run -/

theorem qualifiedName_inj {space : Option String} {first second : String}
    (same : qualifiedName space first = qualifiedName space second) : first = second := by
  cases space with
  | none => exact same
  | some space => exact (String.append_right_inj _).mp same

theorem qualifiedName_ne_empty (space : Option String) {name : String} (named : name ≠ "") :
    qualifiedName space name ≠ "" := by
  cases space with
  | none => exact named
  | some space =>
      intro empty
      exact named (String.append_eq_empty_iff.mp empty).2

theorem evidenceKeys_nodup (space : Option String) : (evidenceKeys space).Nodup := by
  have other : qualifiedName space "metrics" ≠ qualifiedName space "performance_summary" :=
    fun same => absurd (qualifiedName_inj same) (by decide)
  simp [evidenceKeys, other]

theorem evidenceKeys_named (space : Option String) : ∀ key ∈ evidenceKeys space, key.2 ≠ "" := by
  intro key member
  simp only [evidenceKeys, List.mem_cons, List.not_mem_nil, or_false] at member
  rcases member with rfl | rfl | rfl | rfl | rfl
  all_goals exact qualifiedName_ne_empty space (by decide)

theorem configurationNamespace_inj {first second : String}
    (same : s!"screening_configuration/{first}" = s!"screening_configuration/{second}") :
    first = second := (String.append_right_inj _).mp same

theorem metrics_ne_performance (first second : String) :
    qualifiedName (some first) "metrics" ≠ qualifiedName (some second) "performance_summary" := by
  intro same
  have last := congrArg (fun text : String => text.toList.getLast?) same
  have endings : (toString "metrics").toList.getLast? = some 's' ∧
      (toString "performance_summary").toList.getLast? = some 'y' := by decide
  simp [qualifiedName, endings] at last

theorem evidenceKeys_common {first second : String} {key : DocumentKey}
    (ofFirst : key ∈ evidenceKeys (some first)) (ofSecond : key ∈ evidenceKeys (some second)) :
    first = second := by
  have one (name : String)
      (same : qualifiedName (some first) name = qualifiedName (some second) name) :
      first = second :=
    (String.append_left_inj _).mp ((String.append_left_inj _).mp same)
  simp only [evidenceKeys, List.mem_cons, List.not_mem_nil, or_false] at ofFirst ofSecond
  rcases ofFirst with rfl | rfl | rfl | rfl | rfl
  · exact one "run_summary" (by simpa using ofSecond)
  · rcases ofSecond with same | same | same | same | same
    all_goals simp only [Prod.mk.injEq, reduceCtorEq, false_and, true_and] at same
    · exact one _ same
    · exact absurd same (metrics_ne_performance first second)
  · exact one "trades_and_orders" (by simpa using ofSecond)
  · exact one "equity_curve" (by simpa using ofSecond)
  · rcases ofSecond with same | same | same | same | same
    all_goals simp only [Prod.mk.injEq, reduceCtorEq, false_and, true_and] at same
    · exact absurd same.symm (metrics_ne_performance second first)
    · exact one _ same

section Keys
variable {F : Type} {captured : CapturedPortfolios F}

theorem capturedKeys_named (combinationCount : Nat) :
    ∀ key ∈ capturedKeys combinationCount captured, key.2 ≠ "" := by
  intro key member
  obtain ⟨entry, -, listed⟩ := List.mem_flatMap.mp member
  exact evidenceKeys_named _ key listed

theorem capturedKeys_nodup (distinct : (captured.map Prod.fst).Nodup) :
    (capturedKeys captured.length captured).Nodup := by
  by_cases several : captured.length > 1
  · refine List.nodup_flatMap.mpr ⟨fun entry _ => evidenceKeys_nodup _, ?_⟩
    refine (List.pairwise_map.mp distinct).imp fun {first second} differ key ofFirst ofSecond => ?_
    simp only [configurationNamespace, if_pos several] at ofFirst ofSecond
    exact differ (configurationNamespace_inj (evidenceKeys_common ofFirst ofSecond))
  · match captured, several with
    | [], _ => exact List.nodup_nil
    | [entry], _ =>
        rw [capturedKeys, List.flatMap_cons, List.flatMap_nil, List.append_nil]
        exact evidenceKeys_nodup _
    | _ :: _ :: _, several => exact absurd (by simp) several

theorem priceReference_not_captured (combinationCount : Nat) :
    (ArtifactType.datasetManifest, screeningPriceReference) ∉
      capturedKeys combinationCount captured := by
  intro member
  obtain ⟨entry, -, listed⟩ := List.mem_flatMap.mp member
  simp [evidenceKeys] at listed

end Keys

/-! ## What is captured -/

section Captured
variable {F S : Type}
variable {snapshot : ObservedPortfolio F → Except SweepError (ScreeningPortfolioSnapshot F)}

/-- A captured portfolio is a setting's own, under the setting's row identity. -/
def CapturedFrom (snapshot : ObservedPortfolio F → Except SweepError (ScreeningPortfolioSnapshot F))
    (entry : EvaluatedSetting S F × Option (ObservedPortfolio F))
    (kept : String × ScreeningPortfolioSnapshot F) : Prop :=
  kept.1 = entry.1.parameterRowId ∧ ∃ own, entry.2 = some own ∧ snapshot own = .ok kept.2

theorem setDefault_cases {V : Type} (captured : List (String × V)) (key : String) (value : V) :
    (key ∈ captured.map Prod.fst ∧ setDefault captured key value = captured) ∨
      (key ∉ captured.map Prod.fst ∧ setDefault captured key value = captured ++ [(key, value)]) := by
  have held : (captured.any fun entry => entry.1 = key) = true ↔ key ∈ captured.map Prod.fst := by
    simp [List.any_eq_true]
  by_cases member : key ∈ captured.map Prod.fst
  · exact .inl ⟨member, if_pos (held.mpr member)⟩
  · exact .inr ⟨member, if_neg (mt held.mp member)⟩

theorem captured_length_le {evaluated : List (EvaluatedSetting S F × Option (ObservedPortfolio F))} :
    ∀ {before after : CapturedPortfolios F},
      Observed (captureScreeningPortfolios snapshot) evaluated before after →
        before.length ≤ after.length ∧ after.length ≤ before.length + evaluated.length ∧
          (evaluated ≠ [] → after ≠ []) := by
  induction evaluated with
  | nil =>
      rintro before after rfl
      exact ⟨Nat.le_refl _, Nat.le_refl _, fun some => absurd rfl some⟩
  | cons entry rest ih =>
      rintro before after ⟨own, between, -, observed, later⟩
      obtain ⟨kept, -, ok⟩ := bind_eq_ok.mp observed
      cases ok
      obtain ⟨low, high, -⟩ := ih later
      rw [List.length_cons]
      rcases setDefault_cases before entry.1.parameterRowId kept with ⟨known, same⟩ | ⟨-, added⟩
      · rw [same] at low high
        have occupied : 0 < before.length := List.length_pos_of_mem
          (List.mem_map.mp known).choose_spec.1
        exact ⟨low, by omega, fun _ => List.ne_nil_of_length_pos (by omega)⟩
      · rw [added, List.length_append, List.length_singleton] at low high
        exact ⟨by omega, by omega, fun _ => List.ne_nil_of_length_pos (by omega)⟩

/-- When as many portfolios are captured as there are settings, they are the settings' own and
under distinct identities. -/
theorem captured_of_length {evaluated : List (EvaluatedSetting S F × Option (ObservedPortfolio F))} :
    ∀ {before after : CapturedPortfolios F},
      Observed (captureScreeningPortfolios snapshot) evaluated before after →
        after.length = before.length + evaluated.length → (before.map Prod.fst).Nodup →
          (after.map Prod.fst).Nodup ∧
            ∃ kept, after = before ++ kept ∧ List.Forall₂ (CapturedFrom snapshot) evaluated kept := by
  induction evaluated with
  | nil =>
      rintro before after rfl - distinct
      exact ⟨distinct, [], (List.append_nil _).symm, .nil⟩
  | cons entry rest ih =>
      rintro before after ⟨own, between, present, observed, later⟩ full distinct
      obtain ⟨kept, taken, ok⟩ := bind_eq_ok.mp observed
      cases ok
      have high := (captured_length_le later).2.1
      rw [List.length_cons] at full
      rcases setDefault_cases before entry.1.parameterRowId kept with ⟨-, same⟩ | ⟨new, added⟩
      · rw [same] at high
        omega
      · rw [added] at later
        have distinct : ((before ++ [(entry.1.parameterRowId, kept)]).map Prod.fst).Nodup := by
          rw [List.map_append, List.map_cons, List.map_nil]
          exact List.nodup_append_comm.mp (List.nodup_cons.mpr ⟨new, distinct⟩)
        have full : after.length =
            (before ++ [(entry.1.parameterRowId, kept)]).length + rest.length := by
          rw [List.length_append, List.length_singleton]
          omega
        obtain ⟨distinct, others, rfl, each⟩ := ih later full distinct
        refine ⟨distinct, (entry.1.parameterRowId, kept) :: others, ?_,
          .cons ⟨rfl, own, present, taken⟩ each⟩
        rw [List.append_assoc, List.singleton_append]

theorem captured_full {evaluated : List (EvaluatedSetting S F × Option (ObservedPortfolio F))} :
    ∀ {before after : CapturedPortfolios F},
      Observed (captureScreeningPortfolios snapshot) evaluated before after →
        (before.map Prod.fst ++ evaluated.map fun entry => entry.1.parameterRowId).Nodup →
          after.length = before.length + evaluated.length := by
  induction evaluated with
  | nil =>
      rintro before after rfl -
      rfl
  | cons entry rest ih =>
      rintro before after ⟨own, between, -, observed, later⟩ distinct
      obtain ⟨kept, -, ok⟩ := bind_eq_ok.mp observed
      cases ok
      rw [List.map_cons] at distinct
      have unknown : entry.1.parameterRowId ∉ before.map Prod.fst := fun known =>
        (List.nodup_append.mp distinct).2.2 _ known _ List.mem_cons_self rfl
      rcases setDefault_cases before entry.1.parameterRowId kept with ⟨known, -⟩ | ⟨-, added⟩
      · exact absurd known unknown
      · rw [added] at later
        rw [List.append_cons] at distinct
        have full := ih later (by rw [List.map_append]; exact distinct)
        rw [List.length_append, List.length_singleton] at full
        rw [List.length_cons]
        omega

end Captured

end QuantFactory.Experiments
