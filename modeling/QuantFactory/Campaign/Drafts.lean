import QuantFactory.Launch.Repositories
import Mathlib.Data.List.Sort

/-!
# Idea drafts

The idea drafts and configurations of `persistence/repositories.py`, as far as
the automatic tests read and link them.  Each operation is one transaction.
-/

set_option autoImplicit false

namespace QuantFactory.Campaign

open QuantFactory.Library QuantFactory.Python QuantFactory.Launch

structure IdeaDraft where
  draftId : String
  title : String
  configurationId : Option String
  createdAt : String
  candidateJson : String
  deriving DecidableEq, Repr

abbrev DraftTable := Table IdeaDraft String (·.draftId)
abbrev DraftChange := KeyedChange IdeaDraft String (·.draftId)

/-- A configuration document, by the fields the campaign compares and its canonical text. -/
structure ConfigurationDocument where
  strategyId : String
  strategyVersion : String
  canonicalJson : String
  deriving DecidableEq, Repr

structure ResearchStore where
  drafts : DraftTable
  configurations : ConfigurationTable

namespace IdeaDraftRepository

def isDraftId (draftId : String) : Bool :=
  8 ≤ draftId.length && draftId.length ≤ 80 &&
    draftId.toList.all fun c => c.isAlphanum || c == '_' || c == '-'

def withTitle (title : String) : DraftChange where
  apply draft := { draft with title := title }
  keeps _ := rfl

def withPacket (candidateJson : String) : DraftChange where
  apply draft := { draft with candidateJson := candidateJson }
  keeps _ := rfl

def withConfiguration (configurationId : String) : DraftChange where
  apply draft := { draft with configurationId := some configurationId }
  keeps _ := rfl

/-- `save`: a new draft, or new texts of an existing one. -/
def save (drafts : DraftTable) (draftId title now : String) : Except LaunchError DraftTable :=
  let title := strip title
  if !isDraftId draftId then .error (valueError "idea draft identity is invalid")
  else if title.isEmpty then .error (valueError "idea title must not be empty")
  else if title.length > 120 then .error (valueError "idea title must be at most 120 characters")
  else match drafts.insert ⟨draftId, title, none, now, ""⟩ with
    | some next => .ok next
    | none => .ok (drafts.update draftId (withTitle title))

def setCandidatePacket (drafts : DraftTable) (draftId candidateJson : String) :
    Except LaunchError DraftTable :=
  match drafts.get draftId with
  | none => .error ⟨.keyError, s!"unknown idea draft {draftId}"⟩
  | some existing =>
      if existing.configurationId.isSome then .error (valueError
        "an idea linked to an immutable configuration cannot change its candidate packet")
      else if candidateJson.length > 100000 then
        .error (valueError "candidate packet must be at most 100000 characters")
      else .ok (drafts.update draftId (withPacket candidateJson))

def linkConfiguration (drafts : DraftTable) (draftId configurationId : String) (replace : Bool) :
    Except LaunchError DraftTable :=
  match drafts.get draftId with
  | none => .error ⟨.keyError, s!"unknown idea draft {draftId}"⟩
  | some existing =>
      if !replace && existing.configurationId ≠ none &&
          existing.configurationId ≠ some configurationId then
        .error (valueError "idea draft is already linked to an immutable configuration")
      else .ok (drafts.update draftId (withConfiguration configurationId))

def delete (drafts : DraftTable) (draftId : String) : Except LaunchError DraftTable :=
  match drafts.get draftId with
  | none => .ok drafts
  | some existing =>
      if existing.configurationId.isSome then .error (valueError
        "an idea linked to an immutable configuration cannot be discarded")
      else .ok (drafts.remove draftId)

def creationLe (first second : IdeaDraft) : Bool :=
  first.createdAt < second.createdAt ||
    (first.createdAt = second.createdAt && first.draftId ≤ second.draftId)

/-- `list(skip_linked_ids=…)`, sorted by creation time and id. -/
def listSorted (drafts : DraftTable) (skipLinkedIds : List String) : List IdeaDraft :=
  (drafts.rows.filter fun draft => draft.configurationId.isNone ||
    draft.draftId ∉ skipLinkedIds).insertionSort fun first second => creationLe first second

end IdeaDraftRepository

/-- `configurations.upsert`. -/
def upsertConfiguration (sha256Hex : String → String) (configurations : ConfigurationTable)
    (document : ConfigurationDocument) :
    Except LaunchError (ConfigurationRecord × ConfigurationTable) :=
  let digest := sha256Hex document.canonicalJson
  let row : ConfigurationRecord :=
    ⟨digest, document.strategyId, document.strategyVersion, document.canonicalJson, digest⟩
  match configurations.get digest with
  | some existing =>
      if existing.configHash ≠ digest || existing.canonicalConfigJson ≠ document.canonicalJson then
        .error (valueError "configuration identity collision with different content")
      else .ok (existing, configurations)
  | none => match configurations.rows.find? fun other => other.configHash = digest with
      | some existing => .ok (existing, configurations)
      | none => match configurations.insert row with
          | some next => .ok (row, next)
          | none => .error ⟨.sqliteIntegrity,
              "UNIQUE constraint failed: experiment_configurations.configuration_id"⟩

def upsertIdeaConfiguration (sha256Hex : String → String) (store : ResearchStore)
    (draftId : String) (document : ConfigurationDocument) (replace : Bool) :
    Except LaunchError (ConfigurationRecord × ResearchStore) := do
  let saved ← upsertConfiguration sha256Hex store.configurations document
  let drafts ← IdeaDraftRepository.linkConfiguration store.drafts draftId saved.1.configurationId
    replace
  .ok (saved.1, { drafts := drafts, configurations := saved.2 })

/-! ## What the operations keep -/

def LinkedKept (drafts next : DraftTable) : Prop :=
  ∀ draftId draft, drafts.get draftId = some draft → draft.configurationId.isSome = true →
    ∃ after, next.get draftId = some after ∧ after.configurationId.isSome = true ∧
      after.candidateJson = draft.candidateJson

theorem linkedKept_refl (drafts : DraftTable) : LinkedKept drafts drafts :=
  fun _ draft found linked => ⟨draft, found, linked, rfl⟩

theorem linkedKept_update {drafts : DraftTable} {draftId : String} {change : DraftChange}
    (kept : ∀ draft, drafts.get draftId = some draft → draft.configurationId.isSome = true →
      (change.apply draft).configurationId.isSome = true ∧
        (change.apply draft).candidateJson = draft.candidateJson) :
    LinkedKept drafts (drafts.update draftId change) := by
  intro otherId draft found linked
  rw [Table.get_update]
  by_cases same : otherId = draftId
  · subst same
    obtain ⟨stillLinked, samePacket⟩ := kept draft found linked
    exact ⟨change.apply draft, by rw [if_pos rfl, found]; rfl, stillLinked, samePacket⟩
  · exact ⟨draft, by rw [if_neg same]; exact found, linked, rfl⟩

namespace IdeaDraftRepository

theorem save_linkedKept {drafts next : DraftTable} {draftId title now : String}
    (saved : save drafts draftId title now = .ok next) : LinkedKept drafts next := by
  unfold save at saved
  simp only at saved
  split at saved
  · cases saved
  · split at saved
    · cases saved
    · split at saved
      · cases saved
      · split at saved
        · rename_i inserted
          cases saved
          intro otherId draft found linked
          refine ⟨draft, ?_, linked, rfl⟩
          rw [Table.get_insert inserted, if_neg, found]
          intro same
          rw [same, (Table.insert_some_iff.mp inserted).1] at found
          cases found
        · cases saved
          exact linkedKept_update fun draft _ linked => ⟨linked, rfl⟩

theorem setCandidatePacket_linkedKept {drafts next : DraftTable} {draftId candidateJson : String}
    (edited : setCandidatePacket drafts draftId candidateJson = .ok next) :
    LinkedKept drafts next := by
  unfold setCandidatePacket at edited
  cases found : drafts.get draftId with
  | none => simp [found] at edited
  | some existing =>
      simp only [found] at edited
      split at edited
      · cases edited
      · rename_i unlinked
        split at edited
        · cases edited
        · cases edited
          refine linkedKept_update fun draft same linked => ?_
          rw [found] at same
          cases same
          exact absurd linked unlinked

theorem linkConfiguration_eq_ok {drafts next : DraftTable} {draftId configurationId : String}
    {replace : Bool} (linked : linkConfiguration drafts draftId configurationId replace = .ok next) :
    next = drafts.update draftId (withConfiguration configurationId) ∧
      ∃ existing, drafts.get draftId = some existing := by
  unfold linkConfiguration at linked
  cases found : drafts.get draftId with
  | none => simp [found] at linked
  | some existing =>
      simp only [found] at linked
      split at linked
      · cases linked
      · cases linked
        exact ⟨rfl, existing, rfl⟩

theorem delete_linkedKept {drafts next : DraftTable} {draftId : String}
    (deleted : delete drafts draftId = .ok next) : LinkedKept drafts next := by
  unfold delete at deleted
  cases found : drafts.get draftId with
  | none =>
      simp only [found] at deleted
      cases deleted
      exact linkedKept_refl drafts
  | some existing =>
      simp only [found] at deleted
      split at deleted
      · cases deleted
      · rename_i unlinked
        cases deleted
        intro otherId draft same linked
        refine ⟨draft, ?_, linked, rfl⟩
        rw [Table.get_remove, if_neg, same]
        rintro rfl
        rw [found] at same
        cases same
        exact unlinked linked

end IdeaDraftRepository

theorem upsertIdeaConfiguration_eq_ok {sha256Hex : String → String} {store next : ResearchStore}
    {draftId : String} {document : ConfigurationDocument} {replace : Bool}
    {configuration : ConfigurationRecord}
    (done : upsertIdeaConfiguration sha256Hex store draftId document replace =
      .ok (configuration, next)) :
    next.drafts = store.drafts.update draftId
        (IdeaDraftRepository.withConfiguration configuration.configurationId) ∧
      ∃ existing, store.drafts.get draftId = some existing := by
  unfold upsertIdeaConfiguration at done
  obtain ⟨saved, _, done⟩ := bind_eq_ok.mp done
  obtain ⟨drafts, linked, done⟩ := bind_eq_ok.mp done
  cases done
  exact IdeaDraftRepository.linkConfiguration_eq_ok linked

theorem upsertIdeaConfiguration_linkedKept {sha256Hex : String → String}
    {store next : ResearchStore} {draftId : String} {document : ConfigurationDocument}
    {replace : Bool} {configuration : ConfigurationRecord}
    (done : upsertIdeaConfiguration sha256Hex store draftId document replace =
      .ok (configuration, next)) : LinkedKept store.drafts next.drafts := by
  rw [(upsertIdeaConfiguration_eq_ok done).1]
  exact linkedKept_update fun _ _ _ => ⟨rfl, rfl⟩

theorem upsertConfiguration_hash {sha256Hex : String → String}
    {configurations next : ConfigurationTable} {document : ConfigurationDocument}
    {configuration : ConfigurationRecord}
    (done : upsertConfiguration sha256Hex configurations document = .ok (configuration, next)) :
    configuration.configHash = sha256Hex document.canonicalJson := by
  unfold upsertConfiguration at done
  simp only at done
  split at done
  · split at done
    · cases done
    · rename_i same
      cases done
      simp only [Bool.or_eq_true, decide_eq_true_eq, not_or, Decidable.not_not] at same
      exact same.1
  · split at done
    · rename_i found
      cases done
      simpa using List.find?_some found
    · split at done <;> cases done
      rfl

theorem upsertIdeaConfiguration_hash {sha256Hex : String → String} {store next : ResearchStore}
    {draftId : String} {document : ConfigurationDocument} {replace : Bool}
    {configuration : ConfigurationRecord}
    (done : upsertIdeaConfiguration sha256Hex store draftId document replace =
      .ok (configuration, next)) :
    configuration.configHash = sha256Hex document.canonicalJson := by
  unfold upsertIdeaConfiguration at done
  obtain ⟨saved, upserted, done⟩ := bind_eq_ok.mp done
  obtain ⟨drafts, _, done⟩ := bind_eq_ok.mp done
  cases done
  exact upsertConfiguration_hash upserted

/-! ## The stored packets -/

def storedPacket (drafts : DraftTable) (draftId : String) : Option String :=
  (drafts.get draftId).map (·.candidateJson)

theorem storedPacket_update {drafts : DraftTable} {changedId : String} {change : DraftChange}
    (same : ∀ draft, (change.apply draft).candidateJson = draft.candidateJson)
    (draftId : String) :
    storedPacket (drafts.update changedId change) draftId = storedPacket drafts draftId := by
  unfold storedPacket
  rw [Table.get_update]
  split
  · rename_i changed
    rw [← changed]
    cases drafts.get draftId with
    | none => rfl
    | some draft => exact congrArg some (same draft)
  · rfl

theorem save_storedPacket {drafts next : DraftTable} {savedId title now : String}
    (saved : IdeaDraftRepository.save drafts savedId title now = .ok next)
    {draftId text : String} (stored : storedPacket drafts draftId = some text) :
    storedPacket next draftId = some text := by
  unfold IdeaDraftRepository.save at saved
  simp only at saved
  split at saved
  · cases saved
  · split at saved
    · cases saved
    · split at saved
      · cases saved
      · split at saved
        · rename_i inserted
          cases saved
          unfold storedPacket at stored ⊢
          rw [Table.get_insert inserted, if_neg]
          · exact stored
          · intro same
            rw [same, (Table.insert_some_iff.mp inserted).1] at stored
            cases stored
        · cases saved
          rw [storedPacket_update fun _ => rfl]
          exact stored

theorem upsertIdeaConfiguration_storedPacket {sha256Hex : String → String}
    {store next : ResearchStore} {linkedId : String} {document : ConfigurationDocument}
    {replace : Bool} {configuration : ConfigurationRecord}
    (done : upsertIdeaConfiguration sha256Hex store linkedId document replace =
      .ok (configuration, next)) (draftId : String) :
    storedPacket next.drafts draftId = storedPacket store.drafts draftId := by
  rw [(upsertIdeaConfiguration_eq_ok done).1]
  exact storedPacket_update (fun _ => rfl) draftId

theorem setCandidatePacket_storedPacket {drafts next : DraftTable} {editedId candidateJson : String}
    (edited : IdeaDraftRepository.setCandidatePacket drafts editedId candidateJson = .ok next)
    {draftId : String} (other : draftId ≠ editedId) :
    storedPacket next draftId = storedPacket drafts draftId := by
  unfold IdeaDraftRepository.setCandidatePacket at edited
  split at edited
  · cases edited
  · split at edited
    · cases edited
    · split at edited
      · cases edited
      · cases edited
        unfold storedPacket
        rw [Table.get_update, if_neg other]

theorem delete_storedPacket {drafts next : DraftTable} {deletedId : String}
    (deleted : IdeaDraftRepository.delete drafts deletedId = .ok next)
    {draftId : String} (other : draftId ≠ deletedId) :
    storedPacket next draftId = storedPacket drafts draftId := by
  unfold IdeaDraftRepository.delete at deleted
  split at deleted
  · cases deleted
    rfl
  · split at deleted
    · cases deleted
    · cases deleted
      unfold storedPacket
      rw [Table.get_remove, if_neg other]

end QuantFactory.Campaign
