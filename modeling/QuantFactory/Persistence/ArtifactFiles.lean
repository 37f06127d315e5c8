import QuantFactory.Library.Runs
import Mathlib.Logic.Function.Basic

/-!
# Artifact files and rows

`transaction` and `ArtifactFileTransaction` of `persistence/database.py`, around a
unit of work that writes artifact files and rows.  Any step may raise; the unit
may catch what a step raises and go on.  A process that dies is not modelled.
-/

set_option autoImplicit false

namespace QuantFactory.Persistence

/-- A path of the artifact tree.  The temporary names `.{name}.{token}.staged` and
`.{name}.{token}.backup` carry the number of their `uuid4` token. -/
inductive ArtifactPath where
  | file (path : String)
  | staged (target : String) (token : Nat)
  | backup (target : String) (token : Nat)
  deriving DecidableEq, Repr

section Files
variable {Content : Type}

abbrev Files (Content : Type) := ArtifactPath → Option Content

def unlink (files : Files Content) (path : ArtifactPath) : Files Content :=
  Function.update files path none

/-- `source.replace(target)`, of an existing source. -/
def replace (files : Files Content) (source target : ArtifactPath) : Files Content :=
  Function.update (Function.update files target (files source)) source none

inductive WriteFault (Content : Type) where
  | mkdir
  /-- `staged.write_bytes`, which may leave a part of the content. -/
  | stage (part : Option Content)
  | verify
  | probe
  | backup
  | install
  | record

/-- `_writes`: the target of each write and the backup of what it replaced. -/
abbrev WriteLog := List (ArtifactPath × Option ArtifactPath)

/-- What the body of `write_bytes` has done, and whether it raised. -/
structure WriteProgress (Content : Type) where
  files : Files Content
  prior : Option ArtifactPath
  installed : Bool
  raised : Bool

def installStaged (files : Files Content) (target : String) (token : Nat)
    (prior : Option ArtifactPath) (fault : Option (WriteFault Content)) : WriteProgress Content :=
  match fault with
  | some .install => ⟨files, prior, false, true⟩
  | some .record => ⟨replace files (.staged target token) (.file target), prior, true, true⟩
  | _ => ⟨replace files (.staged target token) (.file target), prior, true, false⟩

def backUpTarget (files : Files Content) (target : String) (token : Nat)
    (fault : Option (WriteFault Content)) : WriteProgress Content :=
  match fault with
  | some .probe => ⟨files, none, false, true⟩
  | _ =>
      if (files (.file target)).isSome then
        match fault with
        | some .backup => ⟨files, none, false, true⟩
        | _ => installStaged (replace files (.file target) (.backup target token)) target token
            (some (.backup target token)) fault
      else installStaged files target token none fault

/-- The `try` of `write_bytes`. -/
def tryWrite (files : Files Content) (target : String) (content : Content) (token : Nat)
    (fault : Option (WriteFault Content)) : WriteProgress Content :=
  match fault with
  | some (.stage part) =>
      ⟨Function.update files (.staged target token) part, none, false, true⟩
  | some .verify =>
      ⟨Function.update files (.staged target token) (some content), none, false, true⟩
  | _ => backUpTarget (Function.update files (.staged target token) (some content)) target token
      fault

/-- `if backup is not None and backup.exists(): backup.replace(target)`. -/
def restore (files : Files Content) (target : ArtifactPath) : Option ArtifactPath → Files Content
  | none => files
  | some backup => if (files backup).isSome then replace files backup target else files

@[simp] theorem restore_none (files : Files Content) (target : ArtifactPath) :
    restore files target none = files := rfl

/-- The `except` of `write_bytes`. -/
def undoWrite (target : String) (token : Nat) (progress : WriteProgress Content) :
    Files Content :=
  let files := unlink progress.files (.staged target token)
  let files := if progress.installed then unlink files (.file target) else files
  restore files (.file target) progress.prior

/-- `write_bytes`: the files, and the entry of `_writes` when it does not raise. -/
def writeBytes (files : Files Content) (target : String) (content : Content) (token : Nat)
    (fault : Option (WriteFault Content)) :
    Files Content × Option (ArtifactPath × Option ArtifactPath) :=
  match fault with
  | some .mkdir => (files, none)
  | _ =>
      let progress := tryWrite files target content token fault
      if progress.raised then (undoWrite target token progress, none)
      else (progress.files, some (.file target, progress.prior))

/-- `rollback`, over the writes in reverse. -/
def rollbackWrites : WriteLog → Files Content → Files Content
  | [], files => files
  | (target, prior) :: earlier, files =>
      rollbackWrites earlier (restore (unlink files target) target prior)

def rollback (writes : WriteLog) (files : Files Content) : Files Content :=
  rollbackWrites writes.reverse files

def finish : WriteLog → Files Content → Files Content
  | [], files => files
  | (_, none) :: rest, files => finish rest files
  | (_, some backup) :: rest, files => finish rest (unlink files backup)

end Files

/-! ## A unit of work -/

section Work
variable {Content Rows : Type}

/-- What a unit does next may depend on whether the step before it raised. -/
inductive UnitOfWork (Content Rows : Type) where
  | returns
  | raises
  | write (target : String) (content : Content) (fault : Option (WriteFault Content))
      (next : Bool → UnitOfWork Content Rows)
  | statement (change : Rows → Option Rows) (next : Bool → UnitOfWork Content Rows)

structure WorkState (Content Rows : Type) where
  files : Files Content
  writes : WriteLog
  /-- The next `uuid4` token. -/
  token : Nat
  rows : Rows

def WorkState.afterWrite (state : WorkState Content Rows)
    (written : Files Content × Option (ArtifactPath × Option ArtifactPath)) :
    WorkState Content Rows :=
  { state with
    files := written.1
    writes := state.writes ++ written.2.toList
    token := state.token + 1 }

def runUnit : UnitOfWork Content Rows → WorkState Content Rows → WorkState Content Rows × Bool
  | .returns, state => (state, false)
  | .raises, state => (state, true)
  | .write target content fault next, state =>
      let written := writeBytes state.files target content state.token fault
      runUnit (next written.2.isNone) (state.afterWrite written)
  | .statement change next, state => match change state.rows with
      | none => runUnit (next true) state
      | some rows => runUnit (next false) { state with rows := rows }

inductive TransactionFault where
  | begin | commit
  deriving DecidableEq, Repr

structure UnitResult (Content Rows : Type) where
  files : Files Content
  rows : Rows
  raised : Bool

/-- `with artifact_file_transaction() as files, transaction(connection): …`. -/
def runInTransactions (work : UnitOfWork Content Rows) (files : Files Content) (token : Nat)
    (rows : Rows) (fault : Option TransactionFault) : UnitResult Content Rows :=
  if fault = some .begin then ⟨rollback [] files, rows, true⟩
  else
    let done := runUnit work ⟨files, [], token, rows⟩
    if done.2 || fault = some .commit then
      ⟨rollback done.1.writes done.1.files, rows, true⟩
    else ⟨finish done.1.writes done.1.files, done.1.rows, false⟩

end Work

/-! ## What a unit of work means -/

section Meaning
variable {Content Rows : Type}

/-- Whether the fault is reached: a target that does not exist is not backed up. -/
def faultReached (present : Bool) : Option (WriteFault Content) → Bool
  | none => false
  | some .backup => present
  | some _ => true

structure Meaning (Content Rows : Type) where
  contents : String → Option Content
  writes : List (String × Content)
  rows : Rows
  raised : Bool

def Meaning.afterWriting (target : String) (content : Content) (meant : Meaning Content Rows) :
    Meaning Content Rows :=
  { meant with writes := (target, content) :: meant.writes }

/-- A write that succeeds gives its target the content; a step that raises does nothing. -/
def meaning : UnitOfWork Content Rows → (String → Option Content) → Rows → Meaning Content Rows
  | .returns, contents, rows => ⟨contents, [], rows, false⟩
  | .raises, contents, rows => ⟨contents, [], rows, true⟩
  | .write target content fault next, contents, rows =>
      if faultReached (contents target).isSome fault then meaning (next true) contents rows
      else (meaning (next false) (Function.update contents target (some content)) rows).afterWriting
        target content
  | .statement change next, contents, rows => match change rows with
      | none => meaning (next true) contents rows
      | some changed => meaning (next false) contents changed

def lastWritten (target : String) : List (String × Content) → Option Content
  | [] => none
  | (path, content) :: rest =>
      (lastWritten target rest).or (if target = path then some content else none)

/-- The files with new contents of the targets; temporary names are left alone. -/
def withContents (files : Files Content) (contents : String → Option Content) : Files Content
  | .file target => contents target
  | other => files other

/-- An artifact tree in which no file carries a token that is still to be drawn. -/
structure ArtifactTree (Content : Type) where
  files : Files Content
  token : Nat
  fresh : ∀ target later, token ≤ later →
    files (.staged target later) = none ∧ files (.backup target later) = none

theorem meaning_contents (work : UnitOfWork Content Rows) (contents : String → Option Content)
    (rows : Rows) (target : String) :
    (meaning work contents rows).contents target =
      (lastWritten target (meaning work contents rows).writes).or (contents target) := by
  induction work generalizing contents rows with
  | returns => rfl
  | raises => rfl
  | write path content fault next ih =>
      simp only [meaning]
      split_ifs with reached
      · exact ih true contents rows
      · simp only [Meaning.afterWriting, ih, lastWritten, Option.or_assoc]
        congr 1
        by_cases same : target = path
        · simp [same]
        · simp [same]
  | statement change next ih =>
      simp only [meaning]
      cases change rows with
      | none => exact ih true contents rows
      | some changed => exact ih false contents changed

end Meaning

/-! ## One write -/

section Write
variable {Content : Type} {files : Files Content} {target : String} {token : Nat}

/-- The files after a write: the target is new, and its backup holds what it was. -/
def written (files : Files Content) (target : String) (content : Content) (token : Nat) :
    Files Content :=
  Function.update (Function.update files (.backup target token) (files (.file target)))
    (.file target) (some content)

def backupOf (files : Files Content) (target : String) (token : Nat) : Option ArtifactPath :=
  if (files (.file target)).isSome then some (.backup target token) else none

theorem installed_absent (content : Content) (freshStaged : files (.staged target token) = none)
    (freshBackup : files (.backup target token) = none) (absent : files (.file target) = none) :
    replace (Function.update files (.staged target token) (some content))
        (.staged target token) (.file target) = written files target content token := by
  funext path
  simp only [replace, written, Function.update_apply]
  split_ifs <;> simp_all

theorem installed_present (target : String) (content : Content) (freshStaged : files (.staged target token) = none) :
    replace (replace (Function.update files (.staged target token) (some content))
        (.file target) (.backup target token)) (.staged target token) (.file target) =
      written files target content token := by
  funext path
  simp only [replace, written, Function.update_apply]
  split_ifs <;> simp_all

/-- The `except` branch takes back a write that got as far as the backup. -/
theorem undone_backup (content : Content) (freshStaged : files (.staged target token) = none)
    (freshBackup : files (.backup target token) = none)
    (present : (files (.file target)).isSome = true) :
    restore (unlink (replace (Function.update files (.staged target token) (some content))
        (.file target) (.backup target token)) (.staged target token)) (.file target)
      (some (.backup target token)) = files := by
  obtain ⟨old, found⟩ := Option.isSome_iff_exists.mp present
  have saved : unlink (replace (Function.update files (.staged target token) (some content))
      (.file target) (.backup target token)) (.staged target token) (.backup target token) =
      some old := by
    simp [unlink, replace, found]
  rw [restore, saved, Option.isSome_some, if_pos rfl]
  funext path
  simp only [unlink, replace, Function.update_apply]
  split_ifs <;> simp_all

theorem undone_staged (part : Option Content)
    (freshStaged : files (.staged target token) = none) :
    unlink (Function.update files (.staged target token) part) (.staged target token) = files := by
  rw [unlink, Function.update_idem, ← freshStaged, Function.update_eq_self]

theorem staged_gone (target : String) (content : Content) (freshStaged : files (.staged target token) = none) :
    unlink (written files target content token) (.staged target token) =
      written files target content token := by
  have gone : written files target content token (.staged target token) = none := by
    simp [written, freshStaged]
  rw [unlink, ← gone, Function.update_eq_self]

/-- Removing the target and restoring its backup takes a write back. -/
theorem restored (target : String) (content : Content) (freshBackup : files (.backup target token) = none) :
    restore (unlink (written files target content token) (.file target)) (.file target)
      (backupOf files target token) = files := by
  by_cases present : (files (.file target)).isSome = true
  · obtain ⟨old, found⟩ := Option.isSome_iff_exists.mp present
    have saved : unlink (written files target content token) (.file target)
        (.backup target token) = some old := by
      simp [unlink, written, found]
    rw [backupOf, if_pos present, restore, saved, Option.isSome_some, if_pos rfl]
    funext path
    simp only [unlink, replace, written, Function.update_apply]
    split_ifs <;> simp_all
  · have absent : files (.file target) = none := by simpa using present
    rw [backupOf, if_neg present, restore_none]
    funext path
    simp only [unlink, written, Function.update_apply]
    split_ifs <;> simp_all

/-- A write either leaves the files alone and raises, or writes and is recorded. -/
theorem writeBytes_eq (content : Content) (fault : Option (WriteFault Content))
    (freshStaged : files (.staged target token) = none)
    (freshBackup : files (.backup target token) = none) :
    writeBytes files target content token fault =
      if faultReached (files (.file target)).isSome fault then (files, none)
      else (written files target content token,
        some (.file target, backupOf files target token)) := by
  have tookBackAll := restored target content freshBackup
  have gone := staged_gone target content freshStaged
  by_cases present : (files (.file target)).isSome = true
  · have recorded : backupOf files target token = some (.backup target token) := if_pos present
    have tookBack := undone_backup content freshStaged freshBackup present
    have installed := installed_present target content freshStaged
    rw [recorded] at tookBackAll
    rcases fault with _ | ⟨_ | _ | _ | _ | _ | _ | _⟩ <;>
      simp [writeBytes, tryWrite, backUpTarget, installStaged, undoWrite, faultReached,
        present, recorded, undone_staged, freshStaged, installed, tookBack, gone, tookBackAll]
  · have absent : files (.file target) = none := by simpa using present
    have recorded : backupOf files target token = none := if_neg present
    have installed := installed_absent content freshStaged freshBackup absent
    rw [recorded, restore_none] at tookBackAll
    rcases fault with _ | ⟨_ | _ | _ | _ | _ | _ | _⟩ <;>
      simp [writeBytes, tryWrite, backUpTarget, installStaged, undoWrite, faultReached,
        absent, recorded, undone_staged, freshStaged, installed, gone, tookBackAll]

end Write

/-! ## The log of writes -/

section Log
variable {Content : Type}

/-- The backups that `finish` removes. -/
def backups (writes : WriteLog) : List ArtifactPath :=
  writes.filterMap Prod.snd

theorem finish_apply (writes : WriteLog) (files : Files Content) (path : ArtifactPath) :
    finish writes files path = if path ∈ backups writes then none else files path := by
  induction writes generalizing files with
  | nil => simp [finish, backups]
  | cons entry rest ih =>
      obtain ⟨target, _ | backup⟩ := entry
      · rw [finish, ih, backups, backups, List.filterMap_cons_none rfl]
      · rw [finish, ih, backups, backups, List.filterMap_cons_some (f := Prod.snd) rfl]
        by_cases same : path = backup
        · simp [same, unlink]
        · rw [unlink, Function.update_of_ne same]
          simp only [List.mem_cons, same, false_or]

theorem backups_append (writes : WriteLog) (target : ArtifactPath) (prior : Option ArtifactPath) :
    backups (writes ++ [(target, prior)]) = backups writes ++ prior.toList := by
  cases prior with
  | none => simp [backups]
  | some backup => simp [backups]

theorem rollback_append (writes : WriteLog) (files : Files Content) (target : ArtifactPath)
    (prior : Option ArtifactPath) :
    rollback (writes ++ [(target, prior)]) files =
      rollback writes (restore (unlink files target) target prior) := by
  simp [rollback, rollbackWrites]

end Log

/-! ## A whole unit of work -/

section Run
variable {Content Rows : Type}

/-- What a unit keeps: undoing gives the files it began with, finishing gives them with
the contents written, and no file carries a token that is still to be drawn. -/
structure Tracks (before : Files Content) (contents : String → Option Content)
    (state : WorkState Content Rows) : Prop where
  undone : rollback state.writes state.files = before
  finished : finish state.writes state.files = withContents before contents
  targets : ∀ target, state.files (.file target) = contents target
  fresh : ∀ target later, state.token ≤ later →
    state.files (.staged target later) = none ∧ state.files (.backup target later) = none
  backed : ∀ target, ArtifactPath.file target ∉ backups state.writes

variable {before : Files Content} {contents : String → Option Content}
  {state : WorkState Content Rows}

/-- A write that raises changes nothing but the token. -/
theorem Tracks.refused (tracks : Tracks before contents state) :
    Tracks before contents (state.afterWrite (state.files, none)) where
  undone := by simpa [WorkState.afterWrite] using tracks.undone
  finished := by simpa [WorkState.afterWrite] using tracks.finished
  targets := tracks.targets
  fresh target later drawn := tracks.fresh target later (Nat.le_of_succ_le drawn)
  backed := by simpa [WorkState.afterWrite] using tracks.backed

theorem Tracks.wrote (tracks : Tracks before contents state) (target : String)
    (content : Content) :
    Tracks before (Function.update contents target (some content))
      (state.afterWrite (written state.files target content state.token,
        some (.file target, backupOf state.files target state.token))) where
  undone := by
    have freshBackup := (tracks.fresh target state.token le_rfl).2
    simp only [WorkState.afterWrite, Option.toList_some, rollback_append]
    rw [restored target content freshBackup, tracks.undone]
  finished := by
    have freshBackup := (tracks.fresh target state.token le_rfl).2
    funext path
    have finished := congrFun tracks.finished path
    simp only [WorkState.afterWrite, Option.toList_some, finish_apply, backups_append,
      List.mem_append] at finished ⊢
    cases path with
    | file other =>
        have unbacked : ArtifactPath.file other ∉ (backupOf state.files target state.token).toList := by
          unfold backupOf
          split_ifs <;> simp
        have targets := tracks.targets other
        simp only [tracks.backed other, unbacked, written, withContents, Function.update_apply]
        split_ifs <;> simp_all
    | staged other later =>
        have unbacked : ArtifactPath.staged other later ∉
            (backupOf state.files target state.token).toList := by
          unfold backupOf
          split_ifs <;> simp
        simpa [unbacked, written, withContents] using finished
    | backup other later =>
        by_cases same : (ArtifactPath.backup other later) = .backup target state.token
        · rw [same] at finished ⊢
          simp only [freshBackup, ite_self] at finished
          rw [← show none = withContents before (Function.update contents target (some content))
            (.backup target state.token) from finished]
          by_cases present : (state.files (.file target)).isSome = true
          · simp [backupOf, present]
          · have absent : state.files (.file target) = none := by simpa using present
            simp [written, absent]
        · have unbacked : ArtifactPath.backup other later ∉
              (backupOf state.files target state.token).toList := by
            unfold backupOf
            split_ifs <;> simp_all
          simpa [unbacked, written, withContents, Function.update_of_ne same] using finished
  targets other := by
    simp only [WorkState.afterWrite, written, Function.update_apply, tracks.targets]
    split_ifs <;> simp_all
  fresh other later drawn := by
    have := tracks.fresh other later (Nat.le_of_succ_le drawn)
    have newer : later ≠ state.token := Nat.ne_of_gt drawn
    simp [WorkState.afterWrite, written, this, newer]
  backed other := by
    simp only [WorkState.afterWrite, Option.toList_some, backups_append, backupOf]
    have := tracks.backed other
    split_ifs <;> simp_all

theorem Tracks.stated (tracks : Tracks before contents state) (rows : Rows) :
    Tracks before contents { state with rows := rows } where
  undone := tracks.undone
  finished := tracks.finished
  targets := tracks.targets
  fresh := tracks.fresh
  backed := tracks.backed

theorem runUnit_meaning (work : UnitOfWork Content Rows)
    (tracks : Tracks before contents state) :
    Tracks before (meaning work contents state.rows).contents (runUnit work state).1 ∧
      (runUnit work state).1.rows = (meaning work contents state.rows).rows ∧
      (runUnit work state).2 = (meaning work contents state.rows).raised := by
  induction work generalizing contents state with
  | returns => exact ⟨tracks, rfl, rfl⟩
  | raises => exact ⟨tracks, rfl, rfl⟩
  | write target content fault next ih =>
      have ⟨freshStaged, freshBackup⟩ := tracks.fresh target state.token le_rfl
      simp only [runUnit, meaning, writeBytes_eq content fault freshStaged freshBackup,
        ← tracks.targets]
      split_ifs with reached
      · exact ih true tracks.refused
      · exact ih false (tracks.wrote target content)
  | statement change next ih =>
      simp only [runUnit, meaning]
      cases changed : change state.rows with
      | none => exact ih true tracks
      | some rows => exact ih false (tracks.stated rows)

end Run

/-! ## Files and rows together -/

section Together
variable {Content Rows : Type}

def ArtifactTree.contents (tree : ArtifactTree Content) (target : String) : Option Content :=
  tree.files (.file target)

theorem ArtifactTree.tracks (tree : ArtifactTree Content) (rows : Rows) :
    Tracks tree.files tree.contents ⟨tree.files, [], tree.token, rows⟩ where
  undone := rfl
  finished := by
    funext path
    cases path <;> rfl
  targets _ := rfl
  fresh := tree.fresh
  backed _ := by simp [backups]

/-- Where the transaction or the unit raises, every file and every row is as it was before;
otherwise every target holds the last content written to it and the rows are committed. -/
theorem files_and_rows_together (tree : ArtifactTree Content) (rows : Rows)
    (work : UnitOfWork Content Rows) (fault : Option TransactionFault) :
    let result := runInTransactions work tree.files tree.token rows fault
    let meant := meaning work tree.contents rows
    result.raised = (fault.isSome || meant.raised) ∧
      (result.raised = true → result.files = tree.files ∧ result.rows = rows) ∧
      (result.raised = false →
        result.files = withContents tree.files (fun target =>
          (lastWritten target meant.writes).or (tree.contents target)) ∧
        result.rows = meant.rows) := by
  have holds : (meaning work tree.contents rows).contents = fun target =>
      (lastWritten target (meaning work tree.contents rows).writes).or (tree.contents target) :=
    funext (meaning_contents work tree.contents rows)
  obtain ⟨tracks, kept, raised⟩ := runUnit_meaning work (tree.tracks rows)
  have undone := tracks.undone
  have finished := tracks.finished
  simp only [← holds, runInTransactions]
  rcases fault with _ | _ | _
  · cases unit : (meaning work tree.contents rows).raised with
    | true => simp_all
    | false => simp_all
  · simp [rollback, rollbackWrites]
  · simp_all

end Together

/-- A tree with one artifact and the staged rest of a write that was cut off. -/
def sampleTree : ArtifactTree String where
  files path :=
    if path = .file "manifest.json" then some "old"
    else if path = .staged "report.json" 0 then some "part"
    else none
  token := 1
  fresh target later drawn := by
    simp
    omega

/-- The manifest is replaced and its run recorded before the report is written. -/
def sampleWork (fault : Option (WriteFault String)) : UnitOfWork String (List String) :=
  .write "manifest.json" "new" none fun _ =>
    .statement (fun rows => some (rows ++ ["run_001"])) fun _ =>
      .write "report.json" "report" fault fun raised => if raised then .raises else .returns

theorem files_and_rows_together_sample :
    (runInTransactions (sampleWork (some .install)) sampleTree.files sampleTree.token [] none).files =
        sampleTree.files ∧
      (runInTransactions (sampleWork none) sampleTree.files sampleTree.token [] none).files
          (.file "manifest.json") = some "new" ∧
      (runInTransactions (sampleWork none) sampleTree.files sampleTree.token [] none).rows =
        ["run_001"] := by
  obtain ⟨raised, undone, _⟩ :=
    files_and_rows_together sampleTree [] (sampleWork (some .install)) none
  obtain ⟨returned, _, done⟩ := files_and_rows_together sampleTree [] (sampleWork none) none
  obtain ⟨files, rows⟩ := done (returned.trans rfl)
  exact ⟨(undone (raised.trans rfl)).1, by rw [files]; rfl, rows.trans rfl⟩

end QuantFactory.Persistence
