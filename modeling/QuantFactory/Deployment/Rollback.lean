import QuantFactory.Deployment.Switch
import Mathlib.Data.List.Nodup

/-!
# What a rollback restores

Where each fault leaves the files, what `rollback` makes of them, and so for
which faults everything is as it was before the switch.
-/

set_option autoImplicit false

namespace QuantFactory.Deployment

/-! ## One operation -/

section Attempt
variable {fault : Fault} {op : SwitchOp} {effect : Host → Host}
  {torn : Option Text → Host → Host} {host : Host}

theorem attempt_passes (other : fault.op ≠ op) :
    attempt (some fault) op effect torn host = .ok ((), effect host) := by
  simp [attempt, other]

theorem attempt_raises (same : fault.op = op) :
    attempt (some fault) op effect torn host = .error (torn fault.left host) := by
  simp [attempt, same]

theorem andThen_ok {α β : Type} {first : Step α} {second : α → Step β} {value : α} {next : Host}
    (returned : first host = .ok (value, next)) : andThen first second host = second value next := by
  simp [andThen, returned]

theorem andThen_error {α β : Type} {first : Step α} {second : α → Step β} {failed : Host}
    (raised : first host = .error failed) : andThen first second host = .error failed := by
  simp [andThen, raised]

end Attempt

/-! ## The installed files -/

def NamesFile (fault : Fault) (files : List Tracked) : Prop :=
  ∃ tracked ∈ files, fault.op = .backup tracked ∨ fault.op = .copy tracked ∨
    fault.op = .chmod tracked

def FilesCovered (fault : Fault) (files : List Tracked) (host : Host) : Prop :=
  ∃ tracked, files.head? = some tracked ∧ (fault.op = .backup tracked ∨
    (fault.op = .copy tracked ∧ fault.left = host.installed tracked))

structure FilesFailed (fault : Fault) (files : List Tracked) (host failed : Host) : Prop where
  env : failed.env = host.env
  current : failed.current = host.current
  named : NamesFile fault files
  others : ∀ tracked, tracked ∉ files → failed.installed tracked = host.installed tracked
  covered : (∀ tracked, failed.installed tracked = host.installed tracked) ↔
    FilesCovered fault files host

/-- The report `install_infra` makes of a file. -/
def reportOf (host : Host) (tracked : Tracked) : Restorable :=
  ⟨tracked, (host.installed tracked).isSome⟩

structure FilesInstalled (release : Tracked → Text) (files : List Tracked)
    (host : Host) (restored : List Restorable) (next : Host) : Prop where
  env : next.env = host.env
  current : next.current = host.current
  report : restored = files.map (reportOf host)
  others : ∀ tracked, tracked ∉ files → next.installed tracked = host.installed tracked ∧
    next.backups tracked = host.backups tracked
  copied : ∀ tracked ∈ files, next.installed tracked = some (release tracked) ∧
    ((host.installed tracked).isSome → next.backups tracked = host.installed tracked)

section Files
variable (fault : Fault) (release : Tracked → Text)

theorem backUpFile_cases (tracked : Tracked) (host : Host) :
    (∃ next, backUpFile (some fault) tracked host =
        .ok ((host.installed tracked).isSome, next) ∧ next.installed = host.installed ∧
        next.env = host.env ∧ next.current = host.current ∧
        (∀ other, other ≠ tracked → next.backups other = host.backups other) ∧
        ((host.installed tracked).isSome → next.backups tracked = host.installed tracked)) ∨
    (fault.op = .backup tracked ∧
      backUpFile (some fault) tracked host = .error (host.backUp tracked fault.left)) := by
  by_cases there : (host.installed tracked).isSome = true
  · by_cases backup : fault.op = .backup tracked
    · right
      refine ⟨backup, ?_⟩
      simp only [backUpFile, there, if_true]
      exact andThen_error (attempt_raises backup)
    · left
      refine ⟨host.backUp tracked (host.installed tracked), ?_, rfl, rfl, rfl, ?_, ?_⟩
      · simp only [backUpFile, there, if_true]
        exact andThen_ok (attempt_passes backup)
      · intro other different
        exact Function.update_of_ne different _ _
      · intro _
        exact Function.update_self _ _ _
  · left
    refine ⟨host, ?_, rfl, rfl, rfl, fun _ _ => rfl, fun isSome => absurd isSome there⟩
    simp [backUpFile, there]

theorem copyFile_cases (tracked : Tracked) (host : Host) :
    copyFile (some fault) release tracked host =
        .ok ((), host.install tracked (some (release tracked))) ∨
      (fault.op = .copy tracked ∧ copyFile (some fault) release tracked host =
        .error (host.install tracked fault.left)) ∨
      (fault.op = .chmod tracked ∧ copyFile (some fault) release tracked host =
        .error (host.install tracked (some (release tracked)))) := by
  by_cases copy : fault.op = .copy tracked
  · right; left
    exact ⟨copy, andThen_error (attempt_raises copy)⟩
  · have copied : copyFile (some fault) release tracked host =
        attemptWhole (some fault) (.chmod tracked) id
          (host.install tracked (some (release tracked))) := andThen_ok (attempt_passes copy)
    rw [copied]
    by_cases chmod : fault.op = .chmod tracked
    · right; right
      exact ⟨chmod, attempt_raises chmod⟩
    · left
      exact attempt_passes chmod

theorem filesFailed_backup {tracked : Tracked} (host : Host) (left : Option Text)
    (op : fault.op = .backup tracked) :
    FilesFailed fault [tracked] host (host.backUp tracked left) where
  env := rfl
  current := rfl
  named := ⟨tracked, List.mem_singleton_self tracked, Or.inl op⟩
  others _ _ := rfl
  covered := ⟨fun _ => ⟨tracked, rfl, Or.inl op⟩, fun _ _ => rfl⟩

theorem filesFailed_copy {tracked : Tracked} (host failed : Host) (env : failed.env = host.env)
    (current : failed.current = host.current)
    (installed : failed.installed = Function.update host.installed tracked fault.left)
    (op : fault.op = .copy tracked) : FilesFailed fault [tracked] host failed where
  env := env
  current := current
  named := ⟨tracked, List.mem_singleton_self tracked, Or.inr (Or.inl op)⟩
  others other outside := by
    rw [installed, Function.update_of_ne (by simpa using outside)]
  covered := by
    rw [installed]
    constructor
    · intro same
      refine ⟨tracked, rfl, Or.inr ⟨op, ?_⟩⟩
      simpa using same tracked
    · rintro ⟨other, head, backup | ⟨-, same⟩⟩ t
      · rw [op] at backup
        cases backup
      · obtain rfl : tracked = other := by simpa using head
        rw [same, Function.update_eq_self]

theorem filesFailed_chmod {tracked : Tracked} (host failed : Host) (env : failed.env = host.env)
    (current : failed.current = host.current)
    (installed : failed.installed =
      Function.update host.installed tracked (some (release tracked)))
    (differs : host.installed tracked ≠ some (release tracked))
    (op : fault.op = .chmod tracked) : FilesFailed fault [tracked] host failed where
  env := env
  current := current
  named := ⟨tracked, List.mem_singleton_self tracked, Or.inr (Or.inr op)⟩
  others other outside := by
    rw [installed, Function.update_of_ne (by simpa using outside)]
  covered := by
    constructor
    · intro same
      have changed := same tracked
      rw [installed, Function.update_self] at changed
      exact absurd changed.symm differs
    · rintro ⟨other, -, backup | ⟨copy, -⟩⟩
      · rw [op] at backup
        cases backup
      · rw [op] at copy
        cases copy

theorem installFile_cases (tracked : Tracked) (host : Host)
    (differs : host.installed tracked ≠ some (release tracked)) :
    (∃ next, installFile (some fault) release tracked host = .ok (reportOf host tracked, next) ∧
      FilesInstalled release [tracked] host [reportOf host tracked] next) ∨
    ∃ failed, installFile (some fault) release tracked host = .error failed ∧
      FilesFailed fault [tracked] host failed := by
  rcases backUpFile_cases fault tracked host with
    ⟨kept, backedUp, installed, env, current, others, backup⟩ | ⟨op, raised⟩
  · rcases copyFile_cases fault release tracked kept with copied | ⟨op, raised⟩ | ⟨op, raised⟩
    · left
      refine ⟨kept.install tracked (some (release tracked)),
        (andThen_ok backedUp).trans (andThen_ok copied), ⟨env, current, rfl, ?_, ?_⟩⟩
      · intro other outside
        have different : other ≠ tracked := by simpa using outside
        refine ⟨?_, others other different⟩
        rw [← installed]
        exact Function.update_of_ne different _ _
      · intro other inside
        obtain rfl : other = tracked := by simpa using inside
        exact ⟨Function.update_self _ _ _, backup⟩
    · right
      exact ⟨_, (andThen_ok backedUp).trans (andThen_error raised),
        filesFailed_copy fault host _ env current (by rw [← installed]; rfl) op⟩
    · right
      exact ⟨_, (andThen_ok backedUp).trans (andThen_error raised),
        filesFailed_chmod fault release host _ env current (by rw [← installed]; rfl) differs op⟩
  · right
    exact ⟨_, andThen_error raised, filesFailed_backup fault host _ op⟩

/-- A failure behind an installed file leaves that file changed. -/
theorem filesFailed_cons {tracked : Tracked} {rest : List Tracked} {host next failed : Host}
    {report : List Restorable} (unlisted : tracked ∉ rest)
    (differs : host.installed tracked ≠ some (release tracked))
    (done : FilesInstalled release [tracked] host report next)
    (after : FilesFailed fault rest next failed) :
    FilesFailed fault (tracked :: rest) host failed where
  env := after.env.trans done.env
  current := after.current.trans done.current
  named := by
    obtain ⟨other, member, op⟩ := after.named
    exact ⟨other, List.mem_cons_of_mem tracked member, op⟩
  others other outside := by
    have apart : other ≠ tracked ∧ other ∉ rest := by simpa using outside
    rw [after.others other apart.2, (done.others other (by simpa using apart.1)).1]
  covered := by
    constructor
    · intro same
      have changed := same tracked
      rw [after.others tracked unlisted,
        (done.copied tracked (List.mem_singleton_self tracked)).1] at changed
      exact absurd changed.symm differs
    · rintro ⟨first, head, op⟩
      obtain rfl : tracked = first := by simpa using head
      obtain ⟨other, member, named⟩ := after.named
      have same : other = tracked := by
        rcases op with backup | ⟨copy, -⟩
        · rw [backup] at named
          exact (by simpa using named : tracked = other).symm
        · rw [copy] at named
          exact (by simpa using named : tracked = other).symm
      exact absurd (same ▸ member) unlisted

theorem filesInstalled_cons {tracked : Tracked} {rest : List Tracked} {host next last : Host}
    {report : List Restorable} (unlisted : tracked ∉ rest)
    (done : FilesInstalled release [tracked] host [reportOf host tracked] next)
    (after : FilesInstalled release rest next report last) :
    FilesInstalled release (tracked :: rest) host (reportOf host tracked :: report) last where
  env := after.env.trans done.env
  current := after.current.trans done.current
  report := by
    rw [after.report, List.map_cons]
    congr 1
    apply List.map_congr_left
    intro other member
    have different : other ≠ tracked := fun same => unlisted (same ▸ member)
    unfold reportOf
    rw [(done.others other (by simpa using different)).1]
  others other outside := by
    have apart : other ≠ tracked ∧ other ∉ rest := by simpa using outside
    have before := done.others other (by simpa using apart.1)
    rw [(after.others other apart.2).1, (after.others other apart.2).2]
    exact before
  copied other inside := by
    rcases List.mem_cons.mp inside with rfl | member
    · rw [(after.others other unlisted).1, (after.others other unlisted).2]
      exact done.copied other (List.mem_singleton_self other)
    · have different : other ≠ tracked := fun same => unlisted (same ▸ member)
      have before := (done.others other (by simpa using different)).1
      have copied := after.copied other member
      rw [before] at copied
      exact copied

theorem installFiles_cases : ∀ (files : List Tracked) (host : Host), files.Nodup →
    (∀ tracked ∈ files, host.installed tracked ≠ some (release tracked)) →
    (∃ restored next, installFiles (some fault) release files host = .ok (restored, next) ∧
      FilesInstalled release files host restored next) ∨
    ∃ failed, installFiles (some fault) release files host = .error failed ∧
      FilesFailed fault files host failed := by
  intro files
  induction files with
  | nil =>
      intro host _ _
      left
      exact ⟨[], host, rfl, rfl, rfl, rfl, fun _ _ => ⟨rfl, rfl⟩, by simp⟩
  | cons tracked rest ih =>
      intro host distinct differ
      obtain ⟨unlisted, distinct⟩ := List.nodup_cons.mp distinct
      have differs := differ tracked List.mem_cons_self
      rcases installFile_cases fault release tracked host differs with
        ⟨next, installed, done⟩ | ⟨failed, raised, after⟩
      · have still : ∀ other ∈ rest, next.installed other ≠ some (release other) := by
          intro other member
          have different : other ≠ tracked := fun same => unlisted (same ▸ member)
          rw [(done.others other (by simpa using different)).1]
          exact differ other (List.mem_cons_of_mem tracked member)
        rcases ih next distinct still with ⟨restored, last, others, after⟩ | ⟨failed, raised, after⟩
        · left
          exact ⟨_, last, (andThen_ok installed).trans (andThen_ok others),
            filesInstalled_cons release unlisted done after⟩
        · right
          exact ⟨failed, (andThen_ok installed).trans (andThen_error raised),
            filesFailed_cons fault release unlisted differs done after⟩
      · right
        refine ⟨failed, andThen_error raised, after.env, after.current, ?_, ?_, ?_⟩
        · obtain ⟨other, member, op⟩ := after.named
          obtain rfl : other = tracked := by simpa using member
          exact ⟨other, List.mem_cons_self, op⟩
        · intro other outside
          have apart : other ≠ tracked ∧ other ∉ rest := by simpa using outside
          exact after.others other (by simpa using apart.1)
        · rw [after.covered]
          exact Iff.rfl

end Files

/-! ## The containers and the Dashboard -/

def SwitchOp.ofContainers : SwitchOp → Bool
  | .readEnv | .stageEnv | .chmodEnv | .replaceEnv | .composeUp => true
  | _ => false

def SwitchOp.ofDashboard : SwitchOp → Bool
  | .unstageCurrent | .stageCurrent | .replaceCurrent | .restart | .health => true
  | _ => false

/-- The files a failure leaves, by how far the fault's operation comes. -/
structure TailFailed (fault : Fault) (text : Text) (directory : String) (host failed : Host) :
    Prop where
  installed : failed.installed = host.installed
  backups : failed.backups = host.backups
  env : failed.env = if fault.op.envReplaced then text else host.env
  current : failed.current = if fault.op.currentReplaced then some directory else host.current

section Tail
variable {host : Host} {revision text : Text}

theorem switchContainers_read (fault : Option Fault)
    (readable : ∀ f, fault = some f → f.op ≠ .readEnv)
    (same : setEnvRevision host.env revision = .ok text) :
    switchContainers fault revision host = startContainers fault text host := by
  have read : attemptWhole fault .readEnv id host = .ok ((), host) := by
    cases fault with
    | none => rfl
    | some f => exact attempt_passes (readable f rfl)
  rw [switchContainers, andThen_ok read, same]

theorem switchContainers_none (same : setEnvRevision host.env revision = .ok text) :
    switchContainers none revision host =
      .ok ((), { host with env := text, stagedEnv := none }) :=
  switchContainers_read none (fun _ absent => by cases absent) same

theorem switchContainers_passes {fault : Fault} (other : fault.op.ofContainers = false)
    (same : setEnvRevision host.env revision = .ok text) :
    switchContainers (some fault) revision host =
      .ok ((), { host with env := text, stagedEnv := none }) := by
  obtain ⟨op, left⟩ := fault
  rw [switchContainers_read _ (fun f given => by
    cases given
    rintro rfl
    cases other) same]
  cases op <;> simp [SwitchOp.ofContainers] at other <;> rfl

theorem switchContainers_raises {fault : Fault} (own : fault.op.ofContainers = true)
    (directory : String) (same : setEnvRevision host.env revision = .ok text) :
    ∃ failed, switchContainers (some fault) revision host = .error failed ∧
      TailFailed fault text directory host failed := by
  by_cases read : fault.op = .readEnv
  · refine ⟨host, andThen_error (attempt_raises read), rfl, rfl, ?_, ?_⟩
    · rw [read]
      rfl
    · rw [read]
      rfl
  · rw [switchContainers_read _ (fun f given => by
      cases given
      exact read) same]
    obtain ⟨op, left⟩ := fault
    cases op <;> simp [SwitchOp.ofContainers] at own read <;> exact ⟨_, rfl, rfl, rfl, rfl, rfl⟩

theorem switchDashboard_passes {fault : Fault} (other : fault.op.ofDashboard = false)
    (directory : String) :
    switchDashboard (some fault) directory host =
      .ok ((), { host with current := some directory, stagedCurrent := none }) := by
  obtain ⟨op, left⟩ := fault
  cases op <;> simp [SwitchOp.ofDashboard] at other <;> rfl

theorem switchDashboard_raises {fault : Fault} (own : fault.op.ofDashboard = true)
    (directory : String) :
    ∃ failed, switchDashboard (some fault) directory
        { host with env := text, stagedEnv := none } = .error failed ∧
      TailFailed fault text directory host failed := by
  obtain ⟨op, left⟩ := fault
  cases op <;> simp [SwitchOp.ofDashboard] at own <;> exact ⟨_, rfl, rfl, rfl, rfl, rfl⟩

/-- Behind the installed files a switch goes live, or leaves the files as the fault says. -/
theorem switchTail_cases (fault : Fault) (directory : String)
    (same : setEnvRevision host.env revision = .ok text) :
    (∃ live, andThen (switchContainers (some fault) revision)
        (fun _ => switchDashboard (some fault) directory) host = .ok ((), live)) ∨
    ∃ failed, andThen (switchContainers (some fault) revision)
        (fun _ => switchDashboard (some fault) directory) host = .error failed ∧
      TailFailed fault text directory host failed ∧
      (fault.op.ofContainers = true ∨ fault.op.ofDashboard = true) := by
  by_cases containers : fault.op.ofContainers = true
  · right
    obtain ⟨failed, raised, kept⟩ := switchContainers_raises containers directory same
    exact ⟨failed, andThen_error raised, kept, Or.inl containers⟩
  · have up := switchContainers_passes (by simpa using containers) same
    rw [andThen_ok up]
    by_cases dashboard : fault.op.ofDashboard = true
    · right
      obtain ⟨failed, raised, kept⟩ := switchDashboard_raises dashboard directory
      exact ⟨failed, raised, kept, Or.inr dashboard⟩
    · left
      exact ⟨_, switchDashboard_passes (by simpa using dashboard) directory⟩

end Tail

/-! ## The rollback -/

/-- Restoring the reported files puts back what they held, from their backups. -/
theorem restoreFiles_installed (original : Tracked → Option Text) (files : List Tracked) :
    ∀ host : Host,
      (∀ tracked ∈ files, (original tracked).isSome → host.backups tracked = original tracked) →
      ∀ tracked, ((files.map fun tracked =>
          Restorable.mk tracked (original tracked).isSome).foldl restoreFile host).installed
        tracked = if tracked ∈ files then original tracked else host.installed tracked := by
  induction files with
  | nil => intro host _ tracked; rfl
  | cons first rest ih =>
      intro host backedUp tracked
      have content : (restoreFile host ⟨first, (original first).isSome⟩).installed =
          Function.update host.installed first (original first) := by
        cases held : original first with
        | none => simp [restoreFile, Host.install]
        | some content =>
            have backup := backedUp first List.mem_cons_self (by simp [held])
            simp [restoreFile, Host.install, backup, held]
      have backups : (restoreFile host ⟨first, (original first).isSome⟩).backups =
          host.backups := by
        unfold restoreFile
        split <;> rfl
      rw [List.map_cons, List.foldl_cons, ih _ (fun other member => by
        rw [backups]
        exact backedUp other (List.mem_cons_of_mem first member)), content]
      by_cases inRest : tracked ∈ rest
      · rw [if_pos inRest, if_pos (List.mem_cons_of_mem first inRest)]
      · rw [if_neg inRest]
        by_cases same : tracked = first
        · subst same
          rw [if_pos List.mem_cons_self, Function.update_self]
        · rw [if_neg (by simp [same, inRest]), Function.update_of_ne same]

theorem restoreFiles_rest (restored : List Restorable) : ∀ host : Host,
    (restored.foldl restoreFile host).env = host.env ∧
      (restored.foldl restoreFile host).current = host.current := by
  induction restored with
  | nil => intro host; exact ⟨rfl, rfl⟩
  | cons first rest ih =>
      intro host
      have same : (restoreFile host first).env = host.env ∧
          (restoreFile host first).current = host.current := by
        unfold restoreFile
        split <;> exact ⟨rfl, rfl⟩
      rw [List.foldl_cons, (ih _).1, (ih _).2]
      exact same

structure RolledBack (revision : Option Text) (directory : Option String)
    (restored : List Restorable) (failed after : Host) : Prop where
  installed : after.installed = (restored.foldl restoreFile failed).installed
  env : match revision with
    | some revision => envLine after.env = some (revisionLine revision)
    | none => after.env = failed.env
  current : after.current = match directory with
    | some directory => some directory
    | none => failed.current

theorem rollback_returns (revision : Option Text) (directory : Option String)
    (restored : List Restorable) (failed : Host)
    (writable : ∀ r, revision = some r → ∃ text, setEnvRevision failed.env r = .ok text) :
    ∃ after, rollback revision directory restored failed = .ok ((), after) ∧
      RolledBack revision directory restored failed after := by
  have rest := restoreFiles_rest restored failed
  unfold rollback
  cases revision with
  | none =>
      cases directory with
      | none => exact ⟨_, rfl, rfl, rest.1, rest.2⟩
      | some directory => exact ⟨_, rfl, rfl, rest.1, rfl⟩
  | some revision =>
      obtain ⟨text, same⟩ := writable revision rfl
      have line := (setEnvRevision_written same).line
      have restorable : setEnvRevision (restored.foldl restoreFile failed).env revision =
          .ok text := by
        rw [rest.1]
        exact same
      dsimp only
      rw [andThen_ok (switchContainers_none restorable)]
      cases directory with
      | none => exact ⟨_, rfl, rfl, line, rest.2⟩
      | some directory => exact ⟨_, rfl, rfl, line, rfl⟩

/-! ## Which faults a rollback covers -/

/-- How the fault leaves `.env` and the link. -/
structure LinksLeft (fault : Fault) (text : Text) (directory : String) (before failed : Host) :
    Prop where
  env : failed.env = if fault.op.envReplaced then text else before.env
  current : failed.current = if fault.op.currentReplaced then some directory else before.current

section Coverage
variable {fault : Fault} {before failed : Host} {release : Release} {text : Text}
  (resolve : String → String)

/-- The revision `.env` had can be written again, whatever the fault left there. -/
theorem linksLeft_writable (same : setEnvRevision before.env release.revision = .ok text)
    (left : LinksLeft fault text release.directory before failed) (revision : Text)
    (named : envRevision before.env = some revision) :
    ∃ again, setEnvRevision failed.env revision = .ok again := by
  have full := envRevision_full named
  rw [left.env]
  split
  · exact (setEnvRevision_written same).rewrite full
  · exact setEnvRevision_other same full

theorem replaced_line_differs (same : setEnvRevision before.env release.revision = .ok text)
    (unnamed : envRevision before.env = none) : envLine text ≠ envLine before.env := by
  have done := setEnvRevision_written same
  intro line
  rw [done.line] at line
  rw [envRevision_of_line done.full line.symm] at unnamed
  cases unnamed

theorem rollBack_covers (restored : List Restorable)
    (same : setEnvRevision before.env release.revision = .ok text)
    (left : LinksLeft fault text release.directory before failed) :
    ∃ after, rollBack before failed resolve restored = .rolledBack after ∧
      (Restored before after ↔
        (∀ tracked, (restored.foldl restoreFile failed).installed tracked =
          before.installed tracked) ∧
        EnvCovered before fault ∧ CurrentCovered resolve before fault) := by
  obtain ⟨after, returned, done⟩ := rollback_returns (envRevision before.env)
    (before.current.map resolve) restored failed (linksLeft_writable same left)
  refine ⟨after, by rw [rollBack, returned], ?_⟩
  have line : envLine after.env = envLine before.env ↔ EnvCovered before fault := by
    have env := done.env
    unfold EnvCovered
    cases named : envRevision before.env with
    | some revision =>
        rw [named] at env
        rw [env]
        exact eq_comm
    | none =>
        rw [named] at env
        rw [env, left.env]
        by_cases replaced : fault.op.envReplaced = true
        · simp [replaced, replaced_line_differs same named]
        · simp [replaced]
  have link : after.current = before.current ↔ CurrentCovered resolve before fault := by
    have current := done.current
    unfold CurrentCovered
    cases held : before.current with
    | some link =>
        rw [held] at current
        rw [current]
        simp
    | none =>
        rw [held] at current
        rw [current, Option.map_none, left.current, held]
        by_cases replaced : fault.op.currentReplaced = true
        · simp [replaced]
        · simp [replaced]
  constructor
  · intro whole
    refine ⟨fun tracked => ?_, line.mp whole.line, link.mp whole.current⟩
    rw [← done.installed]
    exact whole.infra tracked
  · rintro ⟨files, covered, linked⟩
    refine ⟨fun tracked => ?_, line.mpr covered, link.mpr linked⟩
    rw [done.installed]
    exact files tracked

theorem infraDrift_nodup (files : Tracked → Text) (installed : Tracked → Option Text) :
    (infraDrift files installed).Nodup := List.Nodup.filter _ (by decide)

theorem infraDrift_differs {files : Tracked → Text} {installed : Tracked → Option Text}
    {tracked : Tracked} (member : tracked ∈ infraDrift files installed) :
    installed tracked ≠ some (files tracked) := by
  simpa using (List.mem_filter.mp member).2

theorem namesFile_early {files : List Tracked} (named : NamesFile fault files) :
    fault.op.envReplaced = false ∧ fault.op.currentReplaced = false := by
  obtain ⟨tracked, -, op | op | op⟩ := named
  · rw [op]
    exact ⟨rfl, rfl⟩
  · rw [op]
    exact ⟨rfl, rfl⟩
  · rw [op]
    exact ⟨rfl, rfl⟩

theorem infraCovered_files (named : NamesFile fault (infraDrift release.files before.installed)) :
    InfraCovered release before fault ↔
      FilesCovered fault (infraDrift release.files before.installed) before := by
  obtain ⟨tracked, -, op | op | op⟩ := named
  · simp [InfraCovered, FilesCovered, op]
  · simp [InfraCovered, FilesCovered, op]
  · simp [InfraCovered, FilesCovered, op]

theorem infraCovered_tail
    (tail : fault.op.ofContainers = true ∨ fault.op.ofDashboard = true) :
    InfraCovered release before fault := by
  unfold InfraCovered
  split
  · rename_i tracked op
    rw [op] at tail
    simp [SwitchOp.ofContainers, SwitchOp.ofDashboard] at tail
  · rename_i tracked op
    rw [op] at tail
    simp [SwitchOp.ofContainers, SwitchOp.ofDashboard] at tail
  · rename_i tracked op
    rw [op] at tail
    simp [SwitchOp.ofContainers, SwitchOp.ofDashboard] at tail
  · rename_i op
    rw [op] at tail
    simp [SwitchOp.ofContainers, SwitchOp.ofDashboard] at tail
  · trivial

def Covered (resolve : String → String) (release : Release) (before : Host) (fault : Fault) :
    Prop :=
  InfraCovered release before fault ∧ EnvCovered before fault ∧
    CurrentCovered resolve before fault

/-- How a switch ends under a fault: live, refused, or rolled back to what it was exactly when
the rollback covers the fault. -/
def EndsAsCovered (fault : Fault) (resolve : String → String) (release : Release)
    (before : Host) (ended : SwitchEnd) : Prop :=
  ended = .refused ∨ (∃ host, ended = .live host) ∨
    ∃ after, ended = .rolledBack after ∧
      (Restored before after ↔ Covered resolve release before fault)

theorem installInfra_cases (fault : Fault) (release : Release) (before : Host) (text : Text)
    (some_ : infraDrift release.files before.installed ≠ []) :
    (∃ restored next, installInfra (some fault) release.files
        (infraDrift release.files before.installed) before = .ok (restored, next) ∧
      FilesInstalled release.files (infraDrift release.files before.installed) before restored
        next) ∨
    ∃ failed, installInfra (some fault) release.files
        (infraDrift release.files before.installed) before = .error failed ∧
      LinksLeft fault text release.directory before failed ∧
      ((∀ tracked, failed.installed tracked = before.installed tracked) ↔
        InfraCovered release before fault) := by
  have distinct := infraDrift_nodup release.files before.installed
  rcases installFiles_cases fault release.files _ before distinct
    (fun tracked member => infraDrift_differs member) with
    ⟨restored, next, done, files⟩ | ⟨failed, raised, files⟩
  · by_cases reload : fault.op = .daemonReload
    · right
      refine ⟨next, (andThen_ok done).trans (andThen_error (attempt_raises reload)), ⟨?_, ?_⟩, ?_⟩
      · rw [reload]
        exact files.env
      · rw [reload]
        exact files.current
      · obtain ⟨tracked, member⟩ := List.exists_mem_of_ne_nil _ some_
        constructor
        · intro all
          have changed := all tracked
          rw [(files.copied tracked member).1] at changed
          exact absurd changed.symm (infraDrift_differs member)
        · intro covered
          rw [InfraCovered, reload] at covered
          exact covered.elim
    · left
      exact ⟨restored, next, (andThen_ok done).trans (andThen_ok (attempt_passes reload)), files⟩
  · right
    have early := namesFile_early files.named
    refine ⟨failed, andThen_error raised, ⟨?_, ?_⟩, ?_⟩
    · rw [early.1]
      exact files.env
    · rw [early.2]
      exact files.current
    · rw [infraCovered_files files.named]
      exact files.covered

theorem switchTail_covered {restored : List Restorable} {host : Host}
    (same : setEnvRevision before.env release.revision = .ok text)
    (env : host.env = before.env) (current : host.current = before.current)
    (files : ∀ failed : Host, failed.installed = host.installed → failed.backups = host.backups →
      ∀ tracked, (restored.foldl restoreFile failed).installed tracked =
        before.installed tracked) :
    EndsAsCovered fault resolve release before
      (match andThen (switchContainers (some fault) release.revision)
          (fun _ => switchDashboard (some fault) release.directory) host with
        | .error failed => rollBack before failed resolve restored
        | .ok (_, host) => .live host) := by
  have same' : setEnvRevision host.env release.revision = .ok text := by rw [env]; exact same
  rcases switchTail_cases fault release.directory same' with ⟨live, up⟩ | ⟨failed, raised, kept, own⟩
  · rw [up]
    exact Or.inr (Or.inl ⟨live, rfl⟩)
  · rw [raised]
    have left : LinksLeft fault text release.directory before failed :=
      ⟨by rw [kept.env, env], by rw [kept.current, current]⟩
    obtain ⟨after, rolled, covers⟩ := rollBack_covers resolve restored same left
    refine Or.inr (Or.inr ⟨after, rolled, covers.trans ?_⟩)
    have all := files failed kept.installed kept.backups
    constructor
    · rintro ⟨-, line, link⟩
      exact ⟨infraCovered_tail own, line, link⟩
    · rintro ⟨-, line, link⟩
      exact ⟨all, line, link⟩

end Coverage

/-- For every fault, release and state of the host: a switch that is rolled back leaves the
privileged files, the revision line and the link as they were exactly when the rollback covers
the fault. -/
theorem rollback_restores_iff (fault : Fault) (resolve : String → String) (release : Release)
    (before : Host) :
    EndsAsCovered fault resolve release before (switch (some fault) resolve release before) := by
  unfold switch
  cases same : setEnvRevision before.env release.revision with
  | error message => exact Or.inl rfl
  | ok text =>
      dsimp only
      by_cases empty : infraDrift release.files before.installed = []
      · rw [if_pos empty]
        exact switchTail_covered resolve same rfl rfl fun failed installed _ tracked => by
          rw [List.foldl_nil, installed]
      · rw [if_neg empty]
        rcases installInfra_cases fault release before text empty with
          ⟨restored, next, installed, files⟩ | ⟨failed, raised, left, covered⟩
        · rw [installed]
          refine switchTail_covered resolve same files.env files.current ?_
          intro failed kept backups tracked
          rw [files.report]
          unfold reportOf
          rw [restoreFiles_installed before.installed _ failed (fun other member there => by
            rw [backups]
            exact (files.copied other member).2 there)]
          split
          · rfl
          · rename_i outside
            rw [kept, (files.others tracked outside).1]
        · rw [raised]
          obtain ⟨after, rolled, covers⟩ := rollBack_covers resolve [] same left
          refine Or.inr (Or.inr ⟨after, rolled, covers.trans ?_⟩)
          unfold Covered
          rw [← covered]
          exact Iff.rfl

/-! ## Faults of a sample deploy -/

section Sample

def sampleSha (digit : Char) : Text := List.replicate 40 digit

/-- Two privileged files are installed, one of them different from the release. -/
def sampleHost : Host where
  installed
    | .composeYaml => some "old services".toList
    | .dashboardUnit => some "old unit".toList
    | _ => some "client".toList
  backups _ := none
  env := revisionLine (sampleSha 'a') ++ ['\n']
  stagedEnv := none
  current := some "/opt/quant-factory-dashboard/releases/a"
  stagedCurrent := none

def sampleRelease : Release where
  revision := sampleSha 'b'
  files
    | .composeYaml => "new services".toList
    | .dashboardUnit => "new unit".toList
    | _ => "client".toList
  directory := "/opt/quant-factory-dashboard/releases/b"

def secondCopyFails : Fault := ⟨.copy .dashboardUnit, some "old unit".toList⟩

def sampleEnd (fault : Fault) : SwitchEnd := switch (some fault) id sampleRelease sampleHost

/-- The first file stays the release's after the rollback. -/
theorem second_copy_not_restored :
    ∃ after, sampleEnd secondCopyFails = .rolledBack after ∧ ¬ Restored sampleHost after := by
  refine ⟨_, rfl, fun restored => ?_⟩
  have changed := restored.infra .composeYaml
  revert changed
  decide

end Sample

end QuantFactory.Deployment
