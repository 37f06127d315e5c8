import QuantFactory.Deployment.EnvFile
import Mathlib.Logic.Function.Basic

/-!
# The switch to a new release, and its rollback

`_switch` and `rollback` of `deployment/release/qf_deploy.py`, on the files they
change: the privileged files, the compose `.env` and the `current` link.  Every
operation that can raise has a name; a fault names the operation that raises and
says what a torn write leaves behind.
-/

set_option autoImplicit false

namespace QuantFactory.Deployment

/-- `INFRA`, in its order. -/
inductive Tracked where
  | composeYaml | dashboardUnit | gatewayContracts | gatewayCli | gatewaySshCommand
  deriving DecidableEq

def infra : List Tracked :=
  [.composeYaml, .dashboardUnit, .gatewayContracts, .gatewayCli, .gatewaySshCommand]

structure Host where
  installed : Tracked → Option Text
  backups : Tracked → Option Text
  env : Text
  stagedEnv : Option Text
  /-- What the `current` link holds; `none` when it is no link. -/
  current : Option String
  stagedCurrent : Option String

/-- The operations of `_switch` that can raise once it starts to change files. -/
inductive SwitchOp where
  | backup (tracked : Tracked)
  | copy (tracked : Tracked)
  | chmod (tracked : Tracked)
  | daemonReload
  | readEnv | stageEnv | chmodEnv | replaceEnv | composeUp
  | unstageCurrent | stageCurrent | replaceCurrent | restart | health
  deriving DecidableEq

structure Fault where
  op : SwitchOp
  left : Option Text

/-- A step that returns with the files as it leaves them, or raises. -/
abbrev Step (α : Type) : Type := Host → Except Host (α × Host)

section Steps
variable (fault : Option Fault)

def attempt (op : SwitchOp) (effect : Host → Host) (torn : Option Text → Host → Host) :
    Step Unit := fun host =>
  match fault with
  | some f => if f.op = op then .error (torn f.left host) else .ok ((), effect host)
  | none => .ok ((), effect host)

def attemptWhole (op : SwitchOp) (effect : Host → Host) : Step Unit :=
  attempt fault op effect fun _ host => host

def Host.install (host : Host) (tracked : Tracked) (content : Option Text) : Host :=
  { host with installed := Function.update host.installed tracked content }

def Host.backUp (host : Host) (tracked : Tracked) (content : Option Text) : Host :=
  { host with backups := Function.update host.backups tracked content }

def andThen {α β : Type} (first : Step α) (second : α → Step β) : Step β := fun host =>
  match first host with
  | .error failed => .error failed
  | .ok (value, next) => second value next

/-- A privileged file as `install_infra` reports it: whether it has a backup. -/
structure Restorable where
  target : Tracked
  backup : Bool
  deriving DecidableEq

/-! ## `install_infra` -/

/-- The copy a file is kept in, when there is one to keep. -/
def backUpFile (tracked : Tracked) : Step Bool := fun host =>
  if (host.installed tracked).isSome then
    andThen (attempt fault (.backup tracked)
        (fun host => host.backUp tracked (host.installed tracked))
        fun left host => host.backUp tracked left)
      (fun _ host => .ok (true, host)) host
  else .ok (false, host)

def copyFile (release : Tracked → Text) (tracked : Tracked) : Step Unit :=
  andThen (attempt fault (.copy tracked) (·.install tracked (some (release tracked)))
    fun left host => host.install tracked left) fun _ =>
  attemptWhole fault (.chmod tracked) id

def installFile (release : Tracked → Text) (tracked : Tracked) : Step Restorable :=
  andThen (backUpFile fault tracked) fun backup =>
  andThen (copyFile fault release tracked) fun _ host => .ok (⟨tracked, backup⟩, host)

def installFiles (release : Tracked → Text) : List Tracked → Step (List Restorable)
  | [] => fun host => .ok ([], host)
  | tracked :: rest =>
      andThen (installFile fault release tracked) fun restored =>
      andThen (installFiles release rest) fun others host => .ok (restored :: others, host)

def installInfra (release : Tracked → Text) (drift : List Tracked) : Step (List Restorable) :=
  andThen (installFiles fault release drift) fun restored =>
  andThen (attemptWhole fault .daemonReload id) fun _ host => .ok (restored, host)

/-! ## `switch_containers` and `switch_dashboard` -/

/-- The new `.env` is staged, replaces the old one, and the containers are started on it. -/
def startContainers (text : Text) : Step Unit :=
  andThen (attempt fault .stageEnv (fun host => { host with stagedEnv := some text })
    fun left host => { host with stagedEnv := left }) fun _ =>
  andThen (attemptWhole fault .chmodEnv id) fun _ =>
  andThen (attemptWhole fault .replaceEnv fun host =>
    { host with env := text, stagedEnv := none }) fun _ =>
  attemptWhole fault .composeUp id

def switchContainers (revision : Text) : Step Unit :=
  andThen (attemptWhole fault .readEnv id) fun _ host =>
    match setEnvRevision host.env revision with
    | .error _ => .error host
    | .ok text => startContainers fault text host

def switchDashboard (release : String) : Step Unit :=
  andThen (attemptWhole fault .unstageCurrent fun host => { host with stagedCurrent := none })
    fun _ =>
  andThen (attemptWhole fault .stageCurrent fun host =>
    { host with stagedCurrent := some release }) fun _ =>
  andThen (attemptWhole fault .replaceCurrent fun host =>
    { host with current := some release, stagedCurrent := none }) fun _ =>
  andThen (attemptWhole fault .restart id) fun _ =>
  attemptWhole fault .health id

end Steps

/-! ## `rollback` -/

def restoreFile (host : Host) (restored : Restorable) : Host :=
  if restored.backup then host.install restored.target (host.backups restored.target)
  else host.install restored.target none

/-- `rollback`, whose own commands do not raise. -/
def rollback (revision : Option Text) (release : Option String) (restored : List Restorable) :
    Step Unit := fun host =>
  andThen
    (match revision with
      | some revision => switchContainers none revision
      | none => fun host => .ok ((), host))
    (fun _ => match release with
      | some release => switchDashboard none release
      | none => fun host => .ok ((), host))
    (restored.foldl restoreFile host)

/-! ## `_switch` -/

inductive SwitchEnd where
  | refused
  | live (host : Host)
  | rolledBack (host : Host)
  | rollbackRaised (host : Host)

def rollBack (before failed : Host) (resolve : String → String) (restored : List Restorable) :
    SwitchEnd :=
  match rollback (envRevision before.env) (before.current.map resolve) restored failed with
  | .ok (_, after) => .rolledBack after
  | .error after => .rollbackRaised after

/-- `infra_drift`: the privileged files whose installed copy differs from the release. -/
def infraDrift (release : Tracked → Text) (installed : Tracked → Option Text) : List Tracked :=
  infra.filter fun tracked => installed tracked ≠ some (release tracked)

structure Release where
  revision : Text
  files : Tracked → Text
  directory : String

def switch (fault : Option Fault) (resolve : String → String) (release : Release)
    (before : Host) : SwitchEnd :=
  match setEnvRevision before.env release.revision with
  | .error _ => .refused
  | .ok _ =>
      let drift := infraDrift release.files before.installed
      let installed : Except Host (List Restorable × Host) :=
        if drift = [] then .ok ([], before) else installInfra fault release.files drift before
      match installed with
      | .error failed => rollBack before failed resolve []
      | .ok (restored, host) =>
          match andThen (switchContainers fault release.revision)
              (fun _ => switchDashboard fault release.directory) host with
          | .error failed => rollBack before failed resolve restored
          | .ok (_, host) => .live host

/-- The privileged files, the revision line and the link are as they were. -/
structure Restored (before after : Host) : Prop where
  infra : ∀ tracked, after.installed tracked = before.installed tracked
  line : envLine after.env = envLine before.env
  current : after.current = before.current

/-! ## When the rollback covers a fault -/

/-- The fault leaves no privileged file changed that `rollback` is not told of: it comes after
`install_infra` has returned, or before the first file is changed. -/
def InfraCovered (release : Release) (before : Host) (fault : Fault) : Prop :=
  match fault.op with
  | .backup tracked => (infraDrift release.files before.installed).head? = some tracked
  | .copy tracked => (infraDrift release.files before.installed).head? = some tracked ∧
      fault.left = before.installed tracked
  | .chmod _ => False
  | .daemonReload => False
  | _ => True

/-- The operations behind the replacement of `.env`. -/
def SwitchOp.envReplaced : SwitchOp → Bool
  | .composeUp | .unstageCurrent | .stageCurrent | .replaceCurrent | .restart | .health => true
  | _ => false

/-- The operations behind the replacement of `current`. -/
def SwitchOp.currentReplaced : SwitchOp → Bool
  | .restart | .health => true
  | _ => false

/-- The line is exactly that of a full revision, or it names none and is not replaced yet. -/
def EnvCovered (before : Host) (fault : Fault) : Prop :=
  match envRevision before.env with
  | some revision => envLine before.env = some (revisionLine revision)
  | none => fault.op.envReplaced = false

/-- The link holds its own resolved path, or there is none and it is not put in place yet. -/
def CurrentCovered (resolve : String → String) (before : Host) (fault : Fault) : Prop :=
  match before.current with
  | some link => resolve link = link
  | none => fault.op.currentReplaced = false

end QuantFactory.Deployment
