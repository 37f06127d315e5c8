import QuantFactory.Campaign.Requests

/-!
# A deploy and the automatic tests

`deployment/release/qf_deploy.py` and the campaign of `agent_gateway/auto_campaign.py`.
A deploy pass looks for running tests once, clears or sets the drain marker,
builds and verifies the image, and then recreates the containers; the campaign
looks at the marker and the pause switch before each test.  Their steps
interleave with each other and with every other writer of the campaign events.
One pass runs at a time, under the lock of `main`.
-/

set_option autoImplicit false

namespace QuantFactory.Deployment

open QuantFactory.Library QuantFactory.Campaign

variable {env : CampaignEnvironment}

def runningAutoTests (log : CampaignLog) : Nat :=
  (latestCampaignEvents log).countP fun event => event.state = .running

def drainStaleSeconds : Int := 2 * 3600

/-- `drain_requested` of the marker's time of modification. -/
def drainRequested (marker : Option Int) (now : Int) : Bool :=
  match marker with
  | none => false
  | some modified => decide (now - modified ≤ drainStaleSeconds)

/-! ## One deploy pass -/

inductive Leave where
  | forced
  | storeUnreadable
  | noneRunning
  deriving DecidableEq

/-- The steps of `_switch`, then those of `rollback`. -/
inductive SwitchStage where
  | ensureVenv | ensureImage | verifyImage | readRevision
  | installInfra | writeEnv | composeUp | switchDashboard
  | restoreInfra | restoreEnv | restoreComposeUp | restoreDashboard
  deriving DecidableEq

structure Switch where
  leave : Leave
  drift : Bool
  /-- The `.env` names a revision to go back to. -/
  previous : Bool
  stage : SwitchStage
  deriving DecidableEq

/-- The stage after one that returned or raised; with `none` the pass is over. -/
def Switch.next (switch : Switch) : Bool → Option SwitchStage
  | true => match switch.stage with
      | .ensureVenv => some .ensureImage
      | .ensureImage => some .verifyImage
      | .verifyImage => some .readRevision
      | .readRevision => some (if switch.drift then .installInfra else .writeEnv)
      | .installInfra => some .writeEnv
      | .writeEnv => some .composeUp
      | .composeUp => some .switchDashboard
      | .switchDashboard => none
      | .restoreInfra => some (if switch.previous then .restoreEnv else .restoreDashboard)
      | .restoreEnv => some .restoreComposeUp
      | .restoreComposeUp => some .restoreDashboard
      | .restoreDashboard => none
  | false => match switch.stage with
      | .installInfra => some .restoreInfra
      | .writeEnv => some .restoreInfra
      | .composeUp => some .restoreInfra
      | .switchDashboard => some .restoreInfra
      | _ => none

def SwitchStage.recreates : SwitchStage → Bool
  | .composeUp => true
  | .restoreComposeUp => true
  | _ => false

inductive DeployPoint where
  | waiting
  | preparing
  | checking (drift previous : Bool)
  | deferring
  | clearing (leave : Leave) (drift previous : Bool)
  | switching (switch : Switch)
  deriving DecidableEq

inductive DeployMove where
  | begins
  | endsEarly
  | upToDate (removed : Bool)
  | reachesCheck (drift previous : Bool)
  | check (forced readable : Bool)
  | setMarker (written : Bool) (now : Int)
  | clearMarker (removed : Bool)
  | stage (returned : Bool)
  | dies
  deriving DecidableEq

/-- The drain check of `deploy`. -/
def afterCheck (log : CampaignLog) (drift previous forced readable : Bool) : DeployPoint :=
  if forced then .clearing .forced drift previous
  else if readable then
    if runningAutoTests log = 0 then .clearing .noneRunning drift previous else .deferring
  else .clearing .storeUnreadable drift previous

/-- `set_drain_marker` keeps the marker there is. -/
def setDrainMarker (marker : Option Int) (written : Bool) (now : Int) : Option Int :=
  match marker with
  | some modified => some modified
  | none => if written then some now else none

def clearDrainMarker (marker : Option Int) (removed : Bool) : Option Int :=
  if removed then none else marker

/-! ## The system -/

structure DeploySystem (env : CampaignEnvironment) where
  campaign : CampaignSystem env
  paused : Bool
  marker : Option Int
  deploy : DeployPoint

inductive SystemAction where
  | campaign (action : CampaignAction) (now : Int)
  | pause (paused : Bool)
  | deploy (move : DeployMove)
  deriving DecidableEq

/-- Before each test the pass looks at the drain marker and the pause switch. -/
def gatedAction (system : DeploySystem env) (action : CampaignAction) (now : Int) :
    CampaignAction :=
  match action, system.campaign.phase with
  | .proceed, .passing (_ :: _) =>
      if drainRequested system.marker now || system.paused then .passEnds else .proceed
  | action, _ => action

def switchStep (system : DeploySystem env) (switch : Switch) (returned : Bool) :
    DeploySystem env :=
  { system with
    campaign := if switch.stage.recreates then campaignStep system.campaign .exit
      else system.campaign
    deploy := match switch.next returned with
      | some stage => .switching { switch with stage }
      | none => .waiting }

def deployStep (system : DeploySystem env) (move : DeployMove) : DeploySystem env :=
  match move, system.deploy with
  | .begins, .waiting => { system with deploy := .preparing }
  | .endsEarly, .preparing => { system with deploy := .waiting }
  | .upToDate removed, .preparing =>
      { system with deploy := .waiting, marker := clearDrainMarker system.marker removed }
  | .reachesCheck drift previous, .preparing =>
      { system with deploy := .checking drift previous }
  | .check forced readable, .checking drift previous =>
      { system with deploy := afterCheck system.campaign.log drift previous forced readable }
  | .setMarker written now, .deferring =>
      { system with deploy := .waiting, marker := setDrainMarker system.marker written now }
  | .clearMarker removed, .clearing leave drift previous =>
      { system with
        deploy := .switching ⟨leave, drift, previous, .ensureVenv⟩
        marker := clearDrainMarker system.marker removed }
  | .stage returned, .switching switch => switchStep system switch returned
  | .dies, _ => { system with deploy := .waiting }
  | _, _ => system

def systemStep (system : DeploySystem env) : SystemAction → DeploySystem env
  | .campaign action now =>
      { system with campaign := campaignStep system.campaign (gatedAction system action now) }
  | .pause paused => { system with paused }
  | .deploy move => deployStep system move

/-! ## Tests and recreated containers -/

/-- The step recreates the containers; the pass went past its check for this reason. -/
def recreates (system : DeploySystem env) : SystemAction → Option Leave
  | .deploy (.stage _) => match system.deploy with
      | .switching switch => if switch.stage.recreates then some switch.leave else none
      | _ => none
  | _ => none

def startsTest (system : DeploySystem env) : SystemAction → Bool
  | .campaign action now =>
      (appendedEvent system.campaign (gatedAction system action now)).any
        fun event => event.state = .running
  | _ => false

def behindCheck : DeployPoint → Bool
  | .clearing .noneRunning _ _ => true
  | .switching switch => switch.leave = .noneRunning
  | _ => false

/-- No recreation of the containers, unless forced or blind, meets a running test. -/
def InterruptsNothing (start : DeploySystem env) (actions : List SystemAction) : Prop :=
  ∀ before action after, actions = before ++ action :: after →
    recreates (run systemStep start before) action = some .noneRunning →
      runningAutoTests (run systemStep start before).campaign.log = 0

/-- No test starts between the drain check of a pass and its end. -/
def NoStartBehindCheck (system : DeploySystem env) (action : SystemAction) : Prop :=
  behindCheck system.deploy = true → startsTest system action = false

instance (system : DeploySystem env) (action : SystemAction) :
    Decidable (NoStartBehindCheck system action) := by
  unfold NoStartBehindCheck
  infer_instance

/-! ## One step -/

theorem runningAutoTests_eq_zero {log : CampaignLog} :
    runningAutoTests log = 0 ↔ ∀ event ∈ latestCampaignEvents log, event.state ≠ .running := by
  simp [runningAutoTests, List.countP_eq_zero]

theorem runningAutoTests_append {log : CampaignLog} {event : CampaignEvent}
    (none : runningAutoTests log = 0) (other : event.state ≠ .running) :
    runningAutoTests (log ++ [event]) = 0 := by
  rw [runningAutoTests_eq_zero] at none ⊢
  intro latest member
  rcases mem_lastOfEach_snoc _ member with before | rfl
  · exact none latest before
  · exact other

theorem campaignStep_none_running {system : DeploySystem env} {action : CampaignAction}
    {now : Int} (none : runningAutoTests system.campaign.log = 0)
    (starts : startsTest system (.campaign action now) = false) :
    runningAutoTests (systemStep system (.campaign action now)).campaign.log = 0 := by
  simp only [systemStep, campaignStep_log]
  simp only [startsTest] at starts
  cases appended : appendedEvent system.campaign (gatedAction system action now) with
  | none => simpa using none
  | some event =>
      rw [appended] at starts
      exact runningAutoTests_append none (by simpa using starts)

theorem deployStep_log (system : DeploySystem env) (move : DeployMove) :
    (deployStep system move).campaign.log = system.campaign.log := by
  unfold deployStep
  split <;> try rfl
  simp only [switchStep]
  split <;> rfl

/-- The stages of a switch keep the reason it was let past the check. -/
theorem switchStep_behind (system : DeploySystem env) (switch : Switch) (returned : Bool)
    (behind : behindCheck (switchStep system switch returned).deploy = true) :
    switch.leave = .noneRunning := by
  simp only [switchStep] at behind
  split at behind
  · simpa [behindCheck] using behind
  · cases behind

/-- A pass comes behind its check only where the check has found nothing running. -/
theorem deployStep_behind (system : DeploySystem env) (move : DeployMove)
    (behind : behindCheck (deployStep system move).deploy = true) :
    behindCheck system.deploy = true ∨ runningAutoTests system.campaign.log = 0 := by
  unfold deployStep at behind
  split at behind
  · cases behind
  · cases behind
  · cases behind
  · cases behind
  · right
    simp only [afterCheck] at behind
    split at behind
    · cases behind
    · split at behind
      · split at behind
        · assumption
        · cases behind
      · cases behind
  · cases behind
  · rename_i leave drift previous point
    left
    rw [point]
    have reason : leave = .noneRunning := by simpa [behindCheck] using behind
    rw [reason]
    rfl
  · rename_i switch point
    left
    rw [point]
    simpa [behindCheck] using switchStep_behind system switch _ behind
  · cases behind
  · exact Or.inl behind

def QuietBehindCheck (system : DeploySystem env) : Prop :=
  behindCheck system.deploy = true → runningAutoTests system.campaign.log = 0

theorem systemStep_quiet (system : DeploySystem env) (action : SystemAction)
    (allowed : NoStartBehindCheck system action) (quiet : QuietBehindCheck system) :
    QuietBehindCheck (systemStep system action) := by
  intro behind
  cases action with
  | campaign action now =>
      have before : behindCheck system.deploy = true := behind
      exact campaignStep_none_running (quiet before) (allowed before)
  | pause paused => exact quiet behind
  | deploy move =>
      rw [show systemStep system (.deploy move) = deployStep system move from rfl,
        deployStep_log]
      rcases deployStep_behind system move behind with before | none
      · exact quiet before
      · exact none

theorem recreates_behind {system : DeploySystem env} {action : SystemAction}
    (recreated : recreates system action = some .noneRunning) :
    behindCheck system.deploy = true := by
  unfold recreates at recreated
  split at recreated
  · split at recreated
    · rename_i switch point
      rw [point]
      split at recreated
      · simpa [behindCheck] using recreated
      · cases recreated
    · cases recreated
  · cases recreated

/-! ## Every run -/

/-- In every interleaving in which no test starts behind a drain check, the containers are
recreated with no test running, unless the pass is forced or could not read the store. -/
theorem deploy_interrupts_nothing (start : DeploySystem env) (idle : start.deploy = .waiting)
    (actions : List SystemAction)
    (undisturbed : Along systemStep NoStartBehindCheck start actions) :
    InterruptsNothing start actions := by
  intro before action after split recreated
  rw [split] at undisturbed
  have along := ((along_append systemStep before (action :: after) start).mp undisturbed).1
  have initial : QuietBehindCheck start := by
    intro behind
    rw [idle] at behind
    cases behind
  have quiet := run_invariant_along systemStep systemStep_quiet before start along initial
  exact quiet (recreates_behind recreated)

/-! ## Two deploys of a sample campaign -/

def sampleSystem : DeploySystem sampleEnvironment where
  campaign := startSystem sampleEnvironment sampleStore
  paused := false
  marker := none
  deploy := .waiting

def passToSwitch : List SystemAction :=
  [.deploy .begins, .deploy (.reachesCheck false true), .deploy (.check false true),
    .deploy (.clearMarker true)] ++ List.replicate 6 (.deploy (.stage true))

def deployAfterTest : List SystemAction :=
  ideaTested.map (fun action => .campaign action 0) ++ passToSwitch

theorem deployAfterTest_interrupts_nothing : InterruptsNothing sampleSystem deployAfterTest := by
  apply deploy_interrupts_nothing sampleSystem rfl deployAfterTest
  decide +kernel

/-- The pass finds nothing running and clears the marker; the campaign starts a test while the
image is built. -/
def testStartedInBuild : List SystemAction :=
  [.deploy .begins, .deploy (.reachesCheck false true), .deploy (.check false true),
    .deploy (.clearMarker true), .deploy (.stage true), .campaign .start 0] ++
    List.replicate 15 (.campaign .proceed 0) ++ List.replicate 5 (.deploy (.stage true))

theorem build_interrupts_test : ¬ InterruptsNothing sampleSystem testStartedInBuild := by
  intro holds
  have quiet := holds (testStartedInBuild.take 25) (.deploy (.stage true)) [] (by decide +kernel)
  revert quiet
  decide +kernel

end QuantFactory.Deployment
