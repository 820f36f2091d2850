import MultirotorController.Uav.DroneController

/-!
# The takeoff sequence

TakeoffInit computes the takeoff setpoint and waits for ALTCTL, the two request
leaves wait for OFFBOARD and for the armed state, and TakeoffAscending waits for
the altitude to settle. Only TakeoffInit writes the shared setpoint; the others
repeat it.
-/

namespace MultirotorController

open DroneController

structure TakeoffInitState where
  initialAltitude : Double := 0
  targetAltitude : Double := 0
  skipAltctlGate : Bool := false
  altctlReadyEventPosted : Bool := false
  altctlFrameCount : Nat := 0
  altctlRequestTimer : ControllerTimer := {}
  setpointPublishTimer : ControllerTimer := {}
deriving DecidableEq, Repr

namespace TakeoffInitState

def requiredAltctlFrames : Nat := 2
def takeoffPositionTypeMask : UInt16 := 0b111111111000
def altctlRequestInterval : Double := 3.0

variable (scope : Scope TakeoffInitState)

/-- The takeoff target; `coordinateFrame` keeps whatever the shared setpoint holds. -/
def configureTakeoffSetpoint : Scope TakeoffInitState :=
  let controller := scope.controller
  let initialAltitude := controller.worldZ
  let targetAltitude := Double.max controller.config.takeoffAltitude initialAltitude
  let setpoint : Setpoint := {
    controller.setpoint with
    x := controller.worldX
    y := controller.worldY
    z := targetAltitude
    vx := 0
    vy := 0
    vz := 0
    ax := 0
    ay := 0
    az := 0
    qx := 0
    qy := 0
    qz := 0
    qw := 1
    yawRate := 0
    typeMask := takeoffPositionTypeMask }
  { controller := { controller with setpoint }
    leaf := { scope.leaf with initialAltitude, targetAltitude } }

def requestDisarmIfRequired : Scope TakeoffInitState :=
  let controller := scope.controller
  if scope.leaf.skipAltctlGate then scope
  else
    { scope with
      controller := controller.emitFlightEffect (.armRequest controller.currentTime false) }

def onEnter : Scope TakeoffInitState :=
  let clock := scope.controller.currentTime
  let skip := scope.controller.config.skipTakeoffInitDisarm
  let scope := { scope with
    leaf.skipAltctlGate := skip
    leaf.altctlFrameCount := if skip then requiredAltctlFrames else 0
    leaf.altctlReadyEventPosted := false }
  let scope := configureTakeoffSetpoint scope
  let scope := { scope with
    controller := scope.controller.emitFlightEffect (.setpoint clock)
    leaf.setpointPublishTimer := scope.leaf.setpointPublishTimer.start clock }
  let scope := requestDisarmIfRequired scope
  if skip then scope
  else { scope with leaf.altctlRequestTimer := scope.leaf.altctlRequestTimer.start clock }

def publishSetpointIfDue : Scope TakeoffInitState :=
  let (controller, timer) :=
    scope.controller.publishSetpointIfDue scope.leaf.setpointPublishTimer
  { controller, leaf := { scope.leaf with setpointPublishTimer := timer } }

def requestAltctlModeIfDue : Scope TakeoffInitState :=
  let (controller, timer) := scope.controller.requestIfDue scope.leaf.altctlRequestTimer
    altctlRequestInterval (.modeRequest scope.controller.currentTime "ALTCTL")
  { controller, leaf := { scope.leaf with altctlRequestTimer := timer } }

def updateAltctlConfirmation : Scope TakeoffInitState :=
  let sensor := scope.controller.sensorData
  if !sensor.stateStats.isNew then scope
  else if sensor.fcuMode = "ALTCTL" then
    { scope with
      leaf.altctlFrameCount := min (scope.leaf.altctlFrameCount + 1) requiredAltctlFrames }
  else { scope with leaf.altctlFrameCount := 0 }

def postAltctlReadyOnce : Scope TakeoffInitState :=
  if scope.leaf.altctlReadyEventPosted ∨ scope.leaf.altctlFrameCount < requiredAltctlFrames then
    scope
  else
    { controller := scope.controller.emitFlightSignal .altctlReady
      leaf := { scope.leaf with altctlReadyEventPosted := true } }

def onTick : Scope TakeoffInitState :=
  let scope := publishSetpointIfDue scope
  let scope :=
    if scope.leaf.skipAltctlGate then scope
    else updateAltctlConfirmation (requestAltctlModeIfDue scope)
  postAltctlReadyOnce scope

def onExit : Scope TakeoffInitState :=
  { scope with
    leaf.altctlRequestTimer := scope.leaf.altctlRequestTimer.stop
    leaf.setpointPublishTimer := scope.leaf.setpointPublishTimer.stop }

def nextWake : Option Deadline :=
  let due := scope.leaf.setpointPublishTimer.dueAt kLocalSetpointPublishInterval
  if scope.leaf.skipAltctlGate then due
  else Deadline.earlier due (scope.leaf.altctlRequestTimer.dueAt altctlRequestInterval)

/-- The disarm on entry has no guard of its own; the transition out of Ready has one. -/
theorem onEnter_plain :
    PlainStep (fun effect => effect.isSetpoint ∨ effect.isDisarm) (fun _ => False)
      scope.controller (onEnter scope).controller := by
  dsimp only [onEnter, requestDisarmIfRequired, configureTakeoffSetpoint]
  split
  · exact .publish _ _ (.inl rfl) (.inl rfl)
  · refine .trans (.publish _ _ (.inl rfl) ?_) (.emitFlightEffect _ (.inr rfl))
    exact .inl rfl

theorem postAltctlReadyOnce_plain :
    PlainStep (fun _ => False) (· = .altctlReady) scope.controller
      (postAltctlReadyOnce scope).controller := by
  dsimp only [postAltctlReadyOnce]
  split
  · exact .refl _
  · exact .emitFlightSignal _ rfl

@[simp] theorem updateAltctlConfirmation_controller :
    (updateAltctlConfirmation scope).controller = scope.controller := by
  dsimp only [updateAltctlConfirmation]
  repeat' split
  all_goals rfl

theorem onTick_plain :
    PlainStep (fun effect => effect.isSetpoint ∨ effect.isModeRequest) (· = .altctlReady)
      scope.controller (onTick scope).controller := by
  dsimp only [onTick]
  refine .via (publishSetpointIfDue scope).controller
    (.publishSetpointIfDue _ _ fun _ published => .inl published) ?_
  refine .trans ?_
    ((postAltctlReadyOnce_plain _).mono (fun _ none => none.elim) fun _ posted => posted)
  split
  · exact .refl _
  · rw [updateAltctlConfirmation_controller]
    exact .requestIfDue _ _ _ (.inr rfl)

end TakeoffInitState

structure TakeoffOffboardRequestState where
  modeRequestTimer : ControllerTimer := {}
  setpointPublishTimer : ControllerTimer := {}
  confirmedOffboardFrames : Nat := 0
  offboardReadyEventPosted : Bool := false
deriving DecidableEq, Repr

namespace TakeoffOffboardRequestState

def requiredOffboardFrames : Nat := 1
def offboardRequestInterval : Double := 3.0

variable (scope : Scope TakeoffOffboardRequestState)

def onEnter : Scope TakeoffOffboardRequestState :=
  let clock := scope.controller.currentTime
  { controller := scope.controller.emitFlightEffect (.setpoint clock)
    leaf := {
      confirmedOffboardFrames := 0
      offboardReadyEventPosted := false
      setpointPublishTimer := scope.leaf.setpointPublishTimer.start clock
      modeRequestTimer := scope.leaf.modeRequestTimer.start clock } }

def publishSetpointIfDue : Scope TakeoffOffboardRequestState :=
  let (controller, timer) :=
    scope.controller.publishSetpointIfDue scope.leaf.setpointPublishTimer
  { controller, leaf := { scope.leaf with setpointPublishTimer := timer } }

def requestOffboardModeIfDue : Scope TakeoffOffboardRequestState :=
  let (controller, timer) := scope.controller.requestIfDue scope.leaf.modeRequestTimer
    offboardRequestInterval (.modeRequest scope.controller.currentTime "OFFBOARD")
  { controller, leaf := { scope.leaf with modeRequestTimer := timer } }

def updateOffboardConfirmation : Scope TakeoffOffboardRequestState :=
  let sensor := scope.controller.sensorData
  if !sensor.stateStats.isNew then scope
  else if sensor.fcuMode = "OFFBOARD" then
    { scope with
      leaf.confirmedOffboardFrames :=
        countFrame requiredOffboardFrames scope.leaf.confirmedOffboardFrames }
  else { scope with leaf.confirmedOffboardFrames := 0 }

def postOffboardReadyOnce : Scope TakeoffOffboardRequestState :=
  if scope.leaf.offboardReadyEventPosted ∨
      scope.leaf.confirmedOffboardFrames < requiredOffboardFrames then
    scope
  else
    { controller := scope.controller.emitFlightSignal .offboardReady
      leaf := { scope.leaf with offboardReadyEventPosted := true } }

def onTick : Scope TakeoffOffboardRequestState :=
  postOffboardReadyOnce (updateOffboardConfirmation
    (requestOffboardModeIfDue (publishSetpointIfDue scope)))

def onExit : Scope TakeoffOffboardRequestState :=
  { scope with
    leaf.modeRequestTimer := scope.leaf.modeRequestTimer.stop
    leaf.setpointPublishTimer := scope.leaf.setpointPublishTimer.stop }

def nextWake : Option Deadline :=
  Deadline.earlier (scope.leaf.setpointPublishTimer.dueAt kLocalSetpointPublishInterval)
    (scope.leaf.modeRequestTimer.dueAt offboardRequestInterval)

theorem onEnter_plain :
    PlainStep (·.isSetpoint) (fun _ => False) scope.controller (onEnter scope).controller :=
  .emitFlightEffect _ rfl

theorem postOffboardReadyOnce_plain :
    PlainStep (fun _ => False) (· = .offboardReady) scope.controller
      (postOffboardReadyOnce scope).controller := by
  dsimp only [postOffboardReadyOnce]
  split
  · exact .refl _
  · exact .emitFlightSignal _ rfl

@[simp] theorem updateOffboardConfirmation_controller :
    (updateOffboardConfirmation scope).controller = scope.controller := by
  dsimp only [updateOffboardConfirmation]
  repeat' split
  all_goals rfl

theorem onTick_plain :
    PlainStep (fun effect => effect.isSetpoint ∨ effect.isModeRequest) (· = .offboardReady)
      scope.controller (onTick scope).controller := by
  dsimp only [onTick]
  refine .via (publishSetpointIfDue scope).controller
    (.publishSetpointIfDue _ _ fun _ published => .inl published) ?_
  refine .trans ?_ ((postOffboardReadyOnce_plain _).mono (fun _ none => none.elim)
    fun _ posted => posted)
  rw [updateOffboardConfirmation_controller]
  exact .requestIfDue _ _ _ (.inr rfl)

end TakeoffOffboardRequestState

structure TakeoffArmRequestState where
  armRequestTimer : ControllerTimer := {}
  setpointPublishTimer : ControllerTimer := {}
  confirmedArmFrames : Nat := 0
  armReadyEventPosted : Bool := false
deriving DecidableEq, Repr

namespace TakeoffArmRequestState

def requiredArmFrames : Nat := 1
def armRequestInterval : Double := 3.0

variable (scope : Scope TakeoffArmRequestState)

def onEnter : Scope TakeoffArmRequestState :=
  let clock := scope.controller.currentTime
  { controller := scope.controller.emitFlightEffect (.setpoint clock)
    leaf := {
      confirmedArmFrames := 0
      armReadyEventPosted := false
      setpointPublishTimer := scope.leaf.setpointPublishTimer.start clock
      armRequestTimer := scope.leaf.armRequestTimer.start clock } }

def publishSetpointIfDue : Scope TakeoffArmRequestState :=
  let (controller, timer) :=
    scope.controller.publishSetpointIfDue scope.leaf.setpointPublishTimer
  { controller, leaf := { scope.leaf with setpointPublishTimer := timer } }

def requestArmIfDue : Scope TakeoffArmRequestState :=
  let (controller, timer) := scope.controller.requestIfDue scope.leaf.armRequestTimer
    armRequestInterval (.armRequest scope.controller.currentTime true)
  { controller, leaf := { scope.leaf with armRequestTimer := timer } }

def updateArmConfirmation : Scope TakeoffArmRequestState :=
  let sensor := scope.controller.sensorData
  if !sensor.stateStats.isNew then scope
  else if sensor.fcuArmed then
    { scope with
      leaf.confirmedArmFrames := countFrame requiredArmFrames scope.leaf.confirmedArmFrames }
  else { scope with leaf.confirmedArmFrames := 0 }

def postArmReadyOnce : Scope TakeoffArmRequestState :=
  if scope.leaf.armReadyEventPosted ∨ scope.leaf.confirmedArmFrames < requiredArmFrames then scope
  else
    { controller := scope.controller.emitFlightSignal .armReady
      leaf := { scope.leaf with armReadyEventPosted := true } }

def onTick : Scope TakeoffArmRequestState :=
  postArmReadyOnce (updateArmConfirmation (requestArmIfDue (publishSetpointIfDue scope)))

def onExit : Scope TakeoffArmRequestState :=
  { scope with
    leaf.armRequestTimer := scope.leaf.armRequestTimer.stop
    leaf.setpointPublishTimer := scope.leaf.setpointPublishTimer.stop }

def nextWake : Option Deadline :=
  Deadline.earlier (scope.leaf.setpointPublishTimer.dueAt kLocalSetpointPublishInterval)
    (scope.leaf.armRequestTimer.dueAt armRequestInterval)

theorem onEnter_plain :
    PlainStep (·.isSetpoint) (fun _ => False) scope.controller (onEnter scope).controller :=
  .emitFlightEffect _ rfl

theorem postArmReadyOnce_plain :
    PlainStep (fun _ => False) (· = .armReady) scope.controller
      (postArmReadyOnce scope).controller := by
  dsimp only [postArmReadyOnce]
  split
  · exact .refl _
  · exact .emitFlightSignal _ rfl

@[simp] theorem updateArmConfirmation_controller :
    (updateArmConfirmation scope).controller = scope.controller := by
  dsimp only [updateArmConfirmation]
  repeat' split
  all_goals rfl

theorem onTick_plain :
    PlainStep (fun effect => effect.isSetpoint ∨ effect.isArm) (· = .armReady)
      scope.controller (onTick scope).controller := by
  dsimp only [onTick]
  refine .via (publishSetpointIfDue scope).controller
    (.publishSetpointIfDue _ _ fun _ published => .inl published) ?_
  refine .trans ?_ ((postArmReadyOnce_plain _).mono (fun _ none => none.elim)
    fun _ posted => posted)
  rw [updateArmConfirmation_controller]
  exact .requestIfDue _ _ _ (.inr rfl)

end TakeoffArmRequestState

structure TakeoffAscendingState where
  statusLogTimer : ControllerTimer := {}
  setpointPublishTimer : ControllerTimer := {}
  altitudeReachedEventPosted : Bool := false
  timeoutEventPosted : Bool := false
  confirmedSettledFrames : Nat := 0
deriving DecidableEq, Repr

namespace TakeoffAscendingState

def altitudeThreshold : Double := 0.1
def velocityThreshold : Double := 0.05
def ascendingTimeout : Double := 30.0
def consecutiveSettledFrames : Nat := 5

variable (scope : Scope TakeoffAscendingState)

def onEnter : Scope TakeoffAscendingState :=
  let clock := scope.controller.currentTime
  { controller := scope.controller.emitFlightEffect (.setpoint clock)
    leaf := {
      altitudeReachedEventPosted := false
      timeoutEventPosted := false
      confirmedSettledFrames := 0
      setpointPublishTimer := scope.leaf.setpointPublishTimer.start clock
      statusLogTimer := scope.leaf.statusLogTimer.start clock } }

def publishSetpointIfDue : Scope TakeoffAscendingState :=
  let (controller, timer) :=
    scope.controller.publishSetpointIfDue scope.leaf.setpointPublishTimer
  { controller, leaf := { scope.leaf with setpointPublishTimer := timer } }

def logStatusIfDue : Scope TakeoffAscendingState :=
  let clock := scope.controller.currentTime
  if scope.leaf.statusLogTimer.elapsed clock < 1 then scope
  else { scope with leaf.statusLogTimer := scope.leaf.statusLogTimer.reset clock }

/-- True once the timeout has been posted, in this tick or before. -/
def postTimeoutIfNeeded : Scope TakeoffAscendingState × Bool :=
  if scope.leaf.timeoutEventPosted then (scope, true)
  else if scope.controller.flightElapsed ≤ ascendingTimeout then (scope, false)
  else
    ({ controller := scope.controller.emitFlightSignal .takeoffTimeout
       leaf := { scope.leaf with timeoutEventPosted := true } }, true)

/-- The altitude test is two-sided: an overshoot apex does not count. -/
def altitudeSettled (controller : DroneController) : Bool :=
  decide ((controller.worldZ - controller.setpoint.z).abs ≤ altitudeThreshold) &&
    decide (controller.worldVz.abs < velocityThreshold)

def updateAltitudeConfirmation : Scope TakeoffAscendingState :=
  if scope.leaf.altitudeReachedEventPosted ∨ scope.leaf.timeoutEventPosted then scope
  else if !scope.controller.isWorldPoseNew then scope
  else if !altitudeSettled scope.controller then { scope with leaf.confirmedSettledFrames := 0 }
  else
    { scope with
      leaf.confirmedSettledFrames :=
        countFrame consecutiveSettledFrames scope.leaf.confirmedSettledFrames }

def postAltitudeReachedOnce : Scope TakeoffAscendingState :=
  if scope.leaf.altitudeReachedEventPosted ∨
      scope.leaf.confirmedSettledFrames < consecutiveSettledFrames then
    scope
  else
    { controller := scope.controller.emitFlightSignal .altitudeReached
      leaf := { scope.leaf with altitudeReachedEventPosted := true } }

def onTick : Scope TakeoffAscendingState :=
  let scope := logStatusIfDue (publishSetpointIfDue scope)
  let (scope, timedOut) := postTimeoutIfNeeded scope
  if timedOut then scope else postAltitudeReachedOnce (updateAltitudeConfirmation scope)

def onEvent (command : FlightCommand) : Scope TakeoffAscendingState :=
  if command = .track then { scope with controller := scope.controller.requestCustom1Tracking }
  else scope

def onExit : Scope TakeoffAscendingState :=
  { scope with
    leaf.statusLogTimer := scope.leaf.statusLogTimer.stop
    leaf.setpointPublishTimer := scope.leaf.setpointPublishTimer.stop }

def nextWake : Option Deadline :=
  Deadline.earlier (scope.leaf.setpointPublishTimer.dueAt kLocalSetpointPublishInterval)
    (scope.leaf.statusLogTimer.dueAt 1)

def timeoutAfterEntry : Option Double :=
  if scope.leaf.timeoutEventPosted then none else some ascendingTimeout

theorem onEnter_plain :
    PlainStep (·.isSetpoint) (fun _ => False) scope.controller (onEnter scope).controller :=
  .emitFlightEffect _ rfl

@[simp] theorem logStatusIfDue_controller :
    (logStatusIfDue scope).controller = scope.controller := by
  dsimp only [logStatusIfDue]
  split <;> rfl

@[simp] theorem updateAltitudeConfirmation_controller :
    (updateAltitudeConfirmation scope).controller = scope.controller := by
  dsimp only [updateAltitudeConfirmation]
  repeat' split
  all_goals rfl

theorem postTimeoutIfNeeded_plain :
    PlainStep (fun _ => False) (· = .takeoffTimeout) scope.controller
      (postTimeoutIfNeeded scope).1.controller := by
  dsimp only [postTimeoutIfNeeded]
  repeat' split
  · exact .refl _
  · exact .refl _
  · exact .emitFlightSignal _ rfl

theorem postAltitudeReachedOnce_plain :
    PlainStep (fun _ => False) (· = .altitudeReached) scope.controller
      (postAltitudeReachedOnce scope).controller := by
  dsimp only [postAltitudeReachedOnce]
  split
  · exact .refl _
  · exact .emitFlightSignal _ rfl

theorem onTick_plain :
    PlainStep (·.isSetpoint) (fun signal => signal = .takeoffTimeout ∨ signal = .altitudeReached)
      scope.controller (onTick scope).controller := by
  dsimp only [onTick]
  have published : PlainStep (·.isSetpoint)
      (fun signal => signal = .takeoffTimeout ∨ signal = .altitudeReached) scope.controller
      (logStatusIfDue (publishSetpointIfDue scope)).controller := by
    rw [logStatusIfDue_controller]
    exact .publishSetpointIfDue _ _ fun _ published => published
  have timeout := postTimeoutIfNeeded_plain (logStatusIfDue (publishSetpointIfDue scope))
  have posting := published.trans (timeout.mono (fun _ none => none.elim) fun _ => .inl)
  split
  · exact posting
  · refine posting.trans ?_
    have reached := postAltitudeReachedOnce_plain
      (updateAltitudeConfirmation (postTimeoutIfNeeded (logStatusIfDue
        (publishSetpointIfDue scope))).1)
    rw [updateAltitudeConfirmation_controller] at reached
    exact reached.mono (fun _ none => none.elim) fun _ posted => .inr posted

theorem onEvent_plain (command : FlightCommand) :
    PlainStep (fun _ => False) (fun _ => False) scope.controller
      (onEvent scope command).controller := by
  dsimp only [onEvent]
  split
  · exact .setCustom1Requested _ true
  · exact .refl _

end TakeoffAscendingState

end MultirotorController
