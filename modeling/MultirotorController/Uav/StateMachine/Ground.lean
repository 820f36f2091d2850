import MultirotorController.Uav.DroneController

/-!
# Leaves before and between flights: SelfCheck, Ready and Hover

SelfCheck only paces its log. Ready asks for a disarm when it is entered, unless
the snapshot shows the vehicle in the air. Hover latches the present world pose
into the shared setpoint and repeats it.
-/

namespace MultirotorController

open DroneController

structure SelfCheckState where
  statusLogTimer : ControllerTimer := {}
deriving DecidableEq, Repr

namespace SelfCheckState

def logInterval : Double := 2.0

variable (scope : Scope SelfCheckState)

def onEnter : Scope SelfCheckState :=
  { scope with
    leaf.statusLogTimer := scope.leaf.statusLogTimer.start scope.controller.currentTime }

def onTick : Scope SelfCheckState :=
  let clock := scope.controller.currentTime
  if logInterval ≤ scope.leaf.statusLogTimer.elapsed clock then
    { scope with leaf.statusLogTimer := scope.leaf.statusLogTimer.reset clock }
  else scope

def onExit : Scope SelfCheckState :=
  { scope with leaf.statusLogTimer := scope.leaf.statusLogTimer.stop }

def nextWake : Option Deadline := scope.leaf.statusLogTimer.dueAt logInterval

@[simp] theorem onEnter_controller : (onEnter scope).controller = scope.controller := rfl

@[simp] theorem onTick_controller : (onTick scope).controller = scope.controller := by
  dsimp only [onTick]
  split <;> rfl

@[simp] theorem onExit_controller : (onExit scope).controller = scope.controller := rfl

end SelfCheckState

/-- Ready keeps no data of its own. -/
structure ReadyState where
deriving DecidableEq, Repr

namespace ReadyState

variable (scope : Scope ReadyState)

/-- No disarm is requested while the snapshot looks airborne. -/
def onEnter : Scope ReadyState :=
  let controller := scope.controller
  if controller.isAirborne then scope
  else
    { scope with
      controller := controller.emitFlightEffect (.armRequest controller.currentTime false) }

def onExit : Scope ReadyState := scope

/-- The disarm on entry is guarded by the snapshot of the same turn. -/
theorem onEnter_plain :
    PlainStep (fun effect => effect.isDisarm ∧ scope.controller.isAirborne = false)
      (fun _ => False) scope.controller (onEnter scope).controller := by
  dsimp only [onEnter]
  split
  · exact .refl _
  next grounded => exact .emitFlightEffect _ ⟨rfl, by simpa using grounded⟩

end ReadyState

structure HoverState where
  setpointPublishTimer : ControllerTimer := {}
deriving DecidableEq, Repr

namespace HoverState

def hoverPositionVelocityTypeMask : UInt16 := 0b110111000000
def ignoreYawBit : UInt16 := (1 : UInt16) <<< 10

/-- The hover target; `coordinateFrame` keeps whatever the shared setpoint holds. -/
def configureHoverSetpoint (controller : DroneController) : DroneController :=
  let sensor := controller.sensorData
  let backend := controller.backend
  let yaw := controller.config.enableYawControl
  { controller with
    setpoint := {
      controller.setpoint with
      x := controller.worldX
      y := controller.worldY
      z := controller.worldZ
      vx := 0
      vy := 0
      vz := 0
      ax := 0
      ay := 0
      az := 0
      yawRate := 0
      typeMask :=
        if yaw then hoverPositionVelocityTypeMask &&& ~~~ignoreYawBit
        else hoverPositionVelocityTypeMask
      qx := if yaw then SensorChecks.worldQx sensor backend else 0
      qy := if yaw then SensorChecks.worldQy sensor backend else 0
      qz := if yaw then SensorChecks.worldQz sensor backend else 0
      qw := if yaw then SensorChecks.worldQw sensor backend else 1 } }

variable (scope : Scope HoverState)

def onEnter : Scope HoverState :=
  let controller := configureHoverSetpoint scope.controller
  { controller := controller.emitFlightEffect (.setpoint controller.currentTime)
    leaf.setpointPublishTimer := scope.leaf.setpointPublishTimer.start controller.currentTime }

def publishSetpointIfDue : Scope HoverState :=
  let (controller, timer) :=
    scope.controller.publishSetpointIfDue scope.leaf.setpointPublishTimer
  { controller, leaf.setpointPublishTimer := timer }

def onTick : Scope HoverState := publishSetpointIfDue scope

def onEvent (command : FlightCommand) : Scope HoverState :=
  if command = .track then { scope with controller := scope.controller.requestCustom1Tracking }
  else scope

def onExit : Scope HoverState :=
  { scope with leaf.setpointPublishTimer := scope.leaf.setpointPublishTimer.stop }

def nextWake : Option Deadline :=
  scope.leaf.setpointPublishTimer.dueAt kLocalSetpointPublishInterval

theorem onEnter_plain :
    PlainStep (·.isSetpoint) (fun _ => False) scope.controller (onEnter scope).controller :=
  .publish _ _ rfl (.inl rfl)

theorem onTick_plain :
    PlainStep (·.isSetpoint) (fun _ => False) scope.controller (onTick scope).controller :=
  .publishSetpointIfDue _ _ fun _ published => published

theorem onEvent_plain (command : FlightCommand) :
    PlainStep (fun _ => False) (fun _ => False) scope.controller
      (onEvent scope command).controller := by
  dsimp only [onEvent]
  split
  · exact .setCustom1Requested _ true
  · exact .refl _

end HoverState

end MultirotorController
