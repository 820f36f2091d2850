import MultirotorController.Uav.FlightState

/-!
# Steps that only emit

The monitors and the leaves before Custom1 act on the controller through its
outputs alone: they append effects, signals and diagnostic events. Whatever else
the controller holds is what it was.
-/

namespace MultirotorController

namespace DroneController

/-- Only the outputs of the turn may differ. -/
def OnlyEmits (before after : DroneController) : Prop :=
  ∃ flightEffects signals diagnosticEvents,
    after = { before with flightEffects, signals, diagnosticEvents }

namespace OnlyEmits

variable {first second third : DroneController}

theorem refl (controller : DroneController) : OnlyEmits controller controller := ⟨_, _, _, rfl⟩

theorem trans (earlier : OnlyEmits first second) (later : OnlyEmits second third) :
    OnlyEmits first third := by
  obtain ⟨_, _, _, rfl⟩ := earlier
  obtain ⟨_, _, _, rfl⟩ := later
  exact ⟨_, _, _, rfl⟩

theorem emitFlightEffect (controller : DroneController) (effect : FlightEffect) :
    OnlyEmits controller (controller.emitFlightEffect effect) := ⟨_, _, _, rfl⟩

theorem emitFlightSignal (controller : DroneController) (signal : FlightSignal) :
    OnlyEmits controller (controller.emitFlightSignal signal) := ⟨_, _, _, rfl⟩

theorem publishSetpointIfDue (controller : DroneController) (timer : ControllerTimer) :
    OnlyEmits controller (controller.publishSetpointIfDue timer).1 := by
  dsimp only [DroneController.publishSetpointIfDue]
  split
  · exact emitFlightEffect _ _
  · exact refl _

theorem requestIfDue (controller : DroneController) (timer : ControllerTimer) (interval : Double)
    (effect : FlightEffect) :
    OnlyEmits controller (controller.requestIfDue timer interval effect).1 := by
  dsimp only [DroneController.requestIfDue]
  split
  · exact refl _
  · exact emitFlightEffect _ _

section Fields

variable (emits : OnlyEmits first second)

include emits

theorem setpoint : second.setpoint = first.setpoint := by
  obtain ⟨_, _, _, rfl⟩ := emits
  rfl

theorem custom1Requested : second.custom1Requested = first.custom1Requested := by
  obtain ⟨_, _, _, rfl⟩ := emits
  rfl

theorem config : second.config = first.config := by
  obtain ⟨_, _, _, rfl⟩ := emits
  rfl

theorem sensorData : second.sensorData = first.sensorData := by
  obtain ⟨_, _, _, rfl⟩ := emits
  rfl

end Fields

end OnlyEmits

end DroneController

open DroneController

namespace HealthMonitorState

variable (scope : Scope HealthMonitorState)

theorem checkSensorActiveEdge_onlyEmits (controller : DroneController) (stats : TopicStats)
    (wasActive : Bool) (signal : FlightSignal) :
    OnlyEmits controller (checkSensorActiveEdge controller stats wasActive signal) := by
  unfold checkSensorActiveEdge
  split
  · exact .emitFlightSignal _ _
  · exact .refl _

theorem checkStreams_onlyEmits :
    OnlyEmits scope.controller (checkStreams scope).controller := by
  have fused : OnlyEmits scope.controller (checkFusedStreams scope).controller := by
    have estimate : OnlyEmits scope.controller
        (if trackingUsesFusedEstimate scope.controller.backend &&
            scope.controller.sensorData.feedbackSource == .rigidEstimate then
          checkEstimateStream scope else scope).controller := by
      split
      · exact checkSensorActiveEdge_onlyEmits _ _ _ _
      · exact .refl _
    have position (scope : Scope HealthMonitorState) :
        OnlyEmits scope.controller (checkLocalPosStream scope).controller :=
      checkSensorActiveEdge_onlyEmits _ _ _ _
    have velocity (scope : Scope HealthMonitorState) :
        OnlyEmits scope.controller (checkLocalVelocityStream scope).controller :=
      checkSensorActiveEdge_onlyEmits _ _ _ _
    have imu (scope : Scope HealthMonitorState) :
        OnlyEmits scope.controller (checkImuStream scope).controller :=
      checkSensorActiveEdge_onlyEmits _ _ _ _
    dsimp only [checkFusedStreams]
    split
    · exact ((estimate.trans (position _)).trans (velocity _)).trans (imu _)
    · exact estimate
  exact fused.trans (checkSensorActiveEdge_onlyEmits _ _ _ _)

theorem checkEstimateUsable_onlyEmits :
    OnlyEmits scope.controller (checkEstimateUsable scope).controller := by
  dsimp only [checkEstimateUsable]
  split
  · exact .emitFlightSignal _ _
  · exact .refl _

theorem checkGeofence_onlyEmits :
    OnlyEmits scope.controller (checkGeofence scope).controller := by
  dsimp only [checkGeofence]
  repeat' split
  · exact .emitFlightSignal _ _
  all_goals exact .refl _

theorem checkVelocity_onlyEmits [Libm] :
    OnlyEmits scope.controller (checkVelocity scope).controller := by
  dsimp only [checkVelocity]
  repeat' split
  · exact (OnlyEmits.emitFlightSignal _ _).trans (.emitFlightSignal _ _)
  · exact .emitFlightSignal _ _
  · exact .emitFlightSignal _ _
  all_goals exact .refl _

/-- The monitor acts through its signals alone. -/
theorem onTick_onlyEmits [Libm] : OnlyEmits scope.controller (onTick scope).controller := by
  have streams := checkStreams_onlyEmits { scope with
    leaf := updatePositionDistance scope.leaf scope.controller.sensorData }
  exact ((streams.trans (checkEstimateUsable_onlyEmits _)).trans
    (checkGeofence_onlyEmits _)).trans (checkVelocity_onlyEmits _)

end HealthMonitorState

namespace DebugMonitorState

variable (scope : Scope DebugMonitorState)

theorem onTick_onlyEmits : OnlyEmits scope.controller (onTick scope).controller := by
  have events (scope : Scope DebugMonitorState) :
      OnlyEmits scope.controller (publishEvents scope).controller := by
    dsimp only [publishEvents]
    split
    · exact .refl _
    · exact .emitFlightEffect _ _
  have status (scope : Scope DebugMonitorState) :
      OnlyEmits scope.controller (publishStatus scope).controller := by
    dsimp only [publishStatus]
    split
    · exact ⟨_, _, _, rfl⟩
    · exact .refl _
  have prints (scope : Scope DebugMonitorState) :
      OnlyEmits scope.controller (printSensorDebug scope).controller := by
    dsimp only [printSensorDebug]
    split
    · exact .emitFlightEffect _ _
    · exact .refl _
  exact ((events scope).trans (status _)).trans (prints _)

end DebugMonitorState

namespace TakeoffInitState

variable (scope : Scope TakeoffInitState)

theorem postAltctlReadyOnce_onlyEmits :
    OnlyEmits scope.controller (postAltctlReadyOnce scope).controller := by
  dsimp only [postAltctlReadyOnce]
  split
  · exact .refl _
  · exact .emitFlightSignal _ _

theorem onTick_onlyEmits : OnlyEmits scope.controller (onTick scope).controller := by
  have published : OnlyEmits scope.controller (publishSetpointIfDue scope).controller :=
    .publishSetpointIfDue _ _
  refine (published.trans ?_).trans (postAltctlReadyOnce_onlyEmits _)
  split
  · exact .refl _
  · rw [updateAltctlConfirmation_controller]
    exact .requestIfDue _ _ _ _

end TakeoffInitState

namespace TakeoffOffboardRequestState

variable (scope : Scope TakeoffOffboardRequestState)

theorem postOffboardReadyOnce_onlyEmits :
    OnlyEmits scope.controller (postOffboardReadyOnce scope).controller := by
  dsimp only [postOffboardReadyOnce]
  split
  · exact .refl _
  · exact .emitFlightSignal _ _

theorem onTick_onlyEmits : OnlyEmits scope.controller (onTick scope).controller := by
  have published : OnlyEmits scope.controller (publishSetpointIfDue scope).controller :=
    .publishSetpointIfDue _ _
  refine (published.trans ?_).trans (postOffboardReadyOnce_onlyEmits _)
  rw [updateOffboardConfirmation_controller]
  exact .requestIfDue _ _ _ _

end TakeoffOffboardRequestState

namespace TakeoffArmRequestState

variable (scope : Scope TakeoffArmRequestState)

theorem postArmReadyOnce_onlyEmits :
    OnlyEmits scope.controller (postArmReadyOnce scope).controller := by
  dsimp only [postArmReadyOnce]
  split
  · exact .refl _
  · exact .emitFlightSignal _ _

theorem onTick_onlyEmits : OnlyEmits scope.controller (onTick scope).controller := by
  have published : OnlyEmits scope.controller (publishSetpointIfDue scope).controller :=
    .publishSetpointIfDue _ _
  refine (published.trans ?_).trans (postArmReadyOnce_onlyEmits _)
  rw [updateArmConfirmation_controller]
  exact .requestIfDue _ _ _ _

end TakeoffArmRequestState

namespace TakeoffAscendingState

variable (scope : Scope TakeoffAscendingState)

theorem postTimeoutIfNeeded_onlyEmits :
    OnlyEmits scope.controller (postTimeoutIfNeeded scope).1.controller := by
  dsimp only [postTimeoutIfNeeded]
  repeat' split
  · exact .refl _
  · exact .refl _
  · exact .emitFlightSignal _ _

theorem postAltitudeReachedOnce_onlyEmits :
    OnlyEmits scope.controller (postAltitudeReachedOnce scope).controller := by
  dsimp only [postAltitudeReachedOnce]
  split
  · exact .refl _
  · exact .emitFlightSignal _ _

theorem onTick_onlyEmits : OnlyEmits scope.controller (onTick scope).controller := by
  have published : OnlyEmits scope.controller
      (logStatusIfDue (publishSetpointIfDue scope)).controller := by
    rw [logStatusIfDue_controller]
    exact .publishSetpointIfDue _ _
  have timeout := published.trans (postTimeoutIfNeeded_onlyEmits _)
  dsimp only [onTick]
  split
  · exact timeout
  · have reached := postAltitudeReachedOnce_onlyEmits (updateAltitudeConfirmation
      (postTimeoutIfNeeded (logStatusIfDue (publishSetpointIfDue scope))).1)
    rw [updateAltitudeConfirmation_controller] at reached
    exact timeout.trans reached

end TakeoffAscendingState

namespace FlightRuntime

variable [Xgc2Math] [Libm] (runtime : FlightRuntime)

/-- From the beginning of the turn to the tick. -/
theorem afterHealth_onlyEmits (now : Time) :
    OnlyEmits (runtime.beginTurn now).controller (runtime.afterHealth now).controller :=
  (HealthMonitorState.onTick_onlyEmits ⟨(runtime.beginTurn now).controller, runtime.health⟩).trans
    ⟨_, _, _, rfl⟩

omit [Libm] in
theorem debugTurn_onlyEmits : OnlyEmits runtime.controller runtime.debugTurn.controller :=
  DebugMonitorState.onTick_onlyEmits ⟨runtime.controller, runtime.debug⟩

end FlightRuntime

end MultirotorController
