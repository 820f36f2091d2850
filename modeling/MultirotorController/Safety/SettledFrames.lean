import MultirotorController.Control.ExactMath
import MultirotorController.Safety.Environment
import MultirotorController.Uav.OutputSteps

/-!
# What advances a settled-frame counter

TakeoffAscending and Landing count settled frames of new world poses. Under a
fused backend a pose counts as new when any stream of the control state is, and
with MAVROS local feedback that includes the velocity and the IMU, which say
nothing about the altitude.
-/

namespace MultirotorController

open DroneController

theorem TakeoffAscendingState.isWorldPoseNew_of_counted (scope : Scope TakeoffAscendingState)
    (counted : scope.leaf.confirmedSettledFrames < (onTick scope).leaf.confirmedSettledFrames) :
    scope.controller.isWorldPoseNew = true := by
  let published := logStatusIfDue (publishSetpointIfDue scope)
  have kept : published.leaf.confirmedSettledFrames = scope.leaf.confirmedSettledFrames := by
    dsimp only [published, logStatusIfDue]
    split <;> rfl
  have timeout : (postTimeoutIfNeeded published).1.leaf.confirmedSettledFrames =
      published.leaf.confirmedSettledFrames := by
    dsimp only [postTimeoutIfNeeded]
    repeat' split
    all_goals rfl
  have reached (scope : Scope TakeoffAscendingState) :
      (postAltitudeReachedOnce scope).leaf.confirmedSettledFrames =
        scope.leaf.confirmedSettledFrames := by
    dsimp only [postAltitudeReachedOnce]
    split <;> rfl
  have confirmed (scope : Scope TakeoffAscendingState)
      (old : scope.controller.isWorldPoseNew = false) :
      (updateAltitudeConfirmation scope).leaf.confirmedSettledFrames =
        scope.leaf.confirmedSettledFrames := by
    dsimp only [updateAltitudeConfirmation]
    rw [old]
    repeat' split
    all_goals first | rfl | contradiction
  by_contra old
  have old : scope.controller.isWorldPoseNew = false := by simpa using old
  refine absurd counted (Nat.not_lt.mpr (Nat.le_of_eq ?_))
  dsimp only [onTick]
  split
  · exact timeout.trans kept
  · have circumstances :
        OnlyEmits scope.controller (postTimeoutIfNeeded published).1.controller := by
      refine OnlyEmits.trans ?_ (postTimeoutIfNeeded_onlyEmits published)
      rw [logStatusIfDue_controller]
      exact .publishSetpointIfDue _ _
    rw [reached, confirmed]
    · exact timeout.trans kept
    · rw [← old, DroneController.isWorldPoseNew, circumstances.sensorData, DroneController.backend,
        circumstances.config]
      rfl

theorem LandingState.isWorldPoseNew_of_counted (scope : Scope LandingState)
    (counted : scope.leaf.confirmedLandedFrames < (onTick scope).leaf.confirmedLandedFrames) :
    scope.controller.isWorldPoseNew = true := by
  have descent := descend_plain scope
  by_contra old
  have old : scope.controller.isWorldPoseNew = false := by simpa using old
  refine absurd counted (Nat.not_lt.mpr ?_)
  rw [onTick, postTouchdownOnce_confirmedLandedFrames, ← descend_confirmedLandedFrames scope]
  have same : (descend scope).controller.isWorldPoseNew = false :=
    descent.toEmits.isWorldPoseNew.trans old
  dsimp only [updateTouchdownConfirmation]
  rw [same]
  repeat' split
  all_goals first | exact Nat.le_refl _ | exact Nat.zero_le _ | contradiction

/-- What makes a world pose new without a message of the stream that supplies `worldZ`. -/
theorem SensorChecks.altitude_of_isWorldPoseNew {sensor : SensorData} {backend : TrackingBackend}
    (fresh : isWorldPoseNew sensor backend = true) :
    (if readsEstimate sensor backend then sensor.uavStateEstimateStats.isNew
      else sensor.localPosStats.isNew) = true ↔
    (trackingUsesFusedEstimate backend && sensor.feedbackSource == .mavrosLocal &&
      !sensor.localPosStats.isNew &&
      (sensor.localVelocityStats.isNew || sensor.imuStats.isNew)) = false := by
  simp only [isWorldPoseNew, isControlStateNew, readsEstimate] at fresh ⊢
  by_cases fused : trackingUsesFusedEstimate backend = true
  · by_cases feedback : sensor.feedbackSource = .rigidEstimate
    · simp_all
    · have feedback : sensor.feedbackSource = .mavrosLocal := by
        cases source : sensor.feedbackSource with
        | rigidEstimate => exact absurd source feedback
        | mavrosLocal => rfl
      -- without a position it was the velocity or the IMU that made the pose new
      by_cases position : sensor.localPosStats.isNew = true
      · simp_all
      · simp_all
        intro still
        exact fresh.resolve_left (by simp [still])
  · simp_all

/-- The counter of settled frames of the leaves that have one. -/
def FlightLeaf.settledFrames [Xgc2Math] : FlightLeaf → Nat
  | .takeoffAscending leaf => leaf.confirmedSettledFrames
  | .landing leaf => leaf.confirmedLandedFrames
  | _ => 0

section Law

variable [Libm] [Xgc2Math]

/-- The tick of the update advanced the counter of its leaf. -/
def countsFrame (event : FlightEvent) : Prop :=
  event.before.leaf.settledFrames <
    ((event.before.prepare event.input).ticked event.input.now).leaf.settledFrames

instance (event : FlightEvent) : Decidable (countsFrame event) := Nat.decLt _ _

/-- The stream that supplies `worldZ` delivered a message. -/
def receivesAltitude (event : FlightEvent) : Bool :=
  let sensor := event.input.sensor
  if SensorChecks.readsEstimate sensor (event.before.prepare event.input).controller.backend then
    sensor.uavStateEstimateStats.isNew
  else sensor.localPosStats.isNew

/-- Under a fused backend with MAVROS local feedback, a velocity or an IMU message came without
a local position. -/
def auxiliaryOnly (event : FlightEvent) : Bool :=
  let sensor := event.input.sensor
  trackingUsesFusedEstimate (event.before.prepare event.input).controller.backend &&
    sensor.feedbackSource == .mavrosLocal && !sensor.localPosStats.isNew &&
    (sensor.localVelocityStats.isNew || sensor.imuStats.isNew)

/-- A frame is counted on a new world pose. -/
theorem isWorldPoseNew_of_countsFrame {runtime : FlightRuntime} {turn : Turn}
    (counts : countsFrame (flightMachine.event runtime turn)) :
    (runtime.prepare turn).controller.isWorldPoseNew = true := by
  have health := (runtime.prepare turn).afterHealth_step turn.now
  have circumstances : ((runtime.prepare turn).afterHealth turn.now).controller.isWorldPoseNew =
      (runtime.prepare turn).controller.isWorldPoseNew := health.toEmits.isWorldPoseNew
  have kept : ((runtime.prepare turn).afterHealth turn.now).leaf = runtime.leaf :=
    (runtime.prepare_received turn).leaf
  rw [← circumstances]
  change runtime.leaf.settledFrames <
    ((runtime.prepare turn).ticked turn.now).leaf.settledFrames at counts
  have state := (runtime.prepare turn).ticked_flightState turn.now
  rw [FlightRuntime.prepare_flightState] at state
  cases same : runtime.leaf with
  | takeoffAscending leaf =>
      refine TakeoffAscendingState.isWorldPoseNew_of_counted ⟨_, leaf⟩ ?_
      unfold FlightRuntime.ticked FlightRuntime.controlTick at counts
      rw [kept, same] at counts
      exact counts
  | landing leaf =>
      refine LandingState.isWorldPoseNew_of_counted ⟨_, leaf⟩ ?_
      unfold FlightRuntime.ticked FlightRuntime.controlTick at counts
      rw [kept, same] at counts
      exact counts
  | _ =>
      -- the other leaves have no counter
      rw [FlightRuntime.flightState, FlightRuntime.flightState, same] at state
      rw [same] at counts
      cases after : ((runtime.prepare turn).ticked turn.now).leaf <;> rw [after] at state counts
      all_goals first | exact (Nat.lt_irrefl 0 counts).elim | cases state

/-- A new pose is a new altitude, but for the messages of the other streams. -/
theorem receivesAltitude_iff {runtime : FlightRuntime} {turn : Turn}
    (fresh : (runtime.prepare turn).controller.isWorldPoseNew = true) :
    receivesAltitude (flightMachine.event runtime turn) = true ↔
      auxiliaryOnly (flightMachine.event runtime turn) = false :=
  SensorChecks.altitude_of_isWorldPoseNew fresh

/-- A frame is counted in an update that received an altitude, unless only the velocity or the
IMU of a fused backend on MAVROS feedback made the pose new. -/
theorem settled_frames {past : List FlightEvent} {runtime : FlightRuntime}
    (run : flightMachine.Run FlightRuntime.Started anyEnvironment past runtime) :
    ∀ event ∈ past, countsFrame event →
      (receivesAltitude event = true ↔ auxiliaryOnly event = false) := by
  refine (run.invariant_events (fun _ => True) (fun _ _ => trivial) ?_).2
  intro past runtime turn _ _
  exact ⟨trivial, fun counts => receivesAltitude_iff (isWorldPoseNew_of_countsFrame counts)⟩

end Law

section Inertial

open ExactMath

/-- DFBC on MAVROS local feedback. -/
def localConfig : ControllerConfig :=
  { skipTakeoffInitDisarm := true, trackingBackend := .dfbc, feedbackSource := .mavrosLocal }

def SensorData.onLocal (sensor : SensorData) : SensorData :=
  { sensor with feedbackSource := .mavrosLocal, mavrosInertialValid := true }

/-- A flight into Hover and a land command. -/
def landingTurns : List Turn :=
  (hoverTurns ++ [{ inputs := [.command .land], sensor := armedSensor, now := ⟨7, 0⟩ }] :
    List Turn).map fun turn => { turn with sensor := turn.sensor.onLocal }

/-- An IMU message, and no position. -/
def inertialTurn : Turn where
  sensor :=
    { armedSensor.onLocal with
      localPosStats := { isActive := true }
      imuStats := { isActive := true, isNew := true } }
  now := ⟨8, 0⟩

/-- The IMU message alone counts as a landed frame. -/
theorem settled_frames_inertial :
    let landing := flightMachine.replay [] (FlightRuntime.initial.setConfig localConfig)
      landingTurns
    let event := flightMachine.event landing.2 inertialTurn
    flightMachine.Run FlightRuntime.Started anyEnvironment (event :: landing.1) event.after ∧
      countsFrame event ∧ receivesAltitude event = false := by
  intro landing event
  have start : flightMachine.Run FlightRuntime.Started anyEnvironment []
      (FlightRuntime.initial.setConfig localConfig) := .start ⟨localConfig, rfl⟩
  have run := (start.replay landingTurns (by decide +kernel)).extend inertialTurn trivial
  exact ⟨run, by decide +kernel, by decide +kernel⟩

/-- A position is a landed frame, and an altitude. -/
theorem settled_frames_position :
    let landing := flightMachine.replay [] (FlightRuntime.initial.setConfig localConfig)
      landingTurns
    let event := flightMachine.event landing.2
      { sensor := armedSensor.onLocal, now := ⟨8, 0⟩ }
    countsFrame event ∧ receivesAltitude event = true := by
  intro landing event
  have start : flightMachine.Run FlightRuntime.Started anyEnvironment []
      (FlightRuntime.initial.setConfig localConfig) := .start ⟨localConfig, rfl⟩
  have run := (start.replay landingTurns (by decide +kernel)).extend
    { sensor := armedSensor.onLocal, now := ⟨8, 0⟩ } trivial
  have counts : countsFrame event := by decide +kernel
  exact ⟨counts, (settled_frames run event (.head _) counts).mpr (by decide +kernel)⟩

end Inertial

end MultirotorController
