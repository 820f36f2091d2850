import MultirotorController.Uav.FlightUpdate

/-!
# Assumptions about the environment of a run

Restrictions that the results about runs choose from. Each compares the next turn
with the state that the run has reached.
-/

namespace MultirotorController

variable [Libm] [Xgc2Math]

abbrev FlightRestriction := Machine.Restriction FlightRuntime Turn (Except RuntimeError Bool)

/-- Anything may happen next. -/
def anyEnvironment : FlightRestriction := fun _ _ _ => True

/-- The geofence is fixed. -/
def keepsBounds (bounds : WorldControlBounds) : FlightRestriction := fun _ runtime turn =>
  (runtime.prepare turn).controller.config.controlBounds = some bounds

/-- The configuration is fixed, and the snapshot reads the configured feedback source. -/
def keepsConfig (config : ControllerConfig) : FlightRestriction := fun _ runtime turn =>
  (runtime.prepare turn).controller.config = config ∧
    turn.sensor.feedbackSource = config.feedbackSource

/-- A constructed controller with this configuration. -/
def FlightRuntime.StartedWith (config : ControllerConfig) (runtime : FlightRuntime) : Prop :=
  runtime = FlightRuntime.initial.setConfig config

/-- `ControllerModule::onTheGround`. -/
def FlightRuntime.onTheGround (runtime : FlightRuntime) : Bool :=
  runtime.flightState = .selfCheck ∨ runtime.flightState = .ready

/-- Off the ground neither the backend nor the feedback source changes. -/
def fixedInFlight : FlightRestriction := fun _ runtime turn =>
  runtime.onTheGround = false →
    (runtime.prepare turn).controller.backend = runtime.controller.backend ∧
      turn.sensor.feedbackSource = runtime.controller.sensorData.feedbackSource

def SensorData.estimatedPosition (sensor : SensorData) : Vec3 := ⟨sensor.x, sensor.y, sensor.z⟩

def SensorData.localPosition (sensor : SensorData) : Vec3 :=
  ⟨sensor.localX, sensor.localY, sensor.localZ⟩

/-- A position changes only with a new message of its stream. -/
def positionsFollowStreams : FlightRestriction := fun _ runtime turn =>
  let before := runtime.controller.sensorData
  (turn.sensor.uavStateEstimateStats.isNew ∨
      turn.sensor.estimatedPosition = before.estimatedPosition) ∧
    (turn.sensor.localPosStats.isNew ∨ turn.sensor.localPosition = before.localPosition)

instance (past : List FlightEvent) (runtime : FlightRuntime) (turn : Turn) :
    Decidable (anyEnvironment past runtime turn) := .isTrue trivial

instance (bounds : WorldControlBounds) (past : List FlightEvent) (runtime : FlightRuntime)
    (turn : Turn) : Decidable (keepsBounds bounds past runtime turn) :=
  inferInstanceAs (Decidable (_ = _))

instance (config : ControllerConfig) (past : List FlightEvent) (runtime : FlightRuntime)
    (turn : Turn) : Decidable (keepsConfig config past runtime turn) :=
  inferInstanceAs (Decidable (_ ∧ _))

instance (past : List FlightEvent) (runtime : FlightRuntime) (turn : Turn) :
    Decidable (fixedInFlight past runtime turn) := inferInstanceAs (Decidable (_ → _))

instance (past : List FlightEvent) (runtime : FlightRuntime) (turn : Turn) :
    Decidable (positionsFollowStreams past runtime turn) := inferInstanceAs (Decidable (_ ∧ _))

/-- Every stream is live and the vehicle stands disarmed on the ground. -/
def groundedSensor : SensorData :=
  { localPosStats := { isActive := true, isNew := true }
    localVelocityStats := { isActive := true }
    imuStats := { isActive := true }
    stateStats := { isActive := true, isNew := true }
    fcuConnected := true }

/-- The same with a running estimator and fresh poses of both sources. -/
def readySensor : SensorData :=
  { groundedSensor with
    uavStateEstimatorState := StateEstimate.stateRunning
    uavStateEstimateStats := { isActive := true, isNew := true }
    vrpnPoseStats := { isActive := true, isNew := true } }

/-- The same in OFFBOARD with running motors. -/
def armedSensor : SensorData := { readySensor with fcuArmed := true, fcuMode := "OFFBOARD" }

/-- A flight into Hover, without the ALTCTL gate. -/
def hoverTurns : List Turn :=
  [{ sensor := readySensor, now := ⟨1, 0⟩ },
    { inputs := [.command .takeoff], sensor := readySensor, now := ⟨2, 0⟩ },
    { sensor := readySensor, now := ⟨3, 0⟩ },
    { sensor := { readySensor with fcuMode := "OFFBOARD" }, now := ⟨4, 0⟩ },
    { sensor := armedSensor, now := ⟨5, 0⟩ },
    { inputs := [.command .hover], sensor := armedSensor, now := ⟨6, 0⟩ }]

/-- Without a new pose the world altitude is the one of the previous turn. -/
theorem worldZ_prepare {past : List FlightEvent} {runtime : FlightRuntime} {turn : Turn}
    (follows : positionsFollowStreams past runtime turn)
    (backend : (runtime.prepare turn).controller.backend = runtime.controller.backend)
    (source : turn.sensor.feedbackSource = runtime.controller.sensorData.feedbackSource)
    (old : (runtime.prepare turn).controller.isWorldPoseNew = false) :
    (runtime.prepare turn).controller.worldZ = runtime.controller.worldZ := by
  obtain ⟨estimate, localPose⟩ := follows
  simp only [DroneController.isWorldPoseNew, SensorChecks.isWorldPoseNew,
    FlightRuntime.prepare_sensorData, backend] at old
  simp only [DroneController.worldZ, SensorChecks.worldZ, SensorChecks.readsEstimate,
    FlightRuntime.prepare_sensorData, backend, ← source]
  have estimated (still : turn.sensor.uavStateEstimateStats.isNew = false) :
      turn.sensor.z = runtime.controller.sensorData.z := by
    have same := estimate.resolve_left (by simp [still])
    exact congrArg Vec3.z same
  have local_ (still : turn.sensor.localPosStats.isNew = false) :
      turn.sensor.localZ = runtime.controller.sensorData.localZ := by
    have same := localPose.resolve_left (by simp [still])
    exact congrArg Vec3.z same
  cases fused : trackingUsesFusedEstimate runtime.controller.backend with
  | false => simpa [fused] using local_ (by simpa [fused] using old)
  | true =>
      cases feedback : turn.sensor.feedbackSource with
      | rigidEstimate =>
          have still : turn.sensor.uavStateEstimateStats.isNew = false := by
            simpa [fused, SensorChecks.isControlStateNew, feedback] using old
          simpa [fused, feedback] using estimated still
      | mavrosLocal =>
          have still : turn.sensor.localPosStats.isNew = false := by
            have quiet : SensorChecks.isControlStateNew turn.sensor = false := by
              simpa [fused] using old
            simp only [SensorChecks.isControlStateNew, feedback, Bool.or_eq_false_iff] at quiet
            exact quiet.1.1
          simpa [fused, feedback] using local_ still

end MultirotorController
