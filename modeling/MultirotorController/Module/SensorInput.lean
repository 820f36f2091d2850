import MultirotorController.Driver.SensorStatistics
import MultirotorController.Module.Payloads

/-!
# Sensor samples of the module

The sensor part of `ControllerModule::apply`. The receipt is recorded first and
the payload is copied field by field after it, so a payload whose time is out of
range is refused with some of its fields already written.
-/

namespace MultirotorController

namespace Module

open Procedure

/-- The payload of a port that has receive statistics. -/
inductive SensorPayload where
  | stateEstimate (payload : StateEstimatePayload)
  | localPose (payload : PosePayload)
  | localVelocity (payload : VelocityPayload)
  | imu
  | fcuState (payload : FcuStatePayload)
  | battery (payload : BatteryPayload)
  | vrpnPose (payload : PosePayload)
deriving DecidableEq, Repr

def SensorPayload.stream : SensorPayload → SensorStream
  | stateEstimate _ => .estimate
  | localPose _ => .localPose
  | localVelocity _ => .localVelocity
  | imu => .imu
  | fcuState _ => .state
  | battery _ => .battery
  | vrpnPose _ => .pose

/-- `ControllerModule::time`; a stamp before zero is zero. -/
def time (stampNs : Int64) : Except RuntimeError Time :=
  Time.fromNSec (if stampNs < 0 then 0 else stampNs).toUInt64

def modifySensor (update : SensorData → SensorData) : EStateM RuntimeError Sensing Unit :=
  modify fun sensing => { sensing with sensor := update sensing.sensor }

/-- The fields before the time of the estimate. -/
def writeEstimate (payload : StateEstimatePayload) (sensor : SensorData) : SensorData :=
  { sensor with
    x := payload.position.x
    y := payload.position.y
    z := payload.position.z
    vx := payload.velocity.x
    vy := payload.velocity.y
    vz := payload.velocity.z
    qx := payload.orientation.x
    qy := payload.orientation.y
    qz := payload.orientation.z
    qw := payload.orientation.w
    wx := payload.angularVelocity.x
    wy := payload.angularVelocity.y
    wz := payload.angularVelocity.z
    ax := payload.linearAcceleration.x
    ay := payload.linearAcceleration.y
    az := payload.linearAcceleration.z
    gx := payload.gravity.x
    gy := payload.gravity.y
    gz := payload.gravity.z
    accelBiasX := payload.accelBias.x
    accelBiasY := payload.accelBias.y
    accelBiasZ := payload.accelBias.z
    uavStateEstimatorState := payload.estimatorState
    uavStateEstimatorFlags := payload.flags }

def writeLocalPose (payload : PosePayload) (sensor : SensorData) : SensorData :=
  { sensor with
    localX := payload.position.x
    localY := payload.position.y
    localZ := payload.position.z
    localQx := payload.orientation.x
    localQy := payload.orientation.y
    localQz := payload.orientation.z
    localQw := payload.orientation.w }

def writeLocalVelocity (payload : VelocityPayload) (sensor : SensorData) : SensorData :=
  { sensor with
    localVx := payload.linear.x
    localVy := payload.linear.y
    localVz := payload.linear.z }

def writeFcuState (payload : FcuStatePayload) (sensor : SensorData) : SensorData :=
  { sensor with
    fcuConnected := payload.connected != 0
    fcuArmed := payload.armed != 0
    fcuGuided := payload.guided != 0
    fcuManualInput := payload.manualInput != 0
    fcuMode := boundedString payload.mode modeCapacity
    fcuSystemStatus := payload.systemStatus }

def writeVrpnPose (payload : PosePayload) (sensor : SensorData) : SensorData :=
  { sensor with
    vrpnX := payload.position.x
    vrpnY := payload.position.y
    vrpnZ := payload.position.z
    vrpnQx := payload.orientation.x
    vrpnQy := payload.orientation.y
    vrpnQz := payload.orientation.z
    vrpnQw := payload.orientation.w }

/-- The case of the payload in `apply`; an IMU sample leaves nothing in the snapshot. -/
def writePayload : SensorPayload → EStateM RuntimeError Sensing Unit
  | .stateEstimate payload => do
      modifySensor (writeEstimate payload)
      let stamp ← rethrow (Time.ofFields payload.stampSec payload.stampNsec)
      modifySensor fun sensor => { sensor with
        uavStateEstimateStamp := stamp.toSec
        uavStateFilterInertialStamp := payload.filterInertialStampSec
        uavStateFilterPoseStamp := payload.filterPoseStampSec
        uavStateLastVrpnPoseStamp := payload.lastVrpnPoseStampSec }
  | .localPose payload => modifySensor (writeLocalPose payload)
  | .localVelocity payload => modifySensor (writeLocalVelocity payload)
  | .imu => pure ()
  | .fcuState payload => modifySensor (writeFcuState payload)
  | .battery payload =>
      modifySensor fun sensor => { sensor with batteryPercentage := payload.percentage }
  | .vrpnPose payload => modifySensor (writeVrpnPose payload)

/-- A sample with the stamp its producer gave it. -/
structure SensorSample where
  stampNs : Int64 := 0
  payload : SensorPayload
deriving DecidableEq, Repr

def applySensor (sample : SensorSample) : EStateM RuntimeError Sensing Unit := do
  let receipt ← rethrow (time sample.stampNs)
  Sensing.observe sample.payload.stream receipt
  writePayload sample.payload

/-- A step catches what `apply` throws and keeps what it had written. -/
def receiveSensor (sensing : Sensing) (sample : SensorSample) : Sensing :=
  match (applySensor sample).run sensing with
  | .ok _ after => after
  | .error _ after => after

section Received

/-- What a recorded sample leaves in the snapshot. An estimate whose time is out of range
leaves its fields and not its stamps. -/
def written (payload : SensorPayload) (sensor : SensorData) : SensorData :=
  match payload with
  | .stateEstimate payload =>
      match Time.ofFields payload.stampSec payload.stampNsec with
      | .ok stamp => { writeEstimate payload sensor with
          uavStateEstimateStamp := stamp.toSec
          uavStateFilterInertialStamp := payload.filterInertialStampSec
          uavStateFilterPoseStamp := payload.filterPoseStampSec
          uavStateLastVrpnPoseStamp := payload.lastVrpnPoseStampSec }
      | .error _ => writeEstimate payload sensor
  | .localPose payload => writeLocalPose payload sensor
  | .localVelocity payload => writeLocalVelocity payload sensor
  | .imu => sensor
  | .fcuState payload => writeFcuState payload sensor
  | .battery payload => { sensor with batteryPercentage := payload.percentage }
  | .vrpnPose payload => writeVrpnPose payload sensor

/-- The receipt and the interval that a sample is recorded with; they depend on the window
of its stream alone. -/
def recorded (statistics : SensorStatistics) (sample : SensorSample) :
    Except RuntimeError (Time × Double) := do
  let receipt ← time sample.stampNs
  let dt ← Sensing.interval (statistics.tracks sample.payload.stream) receipt
  return (receipt, dt)

def record (sensing : Sensing) (sample : SensorSample) (receipt : Time) (dt : Double) : Sensing :=
  (sensing.updateTrack sample.payload.stream
    (Sensing.push (sensing.statistics.tracks sample.payload.stream) receipt dt)).updateStats
      sample.payload.stream (Sensing.markReceived receipt)

/-- A sample is recorded before its payload is written. -/
theorem applySensor_run (sensing : Sensing) (sample : SensorSample) :
    (applySensor sample).run sensing =
      match recorded sensing.statistics sample with
      | .error error => .error error sensing
      | .ok (receipt, dt) =>
          (writePayload sample.payload).run (record sensing sample receipt dt) := by
  unfold applySensor recorded
  cases time sample.stampNs with
  | error error => rfl
  | ok receipt =>
      have read : (rethrow (.ok receipt) : EStateM RuntimeError Sensing Time) sensing =
          .ok receipt sensing := rfl
      have observed : Sensing.observe sample.payload.stream receipt sensing =
          (rethrow (Sensing.interval (sensing.statistics.tracks sample.payload.stream) receipt)
            >>= fun dt => modify fun current => (current.updateTrack sample.payload.stream
              (Sensing.push (sensing.statistics.tracks sample.payload.stream) receipt
                dt)).updateStats sample.payload.stream (Sensing.markReceived receipt))
              sensing := rfl
      cases interval : Sensing.interval
          (sensing.statistics.tracks sample.payload.stream) receipt with
      | error error =>
          rw [interval] at observed
          dsimp only [bind, Except.bind]
          rw [interval]
          exact (bind_run_ok read).trans (bind_run_error observed)
      | ok dt =>
          rw [interval] at observed
          dsimp only [bind, Except.bind]
          rw [interval]
          exact (bind_run_ok read).trans (bind_run_ok observed)

/-- A sample that cannot be recorded changes nothing; a recorded one is also written. -/
theorem receiveSensor_eq (sensing : Sensing) (sample : SensorSample) :
    receiveSensor sensing sample =
      match recorded sensing.statistics sample with
      | .error _ => sensing
      | .ok (receipt, dt) =>
          { record sensing sample receipt dt with
            sensor := written sample.payload (record sensing sample receipt dt).sensor } := by
  rw [receiveSensor, applySensor_run]
  cases recorded sensing.statistics sample with
  | error error => rfl
  | ok entry =>
      obtain ⟨receipt, dt⟩ := entry
      obtain ⟨stampNs, payload⟩ := sample
      cases payload with
      | stateEstimate payload =>
          dsimp only [writePayload, written]
          cases stamp : Time.ofFields payload.stampSec payload.stampNsec with
          | error error => rfl
          | ok stamp => rfl
      | localPose payload => rfl
      | localVelocity payload => rfl
      | imu => rfl
      | fcuState payload => rfl
      | battery payload => rfl
      | vrpnPose payload => rfl

@[simp] theorem resetNewFlags_idem (sensing : Sensing) :
    sensing.resetNewFlags.resetNewFlags = sensing.resetNewFlags := rfl

theorem written_resetNewFlags (payload : SensorPayload) (sensor : SensorData) :
    (written payload sensor.resetNewFlags).resetNewFlags =
      (written payload sensor).resetNewFlags := by
  cases sensor
  cases payload with
  | stateEstimate payload =>
      dsimp only [written]
      cases Time.ofFields payload.stampSec payload.stampNsec with
      | error error => rfl
      | ok stamp => rfl
  | localPose payload => rfl
  | localVelocity payload => rfl
  | imu => rfl
  | fcuState payload => rfl
  | battery payload => rfl
  | vrpnPose payload => rfl

theorem updateStats_resetNewFlags (sensor : SensorData) (stream : SensorStream)
    (receipt : Time) :
    ((sensor.resetNewFlags.updateStats (Sensing.markReceived receipt) stream).resetNewFlags) =
      (sensor.updateStats (Sensing.markReceived receipt) stream).resetNewFlags := by
  cases sensor
  cases stream <;> rfl

/-- Whether a stream was marked new before makes no difference to a sample. -/
theorem receiveSensor_resetNewFlags (sensing : Sensing) (sample : SensorSample) :
    (receiveSensor sensing.resetNewFlags sample).resetNewFlags =
      (receiveSensor sensing sample).resetNewFlags := by
  have same : recorded sensing.resetNewFlags.statistics sample =
      recorded sensing.statistics sample := rfl
  rw [receiveSensor_eq, receiveSensor_eq, same]
  cases recorded sensing.statistics sample with
  | error error => rfl
  | ok entry =>
      obtain ⟨receipt, dt⟩ := entry
      have marked : (record sensing.resetNewFlags sample receipt dt).sensor.resetNewFlags =
          (record sensing sample receipt dt).sensor.resetNewFlags :=
        updateStats_resetNewFlags _ _ _
      have sensor : (written sample.payload
          (record sensing.resetNewFlags sample receipt dt).sensor).resetNewFlags =
          (written sample.payload (record sensing sample receipt dt).sensor).resetNewFlags := by
        rw [← written_resetNewFlags, marked, written_resetNewFlags]
      exact congrArg (Sensing.mk · _) sensor

end Received

end Module

end MultirotorController
