import MultirotorController.Common.Types

/-!
# Checks on the sensor snapshot

Which streams feed the control state, whether it is usable, and the world pose
that a backend reads. The fused backends read the selected feedback source; the
others always read MAVROS local position.
-/

namespace MultirotorController

namespace StateEstimate

def stateRunning : UInt8 := 3
def stateCoasting : UInt8 := 4

def flagImuMissing : UInt32 := (1 : UInt32) <<< 0
def flagVrpnMissing : UInt32 := (1 : UInt32) <<< 1
def flagImuStale : UInt32 := (1 : UInt32) <<< 2
def flagVrpnStale : UInt32 := (1 : UInt32) <<< 3
def flagImuRateLow : UInt32 := (1 : UInt32) <<< 4
def flagVrpnRateLow : UInt32 := (1 : UInt32) <<< 5
def flagTimeJump : UInt32 := (1 : UInt32) <<< 6
def flagFault : UInt32 := (1 : UInt32) <<< 8
def flagExtrinsicUnverified : UInt32 := (1 : UInt32) <<< 10
def flagInvalidImu : UInt32 := (1 : UInt32) <<< 12
def flagInvalidVrpn : UInt32 := (1 : UInt32) <<< 13
def flagVrpnFault : UInt32 := (1 : UInt32) <<< 16
def flagFilterImuOnly : UInt32 := (1 : UInt32) <<< 19

/-- Flags that keep an estimate from being used for control. -/
def blockingFlags : UInt32 :=
  flagImuMissing ||| flagVrpnMissing ||| flagImuStale ||| flagVrpnStale ||| flagImuRateLow |||
    flagVrpnRateLow ||| flagTimeJump ||| flagFault ||| flagExtrinsicUnverified |||
    flagInvalidImu ||| flagInvalidVrpn ||| flagVrpnFault ||| flagFilterImuOnly

end StateEstimate

namespace SensorChecks

def kAirborneAltitudeThreshold : Double := 0.3

def isControlStateActive (sensor : SensorData) : Bool :=
  match sensor.feedbackSource with
  | .rigidEstimate => sensor.uavStateEstimateStats.isActive
  | .mavrosLocal =>
      sensor.localPosStats.isActive && sensor.localVelocityStats.isActive &&
        sensor.imuStats.isActive

def isControlStateNew (sensor : SensorData) : Bool :=
  match sensor.feedbackSource with
  | .rigidEstimate => sensor.uavStateEstimateStats.isNew
  | .mavrosLocal =>
      sensor.localPosStats.isNew || sensor.localVelocityStats.isNew || sensor.imuStats.isNew

def isWorldPoseNew (sensor : SensorData) (backend : TrackingBackend) : Bool :=
  if trackingUsesFusedEstimate backend then isControlStateNew sensor
  else sensor.localPosStats.isNew

/-- The battery is telemetry, not readiness. -/
def areBaseSensorsActive (sensor : SensorData) : Bool :=
  isControlStateActive sensor && sensor.stateStats.isActive

def arePassThroughSensorsActive (sensor : SensorData) : Bool :=
  sensor.localPosStats.isActive && sensor.localVelocityStats.isActive &&
    sensor.imuStats.isActive && sensor.stateStats.isActive

def isStateEstimateUsableForControl (sensor : SensorData) : Bool :=
  let stateOk := sensor.uavStateEstimatorState == StateEstimate.stateRunning ||
    sensor.uavStateEstimatorState == StateEstimate.stateCoasting
  sensor.uavStateEstimateStats.isActive && stateOk &&
    sensor.uavStateEstimatorFlags &&& StateEstimate.blockingFlags == 0

def isControlStateUsableForControl (sensor : SensorData) : Bool :=
  match sensor.feedbackSource with
  | .rigidEstimate => isStateEstimateUsableForControl sensor
  | .mavrosLocal =>
      let norm2 := sensor.localQx * sensor.localQx + sensor.localQy * sensor.localQy +
        sensor.localQz * sensor.localQz + sensor.localQw * sensor.localQw
      isControlStateActive sensor && sensor.mavrosInertialValid &&
        sensor.localX.isFinite && sensor.localY.isFinite && sensor.localZ.isFinite &&
        sensor.localVx.isFinite && sensor.localVy.isFinite && sensor.localVz.isFinite &&
        norm2.isFinite && decide ((1.0e-18 : Double) < norm2)

def areSensorsAllActive (sensor : SensorData) : Bool :=
  areBaseSensorsActive sensor && isControlStateUsableForControl sensor

def areSensorsReady (sensor : SensorData) (backend : TrackingBackend) : Bool :=
  if !trackingUsesFusedEstimate backend then arePassThroughSensorsActive sensor
  else areSensorsAllActive sensor

/-- The world pose comes from the estimator rather than from MAVROS local position. -/
def readsEstimate (sensor : SensorData) (backend : TrackingBackend) : Bool :=
  trackingUsesFusedEstimate backend && sensor.feedbackSource == .rigidEstimate

section WorldPose

variable (sensor : SensorData) (backend : TrackingBackend)

def worldX : Double := if readsEstimate sensor backend then sensor.x else sensor.localX
def worldY : Double := if readsEstimate sensor backend then sensor.y else sensor.localY
def worldZ : Double := if readsEstimate sensor backend then sensor.z else sensor.localZ
def worldVx : Double := if readsEstimate sensor backend then sensor.vx else sensor.localVx
def worldVy : Double := if readsEstimate sensor backend then sensor.vy else sensor.localVy
def worldVz : Double := if readsEstimate sensor backend then sensor.vz else sensor.localVz
def worldQx : Double := if readsEstimate sensor backend then sensor.qx else sensor.localQx
def worldQy : Double := if readsEstimate sensor backend then sensor.qy else sensor.localQy
def worldQz : Double := if readsEstimate sensor backend then sensor.qz else sensor.localQz
def worldQw : Double := if readsEstimate sensor backend then sensor.qw else sensor.localQw

end WorldPose

def isFcuConnected (sensor : SensorData) : Bool := sensor.fcuConnected

def isFcuArmed (sensor : SensorData) : Bool := sensor.fcuArmed

def isAirborne (sensor : SensorData) (backend : TrackingBackend) : Bool :=
  sensor.fcuArmed && decide (kAirborneAltitudeThreshold < worldZ sensor backend)

/-- Readiness includes every stream that the control state needs. -/
theorem isControlStateActive_of_ready {sensor : SensorData} {backend : TrackingBackend}
    (fused : trackingUsesFusedEstimate backend = true)
    (ready : areSensorsReady sensor backend = true) :
    isControlStateActive sensor = true ∧ isControlStateUsableForControl sensor = true := by
  simp only [areSensorsReady, fused, Bool.not_true, Bool.false_eq_true, if_false,
    areSensorsAllActive, areBaseSensorsActive, Bool.and_eq_true] at ready
  exact ⟨ready.1.1, ready.2⟩

theorem stateActive_of_ready {sensor : SensorData} {backend : TrackingBackend}
    (ready : areSensorsReady sensor backend = true) : sensor.stateStats.isActive = true := by
  simp only [areSensorsReady, areSensorsAllActive, areBaseSensorsActive,
    arePassThroughSensorsActive] at ready
  split at ready <;> simp_all

/-- A height at which a landing counts as settled is not an airborne height. -/
theorem not_airborne_of_worldZ_le {sensor : SensorData} {backend : TrackingBackend}
    (low : worldZ sensor backend ≤ 0.1) : isAirborne sensor backend = false := by
  have between : (0.1 : Double) < kAirborneAltitudeThreshold := by decide +kernel
  have notAbove : ¬ kAirborneAltitudeThreshold < worldZ sensor backend :=
    Double.not_lt_of_le_of_lt low between
  simp [isAirborne, notAbove]

end SensorChecks

end MultirotorController
