import MultirotorController.Common.Time

/-!
# Data of the controller

Configuration, sensor snapshot, setpoint and trajectory sample, with the fields
and the defaults of the source. A ROS clock value is a `Time`; every other
quantity in seconds or metres is a `Double`. Fields that no modelled function
reads or writes (timeouts and jitter limits of the retired checks, analytic
reference parameters) are left out.
-/

namespace MultirotorController

/-- Tracking strategy of Custom1. -/
inductive TrackingBackend where
  | px4Local
  | nmpc
  | dfbc
  | smc
  | pvaSmc
deriving DecidableEq, Repr

inductive FeedbackSource where
  | rigidEstimate
  | mavrosLocal
deriving DecidableEq, Repr

inductive HoverThrustSource where
  | external
  | internal
deriving DecidableEq, Repr

inductive DfbcReferenceSource where
  | trajectoryCache
  | plannerSetpoint
deriving DecidableEq, Repr

/-- PX4_LOCAL only: lift from the receipt stamp, or hold the stage sample. -/
inductive Px4LocalLiftMode where
  | legacy
  | zeroOrderHold
deriving DecidableEq, Repr

def trackingUsesFusedEstimate (backend : TrackingBackend) : Bool :=
  backend = .nmpc ∨ backend = .dfbc

section TypeMask

def kIgnorePxBit : UInt16 := (1 : UInt16) <<< 0
def kIgnorePyBit : UInt16 := (1 : UInt16) <<< 1
def kIgnorePzBit : UInt16 := (1 : UInt16) <<< 2
def kIgnoreVxBit : UInt16 := (1 : UInt16) <<< 3
def kIgnoreVyBit : UInt16 := (1 : UInt16) <<< 4
def kIgnoreVzBit : UInt16 := (1 : UInt16) <<< 5
def kIgnoreAfxBit : UInt16 := (1 : UInt16) <<< 6
def kIgnoreAfyBit : UInt16 := (1 : UInt16) <<< 7
def kIgnoreAfzBit : UInt16 := (1 : UInt16) <<< 8
/-- The acceleration field is a force. -/
def kForceBit : UInt16 := (1 : UInt16) <<< 9
def kIgnoreYawBit : UInt16 := (1 : UInt16) <<< 10
def kIgnoreYawRateBit : UInt16 := (1 : UInt16) <<< 11

def kDefaultPvaLocalTypeMask : UInt16 := kIgnoreYawBit ||| kIgnoreYawRateBit

/-- World acceleration only; the flight controller adds no position loop. -/
def kSmcAccelerationTypeMask : UInt16 :=
  kIgnorePxBit ||| kIgnorePyBit ||| kIgnorePzBit ||| kIgnoreVxBit ||| kIgnoreVyBit |||
    kIgnoreVzBit ||| kIgnoreYawBit ||| kIgnoreYawRateBit

example : kSmcAccelerationTypeMask = 3135 ∧ kSmcAccelerationTypeMask &&& kForceBit = 0 := by
  decide

def kHoverPositionVelocityTypeMask : UInt16 := 0b110111000000

end TypeMask

def kLocalSetpointPublishHz : Double := 30
def kLocalSetpointPublishInterval : Double := 1 / kLocalSetpointPublishHz

/-- `Eigen::Vector3d`. -/
structure Vec3 where
  x : Double := 0
  y : Double := 0
  z : Double := 0
deriving DecidableEq, Repr, Inhabited

namespace Vec3

def allFinite (v : Vec3) : Bool := v.x.isFinite && v.y.isFinite && v.z.isFinite

end Vec3

/-- Closed box of the experiment world. -/
structure WorldControlBounds where
  xMin : Double
  xMax : Double
  yMin : Double
  yMax : Double
  zMin : Double
  zMax : Double
deriving DecidableEq, Repr

/-- Every comparison with a NaN is false, so a NaN coordinate alone is not outside. -/
def WorldControlBounds.outside (bounds : WorldControlBounds) (x y z : Double) : Bool :=
  x < bounds.xMin || bounds.xMax < x || y < bounds.yMin || bounds.yMax < y ||
    z < bounds.zMin || bounds.zMax < z

structure WorldBoundary where
  controlBounds : Option WorldControlBounds := none
  groundZ : Option Double := none
deriving DecidableEq, Repr

namespace ControllerConfig

structure HoverThrustParams where
  source : HoverThrustSource := .external
deriving DecidableEq, Repr

structure SmcParams where
  k1 : Double := 0.5
  k2 : Double := 0.5
  boundaryLayer : Double := 0.01
deriving DecidableEq, Repr

structure DfbcParams where
  referenceSource : DfbcReferenceSource := .trajectoryCache
  positionNaturalFrequency : Vec3 := ⟨2.0, 2.0, 2.2⟩
  positionDampingRatio : Vec3 := ⟨0.9, 0.9, 1.0⟩
  tiltGain : Double := 6.0
  tiltRateDamping : Double := 1.0
  yawGain : Double := 0.3
  yawRateDamping : Double := 0.2
  useBodyRateFeedforward : Bool := true
  accelerationCorrectionEnabled : Bool := false
  accelerationCorrectionGain : Vec3 := ⟨0.35, 0.35, 0.0⟩
  accelerationCorrectionLimit : Vec3 := ⟨2.0, 2.0, 0.0⟩
  accelerationCorrectionFilterTau : Double := 0.0
  accelerationMeasurementTimeout : Double := 0.05
  logPeriod : Double := 1.0
deriving DecidableEq, Repr

structure UavNmpcParams where
  controlPeriod : Double := 0.01
  predictionHorizon : Double := 1.0
  gravity : Double := 9.8066
  hoverThrustRatio : Double := 0.5
  minHoverThrust : Double := 0.05
  maxHoverThrust : Double := 0.95
  normalizedThrustMin : Double := 0.1
  normalizedThrustMax : Double := 0.9
  maxRollPitchBodyRate : Double := 3.4906585
  maxYawBodyRate : Double := 0.8726646
  maxRollPitchAngularAcceleration : Double := 15.0
  maxYawAngularAcceleration : Double := 2.0
  angularAccelerationWeight : Vec3 := ⟨0.04, 0.04, 2.25⟩
  hoverThrustEnabled : Bool := false
  hoverThrustTimeout : Double := 0.5
  solveTimeout : Double := 0.03
  resultTimeout : Double := 0.1
  planHoverXyTol : Double := 1.0
  planHoverZTol : Double := 1.0
  enableTimingLog : Bool := true
  logPeriod : Double := 1.0
deriving DecidableEq, Repr

structure SafetyLimits where
  worldBoundary : Option WorldBoundary := none
  maxVelocityXy : Double := 5.0
  maxVelocityZ : Double := 2.0
  accSaturationXy : Double := 3.0
  accSaturationZ : Double := 3.0
  stateEstimateUnusableTripDelay : Double := 0.15
deriving DecidableEq, Repr

end ControllerConfig

structure ControllerConfig where
  feedbackSource : FeedbackSource := .rigidEstimate
  hoverThrust : ControllerConfig.HoverThrustParams := {}
  takeoffAltitude : Double := 1.5
  skipTakeoffInitDisarm : Bool := false
  planningPeriod : Double := 0.1
  trackingBackend : TrackingBackend := .px4Local
  px4LocalLift : Px4LocalLiftMode := .legacy
  localTypeMask : UInt16 := kDefaultPvaLocalTypeMask
  smc : ControllerConfig.SmcParams := {}
  enableYawControl : Bool := false
  dfbc : ControllerConfig.DfbcParams := {}
  nmpc : ControllerConfig.UavNmpcParams := {}
  safety : ControllerConfig.SafetyLimits := {}
deriving DecidableEq, Repr

namespace ControllerConfig

/-- The configured geofence, when a boundary with control bounds is loaded. -/
def controlBounds (config : ControllerConfig) : Option WorldControlBounds :=
  config.safety.worldBoundary.bind (·.controlBounds)

end ControllerConfig

/-- The active flight leaf. -/
inductive FlightState where
  | selfCheck
  | ready
  | takeoffInit
  | takeoffOffboardRequest
  | takeoffArmRequest
  | takeoffAscending
  | hover
  | landing
  | custom1
deriving DecidableEq, Repr

inductive FlightCommand where
  | takeoff
  | land
  | hover
  | track
deriving DecidableEq, Repr

/-- Facts one owner turn produces. -/
inductive FlightSignal where
  | altctlReady
  | offboardReady
  | armReady
  | altitudeReached
  | takeoffTimeout
  | referenceFinished
  | touchdown
  | timeoutLocalPosition
  | timeoutLocalVelocity
  | timeoutImu
  | timeoutFcuState
  | timeoutEstimate
  | estimateUnusable
  | geofence
  | velocityXY
  | velocityZ
  | saturationXY
  | saturationZ
deriving DecidableEq, Repr

/-- The `event_type` identifiers that the diagnostics publish. -/
def FlightSignal.id : FlightSignal → UInt32
  | altctlReady => 16
  | offboardReady => 17
  | armReady => 18
  | altitudeReached => 10
  | takeoffTimeout => 15
  | referenceFinished => 19
  | touchdown => 13
  | timeoutLocalPosition => 20
  | timeoutLocalVelocity => 21
  | timeoutImu => 22
  | timeoutFcuState => 23
  | timeoutEstimate => 27
  | estimateUnusable => 28
  | geofence => 40
  | velocityXY => 41
  | velocityZ => 42
  | saturationXY => 43
  | saturationZ => 44

/-- The signals of the health monitor. -/
def FlightSignal.isSafety : FlightSignal → Bool
  | altctlReady | offboardReady | armReady | altitudeReached | takeoffTimeout
  | referenceFinished | touchdown => false
  | _ => true

def diagnosticId : FlightCommand → UInt32
  | .takeoff => 1
  | .land => 2
  | .hover => 3
  | .track => 6

/-- Ordered outputs of one controller turn. -/
inductive FlightEffect where
  | setpoint (timestamp : Double)
  | attitude (timestamp : Double)
  | armRequest (timestamp : Double) (arm : Bool)
  | modeRequest (timestamp : Double) (mode : String)
  | nmpcRequest (timestamp : Double) (sequence generation : Nat)
  | referenceActivation (timestamp : Double)
  | status (timestamp : Double)
  | sensorStats (timestamp : Double)
  | events (timestamp : Double)
  | trackingError (timestamp : Double)
  | sensorDebug (timestamp : Double)
deriving DecidableEq, Repr

namespace FlightEffect

def isSetpoint : FlightEffect → Bool
  | setpoint _ => true
  | _ => false

def isAttitude : FlightEffect → Bool
  | attitude _ => true
  | _ => false

def isModeRequest : FlightEffect → Bool
  | modeRequest _ _ => true
  | _ => false

def isArm : FlightEffect → Bool
  | armRequest _ arm => arm
  | _ => false

def isDisarm : FlightEffect → Bool
  | armRequest _ arm => !arm
  | _ => false

def isNmpcRequest : FlightEffect → Bool
  | nmpcRequest _ _ _ => true
  | _ => false

def isReferenceActivation : FlightEffect → Bool
  | referenceActivation _ => true
  | _ => false

/-- What only observers receive. -/
def isTelemetry : FlightEffect → Bool
  | status _ | sensorStats _ | events _ | trackingError _ | sensorDebug _ => true
  | _ => false

end FlightEffect

/-- Receive statistics of one stream. -/
structure TopicStats where
  frequencyHz : Double := -1
  dtMax : Double := 0
  timeSinceLastMsg : Double := 0
  jitter : Double := 0
  lastMessageTime : Time := {}
  isActive : Bool := false
  isNew : Bool := false
deriving DecidableEq, Repr, Inhabited

/-- A position and velocity of one source sample. -/
structure LocalPv where
  position : Vec3
  velocity : Vec3
deriving DecidableEq, Repr

/-- Aggregated measurements, as one turn sees them. -/
structure SensorData where
  feedbackSource : FeedbackSource := .rigidEstimate
  mavrosBodyRate : Vec3 := {}
  mavrosWorldAcceleration : Vec3 := {}
  mavrosImuStamp : Double := 0
  mavrosInertialValid : Bool := false
  x : Double := 0
  y : Double := 0
  z : Double := 0
  vx : Double := 0
  vy : Double := 0
  vz : Double := 0
  qx : Double := 0
  qy : Double := 0
  qz : Double := 0
  qw : Double := 1
  wx : Double := 0
  wy : Double := 0
  wz : Double := 0
  ax : Double := 0
  ay : Double := 0
  az : Double := 0
  gx : Double := 0
  gy : Double := 0
  gz : Double := -9.8066
  accelBiasX : Double := 0
  accelBiasY : Double := 0
  accelBiasZ : Double := 0
  uavStateEstimatorState : UInt8 := 0
  uavStateEstimatorFlags : UInt32 := 0
  uavStateEstimateStamp : Double := 0
  uavStateFilterInertialStamp : Double := 0
  uavStateFilterPoseStamp : Double := 0
  uavStateLastVrpnPoseStamp : Double := 0
  hoverThrustEstimate : Double := 0
  hoverThrustEstimateStamp : Double := 0
  hoverThrustEstimateAvailable : Bool := false
  hoverThrustEstimateFlags : UInt32 := 0
  batteryPercentage : Double := 0
  fcuConnected : Bool := false
  fcuArmed : Bool := false
  fcuGuided : Bool := false
  fcuManualInput : Bool := false
  fcuMode : String := ""
  fcuSystemStatus : UInt8 := 0
  uavStateEstimateStats : TopicStats := {}
  localPosStats : TopicStats := {}
  localVelocityStats : TopicStats := {}
  imuStats : TopicStats := {}
  stateStats : TopicStats := {}
  batteryStats : TopicStats := {}
  localX : Double := 0
  localY : Double := 0
  localZ : Double := 0
  localQx : Double := 0
  localQy : Double := 0
  localQz : Double := 0
  localQw : Double := 1
  localVx : Double := 0
  localVy : Double := 0
  localVz : Double := 0
  pairedLocalPv : Option LocalPv := none
  vrpnX : Double := 0
  vrpnY : Double := 0
  vrpnZ : Double := 0
  vrpnQx : Double := 0
  vrpnQy : Double := 0
  vrpnQz : Double := 0
  vrpnQw : Double := 1
  vrpnPoseStats : TopicStats := {}
deriving DecidableEq, Repr, Inhabited

/-- Target of `mavros_msgs/PositionTarget`. The frame defaults to 1, local ENU. -/
structure Setpoint where
  x : Double := 0
  y : Double := 0
  z : Double := 0
  vx : Double := 0
  vy : Double := 0
  vz : Double := 0
  ax : Double := 0
  ay : Double := 0
  az : Double := 0
  qx : Double := 0
  qy : Double := 0
  qz : Double := 0
  qw : Double := 1
  yawRate : Double := 0
  typeMask : UInt16 := 0
  coordinateFrame : UInt8 := 1
deriving DecidableEq, Repr, Inhabited

/-- A constructed setpoint is one in local ENU. -/
theorem Setpoint.coordinateFrame_default : ({} : Setpoint).coordinateFrame = 1 := rfl

/-- Body rate and normalized thrust. -/
structure AttitudeRateTarget where
  bodyRateX : Double := 0
  bodyRateY : Double := 0
  bodyRateZ : Double := 0
  thrust : Double := 0
deriving DecidableEq, Repr, Inhabited

/-- One planner sample with the time from which it holds. -/
structure MpcTrajectoryState where
  positionK : Vec3 := {}
  velocityK : Vec3 := {}
  accelerationK : Vec3 := {}
  planningTime : Time := {}
  qx : Double := 0
  qy : Double := 0
  qz : Double := 0
  qw : Double := 1
  yawRate : Double := 0
  typeMask : UInt16 := 0
  coordinateFrame : UInt8 := 1
  isValid : Bool := false
  newDataReceived : Bool := false
deriving DecidableEq, Repr, Inhabited

end MultirotorController
