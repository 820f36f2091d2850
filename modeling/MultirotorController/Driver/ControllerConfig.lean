import MultirotorController.Common.Time
import MultirotorController.Common.Types
import MultirotorController.Lib.Procedure

/-!
# Reading the configuration

The reader asks for one parameter after another, each with a default, and
replaces a value that it cannot work with. A parameter of the wrong type throws.
The parser of the world boundary and the clamp of the math library are not
modelled. What the timing of the machine rests on is stated once, for every
configuration that the reader returns.
-/

/-- The value, unless it is not finite or not above the bound. -/
def Double.above (value bound default_ : Double) : Double :=
  if ¬ value.isFinite ∨ value ≤ bound then default_ else value

/-- The value, unless it is not finite or negative. -/
def Double.nonnegativeOr (value default_ : Double) : Double :=
  if ¬ value.isFinite ∨ value < 0 then default_ else value

/-- What the check lets through, and its default, pass the check. -/
theorem Double.above_spec {value bound default_ : Double}
    (default_ok : default_.isFinite = true ∧ bound < default_) (finite : bound.isFinite = true) :
    (value.above bound default_).isFinite = true ∧ bound < value.above bound default_ := by
  unfold Double.above
  split
  · exact default_ok
  next accepted =>
    simp only [Bool.not_eq_true, not_or, Bool.not_eq_false] at accepted
    exact ⟨accepted.1, Double.lt_of_not_le finite accepted.1 accepted.2⟩

theorem Double.nonnegativeOr_spec {value default_ : Double}
    (default_ok : default_.isFinite = true ∧ ¬default_ < 0) :
    (value.nonnegativeOr default_).isFinite = true ∧ ¬value.nonnegativeOr default_ < 0 := by
  unfold Double.nonnegativeOr
  split
  · exact default_ok
  next accepted =>
    simp only [Bool.not_eq_true, not_or, Bool.not_eq_false] at accepted
    exact accepted

namespace MultirotorController

/-- `ControllerParameterValue`, the types that a parameter can have. -/
inductive ControllerParameterValue where
  | bool (value : Bool)
  | int (value : Int)
  | double (value : Double)
  | string (value : String)
  | doubles (values : List Double)
deriving DecidableEq, Repr

/-- The getter sees the present value, whose type is the one that is asked for. -/
structure ControllerParameters where
  read : String → ControllerParameterValue → Option ControllerParameterValue

/-- What the reader uses of other libraries. -/
structure ConfigLibrary where
  clamp : Double → Double → Double → Double
  parseWorldBoundary : String → Except RuntimeError (Option WorldBoundary)

namespace ControllerParameters

variable (parameters : ControllerParameters)

/-- `std::get` of another alternative. -/
def badVariantAccess : RuntimeError := ⟨"std::get: wrong index for variant"⟩

def getBool (key : String) (fallback : Bool) : Except RuntimeError Bool :=
  match parameters.read key (.bool fallback) with
  | none => .ok fallback
  | some (.bool value) => .ok value
  | some _ => .error badVariantAccess

def getInt (key : String) (fallback : Int) : Except RuntimeError Int :=
  match parameters.read key (.int fallback) with
  | none => .ok fallback
  | some (.int value) => .ok value
  | some _ => .error badVariantAccess

/-- Nothing when the parameter is missing. -/
def findDouble (key : String) (present : Double) : Except RuntimeError (Option Double) :=
  match parameters.read key (.double present) with
  | none => .ok none
  | some (.double value) => .ok (some value)
  | some _ => .error badVariantAccess

def getDouble (key : String) (fallback : Double) : Except RuntimeError Double := do
  return (← parameters.findDouble key fallback).getD fallback

def findString (key present : String) : Except RuntimeError (Option String) :=
  match parameters.read key (.string present) with
  | none => .ok none
  | some (.string value) => .ok (some value)
  | some _ => .error badVariantAccess

def getString (key fallback : String) : Except RuntimeError String := do
  return (← parameters.findString key fallback).getD fallback

/-- Anything but three finite values keeps the fallback. -/
def getVector3Param (key : String) (fallback : Vec3) : Except RuntimeError Vec3 :=
  match parameters.read key (.doubles []) with
  | none => .ok fallback
  | some (.doubles [x, y, z]) =>
      let result : Vec3 := ⟨x, y, z⟩
      .ok (if result.allFinite then result else fallback)
  | some (.doubles _) => .ok fallback
  | some _ => .error badVariantAccess

end ControllerParameters

/-- The vector, unless a component is not finite or not positive. -/
def Vec3.positiveOr (value default_ : Vec3) : Vec3 :=
  if ¬ value.allFinite ∨ value.x ≤ 0 ∨ value.y ≤ 0 ∨ value.z ≤ 0 then default_ else value

def Vec3.nonnegativeOr (value default_ : Vec3) : Vec3 :=
  if ¬ value.allFinite ∨ value.x < 0 ∨ value.y < 0 ∨ value.z < 0 then default_ else value

namespace ControllerConfig

section Readers

variable (library : ConfigLibrary) (parameters : ControllerParameters)

def readFeedbackSource : Except RuntimeError FeedbackSource := do
  match ← parameters.getString "feedback_source" "rigid_estimate" with
  | "rigid_estimate" => return .rigidEstimate
  | "mavros_local" => return .mavrosLocal
  | _ => throw ⟨"feedback_source must be rigid_estimate or mavros_local"⟩

def readHoverThrustSource : Except RuntimeError HoverThrustSource := do
  match ← parameters.getString "hover_thrust/source" "external" with
  | "external" => return .external
  | "internal" => return .internal
  | _ => throw ⟨"hover_thrust/source must be external or internal"⟩

def readDfbcReferenceSource : Except RuntimeError DfbcReferenceSource := do
  match ← parameters.getString "dfbc/reference_source" "trajectory_cache" with
  | "trajectory_cache" => return .trajectoryCache
  | "planner_setpoint" => return .plannerSetpoint
  | _ => throw ⟨"dfbc/reference_source must be trajectory_cache or planner_setpoint"⟩

def readWorldBoundary : Except RuntimeError (Option WorldBoundary) := do
  match ← parameters.findString "world_boundary_json" "" with
  | none => throw ⟨"world_boundary_json must explicitly contain worldBoundary or null"⟩
  | some json => library.parseWorldBoundary json

/-- The altitude of one vehicle wins over the common one. -/
def readTakeoffAltitude (uavName : String) : Except RuntimeError Double := do
  let common ← parameters.getDouble "takeoff_altitude" 1.5
  if uavName.isEmpty then return common
  match ← parameters.findDouble ("takeoff_altitudes/" ++ uavName) common with
  | none => return common
  | some altitude => return if altitude.isFinite ∧ 0 < altitude then altitude else common

def readPlanningPeriod : Except RuntimeError Double := do
  return (← parameters.getDouble "planning_period" 0.1).above 0 0.1

/-- An unknown backend is the pass-through. -/
def readTrackingBackend : Except RuntimeError TrackingBackend := do
  match ← parameters.getString "tracking_backend" "px4_local" with
  | "nmpc" => return .nmpc
  | "dfbc" => return .dfbc
  | "smc" => return .smc
  | "pva_smc" => return .pvaSmc
  | _ => return .px4Local

def readPx4LocalLift : Except RuntimeError Px4LocalLiftMode := do
  match ← parameters.getString "px4_local_lift" "legacy" with
  | "zero_order_hold" => return .zeroOrderHold
  | _ => return .legacy

def readSmcParams : Except RuntimeError SmcParams := do
  let params : SmcParams := {}
  return {
    k1 := ← parameters.getDouble "smc/k1" params.k1
    k2 := ← parameters.getDouble "smc/k2" params.k2
    boundaryLayer := ← parameters.getDouble "smc/boundary_layer" params.boundaryLayer }

def readLocalTypeMask : Except RuntimeError UInt16 := do
  let mask ← parameters.getInt "local_type_mask" kDefaultPvaLocalTypeMask.toNat
  return if mask < 0 ∨ 4095 < mask then kDefaultPvaLocalTypeMask else UInt16.ofInt mask

def readDfbcParams (referenceSource : DfbcReferenceSource) : Except RuntimeError DfbcParams := do
  let params : DfbcParams := {}
  return {
    referenceSource
    positionNaturalFrequency := ← parameters.getVector3Param "dfbc/position_natural_frequency"
      params.positionNaturalFrequency
    positionDampingRatio := ← parameters.getVector3Param "dfbc/position_damping_ratio"
      params.positionDampingRatio
    tiltGain := ← parameters.getDouble "dfbc/tilt_gain" params.tiltGain
    tiltRateDamping := ← parameters.getDouble "dfbc/tilt_rate_damping" params.tiltRateDamping
    yawGain := ← parameters.getDouble "dfbc/yaw_gain" params.yawGain
    yawRateDamping := ← parameters.getDouble "dfbc/yaw_rate_damping" params.yawRateDamping
    useBodyRateFeedforward := ← parameters.getBool "dfbc/use_body_rate_feedforward"
      params.useBodyRateFeedforward
    accelerationCorrectionEnabled := ← parameters.getBool "dfbc/acceleration_correction_enabled"
      params.accelerationCorrectionEnabled
    accelerationCorrectionGain := ← parameters.getVector3Param "dfbc/acceleration_correction_gain"
      params.accelerationCorrectionGain
    accelerationCorrectionLimit := ← parameters.getVector3Param
      "dfbc/acceleration_correction_limit" params.accelerationCorrectionLimit
    accelerationCorrectionFilterTau := ← parameters.getDouble
      "dfbc/acceleration_correction_filter_tau" params.accelerationCorrectionFilterTau
    accelerationMeasurementTimeout := ← parameters.getDouble
      "dfbc/acceleration_measurement_timeout" params.accelerationMeasurementTimeout
    logPeriod := ← parameters.getDouble "dfbc/log_period" params.logPeriod }

/-- The thrust estimate may be configured under either of two names. -/
def readNmpcParams : Except RuntimeError UavNmpcParams := do
  let params : UavNmpcParams := {}
  return {
    controlPeriod := ← parameters.getDouble "nmpc/control_period" params.controlPeriod
    predictionHorizon := ← parameters.getDouble "nmpc/prediction_horizon" params.predictionHorizon
    gravity := ← parameters.getDouble "nmpc/gravity" params.gravity
    hoverThrustRatio := ← parameters.getDouble "nmpc/hover_thrust_ratio" params.hoverThrustRatio
    minHoverThrust := ← parameters.getDouble "nmpc/min_hover_thrust" params.minHoverThrust
    maxHoverThrust := ← parameters.getDouble "nmpc/max_hover_thrust" params.maxHoverThrust
    normalizedThrustMin := ← parameters.getDouble "nmpc/normalized_thrust_min"
      params.normalizedThrustMin
    normalizedThrustMax := ← parameters.getDouble "nmpc/normalized_thrust_max"
      params.normalizedThrustMax
    maxRollPitchBodyRate := ← parameters.getDouble "nmpc/max_roll_pitch_body_rate"
      params.maxRollPitchBodyRate
    maxYawBodyRate := ← parameters.getDouble "nmpc/max_yaw_body_rate" params.maxYawBodyRate
    maxRollPitchAngularAcceleration := ← parameters.getDouble
      "nmpc/max_roll_pitch_angular_acceleration" params.maxRollPitchAngularAcceleration
    maxYawAngularAcceleration := ← parameters.getDouble "nmpc/max_yaw_angular_acceleration"
      params.maxYawAngularAcceleration
    angularAccelerationWeight := ← parameters.getVector3Param "nmpc/angular_acceleration_weight"
      params.angularAccelerationWeight
    enableTimingLog := ← parameters.getBool "nmpc/enable_timing_log" params.enableTimingLog
    logPeriod := ← parameters.getDouble "nmpc/log_period" params.logPeriod
    hoverThrustEnabled := ← parameters.getBool "nmpc/hover_thrust_enabled"
      (← parameters.getBool "hover_thrust/enabled" params.hoverThrustEnabled)
    hoverThrustTimeout := ← parameters.getDouble "nmpc/hover_thrust_timeout"
      (← parameters.getDouble "hover_thrust/timeout" params.hoverThrustTimeout)
    solveTimeout := ← parameters.getDouble "nmpc/solve_timeout" params.solveTimeout
    resultTimeout := ← parameters.getDouble "nmpc/result_timeout" params.resultTimeout }

def sanitizeNmpcParams (params : UavNmpcParams) : UavNmpcParams :=
  let minHoverThrust := library.clamp params.minHoverThrust 0 1
  let normalizedThrustMin := library.clamp params.normalizedThrustMin 0 1
  { params with
    controlPeriod := params.controlPeriod.above 0 0.01
    predictionHorizon := params.predictionHorizon.above 0 1.0
    gravity := params.gravity.above 1e-6 9.8066
    maxRollPitchBodyRate := params.maxRollPitchBodyRate.above 0 3.4906585
    maxYawBodyRate := params.maxYawBodyRate.above 0 0.8726646
    maxRollPitchAngularAcceleration := params.maxRollPitchAngularAcceleration.above 0 15.0
    maxYawAngularAcceleration := params.maxYawAngularAcceleration.above 0 2.0
    angularAccelerationWeight := params.angularAccelerationWeight.positiveOr ⟨0.04, 0.04, 2.25⟩
    hoverThrustRatio := library.clamp params.hoverThrustRatio 0.05 0.95
    minHoverThrust
    maxHoverThrust := library.clamp params.maxHoverThrust minHoverThrust 1
    normalizedThrustMin
    normalizedThrustMax := library.clamp params.normalizedThrustMax normalizedThrustMin 1
    hoverThrustTimeout := params.hoverThrustTimeout.above 0 0.5
    solveTimeout := params.solveTimeout.above 0 0.03
    resultTimeout := params.resultTimeout.above 0 0.1 }

def sanitizeDfbcParams (params : DfbcParams) : DfbcParams :=
  { params with
    positionNaturalFrequency := params.positionNaturalFrequency.positiveOr ⟨2.0, 2.0, 2.2⟩
    positionDampingRatio := params.positionDampingRatio.positiveOr ⟨0.9, 0.9, 1.0⟩
    tiltGain := params.tiltGain.above 0 6.0
    tiltRateDamping := params.tiltRateDamping.nonnegativeOr 1.0
    yawGain := params.yawGain.nonnegativeOr 0.3
    yawRateDamping := params.yawRateDamping.nonnegativeOr 0.2
    accelerationCorrectionGain := params.accelerationCorrectionGain.nonnegativeOr ⟨0.35, 0.35, 0.0⟩
    accelerationCorrectionLimit := params.accelerationCorrectionLimit.nonnegativeOr ⟨2.0, 2.0, 0.0⟩
    accelerationCorrectionFilterTau := params.accelerationCorrectionFilterTau.nonnegativeOr 0.0
    accelerationMeasurementTimeout := params.accelerationMeasurementTimeout.above 0 0.05
    logPeriod := params.logPeriod.above 0 1.0 }

def readSafetyLimits (worldBoundary : Option WorldBoundary) :
    Except RuntimeError SafetyLimits := do
  let limits : SafetyLimits := {}
  return {
    worldBoundary
    maxVelocityXy := ← parameters.getDouble "max_velocity_xy" limits.maxVelocityXy
    maxVelocityZ := ← parameters.getDouble "max_velocity_z" limits.maxVelocityZ
    accSaturationXy := ← parameters.getDouble "acc_saturation_xy" limits.accSaturationXy
    accSaturationZ := ← parameters.getDouble "acc_saturation_z" limits.accSaturationZ
    stateEstimateUnusableTripDelay :=
      (← parameters.getDouble "state_estimate_unusable_trip_delay"
        limits.stateEstimateUnusableTripDelay).nonnegativeOr 0.15 }

/-- The attitude-rate backends cannot do without the thrust estimate. -/
def requireHoverThrust (backend : TrackingBackend) (params : UavNmpcParams) : UavNmpcParams :=
  { params with
    hoverThrustEnabled := params.hoverThrustEnabled || backend == .nmpc || backend == .dfbc }

def readControllerConfig (uavName : String) : Except RuntimeError ControllerConfig := do
  let feedbackSource ← readFeedbackSource parameters
  let hoverThrustSource ← readHoverThrustSource parameters
  let referenceSource ← readDfbcReferenceSource parameters
  let worldBoundary ← readWorldBoundary library parameters
  let takeoffAltitude ← readTakeoffAltitude parameters uavName
  let skipTakeoffInitDisarm ← parameters.getBool "skip_takeoff_init_disarm" false
  let planningPeriod ← readPlanningPeriod parameters
  let trackingBackend ← readTrackingBackend parameters
  let px4LocalLift ← readPx4LocalLift parameters
  let smc ← readSmcParams parameters
  let localTypeMask ← readLocalTypeMask parameters
  let enableYawControl ← parameters.getBool "enable_yaw_control" false
  let dfbc ← readDfbcParams parameters referenceSource
  let nmpc ← readNmpcParams parameters
  let safety ← readSafetyLimits parameters worldBoundary
  return {
    feedbackSource
    hoverThrust := { source := hoverThrustSource }
    takeoffAltitude
    skipTakeoffInitDisarm
    planningPeriod
    trackingBackend
    px4LocalLift
    localTypeMask
    smc
    enableYawControl
    dfbc := sanitizeDfbcParams dfbc
    nmpc := requireHoverThrust trackingBackend (sanitizeNmpcParams library nmpc)
    safety }

end Readers

open Procedure in
/-- The parameters of the predictive controller that the reader returns are those it has read,
sanitized. -/
theorem readControllerConfig_nmpc {library : ConfigLibrary} {parameters : ControllerParameters}
    {uavName : String} {config : ControllerConfig}
    (read : readControllerConfig library parameters uavName = .ok config) :
    ∃ backend nmpc, readNmpcParams parameters = .ok nmpc ∧
      config.nmpc = requireHoverThrust backend (sanitizeNmpcParams library nmpc) := by
  unfold readControllerConfig at read
  obtain ⟨feedbackSource, -, read⟩ := bind_eq_ok read
  obtain ⟨hoverThrustSource, -, read⟩ := bind_eq_ok read
  obtain ⟨referenceSource, -, read⟩ := bind_eq_ok read
  obtain ⟨worldBoundary, -, read⟩ := bind_eq_ok read
  obtain ⟨takeoffAltitude, -, read⟩ := bind_eq_ok read
  obtain ⟨skipTakeoffInitDisarm, -, read⟩ := bind_eq_ok read
  obtain ⟨planningPeriod, -, read⟩ := bind_eq_ok read
  obtain ⟨trackingBackend, -, read⟩ := bind_eq_ok read
  obtain ⟨px4LocalLift, -, read⟩ := bind_eq_ok read
  obtain ⟨smc, -, read⟩ := bind_eq_ok read
  obtain ⟨localTypeMask, -, read⟩ := bind_eq_ok read
  obtain ⟨enableYawControl, -, read⟩ := bind_eq_ok read
  obtain ⟨dfbc, -, read⟩ := bind_eq_ok read
  obtain ⟨nmpc, readNmpc, read⟩ := bind_eq_ok read
  obtain ⟨safety, -, read⟩ := bind_eq_ok read
  cases read
  exact ⟨trackingBackend, nmpc, readNmpc, rfl⟩

end ControllerConfig

end MultirotorController
