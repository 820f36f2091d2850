import MultirotorController.Common.SensorChecks
import MultirotorController.Control.TrajectoryLifter
import MultirotorController.Uav.ActiveTrajectoryCache

/-!
# Tracking strategies of Custom1

The geometric attitude-rate law, the sliding-mode acceleration law and the
combined PVA law. A strategy checks its inputs, calls the law and limits the
result. The throttled log at the end of an update subtracts two times, so an
update that has already produced its result may still throw; `updated` keeps the
strategy as it is at that point.
-/

namespace MultirotorController

open Control

inductive OutputKind where
  | attitudeRate
  | localSetpoint
deriving DecidableEq, Repr

structure TrackingStrategyInput where
  sensor : SensorData
  reference : UavReferencePoint
  now : Time
  stamp : Time := {}
  typeMask : UInt16 := 0
deriving DecidableEq, Repr

structure TrackingStrategyResult where
  success : Bool := false
  message : String := ""
  outputKind : OutputKind := .attitudeRate
  attitudeRateTarget : AttitudeRateTarget := {}
  localSetpoint : Setpoint := {}
deriving DecidableEq, Repr

/-- The failure result of a strategy, with its reason. -/
def TrackingStrategyResult.failed (message : String) : TrackingStrategyResult := { message }

/-- Whether the throttled log of a strategy is due; the subtraction may throw. -/
def timingLogDue (config : ControllerConfig) (lastLogTime now : Time) :
    Except RuntimeError Bool := do
  if !config.nmpc.enableTimingLog then return false
  if lastLogTime.isZero then return true
  return decide (config.dfbc.logPeriod ≤ (← now.sub lastLogTime).toSec)

section Feedback

variable [Libm]

/-- The measured state of the fused backends, unless it is unusable or not finite. -/
def readControlFeedback (sensor : SensorData) (backend : TrackingBackend) : Option Se3State :=
  let qx := SensorChecks.worldQx sensor backend
  let qy := SensorChecks.worldQy sensor backend
  let qz := SensorChecks.worldQz sensor backend
  let qw := SensorChecks.worldQw sensor backend
  let norm := Libm.sqrt (qx * qx + qy * qy + qz * qz + qw * qw)
  let state : Se3State := {
    position := ⟨SensorChecks.worldX sensor backend, SensorChecks.worldY sensor backend,
      SensorChecks.worldZ sensor backend⟩
    velocity := ⟨SensorChecks.worldVx sensor backend, SensorChecks.worldVy sensor backend,
      SensorChecks.worldVz sensor backend⟩
    attitude := ⟨qx / norm, qy / norm, qz / norm, qw / norm⟩
    bodyRate :=
      if sensor.feedbackSource = .mavrosLocal then sensor.mavrosBodyRate
      else ⟨sensor.wx, sensor.wy, sensor.wz⟩ }
  if !SensorChecks.isControlStateUsableForControl sensor then none
  else if !norm.isFinite || decide (norm < 1.0e-9) then none
  else if state.position.allFinite && state.velocity.allFinite && state.bodyRate.allFinite then
    some state
  else none

def clampScalar (value minValue maxValue : Double) : Double :=
  Double.max minValue (Double.min value maxValue)

end Feedback

structure DfbcAttitudeRateStrategy [Xgc2Math] where
  config : ControllerConfig := {}
  controller : Xgc2Math.DfbcGeometricController := Xgc2Math.dfbcController
  entered : Bool := false
  lastLogTime : Time := {}

namespace DfbcAttitudeRateStrategy

variable [Libm] [Xgc2Math]

def geometricConfig (config : ControllerConfig) : DfbcGeometricConfig :=
  { positionNaturalFrequency := config.dfbc.positionNaturalFrequency
    positionDampingRatio := config.dfbc.positionDampingRatio
    tiltGain := config.dfbc.tiltGain
    tiltRateDamping := config.dfbc.tiltRateDamping
    yawGain := config.dfbc.yawGain
    yawRateDamping := config.dfbc.yawRateDamping
    gravity := config.nmpc.gravity
    minSpecificThrust := 0.1
    useBodyRateFeedforward := config.dfbc.useBodyRateFeedforward
    enableYawControl := config.enableYawControl
    accelerationCorrectionEnabled := config.dfbc.accelerationCorrectionEnabled
    accelerationCorrectionGain := config.dfbc.accelerationCorrectionGain
    accelerationCorrectionLimit := config.dfbc.accelerationCorrectionLimit
    accelerationCorrectionFilterTau := config.dfbc.accelerationCorrectionFilterTau }

variable (strategy : DfbcAttitudeRateStrategy)

def configure (config : ControllerConfig) : DfbcAttitudeRateStrategy :=
  { strategy with
    config
    controller := Xgc2Math.dfbcConfigure strategy.controller (geometricConfig config) }

def hoverThrustReady (sensor : SensorData) (now : Time) : Bool :=
  let params := strategy.config.nmpc
  let age := now.toSec - sensor.hoverThrustEstimateStamp
  params.hoverThrustEnabled && sensor.hoverThrustEstimateAvailable &&
    sensor.hoverThrustEstimate.isFinite &&
    !decide (sensor.hoverThrustEstimate < params.minHoverThrust) &&
    !decide (params.maxHoverThrust < sensor.hoverThrustEstimate) &&
    sensor.hoverThrustEstimateStamp.isFinite &&
    age.isFinite && decide (-0.05 ≤ age) && decide (age ≤ params.hoverThrustTimeout)

/-- False while the hover thrust estimate is missing; then nothing changes. -/
def enter (sensor : SensorData) (now : Time) : DfbcAttitudeRateStrategy × Bool :=
  if !strategy.hoverThrustReady sensor now then (strategy, false)
  else
    ({ strategy with
       entered := true
       lastLogTime := {}
       controller := Xgc2Math.dfbcReset strategy.controller }, true)

def exit : DfbcAttitudeRateStrategy :=
  { strategy with entered := false, controller := Xgc2Math.dfbcReset strategy.controller }

def period : Double := strategy.config.nmpc.controlPeriod

def measuredAcceleration (sensor : SensorData) (now : Time) : Option Vec3 :=
  let mavros := sensor.feedbackSource = .mavrosLocal
  let stamp := if mavros then sensor.mavrosImuStamp else sensor.uavStateEstimateStamp
  let age := now.toSec - stamp
  let acceleration :=
    if mavros then sensor.mavrosWorldAcceleration else ⟨sensor.ax, sensor.ay, sensor.az⟩
  if !strategy.config.dfbc.accelerationCorrectionEnabled then none
  else if !stamp.isFinite then none
  else if !age.isFinite || decide (age < -0.05) ||
      decide (strategy.config.dfbc.accelerationMeasurementTimeout < age) then none
  else if mavros ∧ !sensor.mavrosInertialValid then none
  else if acceleration.allFinite then some acceleration
  else none

def flatReference (reference : UavReferencePoint) : Trajectory.FlatOutput3 :=
  { position := reference.position
    velocity := reference.velocity
    acceleration := reference.acceleration
    jerk := reference.jerk
    snap := reference.snap
    yaw := reference.yaw
    yawRate := reference.yawRate
    yawAccel := reference.yawAccel
    flags := reference.flags }

/-- Zero when the hover thrust or the gravity cannot be used. -/
def mapSpecificThrustToNormalized (specificThrust hoverThrust : Double) : Double :=
  let params := strategy.config.nmpc
  if !specificThrust.isFinite || decide (params.gravity ≤ 1.0e-6) || !hoverThrust.isFinite ||
      decide (hoverThrust < params.minHoverThrust) ||
      decide (params.maxHoverThrust < hoverThrust) then 0
  else
    clampScalar (hoverThrust * (specificThrust / params.gravity)) params.normalizedThrustMin
      params.normalizedThrustMax

def clampBodyRate (bodyRate : Vec3) : Vec3 :=
  let rpLimit := Double.max 0 strategy.config.nmpc.maxRollPitchBodyRate
  let yawLimit := Double.max 0 strategy.config.nmpc.maxYawBodyRate
  { x := clampScalar bodyRate.x (-rpLimit) rpLimit
    y := clampScalar bodyRate.y (-rpLimit) rpLimit
    z := clampScalar bodyRate.z (-yawLimit) yawLimit }

/-- The strategy after the update, and its result unless the log throws. -/
def update (input : TrackingStrategyInput) :
    DfbcAttitudeRateStrategy × Except RuntimeError TrackingStrategyResult :=
  if !strategy.entered then (strategy, .ok (.failed "DFBC strategy not entered"))
  else if !strategy.hoverThrustReady input.sensor input.now then
    (strategy, .ok (.failed "hover thrust estimate unavailable"))
  else
    match readControlFeedback input.sensor .dfbc with
    | none => (strategy, .ok (.failed "feedback state unavailable"))
    | some current =>
        let (controller, output) := Xgc2Math.dfbcCompute strategy.controller {
          current
          reference := flatReference input.reference
          dt := strategy.period
          measuredAcceleration := strategy.measuredAcceleration input.sensor input.now }
        let updated := { strategy with controller }
        let bodyRate := strategy.clampBodyRate output.bodyRateCommand
        let thrust := strategy.mapSpecificThrustToNormalized output.specificThrust
          input.sensor.hoverThrustEstimate
        if !output.success then (updated, .ok (.failed "DFBC compute failed"))
        else if !thrust.isFinite || decide (thrust ≤ 0) then
          (updated, .ok (.failed "normalized thrust unavailable"))
        else
          let result : TrackingStrategyResult := {
            success := true
            attitudeRateTarget := {
              bodyRateX := bodyRate.x
              bodyRateY := bodyRate.y
              bodyRateZ := if strategy.config.enableYawControl then bodyRate.z else 0
              thrust } }
          match timingLogDue strategy.config strategy.lastLogTime input.now with
          | .error error => (updated, .error error)
          | .ok due =>
              (if due then { updated with lastLogTime := input.now } else updated, .ok result)

end DfbcAttitudeRateStrategy

structure SmcAccelerationStrategy where
  config : ControllerConfig := {}
  entered : Bool := false
  lastLogTime : Time := {}
deriving DecidableEq, Repr

namespace SmcAccelerationStrategy

variable (strategy : SmcAccelerationStrategy)

def configure (config : ControllerConfig) : SmcAccelerationStrategy := { strategy with config }

def enter (sensor : SensorData) : SmcAccelerationStrategy × Bool :=
  if !SensorChecks.arePassThroughSensorsActive sensor then (strategy, false)
  else ({ strategy with entered := true, lastLogTime := {} }, true)

def exit : SmcAccelerationStrategy := { strategy with entered := false }

def measuredMotion (sensor : SensorData) : Option (Vec3 × Vec3) :=
  let position : Vec3 := ⟨sensor.localX, sensor.localY, sensor.localZ⟩
  let velocity : Vec3 := ⟨sensor.localVx, sensor.localVy, sensor.localVz⟩
  if !SensorChecks.arePassThroughSensorsActive sensor then none
  else if position.allFinite && velocity.allFinite then some (position, velocity)
  else none

variable [Xgc2Math]

def update (input : TrackingStrategyInput) :
    SmcAccelerationStrategy × Except RuntimeError TrackingStrategyResult :=
  if !strategy.entered then (strategy, .ok (.failed "SMC strategy not entered"))
  else
    match measuredMotion input.sensor with
    | none =>
        (strategy, .ok (.failed "MAVROS local position or velocity unavailable"))
    | some (position, velocity) =>
        if !input.reference.position.allFinite || !input.reference.velocity.allFinite ||
            !input.reference.acceleration.allFinite then
          (strategy, .ok (.failed "reference PVA is not finite"))
        else
          let smc := Xgc2Math.computeSmcTracking
            ⟨strategy.config.smc.k1, strategy.config.smc.k2, strategy.config.smc.boundaryLayer⟩
            position velocity input.reference.position input.reference.velocity
            input.reference.acceleration
          if !smc.success then (strategy, .ok (.failed "SMC compute failed"))
          else
            let result : TrackingStrategyResult := {
              success := true
              outputKind := .localSetpoint
              localSetpoint := {
                ax := smc.acceleration.x
                ay := smc.acceleration.y
                az := smc.acceleration.z
                typeMask := kSmcAccelerationTypeMask
                coordinateFrame := 1 } }
            match timingLogDue strategy.config strategy.lastLogTime input.now with
            | .error error => (strategy, .error error)
            | .ok due =>
                (if due then { strategy with lastLogTime := input.now } else strategy, .ok result)

/-- A sliding-mode command is always in the world frame. -/
theorem update_frame {input : TrackingStrategyInput} {result : TrackingStrategyResult}
    (updated : (strategy.update input).2 = .ok result) :
    result.localSetpoint.coordinateFrame = 1 := by
  dsimp only [update] at updated
  repeat' split at updated
  all_goals cases updated <;> rfl

/-- A successful one commands an acceleration and nothing else. -/
theorem update_typeMask {input : TrackingStrategyInput} {result : TrackingStrategyResult}
    (updated : (strategy.update input).2 = .ok result) (success : result.success = true) :
    result.localSetpoint.typeMask = kSmcAccelerationTypeMask := by
  dsimp only [update] at updated
  repeat' split at updated
  all_goals cases updated <;> first | rfl | cases success

end SmcAccelerationStrategy

section PvaSmc

variable [Libm] [Xgc2Math]

/-- One axis of the feedback law, applied to the lifted feedforward. -/
def pvaSmcFeedback (config : ControllerConfig) (positionError velocityError : Double) : Double :=
  let slide := velocityError + Xgc2Math.signBeta
    (Xgc2Math.signBeta velocityError 2.0 + config.smc.k2 * Libm.atan positionError) 0.5
  let saturation :=
    if config.smc.boundaryLayer < slide.abs then Xgc2Math.sign slide
    else slide / config.smc.boundaryLayer
  config.smc.k1.neg * saturation

def pvaSmcSetpoint (reference : Setpoint) (measured : LocalPv) (config : ControllerConfig) :
    Setpoint :=
  { reference with
    ax := reference.ax + pvaSmcFeedback config (measured.position.x - reference.x)
      (measured.velocity.x - reference.vx)
    ay := reference.ay + pvaSmcFeedback config (measured.position.y - reference.y)
      (measured.velocity.y - reference.vy)
    az := reference.az + pvaSmcFeedback config (measured.position.z - reference.z)
      (measured.velocity.z - reference.vz)
    coordinateFrame := 1
    typeMask :=
      if config.enableYawControl then kDefaultPvaLocalTypeMask &&& ~~~kIgnoreYawBit
      else kDefaultPvaLocalTypeMask }

end PvaSmc

end MultirotorController
