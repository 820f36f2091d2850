import MultirotorController.Common.Types
import MultirotorController.Lib.Libm

/-!
# Trajectory buffer and world-frame lift

The planner's samples go through one pending and one active slot. The lift
extrapolates the active sample to the present time, subject to its type mask.
Subtracting two clock values can leave the 32-bit range, so every function that
does so may throw.
-/

namespace MultirotorController

structure MpcTrajectoryBuffer where
  active : MpcTrajectoryState := {}
  pending : MpcTrajectoryState := {}
deriving DecidableEq, Repr, Inhabited

namespace MpcTrajectoryBuffer

def hasPending (buffer : MpcTrajectoryBuffer) : Bool := buffer.pending.isValid

/-- The stored sample is marked valid whatever the argument says. -/
def cachePending (buffer : MpcTrajectoryBuffer) (trajectory : MpcTrajectoryState) :
    MpcTrajectoryBuffer :=
  { buffer with pending := { trajectory with isValid := true, newDataReceived := false } }

def promotePending (buffer : MpcTrajectoryBuffer) (activationTime : Time) :
    MpcTrajectoryBuffer × Bool :=
  if !buffer.pending.isValid then (buffer, false)
  else
    ({ active := { buffer.pending with planningTime := activationTime, newDataReceived := false }
       pending := {} }, true)

end MpcTrajectoryBuffer

def positionTargetIgnored (mask bit : UInt16) : Bool := mask &&& bit != 0

/-- Yaw turned into a rotation about the vertical axis, `Eigen::AngleAxisd`. -/
def yawToQuaternion [Libm] (yaw : Double) : Double × Double × Double × Double :=
  let s := Libm.sin (0.5 * yaw)
  (s * 0, s * 0, s * 1, Libm.cos (0.5 * yaw))

def quaternionToYaw [Libm] (qx qy qz qw : Double) : Double :=
  Libm.atan2 (2 * (qw * qz + qx * qy)) (1 - 2 * (qy * qy + qz * qz))

/-- The effective mask of a lift: the sample's own, or the default for a zero one. -/
def liftMask (sample : MpcTrajectoryState) (defaultMask : UInt16) (enableYaw : Bool) : UInt16 :=
  let mask := if sample.typeMask != 0 then sample.typeMask else defaultMask
  if !enableYaw then mask ||| (kIgnoreYawBit ||| kIgnoreYawRateBit)
  else mask &&& ~~~kIgnoreYawBit

/-- Ignored derivatives do not contribute to active fields. -/
def liftWorldLocal (sample : MpcTrajectoryState) (now : Time) (defaultMask : UInt16)
    (enableYaw : Bool) : Except RuntimeError Setpoint := do
  if !sample.isValid then return {}
  let mask := liftMask sample defaultMask enableYaw
  let mut tau : Double := 0
  if !sample.planningTime.isZero && !now.isZero then
    tau := (← now.sub sample.planningTime).toSec
  if tau < 0 then tau := 0
  let unlessIgnored := fun (bit : UInt16) (value : Double) =>
    if positionTargetIgnored mask bit then 0 else value
  let vx := unlessIgnored kIgnoreVxBit sample.velocityK.x
  let vy := unlessIgnored kIgnoreVyBit sample.velocityK.y
  let vz := unlessIgnored kIgnoreVzBit sample.velocityK.z
  let ax := unlessIgnored kIgnoreAfxBit sample.accelerationK.x
  let ay := unlessIgnored kIgnoreAfyBit sample.accelerationK.y
  let az := unlessIgnored kIgnoreAfzBit sample.accelerationK.z
  return {
    x := unlessIgnored kIgnorePxBit (sample.positionK.x + vx * tau + 0.5 * ax * tau * tau)
    y := unlessIgnored kIgnorePyBit (sample.positionK.y + vy * tau + 0.5 * ay * tau * tau)
    z := unlessIgnored kIgnorePzBit (sample.positionK.z + vz * tau + 0.5 * az * tau * tau)
    vx := unlessIgnored kIgnoreVxBit (vx + ax * tau)
    vy := unlessIgnored kIgnoreVyBit (vy + ay * tau)
    vz := unlessIgnored kIgnoreVzBit (vz + az * tau)
    ax := unlessIgnored kIgnoreAfxBit ax
    ay := unlessIgnored kIgnoreAfyBit ay
    az := unlessIgnored kIgnoreAfzBit az
    qx := sample.qx
    qy := sample.qy
    qz := sample.qz
    qw := sample.qw
    yawRate := sample.yawRate
    typeMask := mask
    coordinateFrame := if sample.coordinateFrame == 0 then 1 else sample.coordinateFrame }

def passThroughReferenceReady (sample : MpcTrajectoryState) : Bool :=
  if !sample.isValid then false
  else sample.positionK.allFinite && sample.velocityK.allFinite && sample.accelerationK.allFinite

/-- Ignored position axes are not part of the check. -/
def passThroughPlanMatchesHover (sample : MpcTrajectoryState)
    (hoverX hoverY hoverZ xyTol zTol : Double) : Bool :=
  if !sample.isValid then false
  else
    let useX := !positionTargetIgnored sample.typeMask kIgnorePxBit
    let useY := !positionTargetIgnored sample.typeMask kIgnorePyBit
    let useZ := !positionTargetIgnored sample.typeMask kIgnorePzBit
    let dx := sample.positionK.x - hoverX
    let dy := sample.positionK.y - hoverY
    let dz := sample.positionK.z - hoverZ
    let xyOff :=
      if useX && useY then decide (xyTol * xyTol < dx * dx + dy * dy)
      else useX && decide (xyTol < dx.abs) || useY && decide (xyTol < dy.abs)
    !xyOff && !(useZ && decide (zTol < dz.abs))

/-- After takeover the plan may recede from the hover pose. -/
def passThroughMayTakeSetpoint (sample : MpcTrajectoryState)
    (hoverX hoverY hoverZ xyTol zTol : Double) (trackingArmed : Bool) : Bool :=
  if !passThroughReferenceReady sample then false
  else if trackingArmed then true
  else passThroughPlanMatchesHover sample hoverX hoverY hoverZ xyTol zTol

/-- Frame 0 is not an alias of 1 on the geometric tracking paths. -/
def smcCoordinateFrameIsWorld (coordinateFrame : UInt8) : Bool := coordinateFrame == 1

def smcMaskSuppliesWorldPva (typeMask : UInt16) : Bool :=
  let pvaIgnoreBits := kIgnorePxBit ||| kIgnorePyBit ||| kIgnorePzBit ||| kIgnoreVxBit |||
    kIgnoreVyBit ||| kIgnoreVzBit ||| kIgnoreAfxBit ||| kIgnoreAfyBit ||| kIgnoreAfzBit
  typeMask &&& kForceBit == 0 && typeMask &&& pvaIgnoreBits == 0

def smcWorldPvaAvailable (typeMask : UInt16) (coordinateFrame : UInt8) : Bool :=
  smcCoordinateFrameIsWorld coordinateFrame && smcMaskSuppliesWorldPva typeMask

def usesStageEffectiveTime (backend : TrackingBackend) (liftMode : Px4LocalLiftMode) : Bool :=
  backend == .smc || backend == .dfbc ||
    (backend == .px4Local || backend == .pvaSmc) && liftMode == .zeroOrderHold

structure PositionTargetIngress where
  position : Vec3 := {}
  velocity : Vec3 := {}
  acceleration : Vec3 := {}
  yaw : Double := 0
  yawRate : Double := 0
  typeMask : UInt16 := 0
  coordinateFrame : UInt8 := 1
  headerStamp : Time := {}
  receiptTime : Time := {}
deriving DecidableEq, Repr

def ingestPositionTarget [Libm] (input : PositionTargetIngress) (backend : TrackingBackend)
    (liftMode : Px4LocalLiftMode) : MpcTrajectoryState :=
  let (qx, qy, qz, qw) := yawToQuaternion input.yaw
  let geometric := backend == .smc || backend == .dfbc
  let traj : MpcTrajectoryState := {
    positionK := input.position
    velocityK := input.velocity
    accelerationK := input.acceleration
    qx, qy, qz, qw
    yawRate := input.yawRate
    typeMask := input.typeMask
    -- PX4_LOCAL keeps its historical frame-0 alias; geometric tracking requires frame 1.
    coordinateFrame :=
      if geometric || input.coordinateFrame != 0 then input.coordinateFrame else 1
    newDataReceived := false }
  if usesStageEffectiveTime backend liftMode then
    let finite := input.position.allFinite && input.velocity.allFinite &&
      input.acceleration.allFinite && input.yaw.isFinite && input.yawRate.isFinite
    let valid := finite && !input.headerStamp.isZero
    { traj with
      planningTime := input.headerStamp
      isValid :=
        if geometric then valid && smcWorldPvaAvailable input.typeMask input.coordinateFrame
        else valid }
  else
    { traj with planningTime := input.receiptTime, isValid := true }

/-- Legacy promotes on arrival; the stage time waits until the header. -/
def promoteTrajectorySample (buffer : MpcTrajectoryBuffer) (now : Time)
    (backend : TrackingBackend) (liftMode : Px4LocalLiftMode) : MpcTrajectoryBuffer × Bool :=
  let pending := buffer.pending
  if !buffer.hasPending then (buffer, false)
  else if usesStageEffectiveTime backend liftMode &&
      (!pending.isValid || pending.planningTime.isZero || decide (now < pending.planningTime)) then
    (buffer, false)
  else buffer.promotePending pending.planningTime

/-- The due segment is promoted before the pending slot takes a future one. -/
def cacheTrajectorySample (buffer : MpcTrajectoryBuffer) (sample : MpcTrajectoryState)
    (receipt : Time) (config : ControllerConfig) : MpcTrajectoryBuffer :=
  let buffer :=
    if usesStageEffectiveTime config.trackingBackend config.px4LocalLift then
      (promoteTrajectorySample buffer receipt config.trackingBackend config.px4LocalLift).1
    else buffer
  buffer.cachePending sample

structure EffectiveSegmentLift where
  success : Bool := false
  setpoint : Setpoint := {}
deriving DecidableEq, Repr

def segmentPeriodNs (planningPeriod : Double) : Int64 :=
  if !planningPeriod.isFinite || decide (planningPeriod ≤ 0) then -1
  else Int64.ofInt (planningPeriod * 1000000000).roundInt

/-- True on `[header, header + planningPeriod]`. -/
def stageWindowOpen (sample : MpcTrajectoryState) (now : Time) (planningPeriod : Double) :
    Except RuntimeError Bool := do
  if !passThroughReferenceReady sample || sample.planningTime.isZero || now.isZero ||
      decide (now < sample.planningTime) then
    return false
  let periodNs := segmentPeriodNs planningPeriod
  let tauNs := (← now.sub sample.planningTime).toNSec
  return decide (0 ≤ periodNs) && decide (0 ≤ tauNs) && decide (tauNs ≤ periodNs)

/-- Legacy PX4_LOCAL has no window. Zero-order hold outputs the stage sample itself. -/
def liftForBackend (sample : MpcTrajectoryState) (now : Time) (planningPeriod : Double)
    (defaultMask : UInt16) (enableYaw : Bool) (backend : TrackingBackend)
    (px4LocalLift : Px4LocalLiftMode) : Except RuntimeError EffectiveSegmentLift := do
  if backend == .smc || backend == .dfbc then
    if !(← stageWindowOpen sample now planningPeriod) ||
        !smcWorldPvaAvailable sample.typeMask sample.coordinateFrame then
      return {}
    -- A wire mask of 0 stays 0 here; the default mask is not used.
    let setpoint ← liftWorldLocal sample now 0 (backend == .dfbc && enableYaw)
    return { success := true, setpoint }
  else if px4LocalLift == .zeroOrderHold then
    if !(← stageWindowOpen sample now planningPeriod) then return {}
    let setpoint ← liftWorldLocal sample sample.planningTime defaultMask enableYaw
    return { success := true, setpoint }
  else if !sample.isValid then return {}
  else
    let setpoint ← liftWorldLocal sample now defaultMask enableYaw
    return { success := true, setpoint }

end MultirotorController
