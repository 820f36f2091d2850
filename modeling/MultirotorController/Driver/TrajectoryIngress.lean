import MultirotorController.Uav.DroneController

/-!
# Planner setpoint and hover thrust ingress

Decides whether and how a sample from outside is used, before it reaches the
buffer or the snapshot.
-/

namespace MultirotorController

inductive PlannerSetpointResult where
  /-- The tracking backend takes no planner setpoint. -/
  | kNotUsed
  | kRejectedEffectiveTime
  | kRejectedSmcFrame
  | kCached
deriving DecidableEq, Repr

/-- DFBC takes planner setpoints only when it is configured to follow them. -/
def usesPlannerSetpoint (config : ControllerConfig) : Bool :=
  config.trackingBackend = .px4Local ∨ config.trackingBackend = .smc ∨
    config.trackingBackend = .pvaSmc ∨
    config.trackingBackend = .dfbc ∧ config.dfbc.referenceSource = .plannerSetpoint

def ingestPlannerSetpoint [Libm] (controller : DroneController)
    (ingress : PositionTargetIngress) : DroneController × PlannerSetpointResult :=
  let config := controller.config
  let trajectory := ingestPositionTarget ingress config.trackingBackend config.px4LocalLift
  if !usesPlannerSetpoint config then (controller, .kNotUsed)
  else if usesStageEffectiveTime config.trackingBackend config.px4LocalLift &&
      !trajectory.isValid then
    (controller,
      if config.trackingBackend = .smc ∧
          !smcWorldPvaAvailable ingress.typeMask ingress.coordinateFrame then .kRejectedSmcFrame
      else .kRejectedEffectiveTime)
  else
    ({ controller with
       mpcTrajectoryBuffer := cacheTrajectorySample controller.mpcTrajectoryBuffer trajectory
         ingress.receiptTime config }, .kCached)

/-- An estimate outside `(0, 1)` only withdraws the stored one. A zero stamp is replaced
by the time of receipt. -/
def ingestHoverThrust (sensor : SensorData) (hoverThrust : Double) (flags : UInt32)
    (stampSec receiptSec : Double) : SensorData × Bool :=
  if !hoverThrust.isFinite || decide (hoverThrust ≤ 0) || decide (1 ≤ hoverThrust) then
    ({ sensor with
       hoverThrustEstimateAvailable := false
       hoverThrustEstimateFlags := flags }, false)
  else
    ({ sensor with
       hoverThrustEstimate := hoverThrust
       hoverThrustEstimateStamp := if stampSec ≠ 0 then stampSec else receiptSec
       hoverThrustEstimateAvailable := true
       hoverThrustEstimateFlags := flags }, true)

section Ingress

variable [Libm] (controller : DroneController) (ingress : PositionTargetIngress)

/-- A sample that is not cached leaves the controller as it was. -/
theorem ingestPlannerSetpoint_of_not_cached
    (refused : (ingestPlannerSetpoint controller ingress).2 ≠ .kCached) :
    (ingestPlannerSetpoint controller ingress).1 = controller := by
  dsimp only [ingestPlannerSetpoint] at refused ⊢
  split
  · rfl
  · split
    · rfl
    · simp_all

/-- An ingress writes nothing but the buffer. -/
theorem ingestPlannerSetpoint_frame :
    (ingestPlannerSetpoint controller ingress).1 =
      { controller with
        mpcTrajectoryBuffer :=
          (ingestPlannerSetpoint controller ingress).1.mpcTrajectoryBuffer } := by
  dsimp only [ingestPlannerSetpoint]
  repeat' split
  all_goals rfl

end Ingress

end MultirotorController
