import MultirotorController.Uav.ActiveTrajectoryCache

/-!
# Messages of the reference generator

The generator has its own copies of the reference messages. They carry what the
controller reads and two header fields that pass through, the sequence number and
the frame id.
-/

namespace MultirotorController

open Trajectory

namespace Generator

structure AnalyticReference extends Reference.AnalyticReference where
  seq : UInt32 := 0
  frameId : String := ""
deriving DecidableEq, Repr

structure SampledReference extends Reference.SampledReference where
  seq : UInt32 := 0
  frameId : String := ""
deriving DecidableEq, Repr

structure ReferenceStatus where
  stamp : Time := {}
  state : UInt8 := 0
  flags : UInt32 := 0
  activeTrajectoryId : UInt32 := 0
  activeRevision : UInt32 := 0
  activeType : UInt8 := 0
deriving DecidableEq, Repr

def stateSelfCheck : UInt8 := 1
def stateReady : UInt8 := 2
def stateActive : UInt8 := 4

def typeNone : UInt8 := 0
def typeAnalytic : UInt8 := 1
def typeSampled : UInt8 := 3

structure ReferenceTrajectoryConfig where
  statusRateHz : Double := 10
  activePublishRateHz : Double := 10
  validationSampleDt : Double := 0.02
  trajectoryTimeout : Double := 0.5
  minLeadTime : Double := 0.2
  limits : TrajectoryLimits3 := {}
deriving DecidableEq, Repr

/-- The configuration as the runtime stores it: a value out of range is replaced. -/
def ReferenceTrajectoryConfig.sanitized (config : ReferenceTrajectoryConfig) :
    ReferenceTrajectoryConfig :=
  { config with
    statusRateHz :=
      if ¬ config.statusRateHz.isFinite ∨ config.statusRateHz ≤ 0 then 10
      else config.statusRateHz
    activePublishRateHz :=
      if ¬ config.activePublishRateHz.isFinite ∨ config.activePublishRateHz ≤ 0 then 10
      else config.activePublishRateHz
    validationSampleDt :=
      if ¬ config.validationSampleDt.isFinite ∨ config.validationSampleDt ≤ 0 then 0.02
      else config.validationSampleDt
    trajectoryTimeout :=
      if ¬ config.trajectoryTimeout.isFinite ∨ config.trajectoryTimeout < 0 then 0.5
      else config.trajectoryTimeout
    minLeadTime :=
      if ¬ config.minLeadTime.isFinite ∨ config.minLeadTime < 0 then 0.2
      else config.minLeadTime }

end Generator

end MultirotorController
