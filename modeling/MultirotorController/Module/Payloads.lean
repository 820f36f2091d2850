import MultirotorController.Control.Xgc2Math

/-!
# Payloads of the sensor ports

The fields of the fixed-size payloads that the module reads. A character array is
the list of its characters, the terminator included; reserved fields and the
message stamps that no modelled function reads are left out.
-/

namespace MultirotorController

open Trajectory

namespace Module

/-- `xgc2.px4.state_estimate.v1` -/
structure StateEstimatePayload where
  stampSec : UInt32 := 0
  stampNsec : UInt32 := 0
  position : Vec3 := {}
  velocity : Vec3 := {}
  orientation : Quaternion := {}
  angularVelocity : Vec3 := {}
  linearAcceleration : Vec3 := {}
  gravity : Vec3 := {}
  accelBias : Vec3 := {}
  filterInertialStampSec : Double := 0
  filterPoseStampSec : Double := 0
  lastVrpnPoseStampSec : Double := 0
  flags : UInt32 := 0
  estimatorState : UInt8 := 0
deriving DecidableEq, Repr

/-- `xgc2.px4.pose.v1` -/
structure PosePayload where
  position : Vec3 := {}
  orientation : Quaternion := {}
deriving DecidableEq, Repr

/-- `xgc2.px4.velocity.v1` -/
structure VelocityPayload where
  linear : Vec3 := {}
deriving DecidableEq, Repr

/-- `xgc2.px4.fcu_state.v1` -/
structure FcuStatePayload where
  connected : UInt8 := 0
  armed : UInt8 := 0
  guided : UInt8 := 0
  manualInput : UInt8 := 0
  systemStatus : UInt8 := 0
  mode : List Char := []
deriving DecidableEq, Repr

/-- `xgc2.px4.battery.v1` -/
structure BatteryPayload where
  percentage : Double := 0
deriving DecidableEq, Repr

/-- The text of a character array: up to its terminator, or all of it. -/
def boundedString (text : List Char) (capacity : Nat) : String :=
  .ofList ((text.take capacity).takeWhile (· ≠ '\x00'))

def modeCapacity : Nat := 32

end Module

end MultirotorController
