import MultirotorController.Common.Types
import MultirotorController.Lib.Libm

/-!
# The mathematics library behind references and tracking laws

Curves, their validation, the flatness map and the geometric and sliding-mode
laws live in a package of their own. The model keeps the data that crosses the
boundary and takes the computations as parameters, without any assumption about
them: a curve is its parameters, and evaluating it is a function of these.
-/

namespace MultirotorController

structure Quaternion where
  x : Double := 0
  y : Double := 0
  z : Double := 0
  w : Double := 0
deriving DecidableEq, Repr, Inhabited

namespace Trajectory

/-- Flat output of a curve at one parameter. -/
structure FlatOutput3 where
  position : Vec3 := {}
  velocity : Vec3 := {}
  acceleration : Vec3 := {}
  jerk : Vec3 := {}
  snap : Vec3 := {}
  yaw : Double := 0
  yawRate : Double := 0
  yawAccel : Double := 0
  flags : UInt32 := 0
deriving DecidableEq, Repr, Inhabited

structure SampledPoint3 where
  t : Double
  flat : FlatOutput3
deriving DecidableEq, Repr

structure FullStateReference3 where
  position : Vec3 := {}
  velocity : Vec3 := {}
  attitude : Quaternion := {}
  bodyRate : Vec3 := {}
  specificThrust : Double := 0
  angularAcceleration : Vec3 := {}
  flags : UInt32 := 0
deriving DecidableEq, Repr, Inhabited

structure HoldCurveParameters3 where
  flags : UInt32
  duration : Double
  position : Vec3
  yaw : Double
deriving DecidableEq, Repr

structure CircleCurveParameters3 where
  flags : UInt32
  duration : Double
  centerX : Double
  centerY : Double
  radius : Double
  lineSpeed : Double
  height : Double
  zAmplitude : Double
  zFrequency : Double
deriving DecidableEq, Repr

structure FigureEightCurveParameters3 where
  flags : UInt32
  duration : Double
  origin : Vec3
  radius : Double
  lineSpeed : Double
  height : Double
deriving DecidableEq, Repr

structure LineCurveParameters3 where
  flags : UInt32
  duration : Double
  start : Vec3
  target : Vec3
  targetVelocity : Vec3
  startVelocity : Vec3
deriving DecidableEq, Repr

structure LemniscateCurveParameters3 where
  flags : UInt32
  duration : Double
  origin : Vec3
  radius : Double
  omega : Double
  height : Double
deriving DecidableEq, Repr

/-- Both helices have the same parameters. -/
structure HelixCurveParameters3 where
  flags : UInt32
  duration : Double
  origin : Vec3
  radius : Double
  omega : Double
  linearScale : Double
deriving DecidableEq, Repr

structure TorusKnotCurveParameters3 where
  flags : UInt32
  duration : Double
  origin : Vec3
  omega : Double
  scale : Double
  yaw : Double
deriving DecidableEq, Repr

structure TorusKnotEntryCurveParameters3 where
  flags : UInt32
  duration : Double
  start : Vec3
  originYaw : Double
  entryDuration : Double
  torus : TorusKnotCurveParameters3
deriving DecidableEq, Repr

structure CircleEntryCurveParameters3 where
  flags : UInt32
  duration : Double
  origin : Vec3
  originYaw : Double
  entryDuration : Double
  circle : CircleCurveParameters3
deriving DecidableEq, Repr

/-- An evaluator: the class of the curve and its parameters. -/
inductive Curve where
  | hold (params : HoldCurveParameters3)
  | circle (params : CircleCurveParameters3)
  | circleEntry (params : CircleEntryCurveParameters3)
  | figureEight (params : FigureEightCurveParameters3)
  | line (params : LineCurveParameters3)
  | lemniscate (params : LemniscateCurveParameters3)
  | helixYz (params : HelixCurveParameters3)
  | helixXy (params : HelixCurveParameters3)
  | torusKnot (params : TorusKnotCurveParameters3)
  | torusKnotEntry (params : TorusKnotEntryCurveParameters3)
  | sampled (samples : List SampledPoint3)
deriving DecidableEq, Repr

/-- The parameter values a freshly constructed parameter record starts from. -/
structure CurveDefaults where
  hold : HoldCurveParameters3
  circle : CircleCurveParameters3
  circleEntry : CircleEntryCurveParameters3
  figureEight : FigureEightCurveParameters3
  line : LineCurveParameters3
  lemniscate : LemniscateCurveParameters3
  helixYz : HelixCurveParameters3
  helixXy : HelixCurveParameters3
  torusKnot : TorusKnotCurveParameters3
  torusKnotEntry : TorusKnotEntryCurveParameters3

/-- Limits a reference is validated against; zero disables a limit. -/
structure TrajectoryLimits3 where
  maxVelocity : Double := 0
  maxAcceleration : Double := 0
  maxJerk : Double := 0
  maxSnap : Double := 0
  minSpecificThrust : Double := 0
deriving DecidableEq, Repr

/-- Flag values of the library. -/
structure ReferenceFlags where
  invalidInput : UInt32
  nonFinite : UInt32
  lowThrust : UInt32
  yawSingularity : UInt32

end Trajectory

namespace Control

structure Se3State where
  position : Vec3 := {}
  velocity : Vec3 := {}
  attitude : Quaternion := {}
  bodyRate : Vec3 := {}
deriving DecidableEq, Repr

structure Se3Reference where
  state : Se3State := {}
  bodyZSpecificForce : Double := 0
  angularAcceleration : Vec3 := {}
  flags : UInt32 := 0
deriving DecidableEq, Repr

structure DfbcGeometricConfig where
  positionNaturalFrequency : Vec3
  positionDampingRatio : Vec3
  tiltGain : Double
  tiltRateDamping : Double
  yawGain : Double
  yawRateDamping : Double
  gravity : Double
  minSpecificThrust : Double
  useBodyRateFeedforward : Bool
  enableYawControl : Bool
  accelerationCorrectionEnabled : Bool
  accelerationCorrectionGain : Vec3
  accelerationCorrectionLimit : Vec3
  accelerationCorrectionFilterTau : Double
deriving DecidableEq, Repr

structure DfbcGeometricInput where
  current : Se3State
  reference : Trajectory.FlatOutput3
  dt : Double
  measuredAcceleration : Option Vec3
deriving DecidableEq, Repr

structure DfbcGeometricOutput where
  success : Bool := false
  bodyRateCommand : Vec3 := {}
  specificThrust : Double := 0
deriving DecidableEq, Repr

structure SmcTrackingConfig where
  k1 : Double
  k2 : Double
  boundaryLayer : Double
deriving DecidableEq, Repr

/-- Position and velocity, with the feedforward acceleration of a reference. -/
structure SmcTrackingResult where
  success : Bool := false
  acceleration : Vec3 := {}
deriving DecidableEq, Repr

end Control

open Trajectory Control in
/-- The computations of the library. The geometric controller keeps a filter state. -/
class Xgc2Math where
  flag : ReferenceFlags
  defaults : CurveDefaults
  /-- The duration a curve reports; not positive means endless. -/
  duration : Curve → Double
  evaluate : Curve → Double → Option FlatOutput3
  /-- `TrajectoryValidator3::validate` with the default limits. -/
  validate : Curve → Double → UInt32
  /-- Whether `SampledEvaluator3::setSamples` takes the points. -/
  setSamples : List SampledPoint3 → Bool
  /-- `FlatnessMapper3(gravity, minimum specific thrust).map`. -/
  map : Double → Double → FlatOutput3 → FullStateReference3
  DfbcGeometricController : Type
  dfbcController : DfbcGeometricController
  dfbcConfigure : DfbcGeometricController → DfbcGeometricConfig → DfbcGeometricController
  dfbcReset : DfbcGeometricController → DfbcGeometricController
  dfbcCompute : DfbcGeometricController → DfbcGeometricInput →
    DfbcGeometricController × DfbcGeometricOutput
  computeSmcTracking : SmcTrackingConfig → Vec3 → Vec3 → Vec3 → Vec3 → Vec3 → SmcTrackingResult
  sign : Double → Double
  signBeta : Double → Double → Double

open Trajectory in
/-- `TrajectoryValidator3::validate` with any limits. -/
class TrajectoryValidator3 [Xgc2Math] where
  defaultLimits : TrajectoryLimits3
  validateWithin : TrajectoryLimits3 → Curve → Double → UInt32
  validateWithin_defaultLimits : validateWithin defaultLimits = Xgc2Math.validate

end MultirotorController
