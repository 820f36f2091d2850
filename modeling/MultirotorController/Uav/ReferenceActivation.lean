import MultirotorController.Driver.ControllerConfig
import MultirotorController.Uav.ActiveTrajectoryCache

/-!
# Reference activation

On entering Custom1 the controller asks the reference generator for a curve that
starts at the present estimate: a torus knot or a circle with entry, from the
`nmpc/reference_*` parameters. Every request has new numbers, also one that is
not completed.
-/

namespace MultirotorController

open Reference

/-- The `reference_*` part of the NMPC parameters. -/
structure ReferenceParams where
  startDelay : Double := 0.2
  duration : Double := 60.0
  radius : Double := 3.0
  lineSpeed : Double := 1.0
  height : Double := 3.0
  zAmplitude : Double := 0.0
  zFrequency : Double := 0.5
  entryDuration : Double := 5.0
  analyticType : Int := 9
  torusOmega : Double := 0.3
  torusScale : Double := 2.0
deriving DecidableEq, Repr, Inhabited

namespace ReferenceParams

def sanitize (params : ReferenceParams) : ReferenceParams where
  startDelay := params.startDelay.nonnegativeOr 0.2
  duration := params.duration.above 0 60.0
  radius := params.radius.above 0 3.0
  lineSpeed := params.lineSpeed.nonnegativeOr 1.0
  height := params.height.above 0 3.0
  zAmplitude := params.zAmplitude.nonnegativeOr 0.0
  zFrequency := params.zFrequency.above 0 0.5
  entryDuration := params.entryDuration.nonnegativeOr 5.0
  analyticType :=
    if params.analyticType < 0 ∨ 9 < params.analyticType then 3 else params.analyticType
  torusOmega := params.torusOmega.above 0 0.3
  torusScale := params.torusScale.above 0 2.0

end ReferenceParams

structure ReferenceActivation where
  requestId : UInt32 := 0
  trajectoryId : UInt32 := 0
  revision : UInt32 := 0
deriving DecidableEq, Repr, Inhabited

namespace ReferenceActivation

open Procedure

def finiteOr (value fallback : Double) : Double := if value.isFinite then value else fallback

def next (activation : ReferenceActivation) : ReferenceActivation :=
  ⟨activation.requestId + 1, activation.trajectoryId + 1, activation.revision + 1⟩

/-- The attitude of the estimate as a unit quaternion, or none. -/
def unitOrientation [Libm] (sensor : SensorData) : Quaternion :=
  let q : Quaternion :=
    ⟨finiteOr sensor.qx 0, finiteOr sensor.qy 0, finiteOr sensor.qz 0, finiteOr sensor.qw 1⟩
  let norm := Libm.sqrt (q.x * q.x + q.y * q.y + q.z * q.z + q.w * q.w)
  if ¬ norm.isFinite ∨ norm < 1e-9 then ⟨0, 0, 0, 1⟩
  else ⟨q.x / norm, q.y / norm, q.z / norm, q.w / norm⟩

def startPosition (sensor : SensorData) (params : ReferenceParams) : Vec3 :=
  ⟨finiteOr sensor.x 0, finiteOr sensor.y 0, finiteOr sensor.z params.height⟩

/-- Any other type becomes a circle with entry. -/
def curveParams (sensor : SensorData) (params : ReferenceParams) : UInt16 × List Double :=
  let start := startPosition sensor params
  if UInt16.ofInt params.analyticType = analyticTorusKnot then
    let scale := params.torusScale.abs
    (analyticTorusKnot, [params.torusOmega, scale, params.entryDuration, start.x, start.y,
      start.z - 4 * scale])
  else
    (analyticCircleEntry, [params.radius, params.lineSpeed, params.height, params.zAmplitude,
      params.zFrequency, params.entryDuration, finiteOr sensor.x 0, finiteOr sensor.y 0])

def make [Libm] (stamp : Double) (sensor : SensorData) (params : ReferenceParams) :
    EStateM RuntimeError ReferenceActivation AnalyticReference := do
  let header ← rethrow (Time.fromSec stamp)
  modify next
  let numbers ← get
  let startTime ← rethrow (Time.fromSec (stamp + params.startDelay))
  let (analyticType, curve) := curveParams sensor params
  return {
    header := ⟨header⟩
    requestId := numbers.requestId
    trajectoryId := numbers.trajectoryId
    revision := numbers.revision
    analyticType
    flags := 0
    startTime
    duration := params.duration
    origin := ⟨startPosition sensor params, unitOrientation sensor⟩
    params := curve }

end ReferenceActivation

end MultirotorController
