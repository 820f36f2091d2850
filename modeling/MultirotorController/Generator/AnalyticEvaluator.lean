import MultirotorController.Generator.ReferenceTypes

/-!
# Evaluators of the reference generator

The generator's own reading of an analytic message, and of the samples of a
sampled one. The torus knot is read word for word as in the cache of the
controller. A reference is refused when the message or the validator flags an
invalid or non-finite input; every other flag is only reported.
-/

namespace MultirotorController

open Trajectory Reference

namespace Generator

variable [Libm] [Xgc2Math]

def finiteOr (value fallback : Double) : Double := if value.isFinite then value else fallback

def yawFromQuaternion (q : Quaternion) : Double :=
  let sinyCosp := (2 * ((q.w * q.z).rounded + (q.x * q.y).rounded).rounded).rounded
  let cosyCosp := (1 - (2 * ((q.y * q.y).rounded + (q.z * q.z).rounded).rounded).rounded).rounded
  finiteOr (Libm.atan2 sinyCosp cosyCosp) 0

/-- The curve an analytic message denotes; an unknown type is a circle with entry. -/
def analyticCurve (msg : Reference.AnalyticReference) : Curve :=
  let hasDuration := decide (0 < msg.duration)
  let duration := if hasDuration then msg.duration else 60
  let durationOr := fun fallback : Double => if hasDuration then duration else fallback
  let origin := msg.origin.position
  let originYaw := yawFromQuaternion msg.origin.orientation
  let radius := msg.paramAt 0 3
  let lineSpeed := msg.paramAt 1 3
  let height := msg.paramAt 2 3
  let zAmplitude := msg.paramAt 3 1
  let zFrequency := msg.paramAt 4 0.5
  let entryDuration := msg.paramAt 5 5
  -- The center falls back to zero, not to the origin of the message.
  let centerX := msg.paramAt 6 0
  let centerY := msg.paramAt 7 0
  if msg.analyticType = analyticHold then
    .hold { Xgc2Math.defaults.hold with
      flags := msg.flags, duration, position := { origin with z := height }, yaw := originYaw }
  else if msg.analyticType = analyticCircle ∨ msg.analyticType = analyticHeightCircle then
    .circle { Xgc2Math.defaults.circle with
      flags := msg.flags, duration, centerX, centerY, radius, lineSpeed, height
      zAmplitude := if msg.analyticType = analyticHeightCircle then zAmplitude else 0
      zFrequency }
  else if msg.analyticType = analyticFigureEight then
    .figureEight { Xgc2Math.defaults.figureEight with
      flags := msg.flags, duration, origin, radius, lineSpeed, height }
  else if msg.analyticType = analyticLine then
    .line { Xgc2Math.defaults.line with
      flags := msg.flags
      duration := durationOr Xgc2Math.defaults.line.duration
      start := origin
      target := ⟨msg.paramAt 0 (origin.x + 1), msg.paramAt 1 (origin.y + 1),
        msg.paramAt 2 (origin.z + 1)⟩
      targetVelocity := ⟨msg.paramAt 3 0, msg.paramAt 4 0, msg.paramAt 5 0⟩
      startVelocity := ⟨msg.paramAt 6 0, msg.paramAt 7 0, msg.paramAt 8 0⟩ }
  else if msg.analyticType = analyticLemniscate then
    .lemniscate { Xgc2Math.defaults.lemniscate with
      flags := msg.flags
      duration := durationOr Xgc2Math.defaults.lemniscate.duration
      origin, radius := msg.paramAt 0 1, omega := msg.paramAt 1 0.9, height := msg.paramAt 2 1 }
  else if msg.analyticType = analyticHelixYz then
    .helixYz { Xgc2Math.defaults.helixYz with
      flags := msg.flags
      duration := durationOr Xgc2Math.defaults.helixYz.duration
      origin, radius := msg.paramAt 0 1, omega := msg.paramAt 1 1.5
      linearScale := msg.paramAt 2 10 }
  else if msg.analyticType = analyticHelixXy then
    .helixXy { Xgc2Math.defaults.helixXy with
      flags := msg.flags
      duration := durationOr Xgc2Math.defaults.helixXy.duration
      origin, radius := msg.paramAt 0 1, omega := msg.paramAt 1 0.9
      linearScale := msg.paramAt 2 10 }
  else if msg.analyticType = analyticTorusKnot then
    ActiveTrajectoryCache.torusKnotCurve msg hasDuration duration originYaw
  else
    .circleEntry { Xgc2Math.defaults.circleEntry with
      flags := msg.flags, duration, origin, originYaw, entryDuration
      circle := { Xgc2Math.defaults.circleEntry.circle with
        flags := msg.flags
        duration := Double.max 0 (duration - Double.max 0 entryDuration)
        centerX, centerY, radius, lineSpeed, height, zAmplitude, zFrequency } }

omit [Libm] in
/-- The flags that make the generator refuse a reference. -/
def rejects (flags : UInt32) : Bool :=
  flags &&& (Xgc2Math.flag.invalidInput ||| Xgc2Math.flag.nonFinite) != 0

variable [TrajectoryValidator3]

/-- The evaluator, unless the reference is refused, and the flags. -/
def buildAnalyticEvaluator (config : ReferenceTrajectoryConfig)
    (msg : Reference.AnalyticReference) : Option Curve × UInt32 :=
  let curve := analyticCurve msg
  let flags := msg.flags |||
    TrajectoryValidator3.validateWithin config.limits curve config.validationSampleDt
  (if rejects flags then none else some curve, flags)

omit [Libm] in
def buildSampledEvaluator (config : ReferenceTrajectoryConfig)
    (msg : Reference.SampledReference) : Option Curve × UInt32 :=
  let samples := msg.points.map ActiveTrajectoryCache.sampledPoint
  if !Xgc2Math.setSamples samples then (none, msg.flags ||| Xgc2Math.flag.invalidInput)
  else
    let flags := msg.flags |||
      TrajectoryValidator3.validateWithin config.limits (.sampled samples)
        config.validationSampleDt
    (if rejects flags then none else some (.sampled samples), flags)

end Generator

end MultirotorController
