import MultirotorController.Control.Xgc2Math
import MultirotorController.Lib.Binary64

/-!
# Active reference cache

The reference that Custom1 follows under NMPC and cache-fed DFBC. An update
builds an evaluator from the message, validates it and replaces the stored
reference; a rejected message leaves the cache as it was. Sampling subtracts the
start time from the present time, which may leave the range of `Duration`.
-/

namespace MultirotorController

open Trajectory Control

namespace Reference

structure Pose where
  position : Vec3 := {}
  orientation : Quaternion := {}
deriving DecidableEq, Repr

structure Header where
  stamp : Time := {}
deriving DecidableEq, Repr

structure AnalyticReference where
  header : Header := {}
  requestId : UInt32 := 0
  trajectoryId : UInt32 := 0
  revision : UInt32 := 0
  analyticType : UInt16 := 0
  flags : UInt32 := 0
  startTime : Time := {}
  duration : Double := 0
  origin : Pose := {}
  params : List Double := []
deriving DecidableEq, Repr

def analyticHold : UInt16 := 0
def analyticCircle : UInt16 := 1
def analyticHeightCircle : UInt16 := 2
def analyticCircleEntry : UInt16 := 3
def analyticFigureEight : UInt16 := 4
def analyticLine : UInt16 := 5
def analyticLemniscate : UInt16 := 6
def analyticHelixYz : UInt16 := 7
def analyticHelixXy : UInt16 := 8
def analyticTorusKnot : UInt16 := 9

structure FlatReferencePoint where
  tFromStart : Double := 0
  position : Vec3 := {}
  velocity : Vec3 := {}
  acceleration : Vec3 := {}
  jerk : Vec3 := {}
  snap : Vec3 := {}
  yaw : Double := 0
  yawRate : Double := 0
  yawAccel : Double := 0
deriving DecidableEq, Repr

structure SampledReference where
  header : Header := {}
  trajectoryId : UInt32 := 0
  revision : UInt32 := 0
  flags : UInt32 := 0
  startTime : Time := {}
  sampleDt : Double := 0
  points : List FlatReferencePoint := []
deriving DecidableEq, Repr

/-- A parameter that is missing or not finite falls back. -/
def AnalyticReference.paramAt (msg : AnalyticReference) (index : Nat) (fallback : Double) :
    Double :=
  match msg.params[index]? with
  | some value => if value.isFinite then value else fallback
  | none => fallback

end Reference

open Reference

structure UavReferencePoint where
  tFromStart : Double := 0
  position : Vec3 := {}
  velocity : Vec3 := {}
  acceleration : Vec3 := {}
  jerk : Vec3 := {}
  snap : Vec3 := {}
  yaw : Double := 0
  yawRate : Double := 0
  yawAccel : Double := 0
  flags : UInt32 := 0
deriving DecidableEq, Repr

inductive TrajectoryModelType where
  | none
  | analytic
  | sampled
deriving DecidableEq, Repr

structure ActiveTrajectoryCache where
  evaluator : Option Curve := none
  type : TrajectoryModelType := .none
  trajectoryId : UInt32 := 0
  revision : UInt32 := 0
  sequence : Nat := 0
  startTime : Time := {}
  flags : UInt32 := 0
deriving DecidableEq, Repr, Inhabited

namespace ActiveTrajectoryCache

variable [Libm] [Xgc2Math]

def yawFromQuaternion (q : Quaternion) : Double :=
  let sinyCosp := (2 * ((q.w * q.z).rounded + (q.x * q.y).rounded).rounded).rounded
  let cosyCosp := (1 - (2 * ((q.y * q.y).rounded + (q.z * q.z).rounded).rounded).rounded).rounded
  if sinyCosp.isFinite && cosyCosp.isFinite then Libm.atan2 sinyCosp cosyCosp else 0

def fatalReferenceFlags (flags : UInt32) : Bool :=
  let fatal := Xgc2Math.flag.invalidInput ||| Xgc2Math.flag.nonFinite |||
    Xgc2Math.flag.lowThrust ||| Xgc2Math.flag.yawSingularity
  flags &&& fatal != 0

/-- The torus knot, entered on a ramp when its third parameter is positive. -/
def torusKnotCurve (msg : AnalyticReference) (hasDuration : Bool) (duration : Double)
    (originYaw : Double) : Curve :=
  let origin := msg.origin.position
  let durationOr := fun fallback : Double => if hasDuration then duration else fallback
  let torus := { Xgc2Math.defaults.torusKnot with
    flags := msg.flags
    duration := durationOr Xgc2Math.defaults.torusKnot.duration
    origin :=
      if 6 ≤ msg.params.length then
        ⟨msg.paramAt 3 origin.x, msg.paramAt 4 origin.y, msg.paramAt 5 origin.z⟩
      else origin
    omega := msg.paramAt 0 0.3
    scale := msg.paramAt 1 0.3
    yaw := originYaw }
  let torusEntryDuration := msg.paramAt 2 0
  if 0 < torusEntryDuration then
    let entry := durationOr Xgc2Math.defaults.torusKnotEntry.duration
    .torusKnotEntry { Xgc2Math.defaults.torusKnotEntry with
      flags := msg.flags
      duration := entry
      start := origin
      originYaw := originYaw
      entryDuration := torusEntryDuration
      torus := { torus with
        duration := Double.max 0 (entry - Double.max 0 torusEntryDuration) } }
  else .torusKnot torus

/-- The curve an analytic message denotes; an unknown type is a circle with entry. -/
def analyticCurve (msg : AnalyticReference) : Curve :=
  let hasDuration := decide (0 < msg.duration)
  let duration := if hasDuration then msg.duration else 60
  let durationOr := fun fallback : Double => if hasDuration then duration else fallback
  let origin := msg.origin.position
  let originYaw := yawFromQuaternion msg.origin.orientation
  let radius := msg.paramAt 0 3
  let lineSpeed := msg.paramAt 1 3
  let height := msg.paramAt 2 3
  let zAmplitude := msg.paramAt 3 1
  let zFrequency := msg.paramAt 4 0.5
  let entryDuration := msg.paramAt 5 5
  let centerX := msg.paramAt 6 origin.x
  let centerY := msg.paramAt 7 origin.y
  if msg.analyticType = analyticHold then
    .hold { Xgc2Math.defaults.hold with
      flags := msg.flags, duration, position := { origin with z := height }, yaw := originYaw }
  else if msg.analyticType = analyticCircle then
    .circle { Xgc2Math.defaults.circle with
      flags := msg.flags, duration, centerX, centerY, radius, lineSpeed, height }
  else if msg.analyticType = analyticHeightCircle then
    .circle { Xgc2Math.defaults.circle with
      flags := msg.flags, duration, centerX, centerY, radius, lineSpeed, height
      zAmplitude, zFrequency }
  else if msg.analyticType = analyticFigureEight then
    .figureEight { Xgc2Math.defaults.figureEight with
      flags := msg.flags, duration, origin, radius, lineSpeed, height }
  else if msg.analyticType = analyticLine then
    .line { Xgc2Math.defaults.line with
      flags := msg.flags
      duration := durationOr Xgc2Math.defaults.line.duration
      start := origin
      target := ⟨msg.paramAt 0 (origin.x + 1), msg.paramAt 1 (origin.y + 1),
        msg.paramAt 2 (origin.z + 1)⟩
      targetVelocity := ⟨msg.paramAt 3 0, msg.paramAt 4 0, msg.paramAt 5 0⟩
      startVelocity := ⟨msg.paramAt 6 0, msg.paramAt 7 0, msg.paramAt 8 0⟩ }
  else if msg.analyticType = analyticLemniscate then
    .lemniscate { Xgc2Math.defaults.lemniscate with
      flags := msg.flags
      duration := durationOr Xgc2Math.defaults.lemniscate.duration
      origin, radius := msg.paramAt 0 1, omega := msg.paramAt 1 0.9, height := msg.paramAt 2 1 }
  else if msg.analyticType = analyticHelixYz then
    .helixYz { Xgc2Math.defaults.helixYz with
      flags := msg.flags
      duration := durationOr Xgc2Math.defaults.helixYz.duration
      origin, radius := msg.paramAt 0 1, omega := msg.paramAt 1 1.5
      linearScale := msg.paramAt 2 10 }
  else if msg.analyticType = analyticHelixXy then
    .helixXy { Xgc2Math.defaults.helixXy with
      flags := msg.flags
      duration := durationOr Xgc2Math.defaults.helixXy.duration
      origin, radius := msg.paramAt 0 1, omega := msg.paramAt 1 0.9
      linearScale := msg.paramAt 2 10 }
  else if msg.analyticType = analyticTorusKnot then
    torusKnotCurve msg hasDuration duration originYaw
  else
    .circleEntry { Xgc2Math.defaults.circleEntry with
      flags := msg.flags, duration, origin, originYaw, entryDuration
      circle := { Xgc2Math.defaults.circleEntry.circle with
        flags := msg.flags
        duration := Double.max 0 (duration - Double.max 0 entryDuration)
        centerX, centerY, radius, lineSpeed, height, zAmplitude, zFrequency } }

/-- The evaluator and the flags it was validated with, unless a flag is fatal. -/
def buildAnalyticEvaluator (msg : AnalyticReference) : Option (Curve × UInt32) :=
  let curve := analyticCurve msg
  let flags := msg.flags ||| Xgc2Math.validate curve 0.02
  if fatalReferenceFlags flags then none else some (curve, flags)

def sampledPoint (point : FlatReferencePoint) : SampledPoint3 :=
  { t := point.tFromStart
    flat := {
      position := point.position
      velocity := point.velocity
      acceleration := point.acceleration
      jerk := point.jerk
      snap := point.snap
      yaw := point.yaw
      yawRate := point.yawRate
      yawAccel := point.yawAccel } }

def buildSampledEvaluator (msg : SampledReference) : Option (Curve × UInt32) :=
  let samples := msg.points.map sampledPoint
  if !Xgc2Math.setSamples samples then none
  else
    let flags := msg.flags ||| Xgc2Math.validate (.sampled samples) 0.02
    if fatalReferenceFlags flags then none else some (.sampled samples, flags)

/-- The requested start, else the header stamp, else the time of receipt. -/
def startTimeOf (startTime stamp receivedTime : Time) : Time :=
  let start := if startTime.isZero then stamp else startTime
  if start.isZero then receivedTime else start

def updateAnalytic (cache : ActiveTrajectoryCache) (msg : AnalyticReference)
    (receivedTime : Time) : ActiveTrajectoryCache × Bool :=
  match buildAnalyticEvaluator msg with
  | none => (cache, false)
  | some (curve, flags) =>
      ({ evaluator := some curve
         type := .analytic
         trajectoryId := msg.trajectoryId
         revision := msg.revision
         sequence := cache.sequence + 1
         startTime := startTimeOf msg.startTime msg.header.stamp receivedTime
         flags }, true)

def updateSampled (cache : ActiveTrajectoryCache) (msg : SampledReference)
    (receivedTime : Time) : ActiveTrajectoryCache × Bool :=
  match buildSampledEvaluator msg with
  | none => (cache, false)
  | some (curve, flags) =>
      ({ evaluator := some curve
         type := .sampled
         trajectoryId := msg.trajectoryId
         revision := msg.revision
         sequence := cache.sequence + 1
         startTime := startTimeOf msg.startTime msg.header.stamp receivedTime
         flags := flags ||| msg.flags }, true)

def clear : ActiveTrajectoryCache := {}

/-- The stored curve, when the cache can be sampled at all. -/
def usable (cache : ActiveTrajectoryCache) : Option Curve :=
  if cache.startTime.isZero || fatalReferenceFlags cache.flags then none else cache.evaluator

def valid (cache : ActiveTrajectoryCache) : Bool := cache.usable.isSome

def toPoint (flat : FlatOutput3) (t : Double) : UavReferencePoint :=
  { tFromStart := t
    position := flat.position
    velocity := flat.velocity
    acceleration := flat.acceleration
    jerk := flat.jerk
    snap := flat.snap
    yaw := flat.yaw
    yawRate := flat.yawRate
    yawAccel := flat.yawAccel
    flags := flat.flags }

/-- Time since the start of the reference, at least zero. -/
def elapsed (cache : ActiveTrajectoryCache) (now : Time) : Except RuntimeError Double := do
  return Double.max 0 (← now.sub cache.startTime).toSec

def sample (cache : ActiveTrajectoryCache) (now : Time) :
    Except RuntimeError (Option UavReferencePoint) := do
  match cache.usable with
  | none => return none
  | some curve =>
      let t ← cache.elapsed now
      return (Xgc2Math.evaluate curve t).map (toPoint · t)

def toNmpcReference (full : FullStateReference3) : Se3Reference :=
  { state := {
      position := full.position
      velocity := full.velocity
      attitude := full.attitude
      bodyRate := full.bodyRate }
    bodyZSpecificForce := full.specificThrust
    angularAcceleration := full.angularAcceleration
    flags := full.flags }

/-- One sample of the horizon, through the flatness map. -/
def horizonReference (curve : Curve) (gravity t : Double) : Option Se3Reference := do
  let flat ← Xgc2Math.evaluate curve t
  let full := Xgc2Math.map gravity 0.1 flat
  if fatalReferenceFlags full.flags then none else some (toNmpcReference full)

/-- `horizonSteps + 2` samples from the present time, or nothing. -/
def sampleHorizon (cache : ActiveTrajectoryCache) (now : Time) (stageDt : Double)
    (horizonSteps : Nat) (gravity : Double) : Except RuntimeError (Option (List Se3Reference)) := do
  if horizonSteps = 0 ∨ stageDt ≤ 0 then return none
  match cache.usable with
  | none => return none
  | some curve =>
      let sampleCount := horizonSteps + 2
      let t0 ← cache.elapsed now
      let tLast := t0 + .fin (sampleCount - 1 : Nat) * stageDt
      if 0 < Xgc2Math.duration curve ∧ Xgc2Math.duration curve + 1.0e-6 < tLast then return none
      return (List.range sampleCount).mapM fun i =>
        horizonReference curve gravity (t0 + .fin i * stageDt)

/-- The time left of a reference with a finite positive duration. -/
def finiteTimeRemaining (cache : ActiveTrajectoryCache) (now : Time) :
    Except RuntimeError (Option Double) := do
  match cache.usable with
  | none => return none
  | some curve =>
      let duration := Xgc2Math.duration curve
      if !duration.isFinite || decide (duration ≤ 0) then return none
      let remaining := duration - (← cache.elapsed now)
      return if remaining.isFinite then some remaining else none

/-- The first time at which no more than `limit` remains of a finite reference. -/
def nextTimeRemainingAtMost (cache : ActiveTrajectoryCache) (now : Time) (limit : Double) :
    Except RuntimeError (Option Deadline) := do
  match cache.usable with
  | none => return none
  | some curve =>
      let duration := Xgc2Math.duration curve
      if !duration.isFinite || decide (duration ≤ 0) || limit == .nan || limit == .inf true then
        return none
      if duration ≤ limit then return some { due := now.toSec }
      let due := Double.max now.toSec (cache.startTime.toSec + (duration - limit))
      -- The clock value of the due time may be rounded down to an earlier nanosecond.
      let remaining := duration - (← cache.elapsed (← Time.fromSec due))
      return some (if limit < remaining then .nextAfter (due + 1e-9) else { due })

end ActiveTrajectoryCache

end MultirotorController
