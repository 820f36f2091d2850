import MultirotorController.Common.Types
import MultirotorController.Lib.Libm
import MultirotorController.Lib.Procedure

/-!
# Receive statistics

Per stream a window of ten receipts, from which the frequency and the jitter are
computed ten times a second and the liveness once a second. A receipt marks its
stream active and new; the module clears the new marks after each update. The
statistics live in the snapshot, the windows beside it. Differences of times may
throw, so every operation is a procedure.
-/

namespace MultirotorController

inductive SensorStream where
  | estimate
  | localPose
  | localVelocity
  | imu
  | state
  | battery
  | pose
deriving DecidableEq, Repr

namespace SensorStream

/-- The streams in the order of the tracks. -/
def all : List SensorStream :=
  [.estimate, .localPose, .localVelocity, .imu, .state, .battery, .pose]

end SensorStream

namespace SensorData

def stats (sensor : SensorData) : SensorStream → TopicStats
  | .estimate => sensor.uavStateEstimateStats
  | .localPose => sensor.localPosStats
  | .localVelocity => sensor.localVelocityStats
  | .imu => sensor.imuStats
  | .state => sensor.stateStats
  | .battery => sensor.batteryStats
  | .pose => sensor.vrpnPoseStats

def updateStats (sensor : SensorData) (update : TopicStats → TopicStats) :
    SensorStream → SensorData
  | .estimate => { sensor with uavStateEstimateStats := update sensor.uavStateEstimateStats }
  | .localPose => { sensor with localPosStats := update sensor.localPosStats }
  | .localVelocity => { sensor with localVelocityStats := update sensor.localVelocityStats }
  | .imu => { sensor with imuStats := update sensor.imuStats }
  | .state => { sensor with stateStats := update sensor.stateStats }
  | .battery => { sensor with batteryStats := update sensor.batteryStats }
  | .pose => { sensor with vrpnPoseStats := update sensor.vrpnPoseStats }

def resetNewFlags (sensor : SensorData) : SensorData :=
  { sensor with
    uavStateEstimateStats.isNew := false
    localPosStats.isNew := false
    localVelocityStats.isNew := false
    imuStats.isNew := false
    stateStats.isNew := false
    batteryStats.isNew := false
    vrpnPoseStats.isNew := false }

end SensorData

/-- The window of one stream. -/
structure Track where
  times : List Time := []
  dt : List Double := []
  last : Time := {}
deriving DecidableEq, Repr, Inhabited

structure SensorStatistics where
  tracks : SensorStream → Track := fun _ => {}
  nextStats : Time := {}
  nextHeartbeat : Time := {}
  started : Bool := false

/-- The snapshot with the statistics that write into it. -/
structure Sensing where
  sensor : SensorData := {}
  statistics : SensorStatistics := {}

namespace Sensing

open Procedure

def updateTrack (sensing : Sensing) (stream : SensorStream) (track : Track) : Sensing :=
  { sensing with
    statistics.tracks := fun other =>
      if other = stream then track else sensing.statistics.tracks other }

def updateStats (sensing : Sensing) (stream : SensorStream) (update : TopicStats → TopicStats) :
    Sensing :=
  { sensing with sensor := sensing.sensor.updateStats update stream }

def start (now : Time) : EStateM RuntimeError Sensing Unit := do
  if (← get).statistics.started then return
  let nextStats ← rethrow (do now.add (← Duration.fromSec 0.1))
  modify fun sensing => { sensing with statistics.nextStats := nextStats }
  let nextHeartbeat ← rethrow (do now.add (← Duration.fromSec 1.0))
  modify fun sensing => { sensing with
    statistics := { sensing.statistics with nextHeartbeat, started := true } }

/-- The window after one more receipt. -/
def push (track : Track) (receipt : Time) (dt : Double) : Track :=
  let times := track.times ++ [receipt]
  let dts := track.dt ++ [dt]
  if 10 < times.length then { times := times.drop 1, dt := dts.drop 1, last := receipt }
  else { times, dt := dts, last := receipt }

/-- Seconds since the last receipt; zero for the first one. -/
def interval (track : Track) (receipt : Time) : Except RuntimeError Double :=
  if track.last.isZero then .ok 0
  else (receipt.sub track.last).map Duration.toSec

def markReceived (receipt : Time) (stats : TopicStats) : TopicStats :=
  { stats with lastMessageTime := receipt, isActive := true, isNew := true }

/-- The interval is computed first, so a receipt that is refused records nothing. -/
def observe (stream : SensorStream) (receipt : Time) : EStateM RuntimeError Sensing Unit := do
  let track := (← get).statistics.tracks stream
  let dt ← rethrow (interval track receipt)
  modify fun sensing =>
    (sensing.updateTrack stream (push track receipt dt)).updateStats stream (markReceived receipt)

/-- `std::sqrt` of the population variance. -/
def jitterOf [Libm] (dt : List Double) : Double :=
  let size : Double := .fin dt.length
  let mean := dt.foldl (· + ·) 0 / size
  let variance := dt.foldl (fun sum dt => sum + (dt - mean) * (dt - mean)) 0
  if dt.length < 2 then 0 else Libm.sqrt (variance / size)

def updateStatistics [Libm] : EStateM RuntimeError Sensing Unit :=
  SensorStream.all.forM fun stream => do
    let track := (← get).statistics.tracks stream
    if track.times.length < 2 then return
    let duration ← rethrow
      ((track.times.getLastD {}).sub (track.times.headD {}) |>.map Duration.toSec)
    modify fun sensing => sensing.updateStats stream fun stats => { stats with
      frequencyHz :=
        if 0 < duration then .fin (track.times.length - 1 : Nat) / duration
        else stats.frequencyHz
      dtMax := track.dt.foldl Double.max 0
      jitter := jitterOf track.dt }

def updateHeartbeats (now : Time) : EStateM RuntimeError Sensing Unit :=
  SensorStream.all.forM fun stream => do
    let track := (← get).statistics.tracks stream
    if track.times.isEmpty then return
    let elapsed ← rethrow (now.sub (track.times.getLastD {}) |>.map Duration.toSec)
    modify fun sensing => sensing.updateStats stream fun stats => { stats with
      timeSinceLastMsg := elapsed
      isActive := decide (elapsed ≤ 2.5) }

/-- The next point of the deadline's grid after `now`. -/
def nextDeadline (deadline now : Time) (period : UInt64) : Except RuntimeError Time :=
  let remaining := period - (now.toNSec - deadline.toNSec) % period
  Time.fromNSec (now.toNSec + remaining)

def advance [Libm] (now : Time) : EStateM RuntimeError Sensing Unit := do
  if !(← get).statistics.started then start now
  if (← get).statistics.nextStats ≤ now then
    updateStatistics
    let nextStats ← rethrow (nextDeadline (← get).statistics.nextStats now 100000000)
    modify fun sensing => { sensing with statistics.nextStats := nextStats }
  if (← get).statistics.nextHeartbeat ≤ now then
    updateHeartbeats now
    let nextHeartbeat ← rethrow (nextDeadline (← get).statistics.nextHeartbeat now 1000000000)
    modify fun sensing => { sensing with statistics.nextHeartbeat := nextHeartbeat }

def nextWake (statistics : SensorStatistics) : Option Time :=
  if !statistics.started then none
  else
    some (if statistics.nextHeartbeat < statistics.nextStats then statistics.nextHeartbeat
      else statistics.nextStats)

def resetNewFlags (sensing : Sensing) : Sensing :=
  { sensing with sensor := sensing.sensor.resetNewFlags }

end Sensing

end MultirotorController
