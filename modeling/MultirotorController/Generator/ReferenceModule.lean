import MultirotorController.Generator.WakeUps
import MultirotorController.Lib.Insertion
import MultirotorController.Module.Payloads

/-!
# The reference module

The generator as a module: a step takes the requests that arrived in the order of
their stamps, turns the runtime when it has to, writes what the turn emitted and
asks for the next wake-up. A request that cannot be taken is skipped. The host
decides which outputs can be written; what it is told about the health of the
module is left out.
-/

namespace MultirotorController

open Trajectory

namespace Generator

def frameIdSize : Nat := 32
def maxParams : Nat := 16
def maxPoints : Nat := 1024

structure HeaderPayload where
  seq : UInt32 := 0
  stampSec : UInt32 := 0
  stampNsec : UInt32 := 0
  frameId : List Char := []
deriving DecidableEq, Repr

/-- `xgc2.px4.reference_analytic.v1` -/
structure AnalyticPayload where
  header : HeaderPayload := {}
  requestId : UInt32 := 0
  trajectoryId : UInt32 := 0
  revision : UInt32 := 0
  flags : UInt32 := 0
  startSec : UInt32 := 0
  startNsec : UInt32 := 0
  analyticType : UInt16 := 0
  paramsLen : UInt16 := 0
  duration : Double := 0
  originPosition : Vec3 := {}
  originQ : Quaternion := {}
  params : List Double := []
deriving DecidableEq, Repr

/-- `xgc2.px4.reference_sampled.v1` -/
structure SampledPayload where
  header : HeaderPayload := {}
  trajectoryId : UInt32 := 0
  revision : UInt32 := 0
  flags : UInt32 := 0
  pointsLen : UInt32 := 0
  startSec : UInt32 := 0
  startNsec : UInt32 := 0
  sampleDt : Double := 0
  points : List Reference.FlatReferencePoint := []
deriving DecidableEq, Repr

/-- The message of a payload, unless its length exceeds the capacity. -/
def AnalyticPayload.toCore (payload : AnalyticPayload) : Option AnalyticReference :=
  if maxParams < payload.paramsLen.toNat then none
  else some {
    header := ⟨⟨payload.header.stampSec, payload.header.stampNsec⟩⟩
    seq := payload.header.seq
    frameId := Module.boundedString payload.header.frameId frameIdSize
    requestId := payload.requestId
    trajectoryId := payload.trajectoryId
    revision := payload.revision
    analyticType := payload.analyticType
    flags := payload.flags
    startTime := ⟨payload.startSec, payload.startNsec⟩
    duration := payload.duration
    origin := ⟨payload.originPosition, payload.originQ⟩
    params := payload.params.take payload.paramsLen.toNat }

def SampledPayload.toCore (payload : SampledPayload) : Option SampledReference :=
  if maxPoints < payload.pointsLen.toNat then none
  else some {
    header := ⟨⟨payload.header.stampSec, payload.header.stampNsec⟩⟩
    seq := payload.header.seq
    frameId := Module.boundedString payload.header.frameId frameIdSize
    trajectoryId := payload.trajectoryId
    revision := payload.revision
    flags := payload.flags
    startTime := ⟨payload.startSec, payload.startNsec⟩
    sampleDt := payload.sampleDt
    points := payload.points.take payload.pointsLen.toNat }

def headerPayload (seq : UInt32) (stamp : Time) (frameId : String) : HeaderPayload :=
  { seq, stampSec := stamp.sec, stampNsec := stamp.nsec, frameId := frameId.toList }

/-- The payload of a message, unless the message does not fit. -/
def AnalyticReference.toPayload (message : AnalyticReference) : Option AnalyticPayload :=
  if maxParams < message.params.length ∨ frameIdSize ≤ message.frameId.length then none
  else some {
    header := headerPayload message.seq message.header.stamp message.frameId
    requestId := message.requestId
    trajectoryId := message.trajectoryId
    revision := message.revision
    flags := message.flags
    startSec := message.startTime.sec
    startNsec := message.startTime.nsec
    analyticType := message.analyticType
    paramsLen := .ofNat message.params.length
    duration := message.duration
    originPosition := message.origin.position
    originQ := message.origin.orientation
    params := message.params }

def SampledReference.toPayload (message : SampledReference) : Option SampledPayload :=
  if maxPoints < message.points.length ∨ frameIdSize ≤ message.frameId.length then none
  else some {
    header := headerPayload message.seq message.header.stamp message.frameId
    trajectoryId := message.trajectoryId
    revision := message.revision
    flags := message.flags
    pointsLen := .ofNat message.points.length
    startSec := message.startTime.sec
    startNsec := message.startTime.nsec
    sampleDt := message.sampleDt
    points := message.points }

/-- A sample on a request port; a payload of the wrong size is none. -/
inductive Request where
  | analytic (stampNs : Int64) (payload : Option AnalyticPayload)
  | sampled (stampNs : Int64) (payload : Option SampledPayload)
  | reset (stampNs : Int64)
deriving DecidableEq, Repr

def Request.stampNs : Request → Int64
  | .analytic stampNs _ | .sampled stampNs _ | .reset stampNs => stampNs

def analyticDepth : Nat := 8
def sampledDepth : Nat := 4
def resetDepth : Nat := 4

theorem one_le_analyticDepth : 1 ≤ analyticDepth := by decide

/-- What a step reads from the request ports, at most the depth of each queue. -/
structure Arrivals where
  analytic : List (Int64 × Option AnalyticPayload) := []
  sampled : List (Int64 × Option SampledPayload) := []
  reset : List Int64 := []
  analytic_le : analytic.length ≤ analyticDepth := by exact Nat.zero_le analyticDepth
  sampled_le : sampled.length ≤ sampledDepth := by exact Nat.zero_le sampledDepth
  reset_le : reset.length ≤ resetDepth := by exact Nat.zero_le resetDepth

def Arrivals.requests (arrivals : Arrivals) : List Request :=
  arrivals.analytic.map (fun sample => .analytic sample.1 sample.2) ++
    arrivals.sampled.map (fun sample => .sampled sample.1 sample.2) ++
    arrivals.reset.map .reset

/-- In the order of the stamps, ties in the order of the ports and the arrival. -/
def collectRequests (arrivals : Arrivals) : List Request :=
  arrivals.requests.insertionSort fun a b => a.stampNs ≤ b.stampNs

/-- A stamp of the host on the clock of the runtime; one before zero is zero. -/
def toSeconds (ns : Int64) : Except RuntimeError Double := do
  return (← Time.fromNSec (.ofNat ns.toNatClampNeg)).toSec

section Accept

variable [Libm] [Xgc2Math] [TrajectoryValidator3]

/-- A request that throws is refused as well, and the runtime keeps its state. -/
def accept (runtime : ReferenceTrajectoryRuntime) :
    Request → ReferenceTrajectoryRuntime × Bool
  | .analytic stampNs payload =>
      match payload.bind AnalyticPayload.toCore with
      | none => (runtime, false)
      | some message =>
          match toSeconds stampNs >>= runtime.acceptAnalytic message with
          | .ok result => result
          | .error _ => (runtime, false)
  | .sampled stampNs payload =>
      match payload.bind SampledPayload.toCore with
      | none => (runtime, false)
      | some message =>
          match toSeconds stampNs >>= runtime.acceptSampled message with
          | .ok result => result
          | .error _ => (runtime, false)
  | .reset _ => (runtime.reset, true)

/-- Takes one request after another. -/
def acceptAll (runtime : ReferenceTrajectoryRuntime) (requests : List Request) :
    ReferenceTrajectoryRuntime × Bool :=
  requests.foldl (fun state request =>
    let (runtime, accepted) := accept state.1 request
    (runtime, accepted || state.2)) (runtime, false)

end Accept

inductive OutputPayload where
  | status (status : ReferenceStatus)
  | activeAnalytic (payload : AnalyticPayload)
  | activeSampled (payload : SampledPayload)
deriving DecidableEq, Repr

structure Publication where
  stampNs : Int64
  payload : OutputPayload
deriving DecidableEq, Repr

def badVariantAccess : RuntimeError := ⟨"std::get: wrong index for variant"⟩

/-- What an effect writes; nothing without a slot or when its message does not fit. -/
def publish (runtime : ReferenceTrajectoryRuntime) (granted : Bool) (effect : ReferenceEffect)
    (now : Double) : Except RuntimeError (Option OutputPayload) :=
  match effect.kind, runtime.active with
  | .status, _ => do
      -- The status is made before the slot is asked for.
      let status ← runtime.makeStatus (if 0 < effect.timestamp then effect.timestamp else now)
      return if granted then some (.status status) else none
  | .activeAnalytic, some (.analytic message _ _) =>
      .ok (if granted then message.toPayload.map .activeAnalytic else none)
  | .activeSampled, some (.sampled message _ _) =>
      .ok (if granted then message.toPayload.map .activeSampled else none)
  | _, _ => if granted then .error badVariantAccess else .ok none

/-- Writes the effects in order; an exception leaves the rest unwritten. -/
def publishAll (runtime : ReferenceTrajectoryRuntime) (granted : ReferenceEffectKind → Bool)
    (nowNs : Int64) (now : Double) : List ReferenceEffect → List Publication × Bool
  | [] => ([], true)
  | effect :: rest =>
      match publish runtime (granted effect.kind) effect now with
      | .error _ => ([], false)
      | .ok written =>
          let (publications, completed) := publishAll runtime granted nowNs now rest
          (written.toList.map (⟨nowNs, ·⟩) ++ publications, completed)

structure StepContext extends Arrivals where
  nowNs : Int64
  timer : Bool := false
  wake : Bool := false
  deadline : Bool := false
  /-- Whether the host has a slot for the output. -/
  granted : ReferenceEffectKind → Bool := fun _ => true

def StepContext.updateDue (context : StepContext) : Bool :=
  context.timer || context.wake || context.deadline

inductive XgcStatus where
  | ok
  | errState
  | errInternal
deriving DecidableEq, Repr

structure StepOutput where
  publications : List Publication := []
  status : XgcStatus := .ok
deriving DecidableEq, Repr

structure ReferenceModule where
  runtime : ReferenceTrajectoryRuntime := {}
  running : Bool := false
  /-- The wake-up the host was asked for. -/
  deadline : Option Int := none
deriving DecidableEq, Repr

namespace ReferenceModule

section Step

variable [Xgc2Math]

/-- The wake-up in whole nanoseconds, rounded up. -/
def armDeadline (module : ReferenceModule) : ReferenceModule :=
  { module with deadline := some (module.runtime.nextWake.firstTick 1000000000) }

def start (config : ReferenceTrajectoryConfig) : ReferenceModule :=
  armDeadline { runtime := .setConfig config, running := true }

/-- A wake-up of the host is used up by the step it causes. -/
def consumeDeadline (module : ReferenceModule) (context : StepContext) : ReferenceModule :=
  if context.deadline then { module with deadline := none } else module

/-- Turns the runtime and writes its effects. -/
def turn (module : ReferenceModule) (context : StepContext) (now : Double) :
    ReferenceModule × StepOutput :=
  let module := { module with runtime := module.runtime.update now }
  match publishAll module.runtime context.granted context.nowNs now module.runtime.effects with
  | (publications, true) => (module.armDeadline, { publications })
  | (publications, false) => (module, { publications, status := .errInternal })

variable [Libm] [TrajectoryValidator3]

/-- A step whose time is off the clock ends before it looks at the requests it has read. -/
def step (module : ReferenceModule) (context : StepContext) : ReferenceModule × StepOutput :=
  if ¬ module.running then (module, { status := .errState })
  else
    let module := module.consumeDeadline context
    let requests := collectRequests context.toArrivals
    match toSeconds context.nowNs with
    | .error _ => (module, { status := .errInternal })
    | .ok now =>
        let (runtime, accepted) := acceptAll module.runtime requests
        let module := { module with runtime }
        if !context.updateDue && !accepted then (module, {}) else module.turn context now

end Step

end ReferenceModule

end Generator

end MultirotorController
