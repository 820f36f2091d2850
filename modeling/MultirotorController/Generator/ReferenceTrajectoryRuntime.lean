import MultirotorController.Generator.AnalyticEvaluator
import MultirotorController.Lib.Deadline

/-!
# The reference generator's runtime

One owner with a pending and an active reference and three states. A turn
activates a pending reference at once, publishes the status and the active
reference at their own rates, and leaves Active after the reference ended. The
next wake-up is the earliest of the publications and the expiry.
-/

namespace MultirotorController

open Trajectory

namespace Generator

inductive ReferenceEffectKind where
  | status
  | activeAnalytic
  | activeSampled
deriving DecidableEq, Repr

structure ReferenceEffect where
  kind : ReferenceEffectKind
  timestamp : Double
deriving DecidableEq, Repr

/-- The publication phase of one output. -/
structure Gate where
  last : Double := 0
  initialized : Bool := false
deriving DecidableEq, Repr

namespace Gate

/-- Whether the output is due; a due output starts its next period. -/
def due (gate : Gate) (now rate : Double) : Gate × Bool :=
  if ¬ gate.initialized ∨ 1 / rate ≤ now - gate.last then
    ({ last := now, initialized := true }, true)
  else (gate, false)

def next (gate : Gate) (now rate : Double) : Deadline :=
  if gate.initialized then .nextAfter (gate.last + 1 / rate) else { due := now }

end Gate

inductive ReferenceMachine where
  | selfCheck
  | ready (status : Gate)
  | active (status active : Gate)
deriving DecidableEq, Repr

/-- A validated reference, with its evaluator and flags. -/
inductive StoredReference where
  | analytic (message : AnalyticReference) (evaluator : Curve) (flags : UInt32)
  | sampled (message : SampledReference) (evaluator : Curve) (flags : UInt32)
deriving DecidableEq, Repr

namespace StoredReference

def evaluator : StoredReference → Curve
  | .analytic _ evaluator _ | .sampled _ evaluator _ => evaluator

def flags : StoredReference → UInt32
  | .analytic _ _ flags | .sampled _ _ flags => flags

def startTime : StoredReference → Time
  | .analytic message _ _ => message.startTime
  | .sampled message _ _ => message.startTime

def trajectoryId : StoredReference → UInt32
  | .analytic message _ _ => message.trajectoryId
  | .sampled message _ _ => message.trajectoryId

def revision : StoredReference → UInt32
  | .analytic message _ _ => message.revision
  | .sampled message _ _ => message.revision

def effectKind : StoredReference → ReferenceEffectKind
  | .analytic .. => .activeAnalytic
  | .sampled .. => .activeSampled

def activeType : StoredReference → UInt8
  | .analytic .. => typeAnalytic
  | .sampled .. => typeSampled

end StoredReference

structure ReferenceTrajectoryRuntime where
  config : ReferenceTrajectoryConfig := {}
  machine : ReferenceMachine := .selfCheck
  currentTimeSec : Double := 0
  flags : UInt32 := 0
  pending : Option StoredReference := none
  /-- Kept after Active expires to Ready, for the status. -/
  active : Option StoredReference := none
  effects : List ReferenceEffect := []
deriving DecidableEq, Repr

/-- The requested start, at least the lead time after the receipt. -/
def adjustedStartTime (requested now minLeadTime : Double) : Double :=
  let minimum := now + Double.max 0 minLeadTime
  if ¬ requested.isFinite ∨ requested ≤ 0 then minimum else Double.max requested minimum

namespace ReferenceTrajectoryRuntime

def reset (runtime : ReferenceTrajectoryRuntime) : ReferenceTrajectoryRuntime :=
  { config := runtime.config }

def setConfig (config : ReferenceTrajectoryConfig) : ReferenceTrajectoryRuntime :=
  { config := config.sanitized }

def hasPendingReference (runtime : ReferenceTrajectoryRuntime) : Bool := runtime.pending.isSome

def emit (runtime : ReferenceTrajectoryRuntime) (kind : ReferenceEffectKind) :
    ReferenceTrajectoryRuntime :=
  { runtime with effects := runtime.effects ++ [⟨kind, runtime.currentTimeSec⟩] }

def emitActive (runtime : ReferenceTrajectoryRuntime) : ReferenceTrajectoryRuntime :=
  match runtime.active with
  | some reference => runtime.emit reference.effectKind
  | none => runtime

def activatePending (runtime : ReferenceTrajectoryRuntime) : ReferenceTrajectoryRuntime :=
  match runtime.pending with
  | some reference =>
      { runtime with flags := reference.flags, active := some reference, pending := none }
  | none => runtime

section Accept

variable [Libm] [Xgc2Math] [TrajectoryValidator3]

/-- A refused reference leaves its flags; one whose start has no time leaves nothing. -/
def acceptAnalytic (runtime : ReferenceTrajectoryRuntime) (msg : AnalyticReference)
    (receiptSec : Double) : Except RuntimeError (ReferenceTrajectoryRuntime × Bool) :=
  match buildAnalyticEvaluator runtime.config msg.toAnalyticReference with
  | (none, flags) => .ok ({ runtime with flags := runtime.flags ||| flags }, false)
  | (some evaluator, flags) => do
      let startTime ← Time.fromSec
        (adjustedStartTime msg.startTime.toSec receiptSec runtime.config.minLeadTime)
      return ({ runtime with
        pending := some (.analytic { msg with startTime } evaluator flags) }, true)

omit [Libm] in
def acceptSampled (runtime : ReferenceTrajectoryRuntime) (msg : SampledReference)
    (receiptSec : Double) : Except RuntimeError (ReferenceTrajectoryRuntime × Bool) :=
  match buildSampledEvaluator runtime.config msg.toSampledReference with
  | (none, flags) => .ok ({ runtime with flags := runtime.flags ||| flags }, false)
  | (some evaluator, flags) => do
      let startTime ← Time.fromSec
        (adjustedStartTime msg.startTime.toSec receiptSec runtime.config.minLeadTime)
      return ({ runtime with
        pending := some (.sampled { msg with startTime } evaluator flags) }, true)

end Accept

section Turn

variable [Xgc2Math]

/-- The last moment of a reference that ends. -/
def endOf (runtime : ReferenceTrajectoryRuntime) (reference : StoredReference) : Double :=
  reference.startTime.toSec + Xgc2Math.duration reference.evaluator +
    runtime.config.trajectoryTimeout

def activeExpired (runtime : ReferenceTrajectoryRuntime) (nowSec : Double) : Bool :=
  match runtime.active with
  | none => true
  | some reference =>
      if Xgc2Math.duration reference.evaluator ≤ 0 then false
      else decide (runtime.endOf reference < nowSec)

def activeExpiry (runtime : ReferenceTrajectoryRuntime) : Option Deadline :=
  match runtime.active with
  | none => some { due := runtime.currentTimeSec }
  | some reference =>
      if Xgc2Math.duration reference.evaluator ≤ 0 then none
      else some (.nextAfter (runtime.endOf reference))

/-- A gate that was due at the present time. -/
def openGate (runtime : ReferenceTrajectoryRuntime) (rate : Double) : Gate :=
  (Gate.due {} runtime.currentTimeSec rate).1

/-- Enters Ready, which reports its status at once. -/
def enterReady (runtime : ReferenceTrajectoryRuntime) : ReferenceTrajectoryRuntime :=
  { runtime.emit .status with machine := .ready (runtime.openGate runtime.config.statusRateHz) }

/-- Enters Active with the pending reference, which is published at once. -/
def enterActive (runtime : ReferenceTrajectoryRuntime) : ReferenceTrajectoryRuntime :=
  { (runtime.activatePending.emit .status).emitActive with
    machine := .active (runtime.openGate runtime.config.statusRateHz)
      (runtime.openGate runtime.config.activePublishRateHz) }

def emitIf (runtime : ReferenceTrajectoryRuntime) (due : Bool) : ReferenceTrajectoryRuntime :=
  if due then runtime.emit .status else runtime

def handleReady (runtime : ReferenceTrajectoryRuntime) (status : Gate) :
    ReferenceTrajectoryRuntime :=
  if runtime.hasPendingReference then runtime.enterActive
  else
    let (status, due) := status.due runtime.currentTimeSec runtime.config.statusRateHz
    { runtime.emitIf due with machine := .ready status }

def handleActive (runtime : ReferenceTrajectoryRuntime) (status active : Gate) :
    ReferenceTrajectoryRuntime :=
  let (status', statusDue) := status.due runtime.currentTimeSec runtime.config.statusRateHz
  if runtime.hasPendingReference then
    { (runtime.activatePending.emitIf statusDue).emitActive with
      machine := .active status' (runtime.openGate runtime.config.activePublishRateHz) }
  else if runtime.activeExpired runtime.currentTimeSec then runtime.enterReady
  else
    let (active', activeDue) := active.due runtime.currentTimeSec runtime.config.activePublishRateHz
    let reported := runtime.emitIf statusDue
    { if activeDue then reported.emitActive else reported with machine := .active status' active' }

/-- One turn of the machine. -/
def dispatch (runtime : ReferenceTrajectoryRuntime) : ReferenceTrajectoryRuntime :=
  match runtime.machine with
  | .selfCheck => if runtime.hasPendingReference then runtime.enterActive else runtime.enterReady
  | .ready status => runtime.handleReady status
  | .active status active => runtime.handleActive status active

def update (runtime : ReferenceTrajectoryRuntime) (nowSec : Double) : ReferenceTrajectoryRuntime :=
  dispatch { runtime with currentTimeSec := nowSec, effects := [] }

/-- The next moment at which a turn has something to do; there always is one. -/
def nextWake (runtime : ReferenceTrajectoryRuntime) : Deadline :=
  let now := runtime.currentTimeSec
  if runtime.hasPendingReference then { due := now }
  else
    match runtime.machine with
    | .selfCheck => { due := now }
    | .ready status => status.next now runtime.config.statusRateHz
    | .active status active =>
        let publication := (status.next now runtime.config.statusRateHz).min
          (active.next now runtime.config.activePublishRateHz)
        match runtime.activeExpiry with
        | some expiry => publication.min expiry
        | none => publication

end Turn

def currentState (runtime : ReferenceTrajectoryRuntime) : UInt8 :=
  match runtime.machine with
  | .selfCheck => stateSelfCheck
  | .ready _ => stateReady
  | .active _ _ => stateActive

def makeStatus (runtime : ReferenceTrajectoryRuntime) (stampSec : Double) :
    Except RuntimeError ReferenceStatus := do
  let stamp ← Time.fromSec stampSec
  return {
    stamp
    state := runtime.currentState
    flags := runtime.flags
    activeTrajectoryId := (runtime.active.map (·.trajectoryId)).getD 0
    activeRevision := (runtime.active.map (·.revision)).getD 0
    activeType := (runtime.active.map (·.activeType)).getD typeNone }

end ReferenceTrajectoryRuntime

end Generator

end MultirotorController
