import MultirotorController.Generator.ReferenceModule
import MultirotorController.Module.SensorInput
import MultirotorController.Uav.FlightTurn

/-!
# Ports of the controller module

The inputs in the order of their ports, each with the payload it carries, and the
outputs. The sensor ports come first and are the streams of the receive
statistics. Only the two active references are states, of which the newest sample
counts; the other inputs are queues.
-/

namespace MultirotorController

/-- Eighteen spellings of four commands; anything else is no command. -/
def parseFlightCommand (text : String) : Option FlightCommand :=
  if text.isEmpty ∨ 64 < text.length then none
  else if text ∈ ["takeoff", "Takeoff", "TAKEOFF"] then some .takeoff
  else if text ∈ ["land", "Land", "LAND"] then some .land
  else if text ∈ ["hover", "Hover", "HOVER"] then some .hover
  else if text ∈ ["custom1", "Custom1", "CUSTOM1", "start", "Start", "START",
      "track", "Track", "TRACK"] then some .track
  else none

namespace Module

open Generator (AnalyticPayload SampledPayload)

/-- `xgc2.px4.local_pv.v1` -/
structure LocalPvPayload where
  position : Vec3 := {}
  velocity : Vec3 := {}
deriving DecidableEq, Repr

/-- `xgc2.px4.command.v1` -/
structure CommandPayload where
  text : List Char := []
deriving DecidableEq, Repr

def commandCapacity : Nat := 64

/-- `xgc2.px4.hover_thrust.v1` -/
structure HoverThrustPayload where
  stampSec : UInt32 := 0
  stampNsec : UInt32 := 0
  hoverThrust : Double := 0
  flags : UInt32 := 0
deriving DecidableEq, Repr

/-- `xgc2.px4.position_target.v1` -/
structure PositionTargetPayload where
  stampSec : UInt32 := 0
  stampNsec : UInt32 := 0
  position : Vec3 := {}
  velocity : Vec3 := {}
  acceleration : Vec3 := {}
  yaw : Double := 0
  yawRate : Double := 0
  typeMask : UInt16 := 0
  coordinateFrame : UInt8 := 0
deriving DecidableEq, Repr

inductive InputPort where
  | sensor (stream : SensorStream)
  | command
  | algSetpoint
  | hoverThrust
  | refActiveAnalytic
  | refActiveSampled
  | localPv
deriving DecidableEq, Repr

namespace InputPort

/-- The ports in the order of their indices. -/
def all : List InputPort :=
  SensorStream.all.map sensor ++
    [command, algSetpoint, hoverThrust, refActiveAnalytic, refActiveSampled, localPv]

/-- How many samples of a queue a step takes; none for a state. -/
def queueDepth : InputPort → Option Nat
  | refActiveAnalytic | refActiveSampled => none
  | sensor .imu => some 16
  | sensor .battery => some 4
  | _ => some 8

end InputPort

inductive InputPayload where
  | sensor (payload : SensorPayload)
  | command (payload : CommandPayload)
  | algSetpoint (payload : PositionTargetPayload)
  | hoverThrust (payload : HoverThrustPayload)
  | refActiveAnalytic (payload : AnalyticPayload)
  | refActiveSampled (payload : SampledPayload)
  | localPv (payload : LocalPvPayload)
deriving DecidableEq, Repr

def InputPayload.port : InputPayload → InputPort
  | sensor payload => .sensor payload.stream
  | command _ => .command
  | algSetpoint _ => .algSetpoint
  | hoverThrust _ => .hoverThrust
  | refActiveAnalytic _ => .refActiveAnalytic
  | refActiveSampled _ => .refActiveSampled
  | localPv _ => .localPv

/-- What the host holds for a port: a payload, or bytes of another size. -/
inductive Sample where
  | wrongSize (port : InputPort)
  | payload (payload : InputPayload)
deriving DecidableEq, Repr

/-- A sample with the stamp its producer gave it. -/
structure Input where
  stampNs : Int64 := 0
  sample : Sample
deriving DecidableEq, Repr

def Input.port (input : Input) : InputPort :=
  match input.sample with
  | .wrongSize port => port
  | .payload payload => payload.port

/-- The newest sample of a state, the oldest ones of a queue. -/
def readPort (samples : List Input) (port : InputPort) : List Input :=
  let held := samples.filter (·.port = port)
  match port.queueDepth with
  | none => held.getLast?.toList
  | some depth => held.take depth

/-- In the order of the stamps, ties in the order of the ports and the arrival. -/
def collectInputs (samples : List Input) : List Input :=
  (InputPort.all.flatMap (readPort samples)).insertionSort fun a b => a.stampNs ≤ b.stampNs

/-- The active reference of a payload, unless its length exceeds the capacity; a time out of
range throws. -/
def analyticToCore (payload : AnalyticPayload) :
    Except RuntimeError (Option Reference.AnalyticReference) := do
  if Generator.maxParams < payload.paramsLen.toNat then return none
  return some {
    header := ⟨← Time.ofFields payload.header.stampSec payload.header.stampNsec⟩
    requestId := payload.requestId
    trajectoryId := payload.trajectoryId
    revision := payload.revision
    analyticType := payload.analyticType
    flags := payload.flags
    startTime := ← Time.ofFields payload.startSec payload.startNsec
    duration := payload.duration
    origin := ⟨payload.originPosition, payload.originQ⟩
    params := payload.params.take payload.paramsLen.toNat }

def sampledToCore (payload : SampledPayload) :
    Except RuntimeError (Option Reference.SampledReference) := do
  if Generator.maxPoints < payload.pointsLen.toNat then return none
  return some {
    header := ⟨← Time.ofFields payload.header.stampSec payload.header.stampNsec⟩
    trajectoryId := payload.trajectoryId
    revision := payload.revision
    flags := payload.flags
    startTime := ← Time.ofFields payload.startSec payload.startNsec
    sampleDt := payload.sampleDt
    points := payload.points.take payload.pointsLen.toNat }

/-- The request to the reference generator, unless it does not fit. -/
def analyticToPayload (message : Reference.AnalyticReference) (frameId : String) :
    Option AnalyticPayload :=
  if Generator.maxParams < message.params.length ∨ Generator.frameIdSize ≤ frameId.length then none
  else some {
    header := Generator.headerPayload 0 message.header.stamp frameId
    requestId := message.requestId
    trajectoryId := message.trajectoryId
    revision := message.revision
    flags := message.flags
    startSec := message.startTime.sec
    startNsec := message.startTime.nsec
    analyticType := message.analyticType
    paramsLen := .ofNat message.params.length
    duration := message.duration
    originPosition := message.origin.position
    originQ := message.origin.orientation
    params := message.params }

/-- A planner setpoint as the controller takes it. -/
def PositionTargetPayload.ingress (payload : PositionTargetPayload) (receiptTime : Time) :
    Except RuntimeError PositionTargetIngress := do
  return {
    position := payload.position
    velocity := payload.velocity
    acceleration := payload.acceleration
    yaw := payload.yaw
    yawRate := payload.yawRate
    typeMask := payload.typeMask
    coordinateFrame := payload.coordinateFrame
    headerStamp := ← Time.ofFields payload.stampSec payload.stampNsec
    receiptTime }

/-- `xgc2.px4.attitude_rate_target.v1` -/
structure AttitudeRatePayload where
  stampSec : UInt32 := 0
  stampNsec : UInt32 := 0
  bodyRate : Vec3 := {}
  thrust : Double := 0
deriving DecidableEq, Repr

/-- What `xgc2.px4.fcu_request.v1` asks for: its kind with the field of that kind. -/
inductive FcuRequest where
  | arm (arm : Bool)
  | mode (mode : String)
deriving DecidableEq, Repr

/-- `xgc2.px4.fcu_request.v1` -/
structure FcuRequestPayload where
  stampSec : UInt32 := 0
  stampNsec : UInt32 := 0
  request : FcuRequest
deriving DecidableEq, Repr

/-- `xgc2.px4.controller_status.v1` -/
structure ControllerStatusPayload where
  stampSec : UInt32 := 0
  stampNsec : UInt32 := 0
  state : String := ""
deriving DecidableEq, Repr

def stateCapacity : Nat := 48

/-- A text that leaves room for its terminator. -/
def copyText (text : String) (capacity : Nat) : Option String :=
  if capacity ≤ text.length then none else some text

inductive ModuleOutput where
  | setpoint (payload : PositionTargetPayload)
  | attitudeRate (payload : AttitudeRatePayload)
  | fcuRequest (payload : FcuRequestPayload)
  | status (payload : ControllerStatusPayload)
  | refRequest (payload : AnalyticPayload)
deriving DecidableEq, Repr

end Module

end MultirotorController
