import MultirotorController.Driver.ControllerDriver
import MultirotorController.Module.ControllerPorts
import MultirotorController.Module.JsonConfig
import MultirotorController.Nmpc.NmpcMathUtils
import MultirotorController.Safety.Environment
import MultirotorController.Uav.ReferenceActivation

/-!
# The controller module

A step applies the samples that arrived in the order of their stamps, updates the
driver when it has to and writes what the update emitted. An input that throws is
skipped, an output that throws is a failed write, and an update that throws ends
the step. The solver's thread may work between any two of these operations. The
host decides which outputs can be written; log lines are left out.
-/

namespace MultirotorController

namespace FlightState

def name : FlightState → String
  | selfCheck => "SelfCheck"
  | ready => "Ready"
  | takeoffInit => "TakeoffInit"
  | takeoffOffboardRequest => "TakeoffOffboardRequest"
  | takeoffArmRequest => "TakeoffArmRequest"
  | takeoffAscending => "TakeoffAscending"
  | hover => "Hover"
  | landing => "Landing"
  | custom1 => "Custom1"

end FlightState

namespace Module

open Procedure

inductive ModuleStatus where
  | ok
  | errInvalid
  | errState
  | errInternal
deriving DecidableEq, Repr

/-- What came of an effect. -/
inductive Write where
  | nothing
  | failed
  | done (output : ModuleOutput)
deriving DecidableEq, Repr

/-- A slot that is not there, a message that does not fit and a refused commit are failures. -/
def write (slot commits : Bool) (output : Option ModuleOutput) : Write :=
  if !slot then .failed
  else
    match output with
    | none => .failed
    | some output => if commits then .done output else .failed

structure StepContext where
  nowNs : Int64 := 0
  wake : Bool := false
  deadline : Bool := false
  config : Bool := false
  /-- What the host holds for the inputs, in the order of arrival. -/
  samples : List Input := []
  /-- What the solver's thread does before each operation of the step. -/
  background : Nat → List WorkerEvent := fun _ => []
  /-- Whether the host has a slot for each write, and whether it takes it. -/
  slot : Nat → Bool := fun _ => true
  commits : Nat → Bool := fun _ => true
  /-- Whether an idle worker accepts each request. -/
  accepts : Nat → Bool := fun _ => true

def StepContext.updateDue (context : StepContext) : Bool :=
  context.wake || context.deadline || context.config

structure StepOutput where
  status : ModuleStatus := .ok
  written : List ModuleOutput := []
  /-- The flight state and whether the module is degraded, when either has changed. -/
  report : Option (String × Bool) := none
  wake : Bool := false
deriving DecidableEq, Repr

variable [Libm] [Xgc2Math]

/-- What exists while the module is started. -/
structure ModuleRuntime extends ControllerDriver where
  activation : ReferenceActivation := {}

namespace ModuleRuntime

variable (runtime : ModuleRuntime)

def withDriver (driver : ControllerDriver) : ModuleRuntime :=
  { runtime with toControllerDriver := driver }

def work (events : List WorkerEvent) : ModuleRuntime :=
  runtime.withDriver (events.foldl ControllerDriver.work runtime.toControllerDriver)

/-- An operation on the snapshot and its statistics. -/
def onSensing (operation : EStateM RuntimeError Sensing Unit) :
    EStateM RuntimeError ControllerDriver Unit := fun driver =>
  match operation.run driver.sensing with
  | .ok _ sensing => .ok () { driver with sensing }
  | .error error sensing => .error error { driver with sensing }

/-- One input, as the producer of its topic handles it. -/
def apply (input : Input) : EStateM RuntimeError ControllerDriver Unit :=
  match input.sample with
  | .wrongSize _ => return
  | .payload payload => do
      let receipt ← rethrow (time input.stampNs)
      match payload with
      | .sensor payload =>
          onSensing (Sensing.observe payload.stream receipt)
          onSensing (writePayload payload)
          if payload = .imu then modify (·.deliver .freshImu)
      | .command payload =>
          match parseFlightCommand (boundedString payload.text commandCapacity) with
          | some command => modify (·.deliver (.command command))
          | none => return
      | .algSetpoint payload =>
          let ingress ← rethrow (payload.ingress receipt)
          modify (·.deliver (.plannerSetpoint ingress))
      | .hoverThrust payload =>
          let stamp ← rethrow (Time.ofFields payload.stampSec payload.stampNsec)
          modify (·.withSensor fun sensor => (ingestHoverThrust sensor payload.hoverThrust
            payload.flags stamp.toSec receipt.toSec).1)
      | .refActiveAnalytic payload =>
          match ← rethrow (analyticToCore payload) with
          | some message => modify (·.deliver (.activeAnalytic message receipt))
          | none => return
      | .refActiveSampled payload =>
          match ← rethrow (sampledToCore payload) with
          | some message => modify (·.deliver (.activeSampled message receipt))
          | none => return
      | .localPv payload => modify (·.ingestPairedLocalPv payload.position payload.velocity)

/-- A step catches what an input throws and keeps what it had written. -/
def receive (driver : ControllerDriver) (input : Input) : ControllerDriver :=
  match (apply input).run driver with
  | .ok _ after => after
  | .error _ after => after

/-- Applies one input after another, each after what the solver's thread did. -/
def applyAll (context : StepContext) : List Input → Nat → ModuleRuntime → ModuleRuntime
  | [], _, runtime => runtime
  | input :: rest, count, runtime =>
      let worked := runtime.work (context.background count)
      applyAll context rest (count + 1)
        (worked.withDriver (receive worked.toControllerDriver input))

/-- The setpoint as it is published. -/
def setpointPayload (now : Time) (controller : DroneController) : PositionTargetPayload :=
  let setpoint := controller.setpoint
  { stampSec := now.sec
    stampNsec := now.nsec
    position := ⟨setpoint.x, setpoint.y, setpoint.z⟩
    velocity := ⟨setpoint.vx, setpoint.vy, setpoint.vz⟩
    acceleration := ⟨setpoint.ax, setpoint.ay, setpoint.az⟩
    yaw := quaternionToYaw setpoint.qx setpoint.qy setpoint.qz setpoint.qw
    yawRate := setpoint.yawRate
    typeMask := setpoint.typeMask
    coordinateFrame := setpoint.coordinateFrame }

/-- The target as it is published, its thrust limited once more. -/
def attitudePayload (now : Time) (controller : DroneController) : AttitudeRatePayload :=
  let target := controller.attitudeRateTarget
  { stampSec := now.sec
    stampNsec := now.nsec
    bodyRate := ⟨target.bodyRateX, target.bodyRateY, target.bodyRateZ⟩
    thrust := NmpcMath.clamp target.thrust 0 1 }

/-- One effect of an update. The snapshot is still the one of the update. -/
def handle (params : ReferenceParams) (now : Time) (slot commits accepts : Bool)
    (effect : FlightEffect) : ModuleRuntime × Write :=
  match effect with
  | .setpoint _ =>
      (runtime,
        write slot commits (some (.setpoint (setpointPayload now runtime.runtime.controller))))
  | .attitude _ =>
      (runtime,
        write slot commits (some (.attitudeRate (attitudePayload now runtime.runtime.controller))))
  | .armRequest _ arm =>
      (runtime, write slot commits (some (.fcuRequest ⟨now.sec, now.nsec, .arm arm⟩)))
  | .modeRequest _ mode =>
      (runtime, write slot commits
        ((copyText mode modeCapacity).map fun mode => .fcuRequest ⟨now.sec, now.nsec, .mode mode⟩))
  | .referenceActivation timestamp =>
      let stamp := if 0 < timestamp then timestamp else now.toSec
      match (ReferenceActivation.make stamp runtime.runtime.controller.sensorData params).run
          runtime.activation with
      | .error _ activation => ({ runtime with activation }, .failed)
      | .ok request activation =>
          ({ runtime with activation },
            write slot commits ((analyticToPayload request "map").map .refRequest))
  | .nmpcRequest timestamp sequence generation =>
      match NmpcExecution.handle runtime.runtime.controller runtime.worker runtime.clock accepts
          ⟨timestamp, sequence, generation⟩ with
      | .error _ => (runtime, .failed)
      | .ok (controller, worker) =>
          (runtime.withDriver { runtime.toControllerDriver with
            runtime := { runtime.runtime with controller }
            worker }, .nothing)
  | .status _ =>
      (runtime, write slot commits
        ((copyText runtime.runtime.flightState.name stateCapacity).map fun state =>
          .status ⟨now.sec, now.nsec, state⟩))
  | _ => (runtime, .nothing)

/-- Handles one effect after another, each after what the solver's thread did. -/
def handleAll (params : ReferenceParams) (now : Time) (context : StepContext) :
    List FlightEffect → Nat → ModuleRuntime → ModuleRuntime × List Write
  | [], _, runtime => (runtime, [])
  | effect :: rest, count, runtime =>
      let (runtime, result) := (runtime.work (context.background count)).handle params now
        (context.slot count) (context.commits count) (context.accepts count) effect
      let (runtime, results) := handleAll params now context rest (count + 1) runtime
      (runtime, result :: results)

end ModuleRuntime

/-- The outputs that reached the host. -/
def outputsOf (results : List Write) : List ModuleOutput :=
  results.filterMap fun
    | .done output => some output
    | _ => none

structure ModuleConfig where
  controller : ControllerConfig := {}
  reference : ReferenceParams := {}
deriving DecidableEq, Repr

/-- The readers of the module's configuration. -/
structure ConfigReaders where
  controller : JsonConfig.Reader ControllerConfig
  reference : JsonConfig → ReferenceParams

structure ControllerModule where
  config : ModuleConfig := {}
  runtime : Option ModuleRuntime := none
  /-- The wake-up the host was asked for. -/
  deadline : Option Nat := none
  outputFailed : Bool := false
  reported : Option (String × Bool) := none

namespace ControllerModule

variable (module : ControllerModule)

/-- The configuration of a started controller is taken only on the ground. -/
def configure (readers : ConfigReaders) (json : JsonConfig) : ControllerModule × StepOutput :=
  match JsonConfig.readConfig readers.controller json with
  | .error _ => (module, { status := .errInvalid })
  | .ok next =>
      if module.runtime.any (!·.runtime.onTheGround) then (module, { status := .errState })
      else
        ({ module with
           config := ⟨next, readers.reference json⟩
           runtime := module.runtime.map fun runtime =>
             runtime.withDriver (runtime.toControllerDriver.deliver (.configure next)) }, {})

/-- Reports the flight state and the health, when either has changed. -/
def reportIfChanged (runtime : ModuleRuntime) (output : StepOutput) :
    ControllerModule × StepOutput :=
  let present := (runtime.runtime.flightState.name, module.outputFailed)
  if module.reported = some present then (module, output)
  else ({ module with reported := some present }, { output with report := some present })

/-- The end of a start whose driver has been started. -/
def launch (built : ModuleRuntime) : ControllerDriver × Except RuntimeError Unit →
    ControllerModule × StepOutput
  | (driver, .error _) =>
      ({ module with runtime := some (built.withDriver driver) }, { status := .errInternal })
  | (driver, .ok _) =>
      let runtime := built.withDriver driver
      let module := { module with runtime := some runtime, reported := none }
      module.reportIfChanged runtime { wake := true }

/-- A start that throws leaves an inactive driver behind. -/
def start (nowNs : Int64) : ControllerModule × StepOutput :=
  match module.runtime with
  | some _ => (module, { status := .errState })
  | none =>
      let built : ModuleRuntime :=
        { runtime := FlightRuntime.initial.setConfig module.config.controller }
      match time nowNs with
      | .error _ => ({ module with runtime := some built }, { status := .errInternal })
      | .ok now => module.launch built (built.toControllerDriver.start now)

def stop : ControllerModule × StepOutput :=
  match module.runtime with
  | some _ => ({ module with runtime := none, deadline := none }, {})
  | none => (module, {})

/-- A wake-up of the host is used up by the step it causes. -/
def consumeDeadline (context : StepContext) : ControllerModule :=
  if context.deadline then { module with deadline := none } else module

/-- The health follows the last writes. -/
def healthAfter (results : List Write) : Bool :=
  if results.contains .failed then true
  else if (outputsOf results).isEmpty then module.outputFailed
  else false

/-- The end of a turn whose effects have been handled. -/
def settle (handled : ModuleRuntime × List Write) (continuation : Bool) :
    ControllerModule × StepOutput :=
  let runtime := handled.1.withDriver handled.1.toControllerDriver.resetNewFlags
  let written := outputsOf handled.2
  let module := { module with
    runtime := some runtime
    outputFailed := module.healthAfter handled.2 }
  match runtime.toControllerDriver.nextWake false with
  | .error _ => (module, { status := .errInternal, written })
  | .ok deadline =>
      { module with deadline }.reportIfChanged runtime { written, wake := continuation }

/-- Updates the driver and writes its effects; `count` operations of the step are done. -/
def turn (runtime : ModuleRuntime) (context : StepContext) (count : Nat) (now : Time) :
    ControllerModule × StepOutput :=
  let worked := runtime.work (context.background count)
  match worked.toControllerDriver.update now with
  | (driver, .error _) =>
      ({ module with runtime := some (worked.withDriver driver) }, { status := .errInternal })
  | (driver, .ok continuation) =>
      module.settle (ModuleRuntime.handleAll module.config.reference now context
        driver.runtime.controller.flightEffects (count + 1) (worked.withDriver driver)) continuation

/-- The batch of a step and its turn; a battery sample alone is no reason for an update. -/
def stepAt (runtime : ModuleRuntime) (context : StepContext) (now : Time) :
    ControllerModule × StepOutput :=
  let module := module.consumeDeadline context
  let inputs := collectInputs context.samples
  let applied := ModuleRuntime.applyAll context inputs 0 runtime
  if inputs.all (·.port = .sensor .battery) && !context.updateDue then
    ({ module with runtime := some applied }, {})
  else module.turn applied context inputs.length now

/-- One turn of the owner. -/
def step (context : StepContext) : ControllerModule × StepOutput :=
  match module.runtime with
  | none => (module, { status := .errState })
  | some runtime =>
      match time context.nowNs with
      | .error _ => (module, { status := .errInternal })
      | .ok now => module.stepAt runtime context now

end ControllerModule

/-- What may happen to the module. -/
inductive ModuleInput where
  | configure (json : JsonConfig)
  | start (nowNs : Int64)
  | step (context : StepContext)
  | stop
  | background (event : WorkerEvent)

/-- The module in its host, with the solver's thread beside it. -/
def controllerMachine (readers : ConfigReaders) :
    Machine ControllerModule ModuleInput StepOutput where
  step module
    | .configure json => module.configure readers json
    | .start nowNs => module.start nowNs
    | .step context => module.step context
    | .stop => module.stop
    | .background event =>
        ({ module with runtime := module.runtime.map (·.work [event]) }, {})

end Module

end MultirotorController
