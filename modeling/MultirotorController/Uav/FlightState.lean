import MultirotorController.Uav.StateMachine.Custom1
import MultirotorController.Uav.StateMachine.Ground
import MultirotorController.Uav.StateMachine.HealthMonitor
import MultirotorController.Uav.StateMachine.Landing
import MultirotorController.Uav.StateMachine.Takeoff

/-!
# The flight machine

One leaf is active at a time. A turn takes a batch of commands, runs the health
monitor, ticks the leaf, lets it choose a transition, defers the unselected
signals of the leaf by one turn and runs the debug monitor. Only the tick of
Custom1 can throw; the turn then ends where it stands, and the signals collected
so far wait for the next turn.
-/

namespace MultirotorController

/-- The same controller with the leaf seen in a wider type. -/
def Scope.map {Leaf Leaf' : Type} (embed : Leaf → Leaf') (scope : Scope Leaf) : Scope Leaf' :=
  ⟨scope.controller, embed scope.leaf⟩

@[simp] theorem Scope.map_controller {Leaf Leaf' : Type} (embed : Leaf → Leaf')
    (scope : Scope Leaf) : (scope.map embed).controller = scope.controller := rfl

@[simp] theorem Scope.map_leaf {Leaf Leaf' : Type} (embed : Leaf → Leaf')
    (scope : Scope Leaf) : (scope.map embed).leaf = embed scope.leaf := rfl

variable [Xgc2Math]

/-- The active leaf with its own data. -/
inductive FlightLeaf where
  | selfCheck (leaf : SelfCheckState)
  | ready (leaf : ReadyState)
  | takeoffInit (leaf : TakeoffInitState)
  | takeoffOffboardRequest (leaf : TakeoffOffboardRequestState)
  | takeoffArmRequest (leaf : TakeoffArmRequestState)
  | takeoffAscending (leaf : TakeoffAscendingState)
  | hover (leaf : HoverState)
  | custom1 (leaf : Custom1State)
  | landing (leaf : LandingState)

namespace FlightLeaf

def flightState : FlightLeaf → FlightState
  | selfCheck _ => .selfCheck
  | ready _ => .ready
  | takeoffInit _ => .takeoffInit
  | takeoffOffboardRequest _ => .takeoffOffboardRequest
  | takeoffArmRequest _ => .takeoffArmRequest
  | takeoffAscending _ => .takeoffAscending
  | hover _ => .hover
  | custom1 _ => .custom1
  | landing _ => .landing

/-- A leaf as its constructor leaves it, before it is entered. -/
def fresh : FlightState → FlightLeaf
  | .selfCheck => selfCheck {}
  | .ready => ready {}
  | .takeoffInit => takeoffInit {}
  | .takeoffOffboardRequest => takeoffOffboardRequest {}
  | .takeoffArmRequest => takeoffArmRequest {}
  | .takeoffAscending => takeoffAscending {}
  | .hover => hover {}
  | .landing => landing { worldFrame := Setpoint.coordinateFrame_default }
  | .custom1 => custom1 { frozenFrame := Setpoint.coordinateFrame_default }

@[simp] theorem flightState_fresh (state : FlightState) : (fresh state).flightState = state := by
  cases state <;> rfl

variable [Libm]

def onEnter (controller : DroneController) : FlightLeaf → Scope FlightLeaf
  | selfCheck leaf => (SelfCheckState.onEnter ⟨controller, leaf⟩).map selfCheck
  | ready leaf => (ReadyState.onEnter ⟨controller, leaf⟩).map ready
  | takeoffInit leaf => (TakeoffInitState.onEnter ⟨controller, leaf⟩).map takeoffInit
  | takeoffOffboardRequest leaf =>
      (TakeoffOffboardRequestState.onEnter ⟨controller, leaf⟩).map takeoffOffboardRequest
  | takeoffArmRequest leaf =>
      (TakeoffArmRequestState.onEnter ⟨controller, leaf⟩).map takeoffArmRequest
  | takeoffAscending leaf =>
      (TakeoffAscendingState.onEnter ⟨controller, leaf⟩).map takeoffAscending
  | hover leaf => (HoverState.onEnter ⟨controller, leaf⟩).map hover
  | custom1 leaf => (Custom1State.onEnter ⟨controller, leaf⟩).map custom1
  | landing leaf => (LandingState.onEnter ⟨controller, leaf⟩).map landing

def onExit (controller : DroneController) : FlightLeaf → Scope FlightLeaf
  | selfCheck leaf => (SelfCheckState.onExit ⟨controller, leaf⟩).map selfCheck
  | ready leaf => (ReadyState.onExit ⟨controller, leaf⟩).map ready
  | takeoffInit leaf => (TakeoffInitState.onExit ⟨controller, leaf⟩).map takeoffInit
  | takeoffOffboardRequest leaf =>
      (TakeoffOffboardRequestState.onExit ⟨controller, leaf⟩).map takeoffOffboardRequest
  | takeoffArmRequest leaf =>
      (TakeoffArmRequestState.onExit ⟨controller, leaf⟩).map takeoffArmRequest
  | takeoffAscending leaf =>
      (TakeoffAscendingState.onExit ⟨controller, leaf⟩).map takeoffAscending
  | hover leaf => (HoverState.onExit ⟨controller, leaf⟩).map hover
  | custom1 leaf => (Custom1State.onExit ⟨controller, leaf⟩).map custom1
  | landing leaf => (LandingState.onExit ⟨controller, leaf⟩).map landing

/-- The scope after a tick, and the error if the tick threw. -/
def onTick (controller : DroneController) :
    FlightLeaf → Scope FlightLeaf × Except RuntimeError Unit
  | selfCheck leaf => ((SelfCheckState.onTick ⟨controller, leaf⟩).map selfCheck, .ok ())
  | ready leaf => (⟨controller, ready leaf⟩, .ok ())
  | takeoffInit leaf => ((TakeoffInitState.onTick ⟨controller, leaf⟩).map takeoffInit, .ok ())
  | takeoffOffboardRequest leaf =>
      ((TakeoffOffboardRequestState.onTick ⟨controller, leaf⟩).map takeoffOffboardRequest, .ok ())
  | takeoffArmRequest leaf =>
      ((TakeoffArmRequestState.onTick ⟨controller, leaf⟩).map takeoffArmRequest, .ok ())
  | takeoffAscending leaf =>
      ((TakeoffAscendingState.onTick ⟨controller, leaf⟩).map takeoffAscending, .ok ())
  | hover leaf => ((HoverState.onTick ⟨controller, leaf⟩).map hover, .ok ())
  | custom1 leaf =>
      match Custom1State.onTick.run ⟨controller, leaf⟩ with
      | .ok _ scope => (scope.map custom1, .ok ())
      | .error error scope => (scope.map custom1, .error error)
  | landing leaf => ((LandingState.onTick ⟨controller, leaf⟩).map landing, .ok ())

/-- Only Hover and TakeoffAscending react to a command that caused no transition. -/
def onCommand (controller : DroneController) (command : FlightCommand) :
    FlightLeaf → Scope FlightLeaf
  | hover leaf => (HoverState.onEvent ⟨controller, leaf⟩ command).map hover
  | takeoffAscending leaf =>
      (TakeoffAscendingState.onEvent ⟨controller, leaf⟩ command).map takeoffAscending
  | leaf => ⟨controller, leaf⟩

end FlightLeaf

/-- A transition and what it was selected by; neither a signal nor a command for the
transitions that a level or a timeout causes. -/
structure Choice where
  target : FlightState
  selectedSignal : Option Nat := none
  selectedCommand : Bool := false
deriving DecidableEq, Repr

structure FlightRuntime where
  controller : DroneController := {}
  health : HealthMonitorState := {}
  debug : DebugMonitorState := {}
  leaf : FlightLeaf
  pendingCommands : List FlightCommand := []
  commands : List FlightCommand := []
  deferredSignals : List FlightSignal := []
  selectedSignal : Option Nat := none
  selectedCommand : Bool := false

namespace FlightRuntime

section Choose

variable (runtime : FlightRuntime)

def flightState : FlightState := runtime.leaf.flightState

def hasCommand (command : FlightCommand) : Bool := runtime.commands.contains command

def hasSignal (signal : FlightSignal) : Bool := runtime.controller.signals.contains signal

/-- A transition selected by the first occurrence of a signal. -/
def onSignal (signal : FlightSignal) (target : FlightState) : Choice :=
  { target, selectedSignal := some (runtime.controller.signals.findIdx (· == signal)) }

/-- Signals that land a flying or ready vehicle, in the order of the handler. -/
def safetyOrder : List FlightSignal :=
  [.geofence, .velocityXY, .velocityZ, .saturationXY, .saturationZ, .estimateUnusable,
    .timeoutEstimate, .timeoutLocalPosition, .timeoutLocalVelocity, .timeoutImu, .timeoutFcuState]

def normalPreemption : Option Choice :=
  match safetyOrder.find? runtime.hasSignal with
  | some signal => some (runtime.onSignal signal .landing)
  | none =>
      if runtime.hasCommand .land then some { target := .landing, selectedCommand := true }
      else none

def takeoffPreemption : Option Choice :=
  match runtime.normalPreemption with
  | some choice => some choice
  | none =>
      if runtime.health.positionDistance.exceeded then some { target := .landing } else none

def elapsedOverTen : Bool := decide (10 < runtime.controller.flightElapsed)

/-- The first candidate that applies, or staying. -/
def chooseSelfCheck : Option Choice :=
  if SensorChecks.areSensorsReady runtime.controller.sensorData runtime.controller.backend then
    some { target := .ready }
  else none

def chooseReady : Option Choice :=
  let sensor := runtime.controller.sensorData
  let distance := runtime.health.positionDistance
  match runtime.normalPreemption with
  | some choice => some choice
  | none =>
      if runtime.controller.isAirborne then some { target := .landing }
      else if runtime.hasCommand .takeoff && distance.available && !distance.exceeded then
        some { target := .takeoffInit, selectedCommand := true }
      else if !SensorChecks.areSensorsReady sensor runtime.controller.backend then
        some { target := .selfCheck }
      else none

/-- TakeoffInit and TakeoffOffboardRequest: back to Ready when armed too early, on when
the leaf has confirmed its mode, to Landing after ten seconds. -/
def chooseModeRequest (confirmed : FlightSignal) (next : FlightState) : Option Choice :=
  match runtime.takeoffPreemption with
  | some choice => some choice
  | none =>
      if SensorChecks.isFcuArmed runtime.controller.sensorData then some { target := .ready }
      else if runtime.hasSignal confirmed then some (runtime.onSignal confirmed next)
      else if runtime.elapsedOverTen then some { target := .landing }
      else none

def chooseTakeoffInit : Option Choice :=
  runtime.chooseModeRequest .altctlReady .takeoffOffboardRequest

def chooseTakeoffOffboardRequest : Option Choice :=
  runtime.chooseModeRequest .offboardReady .takeoffArmRequest

def chooseTakeoffArmRequest : Option Choice :=
  match runtime.takeoffPreemption with
  | some choice => some choice
  | none =>
      if runtime.hasSignal .armReady then some (runtime.onSignal .armReady .takeoffAscending)
      else if runtime.elapsedOverTen then some { target := .landing }
      else none

def chooseTakeoffAscending : Option Choice :=
  let controller := runtime.controller
  match runtime.takeoffPreemption with
  | some choice => some choice
  | none =>
      if runtime.hasCommand .hover then some { target := .hover, selectedCommand := true }
      else if runtime.hasCommand .track && controller.custom1ReferenceReady then
        some { target := .custom1, selectedCommand := true }
      else if runtime.hasSignal .altitudeReached then
        some (runtime.onSignal .altitudeReached .hover)
      else if runtime.hasSignal .takeoffTimeout then
        some (runtime.onSignal .takeoffTimeout .landing)
      else if controller.custom1Requested && controller.custom1ReferenceReady then
        some { target := .custom1 }
      else none

def chooseHover : Option Choice :=
  let controller := runtime.controller
  match runtime.takeoffPreemption with
  | some choice => some choice
  | none =>
      if runtime.hasCommand .track && controller.custom1ReferenceReady then
        some { target := .custom1, selectedCommand := true }
      else if controller.custom1Requested && controller.custom1ReferenceReady then
        some { target := .custom1 }
      else none

def chooseCustom1 : Option Choice :=
  match runtime.takeoffPreemption with
  | some choice => some choice
  | none =>
      if runtime.hasCommand .hover then some { target := .hover, selectedCommand := true }
      else if runtime.hasSignal .referenceFinished then
        some (runtime.onSignal .referenceFinished .hover)
      else none

/-- Landing listens to nothing but its own touchdown. -/
def chooseLanding : Option Choice :=
  if runtime.hasSignal .touchdown then some (runtime.onSignal .touchdown .selfCheck) else none

/-- `FlightSpec::handle(·, FlightChoose)`; `none` is staying. -/
def choose : Option Choice :=
  match runtime.flightState with
  | .selfCheck => runtime.chooseSelfCheck
  | .ready => runtime.chooseReady
  | .takeoffInit => runtime.chooseTakeoffInit
  | .takeoffOffboardRequest => runtime.chooseTakeoffOffboardRequest
  | .takeoffArmRequest => runtime.chooseTakeoffArmRequest
  | .takeoffAscending => runtime.chooseTakeoffAscending
  | .hover => runtime.chooseHover
  | .custom1 => runtime.chooseCustom1
  | .landing => runtime.chooseLanding

end Choose

section Phases

variable [Libm]

/-- The clock, the command batch and the signals that a turn begins with. -/
def beginTurn (now : Time) (runtime : FlightRuntime) : FlightRuntime :=
  let batch := runtime.pendingCommands.take 64
  { runtime with
    commands := batch
    pendingCommands := runtime.pendingCommands.drop 64
    deferredSignals := []
    selectedSignal := none
    selectedCommand := false
    controller := { runtime.controller with
      flightEffects := []
      currentTime := now.toSec
      signals := runtime.controller.signals ++ runtime.deferredSignals
      diagnosticEvents := batch.map diagnosticId } }

/-- The health monitor runs first; the signals of fresh IMU messages become
diagnostic events after its own. -/
def healthTurn (freshImuSignals : Nat) (runtime : FlightRuntime) : FlightRuntime :=
  let scope := HealthMonitorState.onTick ⟨runtime.controller, runtime.health⟩
  { runtime with
    health := scope.leaf
    controller := { scope.controller with
      diagnosticEvents := scope.controller.diagnosticEvents ++
        (scope.controller.signals.take freshImuSignals).map FlightSignal.id } }

/-- The controller between the exit of the old leaf and the entry of the new one, whose
time of entry is the time of the turn. -/
def leave (choice : Choice) (runtime : FlightRuntime) : DroneController :=
  let controller := runtime.controller
  let controller :=
    if choice.selectedSignal.isNone && !choice.selectedCommand then
      { controller with diagnosticEvents := controller.diagnosticEvents ++ [0] }
    else controller
  let exited := (runtime.leaf.onExit controller).controller
  { exited with enteredAt := asClock exited.currentTime }

def transition (choice : Choice) (runtime : FlightRuntime) : FlightRuntime :=
  let entered := (FlightLeaf.fresh choice.target).onEnter (leave choice runtime)
  { runtime with
    controller := entered.controller
    leaf := entered.leaf
    selectedSignal := choice.selectedSignal
    selectedCommand := choice.selectedCommand }

def dispatchCommand (runtime : FlightRuntime) (command : FlightCommand) : FlightRuntime :=
  let scope := runtime.leaf.onCommand runtime.controller command
  { runtime with controller := scope.controller, leaf := scope.leaf }

def applyChoice (choice : Option Choice) (runtime : FlightRuntime) : FlightRuntime :=
  match choice with
  | some choice => runtime.transition choice
  | none => runtime.commands.foldl dispatchCommand runtime

/-- The leaf's own signals, from `start` on, survive for one turn unless selected. -/
def deferSignals (start : Nat) (runtime : FlightRuntime) : FlightRuntime :=
  let control := (runtime.controller.signals.drop start).zipIdx start
  { runtime with
    deferredSignals :=
      (control.filter fun entry => runtime.selectedSignal ≠ some entry.2).map (·.1) }

def debugTurn (runtime : FlightRuntime) : FlightRuntime :=
  let scope := DebugMonitorState.onTick ⟨runtime.controller, runtime.debug⟩
  { runtime with controller := scope.controller, debug := scope.leaf }

def clearSignals (runtime : FlightRuntime) : FlightRuntime :=
  { runtime with controller := { runtime.controller with signals := [] } }

/-- The runtime up to the choice of the leaf: after the health monitor. -/
def afterHealth (now : Time) (runtime : FlightRuntime) : FlightRuntime :=
  healthTurn runtime.controller.signals.length (beginTurn now runtime)

/-- The runtime after the tick of the active leaf, and the error if it threw. -/
def controlTick (runtime : FlightRuntime) : FlightRuntime × Except RuntimeError Unit :=
  let (scope, outcome) := runtime.leaf.onTick runtime.controller
  ({ runtime with controller := scope.controller, leaf := scope.leaf }, outcome)

/-- What follows the tick, up to the end of the turn. -/
def afterTick (start : Nat) (ticked : FlightRuntime) : FlightRuntime :=
  clearSignals (debugTurn (deferSignals start (applyChoice ticked.choose ticked)))

/-- One turn: the runtime after it and whether another turn is due at once. -/
def update (runtime : FlightRuntime) (now : Time) :
    FlightRuntime × Except RuntimeError Bool :=
  let healthy := afterHealth now runtime
  let start := healthy.controller.signals.length
  let (ticked, outcome) := healthy.controlTick
  match outcome with
  | .error error => (ticked, .error error)
  | .ok _ =>
      let final := afterTick start ticked
      (final, .ok (ticked.choose.isSome || !healthy.pendingCommands.isEmpty ||
        !final.deferredSignals.isEmpty))

end Phases

section Wake

/-- The first tick of the clock at which the time since entry reaches a bound, or passes it.
The steady clock counts whole nanoseconds. -/
def entryDeadline (controller : DroneController) (seconds : Double) (strict : Bool) : Deadline :=
  let delta := asClock seconds
  let represented : Double := .fin (delta / 1000000000)
  let delta :=
    if represented < seconds ∨ strict = true ∧ represented = seconds then delta + 1 else delta
  let target := controller.enteredAt + delta
  let due : Double := .fin (target / 1000000000)
  if asClock due < target then .nextAfter (due + 1e-9) else { due }

def takeoffRequestTimeout : Double := 10.0

variable (runtime : FlightRuntime)

def leafWake : Except RuntimeError (Option Deadline) :=
  let controller := runtime.controller
  match runtime.leaf with
  | .selfCheck leaf => return SelfCheckState.nextWake ⟨controller, leaf⟩
  | .ready _ => return none
  | .takeoffInit leaf => return TakeoffInitState.nextWake ⟨controller, leaf⟩
  | .takeoffOffboardRequest leaf =>
      return TakeoffOffboardRequestState.nextWake ⟨controller, leaf⟩
  | .takeoffArmRequest leaf => return TakeoffArmRequestState.nextWake ⟨controller, leaf⟩
  | .takeoffAscending leaf => return TakeoffAscendingState.nextWake ⟨controller, leaf⟩
  | .hover leaf => return HoverState.nextWake ⟨controller, leaf⟩
  | .custom1 leaf => Custom1State.nextWake ⟨controller, leaf⟩
  | .landing leaf => return LandingState.nextWake ⟨controller, leaf⟩

def timeoutWake : Option Deadline :=
  let controller := runtime.controller
  match runtime.leaf with
  | .takeoffInit _ | .takeoffOffboardRequest _ | .takeoffArmRequest _ =>
      some (entryDeadline controller takeoffRequestTimeout true)
  | .takeoffAscending leaf =>
      (TakeoffAscendingState.timeoutAfterEntry ⟨controller, leaf⟩).map
        (entryDeadline controller · true)
  | .landing leaf =>
      (LandingState.timeoutAfterEntry ⟨controller, leaf⟩).map (entryDeadline controller · false)
  | _ => none

/-- The earliest time at which some part of the machine may act without an input. -/
def nextWake : Except RuntimeError (Option Deadline) := do
  let health := HealthMonitorState.nextWake ⟨runtime.controller, runtime.health⟩
  let debug := DebugMonitorState.nextWake ⟨runtime.controller, runtime.debug⟩
  return Deadline.earliest [health, some debug, ← runtime.leafWake, runtime.timeoutWake]

end Wake

/-- False when the queue is full. -/
def postCommand (runtime : FlightRuntime) (command : FlightCommand) : FlightRuntime × Bool :=
  if 4096 ≤ runtime.pendingCommands.length then (runtime, false)
  else ({ runtime with pendingCommands := runtime.pendingCommands ++ [command] }, true)

def onFreshImu [Libm] (runtime : FlightRuntime) : FlightRuntime :=
  { runtime with controller := HealthMonitorState.onFreshImu runtime.controller }

def setConfig (runtime : FlightRuntime) (config : ControllerConfig) : FlightRuntime :=
  { runtime with controller := { runtime.controller with config } }

/-- A constructed runtime has entered SelfCheck. -/
def initial [Libm] : FlightRuntime :=
  let scope := (FlightLeaf.fresh .selfCheck).onEnter {}
  { controller := scope.controller, leaf := scope.leaf }

end FlightRuntime

end MultirotorController
