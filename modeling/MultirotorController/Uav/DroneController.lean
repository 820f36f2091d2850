import MultirotorController.Common.SensorChecks
import MultirotorController.Control.TrajectoryLifter
import MultirotorController.Uav.ActiveTrajectoryCache
import MultirotorController.Uav.NmpcResultBuffer

/-!
# Shared state of the controller

The data every flight leaf reaches through its controller reference: the
snapshot, the configuration, the shared setpoint and target, the buffers and the
outputs of the turn. The runtime's signal vector and its entry time are kept here
as well, because a leaf reaches them through the controller. Log texts are not
modelled; log timers are.

`Emits` is the vocabulary in which the leaves are described: which effects and
signals a step may append, everything else about the turn being fixed.
-/

namespace MultirotorController

/-- The first time at which an interval from the start is over. -/
def controllerDueAt (start interval : Double) : Deadline :=
  let due := start + interval
  if due - start < interval then .nextAfter due else { due }

/-- The first time at which more than an interval from the start is over. -/
def controllerStrictDueAt (start interval : Double) : Deadline :=
  let due := start + interval
  if due - start ≤ interval then .nextAfter due else { due }

/-- An interval measured on the controller's own clock, the time of the turn. -/
structure ControllerTimer where
  startTime : Double := 0
  started : Bool := false
deriving DecidableEq, Repr, Inhabited

namespace ControllerTimer

variable (timer : ControllerTimer) (clock : Double)

def start (_timer : ControllerTimer) : ControllerTimer := { startTime := clock, started := true }

def elapsed : Double := if timer.started then clock - timer.startTime else 0

/-- Reset does not start a stopped timer. -/
def reset : ControllerTimer := { timer with startTime := clock }

def stop : ControllerTimer := { timer with started := false }

/-- A timer that was never started fires at once and starts. -/
def shouldRunEvery (intervalSeconds : Double) (resetOnFire : Bool) : ControllerTimer × Bool :=
  if !timer.started then (timer.start clock, true)
  else if intervalSeconds ≤ timer.elapsed clock then
    (if resetOnFire then timer.reset clock else timer, true)
  else (timer, false)

/-- A timer that is not running is never due. -/
def dueAt (interval : Double) : Option Deadline :=
  if !timer.started then none else some (controllerDueAt timer.startTime interval)

end ControllerTimer

/-- Nanosecond ticks of the steady clock. -/
def asClock (seconds : Double) : Int := (seconds * 1000000000).truncInt

structure DroneController where
  flightEffects : List FlightEffect := []
  signals : List FlightSignal := []
  diagnosticEvents : List UInt32 := []
  enteredAt : Int := 0
  nmpcStaleOutputLogTimer : ControllerTimer := {}
  custom1PublishPeriod : Double := kLocalSetpointPublishInterval
  config : ControllerConfig := {}
  sensorData : SensorData := {}
  setpoint : Setpoint := {}
  attitudeRateTarget : AttitudeRateTarget := {}
  mpcTrajectoryBuffer : MpcTrajectoryBuffer := {}
  activeTrajectoryCache : ActiveTrajectoryCache := {}
  nmpcResultBuffer : NmpcResultBuffer := {}
  currentTime : Double := 0
  custom1Requested : Bool := false
deriving DecidableEq, Repr, Inhabited

namespace DroneController

section Operations

variable (controller : DroneController)

def backend : TrackingBackend := controller.config.trackingBackend

def worldX : Double := SensorChecks.worldX controller.sensorData controller.backend
def worldY : Double := SensorChecks.worldY controller.sensorData controller.backend
def worldZ : Double := SensorChecks.worldZ controller.sensorData controller.backend
def worldVz : Double := SensorChecks.worldVz controller.sensorData controller.backend
def isWorldPoseNew : Bool := SensorChecks.isWorldPoseNew controller.sensorData controller.backend
def isAirborne : Bool := SensorChecks.isAirborne controller.sensorData controller.backend

def emitFlightEffect (effect : FlightEffect) : DroneController :=
  { controller with flightEffects := controller.flightEffects ++ [effect] }

def emitFlightSignal (signal : FlightSignal) : DroneController :=
  { controller with
    signals := controller.signals ++ [signal]
    diagnosticEvents := controller.diagnosticEvents ++ [signal.id] }

/-- Seconds since the active leaf was entered. -/
def flightElapsed : Double :=
  .fin ((asClock controller.currentTime - controller.enteredAt : Int) / 1000000000)

def requestCustom1Tracking : DroneController := { controller with custom1Requested := true }

def clearCustom1Request : DroneController := { controller with custom1Requested := false }

/-- Repeats the shared setpoint at the local publication rate. -/
def publishSetpointIfDue (timer : ControllerTimer) : DroneController × ControllerTimer :=
  let (timer, due) :=
    timer.shouldRunEvery controller.currentTime kLocalSetpointPublishInterval true
  (if due then controller.emitFlightEffect (.setpoint controller.currentTime) else controller,
    timer)

/-- Repeats a request every `interval` seconds of a running timer. -/
def requestIfDue (timer : ControllerTimer) (interval : Double) (effect : FlightEffect) :
    DroneController × ControllerTimer :=
  if timer.elapsed controller.currentTime < interval then (controller, timer)
  else (controller.emitFlightEffect effect, timer.reset controller.currentTime)

/-- Only PX4_LOCAL waits for a sample near the present pose. -/
def custom1ReferenceReady : Bool :=
  let config := controller.config
  let ready := fun sample : MpcTrajectoryState =>
    if !passThroughReferenceReady sample then false
    else
      passThroughPlanMatchesHover sample controller.worldX controller.worldY controller.worldZ
        config.nmpc.planHoverXyTol config.nmpc.planHoverZTol
  if config.trackingBackend ≠ .px4Local then true
  else if ready controller.mpcTrajectoryBuffer.active then true
  else controller.mpcTrajectoryBuffer.hasPending && ready controller.mpcTrajectoryBuffer.pending

end Operations

/-- The turn's circumstances are unchanged, and only effects in `allowedEffects` and
signals in `allowedSignals` were appended. -/
structure Emits (allowedEffects : FlightEffect → Prop) (allowedSignals : FlightSignal → Prop)
    (before after : DroneController) : Prop where
  config : after.config = before.config
  sensorData : after.sensorData = before.sensorData
  currentTime : after.currentTime = before.currentTime
  effects : ∃ new, after.flightEffects = before.flightEffects ++ new ∧
    ∀ effect ∈ new, allowedEffects effect
  signals : ∃ new, after.signals = before.signals ++ new ∧ ∀ signal ∈ new, allowedSignals signal

namespace Emits

variable {allowedEffects allowedEffects' : FlightEffect → Prop}
variable {allowedSignals allowedSignals' : FlightSignal → Prop}
variable {first second third : DroneController}

/-- A step that changes neither the circumstances nor the outputs. -/
theorem of_silent (config : second.config = first.config := by rfl)
    (sensorData : second.sensorData = first.sensorData := by rfl)
    (currentTime : second.currentTime = first.currentTime := by rfl)
    (effects : second.flightEffects = first.flightEffects := by rfl)
    (signals : second.signals = first.signals := by rfl) :
    Emits allowedEffects allowedSignals first second where
  config := config
  sensorData := sensorData
  currentTime := currentTime
  effects := ⟨[], by rw [effects, List.append_nil], by simp⟩
  signals := ⟨[], by rw [signals, List.append_nil], by simp⟩

theorem refl (controller : DroneController) :
    Emits allowedEffects allowedSignals controller controller := of_silent

theorem trans (earlier : Emits allowedEffects allowedSignals first second)
    (later : Emits allowedEffects allowedSignals second third) :
    Emits allowedEffects allowedSignals first third where
  config := later.config.trans earlier.config
  sensorData := later.sensorData.trans earlier.sensorData
  currentTime := later.currentTime.trans earlier.currentTime
  effects := by
    obtain ⟨new, appended, allowed⟩ := earlier.effects
    obtain ⟨new', appended', allowed'⟩ := later.effects
    refine ⟨new ++ new', by rw [appended', appended, List.append_assoc], ?_⟩
    intro effect member
    rcases List.mem_append.mp member with old | fresh
    · exact allowed effect old
    · exact allowed' effect fresh
  signals := by
    obtain ⟨new, appended, allowed⟩ := earlier.signals
    obtain ⟨new', appended', allowed'⟩ := later.signals
    refine ⟨new ++ new', by rw [appended', appended, List.append_assoc], ?_⟩
    intro signal member
    rcases List.mem_append.mp member with old | fresh
    · exact allowed signal old
    · exact allowed' signal fresh

/-- `trans` with the middle state named. -/
theorem via (second : DroneController) (earlier : Emits allowedEffects allowedSignals first second)
    (later : Emits allowedEffects allowedSignals second third) :
    Emits allowedEffects allowedSignals first third := earlier.trans later

theorem mono (emits : Emits allowedEffects allowedSignals first second)
    (effects : ∀ effect, allowedEffects effect → allowedEffects' effect)
    (signals : ∀ signal, allowedSignals signal → allowedSignals' signal) :
    Emits allowedEffects' allowedSignals' first second where
  config := emits.config
  sensorData := emits.sensorData
  currentTime := emits.currentTime
  effects := by
    obtain ⟨new, appended, allowed⟩ := emits.effects
    exact ⟨new, appended, fun effect member => effects effect (allowed effect member)⟩
  signals := by
    obtain ⟨new, appended, allowed⟩ := emits.signals
    exact ⟨new, appended, fun signal member => signals signal (allowed signal member)⟩

theorem emitFlightEffect (controller : DroneController) {effect : FlightEffect}
    (allowed : allowedEffects effect) :
    Emits allowedEffects allowedSignals controller (controller.emitFlightEffect effect) where
  config := rfl
  sensorData := rfl
  currentTime := rfl
  effects := ⟨[effect], rfl, by simpa using allowed⟩
  signals := ⟨[], (List.append_nil _).symm, by simp⟩

theorem emitFlightSignal (controller : DroneController) {signal : FlightSignal}
    (allowed : allowedSignals signal) :
    Emits allowedEffects allowedSignals controller (controller.emitFlightSignal signal) where
  config := rfl
  sensorData := rfl
  currentTime := rfl
  effects := ⟨[], (List.append_nil _).symm, by simp⟩
  signals := ⟨[signal], rfl, by simpa using allowed⟩

/-- An effect that was not there before is an allowed one. -/
theorem effect_of_mem (emits : Emits allowedEffects allowedSignals first second)
    {effect : FlightEffect} (member : effect ∈ second.flightEffects) :
    effect ∈ first.flightEffects ∨ allowedEffects effect := by
  obtain ⟨new, appended, allowed⟩ := emits.effects
  rw [appended] at member
  exact (List.mem_append.mp member).imp id (allowed effect)

theorem signal_of_mem (emits : Emits allowedEffects allowedSignals first second)
    {signal : FlightSignal} (member : signal ∈ second.signals) :
    signal ∈ first.signals ∨ allowedSignals signal := by
  obtain ⟨new, appended, allowed⟩ := emits.signals
  rw [appended] at member
  exact (List.mem_append.mp member).imp id (allowed signal)

theorem mem_signals (emits : Emits allowedEffects allowedSignals first second)
    {signal : FlightSignal} (member : signal ∈ first.signals) : signal ∈ second.signals := by
  obtain ⟨new, appended, _⟩ := emits.signals
  rw [appended]
  exact List.mem_append_left _ member

theorem mem_effects (emits : Emits allowedEffects allowedSignals first second)
    {effect : FlightEffect} (member : effect ∈ first.flightEffects) :
    effect ∈ second.flightEffects := by
  obtain ⟨new, appended, _⟩ := emits.effects
  rw [appended]
  exact List.mem_append_left _ member

/-- What is read off the snapshot and the configuration stays the same. -/
theorem backend (emits : Emits allowedEffects allowedSignals first second) :
    second.backend = first.backend :=
  congrArg ControllerConfig.trackingBackend emits.config

theorem worldZ (emits : Emits allowedEffects allowedSignals first second) :
    second.worldZ = first.worldZ := by
  rw [DroneController.worldZ, emits.sensorData, emits.backend, DroneController.worldZ]

theorem isWorldPoseNew (emits : Emits allowedEffects allowedSignals first second) :
    second.isWorldPoseNew = first.isWorldPoseNew := by
  rw [DroneController.isWorldPoseNew, emits.sensorData, emits.backend,
    DroneController.isWorldPoseNew]

theorem isAirborne (emits : Emits allowedEffects allowedSignals first second) :
    second.isAirborne = first.isAirborne := by
  rw [DroneController.isAirborne, emits.sensorData, emits.backend, DroneController.isAirborne]

end Emits

/-- The references, results and the target that Custom1 works with are unchanged. -/
structure KeepsTracking (before after : DroneController) : Prop where
  mpcTrajectoryBuffer : after.mpcTrajectoryBuffer = before.mpcTrajectoryBuffer
  activeTrajectoryCache : after.activeTrajectoryCache = before.activeTrajectoryCache
  nmpcResultBuffer : after.nmpcResultBuffer = before.nmpcResultBuffer
  attitudeRateTarget : after.attitudeRateTarget = before.attitudeRateTarget

namespace KeepsTracking

theorem refl (controller : DroneController) : KeepsTracking controller controller :=
  ⟨rfl, rfl, rfl, rfl⟩

theorem trans {first second third : DroneController} (earlier : KeepsTracking first second)
    (later : KeepsTracking second third) : KeepsTracking first third where
  mpcTrajectoryBuffer := later.mpcTrajectoryBuffer.trans earlier.mpcTrajectoryBuffer
  activeTrajectoryCache := later.activeTrajectoryCache.trans earlier.activeTrajectoryCache
  nmpcResultBuffer := later.nmpcResultBuffer.trans earlier.nmpcResultBuffer
  attitudeRateTarget := later.attitudeRateTarget.trans earlier.attitudeRateTarget

end KeepsTracking

/-- The frame of the shared setpoint is kept, or set to local ENU. -/
def KeepsFrame (before after : DroneController) : Prop :=
  after.setpoint.coordinateFrame = before.setpoint.coordinateFrame ∨
    after.setpoint.coordinateFrame = 1

theorem KeepsFrame.trans {first second third : DroneController}
    (earlier : KeepsFrame first second) (later : KeepsFrame second third) :
    KeepsFrame first third := by
  rcases later with kept | world
  · exact earlier.imp kept.trans kept.trans
  · exact .inr world

theorem KeepsFrame.world {before after : DroneController} (keeps : KeepsFrame before after)
    (world : before.setpoint.coordinateFrame = 1) : after.setpoint.coordinateFrame = 1 :=
  keeps.elim (·.trans world) id

/-- A step of any leaf but Custom1: it emits, leaves the tracking data alone, and writes no
setpoint in a new frame. -/
structure PlainStep (allowedEffects : FlightEffect → Prop) (allowedSignals : FlightSignal → Prop)
    (before after : DroneController) : Prop extends
    Emits allowedEffects allowedSignals before after, KeepsTracking before after where
  coordinateFrame : KeepsFrame before after

namespace PlainStep

variable {allowedEffects allowedEffects' : FlightEffect → Prop}
variable {allowedSignals allowedSignals' : FlightSignal → Prop}
variable {first second third : DroneController}

theorem refl (controller : DroneController) :
    PlainStep allowedEffects allowedSignals controller controller :=
  ⟨.refl controller, .refl controller, .inl rfl⟩

theorem trans (earlier : PlainStep allowedEffects allowedSignals first second)
    (later : PlainStep allowedEffects allowedSignals second third) :
    PlainStep allowedEffects allowedSignals first third :=
  ⟨earlier.toEmits.trans later.toEmits, earlier.toKeepsTracking.trans later.toKeepsTracking,
    earlier.coordinateFrame.trans later.coordinateFrame⟩

/-- `trans` with the middle state named. -/
theorem via (second : DroneController)
    (earlier : PlainStep allowedEffects allowedSignals first second)
    (later : PlainStep allowedEffects allowedSignals second third) :
    PlainStep allowedEffects allowedSignals first third := earlier.trans later

theorem mono (step : PlainStep allowedEffects allowedSignals first second)
    (effects : ∀ effect, allowedEffects effect → allowedEffects' effect)
    (signals : ∀ signal, allowedSignals signal → allowedSignals' signal) :
    PlainStep allowedEffects' allowedSignals' first second :=
  ⟨step.toEmits.mono effects signals, step.toKeepsTracking, step.coordinateFrame⟩

theorem emitFlightEffect (controller : DroneController) {effect : FlightEffect}
    (allowed : allowedEffects effect) :
    PlainStep allowedEffects allowedSignals controller (controller.emitFlightEffect effect) :=
  ⟨.emitFlightEffect controller allowed, ⟨rfl, rfl, rfl, rfl⟩, .inl rfl⟩

theorem emitFlightSignal (controller : DroneController) {signal : FlightSignal}
    (allowed : allowedSignals signal) :
    PlainStep allowedEffects allowedSignals controller (controller.emitFlightSignal signal) :=
  ⟨.emitFlightSignal controller allowed, ⟨rfl, rfl, rfl, rfl⟩, .inl rfl⟩

/-- Writing the shared setpoint and publishing it. -/
theorem publish (controller : DroneController) (setpoint : Setpoint) {effect : FlightEffect}
    (allowed : allowedEffects effect)
    (frame : KeepsFrame controller { controller with setpoint }) :
    PlainStep allowedEffects allowedSignals controller
      (({ controller with setpoint } : DroneController).emitFlightEffect effect) :=
  .via { controller with setpoint } ⟨.of_silent, ⟨rfl, rfl, rfl, rfl⟩, frame⟩
    (emitFlightEffect _ allowed)

theorem setDiagnosticEvents (controller : DroneController) (diagnosticEvents : List UInt32) :
    PlainStep allowedEffects allowedSignals controller { controller with diagnosticEvents } :=
  ⟨.of_silent, ⟨rfl, rfl, rfl, rfl⟩, .inl rfl⟩

theorem setCustom1Requested (controller : DroneController) (custom1Requested : Bool) :
    PlainStep allowedEffects allowedSignals controller { controller with custom1Requested } :=
  ⟨.of_silent, ⟨rfl, rfl, rfl, rfl⟩, .inl rfl⟩

theorem publishSetpointIfDue (controller : DroneController) (timer : ControllerTimer)
    (allowed : ∀ effect, effect.isSetpoint → allowedEffects effect) :
    PlainStep allowedEffects allowedSignals controller
      (controller.publishSetpointIfDue timer).1 := by
  dsimp only [DroneController.publishSetpointIfDue]
  split
  · exact emitFlightEffect controller (allowed _ rfl)
  · exact refl controller

theorem requestIfDue (controller : DroneController) (timer : ControllerTimer) (interval : Double)
    {effect : FlightEffect} (allowed : allowedEffects effect) :
    PlainStep allowedEffects allowedSignals controller
      (controller.requestIfDue timer interval effect).1 := by
  dsimp only [DroneController.requestIfDue]
  split
  · exact refl controller
  · exact emitFlightEffect controller allowed

end PlainStep

end DroneController

/-- What a method of a flight leaf works on: the controller and the leaf's own fields. -/
structure Scope (Leaf : Type) where
  controller : DroneController
  leaf : Leaf
deriving DecidableEq, Repr

/-- Consecutive frames that agree count up to the required number. -/
def countFrame (required count : Nat) : Nat := if count < required then count + 1 else count

theorem countFrame_le (required count : Nat) : countFrame required count ≤ count + 1 := by
  unfold countFrame
  split <;> omega

end MultirotorController
