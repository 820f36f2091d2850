import MultirotorController.Uav.FlightTracking
import MultirotorController.Uav.StateMachine.Custom1Decisions

/-!
# Updates that follow planner segments

An update of Custom1 under such a backend decides in one scope, unless it finds no
clock value; what its tick puts out, and what the leaf remembers of it, follows
from that decision.
-/

namespace MultirotorController

open Custom1State

variable [Libm] [Xgc2Math]

/-- The machine once its leaf has ticked in the update. -/
def tickedRuntime (event : FlightEvent) : FlightRuntime :=
  (event.before.prepare event.input).ticked event.input.now

/-- The configuration that the update works under. -/
def updateConfig (event : FlightEvent) : ControllerConfig :=
  (event.before.prepare event.input).controller.config

/-- The scope and the time in which Custom1 decides about a planner segment. -/
def decision (event : FlightEvent) : Option (Scope Custom1State × Time) :=
  match event.before.leaf with
  | .custom1 leaf =>
      let start := event.before.tickScope event.input leaf
      if start.controller.config.followsSegments then
        match Time.fromSec (currentTime start) with
        | .ok now => some (deciding start now, now)
        | .error _ => none
      else none
  | _ => none

/-- The tracking output of the update, if it has one. -/
def segmentOutput (event : FlightEvent) : Option TrackingStrategyResult :=
  (decision event).bind fun decided => trackingOutput decided.1 decided.2

/-- What a tick may command the vehicle. -/
inductive ControlOutput where
  | setpoint (target : Setpoint)
  | attitude (target : AttitudeRateTarget)
deriving DecidableEq, Repr

/-- The control outputs that the tick of the update emits, as the controller holds them when the
tick is over. -/
def controlOutputs (event : FlightEvent) : List ControlOutput :=
  let controller := (tickedRuntime event).controller
  controller.flightEffects.filterMap fun effect =>
    match effect with
    | .setpoint _ => some (.setpoint controller.setpoint)
    | .attitude _ => some (.attitude controller.attitudeRateTarget)
    | _ => none

/-- How an update that decides about a segment ticks. -/
structure SegmentTick (event : FlightEvent) (scope : Scope Custom1State) (now : Time)
    (ticked : Scope Custom1State) : Prop where
  decided : Decided scope now ticked
  controller : (tickedRuntime event).controller = ticked.controller
  leaf : (tickedRuntime event).leaf = .custom1 ticked.leaf
  clock : Time.fromSec event.input.now.toSec = .ok now
  config : scope.controller.config = updateConfig event
  sensorData :
    scope.controller.sensorData = (event.before.prepare event.input).controller.sensorData
  effects : scope.controller.flightEffects = []
  began : ∃ start : Custom1State, event.before.leaf = .custom1 start ∧ SameSession scope.leaf start

theorem segmentTick_of_decision {runtime : FlightRuntime} {turn : Turn}
    {scope : Scope Custom1State} {now : Time}
    (decides : decision (flightMachine.event runtime turn) = some (scope, now)) :
    ∃ ticked, SegmentTick (flightMachine.event runtime turn) scope now ticked := by
  unfold decision at decides
  split at decides
  next leaf tracking =>
    have tracking : runtime.leaf = .custom1 leaf := tracking
    dsimp only at decides
    split at decides
    next follows =>
      have follows : (runtime.tickScope turn leaf).controller.config.followsSegments = true :=
        follows
      split at decides
      next time clock =>
        have clock : Time.fromSec (currentTime (runtime.tickScope turn leaf)) = .ok time := clock
        have same : (deciding (runtime.tickScope turn leaf) time, time) = (scope, now) :=
          Option.some.inj decides
        obtain ⟨rfl, rfl⟩ := Prod.mk.inj same
        have prepared : (runtime.prepare turn).leaf = .custom1 leaf :=
          (runtime.prepare_received turn).leaf.trans tracking
        obtain ⟨-, effects, config, currentTime⟩ := runtime.tickScope_spec turn leaf
        obtain ⟨ticked, decided, controller, left⟩ :=
          (runtime.prepare turn).ticked_custom1 turn.now prepared
            (decided_onTick (runtime.tickScope turn leaf) follows)
        have entered := entering_controller (runtime.tickScope turn leaf) time
        have same := entering_sameSession (runtime.tickScope turn leaf) time
        refine ⟨ticked, ?_, controller, left, ?_, ?_, ?_, ?_, leaf, tracking, same⟩
        · rcases decided with ⟨other, readable, decided⟩ | ⟨⟨error, unreadable⟩, -⟩
          · cases clock.symm.trans readable
            exact decided
          · cases clock.symm.trans unreadable
        · rw [Custom1State.currentTime, currentTime] at clock
          exact clock
        · change (entering (runtime.tickScope turn leaf) time).controller.config = _
          rw [entered, config]
          rfl
        · change (entering (runtime.tickScope turn leaf) time).controller.sensorData = _
          rw [entered]
          exact ((runtime.prepare turn).afterHealth_step turn.now).sensorData
        · change (entering (runtime.tickScope turn leaf) time).controller.flightEffects = _
          rw [entered, effects]
      · cases decides
    · cases decides
  · cases decides

/-- An update that finds no clock value puts out nothing and changes nothing in the leaf. -/
theorem silent_of_no_decision {runtime : FlightRuntime} {turn : Turn}
    (custom1 : runtime.flightState = .custom1)
    (follows : (updateConfig (flightMachine.event runtime turn)).followsSegments = true)
    (undecided : decision (flightMachine.event runtime turn) = none) :
    controlOutputs (flightMachine.event runtime turn) = [] ∧
      (tickedRuntime (flightMachine.event runtime turn)).leaf = runtime.leaf := by
  cases tracking : runtime.leaf with
  | custom1 leaf =>
      have prepared : (runtime.prepare turn).leaf = .custom1 leaf :=
        (runtime.prepare_received turn).leaf.trans tracking
      obtain ⟨-, effects, config, currentTime⟩ := runtime.tickScope_spec turn leaf
      have follows : (runtime.tickScope turn leaf).controller.config.followsSegments = true := by
        rw [config]
        exact follows
      obtain ⟨ticked, decided, controller, left⟩ :=
        (runtime.prepare turn).ticked_custom1 turn.now prepared
          (decided_onTick (runtime.tickScope turn leaf) follows)
      have controller : (tickedRuntime (flightMachine.event runtime turn)).controller =
          ticked.controller := controller
      rcases decided with ⟨now, clock, -⟩ | ⟨-, rfl⟩
      · have decides : decision (flightMachine.event runtime turn) =
            some (deciding (runtime.tickScope turn leaf) now, now) := by
          have began : (flightMachine.event runtime turn).before.leaf = .custom1 leaf := tracking
          have start : (flightMachine.event runtime turn).before.tickScope
              (flightMachine.event runtime turn).input leaf = runtime.tickScope turn leaf := rfl
          simp only [decision, began, start, follows, clock, if_true]
        rw [decides] at undecided
        cases undecided
      · exact ⟨by simp [controlOutputs, controller, effects], left⟩
  | _ =>
      rw [FlightRuntime.flightState, tracking] at custom1
      cases custom1

/-- What stays in Custom1 is the leaf that ticked. -/
theorem tickedRuntime_leaf {runtime : FlightRuntime} {turn : Turn} {leaf : Custom1State}
    (custom1 : runtime.flightState = .custom1)
    (stays : (runtime.turn turn).1.leaf = .custom1 leaf) :
    (tickedRuntime (flightMachine.event runtime turn)).leaf = .custom1 leaf := by
  have tickedState := (runtime.prepare turn).ticked_flightState turn.now
  rw [FlightRuntime.prepare_flightState, custom1] at tickedState
  change ((runtime.prepare turn).ticked turn.now).leaf = .custom1 leaf
  cases tracking : ((runtime.prepare turn).ticked turn.now).leaf with
  | custom1 ticked =>
      rcases (runtime.prepare turn).update_cases turn.now with
        ⟨error, -, thrown⟩ | ⟨again, completed⟩
      · have after : (runtime.turn turn).1 = (runtime.prepare turn).ticked turn.now :=
          congrArg Prod.fst thrown
        rw [after, tracking] at stays
        exact stays
      · have after : (runtime.turn turn).1 =
            FlightRuntime.afterTick _ ((runtime.prepare turn).ticked turn.now) :=
          congrArg Prod.fst completed
        rw [after] at stays
        have finished := FlightRuntime.afterTick_custom1
          ((runtime.prepare turn).afterHealth turn.now).controller.signals.length tracking
        rcases finished.ended with ⟨same, -⟩ | ⟨left, -⟩
        · exact same.symm.trans stays
        · rw [FlightRuntime.flightState, stays] at left
          exact (left rfl).elim
  | _ =>
      rw [FlightRuntime.flightState, tracking] at tickedState
      cases tickedState

end MultirotorController
