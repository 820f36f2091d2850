import MultirotorController.Safety.TrackingWindow

/-!
# A held position

A hold begins when the tracked segment is lost, with the position and attitude
measured then, and lasts until the law answers again. It does not move, but for one
case: a segment that becomes effective while the strategy has not entered makes
Custom1 hover at the measured pose instead.
-/

namespace MultirotorController

open Custom1State

/-- Two targets ask for one position and attitude. -/
def SamePose (first second : Setpoint) : Prop :=
  first.x = second.x ∧ first.y = second.y ∧ first.z = second.z ∧
    first.qx = second.qx ∧ first.qy = second.qy ∧ first.qz = second.qz ∧ first.qw = second.qw

instance (first second : Setpoint) : Decidable (SamePose first second) :=
  inferInstanceAs (Decidable (_ ∧ _))

section Law

variable [Libm] [Xgc2Math]

/-- The target of the hold of Custom1, if it holds. -/
def FlightLeaf.heldTarget : FlightLeaf → Option Setpoint
  | .custom1 leaf => if leaf.trackingPositionHeld then some leaf.trackingFrozenHover else none
  | _ => none

/-- Custom1 ticked on planner segments and the law did not answer. -/
def withoutOutput (event : FlightEvent) : Bool :=
  decide (event.before.flightState = .custom1) && (updateConfig event).tracksSegments &&
    (segmentOutput event).isNone

/-- The target frozen by the update in which the present hold began. -/
def frozenTarget : List FlightEvent → Option Setpoint
  | [] => none
  | event :: past =>
      if withoutOutput event then
        (frozenTarget past).or
          (if event.before.leaf.heldTarget.isNone then (tickedRuntime event).leaf.heldTarget
            else none)
      else none

/-- An effective segment finds the strategy not entered. -/
def releasesHold (event : FlightEvent) : Bool :=
  (decision event).any fun decided => unanswered decided.1 decided.2

/-- The pose measured in the update. -/
def measuredPose (event : FlightEvent) : Setpoint :=
  measurementHoverSetpoint (event.before.prepare event.input).controller

/-- Until the hold ends every setpoint of the update is the frozen one, exactly if the update
does not release the hold, or measures the frozen pose again. -/
def HoldsStill (older : List FlightEvent) (event : FlightEvent) : Prop :=
  ∀ frozen, frozenTarget (event :: older) = some frozen →
    ∀ target, .setpoint target ∈ controlOutputs event →
      (SamePose target frozen ↔
        (releasesHold event = true → SamePose (measuredPose event) frozen))

/-- The leaf remembers the hold. -/
def RemembersHold (past : List FlightEvent) (runtime : FlightRuntime) : Prop :=
  ∀ frozen, frozenTarget past = some frozen → runtime.flightState = .custom1 →
    runtime.leaf.heldTarget = some frozen

end Law

namespace Custom1State

variable [Libm] [Xgc2Math]

omit [Libm] in
theorem heldTarget_custom1 {leaf : Custom1State} {target : Setpoint}
    (held : (FlightLeaf.custom1 leaf).heldTarget = some target) :
    leaf.trackingPositionHeld = true ∧ leaf.trackingFrozenHover = target := by
  have held : (if leaf.trackingPositionHeld = true then some leaf.trackingFrozenHover else none) =
      some target := held
  split at held
  next isHeld => exact ⟨isHeld, Option.some.inj held⟩
  · cases held

/-- Without an output a hold that has begun goes on with its target. -/
theorem Decided.held_of_held {scope ticked : Scope Custom1State} {now : Time}
    (decided : Decided scope now ticked) (output : trackingOutput scope now = none)
    (held : scope.leaf.trackingPositionHeld = true) :
    ticked.leaf.trackingPositionHeld = true ∧
      ticked.leaf.trackingFrozenHover = scope.leaf.trackingFrozenHover := by
  cases decided with
  | silent kept => exact ⟨kept.held.trans held, kept.frozen⟩
  | hovered kept => exact ⟨kept.held.trans held, kept.frozen⟩
  | held kept _ _ isHeld frozen =>
      rw [if_pos held] at frozen
      exact ⟨isHeld, frozen⟩
  | tracked _ answered _ =>
      rw [output] at answered
      cases answered

end Custom1State

section Steps

variable [Libm] [Xgc2Math] {runtime : FlightRuntime} {turn : Turn}

omit [Libm] [Xgc2Math] in
theorem measurementHoverSetpoint_congr {first second : DroneController}
    (config : first.config = second.config) (sensorData : first.sensorData = second.sensorData) :
    measurementHoverSetpoint first = measurementHoverSetpoint second := by
  simp only [measurementHoverSetpoint, DroneController.worldX, DroneController.worldY,
    DroneController.worldZ, DroneController.backend, config, sensorData]

/-- What an update without an output says about its parts. -/
theorem of_withoutOutput {event : FlightEvent} (waits : withoutOutput event = true) :
    event.before.flightState = .custom1 ∧ (updateConfig event).tracksSegments = true ∧
      segmentOutput event = none := by
  simpa [withoutOutput, and_assoc] using waits

/-- A hold that has begun goes on through an update without an output. -/
theorem heldTarget_tickedRuntime {frozen : Setpoint}
    (waits : withoutOutput (flightMachine.event runtime turn) = true)
    (held : runtime.leaf.heldTarget = some frozen) :
    (tickedRuntime (flightMachine.event runtime turn)).leaf.heldTarget = some frozen := by
  obtain ⟨custom1, tracks, output⟩ := of_withoutOutput waits
  have custom1 : runtime.flightState = .custom1 := custom1
  cases decides : decision (flightMachine.event runtime turn) with
  | none =>
      obtain ⟨follows, -⟩ := ControllerConfig.geometric_of_tracksSegments tracks
      rw [(silent_of_no_decision custom1 follows decides).2]
      exact held
  | some decided =>
      obtain ⟨scope, now⟩ := decided
      obtain ⟨ticked, tick⟩ := segmentTick_of_decision decides
      have none_ : trackingOutput scope now = none := by
        simpa [segmentOutput, decides] using output
      obtain ⟨start, tracking, same⟩ := tick.began
      have tracking : runtime.leaf = .custom1 start := tracking
      rw [tracking] at held
      obtain ⟨startHeld, startFrozen⟩ := heldTarget_custom1 held
      obtain ⟨goesOn, kept⟩ := tick.decided.held_of_held none_ (same.held.trans startHeld)
      rw [tick.leaf]
      change (if ticked.leaf.trackingPositionHeld = true then _ else _) = _
      rw [if_pos goesOn, kept, same.frozen, startFrozen]

/-- While a hold goes on, the update publishes its target, or the measured one if it releases
the hold. -/
theorem target_of_held {frozen target : Setpoint}
    (waits : withoutOutput (flightMachine.event runtime turn) = true)
    (held : (tickedRuntime (flightMachine.event runtime turn)).leaf.heldTarget = some frozen)
    (emitted : .setpoint target ∈ controlOutputs (flightMachine.event runtime turn)) :
    target = if releasesHold (flightMachine.event runtime turn) then
      measuredPose (flightMachine.event runtime turn) else frozen := by
  obtain ⟨custom1, tracks, output⟩ := of_withoutOutput waits
  have custom1 : runtime.flightState = .custom1 := custom1
  obtain ⟨follows, geometric⟩ := ControllerConfig.geometric_of_tracksSegments tracks
  cases decides : decision (flightMachine.event runtime turn) with
  | none =>
      rw [(silent_of_no_decision custom1 follows decides).1] at emitted
      cases emitted
  | some decided =>
      obtain ⟨scope, now⟩ := decided
      obtain ⟨ticked, tick⟩ := segmentTick_of_decision decides
      have effects := tick.effects
      have releases : releasesHold (flightMachine.event runtime turn) = unanswered scope now := by
        simp [releasesHold, decides]
      have measured : measurementHoverSetpoint scope.controller =
          measuredPose (flightMachine.event runtime turn) :=
        measurementHoverSetpoint_congr tick.config tick.sensorData
      have planner : scope.controller.backend ≠ .px4Local := by
        have backend : scope.controller.backend =
            (updateConfig (flightMachine.event runtime turn)).trackingBackend :=
          congrArg ControllerConfig.trackingBackend tick.config
        rw [backend]
        rcases geometric with smc | dfbc
        · simp [smc]
        · simp [dfbc]
      rw [tick.leaf] at held
      obtain ⟨isHeld, sameFrozen⟩ := heldTarget_custom1 held
      rw [releases]
      cases ends : tick.decided with
      | silent kept none_ =>
          simp [controlOutputs, tick.controller, effects] at emitted
      | hovered kept none_ released =>
          rw [tick.controlOutputs_setpoint rfl, List.mem_singleton] at emitted
          have scopeHeld : scope.leaf.trackingPositionHeld = true := kept.held.symm.trans isHeld
          rw [if_pos (released planner scopeHeld), ← measured]
          exact ControlOutput.setpoint.inj emitted
      | held kept none_ answered heldNow frozenNow =>
          rw [tick.controlOutputs_setpoint rfl, List.mem_singleton] at emitted
          rw [answered, if_neg (by decide), ← sameFrozen]
          exact ControlOutput.setpoint.inj emitted
      | tracked kept answers released =>
          have none_ : trackingOutput scope now = none := by
            simpa [segmentOutput, decides] using output
          rw [none_] at answers
          cases answers

/-- The leaf that has ticked remembers the hold, whether it began earlier or now. -/
theorem heldTarget_of_frozenTarget {past : List FlightEvent} {frozen : Setpoint}
    (remembers : RemembersHold past runtime)
    (began : frozenTarget (flightMachine.event runtime turn :: past) = some frozen) :
    withoutOutput (flightMachine.event runtime turn) = true ∧
      (tickedRuntime (flightMachine.event runtime turn)).leaf.heldTarget = some frozen := by
  rw [frozenTarget] at began
  split at began
  next waits =>
    refine ⟨waits, ?_⟩
    have custom1 : runtime.flightState = .custom1 := (of_withoutOutput waits).1
    cases earlier : frozenTarget past with
    | some target =>
        rw [earlier, Option.some_or] at began
        have same : target = frozen := Option.some.inj began
        rw [← same]
        exact heldTarget_tickedRuntime waits (remembers target earlier custom1)
    | none =>
        rw [earlier, Option.none_or] at began
        split at began
        · exact began
        · cases began
  · cases began

theorem holdsStill_turn {past : List FlightEvent} (remembers : RemembersHold past runtime) :
    RemembersHold (flightMachine.event runtime turn :: past) (runtime.turn turn).1 ∧
      HoldsStill past (flightMachine.event runtime turn) := by
  constructor
  · intro frozen began stays
    obtain ⟨waits, held⟩ := heldTarget_of_frozenTarget remembers began
    have custom1 : runtime.flightState = .custom1 := (of_withoutOutput waits).1
    cases tracking : (runtime.turn turn).1.leaf with
    | custom1 leaf =>
        rw [tickedRuntime_leaf custom1 tracking] at held
        exact held
    | _ =>
        rw [FlightRuntime.flightState, tracking] at stays
        cases stays
  · intro frozen began target emitted
    obtain ⟨waits, held⟩ := heldTarget_of_frozenTarget remembers began
    rw [target_of_held waits held emitted]
    cases releasesHold (flightMachine.event runtime turn) with
    | false => simp [SamePose]
    | true => simp

end Steps

/-- A held position does not move, except where an effective segment finds the strategy not
entered and the vehicle elsewhere. -/
theorem held_position_still [Libm] [Xgc2Math] {past : List FlightEvent} {runtime : FlightRuntime}
    (run : flightMachine.Run FlightRuntime.Started anyEnvironment past runtime) :
    ∀ event older, event :: older <:+ past → HoldsStill older event := by
  refine run.invariant_history RemembersHold ?_ ?_
  · intro runtime _ frozen began
    cases began
  · intro past runtime turn _ remembers _
    exact holdsStill_turn remembers

section Drift

open ExactMath

/-- The geometric law on the planner's stream, without an estimate of the hover thrust. -/
def streamConfig : ControllerConfig :=
  { skipTakeoffInitDisarm := true
    trackingBackend := .dfbc
    dfbc := { referenceSource := .plannerSetpoint } }

/-- A segment passes the gate before the strategy has entered and expires; the hold begins. -/
def heldTurns : List Turn :=
  hoverTurns ++
    [{ inputs := [.command .track], sensor := armedSensor, now := ⟨7, 0⟩ },
      { inputs := [.plannerSetpoint (plannedAt 8 8)], sensor := armedSensor, now := ⟨8, 0⟩ },
      { sensor := armedSensor, now := ⟨9, 0⟩ }]

/-- A metre away from where the hold began. -/
def driftedSensor : SensorData := { armedSensor with x := 1 }

/-- The next segment comes while the strategy has still not entered. -/
def releasingTurn : Turn :=
  { inputs := [.plannerSetpoint (plannedAt 10 10)], sensor := driftedSensor, now := ⟨10, 0⟩ }

/-- The hold began at the origin, and the update asks for a metre along `x`. -/
theorem held_position_drifts :
    let held := flightMachine.replay [] (FlightRuntime.initial.setConfig streamConfig) heldTurns
    let event := flightMachine.event held.2 releasingTurn
    flightMachine.Run FlightRuntime.Started anyEnvironment (event :: held.1) event.after ∧
      (frozenTarget (event :: held.1)).map (·.x) = some 0 ∧
      controlOutputs event = [.setpoint
        { x := 1, typeMask := kHoverPositionVelocityTypeMask, coordinateFrame := 1 }] := by
  intro held event
  have start : flightMachine.Run FlightRuntime.Started anyEnvironment []
      (FlightRuntime.initial.setConfig streamConfig) := .start ⟨streamConfig, rfl⟩
  have run := (start.replay heldTurns (by decide +kernel)).extend releasingTurn trivial
  exact ⟨run, by decide +kernel, by decide +kernel⟩

/-- Without that segment the vehicle is asked back. -/
theorem held_position_kept :
    let held := flightMachine.replay [] (FlightRuntime.initial.setConfig streamConfig) heldTurns
    let event := flightMachine.event held.2 { sensor := driftedSensor, now := ⟨10, 0⟩ }
    ∃ frozen, frozenTarget (event :: held.1) = some frozen ∧
      ∀ target, .setpoint target ∈ controlOutputs event → SamePose target frozen := by
  intro held event
  have start : flightMachine.Run FlightRuntime.Started anyEnvironment []
      (FlightRuntime.initial.setConfig streamConfig) := .start ⟨streamConfig, rfl⟩
  have run := (start.replay heldTurns (by decide +kernel)).extend
    { sensor := driftedSensor, now := ⟨10, 0⟩ } trivial
  have began : frozenTarget (event :: held.1) =
      some { typeMask := kHoverPositionVelocityTypeMask, coordinateFrame := 1 } := by
    decide +kernel
  have holds : releasesHold event = false := by decide +kernel
  refine ⟨_, began, fun target emitted => ?_⟩
  have still := held_position_still run event held.1 List.suffix_rfl _ began target emitted
  exact still.mpr fun releases => absurd releases (by simp [holds])

end Drift

end MultirotorController
