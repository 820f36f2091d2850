import MultirotorController.Control.ExactMath
import MultirotorController.Control.StageWindow
import MultirotorController.Safety.EffectiveSegment
import MultirotorController.Uav.SegmentTurns

/-!
# Tracking outputs and the effective window

Under a geometric backend that follows planner segments, Custom1 commands an
acceleration or an attitude only as the law's answer to the active segment, lifted
to the time of the update inside the segment's window. Otherwise it hovers or
holds, at rest and in frame 1, or stays silent.
-/

namespace MultirotorController

open Custom1State

/-- A target at rest in frame 1 that does not command an acceleration. -/
structure Hovering (target : Setpoint) : Prop where
  world : target.coordinateFrame = 1
  velocity : target.vx = 0 ∧ target.vy = 0 ∧ target.vz = 0
  position : target.typeMask ≠ kSmcAccelerationTypeMask

theorem hovering_measurement (controller : DroneController) :
    Hovering (measurementHoverSetpoint controller) :=
  ⟨rfl, ⟨rfl, rfl, rfl⟩, by change kHoverPositionVelocityTypeMask ≠ _; decide⟩

theorem hovering_default : Hovering {} := ⟨rfl, ⟨rfl, rfl, rfl⟩, by decide⟩

/-- The sliding-mode backend, or the geometric one on the planner's stream. -/
def ControllerConfig.tracksSegments (config : ControllerConfig) : Bool :=
  config.trackingBackend == .smc ||
    config.trackingBackend == .dfbc && config.dfbc.referenceSource == .plannerSetpoint

section Law

variable [Libm] [Xgc2Math]

/-- The result is the law's answer to the active segment at the time of the update, which lies
in the segment's window. -/
def AnswersInWindow (event : FlightEvent) (result : TrackingStrategyResult) : Prop :=
  ∃ scope now point, decision event = some (scope, now) ∧
    Time.fromSec event.input.now.toSec = .ok now ∧
    (tickedRuntime event).controller.mpcTrajectoryBuffer.active = segment scope ∧
    InWindow (segment scope) now (updateConfig event).planningPeriod ∧
    liftWorldLocal (segment scope) now 0
      ((updateConfig event).trackingBackend == .dfbc && (updateConfig event).enableYawControl) =
        .ok point ∧
    answer scope now point = .ok result ∧ result.success = true

/-- What an update of Custom1 may command. -/
inductive WindowedOutputs (event : FlightEvent) : List ControlOutput → Prop
  | silent : WindowedOutputs event []
  | hover {target : Setpoint} : Hovering target → WindowedOutputs event [.setpoint target]
  | acceleration {result : TrackingStrategyResult} :
      (updateConfig event).trackingBackend = .smc → AnswersInWindow event result →
      result.localSetpoint.typeMask = kSmcAccelerationTypeMask →
      WindowedOutputs event [.setpoint result.localSetpoint]
  | attitude {result : TrackingStrategyResult} :
      (updateConfig event).trackingBackend = .dfbc → AnswersInWindow event result →
      WindowedOutputs event [.attitude result.attitudeRateTarget]

end Law

namespace Custom1State

variable [Xgc2Math]

/-- What is frozen is at rest. -/
theorem Custom1Action.hovering {before after : Scope Custom1State}
    (action : Custom1Action before after) (rests : Hovering before.leaf.trackingFrozenHover) :
    Hovering after.leaf.trackingFrozenHover := by
  have kept {leaf : Custom1State} (bookkeeping : Bookkeeping before leaf) :
      Hovering leaf.trackingFrozenHover := by
    rcases bookkeeping.frozenHover with same | measured
    · rw [same]
      exact rests
    · rw [measured]
      exact hovering_measurement _
  cases action with
  | note timer bookkeeping => exact kept bookkeeping
  | reopen =>
      unfold reopenGeneration
      split <;> exact rests
  | track target dfbc reference bookkeeping =>
      have held := kept bookkeeping
      exact held
  | _ => exact rests

theorem Acts.hovering {before after : Scope Custom1State} (acts : Acts before after)
    (rests : Hovering before.leaf.trackingFrozenHover) :
    Hovering after.leaf.trackingFrozenHover := by
  induction acts with
  | refl => exact rests
  | tail _ action ih => exact action.hovering ih

theorem hovering_onEnter (scope : Scope Custom1State) :
    Hovering (onEnter scope).leaf.trackingFrozenHover := by
  dsimp only [onEnter]
  repeat' split
  all_goals exact hovering_default

end Custom1State

namespace FlightRuntime

variable [Libm] [Xgc2Math]

/-- Custom1 holds nothing that moves. -/
def Rests (runtime : FlightRuntime) : Prop :=
  ∀ leaf, runtime.leaf = .custom1 leaf → Hovering leaf.trackingFrozenHover

theorem rests_turn {runtime : FlightRuntime} (turn : Turn) (rests : runtime.Rests) :
    (runtime.turn turn).1.Rests := by
  intro after tracking
  by_cases custom1 : runtime.flightState = .custom1
  · cases began : runtime.leaf with
    | custom1 leaf =>
        obtain ⟨ticked, acts, ended⟩ := turn_custom1 turn began
          (Custom1State.acting_onTick (runtime.tickScope turn leaf))
        rcases ended.ended with ⟨stays, -⟩ | ⟨left, -⟩
        · cases stays.symm.trans tracking
          exact Custom1State.Acts.hovering acts (rests leaf began)
        · rw [flightState, tracking] at left
          exact (left rfl).elim
    | _ =>
        rw [flightState, began] at custom1
        cases custom1
  · rcases (turn_other turn custom1).ended with ⟨elsewhere, -⟩ | ⟨scope, -, entered, -⟩
    · rw [flightState, tracking] at elsewhere
      exact (elsewhere rfl).elim
    · cases entered.symm.trans tracking
      exact Custom1State.hovering_onEnter scope

theorem rests_started {runtime : FlightRuntime} (started : runtime.Started) : runtime.Rests := by
  obtain ⟨config, rfl⟩ := started
  intro leaf tracking
  cases tracking

end FlightRuntime

section Outputs

variable [Libm] [Xgc2Math] {event : FlightEvent} {scope ticked : Scope Custom1State} {now : Time}

omit [Libm] [Xgc2Math] in
theorem ControllerConfig.geometric_of_tracksSegments {config : ControllerConfig}
    (tracks : config.tracksSegments = true) :
    config.followsSegments = true ∧
      (config.trackingBackend = .smc ∨ config.trackingBackend = .dfbc) := by
  simp only [tracksSegments, Bool.or_eq_true, Bool.and_eq_true, beq_iff_eq] at tracks
  rcases tracks with smc | ⟨dfbc, streamed⟩
  · simp [followsSegments, stageTimed, usesPlannerSetpoint, usesStageEffectiveTime, smc]
  · simp [followsSegments, stageTimed, usesPlannerSetpoint, usesStageEffectiveTime, dfbc, streamed]

/-- Deciding leaves the promoted buffer alone. -/
theorem Custom1State.Decided.mpcTrajectoryBuffer (decided : Decided scope now ticked) :
    ticked.controller.mpcTrajectoryBuffer = scope.controller.mpcTrajectoryBuffer := by
  cases decided with
  | tracked _ _ _ =>
      unfold publishOutput
      split <;> rfl
  | _ => rfl

/-- A result that the tick puts out was computed inside the window. -/
theorem SegmentTick.answersInWindow (tick : SegmentTick event scope now ticked)
    (decides : decision event = some (scope, now))
    (tracks : (updateConfig event).tracksSegments = true) {result : TrackingStrategyResult}
    (output : trackingOutput scope now = some result) : AnswersInWindow event result := by
  obtain ⟨-, geometric⟩ := ControllerConfig.geometric_of_tracksSegments tracks
  obtain ⟨lifted, found, success, -, answered, accepted⟩ := of_trackingOutput output
  have found : liftForBackend (segment scope) now scope.controller.config.planningPeriod
      scope.controller.config.localTypeMask scope.controller.config.enableYawControl
      scope.controller.config.trackingBackend scope.controller.config.px4LocalLift =
        .ok lifted := found
  rw [← tick.config] at geometric
  obtain ⟨window, point⟩ := inWindow_of_lift geometric found success
  rw [tick.config] at window point
  refine ⟨scope, now, lifted.setpoint, decides, tick.clock, ?_, window, point, answered, ?_⟩
  · rw [tick.controller, tick.decided.mpcTrajectoryBuffer]
    rfl
  · exact (Bool.and_eq_true_iff.mp accepted).1

theorem SegmentTick.controlOutputs_setpoint {target : Setpoint} {leaf : Custom1State}
    (tick : SegmentTick event scope now ticked)
    (published : ticked = publishSetpoint ⟨scope.controller, leaf⟩ target) :
    controlOutputs event = [.setpoint target] := by
  have effects := tick.effects
  simp [controlOutputs, tick.controller, published, publishSetpoint,
    DroneController.emitFlightEffect, effects]

theorem SegmentTick.windowedOutputs (tick : SegmentTick event scope now ticked)
    (decides : decision event = some (scope, now))
    (tracks : (updateConfig event).tracksSegments = true)
    (rests : Hovering scope.leaf.trackingFrozenHover) :
    WindowedOutputs event (controlOutputs event) := by
  obtain ⟨-, geometric⟩ := ControllerConfig.geometric_of_tracksSegments tracks
  have effects := tick.effects
  have backend : scope.controller.backend = (updateConfig event).trackingBackend :=
    congrArg ControllerConfig.trackingBackend tick.config
  cases ends : tick.decided with
  | silent kept output =>
      have none_ : controlOutputs event = [] := by
        simp [controlOutputs, tick.controller, effects]
      rw [none_]
      exact .silent
  | hovered kept output released =>
      rw [tick.controlOutputs_setpoint rfl]
      exact .hover (hovering_measurement _)
  | held kept output answered held frozen =>
      rw [tick.controlOutputs_setpoint rfl]
      refine .hover ?_
      rw [frozen]
      split
      · exact rests
      · exact hovering_measurement _
  | @tracked leaf result kept output released =>
      have answers := tick.answersInWindow decides tracks output
      rcases geometric with smc | dfbc
      · have elsewhere : scope.controller.backend ≠ .dfbc := by simp [backend, smc]
        obtain ⟨lifted, -, -, -, answered, accepted⟩ := of_trackingOutput output
        simp only [answer, backend, smc] at answered
        have mask := SmcAccelerationStrategy.update_typeMask _ answered
          (Bool.and_eq_true_iff.mp accepted).1
        have published : publishOutput ⟨scope.controller, leaf⟩ result =
            publishSetpoint ⟨scope.controller, leaf⟩ result.localSetpoint := if_neg elsewhere
        rw [tick.controlOutputs_setpoint published]
        exact .acceleration smc answers mask
      · have attitude : controlOutputs event = [.attitude result.attitudeRateTarget] := by
          have published : publishOutput ⟨scope.controller, leaf⟩ result = publishAttitude
              ⟨{ scope.controller with attitudeRateTarget := result.attitudeRateTarget }, leaf⟩ :=
            if_pos (backend.trans dfbc)
          simp [controlOutputs, tick.controller, published, publishAttitude,
            DroneController.emitFlightEffect, effects]
        rw [attitude]
        exact .attitude dfbc answers

end Outputs

/-- Custom1 on planner segments tracks inside the effective window, and else hovers or holds. -/
theorem tracking_in_window [Libm] [Xgc2Math] {past : List FlightEvent} {runtime : FlightRuntime}
    (run : flightMachine.Run FlightRuntime.Started anyEnvironment past runtime) :
    ∀ event ∈ past, event.before.flightState = .custom1 →
      (updateConfig event).tracksSegments = true →
      WindowedOutputs event (controlOutputs event) := by
  refine (run.invariant_events FlightRuntime.Rests (fun _ => FlightRuntime.rests_started) ?_).2
  intro past runtime turn rests _
  refine ⟨FlightRuntime.rests_turn turn rests, fun custom1 tracks => ?_⟩
  have custom1 : runtime.flightState = .custom1 := custom1
  cases decides : decision (flightMachine.event runtime turn) with
  | none =>
      obtain ⟨follows, -⟩ := ControllerConfig.geometric_of_tracksSegments tracks
      rw [(silent_of_no_decision custom1 follows decides).1]
      exact .silent
  | some decided =>
      obtain ⟨scope, now⟩ := decided
      obtain ⟨ticked, tick⟩ := segmentTick_of_decision decides
      obtain ⟨start, tracking, same⟩ := tick.began
      refine tick.windowedOutputs decides tracks ?_
      rw [same.frozen]
      exact rests start tracking

section Effective

open ExactMath

/-- At the header time of a segment the sliding-mode law commands an acceleration. -/
theorem tracking_in_window_effective :
    let tracked := flightMachine.replay [] (FlightRuntime.initial.setConfig aheadConfig)
      (aheadTurns [20])
    let event := flightMachine.event tracked.2 effectiveTurn
    controlOutputs event =
        [.setpoint { typeMask := kSmcAccelerationTypeMask, coordinateFrame := 1 }] ∧
      WindowedOutputs event (controlOutputs event) := by
  intro tracked event
  have start : flightMachine.Run FlightRuntime.Started anyEnvironment []
      (FlightRuntime.initial.setConfig aheadConfig) := .start ⟨aheadConfig, rfl⟩
  have run := (start.replay (aheadTurns [20]) (by decide +kernel)).extend effectiveTurn trivial
  refine ⟨by decide +kernel, ?_⟩
  exact tracking_in_window run event (.head _) (by decide +kernel) (by decide +kernel)

end Effective

end MultirotorController
