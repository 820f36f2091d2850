import MultirotorController.Control.ExactMath
import MultirotorController.Safety.Environment

/-!
# The frame of the published setpoints

All leaves share one setpoint, and Hover and TakeoffInit keep the frame they find
in it. Custom1 leaves a foreign frame behind only when it passes a planner sample
through; its other backends, the landing and every target of its own are written
in local ENU. So the frame outside Custom1 is decided at one place, where a
pass-through hands over to Hover.
-/

namespace MultirotorController

open DroneController

/-- The leaves that publish targets of their own in the world frame. -/
def FlightState.publishesWorldFrame (state : FlightState) : Bool :=
  state = .landing ∨ state.isFlying ∧ state ≠ .custom1

section Law

variable [Xgc2Math]

/-- A setpoint emitted in a leaf of the world frame, or on entering one, is written in
local ENU. The published setpoint is the shared one, as the update leaves it. -/
def WritesWorldFrame (event : FlightEvent) : Prop :=
  (∃ effect ∈ event.after.controller.flightEffects, effect.isSetpoint) →
  (event.before.flightState.publishesWorldFrame ∨ event.after.flightState.publishesWorldFrame) →
  event.after.controller.setpoint.coordinateFrame = 1

/-- Where PX4_LOCAL hands over to Hover, the setpoint that Custom1 leaves is in local ENU. -/
def handsOverWorldFrame [Libm] : FlightRestriction := fun _ runtime turn =>
  let ticked := (runtime.prepare turn).ticked turn.now
  runtime.flightState = .custom1 → ticked.controller.backend = .px4Local →
    ticked.choose.map (·.target) = some .hover → ticked.controller.setpoint.coordinateFrame = 1

instance [Libm] (past : List FlightEvent) (runtime : FlightRuntime) (turn : Turn) :
    Decidable (handsOverWorldFrame past runtime turn) := inferInstanceAs (Decidable (_ → _))

/-- Only PX4_LOCAL holds a foreign frame, and only while it tracks. -/
def WorldFrame (runtime : FlightRuntime) : Prop :=
  (runtime.flightState = .custom1 → runtime.controller.backend ≠ .px4Local) →
    runtime.controller.setpoint.coordinateFrame = 1

end Law

namespace FlightRuntime

variable [Libm] [Xgc2Math] {runtime : FlightRuntime} {turn : Turn} {past : List FlightEvent}

/-- Whoever does not pass a sample through leaves a setpoint in local ENU. -/
theorem world_of_turn (world : WorldFrame runtime)
    (notPassThrough : runtime.flightState = .custom1 →
      runtime.controller.backend ≠ .px4Local ∧
        (runtime.prepare turn).controller.backend ≠ .px4Local) :
    (runtime.turn turn).1.controller.setpoint.coordinateFrame = 1 := by
  have shared := world fun custom1 => (notPassThrough custom1).1
  rw [← (runtime.prepare_received turn).setpoint] at shared
  have ticked := (runtime.prepare turn).ticked_keepsFrame turn.now
    (fun custom1 => (notPassThrough (prepare_flightState.symm.trans custom1)).2)
  have world := ticked.world shared
  rcases (runtime.prepare turn).update_cases turn.now with ⟨error, -, thrown⟩ | ⟨again, completed⟩
  · have left : (runtime.turn turn).1 = _ := congrArg Prod.fst thrown
    rw [left]
    exact world
  · have left : (runtime.turn turn).1 = _ := congrArg Prod.fst completed
    rw [left]
    exact (afterTick_keepsFrame _ _).world world

/-- A pass-through that ends leaves a setpoint in local ENU. -/
theorem world_of_handOver (tracking : runtime.flightState = .custom1)
    (handsOver : handsOverWorldFrame past runtime turn)
    (passThrough : (runtime.prepare turn).controller.backend = .px4Local)
    (ended : (runtime.turn turn).1.flightState ≠ .custom1) :
    (runtime.turn turn).1.controller.setpoint.coordinateFrame = 1 := by
  have tickedState : ((runtime.prepare turn).ticked turn.now).flightState = .custom1 := by
    rw [ticked_flightState, prepare_flightState, tracking]
  rcases (runtime.prepare turn).update_cases turn.now with ⟨error, -, thrown⟩ | ⟨again, completed⟩
  · have left : (runtime.turn turn).1 = _ := congrArg Prod.fst thrown
    rw [left] at ended
    exact (ended tickedState).elim
  · have left : (runtime.turn turn).1 = _ := congrArg Prod.fst completed
    rw [left] at ended ⊢
    rw [afterTick_flightState, tickedState] at ended
    cases chosen : ((runtime.prepare turn).ticked turn.now).choose with
    | none =>
        rw [chosen] at ended
        exact (ended rfl).elim
    | some choice =>
        rcases target_of_custom1 _ tickedState chosen with hovers | lands
        · have backend := ((runtime.prepare turn).ticked_emits turn.now).backend
          refine (afterTick_keepsFrame _ _).world
            (handsOver tracking (backend.trans passThrough) ?_)
          rw [chosen, Option.map_some, hovers]
        · exact afterTick_frame_of_landing _ _ chosen lands

theorem worldFrame_turn (world : WorldFrame runtime) (fixed : fixedInFlight past runtime turn)
    (handsOver : handsOverWorldFrame past runtime turn) : WorldFrame (runtime.turn turn).1 := by
  intro notPassThrough
  by_cases tracking : runtime.flightState = .custom1
  · have backend := (fixed (by simp [onTheGround, tracking])).1
    by_cases passThrough : runtime.controller.backend = .px4Local
    · refine world_of_handOver tracking handsOver (backend.trans passThrough) fun custom1 => ?_
      refine notPassThrough custom1 ?_
      obtain ⟨config, -⟩ := (runtime.prepare turn).update_circumstances turn.now
      exact (congrArg ControllerConfig.trackingBackend config).trans (backend.trans passThrough)
    · exact world_of_turn world fun _ => ⟨passThrough, backend.symm ▸ passThrough⟩
  · exact world_of_turn world fun custom1 => (tracking custom1).elim

/-- What the update of a run writes, if the hand-overs are in local ENU. -/
theorem writesWorldFrame_turn (world : WorldFrame runtime) (fixed : fixedInFlight past runtime turn)
    (handsOver : handsOverWorldFrame past runtime turn) :
    WritesWorldFrame (flightMachine.event runtime turn) := by
  rintro - (began | ended)
  · refine world_of_turn world fun custom1 => ?_
    change runtime.flightState.publishesWorldFrame at began
    rw [custom1] at began
    cases began
  · refine worldFrame_turn world fixed handsOver fun custom1 => ?_
    change (runtime.turn turn).1.flightState.publishesWorldFrame at ended
    rw [custom1] at ended
    cases ended

theorem worldFrame_started (started : runtime.Started) : WorldFrame runtime := by
  obtain ⟨config, rfl⟩ := started
  exact fun _ => rfl

end FlightRuntime

/-- In every run whose pass-throughs hand over to Hover in local ENU, every setpoint outside
tracking is written in local ENU. -/
theorem setpoints_write_world_frame [Libm] [Xgc2Math] {past : List FlightEvent}
    {runtime : FlightRuntime}
    (run : flightMachine.Run FlightRuntime.Started (fun past runtime turn =>
      fixedInFlight past runtime turn ∧ handsOverWorldFrame past runtime turn) past runtime) :
    ∀ event ∈ past, WritesWorldFrame event :=
  (run.invariant_events WorldFrame (fun _ => FlightRuntime.worldFrame_started)
    fun _ _ _ world ⟨fixed, handsOver⟩ =>
      ⟨FlightRuntime.worldFrame_turn world fixed handsOver,
        FlightRuntime.writesWorldFrame_turn world fixed handsOver⟩).2

section PassThrough

open ExactMath

def passThroughConfig : ControllerConfig := { skipTakeoffInitDisarm := true }

/-- A flight that tracks a planner sample of the given frame and is then told to hover. -/
def passThroughTurns (coordinateFrame : UInt8) : List Turn :=
  hoverTurns ++
    [{ inputs := [.plannerSetpoint { coordinateFrame, receiptTime := ⟨7, 0⟩ }, .command .track]
       sensor := armedSensor
       now := ⟨7, 0⟩ },
      { sensor := armedSensor, now := ⟨8, 0⟩ }]

def hoverAfterTracking : Turn :=
  { inputs := [.command .hover], sensor := armedSensor, now := ⟨9, 0⟩ }

/-- A sample in local ENU hands over to a hover setpoint in local ENU. -/
theorem setpoints_write_world_frame_local :
    let tracked := flightMachine.replay [] (FlightRuntime.initial.setConfig passThroughConfig)
      (passThroughTurns 1)
    let event := flightMachine.event tracked.2 hoverAfterTracking
    event.before.flightState = .custom1 ∧ event.after.flightState = .hover ∧
      WritesWorldFrame event := by
  intro tracked event
  let assumed : FlightRestriction := fun past runtime turn =>
    fixedInFlight past runtime turn ∧ handsOverWorldFrame past runtime turn
  have start : flightMachine.Run FlightRuntime.Started assumed []
      (FlightRuntime.initial.setConfig passThroughConfig) := .start ⟨passThroughConfig, rfl⟩
  have run := (start.replay (passThroughTurns 1) (by decide +kernel)).step hoverAfterTracking
    (by decide +kernel)
  exact ⟨by decide +kernel, by decide +kernel,
    setpoints_write_world_frame run event List.mem_cons_self⟩

/-- A sample in a body frame makes the hover after it one in the body frame. -/
theorem setpoints_write_body_frame :
    let tracked := flightMachine.replay [] (FlightRuntime.initial.setConfig passThroughConfig)
      (passThroughTurns 8)
    let event := flightMachine.event tracked.2 hoverAfterTracking
    flightMachine.Run FlightRuntime.Started fixedInFlight (event :: tracked.1) event.after ∧
      event.after.flightState = .hover ∧ event.after.controller.setpoint.coordinateFrame = 8 ∧
      ¬ WritesWorldFrame event := by
  intro tracked event
  have start : flightMachine.Run FlightRuntime.Started fixedInFlight []
      (FlightRuntime.initial.setConfig passThroughConfig) := .start ⟨passThroughConfig, rfl⟩
  have run := (start.replay (passThroughTurns 8) (by decide +kernel)).step hoverAfterTracking
    (by decide +kernel)
  have body : event.after.controller.setpoint.coordinateFrame = 8 := by decide +kernel
  refine ⟨run, by decide +kernel, body, fun writes => ?_⟩
  have world := writes (by decide +kernel) (.inr (by decide +kernel))
  exact nomatch body.symm.trans world

end PassThrough

end MultirotorController
