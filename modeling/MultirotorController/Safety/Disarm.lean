import MultirotorController.Control.ExactMath
import MultirotorController.Safety.Environment

/-!
# No disarm in the air

A disarm is requested on entering Ready, on entering TakeoffInit and by Landing.
Ready and the transition out of Ready look at the snapshot of the same turn.
Landing looks at a counter of settled frames, so its guard needs an invariant:
while the counter is not zero, the latest altitude is a settled one.
-/

namespace MultirotorController

open DroneController

/-- A landing that has counted frames is as low as its latest frame, and has not posted
its touchdown. -/
def LowWhileSettled [Xgc2Math] (runtime : FlightRuntime) : Prop :=
  ∀ leaf, runtime.leaf = .landing leaf →
    leaf.touchdownEventPosted = false ∧
      (0 < leaf.confirmedLandedFrames →
        runtime.controller.worldZ ≤ LandingState.groundAltitude)

/-- What a run of the disarm law assumes about its environment. -/
def flightEnvironment [Libm] [Xgc2Math] : FlightRestriction := fun past runtime turn =>
  fixedInFlight past runtime turn ∧ positionsFollowStreams past runtime turn

instance [Libm] [Xgc2Math] (past : List FlightEvent) (runtime : FlightRuntime) (turn : Turn) :
    Decidable (flightEnvironment past runtime turn) := inferInstanceAs (Decidable (_ ∧ _))

namespace FlightRuntime

variable [Libm] [Xgc2Math] {runtime : FlightRuntime} {turn : Turn} {past : List FlightEvent}

/-- The update of a turn sees the snapshot and the configuration of the turn. -/
theorem turn_worldZ :
    (runtime.turn turn).1.controller.worldZ = (runtime.prepare turn).controller.worldZ := by
  obtain ⟨config, sensorData, -⟩ := (runtime.prepare turn).update_circumstances turn.now
  change ((runtime.prepare turn).update turn.now).1.controller.worldZ = _
  rw [worldZ, backend, config, sensorData]
  rfl

theorem turn_isAirborne :
    (runtime.turn turn).1.controller.isAirborne =
      (runtime.prepare turn).controller.isAirborne := by
  obtain ⟨config, sensorData, -⟩ := (runtime.prepare turn).update_circumstances turn.now
  change ((runtime.prepare turn).update turn.now).1.controller.isAirborne = _
  rw [isAirborne, backend, config, sensorData]
  rfl

/-- A counter above zero after the tick means a settled altitude in this turn. -/
theorem worldZ_le_of_landedFrames (low : LowWhileSettled runtime)
    (allowed : flightEnvironment past runtime turn) {leaf : LandingState}
    (landing : (runtime.prepare turn).leaf = .landing leaf)
    (counted : 0 < (LandingState.onTick
      ⟨((runtime.prepare turn).afterHealth turn.now).controller,
        leaf⟩).leaf.confirmedLandedFrames) :
    (runtime.prepare turn).controller.worldZ ≤ LandingState.groundAltitude := by
  have before : runtime.leaf = .landing leaf :=
    (runtime.prepare_received turn).leaf.symm.trans landing
  obtain ⟨waiting, lowBefore⟩ := low leaf before
  have health := ((runtime.prepare turn).afterHealth_step turn.now).toEmits
  rw [LandingState.onTick_confirmedLandedFrames _ waiting] at counted
  rcases LandingState.worldZ_le_of_nextLandedFrames counted with settled | ⟨old, earlier⟩
  · rw [health.worldZ] at settled
    exact settled
  · rw [health.isWorldPoseNew] at old
    have airborne : runtime.onTheGround = false := by
      simp [onTheGround, flightState, before, FlightLeaf.flightState]
    obtain ⟨backend, source⟩ := allowed.1 airborne
    rw [worldZ_prepare allowed.2 backend source old]
    exact lowBefore earlier

theorem lowWhileSettled_turn (low : LowWhileSettled runtime)
    (allowed : flightEnvironment past runtime turn) :
    LowWhileSettled (runtime.turn turn).1 := by
  intro after landing
  rcases landing_of_update rfl landing with ⟨leaf, ticking, rfl, undecided⟩ | ⟨-, entered⟩
  · have before : runtime.leaf = .landing leaf :=
      (runtime.prepare_received turn).leaf.symm.trans ticking
    have waiting := (low leaf before).1
    refine ⟨?_, fun counted => ?_⟩
    · -- A posted touchdown would have ended the landing in this turn.
      by_contra posted
      rw [LandingState.onTick_touchdownEventPosted _ waiting] at posted
      rw [ticked_controller_landing ticking, LandingState.onTick_signals _ waiting] at undecided
      have landed := of_decide_eq_true (eq_true_of_ne_false posted)
      simp [landed] at undecided
    · rw [turn_worldZ]
      exact worldZ_le_of_landedFrames low allowed ticking counted
  · exact ⟨entered.1, by simp [entered.2]⟩

/-- Only Landing disarms in its tick, and only when it is low. -/
theorem not_airborne_of_ticked_disarm (low : LowWhileSettled runtime)
    (allowed : flightEnvironment past runtime turn) {effect : FlightEffect}
    (emitted : effect ∈ ((runtime.prepare turn).ticked turn.now).controller.flightEffects)
    (disarm : effect.isDisarm) : (runtime.prepare turn).controller.isAirborne = false := by
  have allowedEffect := tickEffects_of_mem_ticked _ _ emitted
  obtain ⟨leaf, landing⟩ : ∃ leaf, (runtime.prepare turn).leaf = .landing leaf := by
    apply landing_of_flightState
    change (runtime.prepare turn).flightState = .landing
    cases state : (runtime.prepare turn).flightState <;> rw [state] at allowedEffect
    all_goals
      cases effect <;> simp_all [FlightState.tickEffects, Custom1State.trackingEffect,
        FlightEffect.isDisarm, FlightEffect.isSetpoint, FlightEffect.isModeRequest,
        FlightEffect.isArm, FlightEffect.isAttitude, FlightEffect.isNmpcRequest]
  rw [ticked_controller_landing landing] at emitted
  rcases (LandingState.onTick_plain _).toEmits.effect_of_mem emitted with old | fresh
  · have none_ := ((runtime.prepare turn).afterHealth_step turn.now).toEmits.effect_of_mem old
    exact (none_.elim List.not_mem_nil id).elim
  · rcases fresh with setpoint | ⟨-, counted⟩
    · cases effect <;> simp_all [FlightEffect.isDisarm, FlightEffect.isSetpoint]
    · apply SensorChecks.not_airborne_of_worldZ_le
      exact worldZ_le_of_landedFrames low allowed landing
        (Nat.lt_of_lt_of_le (by decide) counted)

/-- The guards of the two disarms on entry read the snapshot of the same turn. -/
theorem not_airborne_of_entry_disarm {effect : FlightEffect}
    (emitted : ((runtime.prepare turn).ticked turn.now).choiceEffects effect)
    (disarm : effect.isDisarm) : (runtime.prepare turn).controller.isAirborne = false := by
  obtain ⟨choice, chosen, entered⟩ := emitted
  have tick := (runtime.prepare turn).ticked_emits turn.now
  rw [show (runtime.prepare turn).controller.isAirborne =
    ((runtime.prepare turn).ticked turn.now).controller.isAirborne from tick.isAirborne.symm]
  have step := choose_transition _ chosen
  generalize FlightRuntime.flightState _ = source at step
  cases target : choice.target <;> rw [target] at entered step
  case ready => exact entered.2
  case takeoffInit =>
    cases step with
    | takenOff _ _ _ _ _ grounded => exact grounded
    | advanced _ _ _ _ onwards => exact (onwards rfl).elim
  all_goals
    cases effect <;> simp_all [FlightState.enterEffects, FlightEffect.isDisarm,
      FlightEffect.isSetpoint, FlightEffect.isReferenceActivation]

/-- Step lemma of the disarm law. -/
theorem disarm_turn (low : LowWhileSettled runtime)
    (allowed : flightEnvironment past runtime turn) :
    LowWhileSettled (runtime.turn turn).1 ∧
      ∀ effect ∈ (runtime.turn turn).1.controller.flightEffects, effect.isDisarm →
        (runtime.turn turn).1.controller.isAirborne = false := by
  refine ⟨lowWhileSettled_turn low allowed, fun effect emitted disarm => ?_⟩
  rw [turn_isAirborne]
  rcases effect_of_mem_update _ _ emitted with ticked | telemetry | chosen
  · exact not_airborne_of_ticked_disarm low allowed ticked disarm
  · cases effect <;> simp_all [FlightEffect.isTelemetry, FlightEffect.isDisarm]
  · exact not_airborne_of_entry_disarm chosen disarm

theorem lowWhileSettled_started (started : runtime.Started) : LowWhileSettled runtime := by
  obtain ⟨config, rfl⟩ := started
  intro leaf landing
  cases landing

end FlightRuntime

section

variable [Libm] [Xgc2Math]

/-- In every run every requested disarm finds the vehicle on the ground, by the snapshot
of the turn that requests it. -/
theorem no_disarm_while_airborne {past : List FlightEvent} {runtime : FlightRuntime}
    (run : flightMachine.Run FlightRuntime.Started flightEnvironment past runtime) :
    ∀ event ∈ past, ∀ effect ∈ event.after.controller.flightEffects, effect.isDisarm →
      event.after.controller.isAirborne = false :=
  (run.invariant_events LowWhileSettled
    (fun _ => FlightRuntime.lowWhileSettled_started)
    fun _ _ _ low allowed => FlightRuntime.disarm_turn low allowed).2

end

section Grounded

open ExactMath

/-- The turn that takes a grounded vehicle from SelfCheck to Ready requests a disarm. -/
theorem no_disarm_while_airborne_entering_ready :
    let start := FlightRuntime.initial.setConfig {}
    let turn : Turn := { sensor := groundedSensor, now := ⟨1, 0⟩ }
    let past := (flightMachine.replay [] start [turn]).1
    (∃ event ∈ past, ∃ effect ∈ event.after.controller.flightEffects, effect.isDisarm) ∧
      ∀ event ∈ past, ∀ effect ∈ event.after.controller.flightEffects, effect.isDisarm →
        event.after.controller.isAirborne = false := by
  intro start turn past
  have run : flightMachine.Run FlightRuntime.Started flightEnvironment [] start :=
    .start ⟨{}, rfl⟩
  have allowed : flightMachine.Admits flightEnvironment [] start [turn] := by decide +kernel
  exact ⟨by decide +kernel, no_disarm_while_airborne (run.replay [turn] allowed)⟩

end Grounded

end MultirotorController
