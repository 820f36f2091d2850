import MultirotorController.Control.ExactMath
import MultirotorController.Safety.Environment

/-!
# Landing ends by a confirmed touchdown

The counter of settled frames summarises the history of the landing: it never
exceeds the settled frames that a run has really seen since the landing began or
was last interrupted. A touchdown is posted in the tick that confirms it and is
consumed by the choice of the same update, so none is ever pending.
-/

namespace MultirotorController

open DroneController

section History

variable [Xgc2Math]

/-- The update saw a new settled pose of an active landing feedback. -/
def settledFrame (event : FlightEvent) : Bool :=
  let controller := event.after.controller
  LandingState.landingFeedbackActive controller && controller.isWorldPoseNew &&
    LandingState.velocitySettled controller && LandingState.altitudeSettled controller

/-- The update saw an inactive landing feedback, or a new pose that is not settled. -/
def unsettledFrame (event : FlightEvent) : Bool :=
  let controller := event.after.controller
  !LandingState.landingFeedbackActive controller ||
    controller.isWorldPoseNew &&
      !(LandingState.velocitySettled controller && LandingState.altitudeSettled controller)

/-- The settled frames of the present landing since its last interruption. -/
def settledFrames (past : List FlightEvent) : Nat :=
  (past.takeWhile fun event =>
    event.before.flightState = .landing && !unsettledFrame event).countP settledFrame

/-- Every stream that the landing reads is active. -/
def landingStreamsActive (controller : DroneController) : Bool :=
  let sensor := controller.sensorData
  if trackingUsesFusedEstimate controller.backend then SensorChecks.isControlStateActive sensor
  else sensor.localPosStats.isActive && sensor.localVelocityStats.isActive

/-- What ends a landing, in the update that ends it. -/
structure TouchdownConfirmed (past : List FlightEvent) (controller : DroneController) : Prop where
  streams : landingStreamsActive controller
  altitude : controller.worldZ.isFinite
  velocity : controller.worldVz.isFinite
  fcuConnected : controller.sensorData.fcuConnected
  fcuActive : controller.sensorData.stateStats.isActive
  fcuStateNew : controller.sensorData.stateStats.isNew
  disarmed : controller.sensorData.fcuArmed = false
  frames : LandingState.consecutiveSettledFrames ≤ settledFrames past

/-- One more update of a landing moves the count as the landing moves its counter. -/
theorem nextLandedFrames_le_settledFrames {event : FlightEvent} {past : List FlightEvent}
    {count : Nat} (landing : event.before.flightState = .landing)
    (counted : count ≤ settledFrames past) :
    LandingState.nextLandedFrames event.after.controller count ≤ settledFrames (event :: past) := by
  unfold LandingState.nextLandedFrames
  split
  · exact Nat.zero_le _
  next active =>
    have active : LandingState.landingFeedbackActive event.after.controller := by
      simpa using active
    split
    next old =>
      have kept : settledFrames (event :: past) = settledFrames past := by
        simp_all [settledFrames, unsettledFrame, settledFrame]
      rw [kept]
      exact counted
    next fresh =>
      split
      · exact Nat.zero_le _
      next settled =>
        have one : settledFrames (event :: past) = settledFrames past + 1 := by
          simp_all [settledFrames, unsettledFrame, settledFrame]
        have saturated := countFrame_le LandingState.consecutiveSettledFrames count
        omega

/-- A landing that lasts has not posted its touchdown, and counted no more frames than the
run has seen. -/
structure AwaitsTouchdown (past : List FlightEvent) (runtime : FlightRuntime) : Prop where
  notPending : .touchdown ∉ runtime.pending
  landing : ∀ leaf, runtime.leaf = .landing leaf →
    leaf.touchdownEventPosted = false ∧ leaf.confirmedLandedFrames ≤ settledFrames past

end History

namespace FlightRuntime

variable [Libm] [Xgc2Math] {runtime : FlightRuntime} {turn : Turn} {past : List FlightEvent}

/-- Inputs never post a touchdown. -/
theorem touchdown_notMem_prepare (turn : Turn) (awaits : .touchdown ∉ runtime.pending) :
    .touchdown ∉ (runtime.prepare turn).pending := by
  have received := runtime.prepare_received turn
  obtain ⟨new, appended, safety⟩ := received.signals
  simp only [pending, List.mem_append, not_or, appended, received.deferredSignals] at awaits ⊢
  refine ⟨⟨awaits.1, fun posted => ?_⟩, awaits.2⟩
  have isSafety := safety _ posted
  cases isSafety

/-- Nor does the health monitor. -/
theorem touchdown_notMem_afterHealth (now : Time) (awaits : .touchdown ∉ runtime.pending) :
    .touchdown ∉ (runtime.afterHealth now).controller.signals := by
  intro posted
  rcases (runtime.afterHealth_step now).toEmits.signal_of_mem posted with old | safety
  · exact awaits old
  · exact nomatch safety

/-- Only a landing posts its touchdown. -/
theorem landing_of_touchdown (now : Time) (awaits : .touchdown ∉ runtime.pending)
    (posted : .touchdown ∈ (runtime.ticked now).controller.signals) :
    runtime.flightState = .landing := by
  rcases (runtime.ticked_emits now).signal_of_mem posted with old | safety | tick
  · exact (awaits old).elim
  · exact nomatch safety
  · cases state : runtime.flightState <;> rw [state] at tick <;>
      simp_all [FlightState.tickSignals]

/-- A touchdown is posted in the tick that confirms it, after all other signals. -/
theorem ticked_signals_landing (now : Time) {leaf : LandingState}
    (landing : runtime.leaf = .landing leaf) (waiting : leaf.touchdownEventPosted = false) :
    (runtime.ticked now).controller.signals = (runtime.afterHealth now).controller.signals ++
      if LandingState.consecutiveSettledFrames ≤ LandingState.nextLandedFrames
          (runtime.afterHealth now).controller leaf.confirmedLandedFrames ∧
        LandingState.disarmAcknowledged (runtime.afterHealth now).controller
      then [.touchdown] else [] := by
  rw [ticked_controller_landing landing, LandingState.onTick_signals _ waiting,
    LandingState.onTick_confirmedLandedFrames _ waiting]

/-- The choice consumes the touchdown that the tick appended. -/
theorem deferredSignals_of_touchdown {healthy : List FlightSignal}
    (landing : runtime.flightState = .landing) (absent : .touchdown ∉ healthy)
    (posted : runtime.controller.signals = healthy ++ [.touchdown]) :
    (afterTick healthy.length runtime).deferredSignals = [] := by
  have first : (healthy ++ [FlightSignal.touchdown]).findIdx (· == FlightSignal.touchdown) =
      healthy.length := by
    have none_ : healthy.findIdx (· == FlightSignal.touchdown) = healthy.length :=
      List.findIdx_eq_length.mpr fun signal member => by
        simpa using ne_of_mem_of_not_mem member absent
    simp [List.findIdx_append, none_]
  have chosen : runtime.choose = some (runtime.onSignal .touchdown .selfCheck) := by
    unfold choose chooseLanding
    simp [landing, hasSignal, posted]
  rw [afterTick_deferredSignals, chosen]
  simp [applyChoice, transition, onSignal, first, posted]

/-- An update of a landing leaves no touchdown behind. -/
theorem touchdown_notMem_of_landing {now : Time} {leaf : LandingState}
    (landing : runtime.leaf = .landing leaf) (waiting : leaf.touchdownEventPosted = false)
    (awaits : .touchdown ∉ runtime.pending) :
    .touchdown ∉ (runtime.update now).1.pending := by
  intro left
  have posted := mem_ticked_of_mem_pending runtime now left
  have absent := touchdown_notMem_afterHealth now awaits
  rw [ticked_signals_landing now landing waiting] at posted
  rcases runtime.update_cases now with ⟨error, custom1, -⟩ | ⟨again, completed⟩
  · rw [flightState, landing] at custom1
    cases custom1
  · split at posted
    next confirmed =>
      have ticked := ticked_signals_landing now landing waiting
      rw [if_pos confirmed] at ticked
      have state : (runtime.ticked now).flightState = .landing := by
        rw [ticked_flightState, flightState, landing]
        rfl
      rw [completed] at left
      change _ ∈ [] ++ (afterTick _ _).deferredSignals at left
      rw [deferredSignals_of_touchdown state absent ticked] at left
      exact List.not_mem_nil left
    next =>
      rw [List.append_nil] at posted
      exact absent posted

/-- The landing's own counter after the tick is covered by the history. -/
theorem nextLandedFrames_turn (turn : Turn) {leaf : LandingState}
    (landing : runtime.leaf = .landing leaf)
    (counted : leaf.confirmedLandedFrames ≤ settledFrames past) :
    LandingState.nextLandedFrames ((runtime.prepare turn).afterHealth turn.now).controller
        leaf.confirmedLandedFrames ≤
      settledFrames (flightMachine.event runtime turn :: past) := by
  obtain ⟨config, sensorData⟩ := runtime.turn_circumstances turn
  rw [← LandingState.nextLandedFrames_congr config sensorData]
  have before : (flightMachine.event runtime turn).before.flightState = .landing := by
    change runtime.leaf.flightState = .landing
    rw [landing]
    rfl
  have covered := nextLandedFrames_le_settledFrames before counted
  exact covered

theorem awaitsTouchdown_turn (awaits : AwaitsTouchdown past runtime) :
    AwaitsTouchdown (flightMachine.event runtime turn :: past) (runtime.turn turn).1 := by
  have absent := touchdown_notMem_prepare turn awaits.notPending
  have leaf_ := (runtime.prepare_received turn).leaf
  refine ⟨fun left => ?_, fun after landing => ?_⟩
  · have posted := mem_ticked_of_mem_pending (runtime.prepare turn) turn.now left
    obtain ⟨leaf, landing⟩ := landing_of_flightState (landing_of_touchdown turn.now absent posted)
    have waiting := (awaits.landing leaf (leaf_.symm.trans landing)).1
    exact touchdown_notMem_of_landing landing waiting absent left
  · rcases landing_of_update rfl landing with ⟨leaf, ticking, rfl, undecided⟩ | ⟨-, entered⟩
    · obtain ⟨waiting, counted⟩ := awaits.landing leaf (leaf_.symm.trans ticking)
      refine ⟨?_, ?_⟩
      · -- A posted touchdown would have ended the landing in this turn.
        by_contra posted
        rw [LandingState.onTick_touchdownEventPosted _ waiting] at posted
        rw [ticked_controller_landing ticking, LandingState.onTick_signals _ waiting] at undecided
        have landed := of_decide_eq_true (eq_true_of_ne_false posted)
        simp [landed] at undecided
      · rw [LandingState.onTick_confirmedLandedFrames _ waiting]
        exact nextLandedFrames_turn turn (leaf_.symm.trans ticking) counted
    · exact ⟨entered.1, by simp [entered.2]⟩

/-- What the posted touchdown says about the turn and its history. -/
theorem touchdownConfirmed_of_posted (awaits : AwaitsTouchdown past runtime) {leaf : LandingState}
    (landing : runtime.leaf = .landing leaf)
    (posted : .touchdown ∈ ((runtime.prepare turn).ticked turn.now).controller.signals) :
    TouchdownConfirmed (flightMachine.event runtime turn :: past)
      (runtime.turn turn).1.controller := by
  have absent := touchdown_notMem_prepare turn awaits.notPending
  obtain ⟨waiting, counted⟩ := awaits.landing leaf landing
  have leaf_ := (runtime.prepare_received turn).leaf.trans landing
  obtain ⟨config, sensorData⟩ := runtime.turn_circumstances turn
  rw [ticked_signals_landing turn.now leaf_ waiting] at posted
  split at posted
  next confirmed =>
    obtain ⟨enough, acknowledged⟩ := confirmed
    have covered := nextLandedFrames_turn turn landing counted
    have frames := enough.trans covered
    rw [← LandingState.disarmAcknowledged_congr config sensorData] at acknowledged
    simp only [LandingState.disarmAcknowledged, LandingState.landingFeedbackActive,
      Bool.and_eq_true, Bool.not_eq_true'] at acknowledged
    obtain ⟨⟨⟨⟨feedback, active⟩, connected⟩, disarmed⟩, fresh⟩ := acknowledged
    exact ⟨feedback.1.1, feedback.1.2, feedback.2, connected, active, fresh, disarmed, frames⟩
  next =>
    rw [List.append_nil] at posted
    exact (touchdown_notMem_afterHealth turn.now absent posted).elim

/-- A landing ends in SelfCheck, by its touchdown. -/
theorem turn_of_landing (awaits : AwaitsTouchdown past runtime)
    (landing : runtime.flightState = .landing) :
    (runtime.turn turn).1.flightState = .landing ∨
      (runtime.turn turn).1.flightState = .selfCheck ∧
        TouchdownConfirmed (flightMachine.event runtime turn :: past)
          (runtime.turn turn).1.controller := by
  obtain ⟨again, completed⟩ : ∃ again, (runtime.turn turn).2 = .ok again :=
    (runtime.turn_cases turn).resolve_right fun thrown => nomatch landing.symm.trans thrown.1
  rcases transition_of_turn completed with ⟨-, stays⟩ | step
  · exact .inl (stays.trans landing)
  · rw [landing] at step
    obtain ⟨leaf, landing⟩ := landing_of_flightState landing
    generalize ended : FlightRuntime.flightState _ = target at step ⊢
    cases step with
    | landed posted =>
        exact .inr ⟨rfl, touchdownConfirmed_of_posted awaits landing posted⟩
    | preempted watched => simp [FlightState.isFlying] at watched
    | disarmed _ _ requesting => simp at requesting
    | advanced _ _ flying => cases flying

theorem awaitsTouchdown_started (started : runtime.Started) : AwaitsTouchdown [] runtime := by
  obtain ⟨config, rfl⟩ := started
  refine ⟨List.not_mem_nil, fun leaf landing => ?_⟩
  cases landing

end FlightRuntime

/-- Whatever happens in a landing, the next leaf is SelfCheck, entered in the update that
confirms the touchdown. -/
theorem landing_ends_by_confirmed_touchdown [Libm] [Xgc2Math] {past : List FlightEvent}
    {runtime : FlightRuntime}
    (run : flightMachine.Run FlightRuntime.Started anyEnvironment past runtime) :
    ∀ event older, event :: older <:+ past → event.before.flightState = .landing →
      event.after.flightState = .landing ∨
        event.after.flightState = .selfCheck ∧
          TouchdownConfirmed (event :: older) event.after.controller :=
  run.invariant_history AwaitsTouchdown (fun _ => FlightRuntime.awaitsTouchdown_started)
    fun _ _ _ _ awaits _ =>
      ⟨FlightRuntime.awaitsTouchdown_turn awaits, FlightRuntime.turn_of_landing awaits⟩

section Landed

open ExactMath

/-- A grounded vehicle that is told to land has landed after five settled frames. -/
theorem landing_ends_by_confirmed_touchdown_landed :
    let still (inputs : List FlightInput) (second : UInt32) : Turn :=
      { inputs, sensor := groundedSensor, now := ⟨second, 0⟩ }
    let turns :=
      [still [] 1, still [.command .land] 2, still [] 3, still [] 4, still [] 5, still [] 6]
    let landed := flightMachine.replay [] (FlightRuntime.initial.setConfig {}) turns
    let event := flightMachine.event landed.2 (still [] 7)
    event.before.flightState = .landing ∧ event.after.flightState = .selfCheck ∧
      TouchdownConfirmed (event :: landed.1) event.after.controller := by
  intro still turns landed event
  have start : flightMachine.Run FlightRuntime.Started anyEnvironment []
      (FlightRuntime.initial.setConfig {}) := .start ⟨{}, rfl⟩
  have run := (start.replay turns (by decide +kernel)).step (still [] 7) trivial
  have landing : event.before.flightState = .landing := by decide +kernel
  have ended := landing_ends_by_confirmed_touchdown run event landed.1 List.suffix_rfl landing
  exact ⟨landing, ended.resolve_left (by decide +kernel)⟩

end Landed

end MultirotorController
