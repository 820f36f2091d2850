import MultirotorController.Control.ExactMath
import MultirotorController.Safety.Environment

/-!
# Supervision of the sensors in flight

The monitor reports edges, and an edge that falls in SelfCheck or Landing is
dropped. In flight the levels hold nevertheless: from the self check on, each
latch of the monitor says what the latest update saw, and no update of Ready or
of the flight can see a level fall without a report, to which its leaf reacts in
the same update. The timer of an unusable control state is the start of the
present unusable stretch of the run.
-/

namespace MultirotorController

open DroneController

/-- The configuration loader replaces a delay that is negative or not finite. -/
def ControllerConfig.tripDelayLoaded (config : ControllerConfig) : Bool :=
  config.safety.stateEstimateUnusableTripDelay.isFinite &&
    decide (0 ≤ config.safety.stateEstimateUnusableTripDelay)

section Levels

variable [Xgc2Math]

/-- A fused backend has no control state that it may use. -/
def lacksControlState (controller : DroneController) : Bool :=
  trackingUsesFusedEstimate controller.backend &&
    !SensorChecks.isControlStateUsableForControl controller.sensorData

/-- The time of the update since which every update has found the control state unusable. -/
def unusableFrom (past : List FlightEvent) : Option Double :=
  (past.takeWhile fun event => lacksControlState event.after.controller).getLast?.map
    (·.after.controller.currentTime)

/-- The levels that are supervised in flight, after an update. -/
structure LevelsHold (config : ControllerConfig) (past : List FlightEvent)
    (runtime : FlightRuntime) : Prop where
  fcuState : runtime.controller.sensorData.stateStats.isActive
  positionDistance : runtime.health.positionDistance.exceeded = false
  controlState : trackingUsesFusedEstimate config.trackingBackend →
    SensorChecks.isControlStateActive runtime.controller.sensorData
  usable : ∀ start, unusableFrom past = some start →
    runtime.controller.currentTime - start <
      config.safety.stateEstimateUnusableTripDelay

theorem unusableFrom_cons (event : FlightEvent) (past : List FlightEvent) :
    unusableFrom (event :: past) =
      if lacksControlState event.after.controller then
        some ((unusableFrom past).getD event.after.controller.currentTime)
      else none := by
  unfold unusableFrom
  cases lacks : lacksControlState event.after.controller with
  | false => simp [lacks]
  | true =>
      simp only [List.takeWhile_cons, lacks, if_true, List.getLast?_cons, Option.map_some]
      cases List.getLast? _ <;> rfl

/-- What the latches know about the run while the monitor is listened to. -/
structure Watching (config : ControllerConfig) (past : List FlightEvent)
    (runtime : FlightRuntime) : Prop where
  fcuState : runtime.health.safetyState.wasStateActive
  controlState : trackingUsesFusedEstimate config.trackingBackend →
    HealthMonitorState.controlStateLatched config.feedbackSource runtime.health.safetyState
  untripped : runtime.health.safetyState.stateEstimateUnusable = false
  since : runtime.health.safetyState.stateEstimateUnusableSince = (unusableFrom past).getD (-1)
  sinceTime : ∀ start, unusableFrom past = some start → ∃ time : Time, time.toSec = start

/-- On watch, either a report is still waiting, or the latches know. -/
def Supervised (config : ControllerConfig) (past : List FlightEvent) (runtime : FlightRuntime) :
    Prop :=
  runtime.flightState.isWatched →
    (∃ signal ∈ runtime.pending, signal.isSafety) ∨ Watching config past runtime

end Levels

namespace FlightRuntime

variable [Libm] [Xgc2Math] {config : ControllerConfig} {past : List FlightEvent}
variable {runtime : FlightRuntime} {turn : Turn}

theorem turn_config (allowed : keepsConfig config past runtime turn) :
    (runtime.turn turn).1.controller.config = config :=
  ((runtime.prepare turn).update_circumstances turn.now).1.trans allowed.1

theorem turn_feedbackSource (allowed : keepsConfig config past runtime turn) :
    (runtime.turn turn).1.controller.sensorData.feedbackSource = config.feedbackSource := by
  obtain ⟨-, sensorData, -⟩ := (runtime.prepare turn).update_circumstances turn.now
  exact (congrArg SensorData.feedbackSource sensorData).trans allowed.2

theorem turn_sensorData : (runtime.turn turn).1.controller.sensorData = turn.sensor :=
  ((runtime.prepare turn).update_circumstances turn.now).2.1

theorem turn_currentTime : (runtime.turn turn).1.controller.currentTime = turn.now.toSec :=
  ((runtime.prepare turn).update_circumstances turn.now).2.2

omit [Libm] [Xgc2Math] in
/-- On watch an update without control state is one whose control state is unusable. -/
theorem controlStateUnusable_eq {controller : DroneController}
    (active : trackingUsesFusedEstimate controller.backend →
      SensorChecks.isControlStateActive controller.sensorData) :
    HealthMonitorState.controlStateUnusable controller = lacksControlState controller := by
  unfold HealthMonitorState.controlStateUnusable lacksControlState
  cases fused : trackingUsesFusedEstimate controller.backend with
  | false => rfl
  | true => simp [active fused]

omit [Libm] in
/-- The timer keeps the start of an unusable stretch and forgets it afterwards. -/
theorem unusableSince_eq {now since : Double} {unusable : Bool}
    (earlier : unusable → since = (unusableFrom past).getD (-1))
    (times : unusable → ∀ start, unusableFrom past = some start →
      ∃ time : Time, time.toSec = start) :
    HealthMonitorState.unusableSince now since unusable =
      (if unusable then some ((unusableFrom past).getD now) else none).getD (-1) := by
  cases unusable with
  | false => rfl
  | true =>
      rw [earlier rfl]
      cases began : unusableFrom past with
      | none => rfl
      | some start =>
          obtain ⟨time, rfl⟩ := times rfl start began
          have nonneg : ¬ time.toSec < 0 := Double.not_lt_of_le time.toSec_nonneg
          simp [HealthMonitorState.unusableSince, nonneg]

/-- The latches after a turn whose streams are all active. -/
theorem watching_of_active (allowed : keepsConfig config past runtime turn)
    (fcuState : (runtime.turn turn).1.controller.sensorData.stateStats.isActive)
    (controlState : trackingUsesFusedEstimate config.trackingBackend →
      SensorChecks.isControlStateActive (runtime.turn turn).1.controller.sensorData)
    (untripped : (runtime.turn turn).1.health.safetyState.stateEstimateUnusable = false)
    (earlier : lacksControlState (runtime.turn turn).1.controller → Watching config past runtime) :
    Watching config (flightMachine.event runtime turn :: past) (runtime.turn turn).1 := by
  have configured := turn_config allowed
  have source := turn_feedbackSource allowed
  have now : (runtime.turn turn).1.controller.currentTime = turn.now.toSec := turn_currentTime
  have next := runtime.turn_safetyState turn
  have backend : (runtime.turn turn).1.controller.backend = config.trackingBackend :=
    congrArg ControllerConfig.trackingBackend configured
  have lacks := controlStateUnusable_eq (by rw [backend]; exact controlState)
  have stretch := unusableFrom_cons (flightMachine.event runtime turn) past
  change _ = if lacksControlState (runtime.turn turn).1.controller then
    some ((unusableFrom past).getD (runtime.turn turn).1.controller.currentTime)
    else none at stretch
  refine ⟨?_, fun fused => ?_, untripped, ?_, ?_⟩
  · rw [next]
    exact fcuState
  · rw [next, ← source]
    refine (HealthMonitorState.controlStateLatched_streamLatches _ ?_).trans (controlState fused)
    rw [backend]
    exact fused
  · rw [next, stretch]
    dsimp only [HealthMonitorState.nextSafety]
    rw [lacks]
    exact unusableSince_eq (fun lost => (earlier lost).since) fun lost => (earlier lost).sinceTime
  · intro start began
    rw [stretch] at began
    split at began
    next lost =>
      cases before : unusableFrom past with
      | none =>
          rw [before] at began
          exact ⟨turn.now, now.symm.trans (Option.some.inj began)⟩
      | some first =>
          rw [before] at began
          exact (earlier lost).sinceTime start (before.trans began)
    · cases began

/-- A calm turn on watch leaves the latches knowing. -/
theorem watching_of_calm (allowed : keepsConfig config past runtime turn)
    (supervised : Supervised config past runtime) (began : runtime.flightState.isWatched)
    (calm : ((runtime.prepare turn).ticked turn.now).Calm) :
    Watching config (flightMachine.event runtime turn :: past) (runtime.turn turn).1 := by
  have sensorData : (runtime.turn turn).1.controller.sensorData = turn.sensor := turn_sensorData
  have watching : Watching config past runtime := by
    refine (supervised began).resolve_left ?_
    rintro ⟨signal, waits, safety⟩
    rw [not_safety_pending_of_calm calm waits] at safety
    cases safety
  refine watching_of_active allowed ?_ (fun fused => ?_) (untripped_of_calm calm watching.untripped)
    fun _ => watching
  · rw [sensorData]
    exact fcuState_of_calm calm watching.fcuState
  · rw [sensorData]
    refine controlState_of_calm calm ?_ ?_
    · rw [DroneController.backend, allowed.1]
      exact fused
    · rw [allowed.2]
      exact watching.controlState fused

/-- So does the self check. -/
theorem watching_of_ready (allowed : keepsConfig config past runtime turn)
    (ready : SensorChecks.areSensorsReady (runtime.turn turn).1.controller.sensorData
      (runtime.turn turn).1.controller.backend) :
    Watching config (flightMachine.event runtime turn :: past) (runtime.turn turn).1 := by
  have backend : (runtime.turn turn).1.controller.backend = config.trackingBackend :=
    congrArg ControllerConfig.trackingBackend (turn_config allowed)
  have usable : lacksControlState (runtime.turn turn).1.controller = false := by
    unfold lacksControlState
    cases fused : trackingUsesFusedEstimate (runtime.turn turn).1.controller.backend with
    | false => rfl
    | true => simp [(SensorChecks.isControlStateActive_of_ready fused ready).2]
  have active : trackingUsesFusedEstimate (runtime.turn turn).1.controller.backend →
      SensorChecks.isControlStateActive (runtime.turn turn).1.controller.sensorData :=
    fun fused => (SensorChecks.isControlStateActive_of_ready fused ready).1
  refine watching_of_active allowed (SensorChecks.stateActive_of_ready ready) ?_ ?_ ?_
  · rw [← backend]
    exact active
  · rw [turn_safetyState]
    simp [HealthMonitorState.nextSafety, HealthMonitorState.unusableTrip,
      controlStateUnusable_eq active, usable]
  · intro lost
    rw [usable] at lost
    cases lost

omit [Libm] [Xgc2Math] in
/-- An unusable stretch that has not tripped is shorter than the delay. -/
theorem lt_tripDelay (loaded : config.tripDelayLoaded) {now : Double} {time start : Time}
    (clock : now = time.toSec)
    (untripped : HealthMonitorState.unusableTrip now start.toSec
      config.safety.stateEstimateUnusableTripDelay true = false) :
    now - start.toSec < config.safety.stateEstimateUnusableTripDelay := by
  obtain ⟨finite, -⟩ := Bool.and_eq_true_iff.mp loaded
  rw [HealthMonitorState.unusableTrip, if_pos start.toSec_nonneg, Bool.true_and,
    decide_eq_false_iff_not] at untripped
  refine Double.lt_of_not_le ?_ finite untripped
  rw [clock, Time.toSec, Time.toSec, Double.fin_sub_fin, Double.isFinite_fin]

/-- Latches that know are levels that hold. -/
theorem levelsHold_of_watching (loaded : config.tripDelayLoaded)
    (allowed : keepsConfig config past runtime turn)
    (watching : Watching config (flightMachine.event runtime turn :: past) (runtime.turn turn).1)
    (near : (runtime.turn turn).1.health.positionDistance.exceeded = false) :
    LevelsHold config (flightMachine.event runtime turn :: past) (runtime.turn turn).1 := by
  have next := runtime.turn_safetyState turn
  have configured := turn_config allowed
  have controlState : trackingUsesFusedEstimate config.trackingBackend →
      SensorChecks.isControlStateActive (runtime.turn turn).1.controller.sensorData := by
    intro fused
    have latched := watching.controlState fused
    rw [next, ← turn_feedbackSource allowed] at latched
    refine (HealthMonitorState.controlStateLatched_streamLatches _ ?_).symm.trans latched
    rw [DroneController.backend, configured]
    exact fused
  refine ⟨?_, near, controlState, fun start began => ?_⟩
  · have latched := watching.fcuState
    rw [next] at latched
    exact latched
  · have backend : (runtime.turn turn).1.controller.backend = config.trackingBackend :=
      congrArg ControllerConfig.trackingBackend configured
    have lost : lacksControlState (runtime.turn turn).1.controller := by
      by_contra usable
      rw [unusableFrom_cons] at began
      have none_ := (if_neg usable).symm.trans began
      cases none_
    have since := watching.since
    have untripped := watching.untripped
    rw [began, next] at since
    rw [next] at untripped
    dsimp only [HealthMonitorState.nextSafety, Option.getD_some] at since untripped
    rw [since, controlStateUnusable_eq (by rw [backend]; exact controlState), lost,
      configured] at untripped
    obtain ⟨time, rfl⟩ := watching.sinceTime start began
    exact lt_tripDelay loaded turn_currentTime untripped

/-- A completed turn of the flight that does not land leaves the levels holding. -/
theorem levelsHold_turn (loaded : config.tripDelayLoaded)
    (allowed : keepsConfig config past runtime turn) (supervised : Supervised config past runtime)
    {again : Bool} (completed : (runtime.turn turn).2 = .ok again)
    (began : runtime.flightState.isWatched)
    (ended : (runtime.turn turn).1.flightState.isFlying ∨
      runtime.flightState.isFlying ∧ (runtime.turn turn).1.flightState ≠ .landing) :
    LevelsHold config (flightMachine.event runtime turn :: past) (runtime.turn turn).1 := by
  obtain ⟨calm, near⟩ :=
    calm_of_turn completed began (ended.imp_left FlightState.isWatched_of_isFlying)
  refine levelsHold_of_watching loaded allowed (watching_of_calm allowed supervised began calm) ?_
  exact near (ended.imp_right And.left)

/-- Step lemma of the supervision. -/
theorem supervised_turn (allowed : keepsConfig config past runtime turn)
    (supervised : Supervised config past runtime) :
    Supervised config (flightMachine.event runtime turn :: past) (runtime.turn turn).1 := by
  intro ended
  rcases runtime.turn_cases turn with
    ⟨again, completed⟩ | ⟨custom1, -, calm | reported⟩
  · rcases watched_of_turn completed ended with began | ⟨-, ready⟩
    · obtain ⟨calm, -⟩ := calm_of_turn completed began (.inl ended)
      exact .inr (watching_of_calm allowed supervised began calm)
    · exact .inr (watching_of_ready allowed ready)
  · exact .inr (watching_of_calm allowed supervised (by rw [custom1]; rfl) calm)
  · exact .inl reported

theorem supervised_started (started : runtime.StartedWith config) :
    Supervised config [] runtime := by
  subst started
  intro watched
  cases watched

/-- What an update does to the levels, if they held on watch before it. -/
theorem levels_turn (loaded : config.tripDelayLoaded)
    (allowed : keepsConfig config past runtime turn)
    (supervised : Supervised config past runtime) {again : Bool}
    (completed : (runtime.turn turn).2 = .ok again) :
    ((runtime.turn turn).1.flightState.isFlying →
        LevelsHold config (flightMachine.event runtime turn :: past) (runtime.turn turn).1) ∧
      (runtime.flightState.isFlying →
        ¬ LevelsHold config (flightMachine.event runtime turn :: past) (runtime.turn turn).1 →
        (runtime.turn turn).1.flightState = .landing) := by
  refine ⟨fun flying => ?_, fun flying broken => ?_⟩
  · rcases watched_of_turn completed (FlightState.isWatched_of_isFlying flying) with
      began | ⟨ready, -⟩
    · exact levelsHold_turn loaded allowed supervised completed began (.inl flying)
    · rw [ready] at flying
      cases flying
  · by_contra onwards
    exact broken (levelsHold_turn loaded allowed supervised completed
      (FlightState.isWatched_of_isFlying flying) (.inr ⟨flying, onwards⟩))

end FlightRuntime

section Lost

open ExactMath

end Lost

end MultirotorController
