import MultirotorController.Uav.FlightUpdate
import MultirotorController.Uav.StateMachine.Custom1Results

/-!
# References, results and targets across a turn

Only Custom1 works with them. A turn of another leaf leaves them alone until it
enters Custom1; a turn of Custom1 ticks it and then stays or leaves.
-/

namespace MultirotorController

open DroneController

theorem FlightState.enterEffects_silent {controller : DroneController} {state : FlightState}
    {effect : FlightEffect} (entered : state.enterEffects controller effect) :
    effect.isAttitude = false ∧ effect.isNmpcRequest = false := by
  cases effect <;> cases state <;>
    simp_all [enterEffects, FlightEffect.isAttitude, FlightEffect.isNmpcRequest,
      FlightEffect.isSetpoint, FlightEffect.isDisarm, FlightEffect.isReferenceActivation]

/-- Only Custom1 emits attitudes and requests. -/
theorem FlightState.tickEffects_silent {state : FlightState} (notCustom1 : state ≠ .custom1)
    {effect : FlightEffect} (ticked : state.tickEffects effect) :
    effect.isAttitude = false ∧ effect.isNmpcRequest = false := by
  cases effect <;> cases state <;>
    simp_all [tickEffects, FlightEffect.isAttitude, FlightEffect.isNmpcRequest,
      FlightEffect.isSetpoint, FlightEffect.isDisarm, FlightEffect.isArm,
      FlightEffect.isModeRequest]

namespace FlightLeaf

variable [Xgc2Math] (controller : DroneController) (leaf : FlightLeaf)

theorem onExit_tracking (notCustom1 : leaf.flightState ≠ .custom1) :
    KeepsTracking controller (leaf.onExit controller).controller := by
  cases leaf with
  | custom1 leaf => exact (notCustom1 rfl).elim
  | _ => exact .refl controller

theorem onCommand_tracking (command : FlightCommand) :
    KeepsTracking controller (leaf.onCommand controller command).controller := by
  cases leaf with
  | hover leaf => exact (HoverState.onEvent_plain ⟨controller, leaf⟩ command).toKeepsTracking
  | takeoffAscending leaf =>
      exact (TakeoffAscendingState.onEvent_plain ⟨controller, leaf⟩ command).toKeepsTracking
  | _ => exact .refl controller

end FlightLeaf

namespace FlightRuntime

variable [Xgc2Math]

section Phases

variable (runtime : FlightRuntime)

theorem leave_tracking (choice : Choice) (notCustom1 : runtime.flightState ≠ .custom1) :
    KeepsTracking runtime.controller (leave choice runtime) := by
  let marked : DroneController :=
    if choice.selectedSignal.isNone && !choice.selectedCommand then
      { runtime.controller with
        diagnosticEvents := runtime.controller.diagnosticEvents ++ [0] }
    else runtime.controller
  have marks : KeepsTracking runtime.controller marked := by
    dsimp only [marked]
    split <;> exact ⟨rfl, rfl, rfl, rfl⟩
  exact (marks.trans (runtime.leaf.onExit_tracking marked notCustom1)).trans ⟨rfl, rfl, rfl, rfl⟩

/-- Leaving Custom1 closes its generation. -/
theorem leave_custom1 (choice : Choice) {leaf : Custom1State}
    (tracking : runtime.leaf = .custom1 leaf) :
    (leave choice runtime).nmpcResultBuffer =
        runtime.controller.nmpcResultBuffer.invalidateGeneration leaf.controlGeneration ∧
      (leave choice runtime).attitudeRateTarget = runtime.controller.attitudeRateTarget ∧
      (leave choice runtime).activeTrajectoryCache =
        runtime.controller.activeTrajectoryCache := by
  unfold leave
  rw [tracking]
  dsimp only [FlightLeaf.onExit]
  split <;> exact ⟨rfl, rfl, rfl⟩

theorem foldl_dispatchCommand_tracking (commands : List FlightCommand) :
    KeepsTracking runtime.controller (commands.foldl dispatchCommand runtime).controller := by
  induction commands generalizing runtime with
  | nil => exact .refl _
  | cons command rest ih =>
      exact (runtime.leaf.onCommand_tracking runtime.controller command).trans
        (ih (runtime.dispatchCommand command))

/-- Custom1 reacts to no command that causes no transition. -/
theorem foldl_dispatchCommand_custom1 {leaf : Custom1State}
    (tracking : runtime.leaf = .custom1 leaf)
    (commands : List FlightCommand) :
    (commands.foldl dispatchCommand runtime).leaf = .custom1 leaf := by
  induction commands generalizing runtime with
  | nil => exact tracking
  | cons command rest ih =>
      refine ih (runtime.dispatchCommand command) ?_
      unfold dispatchCommand
      rw [tracking]
      rfl

/-- Entering any leaf but Custom1 leaves the tracking data alone. -/
theorem transition_tracking (choice : Choice) (elsewhere : choice.target ≠ .custom1) :
    KeepsTracking (leave choice runtime) (runtime.transition choice).controller :=
  ((FlightLeaf.fresh choice.target).onEnter_plain (leave choice runtime)
    (by rw [FlightLeaf.flightState_fresh]; exact elsewhere)).toKeepsTracking

theorem afterTick_tracking (start : Nat) :
    KeepsTracking (runtime.applyChoice runtime.choose).controller
      (afterTick start runtime).controller := by
  have kept := (debugTurn_step
    (deferSignals start (runtime.applyChoice runtime.choose))).toKeepsTracking
  exact ⟨kept.mpcTrajectoryBuffer, kept.activeTrajectoryCache, kept.nmpcResultBuffer,
    kept.attitudeRateTarget⟩

theorem afterTick_leaf (start : Nat) :
    (afterTick start runtime).leaf = (runtime.applyChoice runtime.choose).leaf := rfl

end Phases

section Turn

variable [Libm] (runtime : FlightRuntime) (turn : Turn)

/-- The scope that the tick of Custom1 starts from. -/
def tickScope (leaf : Custom1State) : Scope Custom1State :=
  ⟨((runtime.prepare turn).afterHealth turn.now).controller, leaf⟩

/-- The tick starts without effects, from what the inputs of the turn have left. -/
theorem tickScope_spec (leaf : Custom1State) :
    KeepsTracking (runtime.prepare turn).controller (runtime.tickScope turn leaf).controller ∧
      (runtime.tickScope turn leaf).controller.flightEffects = [] ∧
      (runtime.tickScope turn leaf).controller.config = (runtime.prepare turn).controller.config ∧
      (runtime.tickScope turn leaf).controller.currentTime = turn.now.toSec := by
  have health := (runtime.prepare turn).afterHealth_step turn.now
  obtain ⟨new, appended, none_⟩ := health.effects
  have tracking := health.toKeepsTracking
  refine ⟨⟨tracking.mpcTrajectoryBuffer, tracking.activeTrajectoryCache,
    tracking.nmpcResultBuffer, tracking.attitudeRateTarget⟩, ?_, health.config,
    health.currentTime⟩
  rw [List.eq_nil_iff_forall_not_mem.mpr none_] at appended
  exact appended

theorem receive_results {input : FlightInput} (own : input.isNmpcResult = false) :
    (runtime.receive input).controller.nmpcResultBuffer = runtime.controller.nmpcResultBuffer := by
  cases input with
  | command command =>
      dsimp only [receive, postCommand]
      split <;> rfl
  | freshImu =>
      dsimp only [receive, onFreshImu, HealthMonitorState.onFreshImu]
      split <;> rfl
  | plannerSetpoint ingress =>
      dsimp only [receive]
      rw [ingestPlannerSetpoint_frame]
  | nmpcResult result => cases own
  | _ => rfl

/-- Without an input that carries a result the buffer of results is as it was. -/
theorem prepare_results (own : turn.inputs.all fun received => !received.isNmpcResult) :
    (runtime.prepare turn).controller.nmpcResultBuffer = runtime.controller.nmpcResultBuffer := by
  have all (inputs : List FlightInput) (own : inputs.all fun received => !received.isNmpcResult) :
      ∀ runtime : FlightRuntime, (inputs.foldl receive runtime).controller.nmpcResultBuffer =
        runtime.controller.nmpcResultBuffer := by
    induction inputs with
    | nil =>
        intro runtime
        rfl
    | cons input rest ih =>
        intro runtime
        simp only [List.all_cons, Bool.and_eq_true] at own
        exact (ih own.2 _).trans (runtime.receive_results (by simpa using own.1))
  exact all turn.inputs own runtime

/-- A turn of Custom1, whose tick ends in the scope `ticked`: it adds no attitude and no
request to those of the tick, and it stays in Custom1, or leaves it with its generation
closed. -/
structure CustomTurn (ticked : Scope Custom1State) (after : FlightRuntime) : Prop where
  target : after.controller.attitudeRateTarget = ticked.controller.attitudeRateTarget
  cache : after.controller.activeTrajectoryCache = ticked.controller.activeTrajectoryCache
  effects : ∃ new, after.controller.flightEffects = ticked.controller.flightEffects ++ new ∧
    ∀ effect ∈ new, effect.isAttitude = false ∧ effect.isNmpcRequest = false
  ended : (after.leaf = .custom1 ticked.leaf ∧
      after.controller.nmpcResultBuffer = ticked.controller.nmpcResultBuffer) ∨
    (after.flightState ≠ .custom1 ∧
      after.controller.nmpcResultBuffer =
        ticked.controller.nmpcResultBuffer.invalidateGeneration ticked.leaf.controlGeneration)

/-- A turn of another leaf: it emits no attitude and no request, and it ends in Custom1 only
by entering it. -/
structure OtherTurn (before : DroneController) (after : FlightRuntime) : Prop where
  target : after.controller.attitudeRateTarget = before.attitudeRateTarget
  effects : ∀ effect ∈ after.controller.flightEffects,
    effect.isAttitude = false ∧ effect.isNmpcRequest = false
  ended : (after.flightState ≠ .custom1 ∧ KeepsTracking before after.controller) ∨
    ∃ scope : Scope Custom1State, KeepsTracking before scope.controller ∧
      after.leaf = .custom1 (Custom1State.onEnter scope).leaf ∧
      KeepsTracking (Custom1State.onEnter scope).controller after.controller

variable {runtime turn}

variable (runtime) in
/-- After the tick a turn adds neither attitudes nor requests. -/
theorem afterTick_effects (start : Nat) :
    ∃ new, (afterTick start runtime).controller.flightEffects =
        runtime.controller.flightEffects ++ new ∧
      ∀ effect ∈ new, effect.isAttitude = false ∧ effect.isNmpcRequest = false := by
  obtain ⟨last, same, emits⟩ := runtime.afterTick_emits start
  obtain ⟨new, appended, allowed⟩ := emits.effects
  refine ⟨new, by rw [same]; exact appended, ?_⟩
  intro effect member
  rcases allowed effect member with telemetry | ⟨choice, -, entered⟩
  · cases effect <;> first | exact ⟨rfl, rfl⟩ | cases telemetry
  · exact FlightState.enterEffects_silent entered

theorem afterTick_custom1 (start : Nat) {leaf : Custom1State}
    (tracking : runtime.leaf = .custom1 leaf) :
    CustomTurn ⟨runtime.controller, leaf⟩ (afterTick start runtime) := by
  have kept := runtime.afterTick_tracking start
  have custom1 : runtime.flightState = .custom1 := by rw [flightState, tracking]; rfl
  cases chosen : runtime.choose with
  | none =>
      have staying := runtime.foldl_dispatchCommand_tracking runtime.commands
      rw [chosen] at kept
      have kept := staying.trans kept
      refine ⟨kept.attitudeRateTarget, kept.activeTrajectoryCache,
        runtime.afterTick_effects start, .inl ?_⟩
      refine ⟨?_, kept.nmpcResultBuffer⟩
      rw [afterTick_leaf, chosen]
      exact runtime.foldl_dispatchCommand_custom1 tracking runtime.commands
  | some choice =>
      have elsewhere : choice.target ≠ .custom1 := by
        rcases runtime.target_of_custom1 custom1 chosen with hover | landing
        · simp [hover]
        · simp [landing]
      obtain ⟨closed, target, cache⟩ := runtime.leave_custom1 choice tracking
      rw [chosen] at kept
      have kept := (runtime.transition_tracking choice elsewhere).trans kept
      refine ⟨kept.attitudeRateTarget.trans target, kept.activeTrajectoryCache.trans cache,
        runtime.afterTick_effects start, .inr ⟨?_, kept.nmpcResultBuffer.trans closed⟩⟩
      rw [afterTick_flightState, chosen]
      exact elsewhere

variable (turn) in
theorem turn_custom1 {leaf : Custom1State} (tracking : runtime.leaf = .custom1 leaf)
    {ends : Scope Custom1State → Prop}
    (specified : Procedure.wp Custom1State.onTick (fun _ => ends) (fun _ => ends)
      (runtime.tickScope turn leaf)) :
    ∃ ticked, ends ticked ∧ CustomTurn ticked (runtime.turn turn).1 := by
  have prepared : (runtime.prepare turn).leaf = .custom1 leaf :=
    (runtime.prepare_received turn).leaf.trans tracking
  obtain ⟨ticked, ended, controller, left⟩ :=
    (runtime.prepare turn).ticked_custom1 turn.now prepared specified
  refine ⟨ticked, ended, ?_⟩
  rcases (runtime.prepare turn).update_cases turn.now with ⟨error, -, thrown⟩ | ⟨again, completed⟩
  · have after : (runtime.turn turn).1 = (runtime.prepare turn).ticked turn.now :=
      congrArg Prod.fst thrown
    rw [after]
    refine ⟨by rw [controller], by rw [controller], ⟨[], ?_, by simp⟩, .inl ⟨left, ?_⟩⟩
    · rw [controller, List.append_nil]
    · rw [controller]
  · have after : (runtime.turn turn).1 = afterTick _ ((runtime.prepare turn).ticked turn.now) :=
      congrArg Prod.fst completed
    rw [after]
    have finished := afterTick_custom1
      ((runtime.prepare turn).afterHealth turn.now).controller.signals.length left
    rw [controller] at finished
    exact finished

omit [Libm] in
theorem CustomTurn.latestRequest {ticked : Scope Custom1State} {after : FlightRuntime}
    (ended : CustomTurn ticked after) (earlier : Option Nat) :
    latestRequest after.controller.flightEffects earlier =
      latestRequest ticked.controller.flightEffects earlier := by
  obtain ⟨new, appended, others⟩ := ended.effects
  rw [appended]
  exact latestRequest_append fun effect member => (others effect member).2

omit [Libm] in
theorem CustomTurn.attitude {ticked : Scope Custom1State} {after : FlightRuntime}
    (ended : CustomTurn ticked after) {effect : FlightEffect} (attitude : effect.isAttitude = true)
    (emitted : effect ∈ after.controller.flightEffects) :
    effect ∈ ticked.controller.flightEffects := by
  obtain ⟨new, appended, others⟩ := ended.effects
  rw [appended] at emitted
  rcases List.mem_append.mp emitted with old | fresh
  · exact old
  · rw [(others effect fresh).1] at attitude
    cases attitude

omit [Libm] in
/-- Leaving Custom1 closes its generation without touching the counters. -/
theorem CustomTurn.counters {ticked : Scope Custom1State} {after : FlightRuntime}
    (ended : CustomTurn ticked after) :
    after.controller.nmpcResultBuffer.generationCounter =
        ticked.controller.nmpcResultBuffer.generationCounter ∧
      after.controller.nmpcResultBuffer.requestCounter =
        ticked.controller.nmpcResultBuffer.requestCounter := by
  rcases ended.ended with ⟨-, kept⟩ | ⟨-, closed⟩
  · exact ⟨by rw [kept], by rw [kept]⟩
  · rw [closed]
    exact ticked.controller.nmpcResultBuffer.invalidateGeneration_counters _

theorem ticked_tracking (now : Time) (elsewhere : runtime.flightState ≠ .custom1) :
    KeepsTracking runtime.controller (runtime.ticked now).controller := by
  have health : KeepsTracking (runtime.beginTurn now).controller
      (runtime.afterHealth now).controller := (runtime.afterHealth_step now).toKeepsTracking
  have tick := ((runtime.afterHealth now).leaf.onTick_plain
    (runtime.afterHealth now).controller elsewhere).toKeepsTracking
  have kept := health.trans tick
  exact ⟨kept.mpcTrajectoryBuffer, kept.activeTrajectoryCache, kept.nmpcResultBuffer,
    kept.attitudeRateTarget⟩

omit [Libm] in
/-- After the tick of another leaf, Custom1 is only ever entered. -/
theorem afterTick_other (start : Nat) (elsewhere : runtime.flightState ≠ .custom1) :
    ((afterTick start runtime).flightState ≠ .custom1 ∧
        KeepsTracking runtime.controller (afterTick start runtime).controller) ∨
      ∃ scope : Scope Custom1State, KeepsTracking runtime.controller scope.controller ∧
        (afterTick start runtime).leaf = .custom1 (Custom1State.onEnter scope).leaf ∧
        KeepsTracking (Custom1State.onEnter scope).controller
          (afterTick start runtime).controller := by
  have kept := runtime.afterTick_tracking start
  cases chosen : runtime.choose with
  | none =>
      have staying := runtime.foldl_dispatchCommand_tracking runtime.commands
      rw [chosen] at kept
      refine .inl ⟨?_, staying.trans kept⟩
      rw [afterTick_flightState, chosen]
      exact elsewhere
  | some choice =>
      have left := runtime.leave_tracking choice elsewhere
      rw [chosen] at kept
      by_cases tracking : choice.target = .custom1
      · obtain ⟨target, signal, command⟩ := choice
        cases tracking
        refine .inr ⟨⟨leave _ runtime, { frozenFrame := Setpoint.coordinateFrame_default }⟩, left,
          ?_,
          kept⟩
        rw [afterTick_leaf, chosen]
        rfl
      · refine .inl ⟨?_, (left.trans (runtime.transition_tracking choice tracking)).trans kept⟩
        rw [afterTick_flightState, chosen]
        exact tracking

variable (turn) in
theorem turn_other (elsewhere : runtime.flightState ≠ .custom1) :
    OtherTurn (runtime.prepare turn).controller (runtime.turn turn).1 := by
  have prepared : (runtime.prepare turn).flightState ≠ .custom1 := by
    rw [prepare_flightState]
    exact elsewhere
  obtain ⟨again, completed⟩ := (runtime.prepare turn).update_ok turn.now prepared
  have after : (runtime.turn turn).1 = afterTick _ ((runtime.prepare turn).ticked turn.now) :=
    afterTick_of_update completed
  have ticks := ticked_tracking turn.now prepared
  have ended := afterTick_other
    ((runtime.prepare turn).afterHealth turn.now).controller.signals.length
    (((runtime.prepare turn).ticked_flightState turn.now).trans_ne prepared)
  rw [← after] at ended
  constructor
  · rcases ended with ⟨-, kept⟩ | ⟨scope, before, -, kept⟩
    · exact (ticks.trans kept).attitudeRateTarget
    · rw [kept.attitudeRateTarget, Custom1State.onEnter_target, before.attitudeRateTarget,
        ticks.attitudeRateTarget]
  · intro effect member
    rw [after] at member
    obtain ⟨new, appended, others⟩ := ((runtime.prepare turn).ticked turn.now).afterTick_effects
      ((runtime.prepare turn).afterHealth turn.now).controller.signals.length
    rw [appended] at member
    rcases List.mem_append.mp member with old | fresh
    · exact FlightState.tickEffects_silent prepared
        ((runtime.prepare turn).tickEffects_of_mem_ticked turn.now old)
    · exact others effect fresh
  · rcases ended with ⟨elsewhere, kept⟩ | ⟨scope, before, entered, kept⟩
    · exact .inl ⟨elsewhere, ticks.trans kept⟩
    · exact .inr ⟨scope, ticks.trans before, entered, kept⟩

end Turn

end FlightRuntime

end MultirotorController
