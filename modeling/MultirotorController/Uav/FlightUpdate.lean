import MultirotorController.Uav.FlightTurn
import MultirotorController.Uav.StateMachine.Custom1Actions

/-!
# What an update does

One lemma for each phase of an update, in the order of the phases: what it may
emit and post, and what it leaves alone. The results about runs use these and
never unfold a leaf again.
-/

namespace MultirotorController

open DroneController

/-- What a tick of the leaf may emit. -/
def FlightState.tickEffects : FlightState → FlightEffect → Prop
  | .selfCheck | .ready => fun _ => False
  | .takeoffInit | .takeoffOffboardRequest => fun effect => effect.isSetpoint ∨ effect.isModeRequest
  | .takeoffArmRequest => fun effect => effect.isSetpoint ∨ effect.isArm
  | .takeoffAscending | .hover => (·.isSetpoint)
  | .custom1 => Custom1State.trackingEffect
  | .landing => fun effect => effect.isSetpoint ∨ effect.isDisarm

/-- What a tick of the leaf may post. -/
def FlightState.tickSignals : FlightState → FlightSignal → Prop
  | .selfCheck | .ready | .hover => fun _ => False
  | .takeoffInit => (· = .altctlReady)
  | .takeoffOffboardRequest => (· = .offboardReady)
  | .takeoffArmRequest => (· = .armReady)
  | .takeoffAscending => fun signal => signal = .takeoffTimeout ∨ signal = .altitudeReached
  | .custom1 => (· = .referenceFinished)
  | .landing => (· = .touchdown)

/-- What entering the leaf may emit. -/
def FlightState.enterEffects (controller : DroneController) : FlightState → FlightEffect → Prop
  | .selfCheck => fun _ => False
  | .ready => fun effect => effect.isDisarm ∧ controller.isAirborne = false
  | .takeoffInit => fun effect => effect.isSetpoint ∨ effect.isDisarm
  | .custom1 => (·.isReferenceActivation)
  | _ => (·.isSetpoint)

theorem FlightState.enterEffects_congr {before after : DroneController}
    (config : after.config = before.config) (sensorData : after.sensorData = before.sensorData)
    {state : FlightState} {effect : FlightEffect} (entered : state.enterEffects after effect) :
    state.enterEffects before effect := by
  have airborne : after.isAirborne = before.isAirborne := by
    simp only [isAirborne, backend, config, sensorData]
  cases state
  case ready => exact ⟨entered.1, airborne.symm.trans entered.2⟩
  all_goals exact entered

/-- The leaves in which the vehicle is taking off or flying; Landing is not one. -/
def FlightState.isFlying : FlightState → Bool
  | .selfCheck | .ready | .landing => false
  | _ => true

/-- The leaves that react to a safety signal. -/
def FlightState.isWatched (state : FlightState) : Bool := state = .ready ∨ state.isFlying

theorem FlightState.isWatched_of_isFlying {state : FlightState} (flying : state.isFlying) :
    state.isWatched := by
  simp [isWatched, flying]

namespace FlightLeaf

variable [Xgc2Math] [Libm] (controller : DroneController) (leaf : FlightLeaf)

/-- Every leaf but Custom1 takes plain steps. -/
theorem onTick_plain (notCustom1 : leaf.flightState ≠ .custom1) :
    PlainStep leaf.flightState.tickEffects leaf.flightState.tickSignals controller
      (leaf.onTick controller).1.controller := by
  cases leaf with
  | selfCheck leaf =>
      simp only [onTick, Scope.map_controller, SelfCheckState.onTick_controller]
      exact .refl _
  | ready leaf => exact .refl _
  | takeoffInit leaf => exact TakeoffInitState.onTick_plain ⟨controller, leaf⟩
  | takeoffOffboardRequest leaf =>
      exact TakeoffOffboardRequestState.onTick_plain ⟨controller, leaf⟩
  | takeoffArmRequest leaf => exact TakeoffArmRequestState.onTick_plain ⟨controller, leaf⟩
  | takeoffAscending leaf => exact TakeoffAscendingState.onTick_plain ⟨controller, leaf⟩
  | hover leaf => exact HoverState.onTick_plain ⟨controller, leaf⟩
  | custom1 leaf => exact (notCustom1 rfl).elim
  | landing leaf =>
      exact (LandingState.onTick_plain ⟨controller, leaf⟩).mono
        (fun _ => Or.imp_right And.left) fun _ => id

/-- The tick of Custom1 ends in a scope that satisfies what is specified of it, whether it
returns or throws. -/
theorem onTick_custom1 (leaf : Custom1State) {ends : Scope Custom1State → Prop}
    (specified : Procedure.wp Custom1State.onTick (fun _ => ends) (fun _ => ends)
      ⟨controller, leaf⟩) :
    ∃ scope, ends scope ∧ ((FlightLeaf.custom1 leaf).onTick controller).1 = scope.map .custom1 := by
  unfold Procedure.wp at specified
  dsimp only [onTick]
  cases run : Custom1State.onTick.run ⟨controller, leaf⟩ with
  | ok _ scope =>
      rw [run] at specified
      exact ⟨scope, specified, rfl⟩
  | error _ scope =>
      rw [run] at specified
      exact ⟨scope, specified, rfl⟩

theorem onTick_emits :
    Emits leaf.flightState.tickEffects leaf.flightState.tickSignals controller
      (leaf.onTick controller).1.controller := by
  by_cases custom1 : leaf.flightState = .custom1
  · cases leaf with
    | custom1 leaf =>
        obtain ⟨scope, acts, ticked⟩ :=
          onTick_custom1 controller leaf (Custom1State.acting_onTick ⟨controller, leaf⟩)
        rw [ticked]
        exact Custom1State.Acts.emits acts
    | _ => cases custom1
  · exact (leaf.onTick_plain controller custom1).toEmits

theorem onTick_flightState : (leaf.onTick controller).1.leaf.flightState = leaf.flightState := by
  cases leaf with
  | custom1 leaf =>
      dsimp only [onTick]
      split <;> rfl
  | _ => rfl

/-- Only Custom1 throws. -/
theorem onTick_ok (notCustom1 : leaf.flightState ≠ .custom1) :
    (leaf.onTick controller).2 = .ok () := by
  cases leaf with
  | custom1 leaf => exact (notCustom1 rfl).elim
  | _ => rfl

theorem onTick_custom1_ok {leaf : Custom1State} {final : Scope Custom1State}
    (ran : Custom1State.onTick.run ⟨controller, leaf⟩ = .ok () final) :
    ((custom1 leaf).onTick controller).2 = .ok () := by
  dsimp only [onTick]
  rw [ran]

omit [Libm] in
theorem onEnter_plain (notCustom1 : leaf.flightState ≠ .custom1) :
    PlainStep (leaf.flightState.enterEffects controller) (fun _ => False) controller
      (leaf.onEnter controller).controller := by
  cases leaf with
  | selfCheck leaf => exact .refl _
  | ready leaf => exact ReadyState.onEnter_plain ⟨controller, leaf⟩
  | takeoffInit leaf => exact TakeoffInitState.onEnter_plain ⟨controller, leaf⟩
  | takeoffOffboardRequest leaf =>
      exact TakeoffOffboardRequestState.onEnter_plain ⟨controller, leaf⟩
  | takeoffArmRequest leaf => exact TakeoffArmRequestState.onEnter_plain ⟨controller, leaf⟩
  | takeoffAscending leaf => exact TakeoffAscendingState.onEnter_plain ⟨controller, leaf⟩
  | hover leaf => exact HoverState.onEnter_plain ⟨controller, leaf⟩
  | custom1 leaf => exact (notCustom1 rfl).elim
  | landing leaf => exact LandingState.onEnter_plain ⟨controller, leaf⟩

theorem onEnter_emits :
    Emits (leaf.flightState.enterEffects controller) (fun _ => False) controller
      (leaf.onEnter controller).controller := by
  by_cases custom1 : leaf.flightState = .custom1
  · cases leaf with
    | custom1 leaf => exact Custom1State.onEnter_emits ⟨controller, leaf⟩
    | _ => cases custom1
  · exact (leaf.onEnter_plain controller custom1).toEmits

/-- Entering a leaf writes no setpoint in a new frame; Custom1 writes none at all. -/
theorem onEnter_keepsFrame : KeepsFrame controller (leaf.onEnter controller).controller := by
  by_cases custom1 : leaf.flightState = .custom1
  · cases leaf with
    | custom1 leaf =>
        exact .inl (congrArg Setpoint.coordinateFrame
          (Custom1State.onEnter_setpoint ⟨controller, leaf⟩))
    | _ => cases custom1
  · exact (leaf.onEnter_plain controller custom1).coordinateFrame

omit [Libm] in
theorem onEnter_flightState : (leaf.onEnter controller).leaf.flightState = leaf.flightState := by
  cases leaf <;> rfl

omit [Libm] in
theorem onExit_emits :
    Emits (fun _ => False) (fun _ => False) controller (leaf.onExit controller).controller := by
  cases leaf <;> exact .of_silent

omit [Libm] in
theorem onCommand_emits (command : FlightCommand) :
    Emits (fun _ => False) (fun _ => False) controller
      (leaf.onCommand controller command).controller := by
  cases leaf with
  | hover leaf => exact (HoverState.onEvent_plain ⟨controller, leaf⟩ command).toEmits
  | takeoffAscending leaf =>
      exact (TakeoffAscendingState.onEvent_plain ⟨controller, leaf⟩ command).toEmits
  | _ => exact .refl _

omit [Libm] in
theorem onCommand_keepsFrame (command : FlightCommand) :
    KeepsFrame controller (leaf.onCommand controller command).controller := by
  cases leaf with
  | hover leaf => exact (HoverState.onEvent_plain ⟨controller, leaf⟩ command).coordinateFrame
  | takeoffAscending leaf =>
      exact (TakeoffAscendingState.onEvent_plain ⟨controller, leaf⟩ command).coordinateFrame
  | _ => exact .inl rfl

omit [Libm] in
theorem onCommand_flightState (command : FlightCommand) :
    (leaf.onCommand controller command).leaf.flightState = leaf.flightState := by
  cases leaf <;> rfl

end FlightLeaf

namespace FlightRuntime

variable [Xgc2Math]

section Choice

variable (runtime : FlightRuntime)

/-- No safety signal is pending. -/
def Calm : Prop := ∀ signal ∈ runtime.controller.signals, signal.isSafety = false

omit [Xgc2Math] in
theorem mem_safetyOrder (signal : FlightSignal) : signal ∈ safetyOrder ↔ signal.isSafety := by
  cases signal <;> decide

theorem normalPreemption_target {choice : Choice}
    (preempted : runtime.normalPreemption = some choice) : choice.target = .landing := by
  unfold normalPreemption at preempted
  split at preempted
  · cases preempted
    rfl
  · split at preempted <;> cases preempted
    rfl

theorem calm_of_normalPreemption (undisturbed : runtime.normalPreemption = none) :
    runtime.Calm := by
  intro signal pending
  by_contra safety
  have ordered := (mem_safetyOrder signal).mpr (by simpa using safety)
  unfold normalPreemption at undisturbed
  split at undisturbed
  · cases undisturbed
  next none_ =>
    have absent := List.find?_eq_none.mp none_ signal ordered
    simp [hasSignal, pending] at absent

theorem not_land_of_normalPreemption (undisturbed : runtime.normalPreemption = none) :
    runtime.hasCommand .land = false := by
  unfold normalPreemption at undisturbed
  split at undisturbed
  · cases undisturbed
  · split at undisturbed
    · cases undisturbed
    next onwards => simpa using onwards

theorem takeoffPreemption_target {choice : Choice}
    (preempted : runtime.takeoffPreemption = some choice) : choice.target = .landing := by
  unfold takeoffPreemption at preempted
  split at preempted
  next earlier =>
    cases preempted
    exact runtime.normalPreemption_target earlier
  · split at preempted <;> cases preempted
    rfl

theorem calm_of_takeoffPreemption (undisturbed : runtime.takeoffPreemption = none) :
    runtime.Calm ∧ runtime.health.positionDistance.exceeded = false := by
  unfold takeoffPreemption at undisturbed
  split at undisturbed
  · cases undisturbed
  next calm =>
    refine ⟨runtime.calm_of_normalPreemption calm, ?_⟩
    split at undisturbed
    · cases undisturbed
    next near => simpa using near

/-- The transitions, with the conditions under which a leaf selects them. -/
inductive Transition : FlightState → FlightState → Prop
  | selfChecked :
      SensorChecks.areSensorsReady runtime.controller.sensorData runtime.controller.backend →
      Transition .selfCheck .ready
  | landed : .touchdown ∈ runtime.controller.signals → Transition .landing .selfCheck
  | preempted {source : FlightState} :
      source = .ready ∨ source.isFlying → Transition source .landing
  | unready : Transition .ready .selfCheck
  | takenOff : runtime.Calm → runtime.hasCommand .land = false → runtime.hasCommand .takeoff →
      runtime.health.positionDistance.available = true →
      runtime.health.positionDistance.exceeded = false →
      runtime.controller.isAirborne = false → Transition .ready .takeoffInit
  | disarmed {source : FlightState} : runtime.Calm →
      runtime.health.positionDistance.exceeded = false →
      source = .takeoffInit ∨ source = .takeoffOffboardRequest → Transition source .ready
  | advanced {source target : FlightState} : runtime.Calm →
      runtime.health.positionDistance.exceeded = false → source.isFlying → target.isFlying →
      target ≠ .takeoffInit → Transition source target

private theorem chooseReady_transition {choice : Choice}
    (chosen : runtime.chooseReady = some choice) :
    runtime.Transition .ready choice.target := by
  dsimp only [chooseReady] at chosen
  split at chosen
  next earlier =>
    cases chosen
    rw [runtime.normalPreemption_target earlier]
    exact .preempted (.inl rfl)
  next undisturbed =>
    split at chosen
    · cases chosen
      exact .preempted (.inl rfl)
    next grounded =>
      split at chosen
      next requested =>
        cases chosen
        simp only [Bool.and_eq_true, Bool.not_eq_true'] at requested
        exact .takenOff (runtime.calm_of_normalPreemption undisturbed)
          (runtime.not_land_of_normalPreemption undisturbed) requested.1.1 requested.1.2
          requested.2 (by simpa using grounded)
      · split at chosen <;> cases chosen
        exact .unready

private theorem chooseModeRequest_transition {confirmed : FlightSignal} {source next : FlightState}
    {choice : Choice} (requesting : source = .takeoffInit ∨ source = .takeoffOffboardRequest)
    (flying : next.isFlying) (onwards : next ≠ .takeoffInit)
    (chosen : runtime.chooseModeRequest confirmed next = some choice) :
    runtime.Transition source choice.target := by
  have sourceFlying : source.isFlying := by rcases requesting with rfl | rfl <;> rfl
  dsimp only [chooseModeRequest] at chosen
  split at chosen
  next earlier =>
    cases chosen
    rw [runtime.takeoffPreemption_target earlier]
    exact .preempted (.inr sourceFlying)
  next undisturbed =>
    obtain ⟨calm, near⟩ := runtime.calm_of_takeoffPreemption undisturbed
    repeat' split at chosen
    all_goals cases chosen
    · exact .disarmed calm near requesting
    · exact .advanced calm near sourceFlying flying onwards
    · exact .preempted (.inr sourceFlying)

/-- The later leaves of a flight go on to another leaf of the flight, or land. -/
private theorem transition_of_flight {source : FlightState} {choice : Choice}
    {onwards : Option Choice} (sourceFlying : source.isFlying)
    (targets : ∀ choice, onwards = some choice →
      choice.target = .landing ∨ choice.target.isFlying ∧ choice.target ≠ .takeoffInit)
    (chosen : (match runtime.takeoffPreemption with
      | some choice => some choice
      | none => onwards) = some choice) :
    runtime.Transition source choice.target := by
  split at chosen
  next earlier =>
    cases chosen
    rw [runtime.takeoffPreemption_target earlier]
    exact .preempted (.inr sourceFlying)
  next undisturbed =>
    obtain ⟨calm, near⟩ := runtime.calm_of_takeoffPreemption undisturbed
    rcases targets choice chosen with lands | ⟨flying, onwards⟩
    · rw [lands]
      exact .preempted (.inr sourceFlying)
    · exact .advanced calm near sourceFlying flying onwards

theorem choose_transition {choice : Choice} (chosen : runtime.choose = some choice) :
    runtime.Transition runtime.flightState choice.target := by
  unfold choose at chosen
  cases source : runtime.flightState <;> simp only [source] at chosen
  case selfCheck =>
    unfold chooseSelfCheck at chosen
    split at chosen <;> cases chosen
    next ready => exact .selfChecked ready
  case ready => exact runtime.chooseReady_transition chosen
  case takeoffInit =>
    exact runtime.chooseModeRequest_transition (.inl rfl) rfl (by decide) chosen
  case takeoffOffboardRequest =>
    exact runtime.chooseModeRequest_transition (.inr rfl) rfl (by decide) chosen
  case landing =>
    unfold chooseLanding at chosen
    split at chosen <;> cases chosen
    next touchdown => exact .landed (by simpa [hasSignal] using touchdown)
  all_goals
    refine runtime.transition_of_flight rfl ?_ chosen
    intro choice chosen
    repeat' split at chosen
    all_goals cases chosen
    all_goals first | exact .inl rfl | exact .inr ⟨rfl, nofun⟩

/-- Custom1 hands over to Hover or lands. -/
theorem target_of_custom1 (custom1 : runtime.flightState = .custom1) {choice : Choice}
    (chosen : runtime.choose = some choice) :
    choice.target = .hover ∨ choice.target = .landing := by
  unfold choose at chosen
  simp only [custom1, chooseCustom1] at chosen
  split at chosen
  next earlier =>
    cases chosen
    exact .inr (runtime.takeoffPreemption_target earlier)
  next =>
    repeat' split at chosen
    all_goals cases chosen
    all_goals exact .inl rfl

/-- A leaf of Ready or of the flight that stays has nothing to react to. -/
theorem calm_of_choose_none (staying : runtime.choose = none)
    (watched : runtime.flightState.isWatched) :
    runtime.Calm ∧ (runtime.flightState.isFlying →
      runtime.health.positionDistance.exceeded = false) := by
  unfold choose at staying
  cases source : runtime.flightState <;> simp only [source] at staying watched
  case selfCheck => cases watched
  case landing => cases watched
  case ready =>
    dsimp only [chooseReady] at staying
    split at staying
    · cases staying
    next undisturbed => exact ⟨runtime.calm_of_normalPreemption undisturbed, nofun⟩
  all_goals
    have undisturbed : runtime.takeoffPreemption = none := by
      cases preempted : runtime.takeoffPreemption with
      | none => rfl
      | some choice =>
          simp [chooseTakeoffInit, chooseTakeoffOffboardRequest, chooseModeRequest,
            chooseTakeoffArmRequest, chooseTakeoffAscending, chooseHover, chooseCustom1,
            preempted] at staying
    obtain ⟨calm, near⟩ := runtime.calm_of_takeoffPreemption undisturbed
    exact ⟨calm, fun _ => near⟩

end Choice

section Phases

variable [Libm] (runtime : FlightRuntime)

/-- The runtime after the tick of its leaf. -/
def ticked (now : Time) : FlightRuntime := (runtime.afterHealth now).controlTick.1

/-- The monitor sees the circumstances of the turn, an empty list of effects, and the
signals that are still pending. -/
theorem afterHealth_step (now : Time) :
    HealthMonitorState.MonitorStep (runtime.beginTurn now).controller
      (runtime.afterHealth now).controller :=
  (HealthMonitorState.onTick_step ⟨(runtime.beginTurn now).controller, runtime.health⟩).trans
    (.setDiagnosticEvents _ _)

theorem controlTick_emits :
    Emits runtime.flightState.tickEffects runtime.flightState.tickSignals runtime.controller
      runtime.controlTick.1.controller :=
  runtime.leaf.onTick_emits runtime.controller

theorem controlTick_flightState :
    runtime.controlTick.1.flightState = runtime.flightState :=
  runtime.leaf.onTick_flightState runtime.controller

/-- From the beginning of a turn to the end of the tick. -/
theorem ticked_emits (now : Time) :
    Emits runtime.flightState.tickEffects
      (fun signal => signal.isSafety ∨ runtime.flightState.tickSignals signal)
      (runtime.beginTurn now).controller (runtime.ticked now).controller :=
  ((runtime.afterHealth_step now).toEmits.mono (fun _ none => none.elim) fun _ => .inl).trans
    ((controlTick_emits _).mono (fun _ => id) fun _ => .inr)

theorem ticked_flightState (now : Time) :
    (runtime.ticked now).flightState = runtime.flightState :=
  controlTick_flightState _

theorem controlTick_health : runtime.controlTick.1.health = runtime.health := by
  unfold controlTick
  rfl

theorem ticked_commands (now : Time) :
    (runtime.ticked now).commands = runtime.pendingCommands.take 64 := by
  unfold ticked afterHealth healthTurn controlTick beginTurn
  rfl

theorem ticked_health (now : Time) :
    (runtime.ticked now).health = (HealthMonitorState.onTick
      ⟨(runtime.beginTurn now).controller, runtime.health⟩).leaf :=
  controlTick_health (runtime.afterHealth now)

omit [Libm] in
/-- The commands that cause no transition change no circumstance. -/
theorem foldl_dispatchCommand_emits (commands : List FlightCommand) :
    Emits (fun _ => False) (fun _ => False) runtime.controller
      (commands.foldl dispatchCommand runtime).controller := by
  induction commands generalizing runtime with
  | nil => exact .refl _
  | cons command rest ih =>
      exact (runtime.leaf.onCommand_emits runtime.controller command).trans
        (ih (runtime.dispatchCommand command))

omit [Libm] in
theorem foldl_dispatchCommand_flightState (commands : List FlightCommand) :
    (commands.foldl dispatchCommand runtime).flightState = runtime.flightState := by
  induction commands generalizing runtime with
  | nil => rfl
  | cons command rest ih =>
      exact (ih (runtime.dispatchCommand command)).trans
        (runtime.leaf.onCommand_flightState runtime.controller command)

omit [Libm] in
theorem foldl_dispatchCommand_health (commands : List FlightCommand) :
    (commands.foldl dispatchCommand runtime).health = runtime.health := by
  induction commands generalizing runtime with
  | nil => rfl
  | cons command rest ih => exact ih (runtime.dispatchCommand command)

omit [Libm] in
theorem leave_emits (choice : Choice) :
    Emits (fun _ => False) (fun _ => False) runtime.controller (leave choice runtime) := by
  let marked : DroneController :=
    if choice.selectedSignal.isNone && !choice.selectedCommand then
      { runtime.controller with
        diagnosticEvents := runtime.controller.diagnosticEvents ++ [0] }
    else runtime.controller
  have marks : Emits (fun _ => False) (fun _ => False) runtime.controller marked := by
    dsimp only [marked]
    split <;> exact .of_silent
  exact (marks.trans (runtime.leaf.onExit_emits marked)).trans .of_silent

theorem transition_emits (choice : Choice) :
    Emits (choice.target.enterEffects runtime.controller) (fun _ => False) runtime.controller
      (runtime.transition choice).controller := by
  have leaves := runtime.leave_emits choice
  have enters := (FlightLeaf.fresh choice.target).onEnter_emits (leave choice runtime)
  rw [FlightLeaf.flightState_fresh] at enters
  refine (leaves.mono (fun _ none => none.elim) fun _ => id).trans (enters.mono ?_ fun _ => id)
  intro effect emitted
  exact FlightState.enterEffects_congr leaves.config leaves.sensorData emitted

omit [Libm] in
theorem transition_flightState (choice : Choice) :
    (runtime.transition choice).flightState = choice.target :=
  ((FlightLeaf.fresh choice.target).onEnter_flightState _).trans
    (FlightLeaf.flightState_fresh choice.target)

omit [Libm] in
theorem transition_health (choice : Choice) :
    (runtime.transition choice).health = runtime.health := rfl

/-- What the choice of the turn may emit. -/
def choiceEffects (effect : FlightEffect) : Prop :=
  ∃ choice, runtime.choose = some choice ∧ choice.target.enterEffects runtime.controller effect

theorem applyChoice_emits :
    Emits runtime.choiceEffects (fun _ => False) runtime.controller
      (runtime.applyChoice runtime.choose).controller := by
  unfold applyChoice
  split
  next choice chosen =>
    exact (runtime.transition_emits choice).mono (fun _ entered => ⟨choice, chosen, entered⟩)
      fun _ => id
  next =>
    exact (runtime.foldl_dispatchCommand_emits runtime.commands).mono (fun _ none => none.elim)
      fun _ => id

omit [Libm] in
theorem applyChoice_flightState :
    (runtime.applyChoice runtime.choose).flightState =
      (runtime.choose.map (·.target)).getD runtime.flightState := by
  unfold applyChoice
  split
  next choice chosen => simp [chosen, transition_flightState]
  next staying => simp [staying, foldl_dispatchCommand_flightState]

omit [Libm] in
theorem applyChoice_health :
    (runtime.applyChoice runtime.choose).health = runtime.health := by
  unfold applyChoice
  split
  · exact runtime.transition_health _
  · exact foldl_dispatchCommand_health runtime _

omit [Libm] in
theorem debugTurn_step :
    PlainStep (·.isTelemetry) (fun _ => False) runtime.controller runtime.debugTurn.controller :=
  DebugMonitorState.onTick_plain ⟨runtime.controller, runtime.debug⟩

/-- The end of a turn adds telemetry and the effects of the choice, and drops the
signals. -/
theorem afterTick_emits (start : Nat) :
    ∃ last : DroneController, (afterTick start runtime).controller = { last with signals := [] } ∧
      Emits (fun effect => effect.isTelemetry ∨ runtime.choiceEffects effect) (fun _ => False)
        runtime.controller last :=
  ⟨_, rfl, (runtime.applyChoice_emits.mono (fun _ => .inr) fun _ => id).trans
    ((debugTurn_step (deferSignals start (runtime.applyChoice runtime.choose))).toEmits.mono
      (fun _ => .inl) fun _ => id)⟩

omit [Libm] in
theorem afterTick_health (start : Nat) : (afterTick start runtime).health = runtime.health := by
  unfold afterTick clearSignals debugTurn deferSignals
  exact runtime.applyChoice_health

omit [Libm] in
theorem afterTick_flightState (start : Nat) :
    (afterTick start runtime).flightState =
      (runtime.choose.map (·.target)).getD runtime.flightState := by
  unfold afterTick clearSignals debugTurn deferSignals
  exact runtime.applyChoice_flightState

end Phases

section Update

variable [Libm] (runtime : FlightRuntime) (now : Time)

/-- An update ends with its tick when the tick throws, and else runs to its end. -/
theorem update_cases :
    (∃ error, runtime.flightState = .custom1 ∧
      runtime.update now = (runtime.ticked now, .error error)) ∨
    ∃ again, runtime.update now =
      (afterTick (runtime.afterHealth now).controller.signals.length (runtime.ticked now),
        .ok again) := by
  unfold update ticked
  cases outcome : (runtime.afterHealth now).controlTick.2 with
  | error error =>
      refine .inl ⟨error, ?_, ?_⟩
      · by_contra notCustom1
        have ok := (runtime.afterHealth now).leaf.onTick_ok (runtime.afterHealth now).controller
          notCustom1
        exact nomatch ok.symm.trans outcome
      · simp only [outcome]
  | ok _ => exact .inr ⟨_, by simp only [outcome]; rfl⟩

/-- The configuration, the snapshot and the clock of the whole turn. -/
theorem update_circumstances :
    (runtime.update now).1.controller.config = runtime.controller.config ∧
      (runtime.update now).1.controller.sensorData = runtime.controller.sensorData ∧
      (runtime.update now).1.controller.currentTime = now.toSec := by
  have tick := runtime.ticked_emits now
  rcases runtime.update_cases now with ⟨error, -, thrown⟩ | ⟨again, completed⟩
  · rw [thrown]
    exact ⟨tick.config, tick.sensorData, tick.currentTime⟩
  · obtain ⟨last, same, emits⟩ := (runtime.ticked now).afterTick_emits
      (runtime.afterHealth now).controller.signals.length
    rw [completed, same]
    exact ⟨emits.config.trans tick.config, emits.sensorData.trans tick.sensorData,
      emits.currentTime.trans tick.currentTime⟩

theorem update_health :
    (runtime.update now).1.health = (HealthMonitorState.onTick
      ⟨(runtime.beginTurn now).controller, runtime.health⟩).leaf := by
  rcases runtime.update_cases now with ⟨error, -, thrown⟩ | ⟨again, completed⟩
  · rw [thrown]
    exact runtime.ticked_health now
  · rw [completed]
    exact (afterTick_health _ _).trans (runtime.ticked_health now)

/-- Every effect of an update comes from the tick, from the choice or from the debug
monitor. -/
theorem effect_of_mem_update {effect : FlightEffect}
    (emitted : effect ∈ (runtime.update now).1.controller.flightEffects) :
    effect ∈ (runtime.ticked now).controller.flightEffects ∨ effect.isTelemetry ∨
      (runtime.ticked now).choiceEffects effect := by
  rcases runtime.update_cases now with ⟨error, -, thrown⟩ | ⟨again, completed⟩
  · rw [thrown] at emitted
    exact .inl emitted
  · obtain ⟨last, same, emits⟩ := (runtime.ticked now).afterTick_emits
      (runtime.afterHealth now).controller.signals.length
    rw [completed, same] at emitted
    exact emits.effect_of_mem emitted

/-- The tick starts from an empty list of effects. -/
theorem tickEffects_of_mem_ticked {effect : FlightEffect}
    (emitted : effect ∈ (runtime.ticked now).controller.flightEffects) :
    runtime.flightState.tickEffects effect := by
  rcases (runtime.ticked_emits now).effect_of_mem emitted with old | fresh
  · exact (List.not_mem_nil old).elim
  · exact fresh

/-- Only an update of Custom1 can end in an error. -/
theorem update_ok (notCustom1 : runtime.flightState ≠ .custom1) :
    ∃ again, (runtime.update now).2 = .ok again := by
  rcases runtime.update_cases now with ⟨error, custom1, -⟩ | ⟨again, ended⟩
  · exact (notCustom1 custom1).elim
  · exact ⟨again, congrArg Prod.snd ended⟩

variable {runtime now} {again : Bool}

/-- A completed update ran to its end. -/
theorem afterTick_of_update (completed : (runtime.update now).2 = .ok again) :
    (runtime.update now).1 =
      afterTick (runtime.afterHealth now).controller.signals.length (runtime.ticked now) := by
  rcases runtime.update_cases now with ⟨error, -, thrown⟩ | ⟨again, ended⟩
  · exact nomatch (congrArg Prod.snd thrown).symm.trans completed
  · exact congrArg Prod.fst ended

/-- An update that throws ends where its tick ended. -/
theorem ticked_of_update {error : RuntimeError} (thrown : (runtime.update now).2 = .error error) :
    (runtime.update now).1 = runtime.ticked now := by
  rcases runtime.update_cases now with ⟨error, -, ends⟩ | ⟨again, ended⟩
  · exact congrArg Prod.fst ends
  · cases (congrArg Prod.snd ended).symm.trans thrown

/-- A completed update ends in the chosen leaf, or in the one it began in. -/
theorem flightState_of_update (completed : (runtime.update now).2 = .ok again) :
    (runtime.update now).1.flightState =
      ((runtime.ticked now).choose.map (·.target)).getD runtime.flightState := by
  rw [afterTick_of_update completed, afterTick_flightState, ticked_flightState]

/-- A completed update stays in its leaf, or makes one of the transitions. -/
theorem transition_of_update (completed : (runtime.update now).2 = .ok again) :
    ((runtime.ticked now).choose = none ∧
      (runtime.update now).1.flightState = runtime.flightState) ∨
      (runtime.ticked now).Transition runtime.flightState (runtime.update now).1.flightState := by
  have ended := flightState_of_update completed
  cases chosen : (runtime.ticked now).choose with
  | none =>
      rw [chosen] at ended
      exact .inl ⟨rfl, ended⟩
  | some choice =>
      rw [chosen] at ended
      have step := (runtime.ticked now).choose_transition chosen
      rw [ticked_flightState] at step
      exact .inr (ended.symm ▸ step)

theorem signals_of_update (completed : (runtime.update now).2 = .ok again) :
    (runtime.update now).1.controller.signals = [] := by
  rw [afterTick_of_update completed]
  rfl

end Update

section Frame

variable [Libm] (runtime : FlightRuntime) (now : Time)

/-- The tick of Custom1, as the whole runtime sees it. -/
theorem ticked_custom1 {leaf : Custom1State} (tracking : runtime.leaf = .custom1 leaf)
    {ends : Scope Custom1State → Prop}
    (specified : Procedure.wp Custom1State.onTick (fun _ => ends) (fun _ => ends)
      ⟨(runtime.afterHealth now).controller, leaf⟩) :
    ∃ scope, ends scope ∧ (runtime.ticked now).controller = scope.controller ∧
      (runtime.ticked now).leaf = .custom1 scope.leaf := by
  have same : (runtime.afterHealth now).leaf = .custom1 leaf := tracking
  obtain ⟨scope, ended, run⟩ :=
    FlightLeaf.onTick_custom1 (runtime.afterHealth now).controller leaf specified
  refine ⟨scope, ended, ?_, ?_⟩
  all_goals
    unfold ticked controlTick
    rw [same]
    dsimp only
    rw [run]
    rfl

theorem afterHealth_keepsFrame :
    KeepsFrame runtime.controller (runtime.afterHealth now).controller :=
  (runtime.afterHealth_step now).coordinateFrame

theorem ticked_keepsFrame (notPassThrough : runtime.flightState = .custom1 →
    runtime.controller.backend ≠ .px4Local) :
    KeepsFrame runtime.controller (runtime.ticked now).controller := by
  have health := runtime.afterHealth_keepsFrame now
  by_cases custom1 : runtime.flightState = .custom1
  · obtain ⟨leaf, tracking⟩ : ∃ leaf, runtime.leaf = .custom1 leaf := by
      cases leaf : runtime.leaf <;> simp_all [flightState, FlightLeaf.flightState]
    obtain ⟨scope, acts, left, -⟩ :=
      runtime.ticked_custom1 now tracking (Custom1State.acting_onTick _)
    rw [left]
    refine health.trans (Custom1State.Acts.keepsFrame acts ?_)
    have backend := (runtime.afterHealth_step now).backend
    exact backend.symm ▸ notPassThrough custom1
  · exact health.trans
      ((runtime.afterHealth now).leaf.onTick_plain _ custom1).coordinateFrame

omit [Libm] in
theorem leave_setpoint (choice : Choice) :
    (leave choice runtime).setpoint = runtime.controller.setpoint := by
  unfold leave
  cases runtime.leaf <;> dsimp only [FlightLeaf.onExit] <;> split <;> rfl

omit [Libm] in
theorem foldl_dispatchCommand_keepsFrame (commands : List FlightCommand) :
    KeepsFrame runtime.controller (commands.foldl dispatchCommand runtime).controller := by
  induction commands generalizing runtime with
  | nil => exact .inl rfl
  | cons command rest ih =>
      exact (runtime.leaf.onCommand_keepsFrame runtime.controller command).trans
        (ih (runtime.dispatchCommand command))

theorem afterTick_keepsFrame (start : Nat) :
    KeepsFrame runtime.controller (afterTick start runtime).controller := by
  have chosen : KeepsFrame runtime.controller
      (runtime.applyChoice runtime.choose).controller := by
    unfold applyChoice
    split
    next choice _ =>
      have entered := (FlightLeaf.fresh choice.target).onEnter_keepsFrame (leave choice runtime)
      rw [KeepsFrame, leave_setpoint] at entered
      exact entered
    next => exact runtime.foldl_dispatchCommand_keepsFrame runtime.commands
  exact chosen.trans (debugTurn_step (deferSignals start
    (runtime.applyChoice runtime.choose))).coordinateFrame

omit [Libm] in
/-- A landing begins in the world frame, whatever it finds. -/
theorem afterTick_frame_of_landing (start : Nat) {choice : Choice}
    (chosen : runtime.choose = some choice) (lands : choice.target = .landing) :
    (afterTick start runtime).controller.setpoint.coordinateFrame = 1 := by
  have entered : (runtime.applyChoice runtime.choose).controller.setpoint.coordinateFrame = 1 := by
    rw [chosen]
    obtain ⟨target, signal, command⟩ := choice
    cases lands
    rfl
  exact (debugTurn_step (deferSignals start
    (runtime.applyChoice runtime.choose))).coordinateFrame.world entered

end Frame

section Pending

variable [Libm] (runtime : FlightRuntime) (now : Time)

/-- The signals that the next update begins with. -/
def pending : List FlightSignal := runtime.controller.signals ++ runtime.deferredSignals

theorem afterTick_deferredSignals (start : Nat) :
    (afterTick start runtime).deferredSignals =
      (((runtime.controller.signals.drop start).zipIdx start).filter fun entry =>
        (runtime.applyChoice runtime.choose).selectedSignal ≠ some entry.2).map (·.1) := by
  obtain ⟨new, appended, none_⟩ := runtime.applyChoice_emits.signals
  rw [List.eq_nil_iff_forall_not_mem.mpr none_, List.append_nil] at appended
  unfold afterTick clearSignals debugTurn deferSignals
  dsimp only
  rw [appended]

theorem ticked_deferredSignals : (runtime.ticked now).deferredSignals = [] := by
  unfold ticked afterHealth healthTurn controlTick
  rfl

/-- A signal survives an update only if it was there after the tick. -/
theorem mem_ticked_of_mem_pending {signal : FlightSignal}
    (waits : signal ∈ (runtime.update now).1.pending) :
    signal ∈ (runtime.ticked now).controller.signals := by
  rcases runtime.update_cases now with ⟨error, -, thrown⟩ | ⟨again, completed⟩
  · rw [thrown, pending, ticked_deferredSignals, List.append_nil] at waits
    exact waits
  · rw [completed] at waits
    change signal ∈ [] ++ (afterTick _ _).deferredSignals at waits
    rw [List.nil_append, afterTick_deferredSignals] at waits
    obtain ⟨entry, kept, rfl⟩ := List.mem_map.mp waits
    have dropped := List.fst_mem_of_mem_zipIdx (List.mem_filter.mp kept).1
    exact List.mem_of_mem_drop dropped

end Pending

section Leaves

variable [Libm] {runtime : FlightRuntime} {now : Time} {final : FlightRuntime}

omit [Libm] in
/-- Landing does not react to commands. -/
private theorem foldl_dispatchCommand_landing {leaf : LandingState}
    (landing : runtime.leaf = .landing leaf) (commands : List FlightCommand) :
    (commands.foldl dispatchCommand runtime).leaf = .landing leaf := by
  induction commands generalizing runtime with
  | nil => exact landing
  | cons command rest ih =>
      refine ih ?_
      simp [dispatchCommand, landing, FlightLeaf.onCommand]

omit [Libm] in
/-- Landing stays only while no touchdown is pending. -/
theorem touchdown_of_choose_none (staying : runtime.choose = none)
    (landing : runtime.flightState = .landing) : .touchdown ∉ runtime.controller.signals := by
  unfold choose at staying
  simp only [landing, chooseLanding] at staying
  split at staying
  · cases staying
  next absent => simpa [hasSignal] using absent

omit [Libm] in
theorem landing_of_flightState {leaf : FlightLeaf} (landing : leaf.flightState = .landing) :
    ∃ state, leaf = .landing state := by
  cases leaf <;> first | exact ⟨_, rfl⟩ | exact nomatch landing

theorem ticked_landing (now : Time) {leaf : LandingState} (landing : runtime.leaf = .landing leaf) :
    (runtime.ticked now).leaf =
      .landing (LandingState.onTick ⟨(runtime.afterHealth now).controller, leaf⟩).leaf := by
  have same : (runtime.afterHealth now).leaf = .landing leaf := landing
  unfold ticked controlTick
  rw [same]
  rfl

omit [Libm] in
/-- A landing that was just entered has confirmed nothing. -/
private theorem onEnter_landing (controller : DroneController) {after : LandingState}
    (landing : ((FlightLeaf.fresh .landing).onEnter controller).leaf = .landing after) :
    after.touchdownEventPosted = false ∧ after.confirmedLandedFrames = 0 := by
  cases landing
  exact ⟨rfl, rfl⟩

omit [Libm] in
private theorem transition_landing {choice : Choice} {after : LandingState}
    (landing : (runtime.transition choice).leaf = .landing after) :
    choice.target = .landing ∧ after.touchdownEventPosted = false ∧
      after.confirmedLandedFrames = 0 := by
  have target := runtime.transition_flightState choice
  rw [flightState, landing] at target
  refine ⟨target.symm, onEnter_landing (leave choice runtime) ?_⟩
  change FlightState.landing = choice.target at target
  rw [target]
  exact landing

/-- The tick of a landing, as the whole runtime sees it. -/
theorem ticked_controller_landing {leaf : LandingState} (landing : runtime.leaf = .landing leaf) :
    (runtime.ticked now).controller =
      (LandingState.onTick ⟨(runtime.afterHealth now).controller, leaf⟩).controller := by
  have same : (runtime.afterHealth now).leaf = .landing leaf := landing
  unfold ticked controlTick
  rw [same]
  rfl

/-- An update that ends in Landing has ticked the landing, or has just entered it. -/
theorem landing_of_update {after : LandingState} (ended : (runtime.update now).1 = final)
    (landing : final.leaf = .landing after) :
    (∃ leaf, runtime.leaf = .landing leaf ∧
      after = (LandingState.onTick ⟨(runtime.afterHealth now).controller, leaf⟩).leaf ∧
      .touchdown ∉ (runtime.ticked now).controller.signals) ∨
    runtime.flightState ≠ .landing ∧ after.touchdownEventPosted = false ∧
      after.confirmedLandedFrames = 0 := by
  rcases runtime.update_cases now with ⟨error, custom1, thrown⟩ | ⟨again, completed⟩
  · have landed : (runtime.ticked now).flightState = .landing := by
      rw [thrown] at ended
      change runtime.ticked now = final at ended
      rw [ended, flightState, landing]
      rfl
    rw [ticked_flightState, custom1] at landed
    cases landed
  · rw [completed] at ended
    have leaf : ((runtime.ticked now).applyChoice (runtime.ticked now).choose).leaf =
        .landing after := by
      rw [← landing, ← ended]
      rfl
    unfold applyChoice at leaf
    split at leaf
    next choice chosen =>
      obtain ⟨target, posted, frames⟩ := transition_landing leaf
      refine .inr ⟨?_, posted, frames⟩
      intro source
      have step := (runtime.ticked now).choose_transition chosen
      rw [ticked_flightState, source, target] at step
      cases step with
      | preempted watched => simp [FlightState.isFlying] at watched
      | advanced _ _ flying => cases flying
    next staying =>
      have state := foldl_dispatchCommand_flightState (runtime.ticked now)
        (runtime.ticked now).commands
      rw [flightState, leaf, ticked_flightState] at state
      obtain ⟨before, same⟩ := landing_of_flightState state.symm
      have kept := foldl_dispatchCommand_landing (ticked_landing now same)
        (runtime.ticked now).commands
      refine .inl ⟨before, same, FlightLeaf.landing.inj (leaf.symm.trans kept), ?_⟩
      refine touchdown_of_choose_none staying ?_
      rw [ticked_flightState, flightState, same]
      rfl

end Leaves

section Prepare

variable [Libm] (runtime : FlightRuntime) (turn : Turn)

/-- What every input leaves alone; the signals only grow, by safety signals. -/
structure Received (before after : FlightRuntime) : Prop where
  leaf : after.leaf = before.leaf
  health : after.health = before.health
  deferredSignals : after.deferredSignals = before.deferredSignals
  setpoint : after.controller.setpoint = before.controller.setpoint
  attitudeRateTarget : after.controller.attitudeRateTarget = before.controller.attitudeRateTarget
  signals : ∃ new, after.controller.signals = before.controller.signals ++ new ∧
    ∀ signal ∈ new, signal.isSafety = true

theorem receive_received (input : FlightInput) : Received runtime (runtime.receive input) := by
  cases input with
  | command command =>
      dsimp only [receive, postCommand]
      split <;> exact ⟨rfl, rfl, rfl, rfl, rfl, [], (List.append_nil _).symm, by simp⟩
  | freshImu =>
      dsimp only [receive, onFreshImu, HealthMonitorState.onFreshImu]
      split
      · exact ⟨rfl, rfl, rfl, rfl, rfl, [], (List.append_nil _).symm, by simp⟩
      · refine ⟨rfl, rfl, rfl, rfl, rfl, _, List.append_assoc _ _ _, ?_⟩
        intro signal posted
        rcases List.mem_append.mp posted with xy | z
        · split at xy <;> simp_all [FlightSignal.isSafety]
        · split at z <;> simp_all [FlightSignal.isSafety]
  | plannerSetpoint ingress =>
      have frame := ingestPlannerSetpoint_frame runtime.controller ingress
      dsimp only [receive]
      rw [frame]
      exact ⟨rfl, rfl, rfl, rfl, rfl, [], (List.append_nil _).symm, by simp⟩
  | _ => exact ⟨rfl, rfl, rfl, rfl, rfl, [], (List.append_nil _).symm, by simp⟩

omit [Libm] in
theorem Received.trans {first second third : FlightRuntime} (earlier : Received first second)
    (later : Received second third) : Received first third where
  leaf := later.leaf.trans earlier.leaf
  health := later.health.trans earlier.health
  deferredSignals := later.deferredSignals.trans earlier.deferredSignals
  setpoint := later.setpoint.trans earlier.setpoint
  attitudeRateTarget := later.attitudeRateTarget.trans earlier.attitudeRateTarget
  signals := by
    obtain ⟨new, appended, safety⟩ := earlier.signals
    obtain ⟨new', appended', safety'⟩ := later.signals
    refine ⟨new ++ new', by rw [appended', appended, List.append_assoc], ?_⟩
    intro signal posted
    exact (List.mem_append.mp posted).elim (safety signal) (safety' signal)

theorem prepare_received : Received runtime (runtime.prepare turn) := by
  have all (inputs : List FlightInput) : ∀ runtime : FlightRuntime,
      Received runtime (inputs.foldl receive runtime) := by
    induction inputs with
    | nil =>
        intro runtime
        exact ⟨rfl, rfl, rfl, rfl, rfl, [], (List.append_nil _).symm, by simp⟩
    | cons input rest ih =>
        intro runtime
        exact (runtime.receive_received input).trans (ih _)
  obtain ⟨leaf, health, deferred, setpoint, target, signals⟩ := all turn.inputs runtime
  exact ⟨leaf, health, deferred, setpoint, target, signals⟩

@[simp] theorem prepare_sensorData :
    (runtime.prepare turn).controller.sensorData = turn.sensor := rfl

/-- The monitor, the leaf and the history of the run see the same circumstances. -/
theorem turn_circumstances :
    (runtime.turn turn).1.controller.config =
        ((runtime.prepare turn).afterHealth turn.now).controller.config ∧
      (runtime.turn turn).1.controller.sensorData =
        ((runtime.prepare turn).afterHealth turn.now).controller.sensorData := by
  obtain ⟨config, sensorData, -⟩ := (runtime.prepare turn).update_circumstances turn.now
  have health := (runtime.prepare turn).afterHealth_step turn.now
  exact ⟨config.trans health.config.symm, sensorData.trans health.sensorData.symm⟩

end Prepare

section Watch

variable [Libm] (runtime : FlightRuntime) (turn : Turn)

/-- The monitor as a turn runs it. -/
def monitored : Scope HealthMonitorState :=
  HealthMonitorState.onTick
    ⟨((runtime.prepare turn).beginTurn turn.now).controller, (runtime.prepare turn).health⟩

theorem turn_health : (runtime.turn turn).1.health = (runtime.monitored turn).leaf :=
  (runtime.prepare turn).update_health turn.now

/-- The latches after a turn follow from the latches before it and the turn's own
circumstances. -/
theorem turn_safetyState :
    (runtime.turn turn).1.health.safetyState =
      HealthMonitorState.nextSafety (runtime.turn turn).1.controller
        runtime.health.safetyState := by
  obtain ⟨config, sensorData, currentTime⟩ :=
    (runtime.prepare turn).update_circumstances turn.now
  have same : HealthMonitorState.nextSafety (runtime.turn turn).1.controller
        runtime.health.safetyState =
      HealthMonitorState.nextSafety ((runtime.prepare turn).beginTurn turn.now).controller
        runtime.health.safetyState := by
    apply HealthMonitorState.nextSafety_congr
    · exact config
    · exact sensorData
    · exact currentTime
  rw [same, turn_health, monitored, HealthMonitorState.onTick_safetyState,
    (runtime.prepare_received turn).health]

/-- Whatever was pending before a turn, or was reported in it, is pending after the tick. -/
theorem mem_ticked_of_monitored {signal : FlightSignal}
    (reported : signal ∈ (runtime.monitored turn).controller.signals) :
    signal ∈ ((runtime.prepare turn).ticked turn.now).controller.signals := by
  have healthy : signal ∈ ((runtime.prepare turn).afterHealth turn.now).controller.signals :=
    reported
  exact (controlTick_emits ((runtime.prepare turn).afterHealth turn.now)).mem_signals healthy

variable {runtime turn}

/-- After the tick of a calm turn nothing was reported. -/
theorem not_safety_of_calm (calm : ((runtime.prepare turn).ticked turn.now).Calm)
    {signal : FlightSignal} (reported : signal ∈ (runtime.monitored turn).controller.signals) :
    signal.isSafety = false :=
  calm signal (runtime.mem_ticked_of_monitored turn reported)

theorem not_safety_pending_of_calm (calm : ((runtime.prepare turn).ticked turn.now).Calm)
    {signal : FlightSignal} (waits : signal ∈ runtime.pending) : signal.isSafety = false := by
  refine not_safety_of_calm calm ?_
  refine (HealthMonitorState.onTick_step _).toEmits.mem_signals ?_
  obtain ⟨new, appended, -⟩ := (runtime.prepare_received turn).signals
  change signal ∈ (runtime.prepare turn).controller.signals ++
    (runtime.prepare turn).deferredSignals
  rw [appended, (runtime.prepare_received turn).deferredSignals]
  rcases List.mem_append.mp waits with old | deferred
  · simp [old]
  · simp [deferred]

/-- A stream that the monitor saw active has not stopped in a calm turn. -/
theorem fcuState_of_calm (calm : ((runtime.prepare turn).ticked turn.now).Calm)
    (was : runtime.health.safetyState.wasStateActive = true) :
    turn.sensor.stateStats.isActive = true := by
  by_contra lost
  have health := (runtime.prepare_received turn).health
  have reported := HealthMonitorState.onTick_reports_fcuState
    ⟨((runtime.prepare turn).beginTurn turn.now).controller, (runtime.prepare turn).health⟩
    (by rw [health]; exact was) (eq_false_of_ne_true lost)
  exact nomatch not_safety_of_calm calm reported

theorem controlState_of_calm (calm : ((runtime.prepare turn).ticked turn.now).Calm)
    (fused : trackingUsesFusedEstimate (runtime.prepare turn).controller.backend)
    (was : HealthMonitorState.controlStateLatched turn.sensor.feedbackSource
      runtime.health.safetyState) :
    SensorChecks.isControlStateActive turn.sensor = true := by
  by_contra lost
  have health := (runtime.prepare_received turn).health
  obtain ⟨signal, reported, safety⟩ := HealthMonitorState.onTick_reports_controlState
    ⟨((runtime.prepare turn).beginTurn turn.now).controller, (runtime.prepare turn).health⟩
    fused (by rw [health]; exact was) (eq_false_of_ne_true lost)
  rw [not_safety_of_calm calm reported] at safety
  cases safety

/-- A pose that was inside the bounds has not left them in a calm turn. -/
theorem geofence_of_calm (calm : ((runtime.prepare turn).ticked turn.now).Calm)
    (was : runtime.health.safetyState.geofenceViolated = false)
    (fresh : (runtime.prepare turn).controller.isWorldPoseNew = true) :
    HealthMonitorState.geofenceViolation (runtime.prepare turn).controller = false := by
  by_contra crossed
  have health := (runtime.prepare_received turn).health
  have reported := HealthMonitorState.onTick_reports_geofence
    ⟨((runtime.prepare turn).beginTurn turn.now).controller, (runtime.prepare turn).health⟩
    (by rw [health]; exact was) fresh (eq_true_of_ne_false crossed)
  exact nomatch not_safety_of_calm calm reported

theorem turn_safetyState_monitored :
    (runtime.turn turn).1.health.safetyState =
      HealthMonitorState.nextSafety ((runtime.prepare turn).beginTurn turn.now).controller
        (runtime.prepare turn).health.safetyState := by
  rw [turn_health, monitored, HealthMonitorState.onTick_safetyState]

/-- The trip level of an unusable estimate has not risen in a calm turn. -/
theorem untripped_of_calm (calm : ((runtime.prepare turn).ticked turn.now).Calm)
    (was : runtime.health.safetyState.stateEstimateUnusable = false) :
    (runtime.turn turn).1.health.safetyState.stateEstimateUnusable = false := by
  by_contra trips
  have health := (runtime.prepare_received turn).health
  rw [turn_safetyState_monitored] at trips
  have reported := HealthMonitorState.onTick_reports_unusable
    ⟨((runtime.prepare turn).beginTurn turn.now).controller, (runtime.prepare turn).health⟩
    (by rw [health]; exact was) (eq_true_of_ne_false trips)
  exact nomatch not_safety_of_calm calm reported

theorem ticked_health_turn :
    ((runtime.prepare turn).ticked turn.now).health = (runtime.turn turn).1.health :=
  ((runtime.prepare turn).ticked_health turn.now).trans
    ((runtime.prepare turn).update_health turn.now).symm

theorem prepare_flightState : (runtime.prepare turn).flightState = runtime.flightState :=
  congrArg FlightLeaf.flightState (runtime.prepare_received turn).leaf

/-- A turn that throws stays in Custom1. -/
theorem turn_thrown {error : RuntimeError} (thrown : (runtime.turn turn).2 = .error error) :
    (runtime.turn turn).1.flightState = .custom1 := by
  have left : (runtime.turn turn).1 = (runtime.prepare turn).ticked turn.now :=
    ticked_of_update thrown
  by_contra notCustom1
  rw [left, ticked_flightState] at notCustom1
  obtain ⟨again, returned⟩ := (runtime.prepare turn).update_ok turn.now notCustom1
  cases returned.symm.trans thrown

variable (runtime turn) in
/-- A turn completes, or the tick of Custom1 throws and leaves its reports to the next turn. -/
theorem turn_cases :
    (∃ again, (runtime.turn turn).2 = .ok again) ∨
      runtime.flightState = .custom1 ∧ (runtime.turn turn).1.flightState = .custom1 ∧
        (((runtime.prepare turn).ticked turn.now).Calm ∨
          ∃ signal ∈ (runtime.turn turn).1.pending, signal.isSafety) := by
  rcases (runtime.prepare turn).update_cases turn.now with
    ⟨error, custom1, thrown⟩ | ⟨again, finished⟩
  · have left : (runtime.turn turn).1 = (runtime.prepare turn).ticked turn.now :=
      congrArg Prod.fst thrown
    refine .inr ⟨prepare_flightState.symm.trans custom1, ?_, ?_⟩
    · rw [left, ticked_flightState, custom1]
    · by_cases calm : ((runtime.prepare turn).ticked turn.now).Calm
      · exact .inl calm
      · obtain ⟨signal, waits, safety⟩ : ∃ signal ∈
            ((runtime.prepare turn).ticked turn.now).controller.signals, signal.isSafety := by
          simpa [Calm] using calm
        refine .inr ⟨signal, ?_, safety⟩
        rw [left, pending]
        exact List.mem_append_left _ waits
  · exact .inl ⟨again, congrArg Prod.snd finished⟩

theorem transition_of_turn {again : Bool} (completed : (runtime.turn turn).2 = .ok again) :
    (((runtime.prepare turn).ticked turn.now).choose = none ∧
      (runtime.turn turn).1.flightState = runtime.flightState) ∨
      ((runtime.prepare turn).ticked turn.now).Transition runtime.flightState
        (runtime.turn turn).1.flightState := by
  have step := transition_of_update completed
  rw [prepare_flightState] at step
  exact step

/-- A turn that begins and ends on watch, or that begins in flight and does not land, has
nothing to react to. -/
theorem calm_of_turn {again : Bool} (completed : (runtime.turn turn).2 = .ok again)
    (began : runtime.flightState.isWatched)
    (ended : (runtime.turn turn).1.flightState.isWatched ∨
      runtime.flightState.isFlying ∧ (runtime.turn turn).1.flightState ≠ .landing) :
    ((runtime.prepare turn).ticked turn.now).Calm ∧
      ((runtime.turn turn).1.flightState.isFlying ∨ runtime.flightState.isFlying →
        (runtime.turn turn).1.health.positionDistance.exceeded = false) := by
  have step := transition_of_turn completed
  rw [← ticked_health_turn]
  generalize source : runtime.flightState = before at step began ended ⊢
  generalize FlightRuntime.flightState (runtime.turn turn).1 = after at step ended ⊢
  have tickedState := (runtime.prepare turn).ticked_flightState turn.now
  rw [prepare_flightState, source] at tickedState
  rcases step with ⟨staying, stays⟩ | step
  · subst stays
    obtain ⟨calm, near⟩ := calm_of_choose_none _ staying (by rw [tickedState]; exact began)
    rw [tickedState] at near
    exact ⟨calm, fun flying => near (flying.elim id id)⟩
  · cases step with
    | selfChecked => cases began
    | landed => cases began
    | preempted =>
        rcases ended with watched | lands
        · cases watched
        · exact (lands.2 rfl).elim
    | unready =>
        rcases ended with watched | lands
        · cases watched
        · cases lands.1
    | takenOff calm _ _ _ near _ => exact ⟨calm, fun _ => near⟩
    | disarmed calm near _ => exact ⟨calm, fun _ => near⟩
    | advanced calm near _ _ _ => exact ⟨calm, fun _ => near⟩

/-- A turn that ends on watch began there, or passed the self check. -/
theorem watched_of_turn {again : Bool} (completed : (runtime.turn turn).2 = .ok again)
    (ended : (runtime.turn turn).1.flightState.isWatched) :
    runtime.flightState.isWatched ∨
      (runtime.turn turn).1.flightState = .ready ∧
        SensorChecks.areSensorsReady (runtime.turn turn).1.controller.sensorData
          (runtime.turn turn).1.controller.backend := by
  have step := transition_of_turn completed
  obtain ⟨config, sensorData⟩ := runtime.turn_circumstances turn
  have tick := controlTick_emits ((runtime.prepare turn).afterHealth turn.now)
  generalize runtime.flightState = before at step ⊢
  generalize FlightRuntime.flightState (runtime.turn turn).1 = after at step ended ⊢
  rcases step with ⟨-, stays⟩ | step
  · exact .inl (stays ▸ ended)
  · cases step with
    | selfChecked ready =>
        refine .inr ⟨rfl, ?_⟩
        rw [DroneController.backend, config, sensorData, ← tick.config, ← tick.sensorData]
        exact ready
    | landed => cases ended
    | preempted => cases ended
    | unready => cases ended
    | takenOff => exact .inl rfl
    | disarmed _ _ requesting => rcases requesting with rfl | rfl <;> exact .inl rfl
    | advanced _ _ flying => exact .inl (FlightState.isWatched_of_isFlying flying)

end Watch

end FlightRuntime

end MultirotorController
