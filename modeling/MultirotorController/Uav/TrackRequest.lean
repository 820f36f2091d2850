import MultirotorController.Uav.FlightUpdate
import MultirotorController.Uav.OutputSteps

/-!
# The latched request to track

A Track command that causes no transition is latched by TakeoffAscending and
Hover. The latch is cleared where Custom1 or Landing is entered and nowhere
else: a Hover command leaves it alone.
-/

namespace MultirotorController

open Relation

variable [Xgc2Math]

section Leaves

/-- No tick of Custom1 touches the latch. -/
theorem Custom1State.Acts.custom1Requested {before after : Scope Custom1State}
    (acts : Custom1State.Acts before after) :
    after.controller.custom1Requested = before.controller.custom1Requested := by
  induction acts with
  | refl => rfl
  | tail _ action ih =>
      refine Eq.trans ?_ ih
      cases action with
      | reopen =>
          unfold Custom1State.reopenGeneration
          split <;> rfl
      | _ => rfl

omit [Xgc2Math] in
theorem LandingState.descend_custom1Requested (scope : Scope LandingState) :
    (descend scope).controller.custom1Requested = scope.controller.custom1Requested := by
  have publishes (scope : Scope LandingState) :
      (publishSetpointIfDue scope).controller.custom1Requested =
        scope.controller.custom1Requested := by
    dsimp only [publishSetpointIfDue]
    split <;> rfl
  have logs (scope : Scope LandingState) :
      (logStatusIfDue scope).controller = scope.controller := by
    dsimp only [logStatusIfDue]
    split <;> rfl
  have reports (scope : Scope LandingState) :
      (reportTimeoutIfNeeded scope).controller = scope.controller := by
    dsimp only [reportTimeoutIfNeeded]
    repeat' split
    all_goals rfl
  rw [descend, reports, logs, publishes]
  unfold updateDescentVelocityIfNeeded
  split <;> rfl

omit [Xgc2Math] in
theorem LandingState.onTick_custom1Requested (scope : Scope LandingState) :
    (onTick scope).controller.custom1Requested = scope.controller.custom1Requested := by
  have posts (scope : Scope LandingState) :
      (postTouchdownOnce scope).controller.custom1Requested =
        scope.controller.custom1Requested := by
    dsimp only [postTouchdownOnce]
    repeat' split
    all_goals rfl
  rw [onTick, posts, updateTouchdownConfirmation_controller, descend_custom1Requested]

/-- The leaves that latch a Track command which causes no transition. -/
def FlightState.latchesTrack (state : FlightState) : Bool :=
  state = .takeoffAscending ∨ state = .hover

namespace FlightLeaf

variable [Libm] (controller : DroneController) (leaf : FlightLeaf)

theorem onTick_custom1Requested :
    (leaf.onTick controller).1.controller.custom1Requested = controller.custom1Requested := by
  cases leaf with
  | selfCheck leaf =>
      simp only [onTick, Scope.map_controller, SelfCheckState.onTick_controller]
  | ready leaf => rfl
  | takeoffInit leaf =>
      exact (TakeoffInitState.onTick_onlyEmits ⟨controller, leaf⟩).custom1Requested
  | takeoffOffboardRequest leaf =>
      exact (TakeoffOffboardRequestState.onTick_onlyEmits ⟨controller, leaf⟩).custom1Requested
  | takeoffArmRequest leaf =>
      exact (TakeoffArmRequestState.onTick_onlyEmits ⟨controller, leaf⟩).custom1Requested
  | takeoffAscending leaf =>
      exact (TakeoffAscendingState.onTick_onlyEmits ⟨controller, leaf⟩).custom1Requested
  | hover leaf =>
      exact (DroneController.OnlyEmits.publishSetpointIfDue controller
        leaf.setpointPublishTimer).custom1Requested
  | custom1 leaf =>
      obtain ⟨scope, acts, ticked⟩ :=
        onTick_custom1 controller leaf (Custom1State.acting_onTick ⟨controller, leaf⟩)
      rw [ticked]
      exact Custom1State.Acts.custom1Requested acts
  | landing leaf => exact LandingState.onTick_custom1Requested ⟨controller, leaf⟩

omit [Libm] in
theorem onExit_custom1Requested :
    (leaf.onExit controller).controller.custom1Requested = controller.custom1Requested := by
  cases leaf <;> rfl

omit [Libm] in
/-- Custom1 and Landing forget the request when they are entered. -/
theorem onEnter_custom1Requested :
    (leaf.onEnter controller).controller.custom1Requested =
      (controller.custom1Requested && leaf.flightState ≠ .custom1 &&
        leaf.flightState ≠ .landing) := by
  cases leaf with
  | takeoffInit leaf =>
      simp only [onEnter, Scope.map_controller, TakeoffInitState.onEnter,
        TakeoffInitState.requestDisarmIfRequired]
      repeat' split
      all_goals simp [flightState, DroneController.emitFlightEffect,
        TakeoffInitState.configureTakeoffSetpoint]
  | ready leaf =>
      simp only [onEnter, Scope.map_controller, ReadyState.onEnter]
      split <;> simp [flightState, DroneController.emitFlightEffect]
  | custom1 leaf =>
      simp only [onEnter, Scope.map_controller, Custom1State.onEnter]
      repeat' split
      all_goals simp [flightState, Custom1State.onEnterSession, Custom1State.requestReference,
        Custom1State.clearReference, Custom1State.setPublishPeriod,
        DroneController.emitFlightEffect, DroneController.clearCustom1Request]
  | landing leaf =>
      simp [onEnter, flightState, LandingState.onEnter, LandingState.emitLandingSetpoint,
        LandingState.configureLandingSetpoint, DroneController.emitFlightEffect,
        DroneController.clearCustom1Request]
  | _ => simp [onEnter, flightState, SelfCheckState.onEnter,
      TakeoffOffboardRequestState.onEnter, TakeoffArmRequestState.onEnter,
      TakeoffAscendingState.onEnter, HoverState.onEnter, HoverState.configureHoverSetpoint,
      DroneController.emitFlightEffect]

omit [Libm] in
theorem onCommand_custom1Requested (command : FlightCommand) :
    (leaf.onCommand controller command).controller.custom1Requested =
      (controller.custom1Requested ||
        leaf.flightState.latchesTrack && command == .track) := by
  cases leaf with
  | takeoffAscending leaf =>
      simp only [onCommand, Scope.map_controller, TakeoffAscendingState.onEvent]
      split <;> simp_all [flightState, FlightState.latchesTrack,
        DroneController.requestCustom1Tracking]
  | hover leaf =>
      simp only [onCommand, Scope.map_controller, HoverState.onEvent]
      split <;> simp_all [flightState, FlightState.latchesTrack,
        DroneController.requestCustom1Tracking]
  | _ => simp [onCommand, flightState, FlightState.latchesTrack]

end FlightLeaf

end Leaves

namespace FlightRuntime

section Choice

variable (runtime : FlightRuntime)

/-- What TakeoffAscending and Hover choose. Only TakeoffAscending looks for a Hover
command. -/
inductive OperatorChoice : Option Choice → Prop
  | preempted {choice : Choice} : runtime.takeoffPreemption = some choice →
      choice.target = .landing → OperatorChoice (some choice)
  | hovers {choice : Choice} : runtime.takeoffPreemption = none →
      runtime.flightState = .takeoffAscending → choice.target = .hover →
      OperatorChoice (some choice)
  | timedOut {choice : Choice} : runtime.takeoffPreemption = none →
      runtime.flightState = .takeoffAscending → runtime.hasCommand .hover = false →
      choice.target = .landing → OperatorChoice (some choice)
  | tracks {choice : Choice} : runtime.takeoffPreemption = none →
      (runtime.flightState = .takeoffAscending → runtime.hasCommand .hover = false) →
      runtime.hasCommand .track ∨ runtime.controller.custom1Requested →
      choice.target = .custom1 → OperatorChoice (some choice)
  | stays : runtime.takeoffPreemption = none →
      (runtime.flightState = .takeoffAscending → runtime.hasCommand .hover = false) →
      OperatorChoice none

theorem choose_operatorChoice (latches : runtime.flightState.latchesTrack) :
    runtime.OperatorChoice runtime.choose := by
  have either : runtime.flightState = .takeoffAscending ∨ runtime.flightState = .hover := by
    simpa [FlightState.latchesTrack] using latches
  cases preempted : runtime.takeoffPreemption with
  | some choice =>
      have chosen : runtime.choose = some choice := by
        rcases either with ascending | hovering
        · simp [choose, ascending, chooseTakeoffAscending, preempted]
        · simp [choose, hovering, chooseHover, preempted]
      rw [chosen]
      exact .preempted preempted (runtime.takeoffPreemption_target preempted)
  | none =>
      rcases either with ascending | hovering
      · simp only [choose, ascending, chooseTakeoffAscending, preempted]
        split
        · exact .hovers preempted ascending rfl
        next quiet =>
          simp only [Bool.not_eq_true] at quiet
          split
          next track =>
            exact .tracks preempted (fun _ => quiet) (.inl (Bool.and_eq_true_iff.mp track).1) rfl
          · split
            · exact .hovers preempted ascending rfl
            · split
              · exact .timedOut preempted ascending quiet rfl
              · split
                next latched =>
                  exact .tracks preempted (fun _ => quiet)
                    (.inr (Bool.and_eq_true_iff.mp latched).1) rfl
                · exact .stays preempted fun _ => quiet
      · have elsewhere : runtime.flightState = .takeoffAscending →
            runtime.hasCommand .hover = false := by
          intro ascending
          cases ascending.symm.trans hovering
        simp only [choose, hovering, chooseHover, preempted]
        split
        next track =>
          exact .tracks preempted elsewhere (.inl (Bool.and_eq_true_iff.mp track).1) rfl
        · split
          next latched =>
            exact .tracks preempted elsewhere (.inr (Bool.and_eq_true_iff.mp latched).1) rfl
          · exact .stays preempted elsewhere

/-- Custom1 is entered from the two leaves that latch a request. -/
theorem latchesTrack_of_choose_custom1 {choice : Choice} (chosen : runtime.choose = some choice)
    (custom1 : choice.target = .custom1) : runtime.flightState.latchesTrack := by
  have preempts (earlier : runtime.takeoffPreemption = some choice) : False := by
    cases (runtime.takeoffPreemption_target earlier).symm.trans custom1
  have normal (earlier : runtime.normalPreemption = some choice) : False := by
    cases (runtime.normalPreemption_target earlier).symm.trans custom1
  unfold choose at chosen
  cases source : runtime.flightState <;> simp only [source] at chosen
  case takeoffAscending => rfl
  case hover => rfl
  all_goals
    simp only [chooseSelfCheck, chooseReady, chooseTakeoffInit, chooseTakeoffOffboardRequest,
      chooseModeRequest, chooseTakeoffArmRequest, chooseCustom1, chooseLanding] at chosen
    repeat' split at chosen
    all_goals cases chosen
    all_goals first | cases custom1 | exact (preempts ‹_›).elim | exact (normal ‹_›).elim

end Choice

variable [Libm] (runtime : FlightRuntime)

theorem ticked_custom1Requested (now : Time) :
    (runtime.ticked now).controller.custom1Requested = runtime.controller.custom1Requested :=
  (FlightLeaf.onTick_custom1Requested _ _).trans
    (runtime.afterHealth_onlyEmits now).custom1Requested

omit [Libm] in
theorem transition_custom1Requested (choice : Choice) :
    (runtime.transition choice).controller.custom1Requested =
      (runtime.controller.custom1Requested && choice.target ≠ .custom1 &&
        choice.target ≠ .landing) := by
  have left : (leave choice runtime).custom1Requested = runtime.controller.custom1Requested := by
    refine (FlightLeaf.onExit_custom1Requested _ _).trans ?_
    split <;> rfl
  refine (FlightLeaf.onEnter_custom1Requested (leave choice runtime) _).trans ?_
  rw [FlightLeaf.flightState_fresh, left]

omit [Libm] in
/-- Without a transition only a Track command sets the latch. -/
theorem foldl_dispatchCommand_custom1Requested (commands : List FlightCommand) :
    (commands.foldl dispatchCommand runtime).controller.custom1Requested =
      (runtime.controller.custom1Requested ||
        runtime.flightState.latchesTrack && commands.contains .track) := by
  induction commands generalizing runtime with
  | nil => simp
  | cons command rest ih =>
      have stays : (runtime.dispatchCommand command).flightState = runtime.flightState :=
        runtime.leaf.onCommand_flightState runtime.controller command
      have latched : (runtime.dispatchCommand command).controller.custom1Requested =
          (runtime.controller.custom1Requested ||
            runtime.flightState.latchesTrack && command == .track) :=
        runtime.leaf.onCommand_custom1Requested runtime.controller command
      rw [List.foldl_cons, ih, stays, latched, List.contains_cons, Bool.and_or_distrib_left,
        Bool.or_assoc, Bool.beq_comm]

omit [Libm] in
theorem afterTick_custom1Requested (start : Nat) :
    (afterTick start runtime).controller.custom1Requested =
      (runtime.applyChoice runtime.choose).controller.custom1Requested :=
  (debugTurn_onlyEmits _).custom1Requested

theorem receive_custom1Requested (input : FlightInput) :
    (runtime.receive input).controller.custom1Requested =
      runtime.controller.custom1Requested := by
  cases input with
  | command command =>
      dsimp only [receive, postCommand]
      split <;> rfl
  | freshImu =>
      dsimp only [receive, onFreshImu, HealthMonitorState.onFreshImu]
      split <;> rfl
  | plannerSetpoint ingress =>
      dsimp only [receive]
      rw [ingestPlannerSetpoint_frame]
  | _ => rfl

theorem prepare_custom1Requested (turn : Turn) :
    (runtime.prepare turn).controller.custom1Requested = runtime.controller.custom1Requested := by
  have all (inputs : List FlightInput) : ∀ runtime : FlightRuntime,
      (inputs.foldl receive runtime).controller.custom1Requested =
        runtime.controller.custom1Requested := by
    induction inputs with
    | nil => exact fun _ => rfl
    | cons input rest ih =>
        exact fun runtime => (ih _).trans (runtime.receive_custom1Requested input)
  exact all turn.inputs runtime

/-- The commands that the update of a turn takes from the queue. -/
def batch (turn : Turn) : List FlightCommand := (runtime.prepare turn).pendingCommands.take 64

/-- The leaf and the latch after a turn, by what the turn chose. -/
inductive LatchedTurn (turn : Turn) : Option Choice → Prop
  | thrown : runtime.flightState = .custom1 →
      (runtime.turn turn).1.flightState = .custom1 →
      (runtime.turn turn).1.controller.custom1Requested = runtime.controller.custom1Requested →
      LatchedTurn turn none
  | moved {choice : Choice} :
      ((runtime.prepare turn).ticked turn.now).choose = some choice →
      (runtime.turn turn).1.flightState = choice.target →
      (runtime.turn turn).1.controller.custom1Requested =
        (runtime.controller.custom1Requested && choice.target ≠ .custom1 &&
          choice.target ≠ .landing) → LatchedTurn turn (some choice)
  | stayed : ((runtime.prepare turn).ticked turn.now).choose = none →
      (runtime.turn turn).1.flightState = runtime.flightState →
      (runtime.turn turn).1.controller.custom1Requested =
        (runtime.controller.custom1Requested ||
          runtime.flightState.latchesTrack && (runtime.batch turn).contains .track) →
      LatchedTurn turn none

theorem turn_latchedTurn (turn : Turn) : ∃ choice, runtime.LatchedTurn turn choice := by
  have latch : ((runtime.prepare turn).ticked turn.now).controller.custom1Requested =
      runtime.controller.custom1Requested :=
    ((runtime.prepare turn).ticked_custom1Requested turn.now).trans
      (runtime.prepare_custom1Requested turn)
  have leaf : ((runtime.prepare turn).ticked turn.now).flightState = runtime.flightState :=
    ((runtime.prepare turn).ticked_flightState turn.now).trans prepare_flightState
  rcases (runtime.prepare turn).update_cases turn.now with
    ⟨error, custom1, thrown⟩ | ⟨again, completed⟩
  · have left : (runtime.turn turn).1 = (runtime.prepare turn).ticked turn.now :=
      congrArg Prod.fst thrown
    have custom1 : runtime.flightState = .custom1 := prepare_flightState.symm.trans custom1
    exact ⟨none, .thrown custom1 (by rw [left, leaf, custom1]) (by rw [left, latch])⟩
  · have left := congrArg Prod.fst completed
    have ended := congrArg flightState left
    have request := congrArg (·.controller.custom1Requested) left
    rw [afterTick_flightState] at ended
    simp only [afterTick_custom1Requested] at request
    cases chosen : ((runtime.prepare turn).ticked turn.now).choose with
    | some choice =>
        rw [chosen] at ended request
        refine ⟨some choice, .moved chosen ended (request.trans ?_)⟩
        rw [applyChoice, transition_custom1Requested, latch]
    | none =>
        rw [chosen] at ended request
        refine ⟨none, .stayed chosen (ended.trans leaf) (request.trans ?_)⟩
        rw [applyChoice, foldl_dispatchCommand_custom1Requested, latch, leaf, ticked_commands]
        rfl

end FlightRuntime

end MultirotorController
