import MultirotorController.Safety.Continuation
import MultirotorController.Safety.Environment
import MultirotorController.Uav.FlightTracking
import MultirotorController.Uav.StateMachine.MonitorWakes

/-!
# The machine between its deadlines

The parts of a turn that brings nothing. Before its deadline and its timeout a leaf
other than Custom1 does nothing, and it makes no transition in circumstances in
which it has stayed. The times that the machine keeps are numbers in every run,
so that its deadlines are.
-/

namespace MultirotorController

open DroneController

section Entry

variable {controller later : DroneController} {seconds t : ℚ}

theorem FlightRuntime.finite_entryDeadline (controller : DroneController) (seconds : Double)
    (strict : Bool) : (entryDeadline controller seconds strict).due.isFinite = true := by
  unfold entryDeadline
  dsimp only
  split <;> split <;> rfl

/-- Before the deadline of a strict bound the leaf has not been active for longer. -/
theorem FlightRuntime.elapsed_of_later (nonneg : 0 ≤ seconds) (clock : 0 ≤ t)
    (ahead : (entryDeadline controller (.fin seconds) true).Later (.fin t))
    (present : later.currentTime = .fin t) (entered : later.enteredAt = controller.enteredAt) :
    later.flightElapsed ≤ .fin seconds := by
  have ticks : asClock (.fin seconds) = ⌊seconds * 1000000000⌋ :=
    if_pos (mul_nonneg nonneg (by norm_num))
  have floor := Int.floor_le (seconds * 1000000000)
  have represented : ((⌊seconds * 1000000000⌋ : Int) : ℚ) / 1000000000 ≤ seconds := by
    rw [div_le_iff₀ (by norm_num)]
    exact floor
  let target : Int := controller.enteredAt + (⌊seconds * 1000000000⌋ + 1)
  have whole : asClock (.fin ((target : ℚ) / 1000000000)) = target := by
    change (Double.fin ((target : ℚ) / 1000000000) * .fin 1000000000).truncInt = target
    rw [Double.fin_mul_fin, div_mul_cancel₀ _ (by norm_num)]
    unfold Double.truncInt
    dsimp only
    rw [Int.floor_intCast, Int.ceil_intCast, ite_self]
  have passed : Double.fin ((⌊seconds * 1000000000⌋ : Int) / 1000000000) < .fin seconds ∨
      true = true ∧ Double.fin ((⌊seconds * 1000000000⌋ : Int) / 1000000000) = .fin seconds := by
    rcases represented.lt_or_eq with below | same
    · exact .inl ((Double.fin_lt_fin _ _).mpr below)
    · exact .inr ⟨rfl, congrArg Double.fin same⟩
  have due : entryDeadline controller (.fin seconds) true =
      { due := .fin ((target : ℚ) / 1000000000) } := by
    unfold entryDeadline
    dsimp only
    rw [ticks, if_pos passed]
    refine if_neg ?_
    change ¬ asClock (.fin ((target : ℚ) / 1000000000)) < target
    rw [whole]
    exact lt_irrefl target
  rw [due] at ahead
  have early : t * 1000000000 < target := by
    have before : t < (target : ℚ) / 1000000000 := (Double.fin_lt_fin _ _).mp ahead
    rwa [lt_div_iff₀ (by norm_num)] at before
  have clockTicks : asClock later.currentTime = ⌊t * 1000000000⌋ := by
    rw [present]
    exact if_pos (mul_nonneg clock (by norm_num))
  have elapsed : ⌊t * 1000000000⌋ - later.enteredAt ≤ ⌊seconds * 1000000000⌋ := by
    have below := Int.floor_lt.mpr early
    dsimp only [target] at below
    omega
  unfold flightElapsed
  rw [clockTicks, Double.fin_le_fin, div_le_iff₀ (by norm_num)]
  exact (Int.cast_le.mpr elapsed).trans floor

end Entry

namespace FlightLeaf

variable [Xgc2Math]

/-- The timers of the leaf were started or reset at numbers. -/
def Clocked : FlightLeaf → Prop
  | selfCheck leaf => leaf.Clocked
  | takeoffInit leaf => leaf.Clocked
  | takeoffOffboardRequest leaf => leaf.Clocked
  | takeoffArmRequest leaf => leaf.Clocked
  | takeoffAscending leaf => leaf.Clocked
  | hover leaf => leaf.Clocked
  | landing leaf => leaf.Clocked
  | ready _ => True
  | custom1 _ => True

/-- The leaf repeats its setpoint and has nothing left to post. -/
def Settled (controller : DroneController) : FlightLeaf → Prop
  | takeoffInit leaf => leaf.Settled
  | takeoffOffboardRequest leaf => leaf.Settled
  | takeoffArmRequest leaf => leaf.Settled
  | takeoffAscending leaf => leaf.Settled
  | hover leaf => leaf.setpointPublishTimer.started = true
  | landing leaf => LandingState.Settled controller leaf
  | selfCheck _ => True
  | ready _ => True
  | custom1 _ => True

section Leaves

variable [Libm] {controller : DroneController} {t : ℚ}

omit [Libm] in
theorem clocked_fresh (state : FlightState) : (fresh state).Clocked := by
  cases state <;> first | trivial | rfl | exact ⟨rfl, rfl⟩

omit [Libm] in
theorem clocked_onEnter (clock : controller.currentTime = .fin t) (state : FlightState) :
    ((fresh state).onEnter controller).leaf.Clocked := by
  cases state with
  | selfCheck => exact SelfCheckState.clocked_onEnter clock
  | ready => trivial
  | takeoffInit => exact TakeoffInitState.clocked_onEnter clock (clocked_fresh .takeoffInit)
  | takeoffOffboardRequest => exact TakeoffOffboardRequestState.clocked_onEnter clock
  | takeoffArmRequest => exact TakeoffArmRequestState.clocked_onEnter clock
  | takeoffAscending => exact TakeoffAscendingState.clocked_onEnter clock
  | hover => exact HoverState.clocked_onEnter clock
  | custom1 => trivial
  | landing => exact LandingState.clocked_onEnter clock

theorem clocked_onTick (clock : controller.currentTime = .fin t) {leaf : FlightLeaf}
    (clocked : leaf.Clocked) : (leaf.onTick controller).1.leaf.Clocked := by
  cases leaf with
  | selfCheck leaf => exact SelfCheckState.clocked_onTick clock clocked
  | ready leaf => trivial
  | takeoffInit leaf => exact TakeoffInitState.clocked_onTick clock clocked
  | takeoffOffboardRequest leaf => exact TakeoffOffboardRequestState.clocked_onTick clock clocked
  | takeoffArmRequest leaf => exact TakeoffArmRequestState.clocked_onTick clock clocked
  | takeoffAscending leaf => exact TakeoffAscendingState.clocked_onTick clock clocked
  | hover leaf => exact HoverState.clocked_onTick clock clocked
  | custom1 leaf =>
      unfold onTick
      dsimp only
      split <;> trivial
  | landing leaf => exact LandingState.clocked_onTick clock clocked

theorem settled_onTick (leaf : FlightLeaf) :
    (leaf.onTick controller).1.leaf.Settled (leaf.onTick controller).1.controller := by
  cases leaf with
  | takeoffInit leaf => exact TakeoffInitState.settled_onTick ⟨controller, leaf⟩
  | takeoffOffboardRequest leaf =>
      exact TakeoffOffboardRequestState.settled_onTick ⟨controller, leaf⟩
  | takeoffArmRequest leaf => exact TakeoffArmRequestState.settled_onTick ⟨controller, leaf⟩
  | takeoffAscending leaf => exact TakeoffAscendingState.settled_onTick ⟨controller, leaf⟩
  | hover leaf => exact HoverState.running_onTick ⟨controller, leaf⟩
  | custom1 leaf =>
      unfold onTick
      dsimp only
      split <;> trivial
  | landing leaf => exact LandingState.settled_onTick ⟨controller, leaf⟩
  | _ => trivial

omit [Libm] in
/-- A command that causes no transition is at most latched by the controller. -/
theorem onCommand_leaf (command : FlightCommand) (leaf : FlightLeaf) :
    (leaf.onCommand controller command).leaf = leaf := by
  cases leaf with
  | hover leaf =>
      change ((HoverState.onEvent ⟨controller, leaf⟩ command).map hover).leaf = _
      unfold HoverState.onEvent
      split <;> rfl
  | takeoffAscending leaf =>
      change ((TakeoffAscendingState.onEvent ⟨controller, leaf⟩ command).map
        takeoffAscending).leaf = _
      unfold TakeoffAscendingState.onEvent
      split <;> rfl
  | _ => rfl

end Leaves

end FlightLeaf

namespace FlightRuntime

variable [Xgc2Math]

section Leaf

variable [Libm] {runtime : FlightRuntime} {later : DroneController} {t : ℚ}

/-- Before its own deadline and its timeout a settled leaf does nothing, without fresh frames. -/
theorem onTick_ahead (present : later.currentTime = .fin t) (clock : 0 ≤ t)
    (entered : later.enteredAt = runtime.controller.enteredAt)
    (notCustom1 : runtime.flightState ≠ .custom1) (clocked : runtime.leaf.Clocked)
    (settled : runtime.leaf.Settled later) (noPose : later.isWorldPoseNew = false)
    (noState : later.sensorData.stateStats.isNew = false) {wake : Option Deadline}
    (leafWake : runtime.leafWake = .ok wake) (ahead : Deadline.Ahead (.fin t) wake)
    (timeout : Deadline.Ahead (.fin t) runtime.timeoutWake) :
    (runtime.leaf.onTick later).1.controller = later := by
  unfold FlightRuntime.leafWake at leafWake
  unfold timeoutWake at timeout
  unfold flightState at notCustom1
  cases leaf : runtime.leaf with
  | selfCheck leaf' => exact SelfCheckState.onTick_controller ⟨later, leaf'⟩
  | ready leaf' => rfl
  | custom1 leaf' =>
      rw [leaf] at notCustom1
      exact (notCustom1 rfl).elim
  | takeoffInit leaf' =>
      rw [leaf] at leafWake clocked settled
      cases leafWake
      exact TakeoffInitState.onTick_ahead present clocked settled noState ahead
  | takeoffOffboardRequest leaf' =>
      rw [leaf] at leafWake clocked settled
      cases leafWake
      exact TakeoffOffboardRequestState.onTick_ahead present clocked settled noState ahead
  | takeoffArmRequest leaf' =>
      rw [leaf] at leafWake clocked settled
      cases leafWake
      exact TakeoffArmRequestState.onTick_ahead present clocked settled noState ahead
  | hover leaf' =>
      rw [leaf] at leafWake clocked settled
      cases leafWake
      exact HoverState.onTick_ahead present clocked settled ahead
  | landing leaf' =>
      rw [leaf] at leafWake clocked settled
      cases leafWake
      exact LandingState.onTick_ahead present clocked settled noPose noState ahead
  | takeoffAscending leaf' =>
      rw [leaf] at leafWake clocked settled timeout
      cases leafWake
      refine TakeoffAscendingState.onTick_ahead present clocked settled noPose ?_ ahead
      cases posted : leaf'.timeoutEventPosted with
      | true => exact .inl rfl
      | false =>
          right
          unfold TakeoffAscendingState.timeoutAfterEntry at timeout
          dsimp only at timeout
          rw [posted] at timeout
          exact elapsed_of_later (by decide +kernel) clock timeout present entered

end Leaf

section Choice

variable {earlier later : FlightRuntime}

/-- Without signals and commands, and in the circumstances in which it stayed, a leaf stays until
its time is over. -/
theorem choose_of_stays (stays : earlier.choose = none)
    (state : later.flightState = earlier.flightState) (commands : later.commands = [])
    (signals : later.controller.signals = [])
    (distance : later.health.positionDistance = earlier.health.positionDistance)
    (ready : SensorChecks.areSensorsReady later.controller.sensorData later.controller.backend =
      SensorChecks.areSensorsReady earlier.controller.sensorData earlier.controller.backend)
    (airborne : later.controller.isAirborne = earlier.controller.isAirborne)
    (armed : SensorChecks.isFcuArmed later.controller.sensorData =
      SensorChecks.isFcuArmed earlier.controller.sensorData)
    (request : later.flightState.latchesTrack →
      (later.controller.custom1Requested && later.controller.custom1ReferenceReady) = false)
    (inTime : later.flightState = .takeoffInit ∨ later.flightState = .takeoffOffboardRequest ∨
      later.flightState = .takeoffArmRequest → later.elapsedOverTen = false) :
    later.choose = none := by
  have noSignal (signal : FlightSignal) : later.hasSignal signal = false := by
    unfold hasSignal
    rw [signals]
    rfl
  have noCommand (command : FlightCommand) : later.hasCommand command = false := by
    unfold hasCommand
    rw [commands]
    rfl
  have undisturbed : later.normalPreemption = none := by
    unfold normalPreemption
    rw [List.find?_eq_none.mpr (by simp [noSignal]), noCommand]
    rfl
  have near (stays : earlier.takeoffPreemption = none) : later.takeoffPreemption = none := by
    unfold takeoffPreemption at stays ⊢
    rw [undisturbed, distance]
    split at stays
    · cases stays
    · exact stays
  have requesting {confirmed : FlightSignal} {next : FlightState}
      (stays : earlier.chooseModeRequest confirmed next = none)
      (inTime : later.elapsedOverTen = false) : later.chooseModeRequest confirmed next = none := by
    unfold chooseModeRequest at stays ⊢
    split at stays
    · cases stays
    next calm =>
      rw [near calm, noSignal, armed, inTime]
      split at stays
      · cases stays
      next disarmed => exact if_neg disarmed
  unfold choose at stays ⊢
  rw [state] at inTime request ⊢
  cases source : earlier.flightState
  all_goals
    rw [source] at stays inTime request
    dsimp only at stays ⊢
  case selfCheck =>
    unfold chooseSelfCheck at stays ⊢
    rw [ready]
    exact stays
  case ready =>
    unfold chooseReady at stays ⊢
    dsimp only at stays ⊢
    rw [undisturbed, noCommand, ready, airborne]
    split at stays
    · cases stays
    · grind
  case takeoffInit => exact requesting stays (inTime (.inl rfl))
  case takeoffOffboardRequest => exact requesting stays (inTime (.inr (.inl rfl)))
  case takeoffArmRequest =>
    unfold chooseTakeoffArmRequest at stays ⊢
    split at stays
    · cases stays
    next calm =>
      rw [near calm, noSignal, inTime (.inr (.inr rfl))]
      rfl
  case takeoffAscending =>
    unfold chooseTakeoffAscending at stays ⊢
    dsimp only at stays ⊢
    split at stays
    · cases stays
    next calm =>
      rw [near calm, noCommand, noCommand, noSignal, noSignal, request rfl]
      rfl
  case hover =>
    unfold chooseHover at stays ⊢
    dsimp only at stays ⊢
    split at stays
    · cases stays
    next calm =>
      rw [near calm, noCommand, request rfl]
      rfl
  case custom1 =>
    unfold chooseCustom1 at stays ⊢
    split at stays
    · cases stays
    next calm =>
      rw [near calm, noCommand, noSignal]
      rfl
  case landing =>
    unfold chooseLanding
    rw [noSignal]
    rfl

end Choice

section Clocked

variable [Libm] {runtime : FlightRuntime}

/-- Every time that the machine keeps is a number. -/
structure Clocked (runtime : FlightRuntime) : Prop where
  leaf : runtime.leaf.Clocked
  health : runtime.health.Clocked
  debug : runtime.debug.Clocked

theorem prepare_debug (runtime : FlightRuntime) (turn : Turn) :
    (runtime.prepare turn).debug = runtime.debug := by
  have one (runtime : FlightRuntime) (input : FlightInput) :
      (runtime.receive input).debug = runtime.debug := by
    cases input with
    | command command =>
        dsimp only [receive, postCommand]
        split <;> rfl
    | _ => rfl
  have all (inputs : List FlightInput) :
      ∀ runtime : FlightRuntime, (inputs.foldl receive runtime).debug = runtime.debug := by
    induction inputs with
    | nil => exact fun _ => rfl
    | cons input rest ih => exact fun runtime => (ih _).trans (one runtime input)
  exact all turn.inputs runtime

omit [Libm] in
theorem foldl_dispatchCommand_leaf_debug (commands : List FlightCommand)
    (runtime : FlightRuntime) :
    (commands.foldl dispatchCommand runtime).leaf = runtime.leaf ∧
      (commands.foldl dispatchCommand runtime).debug = runtime.debug := by
  induction commands generalizing runtime with
  | nil => exact ⟨rfl, rfl⟩
  | cons command rest ih =>
      obtain ⟨leaf, debug⟩ := ih (runtime.dispatchCommand command)
      exact ⟨leaf.trans (FlightLeaf.onCommand_leaf command runtime.leaf), debug⟩

theorem applyChoice_clocked (choice : Option Choice) {now : Time}
    (clock : runtime.controller.currentTime = now.toSec) (clocked : runtime.leaf.Clocked) :
    (runtime.applyChoice choice).leaf.Clocked ∧
      (runtime.applyChoice choice).debug = runtime.debug ∧
      (runtime.applyChoice choice).controller.currentTime = now.toSec := by
  cases choice with
  | none =>
      obtain ⟨leaf, debug⟩ := foldl_dispatchCommand_leaf_debug runtime.commands runtime
      refine ⟨?_, debug, ?_⟩
      · change (runtime.commands.foldl dispatchCommand runtime).leaf.Clocked
        rw [leaf]
        exact clocked
      · exact (foldl_dispatchCommand_emits runtime runtime.commands).currentTime.trans clock
  | some choice =>
      have left := (runtime.leave_emits choice).currentTime.trans clock
      exact ⟨FlightLeaf.clocked_onEnter left choice.target, rfl,
        (runtime.transition_emits choice).currentTime.trans clock⟩

omit [Libm] in
/-- The debug monitor runs after the choice. -/
theorem afterTick_debug (start : Nat) (runtime : FlightRuntime) :
    (afterTick start runtime).debug = (DebugMonitorState.onTick
      ⟨(runtime.applyChoice runtime.choose).controller,
        (runtime.applyChoice runtime.choose).debug⟩).leaf := rfl

theorem Clocked.turn (clocked : runtime.Clocked) (turn : Turn) :
    (runtime.turn turn).1.Clocked := by
  have begun : ((runtime.prepare turn).afterHealth turn.now).controller.currentTime =
      turn.now.toSec := ((runtime.prepare turn).afterHealth_step turn.now).currentTime
  have leaf : ((runtime.prepare turn).ticked turn.now).leaf.Clocked := by
    have prepared : (runtime.prepare turn).leaf.Clocked := by
      rw [(runtime.prepare_received turn).leaf]
      exact clocked.leaf
    exact FlightLeaf.clocked_onTick begun prepared
  have debug : ((runtime.prepare turn).ticked turn.now).debug = runtime.debug :=
    prepare_debug runtime turn
  have clock : ((runtime.prepare turn).ticked turn.now).controller.currentTime = turn.now.toSec :=
    ((runtime.prepare turn).ticked_emits turn.now).currentTime
  have health : (runtime.turn turn).1.health.Clocked := by
    unfold HealthMonitorState.Clocked
    rw [turn_safetyState]
    have present : (runtime.turn turn).1.controller.currentTime = turn.now.toSec :=
      ((runtime.prepare turn).update_circumstances turn.now).2.2
    exact HealthMonitorState.clocked_nextSafety (congrArg Double.isFinite present) clocked.health
  rcases (runtime.prepare turn).update_cases turn.now with ⟨error, -, thrown⟩ | ⟨again, ended⟩
  · have after : (runtime.turn turn).1 = (runtime.prepare turn).ticked turn.now :=
      congrArg Prod.fst thrown
    refine ⟨?_, health, ?_⟩
    · rw [after]
      exact leaf
    · rw [after, debug]
      exact clocked.debug
  · have after : (runtime.turn turn).1 = afterTick _ ((runtime.prepare turn).ticked turn.now) :=
      congrArg Prod.fst ended
    obtain ⟨entered, same, present⟩ := applyChoice_clocked
      ((runtime.prepare turn).ticked turn.now).choose clock leaf
    refine ⟨?_, health, ?_⟩
    · rw [after, afterTick_leaf]
      exact entered
    · rw [after, afterTick_debug]
      generalize ((runtime.prepare turn).ticked turn.now).applyChoice
        ((runtime.prepare turn).ticked turn.now).choose = applied at same present
      refine DebugMonitorState.clocked_onTick (congrArg Double.isFinite present) ?_
      rw [same, debug]
      exact clocked.debug

/-- In every run the times of the machine are numbers. -/
theorem clocked_of_run {past : List FlightEvent} {admissible : FlightRestriction}
    (run : flightMachine.Run FlightRuntime.Started admissible past runtime) : runtime.Clocked := by
  refine run.invariant_state Clocked ?_ fun _ _ turn clocked _ => clocked.turn turn
  rintro _ ⟨config, rfl⟩
  exact ⟨rfl, rfl, ⟨rfl, rfl⟩⟩

end Clocked

end FlightRuntime

end MultirotorController
