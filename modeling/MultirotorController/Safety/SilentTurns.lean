import MultirotorController.Control.ExactMath
import MultirotorController.Uav.CommandQueue
import MultirotorController.Uav.FlightWakes

/-!
# Silent turns

After a turn that asks for no other one, outside Custom1, the machine rests: no
signal and no command waits, the monitors have seen the snapshot, and the leaf has
no transition to make. Before the earliest deadline a turn that brings nothing
then emits nothing, stays where it is and asks for no other turn.
-/

namespace MultirotorController

open DroneController

/-- What a controller knows about its surroundings, without the marks of new messages. -/
def DroneController.circumstances (controller : DroneController) : DroneController :=
  { config := controller.config, sensorData := controller.sensorData.resetNewFlags }

/-- What is read off the circumstances is the same in the same circumstances. -/
theorem DroneController.read_of_circumstances {α : Type} (view : DroneController → α)
    (unmarked : ∀ controller : DroneController, view controller.circumstances = view controller)
    {before after : DroneController} (same : after.circumstances = before.circumstances) :
    view after = view before := by
  rw [← unmarked after, same, unmarked before]

section Circumstances

variable {before after : DroneController}

theorem HealthMonitorState.Informed.congr {safety : SafetyState}
    (informed : Informed before safety) (same : after.circumstances = before.circumstances) :
    Informed after safety := by
  refine ⟨?_, ?_⟩
  · rw [read_of_circumstances (streamLatches · safety) (fun _ => rfl) same]
    exact informed.streams
  · rw [read_of_circumstances controlStateUnusable (fun _ => rfl) same]
    exact informed.stretch

theorem LandingState.Settled.congr {leaf : LandingState} (settled : Settled before leaf)
    (same : after.circumstances = before.circumstances) : Settled after leaf := by
  have due := read_of_circumstances (touchdownDue · leaf) (fun _ => rfl) same
  have armed := read_of_circumstances
    (fun controller => SensorChecks.isFcuArmed controller.sensorData) (fun _ => rfl) same
  refine ⟨settled.running, fun touchdown running => settled.requested ?_ ?_⟩
  · rw [← due]
    exact touchdown
  · rw [← armed]
    exact running

/-- Whether a reference waits near the pose is read off the buffer as well. -/
theorem DroneController.custom1ReferenceReady_congr
    (same : after.circumstances = before.circumstances)
    (buffer : after.mpcTrajectoryBuffer = before.mpcTrajectoryBuffer) :
    after.custom1ReferenceReady = before.custom1ReferenceReady := by
  have kept := read_of_circumstances (fun controller : DroneController =>
    ({ controller with mpcTrajectoryBuffer := before.mpcTrajectoryBuffer } :
      DroneController).custom1ReferenceReady) (fun _ => rfl) same
  rw [← buffer] at kept
  exact kept.trans (by rw [buffer])

variable [Xgc2Math]

theorem FlightLeaf.Settled.congr {leaf : FlightLeaf} (settled : leaf.Settled before)
    (same : after.circumstances = before.circumstances) : leaf.Settled after := by
  cases leaf with
  | landing leaf => exact LandingState.Settled.congr settled same
  | _ => exact settled

end Circumstances

namespace FlightRuntime

variable [Libm] [Xgc2Math] {runtime : FlightRuntime}

/-- Nothing waits, and the machine has stayed where it is in these circumstances. -/
structure AtRest (runtime : FlightRuntime) : Prop where
  commands : runtime.pendingCommands = []
  deferred : runtime.deferredSignals = []
  signals : runtime.controller.signals = []
  informed : HealthMonitorState.Informed runtime.controller runtime.health.safetyState
  settled : runtime.leaf.Settled runtime.controller
  running : runtime.debug.Running
  stays : ∃ earlier : FlightRuntime, earlier.choose = none ∧
    earlier.flightState = runtime.flightState ∧
    earlier.health.positionDistance = runtime.health.positionDistance ∧
    earlier.controller.circumstances = runtime.controller.circumstances
  request : runtime.flightState.latchesTrack →
    (runtime.controller.custom1Requested && runtime.controller.custom1ReferenceReady) = false

section Rest

variable {turn : Turn}

omit [Libm] in
/-- Where a leaf stays, no Track command and no latched request finds a reference. -/
theorem request_of_stays (stays : runtime.choose = none)
    (latches : runtime.flightState.latchesTrack) :
    ((runtime.controller.custom1Requested || runtime.hasCommand .track) &&
      runtime.controller.custom1ReferenceReady) = false := by
  have either : runtime.flightState = .takeoffAscending ∨ runtime.flightState = .hover := by
    simpa [FlightState.latchesTrack] using latches
  unfold choose at stays
  rcases either with ascending | hovering
  · simp only [ascending, chooseTakeoffAscending] at stays
    grind
  · simp only [hovering, chooseHover] at stays
    grind

/-- A turn that asks for no other one leaves the machine at rest. -/
theorem atRest_of_turn (completed : (runtime.turn turn).2 = .ok false) :
    AtRest (runtime.turn turn).1 := by
  let ticked := (runtime.prepare turn).ticked turn.now
  have after : (runtime.turn turn).1 =
      afterTick ((runtime.prepare turn).afterHealth turn.now).controller.signals.length ticked :=
    afterTick_of_update completed
  have quiet : false = (ticked.choose.isSome || !((runtime.prepare turn).pendingCommands.drop
      64).isEmpty || !(runtime.turn turn).1.deferredSignals.isEmpty) := again_of_update _ completed
  simp only [Bool.false_eq, Bool.or_eq_false_iff, Option.isSome_eq_false_iff,
    Option.isNone_iff_eq_none, Bool.not_eq_false', List.isEmpty_iff] at quiet
  obtain ⟨⟨stays, commands⟩, deferred⟩ := quiet
  have applied :
      ticked.applyChoice ticked.choose = ticked.commands.foldl dispatchCommand ticked := by
    rw [stays]
    rfl
  have state : (runtime.turn turn).1.flightState = ticked.flightState := by
    rw [after, afterTick_flightState, stays]
    rfl
  have leaf : (runtime.turn turn).1.leaf = ticked.leaf := by
    rw [after, afterTick_leaf, applied]
    exact (foldl_dispatchCommand_leaf_debug ticked.commands ticked).1
  have circumstances : (runtime.turn turn).1.controller.circumstances =
      ticked.controller.circumstances := by
    obtain ⟨last, ends, emits⟩ := ticked.afterTick_emits
      ((runtime.prepare turn).afterHealth turn.now).controller.signals.length
    rw [after, ends]
    unfold circumstances
    rw [emits.config, emits.sensorData]
  constructor
  · exact (runtime.turn_queue turn).2.trans
      ((congrArg (List.drop 64) (runtime.foldl_receive_pendingCommands turn.inputs)).symm.trans
        commands)
  · exact deferred
  · exact signals_of_update completed
  · rw [turn_safetyState]
    have present : (runtime.turn turn).1.controller.currentTime = turn.now.toSec :=
      ((runtime.prepare turn).update_circumstances turn.now).2.2
    refine HealthMonitorState.informed_nextSafety ?_
    rw [present]
    exact turn.now.toSec_nonneg
  · rw [leaf]
    exact (FlightLeaf.settled_onTick _).congr circumstances
  · rw [after, afterTick_debug]
    exact DebugMonitorState.running_onTick _
  · have health : ticked.health = (runtime.turn turn).1.health := ticked_health_turn
    exact ⟨ticked, stays, state.symm, congrArg (·.positionDistance) health, circumstances.symm⟩
  · intro latches
    rw [state] at latches
    have buffer : (runtime.turn turn).1.controller.mpcTrajectoryBuffer =
        ticked.controller.mpcTrajectoryBuffer := by
      have kept := (ticked.foldl_dispatchCommand_tracking ticked.commands).mpcTrajectoryBuffer
      rw [after, (ticked.afterTick_tracking _).mpcTrajectoryBuffer, applied, kept]
    have requested : (runtime.turn turn).1.controller.custom1Requested =
        (ticked.controller.custom1Requested || ticked.hasCommand .track) := by
      rw [after, afterTick_custom1Requested, applied, foldl_dispatchCommand_custom1Requested,
        latches, Bool.true_and]
      rfl
    rw [requested, custom1ReferenceReady_congr circumstances buffer]
    exact request_of_stays stays latches

end Rest

section Silent

variable {now : Time} {deadline : Option Deadline}

/-- The runtime as a silent turn finds it. -/
def unmarked (runtime : FlightRuntime) : FlightRuntime :=
  runtime.observe runtime.controller.sensorData.resetNewFlags

omit [Libm] in
theorem finite_leafWake (clocked : runtime.leaf.Clocked)
    (notCustom1 : runtime.flightState ≠ .custom1)
    {wake : Option Deadline} (waits : runtime.leafWake = .ok wake) : Deadline.Finite wake := by
  unfold leafWake at waits
  unfold flightState at notCustom1
  cases leaf : runtime.leaf <;> rw [leaf] at waits clocked notCustom1
  case custom1 => exact (notCustom1 rfl).elim
  all_goals cases waits
  case selfCheck => exact SelfCheckState.finite_nextWake clocked
  case ready => exact Deadline.finite_none
  case takeoffInit => exact TakeoffInitState.finite_nextWake clocked
  case takeoffOffboardRequest => exact TakeoffOffboardRequestState.finite_nextWake clocked
  case takeoffArmRequest => exact TakeoffArmRequestState.finite_nextWake clocked
  case takeoffAscending => exact TakeoffAscendingState.finite_nextWake clocked
  case hover => exact HoverState.finite_nextWake clocked
  case landing => exact LandingState.finite_nextWake clocked

omit [Libm] in
theorem finite_timeoutWake (runtime : FlightRuntime) : Deadline.Finite runtime.timeoutWake := by
  have finite (seconds : Option Double) (strict : Bool) :
      Deadline.Finite (seconds.map (entryDeadline runtime.controller · strict)) := by
    cases seconds with
    | none => exact Deadline.finite_none
    | some seconds => exact Deadline.finite_some (finite_entryDeadline _ _ _)
  unfold timeoutWake
  dsimp only
  split
  · exact finite (some takeoffRequestTimeout) true
  · exact finite (some takeoffRequestTimeout) true
  · exact finite (some takeoffRequestTimeout) true
  · exact finite _ true
  · exact finite _ false
  · exact Deadline.finite_none

omit [Libm] in
variable (runtime) in
/-- Ahead of the deadline of the machine are those of its parts. -/
theorem ahead_of_nextWake (clocked : runtime.Clocked) (running : runtime.debug.Running)
    (length : runtime.controller.config.safety.stateEstimateUnusableTripDelay.isFinite = true)
    (notCustom1 : runtime.flightState ≠ .custom1) (wake : runtime.nextWake = .ok deadline)
    {t : ℚ} (ahead : Deadline.Ahead (.fin t) deadline) :
    Deadline.Ahead (.fin t) (HealthMonitorState.nextWake ⟨runtime.controller, runtime.health⟩) ∧
      (DebugMonitorState.nextWake ⟨runtime.controller, runtime.debug⟩).Later (.fin t) ∧
      (∃ leafWake, runtime.leafWake = .ok leafWake ∧ Deadline.Ahead (.fin t) leafWake) ∧
      Deadline.Ahead (.fin t) runtime.timeoutWake := by
  obtain ⟨leafWake, waits, earliest⟩ := Procedure.bind_eq_ok wake
  cases earliest
  have health : Deadline.Finite
      (HealthMonitorState.nextWake ⟨runtime.controller, runtime.health⟩) := by
    unfold HealthMonitorState.nextWake
    dsimp only
    split
    · exact Deadline.finite_none
    · exact Deadline.finite_some (controllerDueAt_finite clocked.health length)
  have numbers : ∀ candidate ∈ [HealthMonitorState.nextWake ⟨runtime.controller, runtime.health⟩,
      some (DebugMonitorState.nextWake ⟨runtime.controller, runtime.debug⟩), leafWake,
      runtime.timeoutWake], Deadline.Finite candidate := by
    simp only [List.forall_mem_cons, List.not_mem_nil, false_implies, implies_true, and_true]
    exact ⟨health, Deadline.finite_some (DebugMonitorState.finite_nextWake clocked.debug running),
      finite_leafWake clocked.leaf notCustom1 waits, finite_timeoutWake runtime⟩
  rw [Deadline.ahead_earliest numbers] at ahead
  simp only [List.forall_mem_cons, List.not_mem_nil, false_implies, implies_true, and_true] at ahead
  exact ⟨ahead.1, ahead.2.1, ⟨leafWake, waits, ahead.2.2.1⟩, ahead.2.2.2⟩

omit [Libm] in
/-- Before its timeout a leaf that asks for a mode or for arming has time left. -/
theorem inTime_of_timeoutWake {later : DroneController} {t : ℚ}
    (requesting : runtime.flightState = .takeoffInit ∨
      runtime.flightState = .takeoffOffboardRequest ∨ runtime.flightState = .takeoffArmRequest)
    (present : later.currentTime = .fin t) (clock : 0 ≤ t)
    (entered : later.enteredAt = runtime.controller.enteredAt)
    (timeout : Deadline.Ahead (.fin t) runtime.timeoutWake) : later.flightElapsed ≤ 10 := by
  unfold flightState at requesting
  have waits : runtime.timeoutWake = some (entryDeadline runtime.controller (.fin 10) true) := by
    have ten : takeoffRequestTimeout = .fin 10 := by decide +kernel
    unfold timeoutWake
    rw [ten]
    cases leaf : runtime.leaf <;> rw [leaf] at requesting <;>
      first | rfl | simp [FlightLeaf.flightState] at requesting
  rw [waits] at timeout
  exact elapsed_of_later (by norm_num) clock timeout present entered

/-- The controller of a silent turn, as every part of the turn finds it. -/
def silenced (runtime : FlightRuntime) (now : Time) : DroneController :=
  { runtime.unmarked.controller with
    flightEffects := []
    currentTime := now.toSec
    signals := []
    diagnosticEvents := [] }

/-- The monitor and the leaf leave the controller of a silent turn alone. -/
theorem ticked_silent (rests : runtime.AtRest) (clocked : runtime.Clocked)
    (length : runtime.controller.config.safety.stateEstimateUnusableTripDelay.isFinite = true)
    (notCustom1 : runtime.flightState ≠ .custom1)
    (wake : runtime.unmarked.nextWake = .ok deadline)
    (ahead : Deadline.Ahead now.toSec deadline) :
    (runtime.unmarked.afterHealth now).controller = runtime.silenced now ∧
      (runtime.unmarked.ticked now).controller = runtime.silenced now ∧
      (runtime.unmarked.ticked now).health.positionDistance = runtime.health.positionDistance := by
  have same : (runtime.silenced now).circumstances = runtime.controller.circumstances := rfl
  have noPose : (runtime.silenced now).isWorldPoseNew = false := by
    unfold DroneController.isWorldPoseNew SensorChecks.isWorldPoseNew SensorChecks.isControlStateNew
    split
    · split <;> rfl
    · rfl
  obtain ⟨health, -, ⟨leafWake, waits, leaf⟩, timeout⟩ := ahead_of_nextWake runtime.unmarked
    ⟨clocked.leaf, clocked.health, clocked.debug⟩ rests.running length notCustom1 wake ahead
  have begun : (runtime.unmarked.beginTurn now).controller = runtime.silenced now := by
    unfold beginTurn silenced
    dsimp only [unmarked, observe]
    rw [rests.commands, rests.signals, rests.deferred]
    rfl
  let monitor : Scope HealthMonitorState := ⟨runtime.silenced now, runtime.health⟩
  have monitored : (HealthMonitorState.onTick monitor).controller = runtime.silenced now ∧
      (HealthMonitorState.onTick monitor).leaf.positionDistance =
        runtime.health.positionDistance :=
    HealthMonitorState.onTick_ahead rfl clocked.health length (rests.informed.congr same) noPose
      rfl rfl health
  have healthy : (runtime.unmarked.afterHealth now).controller = runtime.silenced now := by
    unfold afterHealth healthTurn
    dsimp only
    have kept : (runtime.unmarked.beginTurn now).health = runtime.health := rfl
    have silent : (runtime.silenced now).signals = [] := rfl
    rw [begun, kept, monitored.1, silent, List.take_nil]
    rfl
  refine ⟨healthy, ?_, ?_⟩
  · change (runtime.leaf.onTick (runtime.unmarked.afterHealth now).controller).1.controller = _
    rw [healthy]
    have clock : (0 : ℚ) ≤ now.sec.toNat + now.nsec.toNat / 1000000000 := by positivity
    exact runtime.unmarked.onTick_ahead rfl clock rfl notCustom1 clocked.leaf
      (rests.settled.congr same) noPose rfl waits leaf timeout
  · rw [ticked_health, begun]
    exact congrArg id monitored.2

omit [Libm] in
/-- What a turn emitted is what its debug monitor leaves. -/
theorem afterTick_flightEffects (start : Nat) (ticked : FlightRuntime) :
    (afterTick start ticked).controller.flightEffects =
      (DebugMonitorState.onTick ⟨(applyChoice ticked.choose ticked).controller,
        (applyChoice ticked.choose ticked).debug⟩).controller.flightEffects := by
  unfold afterTick
  generalize applyChoice ticked.choose ticked = applied
  rfl

/-- Before the deadline of a machine at rest, outside Custom1, a turn that brings nothing emits
nothing, stays in its leaf and asks for no other turn. -/
theorem silent_turn (rests : runtime.AtRest) (clocked : runtime.Clocked)
    (length : runtime.controller.config.safety.stateEstimateUnusableTripDelay.isFinite = true)
    (notCustom1 : runtime.flightState ≠ .custom1)
    (wake : runtime.unmarked.nextWake = .ok deadline)
    (ahead : Deadline.Ahead now.toSec deadline) :
    (runtime.turn (continuationTurn runtime.controller.sensorData now)).2 = .ok false ∧
      (runtime.turn (continuationTurn runtime.controller.sensorData now)).1.flightState =
        runtime.flightState ∧
      (runtime.turn (continuationTurn runtime.controller.sensorData now)).1.controller.flightEffects
        = [] := by
  let sensor := runtime.controller.sensorData
  obtain ⟨healthy, ticked, distance⟩ :=
    ticked_silent rests clocked length notCustom1 wake ahead
  obtain ⟨-, debug, -, timeout⟩ := ahead_of_nextWake runtime.unmarked
    ⟨clocked.leaf, clocked.health, clocked.debug⟩ rests.running length notCustom1 wake ahead
  have state : (runtime.unmarked.ticked now).flightState = runtime.flightState :=
    runtime.unmarked.ticked_flightState now
  have commands : (runtime.unmarked.ticked now).commands = [] := by
    rw [ticked_commands]
    exact congrArg (List.take 64) rests.commands
  have stays : (runtime.unmarked.ticked now).choose = none := by
    obtain ⟨earlier, stayed, there, near, circumstances⟩ := rests.stays
    have same : (runtime.silenced now).circumstances = earlier.controller.circumstances :=
      circumstances.symm
    refine choose_of_stays stayed (state.trans there.symm) commands (by rw [ticked]; rfl)
      (distance.trans near.symm) ?_ ?_ ?_ ?_ ?_
    · rw [ticked]
      exact read_of_circumstances (fun controller => SensorChecks.areSensorsReady
        controller.sensorData controller.backend) (fun _ => rfl) same
    · rw [ticked]
      exact read_of_circumstances isAirborne (fun _ => rfl) same
    · rw [ticked]
      exact read_of_circumstances (fun controller => SensorChecks.isFcuArmed
        controller.sensorData) (fun _ => rfl) same
    · intro latches
      rw [state] at latches
      rw [ticked]
      have ready : (runtime.silenced now).custom1ReferenceReady =
          runtime.controller.custom1ReferenceReady := custom1ReferenceReady_congr rfl rfl
      rw [ready]
      exact rests.request latches
    · intro requesting
      rw [state] at requesting
      unfold elapsedOverTen
      rw [ticked]
      have clock : (0 : ℚ) ≤ now.sec.toNat + now.nsec.toNat / 1000000000 := by positivity
      have inTime : (runtime.silenced now).flightElapsed ≤ 10 :=
        inTime_of_timeoutWake requesting rfl clock rfl timeout
      exact decide_eq_false (Double.not_lt_of_le inTime)
  obtain ⟨again, completed⟩ : ∃ again,
      (runtime.turn (continuationTurn sensor now)).2 = .ok again :=
    runtime.unmarked.update_ok now notCustom1
  have after : (runtime.turn (continuationTurn sensor now)).1 = afterTick
      (runtime.unmarked.afterHealth now).controller.signals.length
      (runtime.unmarked.ticked now) := afterTick_of_update completed
  have deferred : (runtime.turn (continuationTurn sensor now)).1.deferredSignals = [] :=
    deferred_of_quiet completed (by
      change (runtime.unmarked.ticked now).controller.signals =
        (runtime.unmarked.afterHealth now).controller.signals
      rw [ticked, healthy])
  have applied : applyChoice (runtime.unmarked.ticked now).choose (runtime.unmarked.ticked now) =
      runtime.unmarked.ticked now := by
    rw [stays]
    change (runtime.unmarked.ticked now).commands.foldl dispatchCommand _ = _
    rw [commands]
    rfl
  refine ⟨?_, ?_, ?_⟩
  · have quiet := again_of_update now completed
    have waiting : (runtime.prepare (continuationTurn sensor now)).pendingCommands = [] :=
      rests.commands
    change again = ((runtime.unmarked.ticked now).choose.isSome || _ ||
      !(runtime.turn (continuationTurn sensor now)).1.deferredSignals.isEmpty) at quiet
    rw [stays, waiting, deferred] at quiet
    rw [completed, quiet]
    rfl
  · rw [after, afterTick_flightState, stays]
    exact state
  · rw [after, afterTick_flightEffects, applied, ticked]
    have later : (DebugMonitorState.nextWake ⟨runtime.silenced now, runtime.debug⟩).Later
        (.fin (now.sec.toNat + now.nsec.toNat / 1000000000)) := by
      rw [DebugMonitorState.nextWake_of_running rests.running _ runtime.unmarked.controller]
      exact debug
    have published : DebugMonitorState.onTick ⟨runtime.silenced now, runtime.debug⟩ =
        ⟨runtime.silenced now, runtime.debug⟩ :=
      DebugMonitorState.onTick_ahead rfl clocked.debug rests.running rfl later
    exact congrArg (fun scope => scope.controller.flightEffects) published

end Silent

section Runs

variable {event : FlightEvent} {older : List FlightEvent} {now : Time}
variable {deadline : Option Deadline}

/-- In every run, after a turn that asked for no other one and left the machine outside Custom1,
a turn that brings nothing before the deadline of the machine emits nothing, stays in its leaf
and asks for no other turn: the deadline is not too late. -/
theorem nothing_missed_before_deadline
    (run : flightMachine.Run Started anyEnvironment (event :: older) runtime)
    (quiet : event.output = .ok false) (notCustom1 : runtime.flightState ≠ .custom1)
    (length : runtime.controller.config.safety.stateEstimateUnusableTripDelay.isFinite = true)
    (wake : runtime.unmarked.nextWake = .ok deadline)
    (ahead : Deadline.Ahead now.toSec deadline) :
    let silent := flightMachine.event runtime
      (continuationTurn runtime.controller.sensorData now)
    silent.output = .ok false ∧ silent.after.flightState = runtime.flightState ∧
      silent.after.controller.flightEffects = [] := by
  intro silent
  have clocked : runtime.Clocked := clocked_of_run run
  have rests : runtime.AtRest := by
    cases run with
    | step turn _ _ => exact atRest_of_turn quiet
  exact silent_turn rests clocked length notCustom1 wake ahead

end Runs

end FlightRuntime

section Hovering

open ExactMath

/-- The flight into Hover, and the turn that it asked for. -/
def hoveringTurns : List Turn := hoverTurns ++ [continuationTurn armedSensor ⟨6, 0⟩]

def restingInHover : List FlightEvent × FlightRuntime :=
  flightMachine.replay [] (FlightRuntime.initial.setConfig { skipTakeoffInitDisarm := true })
    hoveringTurns

/-- In Hover the next setpoint is due a thirtieth of a second later. -/
theorem nothing_missed_before_deadline_hovering :
    restingInHover.2.unmarked.nextWake = .ok (some ⟨.fin (181 / 30), false⟩) ∧
      (flightMachine.event restingInHover.2 (continuationTurn restingInHover.2.controller.sensorData
        ⟨6, 10000000⟩)).after.flightState = .hover := by
  have start : flightMachine.Run FlightRuntime.Started anyEnvironment []
      (FlightRuntime.initial.setConfig { skipTakeoffInitDisarm := true }) := .start ⟨_, rfl⟩
  have run : flightMachine.Run FlightRuntime.Started anyEnvironment restingInHover.1
      restingInHover.2 :=
    start.replay hoveringTurns (Machine.admits_of_forall _ (fun _ _ _ => trivial) _ _ _)
  have wake : restingInHover.2.unmarked.nextWake = .ok (some ⟨.fin (181 / 30), false⟩) := by
    decide +kernel
  have inHover : restingInHover.2.flightState = .hover := by decide +kernel
  have quiet : restingInHover.1.head?.map (·.output) = some (.ok false) := by decide +kernel
  refine ⟨wake, ?_⟩
  cases past : restingInHover.1 with
  | nil =>
      rw [past] at quiet
      cases quiet
  | cons event older =>
      rw [past] at run quiet
      have silent := FlightRuntime.nothing_missed_before_deadline run (Option.some.inj quiet)
        (by rw [inHover]; decide) (by decide +kernel) wake
        (show Deadline.Ahead (Time.toSec ⟨6, 10000000⟩) _ by decide +kernel)
      exact silent.2.1.trans inHover

end Hovering

end MultirotorController
