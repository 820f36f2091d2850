import MultirotorController.Driver.SensorStatistics
import MultirotorController.Uav.CommandQueue
import MultirotorController.Uav.SignalTraces

/-!
# Self-continuation ends

After an update that asks for another one the owner wakes itself, with the same
clock and snapshot and with the flags of new messages cleared. Without commands
the leaves only descend: a rank of the leaf and of the latched request falls
with every transition. Landing is the exception, and it needs a touchdown, which
is not posted without a new flight-controller state.
-/

namespace MultirotorController

variable [Xgc2Math]

/-- The place of a leaf on the way down, when no command arrives; `ready` says whether the
sensors are. -/
def FlightState.rank (ready requested : Bool) : FlightState → Nat
  | .takeoffInit => 10
  | .takeoffOffboardRequest => 9
  | .takeoffArmRequest => 8
  | .takeoffAscending => 7
  | .custom1 => if requested then 6 else 4
  | .hover => if requested then 5 else 3
  | .selfCheck => if ready then 2 else 1
  | .ready => if ready then 1 else 2
  | .landing => 0

omit [Xgc2Math] in
theorem FlightState.rank_le (ready requested : Bool) (state : FlightState) :
    state.rank ready requested ≤ 10 := by
  cases ready <;> cases requested <;> cases state <;> decide

omit [Xgc2Math] in
theorem FlightState.rank_pos (ready requested : Bool) {state : FlightState}
    (onwards : state ≠ .landing) : 0 < state.rank ready requested := by
  cases ready <;> cases requested <;> cases state <;>
    first | exact (onwards rfl).elim | decide

omit [Xgc2Math] in
theorem FlightState.rank_selfCheck_le (ready requested : Bool) :
    FlightState.selfCheck.rank ready requested ≤ 2 := by
  cases ready <;> cases requested <;> decide

namespace FlightRuntime

def sensorsReady (runtime : FlightRuntime) (sensor : SensorData) : Bool :=
  SensorChecks.areSensorsReady sensor runtime.controller.backend

/-- The rank of the leaf, and the detour that a waiting touchdown allows. -/
def descent (sensor : SensorData) (runtime : FlightRuntime) : Nat :=
  runtime.flightState.rank (runtime.sensorsReady sensor) runtime.controller.custom1Requested +
    if runtime.pending.contains .touchdown then 3 else 0

/-- Full batches may start the descent again. -/
def continuations (sensor : SensorData) (runtime : FlightRuntime) : Nat :=
  14 * ((runtime.pendingCommands.length + 63) / 64) + runtime.descent sensor

section Choice

variable {runtime : FlightRuntime}

theorem hasCommand_of_idle (idle : runtime.commands = []) (command : FlightCommand) :
    runtime.hasCommand command = false := by
  rw [hasCommand, idle]
  rfl

/-- Landing ends with its touchdown. -/
theorem target_of_landing {choice : Choice} (chosen : runtime.choose = some choice)
    (landing : runtime.flightState = .landing) :
    choice.target = .selfCheck ∧ .touchdown ∈ runtime.controller.signals := by
  unfold choose chooseLanding at chosen
  simp only [landing] at chosen
  split at chosen <;> cases chosen
  next touchdown => exact ⟨rfl, List.contains_iff_mem.mp touchdown⟩

/-- Without commands a transition descends; only Landing starts again. -/
theorem rank_of_choose {choice : Choice} (chosen : runtime.choose = some choice)
    (idle : runtime.commands = []) (onwards : runtime.flightState ≠ .landing) :
    let ready := runtime.sensorsReady runtime.controller.sensorData
    let requested := runtime.controller.custom1Requested
    choice.target.rank ready (requested && choice.target ≠ .custom1 && choice.target ≠ .landing) <
      runtime.flightState.rank ready requested := by
  have none_ := hasCommand_of_idle idle
  unfold choose at chosen
  cases source : runtime.flightState <;> simp only [source] at chosen onwards ⊢
  case landing => exact (onwards rfl).elim
  case selfCheck =>
    unfold chooseSelfCheck at chosen
    split at chosen <;> cases chosen
    next ready =>
      have ready : runtime.sensorsReady runtime.controller.sensorData = true := ready
      simp [FlightState.rank, ready]
  case ready =>
    dsimp only [chooseReady] at chosen
    split at chosen
    next earlier =>
      cases chosen
      rw [runtime.normalPreemption_target earlier]
      exact FlightState.rank_pos _ _ onwards
    next =>
      rw [none_, Bool.false_and, Bool.false_and, if_neg Bool.false_ne_true] at chosen
      split at chosen
      · cases chosen
        exact FlightState.rank_pos _ _ onwards
      · split at chosen <;> cases chosen
        next unready =>
          have unready : runtime.sensorsReady runtime.controller.sensorData = false := by
            unfold sensorsReady
            simpa only [Bool.not_eq_true'] using unready
          simp [FlightState.rank, unready]
  all_goals
    simp only [chooseTakeoffInit, chooseTakeoffOffboardRequest, chooseModeRequest,
      chooseTakeoffArmRequest, chooseTakeoffAscending, chooseHover, chooseCustom1, none_,
      Bool.false_and, Bool.false_eq_true, if_false] at chosen
    split at chosen
    next earlier =>
      cases chosen
      rw [runtime.takeoffPreemption_target earlier]
      exact FlightState.rank_pos _ _ onwards
    next =>
      cases requested : runtime.controller.custom1Requested
      all_goals
        cases runtime.sensorsReady runtime.controller.sensorData
        all_goals
          repeat' split at chosen
          all_goals cases chosen
          all_goals simp_all [FlightState.rank, onSignal]

end Choice

end FlightRuntime

omit [Xgc2Math] in
/-- Without a new flight-controller state a landing posts nothing. -/
theorem LandingState.onTick_signals_of_stale (scope : Scope LandingState)
    (stale : scope.controller.sensorData.stateStats.isNew = false) :
    (onTick scope).controller.signals = scope.controller.signals := by
  have descent := descend_plain scope
  have quiet : (descend scope).controller.signals = scope.controller.signals := by
    obtain ⟨new, appended, none_⟩ := descent.signals
    rw [appended, List.eq_nil_iff_forall_not_mem.mpr none_, List.append_nil]
  have posts : ∀ scope : Scope LandingState,
      scope.controller.sensorData.stateStats.isNew = false →
      (postTouchdownOnce scope).controller.signals = scope.controller.signals := by
    intro scope stale
    dsimp only [postTouchdownOnce]
    rw [stale]
    repeat' split
    all_goals first | rfl | contradiction
  refine (posts _ ?_).trans ?_
  · rw [updateTouchdownConfirmation_controller, descent.sensorData]
    exact stale
  · rw [updateTouchdownConfirmation_controller]
    exact quiet

section Turn

variable [Libm] (runtime : FlightRuntime) (sensor : SensorData) (now : Time)

/-- The turn that an owner takes when it wakes itself. -/
def continuationTurn : Turn := { sensor := sensor.resetNewFlags, now }

namespace FlightRuntime

/-- A landing that wakes itself posts nothing. -/
theorem landing_quiet_of_continuation (landing : runtime.flightState = .landing) :
    ((runtime.prepare (continuationTurn sensor now)).ticked now).controller.signals =
      ((runtime.prepare (continuationTurn sensor now)).afterHealth now).controller.signals := by
  obtain ⟨leaf, same⟩ := landing_of_flightState landing
  have prepared : (runtime.prepare (continuationTurn sensor now)).leaf = .landing leaf := same
  have snapshot := ((runtime.prepare (continuationTurn sensor now)).afterHealth_step now).sensorData
  change _ = sensor.resetNewFlags at snapshot
  rw [ticked_controller_landing prepared, LandingState.onTick_signals_of_stale]
  rw [snapshot]
  rfl

/-- A touchdown that is pending after the tick was pending before the turn. -/
theorem touchdown_of_continuation
    (posted : .touchdown ∈ ((runtime.prepare (continuationTurn sensor now)).ticked
      now).controller.signals) : .touchdown ∈ runtime.pending := by
  have health := (runtime.prepare (continuationTurn sensor now)).afterHealth_step now
  have before : .touchdown ∈
      ((runtime.prepare (continuationTurn sensor now)).afterHealth now).controller.signals := by
    by_cases landing : runtime.flightState = .landing
    · rw [runtime.landing_quiet_of_continuation sensor now landing] at posted
      exact posted
    · rcases (controlTick_emits ((runtime.prepare (continuationTurn sensor now)).afterHealth
        now)).signal_of_mem posted with old | own
      · exact old
      · have state : ((runtime.prepare (continuationTurn sensor now)).afterHealth now).flightState =
            runtime.flightState := prepare_flightState
        rw [state] at own
        have touches : FlightState.landing.tickSignals .touchdown := rfl
        exact (landing (FlightState.eq_of_tickSignals own touches)).elim
  rcases health.toEmits.signal_of_mem before with old | safety
  · exact old
  · cases safety

variable {runtime} in
/-- When a returning update asks for another one. -/
theorem again_of_update {again : Bool} (completed : (runtime.update now).2 = .ok again) :
    again = ((runtime.ticked now).choose.isSome || !(runtime.pendingCommands.drop 64).isEmpty ||
      !(runtime.update now).1.deferredSignals.isEmpty) := by
  have after := afterTick_of_update completed
  rw [after]
  unfold update at completed
  unfold ticked
  cases outcome : (runtime.afterHealth now).controlTick.2 with
  | error error =>
      simp only [outcome] at completed
      cases completed
  | ok value =>
      simp only [outcome] at completed
      exact (Except.ok.inj completed).symm

variable {runtime} in
/-- A turn whose tick posts nothing defers nothing. -/
theorem deferred_of_quiet {turn : Turn} {again : Bool}
    (completed : (runtime.turn turn).2 = .ok again)
    (quiet : ((runtime.prepare turn).ticked turn.now).controller.signals =
      ((runtime.prepare turn).afterHealth turn.now).controller.signals) :
    (runtime.turn turn).1.deferredSignals = [] := by
  have after := afterTick_of_update completed
  change (runtime.turn turn).1 = _ at after
  rw [after, afterTick_deferredSignals, quiet, List.drop_length]
  rfl

section Descent

variable {runtime sensor now} {again : Bool}

/-- After a returning update no touchdown waits. -/
theorem not_touchdown_of_continuation
    (completed : (runtime.turn (continuationTurn sensor now)).2 = .ok again) :
    .touchdown ∉ (runtime.turn (continuationTurn sensor now)).1.pending := by
  intro waits
  have emptied : (runtime.turn (continuationTurn sensor now)).1.controller.signals = [] :=
    signals_of_update completed
  rw [pending, emptied, List.nil_append] at waits
  obtain ⟨-, own⟩ := deferred_posted completed waits
  have touches : FlightState.landing.tickSignals .touchdown := rfl
  have landing := FlightState.eq_of_tickSignals own touches
  have quiet := runtime.landing_quiet_of_continuation sensor now landing
  rw [deferred_of_quiet completed quiet] at waits
  cases waits

variable (runtime sensor now) in
/-- The circumstances of the tick of a continuation. -/
theorem ticked_continuation (idle : runtime.pendingCommands = []) :
    let ticked := (runtime.prepare (continuationTurn sensor now)).ticked now
    ticked.flightState = runtime.flightState ∧ ticked.commands = [] ∧
      ticked.controller.sensorData = sensor.resetNewFlags ∧
      ticked.controller.custom1Requested = runtime.controller.custom1Requested ∧
      ticked.controller.config = runtime.controller.config := by
  intro ticked
  have emits := (runtime.prepare (continuationTurn sensor now)).ticked_emits now
  refine ⟨(ticked_flightState _ _).trans prepare_flightState, ?_, emits.sensorData,
    (ticked_custom1Requested _ _).trans (runtime.prepare_custom1Requested _), emits.config⟩
  rw [ticked_commands]
  change runtime.pendingCommands.take 64 = []
  rw [idle, List.take_nil]

omit [Libm] in
theorem descent_le (sensor : SensorData) (runtime : FlightRuntime) :
    runtime.descent sensor ≤ 13 := by
  have bound := runtime.flightState.rank_le (runtime.sensorsReady sensor)
    runtime.controller.custom1Requested
  unfold descent
  split <;> omega

/-- A turn with an empty queue that stays in its leaf asks for no other. -/
theorem stays_of_continuation (idle : runtime.pendingCommands = [])
    (stays : (runtime.turn (continuationTurn sensor now)).1.flightState = runtime.flightState) :
    (runtime.turn (continuationTurn sensor now)).2 ≠ .ok true := by
  intro completed
  obtain ⟨state, -, -, -, -⟩ := runtime.ticked_continuation sensor now idle
  have staying : ((runtime.prepare (continuationTurn sensor now)).ticked now).choose = none := by
    have ended := flightState_of_update completed
    cases chosen : ((runtime.prepare (continuationTurn sensor now)).ticked now).choose with
    | none => rfl
    | some choice =>
        change (runtime.turn (continuationTurn sensor now)).1.flightState =
          (((runtime.prepare (continuationTurn sensor now)).ticked now).choose.map
            (·.target)).getD _ at ended
        rw [chosen, stays] at ended
        exact (choose_target_ne chosen (ended.symm.trans state.symm)).elim
  have again := again_of_update _ completed
  change true = (((runtime.prepare (continuationTurn sensor now)).ticked now).choose.isSome ||
    !(runtime.pendingCommands.drop 64).isEmpty || _) at again
  rw [staying, idle, List.drop_nil] at again
  have deferred : (runtime.turn (continuationTurn sensor now)).1.deferredSignals ≠ [] := by
    intro none_
    rw [show ((runtime.prepare (continuationTurn sensor now)).update
      (continuationTurn sensor now).now).1.deferredSignals = [] from none_] at again
    cases again
  obtain ⟨signal, waits⟩ := List.exists_mem_of_ne_nil _ deferred
  obtain ⟨present, own⟩ := deferred_posted completed waits
  exact not_tickSignals_of_choose_none staying present (state.symm ▸ own)

/-- No turn makes a touchdown wait. -/
theorem touchdown_waits_of_continuation
    (waits : .touchdown ∈ (runtime.turn (continuationTurn sensor now)).1.pending) :
    .touchdown ∈ runtime.pending :=
  runtime.touchdown_of_continuation sensor now (mem_ticked_of_mem_pending _ _ waits)

variable (sensor now) in
/-- With an empty queue a turn that asks for another one has descended, and no turn rises. -/
theorem descent_turn (idle : runtime.pendingCommands = []) :
    (runtime.turn (continuationTurn sensor now)).1.descent sensor.resetNewFlags +
        (if (runtime.turn (continuationTurn sensor now)).2 = .ok true then 1 else 0) ≤
      runtime.descent sensor.resetNewFlags := by
  obtain ⟨state, commands, snapshot, request, config⟩ := runtime.ticked_continuation sensor now idle
  have backend : ((runtime.prepare (continuationTurn sensor now)).ticked now).controller.backend =
      runtime.controller.backend := congrArg ControllerConfig.trackingBackend config
  have ready : (runtime.turn (continuationTurn sensor now)).1.sensorsReady sensor.resetNewFlags =
      runtime.sensorsReady sensor.resetNewFlags := by
    have kept := ((runtime.prepare (continuationTurn sensor now)).update_circumstances now).1
    exact congrArg (SensorChecks.areSensorsReady _) (congrArg ControllerConfig.trackingBackend kept)
  have detour : (if (runtime.turn (continuationTurn sensor now)).1.pending.contains .touchdown
      then 3 else 0) ≤ (if runtime.pending.contains .touchdown then 3 else 0) := by
    split
    next waits =>
      have before := touchdown_waits_of_continuation (List.contains_iff_mem.mp waits)
      rw [if_pos (List.contains_iff_mem.mpr before)]
    next => exact Nat.zero_le _
  obtain ⟨choice, turned⟩ := runtime.turn_latchedTurn (continuationTurn sensor now)
  cases turned with
  | thrown tracking stays latch =>
      rw [if_neg (stays_of_continuation idle (stays.trans tracking.symm))]
      unfold descent
      rw [ready, latch, stays, tracking]
      omega
  | stayed staying stays latch =>
      have batch : runtime.batch (continuationTurn sensor now) = [] := by
        change runtime.pendingCommands.take 64 = []
        rw [idle, List.take_nil]
      rw [batch, List.contains_nil, Bool.and_false, Bool.or_false] at latch
      rw [if_neg (stays_of_continuation idle stays)]
      unfold descent
      rw [ready, latch, stays]
      omega
  | @moved choice chosen moves latch =>
      change ((runtime.prepare (continuationTurn sensor now)).ticked now).choose = _ at chosen
      have once :
          (if (runtime.turn (continuationTurn sensor now)).2 = .ok true then 1 else 0) ≤ 1 := by
        split <;> omega
      unfold descent
      rw [ready, latch, moves]
      by_cases landing : runtime.flightState = .landing
      · obtain ⟨again, completed⟩ :=
          (runtime.prepare (continuationTurn sensor now)).update_ok now (by
          rw [prepare_flightState, landing]
          exact nofun)
        obtain ⟨target, posted⟩ := target_of_landing chosen (state.trans landing)
        have before := runtime.touchdown_of_continuation sensor now posted
        have after := not_touchdown_of_continuation completed
        rw [if_neg (fun waits => after (List.contains_iff_mem.mp waits)),
          if_pos (List.contains_iff_mem.mpr before), landing, target]
        have low := FlightState.rank_selfCheck_le (runtime.sensorsReady sensor.resetNewFlags)
          (runtime.controller.custom1Requested && FlightState.selfCheck ≠ .custom1 &&
            FlightState.selfCheck ≠ .landing)
        omega
      · have falls := rank_of_choose chosen commands (state.symm ▸ landing)
        dsimp only at falls
        rw [snapshot, state, request] at falls
        have same : ((runtime.prepare (continuationTurn sensor now)).ticked now).sensorsReady
            sensor.resetNewFlags = runtime.sensorsReady sensor.resetNewFlags :=
          congrArg (SensorChecks.areSensorsReady _) backend
        rw [same] at falls
        omega

variable (runtime sensor now) in
/-- No turn raises the count of continuations, and one that asks for another lowers it. -/
theorem continuations_turn :
    (runtime.turn (continuationTurn sensor now)).1.continuations sensor.resetNewFlags +
        (if (runtime.turn (continuationTurn sensor now)).2 = .ok true then 1 else 0) ≤
      runtime.continuations sensor.resetNewFlags := by
  have queue : (runtime.turn (continuationTurn sensor now)).1.pendingCommands =
      runtime.pendingCommands.drop 64 := by
    rw [(runtime.turn_queue _).2]
    exact congrArg (List.drop 64) (List.append_nil _)
  have once : (if (runtime.turn (continuationTurn sensor now)).2 = .ok true then 1 else 0) ≤ 1 := by
    split <;> omega
  unfold continuations
  rw [queue, List.length_drop]
  cases waiting : runtime.pendingCommands with
  | nil =>
      have falls := descent_turn sensor now waiting
      simp only [List.length_nil]
      omega
  | cons command rest =>
      have low := descent_le sensor.resetNewFlags (runtime.turn (continuationTurn sensor now)).1
      simp only [List.length_cons]
      omega

end Descent

end FlightRuntime

/-- The update of the event asked for another one. -/
def continues (event : FlightEvent) : Bool := event.output = .ok true

/-- A full batch may restart the descent, and the last commands may restart it once more. -/
def continuationBound (pendingCommands : Nat) : Nat := 14 * ((pendingCommands + 63) / 64) + 13

/-- An owner that wakes itself, at any clock value and with any snapshot whose flags of new
messages are cleared, is asked to do so at most as often as the bound of the queue says. -/
theorem continuation_terminates (times : Nat) :
    (flightMachine.replay [] runtime
        (List.replicate times (continuationTurn sensor now))).1.countP continues ≤
      continuationBound runtime.pendingCommands.length := by
  refine (flightMachine.countP_replay_le continues
    (FlightRuntime.continuations sensor.resetNewFlags) _ ?_ [] runtime).trans ?_
  · intro turn repeated state
    rw [List.eq_of_mem_replicate repeated]
    have lowered := state.continuations_turn sensor now
    have counted : (continues (flightMachine.event state (continuationTurn sensor now))).toNat =
        if (state.turn (continuationTurn sensor now)).2 = .ok true then 1 else 0 := by
      unfold continues
      change (decide ((state.turn (continuationTurn sensor now)).2 = .ok true)).toNat = _
      split <;> simp_all
    rw [counted]
    exact lowered
  · have low := FlightRuntime.descent_le sensor.resetNewFlags runtime
    unfold continuationBound FlightRuntime.continuations
    rw [List.countP_nil]
    omega

end Turn

end MultirotorController
