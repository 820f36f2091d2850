import MultirotorController.Uav.CommandQueue
import MultirotorController.Uav.OutputSteps
import MultirotorController.Uav.SignalTraces

/-!
# The steps of a takeoff

What an update of the takeoff sequence may do: which transition it makes and on
what grounds, how a confirmation counter follows the flight-controller states,
and that only the entry of TakeoffInit writes the shared setpoint.
-/

namespace MultirotorController

open DroneController

/-- The leaves from TakeoffInit to TakeoffAscending. -/
def FlightState.isTakeoff : FlightState → Bool
  | .takeoffInit | .takeoffOffboardRequest | .takeoffArmRequest | .takeoffAscending => true
  | _ => false

/-- How a counter of flight-controller states that report a mode moves in one update. -/
inductive ModeFrame (mode : String) (sensor : SensorData) (before : Nat) : Nat → Prop
  | old : sensor.stateStats.isNew = false → ModeFrame mode sensor before before
  | agreed {after : Nat} : sensor.stateStats.isNew = true → sensor.fcuMode = mode →
      after ≤ before + 1 → ModeFrame mode sensor before after
  | disagreed : sensor.stateStats.isNew = true → ModeFrame mode sensor before 0

namespace TakeoffInitState

variable (scope : Scope TakeoffInitState)

theorem updateAltctlConfirmation_modeFrame :
    ModeFrame "ALTCTL" scope.controller.sensorData scope.leaf.altctlFrameCount
        (updateAltctlConfirmation scope).leaf.altctlFrameCount ∧
      (updateAltctlConfirmation scope).leaf.altctlReadyEventPosted =
        scope.leaf.altctlReadyEventPosted ∧
      (updateAltctlConfirmation scope).leaf.skipAltctlGate = scope.leaf.skipAltctlGate := by
  dsimp only [updateAltctlConfirmation]
  split
  next old => exact ⟨.old (by simpa using old), rfl, rfl⟩
  next fresh =>
    have fresh : scope.controller.sensorData.stateStats.isNew = true := by simpa using fresh
    split
    next agrees => exact ⟨.agreed fresh agrees (Nat.min_le_left _ _), rfl, rfl⟩
    next => exact ⟨.disagreed fresh, rfl, rfl⟩

/-- The ready signal is posted once the counter is full; the latch tells that it was. -/
theorem postAltctlReadyOnce_spec (waiting : scope.leaf.altctlReadyEventPosted = false) :
    (postAltctlReadyOnce scope).leaf.altctlFrameCount = scope.leaf.altctlFrameCount ∧
      (postAltctlReadyOnce scope).leaf.skipAltctlGate = scope.leaf.skipAltctlGate ∧
      (.altctlReady ∈ (postAltctlReadyOnce scope).controller.signals →
        .altctlReady ∈ scope.controller.signals ∨
          requiredAltctlFrames ≤ scope.leaf.altctlFrameCount) ∧
      ((postAltctlReadyOnce scope).leaf.altctlReadyEventPosted = true →
        .altctlReady ∈ (postAltctlReadyOnce scope).controller.signals) := by
  dsimp only [postAltctlReadyOnce]
  split
  · refine ⟨rfl, rfl, .inl, fun posted => ?_⟩
    rw [waiting] at posted
    cases posted
  next enough =>
    refine ⟨rfl, rfl, fun _ => .inr (Nat.le_of_not_lt fun few => enough (.inr few)), fun _ => ?_⟩
    exact List.mem_append_right _ List.mem_cons_self

/-- What precedes the post in a tick. -/
def confirm : Scope TakeoffInitState :=
  let scope := publishSetpointIfDue scope
  if scope.leaf.skipAltctlGate then scope
  else updateAltctlConfirmation (requestAltctlModeIfDue scope)

theorem confirm_spec :
    (confirm scope).leaf.skipAltctlGate = scope.leaf.skipAltctlGate ∧
      (confirm scope).leaf.altctlReadyEventPosted = scope.leaf.altctlReadyEventPosted ∧
      (scope.leaf.skipAltctlGate = false →
        ModeFrame "ALTCTL" scope.controller.sensorData scope.leaf.altctlFrameCount
          (confirm scope).leaf.altctlFrameCount) ∧
      Emits (fun effect => effect.isSetpoint ∨ effect.isModeRequest) (fun _ => False)
        scope.controller (confirm scope).controller := by
  let published := publishSetpointIfDue scope
  have publishes : Emits (fun effect => effect.isSetpoint ∨ effect.isModeRequest) (fun _ => False)
      scope.controller published.controller :=
    (PlainStep.publishSetpointIfDue _ _ fun _ published => .inl published).toEmits
  have same : confirm scope = if scope.leaf.skipAltctlGate then published
      else updateAltctlConfirmation (requestAltctlModeIfDue published) := rfl
  rw [same]
  cases skip : scope.leaf.skipAltctlGate with
  | true =>
      rw [if_pos rfl]
      exact ⟨skip, rfl, nofun, publishes⟩
  | false =>
      rw [if_neg Bool.false_ne_true]
      let requested := requestAltctlModeIfDue published
      have requests : Emits (fun effect => effect.isSetpoint ∨ effect.isModeRequest)
          (fun _ => False) published.controller requested.controller :=
        (PlainStep.requestIfDue _ _ _ (.inr rfl)).toEmits
      obtain ⟨frame, posted, gate⟩ := updateAltctlConfirmation_modeFrame requested
      refine ⟨gate.trans skip, posted, fun _ => ?_, ?_⟩
      · rw [(publishes.trans requests).sensorData] at frame
        exact frame
      · rw [updateAltctlConfirmation_controller]
        exact publishes.trans requests

/-- A tick of TakeoffInit that has not posted yet. -/
theorem onTick_spec (waiting : scope.leaf.altctlReadyEventPosted = false) :
    (onTick scope).leaf.skipAltctlGate = scope.leaf.skipAltctlGate ∧
      (scope.leaf.skipAltctlGate = false →
        ModeFrame "ALTCTL" scope.controller.sensorData scope.leaf.altctlFrameCount
          (onTick scope).leaf.altctlFrameCount) ∧
      (.altctlReady ∈ (onTick scope).controller.signals → .altctlReady ∈ scope.controller.signals ∨
        requiredAltctlFrames ≤ (onTick scope).leaf.altctlFrameCount) ∧
      ((onTick scope).leaf.altctlReadyEventPosted = true →
        .altctlReady ∈ (onTick scope).controller.signals) := by
  obtain ⟨gate, posted, frame, emits⟩ := confirm_spec scope
  obtain ⟨count, gate', signals, latch⟩ :=
    postAltctlReadyOnce_spec (confirm scope) (posted.trans waiting)
  have same : onTick scope = postAltctlReadyOnce (confirm scope) := rfl
  rw [same, count]
  refine ⟨gate'.trans gate, frame, fun present => ?_, latch⟩
  rcases signals present with earlier | enough
  · exact .inl ((emits.signal_of_mem earlier).resolve_right not_false)
  · exact .inr enough

end TakeoffInitState

namespace TakeoffOffboardRequestState

variable (scope : Scope TakeoffOffboardRequestState)

theorem updateOffboardConfirmation_modeFrame :
    ModeFrame "OFFBOARD" scope.controller.sensorData scope.leaf.confirmedOffboardFrames
        (updateOffboardConfirmation scope).leaf.confirmedOffboardFrames ∧
      (updateOffboardConfirmation scope).leaf.offboardReadyEventPosted =
        scope.leaf.offboardReadyEventPosted := by
  dsimp only [updateOffboardConfirmation]
  split
  next old => exact ⟨.old (by simpa using old), rfl⟩
  next fresh =>
    have fresh : scope.controller.sensorData.stateStats.isNew = true := by simpa using fresh
    split
    next agrees => exact ⟨.agreed fresh agrees (countFrame_le _ _), rfl⟩
    next => exact ⟨.disagreed fresh, rfl⟩

theorem postOffboardReadyOnce_spec (waiting : scope.leaf.offboardReadyEventPosted = false) :
    (postOffboardReadyOnce scope).leaf.confirmedOffboardFrames =
        scope.leaf.confirmedOffboardFrames ∧
      (.offboardReady ∈ (postOffboardReadyOnce scope).controller.signals →
        .offboardReady ∈ scope.controller.signals ∨
          requiredOffboardFrames ≤ scope.leaf.confirmedOffboardFrames) ∧
      ((postOffboardReadyOnce scope).leaf.offboardReadyEventPosted = true →
        .offboardReady ∈ (postOffboardReadyOnce scope).controller.signals) := by
  dsimp only [postOffboardReadyOnce]
  split
  · refine ⟨rfl, .inl, fun posted => ?_⟩
    rw [waiting] at posted
    cases posted
  next enough =>
    refine ⟨rfl, fun _ => .inr (Nat.le_of_not_lt fun few => enough (.inr few)), fun _ => ?_⟩
    exact List.mem_append_right _ List.mem_cons_self

/-- A tick of TakeoffOffboardRequest that has not posted yet. -/
theorem onTick_spec (waiting : scope.leaf.offboardReadyEventPosted = false) :
    ModeFrame "OFFBOARD" scope.controller.sensorData scope.leaf.confirmedOffboardFrames
        (onTick scope).leaf.confirmedOffboardFrames ∧
      (.offboardReady ∈ (onTick scope).controller.signals →
        .offboardReady ∈ scope.controller.signals ∨
          requiredOffboardFrames ≤ (onTick scope).leaf.confirmedOffboardFrames) ∧
      ((onTick scope).leaf.offboardReadyEventPosted = true →
        .offboardReady ∈ (onTick scope).controller.signals) := by
  let requested := requestOffboardModeIfDue (publishSetpointIfDue scope)
  have requests : Emits (fun effect => effect.isSetpoint ∨ effect.isModeRequest) (fun _ => False)
      scope.controller requested.controller :=
    .via (publishSetpointIfDue scope).controller
      (PlainStep.publishSetpointIfDue _ _ fun _ published => .inl published).toEmits
      (PlainStep.requestIfDue _ _ _ (.inr rfl)).toEmits
  obtain ⟨frame, posted⟩ := updateOffboardConfirmation_modeFrame requested
  rw [requests.sensorData] at frame
  obtain ⟨count, signals, latch⟩ :=
    postOffboardReadyOnce_spec (updateOffboardConfirmation requested) (posted.trans waiting)
  have same : onTick scope = postOffboardReadyOnce (updateOffboardConfirmation requested) := rfl
  rw [same, count]
  refine ⟨frame, fun present => ?_, latch⟩
  rcases signals present with earlier | enough
  · rw [updateOffboardConfirmation_controller] at earlier
    exact .inl ((requests.signal_of_mem earlier).resolve_right not_false)
  · exact .inr enough

end TakeoffOffboardRequestState

namespace FlightRuntime

variable [Xgc2Math]

/-- The transitions into the takeoff sequence and within it, with their grounds. -/
inductive TakeoffMove (runtime : FlightRuntime) : FlightState → FlightState → Prop
  | begun : runtime.hasCommand .takeoff → runtime.health.positionDistance.available = true →
      runtime.health.positionDistance.exceeded = false → runtime.controller.isAirborne = false →
      TakeoffMove runtime .ready .takeoffInit
  | altctl : .altctlReady ∈ runtime.controller.signals →
      SensorChecks.isFcuArmed runtime.controller.sensorData = false →
      TakeoffMove runtime .takeoffInit .takeoffOffboardRequest
  | offboard : .offboardReady ∈ runtime.controller.signals →
      SensorChecks.isFcuArmed runtime.controller.sensorData = false →
      TakeoffMove runtime .takeoffOffboardRequest .takeoffArmRequest
  | armed : .armReady ∈ runtime.controller.signals →
      TakeoffMove runtime .takeoffArmRequest .takeoffAscending
  | away {source target : FlightState} : target.isTakeoff = false →
      TakeoffMove runtime source target

section Choice

variable {runtime : FlightRuntime}

private theorem takeoffMove_of_modeRequest {confirmed : FlightSignal} {source next : FlightState}
    {choice : Choice} (chosen : runtime.chooseModeRequest confirmed next = some choice)
    (onwards : confirmed ∈ runtime.controller.signals →
      SensorChecks.isFcuArmed runtime.controller.sensorData = false →
      runtime.TakeoffMove source next) :
    runtime.TakeoffMove source choice.target := by
  dsimp only [chooseModeRequest] at chosen
  split at chosen
  next earlier =>
    cases chosen
    rw [runtime.takeoffPreemption_target earlier]
    exact .away rfl
  next =>
    split at chosen
    · cases chosen
      exact .away rfl
    next disarmed =>
      split at chosen
      next confirms =>
        cases chosen
        exact onwards (List.contains_iff_mem.mp confirms) (by simpa using disarmed)
      · split at chosen <;> cases chosen
        exact .away rfl

theorem choose_takeoffMove {choice : Choice} (chosen : runtime.choose = some choice) :
    runtime.TakeoffMove runtime.flightState choice.target := by
  have step := runtime.choose_transition chosen
  unfold choose at chosen
  cases source : runtime.flightState <;> simp only [source] at chosen step ⊢
  case takeoffInit => exact takeoffMove_of_modeRequest chosen .altctl
  case takeoffOffboardRequest => exact takeoffMove_of_modeRequest chosen .offboard
  case ready =>
    generalize choice.target = target at step ⊢
    cases step with
    | takenOff _ _ command available near grounded => exact .begun command available near grounded
    | preempted => exact .away rfl
    | unready => exact .away rfl
    | disarmed _ _ requesting => rcases requesting with same | same <;> cases same
    | advanced _ _ flying => cases flying
  case takeoffArmRequest =>
    simp only [chooseTakeoffArmRequest] at chosen
    split at chosen
    next earlier =>
      cases chosen
      rw [runtime.takeoffPreemption_target earlier]
      exact .away rfl
    next =>
      split at chosen
      next confirms =>
        cases chosen
        exact .armed (List.contains_iff_mem.mp confirms)
      · split at chosen <;> cases chosen
        exact .away rfl
  case selfCheck =>
    unfold chooseSelfCheck at chosen
    split at chosen <;> cases chosen
    exact .away rfl
  case landing =>
    unfold chooseLanding at chosen
    split at chosen <;> cases chosen
    exact .away rfl
  all_goals
    simp only [chooseTakeoffAscending, chooseHover, chooseCustom1] at chosen
    split at chosen
    next earlier =>
      cases chosen
      rw [runtime.takeoffPreemption_target earlier]
      exact .away rfl
    next =>
      repeat' split at chosen
      all_goals cases chosen
      all_goals exact .away rfl

end Choice

section Turn

variable [Libm] (runtime : FlightRuntime)

omit [Libm] in
theorem afterTick_setpoint (start : Nat) :
    (afterTick start runtime).controller.setpoint =
      (runtime.applyChoice runtime.choose).controller.setpoint :=
  (debugTurn_onlyEmits (deferSignals start (runtime.applyChoice runtime.choose))).setpoint

omit [Libm] in
/-- A command that causes no transition changes neither a leaf of the takeoff nor the
setpoint. -/
theorem foldl_dispatchCommand_takeoff (takeoff : runtime.flightState.isTakeoff)
    (commands : List FlightCommand) :
    (commands.foldl dispatchCommand runtime).leaf = runtime.leaf ∧
      (commands.foldl dispatchCommand runtime).controller.setpoint =
        runtime.controller.setpoint := by
  induction commands generalizing runtime with
  | nil => exact ⟨rfl, rfl⟩
  | cons command rest ih =>
      have one : (runtime.dispatchCommand command).leaf = runtime.leaf ∧
          (runtime.dispatchCommand command).controller.setpoint = runtime.controller.setpoint := by
        unfold dispatchCommand
        cases leaf : runtime.leaf with
        | takeoffAscending state =>
            dsimp only [FlightLeaf.onCommand, TakeoffAscendingState.onEvent, Scope.map]
            split <;> exact ⟨rfl, rfl⟩
        | hover state =>
            rw [flightState, leaf] at takeoff
            cases takeoff
        | _ => exact ⟨rfl, rfl⟩
      obtain ⟨leaf, setpoint⟩ := ih (runtime.dispatchCommand command) (by
        rw [flightState, one.1]
        exact takeoff)
      exact ⟨leaf.trans one.1, setpoint.trans one.2⟩

variable {runtime}

/-- The setpoint that the tick of a takeoff leaf repeats is the one it finds. -/
theorem ticked_setpoint_takeoff (turn : Turn) (takeoff : runtime.flightState.isTakeoff) :
    ((runtime.prepare turn).ticked turn.now).controller.setpoint =
      runtime.controller.setpoint := by
  have health := (runtime.prepare turn).afterHealth_onlyEmits turn.now
  have leaf : ((runtime.prepare turn).afterHealth turn.now).leaf = runtime.leaf :=
    (runtime.prepare_received turn).leaf
  have ticks : OnlyEmits ((runtime.prepare turn).afterHealth turn.now).controller
      ((runtime.prepare turn).ticked turn.now).controller := by
    unfold ticked controlTick
    rw [leaf]
    cases same : runtime.leaf with
    | takeoffInit state => exact TakeoffInitState.onTick_onlyEmits ⟨_, state⟩
    | takeoffOffboardRequest state =>
        exact TakeoffOffboardRequestState.onTick_onlyEmits ⟨_, state⟩
    | takeoffArmRequest state => exact TakeoffArmRequestState.onTick_onlyEmits ⟨_, state⟩
    | takeoffAscending state => exact TakeoffAscendingState.onTick_onlyEmits ⟨_, state⟩
    | _ =>
        rw [flightState, same] at takeoff
        cases takeoff
  exact (ticks.setpoint.trans health.setpoint).trans (runtime.prepare_received turn).setpoint

omit [Libm] in
/-- Entering a later leaf of the takeoff writes no setpoint. -/
theorem transition_setpoint_takeoff {choice : Choice}
    (onwards : choice.target = .takeoffOffboardRequest ∨ choice.target = .takeoffArmRequest ∨
      choice.target = .takeoffAscending) :
    (runtime.transition choice).controller.setpoint = runtime.controller.setpoint := by
  obtain ⟨target, selectedSignal, selectedCommand⟩ := choice
  have left := runtime.leave_setpoint ⟨target, selectedSignal, selectedCommand⟩
  rcases onwards with same | same | same
  all_goals
    cases same
    exact left

/-- What a turn that ends in a leaf of the takeoff did: it stayed, began the sequence, or
went one leaf on. -/
inductive TakeoffTurn (runtime : FlightRuntime) (turn : Turn) : Prop
  | stayed : ((runtime.prepare turn).ticked turn.now).choose = none →
      (runtime.turn turn).1.flightState = runtime.flightState →
      (runtime.turn turn).1.leaf = ((runtime.prepare turn).ticked turn.now).leaf →
      (runtime.turn turn).1.controller.setpoint = runtime.controller.setpoint →
      TakeoffTurn runtime turn
  | began (entry : DroneController) : runtime.flightState = .ready →
      (runtime.turn turn).1.leaf = .takeoffInit (TakeoffInitState.onEnter ⟨entry, {}⟩).leaf →
      (runtime.turn turn).1.controller.setpoint =
        (TakeoffInitState.onEnter ⟨entry, {}⟩).controller.setpoint →
      entry.config = (runtime.turn turn).1.controller.config →
      entry.sensorData = (runtime.turn turn).1.controller.sensorData →
      ((runtime.prepare turn).ticked turn.now).TakeoffMove .ready .takeoffInit →
      TakeoffTurn runtime turn
  | advanced (entry : DroneController) :
      (runtime.turn turn).1.leaf =
        ((FlightLeaf.fresh (runtime.turn turn).1.flightState).onEnter entry).leaf →
      (runtime.turn turn).1.controller.setpoint = runtime.controller.setpoint →
      runtime.flightState.isTakeoff →
      (runtime.turn turn).1.flightState ≠ .takeoffInit →
      ((runtime.prepare turn).ticked turn.now).TakeoffMove runtime.flightState
        (runtime.turn turn).1.flightState →
      TakeoffTurn runtime turn

theorem takeoffTurn {turn : Turn} {again : Bool} (returned : (runtime.turn turn).2 = .ok again)
    (takeoff : (runtime.turn turn).1.flightState.isTakeoff) : runtime.TakeoffTurn turn := by
  have state : ((runtime.prepare turn).ticked turn.now).flightState = runtime.flightState :=
    (ticked_flightState _ _).trans prepare_flightState
  have after := afterTick_of_update returned
  change (runtime.turn turn).1 = _ at after
  have ended := flightState_of_update returned
  change (runtime.turn turn).1.flightState = _ at ended
  have leaf : (runtime.turn turn).1.leaf = (((runtime.prepare turn).ticked turn.now).applyChoice
      ((runtime.prepare turn).ticked turn.now).choose).leaf :=
    (congrArg FlightRuntime.leaf after).trans (afterTick_leaf _ _)
  have setpoint : (runtime.turn turn).1.controller.setpoint =
      (((runtime.prepare turn).ticked turn.now).applyChoice
        ((runtime.prepare turn).ticked turn.now).choose).controller.setpoint :=
    (congrArg (fun runtime => runtime.controller.setpoint) after).trans (afterTick_setpoint _ _)
  cases chosen : ((runtime.prepare turn).ticked turn.now).choose with
  | none =>
      rw [chosen] at ended leaf setpoint
      have stays : (runtime.turn turn).1.flightState = runtime.flightState :=
        ended.trans prepare_flightState
      have before : runtime.flightState.isTakeoff := stays ▸ takeoff
      obtain ⟨kept, same⟩ := foldl_dispatchCommand_takeoff
        ((runtime.prepare turn).ticked turn.now) (state.symm ▸ before)
        ((runtime.prepare turn).ticked turn.now).commands
      exact .stayed chosen stays (leaf.trans kept)
        ((setpoint.trans same).trans (ticked_setpoint_takeoff turn before))
  | some choice =>
      rw [chosen] at ended leaf setpoint
      have target : (runtime.turn turn).1.flightState = choice.target := ended
      have move := choose_takeoffMove chosen
      rw [state, ← target] at move
      have left := ((runtime.prepare turn).ticked turn.now).leave_emits choice
      have emits := (runtime.prepare turn).ticked_emits turn.now
      obtain ⟨config, sensorData, -⟩ := (runtime.prepare turn).update_circumstances turn.now
      have entryConfig : (leave choice ((runtime.prepare turn).ticked turn.now)).config =
          (runtime.turn turn).1.controller.config :=
        (left.config.trans emits.config).trans config.symm
      have entrySensor : (leave choice ((runtime.prepare turn).ticked turn.now)).sensorData =
          (runtime.turn turn).1.controller.sensorData :=
        (left.sensorData.trans emits.sensorData).trans sensorData.symm
      by_cases begins : (runtime.turn turn).1.flightState = .takeoffInit
      · rw [begins] at move target
        obtain ⟨_, selectedSignal, selectedCommand⟩ := choice
        cases target
        generalize source : runtime.flightState = before at move
        cases move with
        | begun command available near grounded =>
            exact .began _ source leaf setpoint entryConfig entrySensor
              (.begun command available near grounded)
        | away stands => cases stands
      · have grounds : runtime.flightState.isTakeoff ∧
            (choice.target = .takeoffOffboardRequest ∨ choice.target = .takeoffArmRequest ∨
              choice.target = .takeoffAscending) := by
          rw [← target]
          generalize runtime.flightState = before at move
          generalize (runtime.turn turn).1.flightState = final at move begins takeoff
          cases move with
          | begun => exact (begins rfl).elim
          | altctl => exact ⟨rfl, .inl rfl⟩
          | offboard => exact ⟨rfl, .inr (.inl rfl)⟩
          | armed => exact ⟨rfl, .inr (.inr rfl)⟩
          | away stands => exact absurd (stands.symm.trans takeoff) Bool.false_ne_true
        have kept : (runtime.turn turn).1.controller.setpoint = runtime.controller.setpoint :=
          (setpoint.trans (transition_setpoint_takeoff grounds.2)).trans
            (ticked_setpoint_takeoff turn grounds.1)
        refine .advanced (leave choice ((runtime.prepare turn).ticked turn.now)) ?_ kept grounds.1
          begins move
        rw [target]
        exact leaf

end Turn

end FlightRuntime

end MultirotorController
