import MultirotorController.Control.ExactMath
import MultirotorController.Safety.Environment
import MultirotorController.Uav.TakeoffSteps

/-!
# The arming handshake

An arm request is emitted in TakeoffArmRequest alone. The past of such an update
reads backwards through the two request leaves to the transition out of Ready:
who asked for the takeoff, which modes were confirmed, and that the vehicle was
reported disarmed on the way.
-/

namespace MultirotorController

section Law

variable [Libm] [Xgc2Math]

/-- The newest new flight-controller states of some updates, as far as they report the mode. -/
def agreeingFrames (mode : String) (events : List FlightEvent) : Nat :=
  ((events.filter fun event => event.after.controller.sensorData.stateStats.isNew).takeWhile
    fun event => event.after.controller.sensorData.fcuMode = mode).length

/-- The transition out of Ready, on a Takeoff command, and the setpoint that it computes. -/
structure TakenOff (event : FlightEvent) : Prop where
  ready : event.before.flightState = .ready
  begins : event.after.flightState = .takeoffInit
  command : .takeoff ∈ presented event
  available : event.after.health.positionDistance.available = true
  near : event.after.health.positionDistance.exceeded = false
  grounded : event.after.controller.isAirborne = false
  altitude : event.after.controller.setpoint.z =
    Double.max event.after.controller.config.takeoffAltitude event.after.controller.worldZ

def StaysIn (state : FlightState) (event : FlightEvent) : Prop :=
  event.before.flightState = state ∧ event.after.flightState = state

/-- The update left one leaf for the next, and the vehicle was reported disarmed. -/
def LeavesDisarmed (source target : FlightState) (event : FlightEvent) : Prop :=
  event.before.flightState = source ∧ event.after.flightState = target ∧
    SensorChecks.isFcuArmed event.after.controller.sensorData = false

/-- The past ends in TakeoffInit: the updates spent there and the entry before them. -/
def InTakeoffInit (past stay : List FlightEvent) (entry : FlightEvent) : Prop :=
  ∃ rest, past = stay ++ entry :: rest ∧ TakenOff entry ∧ ∀ event ∈ stay, StaysIn .takeoffInit event

/-- The past ends in TakeoffOffboardRequest, and TakeoffInit has seen ALTCTL confirmed unless
its gate is switched off. -/
def InOffboardRequest (past stay : List FlightEvent) (entry : FlightEvent) : Prop :=
  ∃ leaving earlier initializing, past = stay ++ leaving :: earlier ∧
    InTakeoffInit earlier initializing entry ∧
    LeavesDisarmed .takeoffInit .takeoffOffboardRequest leaving ∧
    (∀ event ∈ stay, StaysIn .takeoffOffboardRequest event) ∧
    (entry.after.controller.config.skipTakeoffInitDisarm = false →
      TakeoffInitState.requiredAltctlFrames ≤ agreeingFrames "ALTCTL" (leaving :: initializing))

/-- The past ends in TakeoffArmRequest, and TakeoffOffboardRequest has seen OFFBOARD
confirmed. -/
def InArmRequest (past : List FlightEvent) (entry : FlightEvent) : Prop :=
  ∃ stay leaving earlier requesting, past = stay ++ leaving :: earlier ∧
    InOffboardRequest earlier requesting entry ∧
    LeavesDisarmed .takeoffOffboardRequest .takeoffArmRequest leaving ∧
    (∀ event ∈ stay, StaysIn .takeoffArmRequest event) ∧
    TakeoffOffboardRequestState.requiredOffboardFrames ≤
      agreeingFrames "OFFBOARD" (leaving :: requesting)

def entersTakeoff (event : FlightEvent) : Bool :=
  event.before.flightState = .ready ∧ event.after.flightState = .takeoffInit

/-- The newest transition out of Ready into the takeoff. -/
def takeoffEntry (past : List FlightEvent) : Option FlightEvent := past.find? entersTakeoff

section Frames

variable {mode : String} {event : FlightEvent} {events : List FlightEvent} {count next : Nat}

omit [Libm] in
/-- A counter that moves with the flight-controller states counts the agreeing ones. -/
theorem agreeingFrames_step
    (frame : ModeFrame mode event.after.controller.sensorData count next)
    (counted : count ≤ agreeingFrames mode events) :
    next ≤ agreeingFrames mode (event :: events) := by
  unfold agreeingFrames at counted ⊢
  cases frame with
  | old stale =>
      rw [List.filter_cons, stale, if_neg Bool.false_ne_true]
      exact counted
  | agreed fresh agrees bound =>
      rw [List.filter_cons, if_pos fresh, List.takeWhile_cons, if_pos (decide_eq_true agrees),
        List.length_cons]
      omega
  | disagreed => exact Nat.zero_le _

end Frames

/-- What a run knows of the takeoff that it is in. -/
structure TakeoffHistory (past : List FlightEvent) (runtime : FlightRuntime) : Prop where
  setpoint : runtime.flightState.isTakeoff → ∃ entry, takeoffEntry past = some entry ∧
    TakenOff entry ∧ runtime.controller.setpoint = entry.after.controller.setpoint
  takeoffInit : ∀ leaf, runtime.leaf = .takeoffInit leaf → ∃ stay entry,
    InTakeoffInit past stay entry ∧ leaf.altctlReadyEventPosted = false ∧
      leaf.skipAltctlGate = entry.after.controller.config.skipTakeoffInitDisarm ∧
      (leaf.skipAltctlGate = false → leaf.altctlFrameCount ≤ agreeingFrames "ALTCTL" stay)
  offboardRequest : ∀ leaf, runtime.leaf = .takeoffOffboardRequest leaf → ∃ stay entry,
    InOffboardRequest past stay entry ∧ leaf.offboardReadyEventPosted = false ∧
      leaf.confirmedOffboardFrames ≤ agreeingFrames "OFFBOARD" stay
  armRequest : runtime.flightState = .takeoffArmRequest → ∃ entry, InArmRequest past entry
  unposted : runtime.flightState.isTakeoff →
    ∀ signal ∈ runtime.pending, ¬ runtime.flightState.tickSignals signal

section Step

variable {past : List FlightEvent} {runtime : FlightRuntime} {turn : Turn} {again : Bool}

omit [Libm] in
/-- Outside the takeoff there is nothing to know. -/
theorem TakeoffHistory.of_elsewhere (elsewhere : runtime.flightState.isTakeoff = false) :
    TakeoffHistory past runtime where
  setpoint takeoff := absurd (elsewhere.symm.trans takeoff) Bool.false_ne_true
  takeoffInit leaf same := by
    rw [FlightRuntime.flightState, same] at elsewhere
    cases elsewhere
  offboardRequest leaf same := by
    rw [FlightRuntime.flightState, same] at elsewhere
    cases elsewhere
  armRequest same := by
    rw [same] at elsewhere
    cases elsewhere
  unposted takeoff := absurd (elsewhere.symm.trans takeoff) Bool.false_ne_true

variable (turn) in
/-- The tick of TakeoffInit. -/
theorem ticked_takeoffInit {leaf : TakeoffInitState} (same : runtime.leaf = .takeoffInit leaf) :
    let scope : Scope TakeoffInitState :=
      ⟨((runtime.prepare turn).afterHealth turn.now).controller, leaf⟩
    let ticked := (runtime.prepare turn).ticked turn.now
    ticked.leaf = .takeoffInit (TakeoffInitState.onTick scope).leaf ∧
      ticked.controller = (TakeoffInitState.onTick scope).controller := by
  have kept : ((runtime.prepare turn).afterHealth turn.now).leaf = .takeoffInit leaf :=
    (runtime.prepare_received turn).leaf.trans same
  unfold FlightRuntime.ticked FlightRuntime.controlTick
  rw [kept]
  exact ⟨rfl, rfl⟩

variable (turn) in
theorem ticked_offboardRequest {leaf : TakeoffOffboardRequestState}
    (same : runtime.leaf = .takeoffOffboardRequest leaf) :
    let scope : Scope TakeoffOffboardRequestState :=
      ⟨((runtime.prepare turn).afterHealth turn.now).controller, leaf⟩
    let ticked := (runtime.prepare turn).ticked turn.now
    ticked.leaf = .takeoffOffboardRequest (TakeoffOffboardRequestState.onTick scope).leaf ∧
      ticked.controller = (TakeoffOffboardRequestState.onTick scope).controller := by
  have kept : ((runtime.prepare turn).afterHealth turn.now).leaf = .takeoffOffboardRequest leaf :=
    (runtime.prepare_received turn).leaf.trans same
  unfold FlightRuntime.ticked FlightRuntime.controlTick
  rw [kept]
  exact ⟨rfl, rfl⟩

/-- The snapshot that the leaf of an event sees. -/
theorem afterHealth_sensorData :
    ((runtime.prepare turn).afterHealth turn.now).controller.sensorData =
      (runtime.turn turn).1.controller.sensorData :=
  (runtime.turn_circumstances turn).2.symm

variable (turn) in
/-- One tick of TakeoffInit, as the history counts it. -/
theorem takeoffInit_ticked {leaf : TakeoffInitState} (history : TakeoffHistory past runtime)
    (same : runtime.leaf = .takeoffInit leaf) :
    let event := flightMachine.event runtime turn
    let ticked := (runtime.prepare turn).ticked turn.now
    ∃ stay entry after, InTakeoffInit past stay entry ∧ ticked.leaf = .takeoffInit after ∧
      after.skipAltctlGate = entry.after.controller.config.skipTakeoffInitDisarm ∧
      (after.skipAltctlGate = false →
        after.altctlFrameCount ≤ agreeingFrames "ALTCTL" (event :: stay)) ∧
      (.altctlReady ∈ ticked.controller.signals →
        TakeoffInitState.requiredAltctlFrames ≤ after.altctlFrameCount) ∧
      (.altctlReady ∉ ticked.controller.signals → after.altctlReadyEventPosted = false) := by
  intro event ticked
  obtain ⟨stay, entry, before, waiting, gate, counted⟩ := history.takeoffInit leaf same
  obtain ⟨leafTicked, controllerTicked⟩ := ticked_takeoffInit turn same
  let scope : Scope TakeoffInitState :=
    ⟨((runtime.prepare turn).afterHealth turn.now).controller, leaf⟩
  obtain ⟨gate', frame, posts, latch⟩ := TakeoffInitState.onTick_spec scope waiting
  have state : runtime.flightState = .takeoffInit := congrArg FlightLeaf.flightState same
  refine ⟨stay, entry, (TakeoffInitState.onTick scope).leaf, before, leafTicked,
    gate'.trans gate, fun open_ => ?_, fun present => ?_, fun absent => ?_⟩
  · have open_ : leaf.skipAltctlGate = false := gate'.symm.trans open_
    refine agreeingFrames_step ?_ (counted open_)
    have frame := frame open_
    rw [afterHealth_sensorData] at frame
    exact frame
  · change _ ∈ ticked.controller.signals at present
    rw [show ticked.controller = _ from controllerTicked] at present
    refine (posts present).resolve_left fun earlier => ?_
    refine history.unposted (by rw [state]; rfl) .altctlReady
      (FlightRuntime.pending_of_afterHealth rfl earlier) ?_
    rw [state]
    rfl
  · refine eq_false_of_ne_true fun posted => absent ?_
    rw [show ticked.controller = _ from controllerTicked]
    exact latch posted

variable (turn) in
theorem offboardRequest_ticked {leaf : TakeoffOffboardRequestState}
    (history : TakeoffHistory past runtime) (same : runtime.leaf = .takeoffOffboardRequest leaf) :
    let event := flightMachine.event runtime turn
    let ticked := (runtime.prepare turn).ticked turn.now
    ∃ stay entry after, InOffboardRequest past stay entry ∧
      ticked.leaf = .takeoffOffboardRequest after ∧
      after.confirmedOffboardFrames ≤ agreeingFrames "OFFBOARD" (event :: stay) ∧
      (.offboardReady ∈ ticked.controller.signals →
        TakeoffOffboardRequestState.requiredOffboardFrames ≤ after.confirmedOffboardFrames) ∧
      (.offboardReady ∉ ticked.controller.signals → after.offboardReadyEventPosted = false) := by
  intro event ticked
  obtain ⟨stay, entry, before, waiting, counted⟩ := history.offboardRequest leaf same
  obtain ⟨leafTicked, controllerTicked⟩ := ticked_offboardRequest turn same
  let scope : Scope TakeoffOffboardRequestState :=
    ⟨((runtime.prepare turn).afterHealth turn.now).controller, leaf⟩
  obtain ⟨frame, posts, latch⟩ := TakeoffOffboardRequestState.onTick_spec scope waiting
  have state : runtime.flightState = .takeoffOffboardRequest := congrArg FlightLeaf.flightState same
  refine ⟨stay, entry, (TakeoffOffboardRequestState.onTick scope).leaf, before, leafTicked,
    ?_, fun present => ?_, fun absent => ?_⟩
  · refine agreeingFrames_step ?_ counted
    rw [afterHealth_sensorData] at frame
    exact frame
  · rw [show ticked.controller = _ from controllerTicked] at present
    refine (posts present).resolve_left fun earlier => ?_
    refine history.unposted (by rw [state]; rfl) .offboardReady
      (FlightRuntime.pending_of_afterHealth rfl earlier) ?_
    rw [state]
    rfl
  · refine eq_false_of_ne_true fun posted => absent ?_
    rw [show ticked.controller = _ from controllerTicked]
    exact latch posted

/-- The transition out of Ready. -/
theorem takenOff_of_began {entry : DroneController} (ready : runtime.flightState = .ready)
    (leaf : (runtime.turn turn).1.leaf = .takeoffInit (TakeoffInitState.onEnter ⟨entry, {}⟩).leaf)
    (setpoint : (runtime.turn turn).1.controller.setpoint =
      (TakeoffInitState.onEnter ⟨entry, {}⟩).controller.setpoint)
    (config : entry.config = (runtime.turn turn).1.controller.config)
    (sensorData : entry.sensorData = (runtime.turn turn).1.controller.sensorData)
    (move : ((runtime.prepare turn).ticked turn.now).TakeoffMove .ready .takeoffInit) :
    TakenOff (flightMachine.event runtime turn) := by
  have emits := (runtime.prepare turn).ticked_emits turn.now
  obtain ⟨config', sensorData', -⟩ := (runtime.prepare turn).update_circumstances turn.now
  have circumstances : ((runtime.prepare turn).ticked turn.now).controller.isAirborne =
      (runtime.turn turn).1.controller.isAirborne := by
    have sameConfig := emits.config.trans config'.symm
    have sameSensor := emits.sensorData.trans sensorData'.symm
    simp only [DroneController.isAirborne, DroneController.backend]
    exact congr (congrArg SensorChecks.isAirborne sameSensor)
      (congrArg ControllerConfig.trackingBackend sameConfig)
  cases move with
  | away stands => cases stands
  | begun command available near grounded =>
      rw [FlightRuntime.ticked_health_turn] at available near
      refine ⟨ready, congrArg FlightLeaf.flightState leaf, ?_, available, near,
        circumstances.symm.trans grounded, ?_⟩
      · have present := List.contains_iff_mem.mp command
        rw [FlightRuntime.ticked_commands] at present
        have taken : presented (flightMachine.event runtime turn) = runtime.batch turn :=
          (runtime.turn_queue turn).1
        rw [taken]
        exact present
      · change (runtime.turn turn).1.controller.setpoint.z = Double.max
          (runtime.turn turn).1.controller.config.takeoffAltitude
          (runtime.turn turn).1.controller.worldZ
        rw [setpoint]
        have target : (TakeoffInitState.onEnter ⟨entry, {}⟩).controller.setpoint.z =
            Double.max entry.config.takeoffAltitude entry.worldZ := by
          dsimp only [TakeoffInitState.onEnter, TakeoffInitState.requestDisarmIfRequired]
          repeat' split
          all_goals rfl
        rw [target, DroneController.worldZ, DroneController.backend, config, sensorData]
        rfl

omit [Libm] in
theorem takeoffEntry_cons_of_takeoff {event : FlightEvent}
    (takeoff : event.before.flightState.isTakeoff) :
    takeoffEntry (event :: past) = takeoffEntry past := by
  unfold takeoffEntry
  rw [List.find?_cons_of_neg]
  intro enters
  have ready := (of_decide_eq_true enters).1
  rw [ready] at takeoff
  cases takeoff

omit [Libm] in
/-- The updates that stay in a leaf, one more of them. -/
theorem staysIn_cons {state : FlightState} {event : FlightEvent} {stay : List FlightEvent}
    (newest : StaysIn state event) (others : ∀ event ∈ stay, StaysIn state event) :
    ∀ other ∈ event :: stay, StaysIn state other :=
  List.forall_mem_cons.mpr ⟨newest, others⟩

theorem takeoffHistory_stayed (history : TakeoffHistory past runtime)
    (returned : (runtime.turn turn).2 = .ok again)
    (takeoff : (runtime.turn turn).1.flightState.isTakeoff)
    (staying : ((runtime.prepare turn).ticked turn.now).choose = none)
    (stays : (runtime.turn turn).1.flightState = runtime.flightState)
    (leafKept : (runtime.turn turn).1.leaf = ((runtime.prepare turn).ticked turn.now).leaf)
    (setpoint : (runtime.turn turn).1.controller.setpoint = runtime.controller.setpoint) :
    TakeoffHistory (flightMachine.event runtime turn :: past) (runtime.turn turn).1 := by
  have state : ((runtime.prepare turn).ticked turn.now).flightState = runtime.flightState :=
    (FlightRuntime.ticked_flightState _ _).trans FlightRuntime.prepare_flightState
  have before : runtime.flightState.isTakeoff := stays ▸ takeoff
  have quiet : ∀ signal, runtime.flightState.tickSignals signal →
      signal ∉ ((runtime.prepare turn).ticked turn.now).controller.signals := by
    intro signal posts present
    exact FlightRuntime.not_tickSignals_of_choose_none staying present (state.symm ▸ posts)
  refine ⟨fun _ => ?_, fun leaf same => ?_, fun leaf same => ?_, fun same => ?_,
    fun _ signal waits => FlightRuntime.pending_of_turn returned waits⟩
  · obtain ⟨entry, newest, takenOff, same⟩ := history.setpoint before
    exact ⟨entry, (takeoffEntry_cons_of_takeoff before).trans newest, takenOff,
      setpoint.trans same⟩
  · have here : runtime.flightState = .takeoffInit := by
      rw [← stays, FlightRuntime.flightState, same]
      rfl
    obtain ⟨leaf', same'⟩ : ∃ leaf', runtime.leaf = .takeoffInit leaf' := by
      unfold FlightRuntime.flightState at here
      cases leaf' : runtime.leaf <;> rw [leaf'] at here <;> first | exact ⟨_, rfl⟩ | cases here
    obtain ⟨stay, entry, after, ⟨rest, split, takenOff, others⟩, ticked, gate, counted, -, latch⟩ :=
      takeoffInit_ticked turn history same'
    cases same.symm.trans (leafKept.trans ticked)
    refine ⟨flightMachine.event runtime turn :: stay, entry, ⟨rest, ?_, takenOff, ?_⟩, ?_, gate,
      counted⟩
    · rw [split, List.cons_append]
    · exact staysIn_cons ⟨here, stays.trans here⟩ others
    · exact latch (quiet _ (by rw [here]; rfl))
  · have here : runtime.flightState = .takeoffOffboardRequest := by
      rw [← stays, FlightRuntime.flightState, same]
      rfl
    obtain ⟨leaf', same'⟩ : ∃ leaf', runtime.leaf = .takeoffOffboardRequest leaf' := by
      unfold FlightRuntime.flightState at here
      cases leaf' : runtime.leaf <;> rw [leaf'] at here <;> first | exact ⟨_, rfl⟩ | cases here
    obtain ⟨stay, entry, after, ⟨leaving, earlier, initializing, split, init, leaves, others,
      altctl⟩, ticked, counted, -, latch⟩ := offboardRequest_ticked turn history same'
    cases same.symm.trans (leafKept.trans ticked)
    refine ⟨flightMachine.event runtime turn :: stay, entry, ⟨leaving, earlier, initializing, ?_,
      init, leaves, ?_, altctl⟩, ?_, counted⟩
    · rw [split, List.cons_append]
    · exact staysIn_cons ⟨here, stays.trans here⟩ others
    · exact latch (quiet _ (by rw [here]; rfl))
  · have here : runtime.flightState = .takeoffArmRequest := stays.symm.trans same
    obtain ⟨entry, stay, leaving, earlier, requesting, split, offboard, leaves, others, frames⟩ :=
      history.armRequest here
    refine ⟨entry, flightMachine.event runtime turn :: stay, leaving, earlier, requesting, ?_,
      offboard, leaves, ?_, frames⟩
    · rw [split, List.cons_append]
    · exact staysIn_cons ⟨here, stays.trans here⟩ others

theorem takeoffHistory_began {entry : DroneController}
    (returned : (runtime.turn turn).2 = .ok again)
    (leaf : (runtime.turn turn).1.leaf = .takeoffInit (TakeoffInitState.onEnter ⟨entry, {}⟩).leaf)
    (config : entry.config = (runtime.turn turn).1.controller.config)
    (takenOff : TakenOff (flightMachine.event runtime turn)) :
    TakeoffHistory (flightMachine.event runtime turn :: past) (runtime.turn turn).1 := by
  have state : (runtime.turn turn).1.flightState = .takeoffInit := takenOff.begins
  refine ⟨fun _ => ?_, fun leaf' same => ?_, fun leaf' same => ?_, fun same => ?_,
    fun _ signal waits => FlightRuntime.pending_of_turn returned waits⟩
  · refine ⟨flightMachine.event runtime turn, ?_, takenOff, rfl⟩
    exact List.find?_cons_of_pos (decide_eq_true ⟨takenOff.ready, takenOff.begins⟩)
  · cases same.symm.trans leaf
    refine ⟨[], flightMachine.event runtime turn, ⟨past, rfl, takenOff, by simp⟩, ?_, ?_,
      fun open_ => ?_⟩
    · dsimp only [TakeoffInitState.onEnter, TakeoffInitState.requestDisarmIfRequired]
      repeat' split
      all_goals rfl
    · refine Eq.trans ?_ (congrArg ControllerConfig.skipTakeoffInitDisarm config)
      dsimp only [TakeoffInitState.onEnter, TakeoffInitState.requestDisarmIfRequired]
      repeat' split
      all_goals rfl
    · have gate : entry.config.skipTakeoffInitDisarm = false := by
        refine Eq.trans ?_ open_
        dsimp only [TakeoffInitState.onEnter, TakeoffInitState.requestDisarmIfRequired]
        repeat' split
        all_goals rfl
      refine Nat.le_of_eq ?_
      dsimp only [TakeoffInitState.onEnter]
      rw [gate]
      rfl
  · cases leaf.symm.trans same
  · cases state.symm.trans same

theorem takeoffHistory_advanced (history : TakeoffHistory past runtime) {entry : DroneController}
    (returned : (runtime.turn turn).2 = .ok again)
    (takeoff : (runtime.turn turn).1.flightState.isTakeoff)
    (leaf : (runtime.turn turn).1.leaf =
      ((FlightLeaf.fresh (runtime.turn turn).1.flightState).onEnter entry).leaf)
    (setpoint : (runtime.turn turn).1.controller.setpoint = runtime.controller.setpoint)
    (before : runtime.flightState.isTakeoff)
    (onwards : (runtime.turn turn).1.flightState ≠ .takeoffInit)
    (move : ((runtime.prepare turn).ticked turn.now).TakeoffMove runtime.flightState
      (runtime.turn turn).1.flightState) :
    TakeoffHistory (flightMachine.event runtime turn :: past) (runtime.turn turn).1 := by
  have snapshot : ((runtime.prepare turn).ticked turn.now).controller.sensorData =
      (runtime.turn turn).1.controller.sensorData :=
    ((runtime.prepare turn).ticked_emits turn.now).sensorData.trans
      ((runtime.prepare turn).update_circumstances turn.now).2.1.symm
  have kept : ∃ entry, takeoffEntry (flightMachine.event runtime turn :: past) = some entry ∧
      TakenOff entry ∧
        (runtime.turn turn).1.controller.setpoint = entry.after.controller.setpoint := by
    obtain ⟨entry, newest, takenOff, same⟩ := history.setpoint before
    exact ⟨entry, (takeoffEntry_cons_of_takeoff before).trans newest, takenOff,
      setpoint.trans same⟩
  generalize source : runtime.flightState = here at move before
  generalize target : (runtime.turn turn).1.flightState = there at move onwards takeoff leaf
  cases move with
  | begun => exact (onwards rfl).elim
  | away stands => exact absurd (stands.symm.trans takeoff) Bool.false_ne_true
  | armed =>
      change (runtime.turn turn).1.leaf =
        .takeoffAscending (TakeoffAscendingState.onEnter ⟨entry, {}⟩).leaf at leaf
      refine ⟨fun _ => kept, fun _ same => ?_, fun _ same => ?_, fun same => ?_,
        fun _ signal waits => FlightRuntime.pending_of_turn returned waits⟩
      · cases leaf.symm.trans same
      · cases leaf.symm.trans same
      · cases target.symm.trans same
  | altctl present disarmed =>
      change (runtime.turn turn).1.leaf =
        .takeoffOffboardRequest (TakeoffOffboardRequestState.onEnter ⟨entry, {}⟩).leaf at leaf
      obtain ⟨leaf', same'⟩ : ∃ leaf', runtime.leaf = .takeoffInit leaf' := by
        unfold FlightRuntime.flightState at source
        cases leaf' : runtime.leaf <;> rw [leaf'] at source <;>
          first | exact ⟨_, rfl⟩ | cases source
      obtain ⟨stay, begun, after, init, -, gate, counted, posts, -⟩ :=
        takeoffInit_ticked turn history same'
      refine ⟨fun _ => kept, fun _ same => ?_, fun _ same => ?_, fun same => ?_,
        fun _ signal waits => FlightRuntime.pending_of_turn returned waits⟩
      · cases leaf.symm.trans same
      · cases leaf.symm.trans same
        refine ⟨[], begun, ⟨flightMachine.event runtime turn, past, stay, rfl, init,
          ⟨source, target, ?_⟩, by simp, fun open_ => ?_⟩, rfl, Nat.zero_le _⟩
        · rw [snapshot] at disarmed
          exact disarmed
        · exact (posts present).trans (counted (gate.trans open_))
      · cases target.symm.trans same
  | offboard present disarmed =>
      change (runtime.turn turn).1.leaf =
        .takeoffArmRequest (TakeoffArmRequestState.onEnter ⟨entry, {}⟩).leaf at leaf
      obtain ⟨leaf', same'⟩ : ∃ leaf', runtime.leaf = .takeoffOffboardRequest leaf' := by
        unfold FlightRuntime.flightState at source
        cases leaf' : runtime.leaf <;> rw [leaf'] at source <;>
          first | exact ⟨_, rfl⟩ | cases source
      obtain ⟨stay, begun, after, requesting, -, counted, posts, -⟩ :=
        offboardRequest_ticked turn history same'
      refine ⟨fun _ => kept, fun _ same => ?_, fun _ same => ?_, fun _ => ?_,
        fun _ signal waits => FlightRuntime.pending_of_turn returned waits⟩
      · cases leaf.symm.trans same
      · cases leaf.symm.trans same
      · refine ⟨begun, [], flightMachine.event runtime turn, past, stay, rfl, requesting,
          ⟨source, target, ?_⟩, by simp, (posts present).trans counted⟩
        rw [snapshot] at disarmed
        exact disarmed

theorem takeoffHistory_step (history : TakeoffHistory past runtime) :
    TakeoffHistory (flightMachine.event runtime turn :: past) (runtime.turn turn).1 := by
  cases outcome : (runtime.turn turn).2 with
  | error error =>
      refine .of_elsewhere ?_
      rw [FlightRuntime.turn_thrown outcome]
      rfl
  | ok again =>
      cases takeoff : (runtime.turn turn).1.flightState.isTakeoff with
      | false => exact .of_elsewhere takeoff
      | true =>
          cases FlightRuntime.takeoffTurn outcome takeoff with
          | stayed staying stays leaf setpoint =>
              exact takeoffHistory_stayed history outcome takeoff staying stays leaf setpoint
          | began entry ready leaf setpoint config sensorData move =>
              exact takeoffHistory_began outcome leaf config
                (takenOff_of_began ready leaf setpoint config sensorData move)
          | advanced entry leaf setpoint before onwards move =>
              exact takeoffHistory_advanced history outcome takeoff leaf setpoint before onwards
                move

end Step

/-- The update asked the flight controller to arm. -/
def requestsArm (event : FlightEvent) : Prop :=
  ∃ timestamp, .armRequest timestamp true ∈ event.after.controller.flightEffects

/-- A leaf of the takeoff repeats the setpoint that was computed when the takeoff began, and so
does the leaf that follows it in the takeoff. -/
def RepeatsTakeoffSetpoint (older : List FlightEvent) (event : FlightEvent) : Prop :=
  event.before.flightState.isTakeoff → ∃ entry, takeoffEntry older = some entry ∧ TakenOff entry ∧
    ((event.before.prepare event.input).ticked event.input.now).controller.setpoint =
      entry.after.controller.setpoint ∧
    (event.after.flightState.isTakeoff →
      event.after.controller.setpoint = entry.after.controller.setpoint)

/-- Only the tick of TakeoffArmRequest asks for arming. -/
theorem armRequest_of_requestsArm {runtime : FlightRuntime} {turn : Turn}
    (requests : requestsArm (flightMachine.event runtime turn)) :
    runtime.flightState = .takeoffArmRequest := by
  obtain ⟨timestamp, emitted⟩ := requests
  rcases (runtime.prepare turn).effect_of_mem_update turn.now emitted with
    ticked | telemetry | ⟨choice, -, entered⟩
  · have allowed := (runtime.prepare turn).tickEffects_of_mem_ticked turn.now ticked
    rw [FlightRuntime.prepare_flightState] at allowed
    cases state : runtime.flightState <;> rw [state] at allowed <;>
      simp [FlightState.tickEffects, Custom1State.trackingEffect, FlightEffect.isSetpoint,
        FlightEffect.isModeRequest, FlightEffect.isAttitude, FlightEffect.isNmpcRequest,
        FlightEffect.isDisarm] at allowed ⊢
  · cases telemetry
  · cases target : choice.target <;> rw [target] at entered
    all_goals
      simp [FlightState.enterEffects, FlightEffect.isSetpoint, FlightEffect.isDisarm,
        FlightEffect.isReferenceActivation] at entered

/-- In every run an arm request comes from TakeoffArmRequest, after the whole handshake since
the machine left Ready; and from TakeoffInit to TakeoffAscending the setpoint is the one that
was computed on the way in. -/
theorem arming_handshake {past : List FlightEvent} {runtime : FlightRuntime}
    (run : flightMachine.Run FlightRuntime.Started anyEnvironment past runtime) :
    ∀ event older, event :: older <:+ past →
      (requestsArm event → event.before.flightState = .takeoffArmRequest ∧
        ∃ entry, InArmRequest older entry) ∧
      RepeatsTakeoffSetpoint older event := by
  refine run.invariant_history TakeoffHistory ?_ fun past runtime turn _ history _ =>
    ⟨takeoffHistory_step history, fun requests => ?_, fun takeoff => ?_⟩
  · rintro _ ⟨config, rfl⟩
    exact .of_elsewhere rfl
  · have arming := armRequest_of_requestsArm requests
    exact ⟨arming, history.armRequest arming⟩
  · obtain ⟨entry, newest, takenOff, same⟩ := history.setpoint takeoff
    refine ⟨entry, newest, takenOff,
      (FlightRuntime.ticked_setpoint_takeoff turn takeoff).trans same, fun after => ?_⟩
    have next : TakeoffHistory (flightMachine.event runtime turn :: past) (runtime.turn turn).1 :=
      takeoffHistory_step history
    obtain ⟨entry', newest', -, same'⟩ := next.setpoint after
    have kept : takeoffEntry (flightMachine.event runtime turn :: past) = takeoffEntry past :=
      takeoffEntry_cons_of_takeoff takeoff
    cases (newest'.symm.trans kept).trans newest
    exact same'

end Law

section Witness

open ExactMath

/-- A takeoff up to the request, three seconds after OFFBOARD was confirmed. -/
def handshakeTurns : List Turn :=
  [{ sensor := readySensor, now := ⟨1, 0⟩ },
    { inputs := [.command .takeoff], sensor := readySensor, now := ⟨2, 0⟩ },
    { sensor := { readySensor with fcuMode := "ALTCTL" }, now := ⟨3, 0⟩ },
    { sensor := { readySensor with fcuMode := "ALTCTL" }, now := ⟨4, 0⟩ },
    { sensor := { readySensor with fcuMode := "OFFBOARD" }, now := ⟨5, 0⟩ }]

def armTurn : Turn := { sensor := { readySensor with fcuMode := "OFFBOARD" }, now := ⟨8, 0⟩ }

theorem arming_handshake_reached :
    let waiting := flightMachine.replay [] (FlightRuntime.initial.setConfig {}) handshakeTurns
    let event := flightMachine.event waiting.2 armTurn
    requestsArm event ∧ ∃ entry, InArmRequest waiting.1 entry := by
  intro waiting event
  have start : flightMachine.Run FlightRuntime.Started anyEnvironment []
      (FlightRuntime.initial.setConfig {}) := .start ⟨{}, rfl⟩
  have run := (start.replay handshakeTurns (by decide +kernel)).extend armTurn trivial
  have requests : requestsArm event := ⟨8, by decide +kernel⟩
  exact ⟨requests, ((arming_handshake run event waiting.1 List.suffix_rfl).1 requests).2⟩

end Witness

end MultirotorController
