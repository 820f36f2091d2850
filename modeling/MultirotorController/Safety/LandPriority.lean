import MultirotorController.Control.ExactMath
import MultirotorController.Safety.Environment
import MultirotorController.Uav.CommandQueue

/-!
# Commands are delivered, and Land wins

Accepted commands reach the machine in the order of posting, each in one update.
An update that returns lands the vehicle when it presents Land. The tick of
Custom1 comes before the choice, so an update whose tick throws has taken the
command from the queue and ends where it was.
-/

namespace MultirotorController

open Procedure

namespace FlightRuntime

variable [Xgc2Math]

/-- Whatever else is pending, a leaf of Ready or of the flight lands on Land. -/
theorem choose_of_land (runtime : FlightRuntime) (land : runtime.hasCommand .land = true)
    (watched : runtime.flightState.isWatched) :
    runtime.choose.map (·.target) = some .landing := by
  cases preempted : runtime.normalPreemption with
  | none =>
      rw [runtime.not_land_of_normalPreemption preempted] at land
      cases land
  | some choice =>
      have lands := runtime.normalPreemption_target preempted
      have takeoff : runtime.takeoffPreemption = some choice := by
        unfold takeoffPreemption
        rw [preempted]
      unfold choose
      cases source : runtime.flightState <;> simp only [source] at watched ⊢
      case selfCheck => cases watched
      case landing => cases watched
      all_goals
        simp [chooseReady, chooseTakeoffInit, chooseTakeoffOffboardRequest, chooseModeRequest,
          chooseTakeoffArmRequest, chooseTakeoffAscending, chooseHover, chooseCustom1, preempted,
          takeoff, lands]

section Turn

variable [Libm] {runtime : FlightRuntime} {turn : Turn}

/-- The clock values that the tick of Custom1 subtracts are in reach. -/
def tickInReach (runtime : FlightRuntime) (turn : Turn) : Bool :=
  match runtime.leaf with
  | .custom1 leaf =>
      Custom1State.tickInReach ⟨(runtime.prepare turn).controller, leaf⟩ turn.now
  | _ => true

/-- The health monitor before the tick changes nothing that the tick subtracts. -/
theorem tickInReach_tickScope (leaf : Custom1State) :
    Custom1State.tickInReach (runtime.tickScope turn leaf) turn.now =
      Custom1State.tickInReach ⟨(runtime.prepare turn).controller, leaf⟩ turn.now := by
  obtain ⟨kept, -, config, -⟩ := runtime.tickScope_spec turn leaf
  have same : (runtime.tickScope turn leaf).leaf = leaf := rfl
  unfold Custom1State.tickInReach Custom1State.planInReach Custom1State.promotedBuffer
    DroneController.backend
  rw [config, kept.activeTrajectoryCache, kept.mpcTrajectoryBuffer, same]

/-- An update whose tick returns returns. -/
theorem update_returns (now : Time)
    (returned : (runtime.afterHealth now).controlTick.2 = .ok ()) :
    ∃ again, (runtime.update now).2 = .ok again := by
  unfold update
  simp only [returned]
  exact ⟨_, rfl⟩

/-- A turn whose clock values are in reach returns. -/
theorem turn_returns (canonical : turn.now.Canonical) (reach : runtime.tickInReach turn = true) :
    ∃ again, (runtime.turn turn).2 = .ok again := by
  refine update_returns turn.now ?_
  have kept : ((runtime.prepare turn).afterHealth turn.now).leaf = runtime.leaf :=
    (runtime.prepare_received turn).leaf
  cases tracking : runtime.leaf with
  | custom1 leaf =>
      have clock : Time.fromSec (Custom1State.currentTime (runtime.tickScope turn leaf)) =
          .ok turn.now := by
        rw [Custom1State.currentTime, (runtime.tickScope_spec turn leaf).2.2.2]
        exact Time.fromSec_toSec canonical
      unfold tickInReach at reach
      rw [tracking] at reach
      obtain ⟨value, final, ran, -⟩ := (Custom1State.completes_onTick clock
        (runtime.tickInReach_tickScope leaf ▸ reach)).run_eq_ok
      have ticked : ((FlightLeaf.custom1 leaf).onTick
          (runtime.tickScope turn leaf).controller).2 = .ok () := FlightLeaf.onTick_custom1_ok _ ran
      unfold controlTick
      rw [kept, tracking]
      exact ticked
  | _ =>
      refine FlightLeaf.onTick_ok _ _ ?_
      rw [kept, tracking]
      intro same
      cases same

/-- A turn that takes Land and returns lands. -/
theorem turn_land (land : .land ∈ runtime.batch turn) (watched : runtime.flightState.isWatched)
    {again : Bool} (returned : (runtime.turn turn).2 = .ok again) :
    (runtime.turn turn).1.flightState = .landing := by
  have source : ((runtime.prepare turn).ticked turn.now).flightState = runtime.flightState :=
    ((runtime.prepare turn).ticked_flightState turn.now).trans runtime.prepare_flightState
  have chosen := ((runtime.prepare turn).ticked turn.now).choose_of_land
    (by
      rw [hasCommand, ticked_commands]
      exact List.contains_iff_mem.mpr land)
    (by rw [source]; exact watched)
  rcases (runtime.prepare turn).update_cases turn.now with ⟨error, -, thrown⟩ | ⟨again, ended⟩
  · cases (congrArg Prod.snd thrown).symm.trans returned
  · have after : (runtime.turn turn).1 = afterTick
        ((runtime.prepare turn).afterHealth turn.now).controller.signals.length
        ((runtime.prepare turn).ticked turn.now) := congrArg Prod.fst ended
    rw [after, afterTick_flightState, chosen]
    rfl

end Turn

end FlightRuntime

section Law

variable [Libm] [Xgc2Math]

/-- The update of the event presented a Land command to Ready or to a leaf of the flight. -/
def presentsLand (event : FlightEvent) : Prop :=
  .land ∈ presented event ∧ event.before.flightState.isWatched

/-- The clock of the event is well formed, and in Custom1 what the tick subtracts from it is
in reach. -/
def landInReach (event : FlightEvent) : Prop :=
  event.input.now.Canonical ∧ event.before.tickInReach event.input = true

/-- A command that the queue accepted is presented by the update that follows as many others
as full batches were ahead of it, and by no other. -/
def DeliveredInTurn (past : List FlightEvent) : Prop :=
  ∀ newer event older command first later, past = newer ++ event :: older →
    event.input.inputs = first ++ .command command :: later →
    let ahead := (first.foldl FlightRuntime.receive event.before).pendingCommands
    ahead.length < 4096 → ahead.length / 64 < (event :: newer.reverse).length →
      (((event :: newer.reverse).map presented).take (ahead.length / 64)).flatten =
          ahead.take (64 * (ahead.length / 64)) ∧
        ∃ batch, ((event :: newer.reverse).map presented)[ahead.length / 64]? = some batch ∧
          ahead.drop (64 * (ahead.length / 64)) ++ [command] <+: batch

end Law

section Runs

variable [Libm] [Xgc2Math] {past : List FlightEvent} {runtime : FlightRuntime}
variable {admissible : FlightRestriction}

theorem deliveredInTurn (run : flightMachine.Run FlightRuntime.Started admissible past runtime) :
    DeliveredInTurn past := by
  intro newer event older command first later split inputs ahead room reached
  obtain ⟨middle, -, before, served⟩ := rounds_since run (newer ++ [event]) older (by simpa)
  rw [List.getLast?_append] at before
  have before : event.before = middle := by simpa using before
  rw [List.reverse_append, List.reverse_singleton, List.singleton_append, ← before] at served
  let rest := ((first.foldl FlightRuntime.receive event.before).receive
    (.command command)).acceptedCommands later
  have accepted : posted event = event.before.acceptedCommands first ++ [command] ++ rest := by
    unfold posted
    rw [inputs, FlightRuntime.acceptedCommands_append, FlightRuntime.acceptedCommands,
      FlightRuntime.acceptedCommand_of_room _ room, List.append_assoc]
  have waiting : event.before.pendingCommands ++ (event.before.acceptedCommands first ++ [command])
      = ahead ++ command :: [] := by
    rw [← List.append_assoc, ← FlightRuntime.foldl_receive_pendingCommands]
  rw [List.map_cons, accepted, BatchQueue.rounds_cons_append] at served
  have place := BatchQueue.rounds_position (by decide) waiting
    (show ahead.length / 64 < (rest :: newer.reverse.map posted).length by simpa using reached)
  rw [served] at place
  exact place

/-- In every run the accepted commands are presented in the order of posting, at most 64 in
an update, each in its turn; and Land lands, unless the tick of Custom1 meets a clock value
that is out of reach. Exactly the updates that throw lose the command. -/
theorem commands_delivered {past : List FlightEvent} {runtime : FlightRuntime}
    (run : flightMachine.Run FlightRuntime.Started anyEnvironment past runtime) :
    (∀ (queue : FlightRuntime) command,
      ((queue.postCommand command).2 = false ↔ 4096 ≤ queue.pendingCommands.length) ∧
        ((queue.postCommand command).2 = false → (queue.postCommand command).1 = queue)) ∧
      (past.reverse.map presented).flatten ++ runtime.pendingCommands =
        (past.reverse.map posted).flatten ∧
      (∀ event ∈ past, (presented event).length ≤ 64) ∧
      DeliveredInTurn past ∧
      ∀ event ∈ past, presentsLand event →
        (landInReach event → event.after.flightState = .landing) ∧
          (event.after.flightState = .landing ↔ ∃ again, event.output = .ok again) := by
  obtain ⟨start, begins, -, served⟩ := rounds_since run past [] (List.append_nil past).symm
  have queue : start.pendingCommands = [] := by
    cases begins with
    | start started =>
        obtain ⟨config, rfl⟩ := started
        rfl
  have batches : (BatchQueue.rounds 64 [] (past.reverse.map posted)).1 =
      past.reverse.map presented := by
    rw [← queue, served]
  refine ⟨fun queue command => ?_, ?_, fun event member => ?_, deliveredInTurn run, ?_⟩
  · rcases queue.postCommand_cases command with ⟨full, refused⟩ | ⟨room, taken⟩
    · rw [refused]
      exact ⟨⟨fun _ => full, fun _ => rfl⟩, fun _ => rfl⟩
    · rw [taken]
      exact ⟨⟨nofun, fun full => absurd room (Nat.not_lt.mpr full)⟩, nofun⟩
  · have whole := BatchQueue.rounds_flatten 64 start.pendingCommands (past.reverse.map posted)
    rw [served, queue] at whole
    exact whole
  · have served := List.mem_map_of_mem (f := presented) (List.mem_reverse.mpr member)
    rw [← batches] at served
    exact BatchQueue.length_le_of_mem_rounds 64 served
  · refine (run.invariant_events (fun _ => True) (fun _ _ => trivial)
      fun _ runtime turn _ _ => ⟨trivial, ?_⟩).2
    rintro ⟨land, watched⟩
    have taken : .land ∈ runtime.batch turn := (runtime.turn_queue turn).1 ▸ land
    have lands : ∀ again, (runtime.turn turn).2 = .ok again →
        (runtime.turn turn).1.flightState = .landing := fun again returned =>
      FlightRuntime.turn_land taken watched returned
    refine ⟨?_, ?_, ?_⟩
    · rintro ⟨canonical, reach⟩
      obtain ⟨again, returned⟩ := FlightRuntime.turn_returns canonical reach
      exact lands again returned
    · intro landed
      cases outcome : (runtime.turn turn).2 with
      | ok again => exact ⟨again, outcome⟩
      | error error =>
          have stays := FlightRuntime.turn_thrown outcome
          cases stays.symm.trans landed
    · rintro ⟨again, returned⟩
      exact lands again returned

end Runs

section Lost

open ExactMath

def farConfig : ControllerConfig := { skipTakeoffInitDisarm := true, trackingBackend := .nmpc }

/-- A flight into Custom1 under NMPC. -/
def trackedTurns : List Turn :=
  hoverTurns ++ [{ inputs := [.command .track], sensor := armedSensor, now := ⟨7, 0⟩ }]

/-- The operator asks for a landing after a reference that starts in a hundred years. -/
def farTurn : Turn :=
  { inputs := [.activeAnalytic { duration := 60, startTime := ⟨4000000000, 0⟩ } ⟨8, 0⟩,
      .command .land]
    sensor := armedSensor
    now := ⟨8, 0⟩ }

/-- The command is taken from the queue, and the vehicle goes on tracking. -/
theorem land_lost :
    let tracked := flightMachine.replay [] (FlightRuntime.initial.setConfig farConfig) trackedTurns
    let event := flightMachine.event tracked.2 farTurn
    flightMachine.Run FlightRuntime.Started anyEnvironment (event :: tracked.1) event.after ∧
      presentsLand event ∧ event.after.flightState = .custom1 ∧
      event.after.pendingCommands = [] := by
  intro tracked event
  have start : flightMachine.Run FlightRuntime.Started anyEnvironment []
      (FlightRuntime.initial.setConfig farConfig) := .start ⟨farConfig, rfl⟩
  have run := (start.replay trackedTurns (by decide +kernel)).step farTurn trivial
  exact ⟨run, ⟨by decide +kernel, by decide +kernel⟩, by decide +kernel, by decide +kernel⟩

/-- With a reference that starts now the same command lands. -/
theorem commands_delivered_in_reach :
    let tracked := flightMachine.replay [] (FlightRuntime.initial.setConfig farConfig) trackedTurns
    let event := flightMachine.event tracked.2 { farTurn with
      inputs := [.activeAnalytic { duration := 60 } ⟨8, 0⟩, .command .land] }
    presentsLand event ∧ landInReach event ∧ event.after.flightState = .landing := by
  intro tracked event
  have start : flightMachine.Run FlightRuntime.Started anyEnvironment []
      (FlightRuntime.initial.setConfig farConfig) := .start ⟨farConfig, rfl⟩
  have run := (start.replay trackedTurns (by decide +kernel)).step { farTurn with
    inputs := [.activeAnalytic { duration := 60 } ⟨8, 0⟩, .command .land] } trivial
  have presents : presentsLand event := ⟨by decide +kernel, by decide +kernel⟩
  have reach : landInReach event := ⟨by decide +kernel, by decide +kernel⟩
  exact ⟨presents, reach,
    ((commands_delivered run).2.2.2.2 event List.mem_cons_self presents).1 reach⟩

end Lost

end MultirotorController
