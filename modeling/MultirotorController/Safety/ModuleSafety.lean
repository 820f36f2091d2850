import MultirotorController.Module.ModuleRuns
import MultirotorController.Safety.ArmingHandshake
import MultirotorController.Safety.Disarm
import MultirotorController.Uav.CommandQueue

/-!
# Safety of what the module writes

A started module is a run of the machine whatever its host does, so the laws of the
flight machine hold of the messages that the host gets: none of them disarms a
vehicle in the air, and none arms it before the host delivered a takeoff command.
-/

namespace MultirotorController

/-- Beside every entry of the second list stands one of the first. -/
theorem exists_beside {First Second : Type} {fits : First → Second → Prop} {first : List First}
    {second : List Second} (beside : List.Forall₂ fits first second) {value : Second}
    (member : value ∈ second) : ∃ label ∈ first, fits label value := by
  induction beside with
  | nil => cases member
  | cons fit _ ih =>
      rcases List.mem_cons.mp member with rfl | later
      · exact ⟨_, List.mem_cons_self, fit⟩
      · obtain ⟨label, present, fits⟩ := ih later
        exact ⟨label, List.mem_cons_of_mem _ present, fits⟩

section Commands

variable [Libm] [Xgc2Math]

theorem FlightRuntime.mem_of_acceptedCommands {runtime : FlightRuntime} {inputs : List FlightInput}
    {command : FlightCommand} (accepted : command ∈ runtime.acceptedCommands inputs) :
    .command command ∈ inputs := by
  induction inputs generalizing runtime with
  | nil => cases accepted
  | cons input rest ih =>
      rcases List.mem_append.mp accepted with first | later
      · refine List.mem_cons.mpr (.inl ?_)
        unfold FlightRuntime.acceptedCommand at first
        split at first
        · split at first
          · rw [List.mem_singleton.mp first]
          · cases first
        · cases first
      · exact List.mem_cons_of_mem _ (ih later)

/-- Every command that a turn decides on was received by it or by an earlier one. -/
theorem received_of_presented {past : List FlightEvent} {runtime : FlightRuntime}
    {admissible : FlightRestriction}
    (run : flightMachine.Run FlightRuntime.Started admissible past runtime) :
    ∀ event older, event :: older <:+ past → ∀ command ∈ presented event,
      ∃ earlier ∈ event :: older, .command command ∈ earlier.input.inputs := by
  refine run.invariant_history (fun past runtime => ∀ command ∈ runtime.pendingCommands,
    ∃ event ∈ past, .command command ∈ event.input.inputs) ?_ ?_
  · rintro _ ⟨config, rfl⟩ command waiting
    cases waiting
  · intro past runtime turn _ received _
    obtain ⟨batch, queue⟩ := FlightRuntime.turn_queue runtime turn
    have known (command : FlightCommand)
        (queued : command ∈ runtime.pendingCommands ++ runtime.acceptedCommands turn.inputs) :
        ∃ event ∈ flightMachine.event runtime turn :: past,
          .command command ∈ event.input.inputs := by
      rcases List.mem_append.mp queued with old | new
      · obtain ⟨event, member, present⟩ := received command old
        exact ⟨event, List.mem_cons_of_mem _ member, present⟩
      · exact ⟨_, List.mem_cons_self, FlightRuntime.mem_of_acceptedCommands new⟩
    constructor
    · intro command waiting
      change command ∈ (runtime.turn turn).1.pendingCommands at waiting
      rw [queue] at waiting
      exact known command (List.mem_of_mem_drop waiting)
    · intro command taken
      change command ∈ (runtime.turn turn).1.commands at taken
      rw [batch, FlightRuntime.batch_eq] at taken
      exact known command (List.mem_of_mem_take taken)

/-- A turn that asks for arming follows one that received a takeoff command. -/
theorem takeoff_of_requestsArm {event : FlightEvent} {older : List FlightEvent}
    {runtime : FlightRuntime}
    (run : flightMachine.Run FlightRuntime.Started anyEnvironment (event :: older) runtime)
    (requests : requestsArm event) :
    ∃ earlier ∈ older, .command .takeoff ∈ earlier.input.inputs := by
  have histories : ∀ asking before, asking :: before <:+ event :: older →
      requestsArm asking → ∃ entry, InArmRequest before entry := by
    refine run.invariant_history TakeoffHistory ?_ fun _ _ _ _ history _ =>
      ⟨takeoffHistory_step history,
        fun asked => history.armRequest (armRequest_of_requestsArm asked)⟩
    rintro _ ⟨config, rfl⟩
    exact .of_elsewhere rfl
  obtain ⟨entry, stay, leaving, earlier, requesting, rfl, offboard, -⟩ :=
    histories event older List.suffix_rfl requests
  obtain ⟨leaving', earlier', initializing, rfl, altctl, -⟩ := offboard
  obtain ⟨rest, rfl, takenOff, -⟩ := altctl
  have inner : entry :: rest <:+ stay ++ leaving :: (requesting ++ leaving' ::
      (initializing ++ entry :: rest)) := by
    refine .trans ?_ (List.suffix_append _ _)
    refine .trans ?_ (List.suffix_cons _ _)
    refine .trans ?_ (List.suffix_append _ _)
    refine .trans ?_ (List.suffix_cons _ _)
    exact List.suffix_append _ _
  obtain ⟨received, member, present⟩ := received_of_presented run entry rest
    (inner.trans (List.suffix_cons _ _)) .takeoff takenOff.command
  exact ⟨received, inner.subset member, present⟩

end Commands

namespace Module

section Refinement

variable [Libm] [Xgc2Math] {readers : ConfigReaders} {past : List ModuleEvent}
variable {module : ControllerModule}

/-- The turn is the newest one of a run that took its inputs and the answers of its solver from
the events of the session, and it decided what the event wrote. -/
def Explained (readers : ConfigReaders) (older : List ModuleEvent) (event : ModuleEvent)
    (nmpcPast : List NmpcEvent) (turn : NmpcEvent) : Prop :=
  ∃ system earlier pending,
    nmpcMachine.Run (NmpcSystem.StartedWith (startConfig older)) driverEnvironment nmpcPast system ∧
      (∀ step ∈ nmpcPast, ∀ outcome, step.input = .solve outcome →
        AnsweredIn (event :: sinceStart older) outcome) ∧
      nmpcPast.filter (·.input.isTurn) = turn :: earlier ∧
      Tells readers (sinceStart older) earlier pending ∧
      Shows event (pending ++ handedBy readers event) turn

/-- The head of a told session that wrote something shows a turn. -/
theorem explained_of_session {older : List ModuleEvent} {event : ModuleEvent}
    {runtime : ModuleRuntime}
    (held : Session readers (startConfig older) (event :: sinceStart older) runtime)
    (written : event.output.written ≠ []) :
    ∃ nmpcPast turn, Explained readers older event nmpcPast turn := by
  cases held with
  | dormant _ silence => exact (written (silence event List.mem_cons_self)).elim
  | alive active reaches tells =>
      obtain ⟨nmpcPast, system, tracks, turns, -⟩ := reaches
      cases tells with
      | quiet _ silent _ => exact (written silent).elim
      | turned shows tells =>
          exact ⟨nmpcPast, _, system, _, _, tracks.run, tracks.solved, turns, tells, shows⟩

theorem explained_of_run
    (run : (controllerMachine readers).Run ControllerModule.Constructed anyHost past module) :
    ∀ event older, event :: older <:+ past → event.output.written ≠ [] →
      ∃ nmpcPast turn, Explained readers older event nmpcPast turn := by
  refine run.invariant_history (fun _ _ => True) (fun _ _ => trivial) ?_
  intro past module input run _ _
  refine ⟨trivial, fun written => ?_⟩
  obtain ⟨context, runtime, rfl, running⟩ := step_of_written written
  obtain ⟨after, ended⟩ := step_started context running
  exact explained_of_session
    (session_step context running (session_of_run run runtime running) ended) written

/-- In every run of the module, a started and active module is a run of the machine, turn by
turn, and whatever an event wrote is explained by such a run. -/
theorem module_refines_machine
    (run : (controllerMachine readers).Run ControllerModule.Constructed anyHost past module) :
    (∀ runtime, module.runtime = some runtime → runtime.active = true →
      ∃ nmpcPast system pending,
        nmpcMachine.Run (NmpcSystem.StartedWith (startConfig past)) driverEnvironment nmpcPast
          system ∧
        (∀ step ∈ nmpcPast, ∀ outcome, step.input = .solve outcome →
          AnsweredIn (sinceStart past) outcome) ∧
        Tells readers (sinceStart past) (nmpcPast.filter (·.input.isTurn)) pending ∧
        runtime.runtime = system.runtime.receiveAll pending ∧ runtime.worker = system.worker ∧
        system.waiting = []) ∧
      ∀ event older, event :: older <:+ past → event.output.written ≠ [] →
        ∃ nmpcPast turn, Explained readers older event nmpcPast turn := by
  refine ⟨fun runtime started active => ?_, explained_of_run run⟩
  cases session_of_run run runtime started with
  | dormant dormant _ =>
      exact absurd (dormant.inactive.symm.trans active) Bool.false_ne_true
  | alive _ reaches tells =>
      obtain ⟨nmpcPast, system, tracks, rfl, waiting⟩ := reaches
      exact ⟨nmpcPast, system, _, tracks.run, tracks.solved, tells, tracks.runtime,
        tracks.worker, waiting⟩

end Refinement

section Takeoff

open ExactMath

/-- Readers that take the defaults. -/
def defaultReaders : ConfigReaders := ⟨.done (.ok {}), fun _ => {}⟩

/-- A sample of every stream of a vehicle that stands on the ground. -/
def groundSamples (stampNs : Int64) (mode : String) : List Input :=
  [⟨stampNs, .payload (.sensor (.stateEstimate {
      stampSec := 1, estimatorState := StateEstimate.stateRunning }))⟩,
    ⟨stampNs, .payload (.sensor (.localPose {}))⟩,
    ⟨stampNs, .payload (.sensor (.localVelocity {}))⟩,
    ⟨stampNs, .payload (.sensor .imu)⟩,
    ⟨stampNs, .payload (.sensor (.vrpnPose {}))⟩,
    ⟨stampNs, .payload (.sensor (.fcuState { connected := 1, mode := mode.toList }))⟩]

/-- A takeoff without the ALTCTL gate, up to the confirmation of OFFBOARD. -/
def takeoffInputs : List ModuleInput :=
  [.start 1000000000,
    .step { nowNs := 2000000000, samples := groundSamples 2000000000 "" },
    .step {
      nowNs := 3000000000
      samples := groundSamples 3000000000 "" ++
        [⟨3000000000, .payload (.command { text := "takeoff".toList })⟩] },
    .step { nowNs := 4000000000, samples := groundSamples 4000000000 "" },
    .step { nowNs := 5000000000, samples := groundSamples 5000000000 "OFFBOARD" }]

def armInput : ModuleInput :=
  .step { nowNs := 8000000000, samples := groundSamples 8000000000 "OFFBOARD" }

def beforeTakeoff : ControllerModule := { config := ⟨{ skipTakeoffInitDisarm := true }, {}⟩ }

/-- The module with its past, when it is about to ask for arming. -/
def offboardConfirmed : List ModuleEvent × ControllerModule :=
  (controllerMachine defaultReaders).replay [] beforeTakeoff takeoffInputs

def armEvent : ModuleEvent := (controllerMachine defaultReaders).event offboardConfirmed.2 armInput

theorem run_armEvent : (controllerMachine defaultReaders).Run ControllerModule.Constructed anyHost
    (armEvent :: offboardConfirmed.1) armEvent.after := by
  have start : (controllerMachine defaultReaders).Run ControllerModule.Constructed anyHost []
      beforeTakeoff := .start ⟨_, rfl⟩
  exact (start.replay takeoffInputs (Machine.admits_of_forall _ (fun _ _ _ => trivial) _ _ _)).step
    armInput trivial

/-- The module that asked for arming is a run of the machine, and so is what it wrote. -/
theorem module_refines_machine_takeoff :
    (∃ runtime nmpcPast system pending, armEvent.after.runtime = some runtime ∧
      nmpcMachine.Run (NmpcSystem.StartedWith (startConfig (armEvent :: offboardConfirmed.1)))
        driverEnvironment nmpcPast system ∧
      Tells defaultReaders (sinceStart (armEvent :: offboardConfirmed.1))
        (nmpcPast.filter (·.input.isTurn)) pending ∧
      runtime.runtime = system.runtime.receiveAll pending) ∧
      ∃ nmpcPast turn, Explained defaultReaders offboardConfirmed.1 armEvent nmpcPast turn := by
  obtain ⟨sessions, written⟩ := module_refines_machine run_armEvent
  refine ⟨?_, written armEvent _ List.suffix_rfl (by decide +kernel)⟩
  have started : (armEvent.after.runtime.map (·.active)) = some true := by decide +kernel
  obtain ⟨runtime, running, active⟩ := Option.map_eq_some_iff.mp started
  obtain ⟨nmpcPast, system, pending, machine, -, tells, same, -⟩ :=
    sessions runtime running active
  exact ⟨runtime, nmpcPast, system, pending, running, machine, tells, same⟩

end Takeoff

section Laws

variable [Libm] [Xgc2Math] {readers : ConfigReaders} {past : List ModuleEvent}
variable {module : ControllerModule} {older : List ModuleEvent} {event : ModuleEvent}
variable {nmpcPast : List NmpcEvent}
variable {turn : NmpcEvent}

/-- A written message is the payload of an effect of the turn, and the module holds what that
turn left behind. -/
theorem effect_of_written {inputs : List FlightInput} {output : ModuleOutput}
    (shows : Shows event inputs turn) (written : output ∈ event.output.written) :
    ∃ now context, ∃ effect ∈ turn.after.runtime.controller.flightEffects,
      Publishes event.before.config.reference now context turn.after.runtime effect
        (.done output) ∧
      SameFlight turn.after.runtime event.after := by
  obtain ⟨context, sensor, now, -, -, -, -, thrown | returned⟩ := shows
  · obtain ⟨error, -, -, silent⟩ := thrown
    rw [silent] at written
    cases written
  · obtain ⟨-, results, published, outputs, -, same⟩ := returned
    rw [outputs] at written
    obtain ⟨result, member, done⟩ := List.mem_filterMap.mp written
    obtain ⟨effect, emitted, publishes⟩ := exists_beside published member
    refine ⟨now, context, effect, emitted, ?_, same⟩
    cases result with
    | done written =>
        cases done
        exact publishes
    | nothing => cases done
    | failed => cases done

/-- A run that explains an event is a run of the flight machine, turn by turn. -/
theorem flight_of_explained (explained : Explained readers older event nmpcPast turn) :
    ∃ flightPast flight, flightMachine.Run (FlightRuntime.StartedWith (startConfig older))
        flightEnvironment flightPast flight ∧
      List.Forall₂ NmpcSystem.SameTurn (nmpcPast.filter (·.input.isTurn)) flightPast := by
  obtain ⟨system, earlier, pending, run, -⟩ := explained
  have started : nmpcMachine.Run
      (fun system => FlightRuntime.StartedWith (startConfig older) system.runtime)
      (NmpcSystem.turnsAllowed (flightEnvironment [])) nmpcPast system := by
    refine (run.mono_start fun system same => ?_).mono fun _ _ _ allowed => allowed.2
    rw [same]
    rfl
  obtain ⟨flightPast, flight, projected, -, turns⟩ :=
    NmpcSystem.projects_flight NmpcSystem.absorbs_flightEnvironment started
  exact ⟨flightPast, flight, projected.mono fun _ _ _ allowed => allowed, turns⟩

/-- The newest turn is the newest event of that run. -/
theorem newest_of_explained (explained : Explained readers older event nmpcPast turn) :
    ∃ newest earlier flight, flightMachine.Run (FlightRuntime.StartedWith (startConfig older))
        flightEnvironment (newest :: earlier) flight ∧
      NmpcSystem.SameTurn turn newest ∧
      ∃ turns, Tells readers (event :: sinceStart older) (turn :: turns) [] ∧
        List.Forall₂ NmpcSystem.SameTurn turns earlier := by
  obtain ⟨flightPast, flight, run, turns⟩ := flight_of_explained explained
  obtain ⟨system, earlier, pending, -, -, filtered, tells, shows⟩ := explained
  rw [filtered] at turns
  cases turns with
  | cons same others =>
      exact ⟨_, _, flight, run, same, earlier, .turned shows tells, others⟩

/-- In every run of the module, whatever its host does, a disarm request reaches the host only
while the vehicle is on the ground, by the snapshot of the turn that requested it. -/
theorem no_disarm_written_while_airborne
    (run : (controllerMachine readers).Run ControllerModule.Constructed anyHost past module) :
    ∀ event older, event :: older <:+ past → ∀ sec nsec,
      .fcuRequest ⟨sec, nsec, .arm false⟩ ∈ event.output.written →
        ∃ runtime, event.after.runtime = some runtime ∧
          runtime.runtime.controller.isAirborne = false := by
  intro event older suffix sec nsec written
  obtain ⟨nmpcPast, turn, explained⟩ := explained_of_run run event older suffix
    (List.ne_nil_of_mem written)
  obtain ⟨newest, earlier, flight, flew, same, -⟩ := newest_of_explained explained
  obtain ⟨_, _, _, -, -, -, -, shows⟩ := explained
  obtain ⟨now, context, effect, emitted, publishes, runtime, buffer, held, left⟩ :=
    effect_of_written shows written
  have disarm : effect.isDisarm = true := by
    cases publishes
    rfl
  have started : flightMachine.Run FlightRuntime.Started flightEnvironment (newest :: earlier)
      flight := flew.mono_start fun _ begun => ⟨_, begun⟩
  rw [same.after] at emitted left
  have grounded : newest.after.controller.isAirborne = false := by
    have low : LowWhileSettled flight ∧ ∀ event ∈ newest :: earlier,
        ∀ effect ∈ event.after.controller.flightEffects, effect.isDisarm →
          event.after.controller.isAirborne = false :=
      started.invariant_events LowWhileSettled (fun _ => FlightRuntime.lowWhileSettled_started)
        fun _ _ _ low allowed => FlightRuntime.disarm_turn low allowed
    exact low.2 newest List.mem_cons_self effect emitted disarm
  exact ⟨runtime, held, by rw [left]; exact grounded⟩

/-- Some event of the session handed this to the controller. -/
def HandedIn (readers : ConfigReaders) (events : List ModuleEvent) (received : FlightInput) :
    Prop :=
  ∃ event ∈ events, received ∈ handedBy readers event

omit [Libm] in
theorem HandedIn.cons {events : List ModuleEvent} {received : FlightInput}
    (handed : HandedIn readers events received) : HandedIn readers (event :: events) received := by
  obtain ⟨earlier, member, rest⟩ := handed
  exact ⟨earlier, List.mem_cons_of_mem _ member, rest⟩

/-- What a told run received and what is pending was handed over in the session. -/
theorem Tells.handed {events : List ModuleEvent} {turns : List NmpcEvent}
    {pending : List FlightInput} (tells : Tells readers events turns pending) :
    (∀ received ∈ pending, HandedIn readers events received) ∧
      ∀ turn ∈ turns, ∀ taken, turn.input = .turn taken →
        ∀ received ∈ taken.inputs, HandedIn readers events received := by
  induction tells with
  | started => exact ⟨by simp, by simp⟩
  | @quiet event events turns pending quiet silent tells ih =>
      refine ⟨fun received member => ?_, fun turn member taken same received present => ?_⟩
      · rcases List.mem_append.mp member with old | new
        · exact (ih.1 received old).cons
        · exact ⟨event, List.mem_cons_self, new⟩
      · exact (ih.2 turn member taken same received present).cons
  | @turned event events turn turns pending shows tells ih =>
      refine ⟨by simp, fun other member taken same received present => ?_⟩
      rcases List.mem_cons.mp member with rfl | old
      · obtain ⟨context, sensor, now, -, -, -, took, -⟩ := shows
        cases took.symm.trans same
        rcases List.mem_append.mp present with old | new
        · exact (ih.1 received old).cons
        · exact ⟨event, List.mem_cons_self, new⟩
      · exact (ih.2 other old taken same received present).cons

omit [Libm] [Xgc2Math] in
theorem mem_collectInputs {samples : List Input} {input : Input}
    (collected : input ∈ collectInputs samples) : input ∈ samples := by
  unfold collectInputs at collected
  rw [List.mem_insertionSort] at collected
  obtain ⟨port, -, read⟩ := List.mem_flatMap.mp collected
  unfold readPort at read
  dsimp only at read
  split at read
  · exact (List.mem_filter.mp (List.mem_of_getLast? (Option.mem_toList.mp read))).1
  · exact (List.mem_filter.mp (List.mem_of_mem_take read)).1

omit [Libm] [Xgc2Math] in
/-- A batch hands over what its inputs do. -/
theorem mem_handedAll {received : FlightInput} {sensing : Sensing} {inputs : List Input}
    (present : received ∈ handedAll sensing inputs) :
    ∃ input ∈ inputs, ∃ sensing, received ∈ handed sensing input := by
  induction inputs generalizing sensing with
  | nil => cases present
  | cons input rest ih =>
      rcases List.mem_append.mp present with first | later
      · exact ⟨input, List.mem_cons_self, sensing, first⟩
      · obtain ⟨other, member, found⟩ := ih later
        exact ⟨other, List.mem_cons_of_mem _ member, found⟩

omit [Libm] [Xgc2Math] in
/-- Only a sample whose text spells a command hands it over. -/
theorem spelled_of_mem_handed {command : FlightCommand} {sensing : Sensing} {input : Input}
    (present : .command command ∈ handed sensing input) :
    ∃ payload : CommandPayload, input.sample = .payload (.command payload) ∧
      parseFlightCommand (boundedString payload.text commandCapacity) = some command := by
  unfold handed at present
  split at present
  · split at present <;> simp at present
  next payload receipt sample timed =>
    obtain ⟨other, parsed, same⟩ := List.mem_map.mp present
    cases same
    exact ⟨payload, sample, Option.mem_toList.mp parsed⟩
  all_goals simp at present

omit [Libm] in
/-- A command came from a sample whose text spells it. -/
theorem spelled_of_handed {command : FlightCommand} {events : List ModuleEvent}
    (handed : HandedIn readers events (.command command)) :
    ∃ event ∈ events, ∃ context, event.input = .step context ∧ ∃ input ∈ context.samples,
      ∃ payload : CommandPayload, input.sample = .payload (.command payload) ∧
        parseFlightCommand (boundedString payload.text commandCapacity) = some command := by
  obtain ⟨event, member, present⟩ := handed
  unfold handedBy at present
  split at present
  next context runtime input started =>
    generalize time context.nowNs = clock at present
    cases clock with
    | error error => cases present
    | ok now =>
        obtain ⟨sample, taken, sensing, found⟩ := mem_handedAll present
        exact ⟨event, member, context, input, sample, mem_collectInputs taken,
          spelled_of_mem_handed found⟩
  next json runtime input started =>
    split at present
    · obtain ⟨config, -, same⟩ := List.mem_map.mp present
      cases same
    · cases present
  · cases present

/-- In every run of the module an arm request reaches the host only if the host delivered, since
the module was started, a sample whose text spells a takeoff. -/
theorem arm_written_after_takeoff_command
    (run : (controllerMachine readers).Run ControllerModule.Constructed anyHost past module) :
    ∀ event older, event :: older <:+ past → ∀ sec nsec,
      .fcuRequest ⟨sec, nsec, .arm true⟩ ∈ event.output.written →
        ∃ earlier ∈ event :: sinceStart older, ∃ context, earlier.input = .step context ∧
          ∃ input ∈ context.samples, ∃ payload : CommandPayload,
            input.sample = .payload (.command payload) ∧
              parseFlightCommand (boundedString payload.text commandCapacity) = some .takeoff := by
  intro event older suffix sec nsec written
  obtain ⟨nmpcPast, turn, explained⟩ := explained_of_run run event older suffix
    (List.ne_nil_of_mem written)
  obtain ⟨newest, earlier, flight, flew, same, turns, tells, others⟩ :=
    newest_of_explained explained
  obtain ⟨_, _, _, -, -, -, -, shows⟩ := explained
  obtain ⟨now, context, effect, emitted, publishes, -⟩ := effect_of_written shows written
  have requests : requestsArm newest := by
    rw [same.after] at emitted
    cases publishes
    exact ⟨_, emitted⟩
  have started : flightMachine.Run FlightRuntime.Started anyEnvironment (newest :: earlier)
      flight := (flew.mono_start fun _ begun => ⟨_, begun⟩).mono fun _ _ _ _ => trivial
  obtain ⟨received, member, present⟩ := takeoff_of_requestsArm started requests
  obtain ⟨told, toldMember, sameTurn⟩ := exists_beside others member
  obtain ⟨taken, results, input, flightInput⟩ := sameTurn.input
  rw [flightInput] at present
  apply spelled_of_handed
  refine (Tells.handed tells).2 told (List.mem_cons_of_mem _ toldMember) taken input _ ?_
  rcases List.mem_append.mp present with result | other
  · obtain ⟨_, -, impossible⟩ := List.mem_map.mp result
    cases impossible
  · exact other

end Laws

section Armed

open ExactMath

/-- The step that enters Ready disarms, and the vehicle stands on the ground. -/
theorem no_disarm_written_while_airborne_ready :
    ∃ event ∈ armEvent :: offboardConfirmed.1,
      .fcuRequest ⟨2, 0, .arm false⟩ ∈ event.output.written ∧
        ∃ runtime, event.after.runtime = some runtime ∧
          runtime.runtime.controller.isAirborne = false := by
  have disarmed : ∃ event ∈ armEvent :: offboardConfirmed.1,
      .fcuRequest ⟨2, 0, .arm false⟩ ∈ event.output.written := by decide +kernel
  obtain ⟨event, member, written⟩ := disarmed
  obtain ⟨newer, older, split⟩ := List.append_of_mem member
  exact ⟨event, member, written, no_disarm_written_while_airborne run_armEvent event older
    ⟨newer, split.symm⟩ 2 0 written⟩

/-- The takeoff command that precedes the arm request. -/
theorem arm_written_after_takeoff_command_takeoff :
    .fcuRequest ⟨8, 0, .arm true⟩ ∈ armEvent.output.written ∧
      ∃ earlier ∈ armEvent :: sinceStart offboardConfirmed.1, ∃ context,
        earlier.input = .step context ∧ ∃ input ∈ context.samples, ∃ payload : CommandPayload,
          input.sample = .payload (.command payload) ∧
            parseFlightCommand (boundedString payload.text commandCapacity) = some .takeoff := by
  have written : .fcuRequest ⟨8, 0, .arm true⟩ ∈ armEvent.output.written := by decide +kernel
  exact ⟨written, arm_written_after_takeoff_command run_armEvent armEvent _ List.suffix_rfl 8 0
    written⟩

end Armed

end Module

end MultirotorController
