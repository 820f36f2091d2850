import MultirotorController.Safety.ModuleConfiguration
import MultirotorController.Safety.ResultIdentity

/-!
# Where the written attitudes come from

Under NMPC an attitude that reaches the host carries the target of a success that
the solver's thread answered in the same session of the module. The law of the
machine speaks of the configuration before the turn; it is the one of the module,
since only Custom1 publishes attitudes and no configuration is taken there.
-/

namespace MultirotorController

section Turns

variable [Libm] [Xgc2Math]

/-- An attitude is published in Custom1, where the configuration stays, and under NMPC it
carries a target of its session. -/
def AttitudeSolved (older : List NmpcEvent) (event : NmpcEvent) (_ : Turn) : Prop :=
  ∀ effect ∈ event.after.runtime.controller.flightEffects, effect.isAttitude = true →
    event.after.runtime.controller.config = event.before.runtime.controller.config ∧
      (event.before.runtime.controller.backend = .nmpc →
        ∃ result, SolvedIn (session older) result ∧
          event.after.runtime.controller.attitudeRateTarget = result.target)

theorem Coherent.attitudeSolved {older : List NmpcEvent} {event : NmpcEvent} {turn : Turn}
    (coherent : Coherent older event.before) (plain : PlainTurn event turn) :
    AttitudeSolved older event turn := by
  intro effect emitted attitude
  refine ⟨?_, fun nmpc => ?_⟩
  · cases inside : event.before.inCustom1 with
    | false =>
        have silent := (FlightRuntime.turn_other turn (flightState_of_other inside)).effects
        rw [← plain.after] at silent
        cases attitude.symm.trans (silent effect emitted).1
    | true =>
        obtain ⟨leaf, tracking⟩ := leaf_of_inCustom1 inside
        have circumstances := (event.before.runtime.prepare turn).update_circumstances turn.now
        rw [plain.after]
        exact circumstances.1.trans (plain.fixed_custom1 tracking)
  · obtain ⟨-, result, solved, target, -⟩ := coherent.source plain nmpc emitted attitude
    exact ⟨result, solved, target⟩

end Turns

namespace Module

section Targets

variable [Libm] [Xgc2Math] {readers : ConfigReaders} {past : List ModuleEvent}
variable {module : ControllerModule}

/-- A run of the driver's machine is one of the dispatcher's. -/
theorem dispatcher_run {config : ControllerConfig} {nmpcPast : List NmpcEvent}
    {system : NmpcSystem}
    (run : nmpcMachine.Run (NmpcSystem.StartedWith config) driverEnvironment nmpcPast system) :
    nmpcMachine.Run NmpcSystem.Started nmpcEnvironment nmpcPast system := by
  refine (run.mono_start ?_).mono fun _ _ _ allowed => allowed.1
  rintro _ rfl
  exact ⟨⟨config, rfl⟩, rfl, rfl⟩

/-- The turn that explains an event has the past that it stands on. -/
theorem turn_of_explained {older : List ModuleEvent} {event : ModuleEvent}
    {nmpcPast : List NmpcEvent} {turn : NmpcEvent}
    (explained : Explained readers older event nmpcPast turn) :
    ∃ earlier, turn :: earlier <:+ nmpcPast := by
  obtain ⟨_, _, _, -, -, turns, -⟩ := explained
  obtain ⟨newer, earlier, split, -, -, -⟩ := List.filter_eq_cons_iff.mp turns
  exact ⟨earlier, newer, split.symm⟩

/-- An event that writes leaves the configuration alone, and what it leaves behind works under
it. -/
theorem config_of_written
    (run : (controllerMachine readers).Run ControllerModule.Constructed anyHost past module) :
    ∀ event older, event :: older <:+ past → ∀ context, event.input = .step context →
      event.after.InForce ∧ event.after.config = event.before.config := by
  refine run.invariant_history (fun _ module => module.InForce)
    (fun _ => inForce_constructed) ?_
  intro past module input _ held _
  obtain ⟨inForce, changes⟩ : ((controllerMachine readers).step module input).1.InForce ∧
      (KeepsConfig ((controllerMachine readers).event module input) ∨
        Reconfigures readers ((controllerMachine readers).event module input)) :=
    held.event input
  refine ⟨inForce, fun context stepped => ⟨inForce, ?_⟩⟩
  rcases changes with kept | ⟨json, _, configured, -⟩
  · exact kept.1
  · cases configured.symm.trans stepped

/-- In every run of a module that tracks with NMPC, an attitude reaches the host only with the
target of a success that the solver answered since the module was started, its thrust limited
to the unit interval. -/
theorem attitude_written_solved
    (run : (controllerMachine readers).Run ControllerModule.Constructed anyHost past module) :
    ∀ event older, event :: older <:+ past → ∀ payload,
      .attitudeRate payload ∈ event.output.written →
      event.before.config.controller.trackingBackend = .nmpc →
        ∃ outcome, AnsweredIn (event :: sinceStart older) outcome ∧ outcome.success = true ∧
          payload.bodyRate = ⟨outcome.target.bodyRateX, outcome.target.bodyRateY,
            outcome.target.bodyRateZ⟩ ∧
          payload.thrust = NmpcMath.clamp outcome.target.thrust 0 1 := by
  intro event older suffix payload written nmpc
  obtain ⟨nmpcPast, turn, explained⟩ := explained_of_run run event older suffix
    (List.ne_nil_of_mem written)
  obtain ⟨earlier, newest⟩ := turn_of_explained explained
  obtain ⟨system, _, pending, machine, answered, -, -, shows⟩ := explained
  obtain ⟨now, context, effect, emitted, publishes, runtime, buffer, held, left⟩ :=
    effect_of_written shows written
  obtain ⟨hostContext, sensor, clock, stepped, -, -, took, -⟩ := shows
  obtain ⟨inForce, kept⟩ := config_of_written run event older suffix hostContext stepped
  have published : payload = ModuleRuntime.attitudePayload now turn.after.runtime.controller ∧
      effect.isAttitude = true := by
    cases publishes
    exact ⟨rfl, rfl⟩
  obtain ⟨rfl, attitude⟩ := published
  obtain ⟨fixed, solved⟩ := nmpc_turns (dispatcher_run machine)
    (fun _ _ _ coherent plain => coherent.attitudeSolved plain) turn earlier newest _ took
    effect emitted attitude
  have backend : turn.before.runtime.controller.backend = .nmpc := by
    have after : turn.after.runtime.controller.config = event.before.config.controller := by
      have config := inForce runtime held
      rw [left] at config
      exact config.trans (congrArg (·.controller) kept)
    rw [DroneController.backend, ← fixed, after]
    exact nmpc
  obtain ⟨result, ⟨answering, member, request, outcome, -, input, -, rfl, success⟩, target⟩ :=
    solved backend
  have inPast : answering ∈ nmpcPast :=
    newest.subset (List.mem_cons_of_mem _ ((List.takeWhile_sublist _).subset member))
  refine ⟨outcome, answered answering inPast outcome input, success, ?_, ?_⟩
  · rw [ModuleRuntime.attitudePayload, target]
    rfl
  · rw [ModuleRuntime.attitudePayload, target]
    rfl

end Targets

section Tracking

open ExactMath

/-- The same samples of a vehicle whose motors run. -/
def armedSamples (stampNs : Int64) : List Input :=
  groundSamples stampNs "OFFBOARD" ++ [⟨stampNs, .payload (.sensor (.fcuState
    { connected := 1, armed := 1, mode := "OFFBOARD".toList }))⟩]

def commandSample (stampNs : Int64) (text : String) : Input :=
  ⟨stampNs, .payload (.command { text := text.toList })⟩

/-- A flight into Custom1, whose first request the solver answers. -/
def trackingInputs : List ModuleInput :=
  takeoffInputs ++
    [armInput,
      .step { nowNs := 9000000000, samples := armedSamples 9000000000 },
      .step {
        nowNs := 10000000000
        samples := armedSamples 10000000000 ++ [commandSample 10000000000 "hover"] },
      .step {
        nowNs := 11000000000
        samples := armedSamples 11000000000 ++ [commandSample 11000000000 "track"] },
      .step {
        nowNs := 12000000000
        samples := armedSamples 12000000000 ++ [⟨12000000000, .payload (.refActiveAnalytic {
          header := { frameId := "map".toList }
          duration := 60
          startSec := 12 })⟩] },
      .background (.solve { success := true, target := { thrust := 0.5 } }),
      .background .commit]

def beforeTracking : ControllerModule :=
  { config := ⟨{ skipTakeoffInitDisarm := true, trackingBackend := .nmpc }, {}⟩ }

def solverAnswered : List ModuleEvent × ControllerModule :=
  (controllerMachine defaultReaders).replay [] beforeTracking trackingInputs

/-- The step that takes the answer. -/
def targetEvent : ModuleEvent :=
  (controllerMachine defaultReaders).event solverAnswered.2
    (.step { nowNs := 12020000000, samples := armedSamples 12020000000 })

theorem attitude_written_solved_tracking :
    .attitudeRate { stampSec := 12, stampNsec := 20000000, thrust := 0.5 } ∈
        targetEvent.output.written ∧
      ∃ outcome, AnsweredIn (targetEvent :: sinceStart solverAnswered.1) outcome ∧
        outcome.success = true ∧ NmpcMath.clamp outcome.target.thrust 0 1 = 0.5 := by
  have start : (controllerMachine defaultReaders).Run ControllerModule.Constructed anyHost []
      beforeTracking := .start ⟨_, rfl⟩
  have run := (start.replay trackingInputs
    (Machine.admits_of_forall _ (fun _ _ _ => trivial) _ _ _)).step
      (.step { nowNs := 12020000000, samples := armedSamples 12020000000 }) trivial
  have written : .attitudeRate { stampSec := 12, stampNsec := 20000000, thrust := 0.5 } ∈
      targetEvent.output.written := by decide +kernel
  obtain ⟨outcome, answered, success, -, thrust⟩ := attitude_written_solved run targetEvent _
    List.suffix_rfl _ written (by decide +kernel)
  exact ⟨written, outcome, answered, success, thrust.symm⟩

end Tracking

end Module

end MultirotorController
