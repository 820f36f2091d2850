import MultirotorController.Driver.NmpcExecution
import MultirotorController.Safety.Disarm
import MultirotorController.Safety.ResultIdentity
import MultirotorController.Uav.ReceivedInputs

/-!
# The dispatcher's runs are runs of the flight machine

Whatever the solver's worker does between two turns comes down to the results that
reached the buffer. Delivered as inputs of the next turn they give the same turn,
so that a law of the flight machine, proved for any results at any time, holds of
the controller with its dispatcher and its worker.
-/

namespace MultirotorController

variable [Libm] [Xgc2Math]

def NmpcInput.isTurn : NmpcInput → Bool
  | turn _ => true
  | _ => false

namespace NmpcSystem

/-- The flight turn is the turn of the system, with results received at its start. -/
structure SameTurn (event : NmpcEvent) (flight : FlightEvent) : Prop where
  input : ∃ (turn : Turn) (results : List NmpcSolveResult), event.input = .turn turn ∧
    flight.input = { turn with inputs := results.map .nmpcResult ++ turn.inputs }
  output : event.output = flight.output.map fun _ => ()
  after : event.after.runtime = flight.after

/-- The runtime of the system is the one of the flight machine after some results. -/
def Projects (system : NmpcSystem) (runtime : FlightRuntime) : Prop :=
  ∃ results : List NmpcSolveResult, system.runtime = runtime.receiveAll (results.map .nmpcResult)

namespace Projects

variable {system : NmpcSystem} {runtime : FlightRuntime}

theorem refl (system : NmpcSystem) : system.Projects system.runtime := ⟨[], rfl⟩

theorem of_runtime (projects : system.Projects runtime) {after : NmpcSystem}
    (same : after.runtime = system.runtime) : after.Projects runtime := by
  obtain ⟨results, projected⟩ := projects
  exact ⟨results, same.trans projected⟩

/-- Storing a result is receiving it. -/
theorem storeResult (projects : system.Projects runtime) {after : NmpcSystem}
    (result : NmpcSolveResult)
    (stored : after.runtime =
      (system.withController
        (NmpcExecution.storeResult system.runtime.controller result)).runtime) :
    after.Projects runtime := by
  obtain ⟨results, projected⟩ := projects
  refine ⟨results ++ [result], ?_⟩
  rw [List.map_append, FlightRuntime.receiveAll_append, ← projected]
  exact stored

theorem handleNext (projects : system.Projects runtime) (clock : Time) (accepts : Bool) :
    (system.handleNext clock accepts).1.Projects runtime := by
  unfold NmpcSystem.handleNext
  split
  · exact projects
  · split
    next controller worker handled =>
      rcases NmpcExecution.handle_cases handled with
        ⟨-, same | ⟨result, -, rejected⟩⟩ | ⟨same, -⟩
      · exact projects.of_runtime (by rw [same]; rfl)
      · exact projects.storeResult result (by rw [rejected])
      · exact projects.of_runtime (by rw [same]; rfl)
    · exact projects.of_runtime rfl

theorem solve (projects : system.Projects runtime) (outcome : NmpcSolveResult) :
    (system.solve outcome).Projects runtime := by
  unfold NmpcSystem.solve
  split
  · exact projects.of_runtime rfl
  · exact projects

theorem commit (projects : system.Projects runtime) : system.commit.Projects runtime := by
  unfold NmpcSystem.commit
  split
  next result _ => exact projects.storeResult result rfl
  · exact projects

end Projects

/-- What is allowed of a turn does not depend on when results were received before it. -/
def Absorbs (allowed : FlightRuntime → Turn → Prop) : Prop :=
  ∀ (runtime : FlightRuntime) (results : List NmpcSolveResult) (turn : Turn),
    allowed (runtime.receiveAll (results.map .nmpcResult)) turn →
      allowed runtime { turn with inputs := results.map .nmpcResult ++ turn.inputs }

/-- The system is not stopped, and its turns are allowed. -/
def turnsAllowed (allowed : FlightRuntime → Turn → Prop) :
    Machine.Restriction NmpcSystem NmpcInput (Except RuntimeError Unit) := fun _ system input =>
  input ≠ .stop ∧ ∀ turn, input = .turn turn → allowed system.runtime turn

theorem takeTurn_outcome (system : NmpcSystem) (turn : Turn) :
    (system.takeTurn turn).2 = (system.runtime.turn turn).2.map fun _ => () := by
  unfold takeTurn
  dsimp only
  split
  next returned => rw [returned]; rfl
  next thrown => rw [thrown]; rfl

variable {allowed : FlightRuntime → Turn → Prop} {begins : FlightRuntime → Prop}
variable {past : List NmpcEvent} {system : NmpcSystem}

/-- Every run of the system is a run of the flight machine, turn by turn. -/
theorem projects_flight (absorbs : Absorbs allowed)
    (run : nmpcMachine.Run (fun system => begins system.runtime) (turnsAllowed allowed)
      past system) :
    ∃ flightPast runtime, flightMachine.Run begins (fun _ => allowed) flightPast runtime ∧
      system.Projects runtime ∧
      List.Forall₂ SameTurn (past.filter (·.input.isTurn)) flightPast := by
  induction run with
  | start began => exact ⟨[], _, .start began, .refl _, .nil⟩
  | @step past system input run permitted ih =>
      obtain ⟨flightPast, runtime, flight, projects, turns⟩ := ih
      obtain ⟨notStopped, turnAllowed⟩ := permitted
      cases input with
      | turn turn =>
          obtain ⟨results, projected⟩ := projects
          have granted := turnAllowed turn rfl
          rw [projected] at granted
          have same : system.runtime.turn turn =
              runtime.turn { turn with inputs := results.map .nmpcResult ++ turn.inputs } := by
            rw [projected, FlightRuntime.turn_receiveAll]
          have after : (system.takeTurn turn).1.runtime =
              (runtime.turn { turn with inputs := results.map .nmpcResult ++ turn.inputs }).1 :=
            (system.takeTurn_runtime turn).trans (congrArg Prod.fst same)
          refine ⟨_, _, flight.step _ (absorbs runtime results turn granted), ⟨[], after⟩, ?_⟩
          rw [List.filter_cons_of_pos rfl]
          refine .cons ⟨⟨turn, results, rfl, rfl⟩, ?_, after⟩ turns
          change (system.takeTurn turn).2 = _
          rw [takeTurn_outcome, same]
          rfl
      | handle clock accepts =>
          exact ⟨flightPast, runtime, flight, projects.handleNext clock accepts, turns⟩
      | solve outcome => exact ⟨flightPast, runtime, flight, projects.solve outcome, turns⟩
      | commit => exact ⟨flightPast, runtime, flight, projects.commit, turns⟩
      | stop => exact (notStopped rfl).elim

/-- Results say nothing about the ground, the configuration or the snapshot. -/
theorem absorbs_flightEnvironment : Absorbs (flightEnvironment []) := by
  intro runtime results turn granted
  have others : ∀ input ∈ results.map FlightInput.nmpcResult,
      ∀ config, input ≠ .configure config := by
    intro input member config same
    obtain ⟨result, -, rfl⟩ := List.mem_map.mp member
    cases same
  obtain ⟨fixed, follows⟩ := granted
  unfold fixedInFlight at fixed
  unfold positionsFollowStreams at follows
  rw [FlightRuntime.receiveAll_sensorData] at follows
  rw [FlightRuntime.receiveAll_onTheGround, FlightRuntime.receiveAll_sensorData,
    FlightRuntime.prepare_receiveAll, DroneController.backend, DroneController.backend,
    FlightRuntime.receiveAll_config runtime others] at fixed
  exact ⟨fixed, follows⟩

end NmpcSystem

end MultirotorController
