import MultirotorController.Uav.FlightUpdate

/-!
# NMPC execution

The dispatcher between the flight machine and the solver. A request is answered by
the completion of the one worker, or at once by a rejection, and either answer goes
through the result buffer. The solver may answer anything at any time; waking the
owner and the diagnostics are left out.
-/

namespace MultirotorController

open Control

structure FlightNmpcRequest where
  timestamp : Double
  sequence : Nat
  generation : Nat
deriving DecidableEq, Repr

/-- The requests among the effects of an update. -/
def nmpcRequests (effects : List FlightEffect) : List FlightNmpcRequest :=
  effects.filterMap fun
    | .nmpcRequest timestamp sequence generation => some ⟨timestamp, sequence, generation⟩
    | _ => none

/-- What the worker is given: a snapshot and the sampled horizon. -/
structure NmpcRequest where
  sequence : Nat := 0
  generation : Nat := 0
  now : Time := {}
  sensor : SensorData := {}
  config : ControllerConfig := {}
  references : List Se3Reference := []
deriving DecidableEq, Repr

/-- An outcome of the solver under the identity and the stamp of its request. -/
def NmpcRequest.answer (request : NmpcRequest) (outcome : NmpcSolveResult) : NmpcSolveResult :=
  { outcome with
    sequence := request.sequence
    controlGeneration := request.generation
    stamp := request.now }

/-- The worker runs one request, until its completion is committed. -/
inductive NmpcWorker where
  | idle
  | solving (request : NmpcRequest)
  | solved (result : NmpcSolveResult)
deriving DecidableEq, Repr

namespace NmpcExecution

def storeResult (controller : DroneController) (result : NmpcSolveResult) : DroneController :=
  { controller with nmpcResultBuffer := (controller.nmpcResultBuffer.store result).1 }

/-- A rejection is stamped by the clock, not by the request. -/
def reject (controller : DroneController) (clock : Time) (effect : FlightNmpcRequest)
    (solverStatus : Int) : DroneController :=
  storeResult controller {
    sequence := effect.sequence
    controlGeneration := effect.generation
    success := false
    solverStatus
    stamp := clock }

variable [Xgc2Math]

/-- `accepts` is the answer of an idle worker, which refuses when it is not started or is
closed; a busy one always refuses. -/
def handle (controller : DroneController) (worker : NmpcWorker) (clock : Time) (accepts : Bool)
    (effect : FlightNmpcRequest) : Except RuntimeError (DroneController × NmpcWorker) := do
  if !effect.timestamp.isFinite then return (controller, worker)
  if !controller.nmpcResultBuffer.isGenerationActive effect.generation then
    return (controller, worker)
  let config := controller.config
  let now ← Time.fromSec (if 0 < effect.timestamp then effect.timestamp else clock.toSec)
  let stageDt := config.nmpc.predictionHorizon / .fin UavNmpcSolver.horizonSteps
  match ← controller.activeTrajectoryCache.sampleHorizon now stageDt UavNmpcSolver.horizonSteps
      config.nmpc.gravity with
  | none =>
      return (reject controller clock effect NmpcSolverStatus.kReferenceSamplingFailed, worker)
  | some references =>
      if worker = .idle ∧ accepts then
        return (controller, .solving {
          sequence := effect.sequence
          generation := effect.generation
          now, config, references
          sensor := controller.sensorData })
      else return (reject controller clock effect NmpcSolverStatus.kDispatcherBusy, worker)

/-- Handling a request drops it, rejects it, or hands it to the worker. -/
theorem handle_cases {controller controller' : DroneController} {worker worker' : NmpcWorker}
    {clock : Time} {accepts : Bool} {effect : FlightNmpcRequest}
    (handled : handle controller worker clock accepts effect = .ok (controller', worker')) :
    (worker' = worker ∧ (controller' = controller ∨
      ∃ result, result.success = false ∧ controller' = storeResult controller result)) ∨
    controller' = controller ∧ ∃ request, worker' = .solving request ∧
      controller.nmpcResultBuffer.isGenerationActive request.generation = true := by
  unfold handle at handled
  split at handled
  · cases handled
    exact .inl ⟨rfl, .inl rfl⟩
  · split at handled
    · cases handled
      exact .inl ⟨rfl, .inl rfl⟩
    next active =>
      have active : controller.nmpcResultBuffer.isGenerationActive effect.generation = true := by
        simpa using active
      obtain ⟨now, -, handled⟩ := Procedure.bind_eq_ok handled
      obtain ⟨sampled, -, handled⟩ := Procedure.bind_eq_ok handled
      cases sampled with
      | none =>
          cases handled
          exact .inl ⟨rfl, .inr ⟨_, rfl, rfl⟩⟩
      | some references =>
          dsimp only at handled
          split at handled
          · cases handled
            exact .inr ⟨rfl, _, rfl, active⟩
          · cases handled
            exact .inl ⟨rfl, .inr ⟨_, rfl, rfl⟩⟩

/-- A request that is handed to the worker carries the configuration of that moment. -/
theorem handle_config {controller controller' : DroneController} {worker : NmpcWorker}
    {request : NmpcRequest} {clock : Time} {accepts : Bool} {effect : FlightNmpcRequest}
    (handled : handle controller worker clock accepts effect =
      .ok (controller', .solving request)) :
    worker = .solving request ∨ request.config = controller.config := by
  unfold handle at handled
  split at handled
  · cases handled
    exact .inl rfl
  · split at handled
    · cases handled
      exact .inl rfl
    · obtain ⟨now, -, handled⟩ := Procedure.bind_eq_ok handled
      obtain ⟨sampled, -, handled⟩ := Procedure.bind_eq_ok handled
      cases sampled with
      | none =>
          cases handled
          exact .inl rfl
      | some references =>
          dsimp only at handled
          split at handled
          · cases handled
            exact .inr rfl
          · cases handled
            exact .inl rfl

/-- A request of a generation that is no longer active is answered without the solver. -/
def solve (controller : DroneController) (request : NmpcRequest) (outcome : NmpcSolveResult) :
    NmpcSolveResult :=
  if controller.nmpcResultBuffer.isGenerationActive request.generation then
    request.answer outcome
  else request.answer {}

end NmpcExecution

variable [Xgc2Math] [Libm]

/-- The controller with its dispatcher, its worker and the requests on their way. -/
structure NmpcSystem where
  runtime : FlightRuntime
  worker : NmpcWorker := .idle
  waiting : List FlightNmpcRequest := []

inductive NmpcInput where
  | turn (turn : Turn)
  | handle (clock : Time) (accepts : Bool)
  | solve (outcome : NmpcSolveResult)
  | commit
  | stop
deriving DecidableEq, Repr

namespace NmpcSystem

variable (system : NmpcSystem)

def buffer : NmpcResultBuffer := system.runtime.controller.nmpcResultBuffer

def withController (controller : DroneController) : NmpcSystem :=
  { system with runtime := { system.runtime with controller } }

/-- The oldest waiting request is handled; one that throws is gone. -/
def handleNext (clock : Time) (accepts : Bool) : NmpcSystem × Except RuntimeError Unit :=
  match system.waiting with
  | [] => (system, .ok ())
  | effect :: waiting =>
      match NmpcExecution.handle system.runtime.controller system.worker clock accepts effect with
      | .ok (controller, worker) =>
          ({ system.withController controller with worker, waiting }, .ok ())
      | .error error => ({ system with waiting }, .error error)

def solve (outcome : NmpcSolveResult) : NmpcSystem :=
  match system.worker with
  | .solving request =>
      { system with
        worker := .solved (NmpcExecution.solve system.runtime.controller request outcome) }
  | _ => system

def commit : NmpcSystem :=
  match system.worker with
  | .solved result =>
      { system.withController (NmpcExecution.storeResult system.runtime.controller result) with
        worker := .idle }
  | _ => system

/-- The running request is not interrupted; closing the worker only makes it refuse. -/
def stop : NmpcSystem :=
  system.withController { system.runtime.controller with
    nmpcResultBuffer := system.buffer.invalidateGeneration 0 }

/-- The requests of a completed update wait; those of an update that throws are lost. -/
def takeTurn (turn : Turn) : NmpcSystem × Except RuntimeError Unit :=
  let (runtime, outcome) := system.runtime.turn turn
  match outcome with
  | .ok _ =>
      ({ system with
          runtime
          waiting := system.waiting ++ nmpcRequests runtime.controller.flightEffects }, .ok ())
  | .error error => ({ system with runtime }, .error error)

theorem takeTurn_runtime (turn : Turn) :
    (system.takeTurn turn).1.runtime = (system.runtime.turn turn).1 := by
  unfold takeTurn
  dsimp only
  split <;> rfl

theorem takeTurn_worker (turn : Turn) : (system.takeTurn turn).1.worker = system.worker := by
  unfold takeTurn
  dsimp only
  split <;> rfl

def step : NmpcInput → NmpcSystem × Except RuntimeError Unit
  | .turn turn => system.takeTurn turn
  | .handle clock accepts => system.handleNext clock accepts
  | .solve outcome => (system.solve outcome, .ok ())
  | .commit => (system.commit, .ok ())
  | .stop => (system.stop, .ok ())

/-- A step other than a turn writes nothing but the result buffer; it opens no generation and
reserves no request. -/
structure Quiet (before after : NmpcSystem) : Prop where
  leaf : after.runtime.leaf = before.runtime.leaf
  controller : after.runtime.controller =
    { before.runtime.controller with nmpcResultBuffer := after.buffer }
  generations : after.buffer.generationCounter = before.buffer.generationCounter
  requests : after.buffer.requestCounter = before.buffer.requestCounter
  closed : before.buffer.activeGeneration = 0 → after.buffer.activeGeneration = 0

omit [Libm] in
theorem Quiet.of_runtime {before after : NmpcSystem} (same : after.runtime = before.runtime) :
    Quiet before after := by
  refine ⟨by rw [same], ?_, ?_, ?_, ?_⟩ <;> simp [buffer, same]

omit [Libm] in
theorem Quiet.storeResult {after : NmpcSystem} (result : NmpcSolveResult)
    (same : after.runtime =
      (system.withController
        (NmpcExecution.storeResult system.runtime.controller result)).runtime) :
    Quiet system after := by
  have stored : after.buffer = (system.buffer.store result).1 := by
    rw [buffer, same]
    rfl
  refine ⟨by rw [same]; rfl, by rw [stored, same]; rfl, ?_, ?_, ?_⟩
  all_goals
    rw [stored]
    rcases system.buffer.store_cases result with refused | ⟨written, -⟩
    · simp [refused]
    · simp [written]

omit [Libm] in
theorem Quiet.currentTime {before after : NmpcSystem} (quiet : Quiet before after) :
    after.runtime.controller.currentTime = before.runtime.controller.currentTime := by
  rw [quiet.controller]

omit [Libm] in
theorem handleNext_quiet (clock : Time) (accepts : Bool) :
    Quiet system (system.handleNext clock accepts).1 := by
  unfold handleNext
  split
  · exact .of_runtime rfl
  · split
    next controller worker handled =>
      rcases NmpcExecution.handle_cases handled with
        ⟨-, same | ⟨result, -, rejected⟩⟩ | ⟨same, -⟩
      · exact .of_runtime (by rw [same]; rfl)
      · exact .storeResult _ result (by rw [rejected])
      · exact .of_runtime (by rw [same]; rfl)
    · exact .of_runtime rfl

omit [Libm] in
theorem solve_quiet (outcome : NmpcSolveResult) : Quiet system (system.solve outcome) := by
  unfold solve
  split <;> exact .of_runtime rfl

omit [Libm] in
theorem commit_quiet : Quiet system system.commit := by
  unfold commit
  split
  · exact .storeResult _ _ rfl
  · exact .of_runtime rfl

omit [Libm] in
theorem stop_quiet : Quiet system system.stop := ⟨rfl, rfl, rfl, rfl, fun _ => rfl⟩

/-- A turn ends at its own time; nothing else moves the clock. -/
theorem step_currentTime (input : NmpcInput) :
    (system.step input).1.runtime.controller.currentTime =
      match input with
      | .turn turn => turn.now.toSec
      | _ => system.runtime.controller.currentTime := by
  cases input with
  | turn turn =>
      change (system.takeTurn turn).1.runtime.controller.currentTime = _
      rw [takeTurn_runtime]
      exact ((system.runtime.prepare turn).update_circumstances turn.now).2.2
  | handle clock accepts => exact (system.handleNext_quiet clock accepts).currentTime
  | solve outcome => exact (system.solve_quiet outcome).currentTime
  | commit => exact system.commit_quiet.currentTime
  | stop => rfl

/-- A constructed controller with an idle worker. -/
def Started : Prop := system.runtime.Started ∧ system.worker = .idle ∧ system.waiting = []

end NmpcSystem

def nmpcMachine : Machine NmpcSystem NmpcInput (Except RuntimeError Unit) where
  step := NmpcSystem.step

abbrev NmpcEvent := Machine.Event NmpcSystem NmpcInput (Except RuntimeError Unit)

end MultirotorController
