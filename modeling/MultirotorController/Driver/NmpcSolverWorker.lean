import MultirotorController.Driver.NmpcExecution
import MultirotorController.Uav.NmpcTrackingBackend

/-!
# The solver worker

The one worker behind the dispatcher. It keeps the backend from request to request
and enters it anew for every control generation; a request whose generation is no
longer active is answered without the backend. The time a solve takes is left out.
-/

namespace MultirotorController

structure NmpcSolverWorker where
  backend : UavNmpcTrackingBackend := {}
  entered : Bool := false
  enteredGeneration : Nat := 0
deriving DecidableEq, Repr

/-- What the worker is given: a request, and whether its generation is active then; or the end of
the dispatcher, which closes the backend. -/
inductive WorkerInput where
  | solve (active : Bool) (request : NmpcRequest)
  | stop
deriving DecidableEq, Repr

namespace NmpcSolverWorker

variable [Libm] [Eigen] [LibmExp] [Acados] [Se3Packing] (worker : NmpcSolverWorker)

omit [Eigen] [LibmExp] [Se3Packing] in
/-- The worker before the computation: a new generation leaves the backend and enters it again. -/
def ready (request : NmpcRequest) : NmpcSolverWorker :=
  let backend := worker.backend.configure request.config
  let worker : NmpcSolverWorker :=
    if worker.enteredGeneration ≠ request.generation then
      { backend := backend.exit, entered := false, enteredGeneration := request.generation }
    else { worker with backend }
  if worker.entered then worker
  else
    let (backend, entered) := worker.backend.enter
    { worker with backend, entered }

/-- The answer to a request that the backend computes. -/
def compute (request : NmpcRequest) : NmpcSolverWorker × Except RuntimeError NmpcSolveResult :=
  let (backend, outcome) :=
    worker.backend.compute request.sensor request.references request.now
  ({ worker with backend }, outcome.map fun target => request.answer {
    success := target.isSome
    solverStatus := backend.solver.solverStatus
    target := target.getD {} })

def solve (active : Bool) (request : NmpcRequest) :
    NmpcSolverWorker × Except RuntimeError NmpcSolveResult :=
  if !active then (worker, .ok (request.answer {}))
  else
    let worker := worker.ready request
    if worker.entered then worker.compute request
    else
      (worker, .ok (request.answer { solverStatus := NmpcSolverStatus.kBackendUnavailable }))

def step : WorkerInput → NmpcSolverWorker × Option (Except RuntimeError NmpcSolveResult)
  | .solve active request =>
      let (worker, result) := worker.solve active request
      (worker, some result)
  | .stop => ({ worker with backend := worker.backend.exit }, none)

theorem solve_inactive (request : NmpcRequest) :
    worker.solve false request = (worker, .ok (request.answer {})) := rfl

theorem solve_active (request : NmpcRequest) :
    worker.solve true request =
      if (worker.ready request).entered then (worker.ready request).compute request
      else (worker.ready request, .ok (request.answer {
        solverStatus := NmpcSolverStatus.kBackendUnavailable })) := rfl

end NmpcSolverWorker

def workerMachine [Libm] [Eigen] [LibmExp] [Acados] [Se3Packing] :
    Machine NmpcSolverWorker WorkerInput (Option (Except RuntimeError NmpcSolveResult)) where
  step := NmpcSolverWorker.step

end MultirotorController
