import MultirotorController.Control.ExactMath
import MultirotorController.Driver.NmpcSolverWorker
import MultirotorController.Lib.TwoRuns
import MultirotorController.Uav.SolverSessions

/-!
# Sessions of the solver worker

Two workers with different histories are given the same requests of a new
generation. Until one of them enters the backend they need not agree on anything;
from then on they serve the same session. Only the status of the solver outlives
a generation, and it is reported before the first solve of the next one.
-/

namespace MultirotorController

open UavNmpcTrackingBackend

/-- An input that is no active request of the generation. -/
def WorkerInput.isOutside (generation : Nat) : WorkerInput → Bool
  | .solve active request => !active || request.generation != generation
  | .stop => true

/-- A result, except for the status of the solver. -/
def NmpcSolveResult.withoutStatus (result : NmpcSolveResult) : NmpcSolveResult :=
  { result with solverStatus := 0 }

namespace NmpcSolverWorker

variable [Libm] [Acados]

/-- Nothing has been entered in the generation yet. -/
structure Waiting (generation : Nat) (worker : NmpcSolverWorker) : Prop where
  sound : worker.backend.solver.Sound
  fresh : worker.enteredGeneration = generation → worker.entered = false

/-- Both workers are in the generation, and their backends in the same session. -/
structure Serving (generation : Nat) (first second : NmpcSolverWorker) : Prop where
  firstGeneration : first.enteredGeneration = generation
  secondGeneration : second.enteredGeneration = generation
  firstEntered : first.entered = true
  secondEntered : second.entered = true
  session : SameSession first.backend second.backend

def Related (generation : Nat) (first second : NmpcSolverWorker) : Prop :=
  Waiting generation first ∧ Waiting generation second ∨ Serving generation first second

omit [Libm] in
theorem waiting_initial (generation : Nat) : Waiting generation {} :=
  ⟨UavNmpcSolver.sound_constructed, fun _ => rfl⟩

def solverStatus (worker : NmpcSolverWorker) : Int := worker.backend.solver.solverStatus

/-- A pair of steps that leaves both statuses. -/
structure KeepsStatus (first second after after' : NmpcSolverWorker) : Prop where
  first : after.solverStatus = first.solverStatus
  second : after'.solverStatus = second.solverStatus

omit [Libm] in
/-- A worker that waits enters its backend for the request, whatever the backend was before. -/
theorem Waiting.ready [Libm] {generation : Nat} {worker : NmpcSolverWorker}
    (waiting : Waiting generation worker) {request : NmpcRequest}
    (inGeneration : request.generation = generation) :
    ∃ backend : UavNmpcTrackingBackend, backend.solver = worker.backend.solver ∧
      backend.config = request.config ∧
      worker.ready request =
        { backend := backend.enter.1, entered := backend.enter.2,
          enteredGeneration := generation } := by
  subst inGeneration
  unfold NmpcSolverWorker.ready
  by_cases changes : worker.enteredGeneration = request.generation
  · have out := waiting.fresh changes
    refine ⟨worker.backend.configure request.config, rfl, rfl, ?_⟩
    simp only [changes, ne_eq, not_true_eq_false, if_false, out, Bool.false_eq_true]
  · refine ⟨(worker.backend.configure request.config).exit, rfl, rfl, ?_⟩
    simp only [changes, ne_eq, not_false_eq_true, if_true, Bool.false_eq_true, if_false]

omit [Libm] in
theorem Serving.ready [Libm] {generation : Nat} {first second : NmpcSolverWorker}
    (serving : Serving generation first second) {request : NmpcRequest}
    (inGeneration : request.generation = generation) :
    first.ready request = { first with backend := first.backend.configure request.config } ∧
      second.ready request =
        { second with backend := second.backend.configure request.config } := by
  have same (worker : NmpcSolverWorker) (current : worker.enteredGeneration = generation)
      (entered : worker.entered = true) :
      worker.ready request =
        { worker with backend := worker.backend.configure request.config } := by
    unfold NmpcSolverWorker.ready
    simp only [current, inGeneration, ne_eq, not_true_eq_false, if_false, entered, if_true]
  exact ⟨same first serving.firstGeneration serving.firstEntered,
    same second serving.secondGeneration serving.secondEntered⟩

/-- Related workers enter the backend alike. -/
theorem Related.ready {generation : Nat} {first second : NmpcSolverWorker}
    (related : Related generation first second) {request : NmpcRequest}
    (inGeneration : request.generation = generation) :
    (first.ready request).entered = (second.ready request).entered ∧
      KeepsStatus first second (first.ready request) (second.ready request) ∧
      if (first.ready request).entered then
        Serving generation (first.ready request) (second.ready request)
      else
        Waiting generation (first.ready request) ∧ Waiting generation (second.ready request) := by
  rcases related with ⟨waiting, waiting'⟩ | serving
  · obtain ⟨backend, sameSolver, config, isReady⟩ := waiting.ready inGeneration
    obtain ⟨backend', sameSolver', config', isReady'⟩ := waiting'.ready inGeneration
    obtain ⟨enters, sound, sound', status, status', session⟩ := enter_alike
      (sameSolver ▸ waiting.sound) (sameSolver' ▸ waiting'.sound) (config.trans config'.symm)
    rw [isReady, isReady']
    rw [sameSolver] at status
    rw [sameSolver'] at status'
    refine ⟨enters, ⟨status, status'⟩, ?_⟩
    dsimp only
    cases entered : backend.enter.2 with
    | false =>
        rw [entered] at enters
        exact ⟨⟨sound, fun _ => rfl⟩, ⟨sound', fun _ => enters.symm⟩⟩
    | true =>
        rw [entered] at enters
        exact ⟨rfl, rfl, rfl, enters.symm, session entered⟩
  · obtain ⟨isReady, isReady'⟩ := serving.ready inGeneration
    have configured := serving.session.remembers (Remembers.configure request.config)
    rw [isReady, isReady']
    refine ⟨serving.firstEntered.trans serving.secondEntered.symm,
      ⟨configured.firstStatus, configured.secondStatus⟩, ?_⟩
    rw [if_pos serving.firstEntered]
    exact ⟨serving.firstGeneration, serving.secondGeneration, serving.firstEntered,
      serving.secondEntered, configured.session⟩

variable [Eigen] [LibmExp] [Se3Packing]

/-- Whether the solver library is asked for a request. -/
def reachesSolve (worker : NmpcSolverWorker) (active : Bool) (request : NmpcRequest) : Bool :=
  active && (worker.ready request).entered &&
    (worker.ready request).backend.reachesSolve request.sensor request.references request.now

/-- Whether a request is answered with the status of the solver. -/
def reports (worker : NmpcSolverWorker) (active : Bool) (request : NmpcRequest) : Bool :=
  active && (worker.ready request).entered && ((worker.ready request).compute request).2.isOk

omit [Libm] [Acados] [Eigen] [LibmExp] [Se3Packing] in
/-- A computed answer with the status left out. -/
theorem answers_alike (outcome : Except RuntimeError (Option AttitudeRateTarget))
    (request : NmpcRequest) (status status' : Int) :
    (outcome.map fun target => request.answer {
        success := target.isSome, solverStatus := status, target := target.getD {} }) =
      (outcome.map fun target => request.answer {
        success := target.isSome, solverStatus := status', target := target.getD {} }) ↔
      status = status' ∨ outcome.isOk = false := by
  cases outcome with
  | error error => simp [Except.map, Except.isOk, Except.toBool]
  | ok target => simp [Except.map, Except.isOk, Except.toBool, NmpcRequest.answer]

omit [Libm] [Acados] [Eigen] [LibmExp] [Se3Packing] in
theorem isOk_withoutStatus (answer : Except RuntimeError NmpcSolveResult) :
    (answer.map NmpcSolveResult.withoutStatus).isOk = answer.isOk := by
  cases answer <;> rfl

/-- The backend answers a request of its session alike, but for a status that is still old. -/
theorem Serving.compute {generation : Nat} {first second : NmpcSolverWorker}
    (serving : Serving generation first second) (request : NmpcRequest) :
    Serving generation (first.compute request).1 (second.compute request).1 ∧
      (first.compute request).2.map NmpcSolveResult.withoutStatus =
        (second.compute request).2.map NmpcSolveResult.withoutStatus ∧
      first.backend.reachesSolve request.sensor request.references request.now =
        second.backend.reachesSolve request.sensor request.references request.now ∧
      if first.backend.reachesSolve request.sensor request.references request.now then
        (first.compute request).2 = (second.compute request).2 ∧
          (first.compute request).1.solverStatus = (second.compute request).1.solverStatus
      else
        KeepsStatus first second (first.compute request).1 (second.compute request).1 ∧
          ((first.compute request).2 = (second.compute request).2 ↔
            first.solverStatus = second.solverStatus ∨
              (first.compute request).2.isOk = false) := by
  obtain ⟨generation₁, generation₂, entered₁, entered₂, session⟩ := serving
  obtain ⟨reaches, outcome, after, statuses⟩ :=
    session.compute request.sensor request.references request.now
  unfold NmpcSolverWorker.compute NmpcSolverWorker.solverStatus
  generalize first.backend.compute request.sensor request.references request.now = computed at *
  generalize second.backend.compute request.sensor request.references request.now = computed' at *
  obtain ⟨backend, answer⟩ := computed
  obtain ⟨backend', answer'⟩ := computed'
  dsimp only at outcome after statuses ⊢
  subst outcome
  refine ⟨⟨generation₁, generation₂, entered₁, entered₂, after⟩, ?_, reaches, ?_⟩
  · cases answer <;> rfl
  · cases asked : first.backend.reachesSolve request.sensor request.references request.now with
    | true =>
        rw [if_pos asked] at statuses
        rw [statuses]
        exact ⟨rfl, rfl⟩
    | false =>
        rw [asked] at statuses
        obtain ⟨kept, kept'⟩ := statuses
        refine ⟨⟨kept, kept'⟩, ?_⟩
        rw [answers_alike, kept, kept']
        cases answer <;> rfl

/-- A request of the generation is answered alike, but for a status that is still old. -/
theorem Related.solve {generation : Nat} {first second : NmpcSolverWorker}
    (related : Related generation first second) (active : Bool) {request : NmpcRequest}
    (inGeneration : request.generation = generation) :
    Related generation (first.solve active request).1 (second.solve active request).1 ∧
      (first.solve active request).2.map NmpcSolveResult.withoutStatus =
        (second.solve active request).2.map NmpcSolveResult.withoutStatus ∧
      first.reachesSolve active request = second.reachesSolve active request ∧
      first.reports active request = second.reports active request ∧
      if first.reachesSolve active request then
        (first.solve active request).2 = (second.solve active request).2 ∧
          (first.solve active request).1.solverStatus =
            (second.solve active request).1.solverStatus
      else
        KeepsStatus first second (first.solve active request).1 (second.solve active request).1 ∧
          ((first.solve active request).2 = (second.solve active request).2 ↔
            first.solverStatus = second.solverStatus ∨ first.reports active request = false) := by
  cases active with
  | false => exact ⟨related, rfl, rfl, rfl, ⟨rfl, rfl⟩, fun _ => .inr rfl, fun _ => rfl⟩
  | true =>
      obtain ⟨enters, kept, after⟩ := related.ready inGeneration
      unfold reachesSolve reports
      rw [solve_active, solve_active, ← enters]
      cases entered : (first.ready request).entered with
      | false =>
          rw [entered] at after
          exact ⟨.inl after, rfl, rfl, rfl, kept, fun _ => .inr rfl, fun _ => rfl⟩
      | true =>
          rw [if_pos entered] at after
          obtain ⟨serving, answers, reaches, statuses⟩ := after.compute request
          simp only [if_true, Bool.and_self, Bool.true_and]
          refine ⟨.inr serving, answers, reaches, ?_, ?_⟩
          · rw [← isOk_withoutStatus, answers, isOk_withoutStatus]
          · cases asked : (first.ready request).backend.reachesSolve request.sensor
                request.references request.now with
            | true =>
                rw [if_pos asked] at statuses
                exact statuses
            | false =>
                rw [asked] at statuses
                obtain ⟨unasked, agree⟩ := statuses
                rw [kept.first, kept.second] at agree
                exact ⟨⟨unasked.first.trans kept.first, unasked.second.trans kept.second⟩, agree⟩

/-- What the worker answers to requests, given whether the generation of each is active. -/
def answers (worker : NmpcSolverWorker) (requests : List (Bool × NmpcRequest)) :
    List (Option (Except RuntimeError NmpcSolveResult)) :=
  workerMachine.outputs worker (requests.map fun asked => .solve asked.1 asked.2)

/-- Whether a request is answered with the status of the solver before the solver is asked. -/
def reportsEarly : NmpcSolverWorker → List (Bool × NmpcRequest) → Bool
  | _, [] => false
  | worker, (active, request) :: rest =>
      if worker.reachesSolve active request then false
      else worker.reports active request || reportsEarly (worker.solve active request).1 rest

theorem answers_cons (worker : NmpcSolverWorker) (active : Bool) (request : NmpcRequest)
    (rest : List (Bool × NmpcRequest)) :
    worker.answers ((active, request) :: rest) =
      some (worker.solve active request).2 :: (worker.solve active request).1.answers rest := rfl

section Answers

variable {generation : Nat} {first second : NmpcSolverWorker}
  {requests : List (Bool × NmpcRequest)}

/-- Related workers report early for the same requests. -/
theorem Related.reportsEarly (related : Related generation first second)
    (inGeneration : ∀ asked ∈ requests, asked.2.generation = generation) :
    first.reportsEarly requests = second.reportsEarly requests := by
  induction requests generalizing first second with
  | nil => rfl
  | cons asked rest ih =>
      obtain ⟨active, request⟩ := asked
      obtain ⟨now, later⟩ := List.forall_mem_cons.mp inGeneration
      obtain ⟨after, -, reaches, reports, -⟩ := related.solve active now
      change (if first.reachesSolve active request then false
        else first.reports active request || (first.solve active request).1.reportsEarly rest) =
        if second.reachesSolve active request then false
        else second.reports active request || (second.solve active request).1.reportsEarly rest
      rw [reaches, reports, ih after later]

/-- The answers of related workers differ in their statuses at most. -/
theorem Related.answers_withoutStatus (related : Related generation first second)
    (inGeneration : ∀ asked ∈ requests, asked.2.generation = generation) :
    (first.answers requests).map (Option.map (Except.map NmpcSolveResult.withoutStatus)) =
      (second.answers requests).map (Option.map (Except.map NmpcSolveResult.withoutStatus)) := by
  induction requests generalizing first second with
  | nil => rfl
  | cons asked rest ih =>
      obtain ⟨active, request⟩ := asked
      obtain ⟨now, later⟩ := List.forall_mem_cons.mp inGeneration
      obtain ⟨after, same, -⟩ := related.solve active now
      rw [answers_cons, answers_cons, List.map_cons, List.map_cons, ih after later]
      exact congrArg (some · :: _) same

/-- Related workers with the same status answer the same. -/
theorem Related.answers_eq (related : Related generation first second)
    (sameStatus : first.solverStatus = second.solverStatus)
    (inGeneration : ∀ asked ∈ requests, asked.2.generation = generation) :
    first.answers requests = second.answers requests := by
  refine Machine.outputs_eq (fun first second => Related generation first second ∧
    first.solverStatus = second.solverStatus) ?_ ⟨related, sameStatus⟩
  intro input member first second ⟨related, sameStatus⟩
  obtain ⟨⟨active, request⟩, mem, rfl⟩ := List.mem_map.mp member
  obtain ⟨after, -, -, -, rest⟩ := related.solve active (inGeneration _ mem)
  change some (first.solve active request).2 = some (second.solve active request).2 ∧
    Related generation (first.solve active request).1 (second.solve active request).1 ∧
      (first.solve active request).1.solverStatus = (second.solve active request).1.solverStatus
  split at rest
  · exact ⟨congrArg some rest.1, after, rest.2⟩
  · obtain ⟨kept, agree⟩ := rest
    exact ⟨congrArg some (agree.mpr (.inl sameStatus)), after,
      kept.first.trans (sameStatus.trans kept.second.symm)⟩

/-- Related workers answer the same unless an old status is reported that differs. -/
theorem Related.answers_eq_iff (related : Related generation first second)
    (inGeneration : ∀ asked ∈ requests, asked.2.generation = generation) :
    first.answers requests = second.answers requests ↔
      first.solverStatus = second.solverStatus ∨ first.reportsEarly requests = false := by
  induction requests generalizing first second with
  | nil => exact ⟨fun _ => .inr rfl, fun _ => rfl⟩
  | cons asked rest ih =>
      obtain ⟨active, request⟩ := asked
      obtain ⟨now, later⟩ := List.forall_mem_cons.mp inGeneration
      obtain ⟨after, -, -, -, step⟩ := related.solve active now
      have early : first.reportsEarly ((active, request) :: rest) =
          if first.reachesSolve active request then false
          else first.reports active request ||
            (first.solve active request).1.reportsEarly rest := rfl
      rw [answers_cons, answers_cons, early, List.cons.injEq, Option.some.injEq]
      cases asked : first.reachesSolve active request with
      | true =>
          rw [if_pos asked] at step
          have others := after.answers_eq step.2 later
          exact ⟨fun _ => .inr rfl, fun _ => ⟨step.1, others⟩⟩
      | false =>
          rw [asked] at step
          obtain ⟨kept, agree⟩ := step
          rw [agree, ih after later, kept.first, kept.second]
          simp only [Bool.false_eq_true, if_false, Bool.or_eq_false_iff]
          tauto

end Answers

section Histories

omit [Eigen] [LibmExp] [Se3Packing] in
/-- A worker turned to a request is in its generation, with a sound backend. -/
theorem ready_sound {worker : NmpcSolverWorker} (sound : worker.backend.Sound)
    (request : NmpcRequest) :
    (worker.ready request).backend.Sound ∧
      (worker.ready request).enteredGeneration = request.generation := by
  have configured : (worker.backend.configure request.config).Sound := ⟨sound.solver, sound.entered⟩
  unfold NmpcSolverWorker.ready
  by_cases changes : worker.enteredGeneration = request.generation
  · simp only [changes, ne_eq, not_true_eq_false, if_false]
    cases worker.entered with
    | true => exact ⟨configured, rfl⟩
    | false => exact ⟨enter_sound configured.solver, rfl⟩
  · have left : (worker.backend.configure request.config).exit.solver.Sound := sound.solver
    simp only [changes, ne_eq, not_false_eq_true, if_true, Bool.false_eq_true, if_false]
    exact ⟨enter_sound left, trivial⟩

/-- Whatever happens in other generations, a new one finds nothing entered. -/
theorem waiting_after (generation : Nat) {history : List WorkerInput}
    (outside : ∀ input ∈ history, input.isOutside generation = true) :
    Waiting generation (workerMachine.final {} history) := by
  have kept : Waiting generation (workerMachine.final {} history) ∧
      (workerMachine.final {} history).backend.Sound := by
    refine Machine.final_of_step
      (fun worker => Waiting generation worker ∧ worker.backend.Sound) ?_
      ⟨waiting_initial generation, UavNmpcSolver.sound_constructed, fun entered => by cases entered⟩
    intro input member worker ⟨waiting, sound⟩
    have isOutside := outside input member
    cases input with
    | stop => exact ⟨⟨waiting.sound, waiting.fresh⟩, sound.solver, fun entered => by cases entered⟩
    | solve active request =>
        change Waiting generation (worker.solve active request).1 ∧
          (worker.solve active request).1.backend.Sound
        cases active with
        | false => exact ⟨waiting, sound⟩
        | true =>
            have elsewhere : request.generation ≠ generation := by
              simpa [WorkerInput.isOutside] using isOutside
            obtain ⟨readied, current⟩ := ready_sound sound request
            rw [solve_active]
            split
            · have computed := readied.compute request.sensor request.references request.now
              exact ⟨⟨computed.solver, fun same => absurd (current.symm.trans same) elsewhere⟩,
                computed⟩
            · exact ⟨⟨readied.solver, fun same => absurd (current.symm.trans same) elsewhere⟩,
                readied⟩
  exact kept.1

/-- Two histories without a request of the generation are followed by the same requests of it. All
answers agree but for the status, and they agree on the status too unless an old one is reported
before the first solve. -/
theorem sessions_independent (generation : Nat) {first second : List WorkerInput}
    {requests : List (Bool × NmpcRequest)}
    (firstOutside : ∀ input ∈ first, input.isOutside generation = true)
    (secondOutside : ∀ input ∈ second, input.isOutside generation = true)
    (inGeneration : ∀ asked ∈ requests, asked.2.generation = generation) :
    ((workerMachine.final {} first).answers requests).map
        (Option.map (Except.map NmpcSolveResult.withoutStatus)) =
      ((workerMachine.final {} second).answers requests).map
        (Option.map (Except.map NmpcSolveResult.withoutStatus)) ∧
    ((workerMachine.final {} first).answers requests =
        (workerMachine.final {} second).answers requests ↔
      (workerMachine.final {} first).solverStatus = (workerMachine.final {} second).solverStatus ∨
        ({} : NmpcSolverWorker).reportsEarly requests = false) := by
  have waiting := waiting_after generation firstOutside
  have related : Related generation (workerMachine.final {} first)
      (workerMachine.final {} second) := .inl ⟨waiting, waiting_after generation secondOutside⟩
  have new : Related generation {} (workerMachine.final {} first) :=
    .inl ⟨waiting_initial generation, waiting⟩
  refine ⟨related.answers_withoutStatus inGeneration, ?_⟩
  rw [new.reportsEarly inGeneration]
  exact related.answers_eq_iff inGeneration

end Histories

end NmpcSolverWorker

/-! Two histories before a generation, evaluated with a solver that returns its guesses. -/

namespace EchoSolver

/-- The decompositions of a level attitude. -/
scoped instance : Eigen where
  jacobiSvd rotation := (rotation, ⟨.unitX, .unitY, .unitZ⟩)
  angleAxis _ := (0, .unitX)
  quaternion _ := { w := 1 }

scoped instance : LibmExp := ⟨fun x => 1 + x⟩

scoped instance : Acados where
  create := true
  created := { bounds := ⟨{}, {}, {}, {}⟩ }
  setBounds _ := true
  setInitialState _ := true
  solve capsule := (0, capsule.x, capsule.u)

scoped instance : Se3Packing where
  packState state :=
    { position := state.position, velocity := state.velocity, attitude := state.attitude,
      bodyRate := state.bodyRate }
  quaternionToVectorWxyz attitude := attitude

end EchoSolver

/-- A level hover at the origin, with a hover thrust estimate. -/
def hoveringRequest : NmpcRequest :=
  { sequence := 1
    generation := 1
    now := ⟨1, 0⟩
    sensor := {
      uavStateEstimatorState := StateEstimate.stateRunning
      uavStateEstimateStats := { isActive := true }
      qw := 1
      hoverThrustEstimateAvailable := true
      hoverThrustEstimate := 0.5
      hoverThrustEstimateStamp := 1 }
    config := { nmpc := { hoverThrustEnabled := true } }
    references := List.replicate (UavNmpcSolver.horizonSteps + 2) {
      state := { attitude := { w := 1 } }
      bodyZSpecificForce := 9.8066 } }

/-- The next generation begins without a hover thrust estimate. -/
def uncertainRequest : NmpcRequest :=
  { hoveringRequest with
    sequence := 2
    generation := 2
    now := ⟨2, 0⟩
    sensor := { hoveringRequest.sensor with hoverThrustEstimateAvailable := false } }

section HoveringBefore

open NmpcSolverWorker ExactMath EchoSolver

/-- The histories with and without a solve in generation 1 are told apart in generation 2. -/
theorem solve_remembered :
    WorkerInput.isOutside 2 (.solve true hoveringRequest) = true ∧
    ({} : NmpcSolverWorker).answers [(true, uncertainRequest)] =
      [some (.ok (uncertainRequest.answer { solverStatus := -1 }))] ∧
    (workerMachine.final {} [.solve true hoveringRequest]).answers [(true, uncertainRequest)] =
      [some (.ok (uncertainRequest.answer { solverStatus := 0 }))] := by
  decide +kernel

theorem sessions_independent_hovering :
    (({} : NmpcSolverWorker).answers [(true, uncertainRequest)]).map
        (Option.map (Except.map NmpcSolveResult.withoutStatus)) =
      ((workerMachine.final {} [.solve true hoveringRequest]).answers
        [(true, uncertainRequest)]).map (Option.map (Except.map NmpcSolveResult.withoutStatus)) ∧
    (({} : NmpcSolverWorker).answers [(true, uncertainRequest)] =
        (workerMachine.final {} [.solve true hoveringRequest]).answers [(true, uncertainRequest)] ↔
      ({} : NmpcSolverWorker).solverStatus =
          (workerMachine.final {} [.solve true hoveringRequest]).solverStatus ∨
        ({} : NmpcSolverWorker).reportsEarly [(true, uncertainRequest)] = false) :=
  sessions_independent 2 (List.forall_mem_nil _) (by decide) (by decide)

end HoveringBefore

end MultirotorController
