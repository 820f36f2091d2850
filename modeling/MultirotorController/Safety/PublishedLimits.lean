import MultirotorController.Driver.NmpcSolverWorker
import MultirotorController.Safety.NmpcReadiness
import MultirotorController.Safety.ResultIdentity
import MultirotorController.Uav.ComputeSteps
import MultirotorController.Uav.StateMachine.Custom1Targets

/-!
# Published attitudes stay within the limits

Under NMPC a target is computed by the worker, from the configuration that its request
carries and with the bounds that its session has locked, and it is published by a later
update, or by several. Under DFBC it is computed in the update that publishes it. In
both cases the limits are those of the configuration that is flown with, whatever the
solver and the law return.
-/

namespace MultirotorController

open Control UavNmpcTrackingBackend

namespace NmpcSolverWorker

variable [Libm] [Acados]

/-- The bounds of an entered session are known if they are locked. -/
def Known (worker : NmpcSolverWorker) : Prop :=
  worker.entered = true → worker.backend.inputBoundsLocked = true → worker.backend.Locked

theorem enter_spec (backend : UavNmpcTrackingBackend) :
    backend.enter.1.config = backend.config ∧
      (backend.enter.2 = true → backend.enter.1.inputBoundsLocked = false) := by
  unfold UavNmpcTrackingBackend.enter
  dsimp only
  split
  · exact ⟨rfl, fun entered => by cases entered⟩
  split
  · exact ⟨rfl, fun entered => by cases entered⟩
  · exact ⟨rfl, fun _ => rfl⟩

/-- A worker that enters its backend knows nothing, and needs to know nothing. -/
theorem known_enter (worker : NmpcSolverWorker) :
    Known { worker with backend := worker.backend.enter.1, entered := worker.backend.enter.2 } := by
  intro entered locked
  have unlocked := (enter_spec worker.backend).2 entered
  exact absurd (unlocked.symm.trans locked) (by decide)

/-- The worker serves a request with the request's configuration. Within a generation it is the
one that the session was entered with. -/
theorem ready_spec {worker : NmpcSolverWorker} {request : NmpcRequest} (known : worker.Known)
    (same : worker.enteredGeneration = request.generation →
      worker.backend.config = request.config) :
    (worker.ready request).Known ∧
      (worker.ready request).enteredGeneration = request.generation ∧
      (worker.ready request).backend.config = request.config := by
  unfold ready
  dsimp only
  split
  · -- A new generation: the backend has left its session and enters the next one.
    rw [if_neg (by simp)]
    exact ⟨known_enter { worker with
      backend := (worker.backend.configure request.config).exit
      entered := false
      enteredGeneration := request.generation }, rfl, (enter_spec _).1⟩
  next notNew =>
    have generation := not_not.mp notNew
    have unchanged : worker.backend.configure request.config = worker.backend := by
      unfold UavNmpcTrackingBackend.configure
      rw [← same generation]
    rw [unchanged]
    split
    · exact ⟨known, generation, same generation⟩
    · exact ⟨known_enter worker, generation, (enter_spec _).1.trans (same generation)⟩

variable [Eigen] [LibmExp] [Se3Packing]

/-- What a request does to the worker, and what it is answered with. -/
structure Served (active : Bool) (worker : NmpcSolverWorker) (request : NmpcRequest)
    (after : NmpcSolverWorker) (result : Except RuntimeError NmpcSolveResult) : Prop where
  known : after.Known
  served : active = true → after.enteredGeneration = request.generation ∧
    after.backend.config = request.config
  idle : active = false → after = worker
  answer : ∀ answer, result = .ok answer → request.answer answer = answer
  target : ∀ answer, result = .ok answer → answer.success = true →
    active = true ∧ answer.target.Within request.config

theorem solve_served {worker : NmpcSolverWorker} (known : worker.Known) (request : NmpcRequest)
    (active : Bool) (same : active = true → worker.enteredGeneration = request.generation →
      worker.backend.config = request.config) :
    Served active worker request (worker.solve active request).1
      (worker.solve active request).2 := by
  cases active with
  | false =>
      rw [solve_inactive]
      refine ⟨known, (fun on => by cases on), fun _ => rfl, ?_, ?_⟩
      · intro answer returned
        cases returned
        rfl
      · intro answer returned success
        cases returned
        cases success
  | true =>
      obtain ⟨ready, generation, config⟩ := ready_spec known (same rfl)
      rw [solve_active]
      split
      next entered =>
        generalize worker.ready request = serving at ready generation config entered ⊢
        have computed := compute_commands (ready entered) request.sensor request.references
          request.now
        unfold compute
        dsimp only
        generalize serving.backend.compute request.sensor request.references request.now =
          computing at computed ⊢
        obtain ⟨backend, outcome⟩ := computing
        refine ⟨fun _ => computed.known, fun _ => ⟨generation, computed.config.trans config⟩,
          (fun off => by cases off), ?_, ?_⟩
        · intro answer returned
          cases outcome with
          | error error => cases returned
          | ok target =>
              cases returned
              rfl
        · intro answer returned success
          cases outcome with
          | error error => cases returned
          | ok target =>
              cases returned
              obtain ⟨target, rfl⟩ := Option.isSome_iff_exists.mp success
              have within := computed.target target rfl
              rw [config] at within
              exact ⟨rfl, within⟩
      · refine ⟨ready, fun _ => ⟨generation, config⟩, (fun off => by cases off), ?_, ?_⟩
        · intro answer returned
          cases returned
          rfl
        · intro answer returned success
          cases returned
          cases success

end NmpcSolverWorker

namespace ControllerConfig

/-- The reader returns the configuration for some parameters. -/
def ReadWith (library : ConfigLibrary) (config : ControllerConfig) : Prop :=
  ∃ parameters uavName, readControllerConfig library parameters uavName = .ok config

theorem ReadWith.limits {library : ConfigLibrary} {config : ControllerConfig}
    (clamps : library.Clamps) (read : config.ReadWith library) : config.Limits := by
  obtain ⟨parameters, uavName, read⟩ := read
  obtain ⟨backend, nmpc, -, sanitized⟩ := readControllerConfig_nmpc read
  exact limits_of_sanitized clamps sanitized

end ControllerConfig

section Runs

variable [Libm] [Eigen] [LibmExp] [Se3Packing] [Xgc2Math]

omit [Libm] [Eigen] [LibmExp] [Se3Packing] [Xgc2Math] in
/-- Every configuration that a turn brings has been read. -/
def Turn.ConfiguresRead (library : ConfigLibrary) (turn : Turn) : Prop :=
  ∀ config, .configure config ∈ turn.inputs → config.ReadWith library

/-- The runs of the system with its worker. The solver library is another one in every solve; a
worker that throws ends the run. -/
inductive SolvingRun (library : ConfigLibrary) :
    List NmpcEvent → NmpcSystem → NmpcSolverWorker → Prop
  | start {system : NmpcSystem} : system.Started →
      system.runtime.controller.config.ReadWith library → SolvingRun library [] system {}
  | dispatch {past : List NmpcEvent} {system : NmpcSystem} {worker : NmpcSolverWorker}
      (input : NmpcInput) : SolvingRun library past system worker →
      nmpcEnvironment past system input → (∀ outcome, input ≠ .solve outcome) →
      (∀ turn, input = .turn turn → turn.ConfiguresRead library) →
      SolvingRun library (nmpcMachine.event system input :: past)
        (nmpcMachine.step system input).1 worker
  | solve {past : List NmpcEvent} {system : NmpcSystem} {worker : NmpcSolverWorker} [Acados]
      {request : NmpcRequest} {answer : NmpcSolveResult} : SolvingRun library past system worker →
      system.worker = .solving request →
      (worker.solve (system.buffer.isGenerationActive request.generation) request).2 = .ok answer →
      SolvingRun library (nmpcMachine.event system (.solve answer) :: past)
        (nmpcMachine.step system (.solve answer)).1
        (worker.solve (system.buffer.isGenerationActive request.generation) request).1
  | stop {past : List NmpcEvent} {system : NmpcSystem} {worker : NmpcSolverWorker} [Acados] :
      SolvingRun library past system worker →
      SolvingRun library past system (worker.step .stop).1

section Invariant

omit [Eigen] [LibmExp] [Se3Packing]

/-- What is known of the worker: the bounds of its session, and that it serves the session in
Custom1 with the configuration of that session; and the targets of that session are within its
limits. -/
structure Serving (past : List NmpcEvent) (system : NmpcSystem) (worker : NmpcSolverWorker) :
    Prop where
  known : worker.Known
  generation : worker.enteredGeneration ≤ system.buffer.generationCounter
  config : system.inCustom1 = true → openedBefore past < worker.enteredGeneration →
    worker.backend.config = system.runtime.controller.config
  request : ∀ request, system.worker = .solving request → system.inCustom1 = true →
    openedBefore past < request.generation →
    request.config = system.runtime.controller.config
  solved : ∀ result, SolvedIn (session past) result →
    result.target.Within system.runtime.controller.config
  limits : system.runtime.controller.config.Limits

variable {library : ConfigLibrary} {past : List NmpcEvent} {system : NmpcSystem}
variable {worker : NmpcSolverWorker} {event : NmpcEvent}

theorem Serving.start (clamps : library.Clamps) (started : system.Started)
    (read : system.runtime.controller.config.ReadWith library) : Serving [] system {} := by
  refine ⟨(fun entered => by cases entered), Nat.zero_le _, fun _ newer => ?_, ?_, ?_,
    read.limits clamps⟩
  · exact absurd newer (Nat.not_lt_zero _)
  · intro request running
    rw [started.2.1] at running
    cases running
  · rintro result ⟨event, member, _⟩
    cases member

omit [Libm] in
/-- Only a solve adds to the answers of a session. -/
theorem solvedIn_session_cons {result : NmpcSolveResult}
    (notSolve : ∀ outcome, event.input ≠ .solve outcome)
    (solved : SolvedIn (session (event :: past)) result) : SolvedIn (session past) result := by
  cases inside : event.before.inCustom1 with
  | false =>
      rw [session_cons_of_other inside] at solved
      obtain ⟨_, member, _⟩ := solved
      cases member
  | true =>
      rw [session_cons_of_custom1 inside] at solved
      obtain ⟨answered, member, request, outcome, running, input, rest⟩ := solved
      rcases List.mem_cons.mp member with rfl | older
      · exact absurd input (notSolve outcome)
      · exact ⟨answered, older, request, outcome, running, input, rest⟩

omit [Libm] in
/-- A step other than a turn and a solve. -/
theorem Serving.quiet (serving : Serving past event.before worker)
    (notSolve : ∀ outcome, event.input ≠ .solve outcome)
    (quiet : NmpcSystem.Quiet event.before event.after)
    (solving : ∀ request, event.after.worker = .solving request →
      event.before.worker = .solving request ∨
        request.config = event.before.runtime.controller.config) :
    Serving (event :: past) event.after worker := by
  have same : event.after.inCustom1 = event.before.inCustom1 := by
    unfold NmpcSystem.inCustom1 FlightRuntime.flightState
    rw [quiet.leaf]
  have config : event.after.runtime.controller.config = event.before.runtime.controller.config := by
    rw [quiet.controller]
  constructor
  · exact serving.known
  · rw [quiet.generations]
    exact serving.generation
  · rw [same, config]
    intro inside newer
    rw [openedBefore_cons_of_custom1 inside] at newer
    exact serving.config inside newer
  · rw [same, config]
    intro request running inside newer
    rw [openedBefore_cons_of_custom1 inside] at newer
    rcases solving request running with before | taken
    · exact serving.request request before inside newer
    · exact taken
  · rw [config]
    exact fun result solved => serving.solved result (solvedIn_session_cons notSolve solved)
  · rw [config]
    exact serving.limits

section Turn

variable {turn : Turn}

/-- A turn closes or opens generations, but takes none back. -/
theorem Coherent.counter_le (coherent : Coherent past event.before)
    (plain : PlainTurn event turn) :
    event.before.buffer.generationCounter ≤ event.after.buffer.generationCounter := by
  have results := event.before.runtime.prepare_results turn plain.own
  cases inside : event.before.inCustom1 with
  | true =>
      obtain ⟨leaf, tracking⟩ := leaf_of_inCustom1 inside
      obtain ⟨-, ticked, outcome, ended, -⟩ := coherent.tick plain tracking
      obtain ⟨kept, -, -, -⟩ := event.before.runtime.tickScope_spec turn leaf
      have grown := Custom1State.Acts.generationCounter_le outcome.acts
      rw [kept.nmpcResultBuffer, results, ← ended.counters.1] at grown
      exact grown
  | false =>
      have ended := FlightRuntime.turn_other turn (flightState_of_other inside)
      rw [← plain.after] at ended
      rcases ended.ended with ⟨-, kept⟩ | ⟨scope, before, -, kept⟩
      · exact Nat.le_of_eq
          (congrArg (·.generationCounter) (kept.nmpcResultBuffer.trans results)).symm
      · have begun := (Custom1State.onEnter_results scope).1
        rw [before.nmpcResultBuffer, results] at begun
        have opened : event.after.buffer = event.before.buffer.beginGeneration :=
          kept.nmpcResultBuffer.trans begun
        rw [opened]
        exact Nat.le_succ _

theorem FlightRuntime.prepare_limits (clamps : library.Clamps) {runtime : FlightRuntime}
    (limits : runtime.controller.config.Limits) (read : turn.ConfiguresRead library) :
    (runtime.prepare turn).controller.config.Limits := by
  have all (inputs : List FlightInput)
      (read : ∀ config, .configure config ∈ inputs → config.ReadWith library) :
      ∀ runtime : FlightRuntime, runtime.controller.config.Limits →
        (inputs.foldl receive runtime).controller.config.Limits := by
    induction inputs with
    | nil => exact fun _ limits => limits
    | cons input rest ih =>
        intro runtime limits
        refine ih (fun config member => read config (List.mem_cons_of_mem _ member)) _ ?_
        cases input with
        | command command =>
            dsimp only [receive, postCommand]
            split <;> exact limits
        | freshImu =>
            dsimp only [receive, onFreshImu, HealthMonitorState.onFreshImu]
            split <;> exact limits
        | plannerSetpoint ingress =>
            dsimp only [receive]
            rw [ingestPlannerSetpoint_frame]
            exact limits
        | configure config => exact (read config List.mem_cons_self).limits clamps
        | _ => exact limits
  exact all turn.inputs read runtime limits

theorem Serving.takeTurn (clamps : library.Clamps) (serving : Serving past event.before worker)
    (coherent : Coherent past event.before) (plain : PlainTurn event turn)
    (read : turn.ConfiguresRead library) : Serving (event :: past) event.after worker := by
  have notSolve : ∀ outcome, event.input ≠ .solve outcome := by
    intro outcome same
    cases plain.input.symm.trans same
  have counted := coherent.counter_le plain
  have circumstances := (event.before.runtime.prepare turn).update_circumstances turn.now
  have config : event.after.runtime.controller.config =
      (event.before.runtime.prepare turn).controller.config := by
    rw [plain.after]
    exact circumstances.1
  cases inside : event.before.inCustom1 with
  | true =>
      obtain ⟨leaf, tracking⟩ := leaf_of_inCustom1 inside
      rw [plain.fixed_custom1 tracking] at config
      constructor
      · exact serving.known
      · exact Nat.le_trans serving.generation counted
      · rw [config, openedBefore_cons_of_custom1 inside]
        exact fun _ newer => serving.config inside newer
      · rw [config, openedBefore_cons_of_custom1 inside, plain.worker]
        exact fun request running _ newer => serving.request request running inside newer
      · rw [config]
        exact fun result solved => serving.solved result (solvedIn_session_cons notSolve solved)
      · rw [config]
        exact serving.limits
  | false =>
      constructor
      · exact serving.known
      · exact Nat.le_trans serving.generation counted
      · rw [openedBefore_cons_of_other inside]
        exact fun _ newer => absurd serving.generation (Nat.not_le_of_gt newer)
      · rw [openedBefore_cons_of_other inside, plain.worker]
        exact fun request running _ newer =>
          absurd (coherent.solving request running) (Nat.not_le_of_gt newer)
      · rw [session_cons_of_other inside]
        rintro result ⟨_, member, _⟩
        cases member
      · rw [config]
        exact FlightRuntime.prepare_limits clamps serving.limits read

end Turn

section Solve

variable [Eigen] [LibmExp] [Se3Packing]

/-- A solve serves the session in Custom1, or an older one that no longer matters. -/
theorem Serving.solve [Acados] (serving : Serving past system worker)
    (coherent : Coherent past system) {request : NmpcRequest} {answer : NmpcSolveResult}
    (running : system.worker = .solving request)
    (solved : (worker.solve (system.buffer.isGenerationActive request.generation) request).2 =
      .ok answer) :
    Serving (nmpcMachine.event system (.solve answer) :: past)
      (nmpcMachine.step system (.solve answer)).1
      (worker.solve (system.buffer.isGenerationActive request.generation) request).1 := by
  have active : system.buffer.isGenerationActive request.generation = true →
      system.inCustom1 = true ∧ openedBefore past < request.generation := by
    intro active
    obtain ⟨leaf, tracking, -, opened, -⟩ := coherent.generation_of_active active
    exact ⟨inCustom1_of_leaf tracking, opened⟩
  have carried : system.buffer.isGenerationActive request.generation = true →
      request.config = system.runtime.controller.config := by
    intro isActive
    obtain ⟨inside, opened⟩ := active isActive
    exact serving.request request running inside opened
  have served := NmpcSolverWorker.solve_served serving.known request
    (system.buffer.isGenerationActive request.generation) (by
      intro isActive same
      obtain ⟨inside, opened⟩ := active isActive
      rw [carried isActive]
      exact serving.config inside (same ▸ opened))
  have after : (nmpcMachine.step system (.solve answer)).1 =
      { system with
        worker := .solved (NmpcExecution.solve system.runtime.controller request answer) } := by
    change system.solve answer = _
    unfold NmpcSystem.solve
    rw [running]
  have answers : NmpcExecution.solve system.runtime.controller request answer = answer := by
    unfold NmpcExecution.solve
    cases isActive : system.buffer.isGenerationActive request.generation with
    | true => exact (if_pos isActive).trans (served.answer answer solved)
    | false =>
        refine (if_neg (Bool.not_eq_true _ ▸ isActive)).trans ?_
        rw [isActive] at solved
        exact Except.ok.inj solved
  have within : ∀ result,
      SolvedIn (session (nmpcMachine.event system (.solve answer) :: past)) result →
        result.target.Within system.runtime.controller.config := by
    rintro result answered
    cases inside : system.inCustom1 with
    | false =>
        rw [session_cons_of_other inside] at answered
        obtain ⟨_, member, _⟩ := answered
        cases member
    | true =>
        rw [session_cons_of_custom1 inside] at answered
        obtain ⟨event, member, other, outcome, before, input, finished, same, success⟩ := answered
        rcases List.mem_cons.mp member with rfl | older
        · change (nmpcMachine.step system (.solve answer)).1.worker = .solved result at finished
          rw [after, answers] at finished
          cases finished
          obtain ⟨isActive, within⟩ := served.target answer solved success
          rw [carried isActive] at within
          exact within
        · exact serving.solved result
            ⟨event, older, other, outcome, before, input, finished, same, success⟩
  rw [after]
  generalize worker.solve (system.buffer.isGenerationActive request.generation) request =
    solving at solved served ⊢
  cases isActive : system.buffer.isGenerationActive request.generation with
  | false =>
      have idle := served.idle isActive
      constructor
      · exact served.known
      · rw [idle]
        exact serving.generation
      · rw [idle]
        intro inside newer
        rw [openedBefore_cons_of_custom1 inside] at newer
        exact serving.config inside newer
      · intro other still
        cases still
      · exact within
      · exact serving.limits
  | true =>
      obtain ⟨generation, config⟩ := served.served isActive
      constructor
      · exact served.known
      · rw [generation]
        exact coherent.solving request running
      · exact fun _ _ => config.trans (carried isActive)
      · intro other still
        cases still
      · exact within
      · exact serving.limits

end Solve

end Invariant

section Published

variable {library : ConfigLibrary} {past : List NmpcEvent} {system : NmpcSystem}
variable {worker : NmpcSolverWorker}

/-- The attitudes of a turn carry a target that may be published. -/
def PublishesWithin (event : NmpcEvent) : Prop :=
  event.after.runtime.controller.backend = .nmpc ∨ event.after.runtime.controller.backend = .dfbc →
    ∀ effect ∈ event.after.runtime.controller.flightEffects, effect.isAttitude = true →
      event.after.runtime.controller.attitudeRateTarget.Publishable
        event.after.runtime.controller.config

omit [Eigen] [LibmExp] [Se3Packing] in
/-- Under DFBC the law of this very update gives the target. -/
theorem dfbc_publishable {event : NmpcEvent} {turn : Turn} (plain : PlainTurn event turn)
    {leaf : Custom1State} (tracking : event.before.runtime.leaf = .custom1 leaf)
    (limits : event.before.runtime.controller.config.Limits)
    (dfbc : event.before.runtime.controller.backend = .dfbc) {effect : FlightEffect}
    (emitted : effect ∈ event.after.runtime.controller.flightEffects)
    (attitude : effect.isAttitude = true) :
    event.after.runtime.controller.attitudeRateTarget.Publishable
      event.before.runtime.controller.config := by
  have config := plain.config tracking
  obtain ⟨-, effects, -, -⟩ := event.before.runtime.tickScope_spec turn leaf
  have backend : (event.before.runtime.tickScope turn leaf).controller.backend = .dfbc := by
    rw [DroneController.backend, config]
    exact dfbc
  obtain ⟨ticked, targets, ended⟩ := FlightRuntime.turn_custom1 turn tracking
    (Custom1State.targeting_onTick backend (config.symm ▸ limits))
  rw [← plain.after] at ended
  rcases targets with old | publishable
  · have none := old effect (ended.attitude attitude emitted) attitude
    rw [effects] at none
    cases none
  · rw [ended.target, ← config]
    exact publishable

omit [Eigen] [LibmExp] [Se3Packing] in
theorem publishesWithin_turn {event : NmpcEvent} {turn : Turn}
    (coherent : Coherent past event.before) (serving : Serving past event.before worker)
    (plain : PlainTurn event turn) : PublishesWithin event := by
  intro backends effect emitted attitude
  cases inside : event.before.inCustom1 with
  | false =>
      have ended := FlightRuntime.turn_other turn (flightState_of_other inside)
      rw [← plain.after] at ended
      exact absurd ((ended.effects effect emitted).1.symm.trans attitude) (by decide)
  | true =>
      obtain ⟨leaf, tracking⟩ := leaf_of_inCustom1 inside
      have circumstances := (event.before.runtime.prepare turn).update_circumstances turn.now
      have config : event.after.runtime.controller.config =
          event.before.runtime.controller.config := by
        rw [plain.after]
        exact circumstances.1.trans (plain.fixed_custom1 tracking)
      unfold DroneController.backend at backends
      rw [config] at backends ⊢
      rcases backends with nmpc | dfbc
      · obtain ⟨-, result, solved, target, -⟩ := coherent.source plain nmpc emitted attitude
        rw [target]
        refine ⟨serving.solved result solved, fun dfbc => ?_⟩
        cases nmpc.symm.trans dfbc
      · exact dfbc_publishable plain tracking serving.limits dfbc emitted attitude

omit [Eigen] [LibmExp] [Se3Packing] in
/-- What the dispatcher does between two turns. -/
theorem Serving.dispatched (serving : Serving past system worker) (input : NmpcInput)
    (notTurn : ∀ turn, input ≠ .turn turn) (notSolve : ∀ outcome, input ≠ .solve outcome) :
    Serving (nmpcMachine.event system input :: past) (nmpcMachine.step system input).1 worker := by
  have serving : Serving past (nmpcMachine.event system input).before worker := serving
  cases input with
  | turn turn => exact (notTurn turn rfl).elim
  | solve outcome => exact (notSolve outcome rfl).elim
  | handle clock accepts =>
      refine serving.quiet notSolve (system.handleNext_quiet clock accepts) ?_
      intro request running
      change (system.handleNext clock accepts).1.worker = .solving request at running
      unfold NmpcSystem.handleNext at running
      split at running
      · exact .inl running
      · split at running
        next controller worker handled =>
          dsimp only at running
          subst running
          exact NmpcExecution.handle_config handled
        · exact .inl running
  | commit =>
      refine serving.quiet notSolve system.commit_quiet ?_
      intro request running
      change system.commit.worker = .solving request at running
      unfold NmpcSystem.commit at running
      split at running
      · cases running
      · exact .inl running
  | stop => exact serving.quiet notSolve system.stop_quiet fun request running => .inl running

omit [Libm] [Eigen] [LibmExp] [Se3Packing] in
/-- Closing the backend ends its session and forgets nothing. -/
theorem Serving.closed (serving : Serving past system worker) :
    Serving past system { worker with backend := worker.backend.exit } := by
  refine ⟨fun entered locked => ?_, serving.generation, serving.config, serving.request,
    serving.solved, serving.limits⟩
  obtain ⟨limits, apart, divisor, usable, lower, upper⟩ := serving.known entered locked
  exact ⟨limits, apart, divisor, usable, lower, upper⟩

theorem SolvingRun.invariant (clamps : library.Clamps)
    (run : SolvingRun library past system worker) :
    Coherent past system ∧ Serving past system worker ∧
      ∀ event ∈ past, ∀ turn, event.input = .turn turn → PublishesWithin event := by
  induction run with
  | start started read =>
      exact ⟨.start started, .start clamps started read, by simp⟩
  | @dispatch past system worker input run allowed notSolve read ih =>
      obtain ⟨coherent, serving, events⟩ := ih
      obtain ⟨next, plain⟩ := coherent.step input allowed
      refine ⟨next, ?_, List.forall_mem_cons.mpr ⟨fun turn same => ?_, events⟩⟩
      · by_cases isTurn : ∃ turn, input = .turn turn
        · obtain ⟨turn, rfl⟩ := isTurn
          exact Serving.takeTurn clamps serving coherent (plain turn rfl) (read turn rfl)
        · exact serving.dispatched input (fun turn same => isTurn ⟨turn, same⟩) notSolve
      · exact publishesWithin_turn coherent serving (plain turn same)
  | @solve past system worker library request answer run running solved ih =>
      obtain ⟨coherent, serving, events⟩ := ih
      obtain ⟨next, -⟩ := coherent.step (.solve answer) trivial
      refine ⟨next, serving.solve coherent running solved,
        List.forall_mem_cons.mpr ⟨fun turn same => ?_, events⟩⟩
      cases same
  | @stop past system worker library run ih => exact ⟨ih.1, ih.2.1.closed, ih.2.2⟩

/-- Whatever the solver and the law return, an attitude that is published under NMPC or DFBC is
within the limits of the configuration, and its thrust is one that could be mapped. -/
theorem published_within_limits (clamps : library.Clamps)
    (run : SolvingRun library past system worker) :
    ∀ event ∈ past, ∀ turn, event.input = .turn turn → PublishesWithin event :=
  (run.invariant clamps).2.2

end Published

end Runs

section Flown

open ControllerConfig EchoSolver ExactMath

def FlightInput.isConfigure : FlightInput → Bool
  | configure _ => true
  | _ => false

/-- Inputs of the dispatcher that neither solve nor configure. -/
def NmpcInput.isPlain : NmpcInput → Bool
  | turn taken => taken.inputs.all fun received => !received.isConfigure
  | solve _ => false
  | _ => true

theorem SolvingRun.replay {library : ConfigLibrary} {past : List NmpcEvent} {system : NmpcSystem}
    {worker : NmpcSolverWorker} (run : SolvingRun library past system worker)
    (inputs : List NmpcInput) (plain : inputs.all NmpcInput.isPlain = true)
    (allowed : nmpcMachine.Admits nmpcEnvironment past system inputs) :
    SolvingRun library (nmpcMachine.replay past system inputs).1
      (nmpcMachine.replay past system inputs).2 worker := by
  induction inputs generalizing past system with
  | nil => exact run
  | cons input rest ih =>
      rw [List.all_cons, Bool.and_eq_true] at plain
      refine ih (.dispatch input run allowed.1 ?_ ?_) plain.2 allowed.2
      · rintro outcome rfl
        cases plain.1
      · rintro turn rfl config configures
        have same : turn.inputs.all (fun received => !received.isConfigure) = true := plain.1
        cases List.all_eq_true.mp same _ configures

/-- The default parameters, for NMPC and without the gate before takeoff. -/
def flownParameters : ControllerParameters where
  read key default_ :=
    match key, default_ with
    | "world_boundary_json", .string _ => some (.string "null")
    | "tracking_backend", .string _ => some (.string "nmpc")
    | "skip_takeoff_init_disarm", .bool _ => some (.bool true)
    | _, _ => none

def flownConfig : ControllerConfig :=
  ((readControllerConfig plainLibrary flownParameters "").toOption).getD {}

def flownStart : NmpcSystem := { runtime := FlightRuntime.initial.setConfig flownConfig }

/-- A level attitude, and an estimate of the hover thrust. -/
def flownSensor : SensorData :=
  { armedSensor with
    qw := 1
    hoverThrustEstimateAvailable := true
    hoverThrustEstimate := 0.5
    hoverThrustEstimateStamp := 8 }

def flownTurns : List Turn :=
  hoverTurns ++
    [{ inputs := [.command .track], sensor := armedSensor, now := ⟨7, 0⟩ },
      { inputs := [.activeAnalytic { duration := 60 } ⟨8, 0⟩]
        sensor := flownSensor
        now := ⟨8, 0⟩ }]

/-- The flight until its first request is on its way to the solver. -/
def flownRequesting : List NmpcEvent × NmpcSystem :=
  nmpcMachine.replay [] flownStart (flownTurns.map .turn ++ [.handle ⟨8, 0⟩ true])

def flownRequest : NmpcRequest :=
  match flownRequesting.2.worker with
  | .solving request => request
  | _ => {}

def flownAnswer : NmpcSolveResult :=
  ((({} : NmpcSolverWorker).solve true flownRequest).2.toOption).getD {}

def flownTaking : Turn := { sensor := flownSensor, now := ⟨8, 20000000⟩ }

/-- The flight until the answer is taken, 20 ms later. -/
def flownTaken : List NmpcEvent × NmpcSystem :=
  nmpcMachine.replay (nmpcMachine.event flownRequesting.2 (.solve flownAnswer) :: flownRequesting.1)
    (nmpcMachine.step flownRequesting.2 (.solve flownAnswer)).1 [.commit, .turn flownTaking]

theorem published_within_limits_flown :
    flownTaken.1.length = 12 ∧
      flownTaken.2.runtime.controller.flightEffects.any (·.isAttitude) = true ∧
      ∀ event ∈ flownTaken.1, ∀ turn, event.input = .turn turn → PublishesWithin event := by
  have read : flownConfig.ReadWith plainLibrary := by
    refine ⟨flownParameters, "", ?_⟩
    decide +kernel
  have start : SolvingRun plainLibrary [] flownStart {} :=
    .start ⟨⟨flownConfig, rfl⟩, rfl, rfl⟩ read
  have requesting : SolvingRun plainLibrary flownRequesting.1 flownRequesting.2 {} :=
    start.replay _ (by decide +kernel) (by decide +kernel)
  have running : flownRequesting.2.worker = .solving flownRequest := by decide +kernel
  have answered : (({} : NmpcSolverWorker).solve
      (flownRequesting.2.buffer.isGenerationActive flownRequest.generation) flownRequest).2 =
        .ok flownAnswer := by decide +kernel
  have run := (requesting.solve running answered).replay [.commit, .turn flownTaking]
    (by decide +kernel) (by decide +kernel)
  have within := published_within_limits (ConfigLibrary.clamps_clamp _) run
  refine ⟨by decide +kernel, by decide +kernel, ?_⟩
  unfold flownTaken
  exact within

end Flown

end MultirotorController
