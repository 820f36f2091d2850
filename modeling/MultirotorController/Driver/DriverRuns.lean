import MultirotorController.Driver.ControllerDriver
import MultirotorController.Driver.FlightProjection
import MultirotorController.Driver.SensorExtension

/-!
# The driver runs the dispatcher's machine

An input reaches the controller as soon as the driver has it, not with the next
turn. The driver's runtime is therefore that of the machine after the inputs that
are still pending, and an update takes all of them as its turn. What the laws of
the machine assume about the environment the driver provides: the configuration
and the feedback source stay as they are in flight, and positions follow their
streams.
-/

namespace MultirotorController

/-- The snapshot and its statistics after an advance, unless it throws. -/
def Sensing.advanced [Libm] (sensing : Sensing) (now : Time) : Option Sensing :=
  match (Sensing.advance now).run sensing with
  | .ok _ after => some after
  | .error _ _ => none

variable [Libm] [Xgc2Math]

/-- What the driver sees to. -/
def driverEnvironment : Machine.Restriction NmpcSystem NmpcInput (Except RuntimeError Unit) :=
  fun past system input => nmpcEnvironment past system input ∧
    NmpcSystem.turnsAllowed (flightEnvironment []) past system input

/-- The system of a constructed controller with this configuration. -/
def NmpcSystem.StartedWith (config : ControllerConfig) (system : NmpcSystem) : Prop :=
  system = { runtime := FlightRuntime.initial.setConfig config }

/-- The driver is a run of the machine with some inputs pending, whose solver has answered
nothing else than what is given. -/
structure Tracks (config : ControllerConfig) (given : NmpcSolveResult → Prop)
    (past : List NmpcEvent) (system : NmpcSystem) (pending : List FlightInput)
    (driver : ControllerDriver) : Prop where
  run : nmpcMachine.Run (NmpcSystem.StartedWith config) driverEnvironment past system
  worker : driver.worker = system.worker
  runtime : driver.runtime = system.runtime.receiveAll pending
  external : ∀ input ∈ pending, input.isNmpcResult = false
  fixed : system.runtime.onTheGround = false →
    (∀ input ∈ pending, ∀ config, input ≠ .configure config) ∧
      driver.sensing.sensor.feedbackSource =
        system.runtime.controller.sensorData.feedbackSource
  follows : system.runtime.controller.sensorData.Follows driver.sensing.sensor
  solved : ∀ event ∈ past, ∀ outcome, event.input = .solve outcome → given outcome

namespace Tracks

variable {config : ControllerConfig} {given : NmpcSolveResult → Prop}
variable {past : List NmpcEvent} {system : NmpcSystem}
variable {pending : List FlightInput} {driver : ControllerDriver}

theorem onTheGround (tracks : Tracks config given past system pending driver) :
    driver.runtime.onTheGround = system.runtime.onTheGround := by
  rw [tracks.runtime, FlightRuntime.receiveAll_onTheGround]

theorem sensorData (tracks : Tracks config given past system pending driver) :
    driver.runtime.controller.sensorData = system.runtime.controller.sensorData := by
  rw [tracks.runtime, FlightRuntime.receiveAll_sensorData]

/-- A started driver is a run without an event. -/
theorem start {driver : ControllerDriver} (worker : driver.worker = .idle)
    (runtime : driver.runtime = FlightRuntime.initial.setConfig config)
    (follows : SensorData.Follows {} driver.sensing.sensor) :
    Tracks config given [] { runtime := FlightRuntime.initial.setConfig config } [] driver where
  run := .start rfl
  worker := worker
  runtime := runtime
  external := by simp
  fixed := fun airborne => by cases airborne
  follows := follows
  solved := by simp

/-- An input that is delivered is pending. -/
theorem deliver (tracks : Tracks config given past system pending driver) {input : FlightInput}
    (external : input.isNmpcResult = false)
    (grounded : ∀ config, input = .configure config → driver.runtime.onTheGround = true) :
    Tracks config given past system (pending ++ [input]) (driver.deliver input) where
  run := tracks.run
  worker := tracks.worker
  runtime := by
    change driver.runtime.receive input = _
    rw [FlightRuntime.receiveAll_append, ← tracks.runtime]
    rfl
  external := by
    intro other member
    rcases List.mem_append.mp member with earlier | last
    · exact tracks.external other earlier
    · rw [List.mem_singleton.mp last]
      exact external
  fixed := by
    intro airborne
    refine ⟨?_, (tracks.fixed airborne).2⟩
    intro other member configured same
    rcases List.mem_append.mp member with earlier | last
    · exact (tracks.fixed airborne).1 other earlier configured same
    · rw [List.mem_singleton.mp last] at same
      have standing := grounded configured same
      rw [tracks.onTheGround, airborne] at standing
      cases standing
  follows := tracks.follows
  solved := tracks.solved

/-- The snapshot may be extended, whatever the clock and the statistics are. -/
theorem sense (tracks : Tracks config given past system pending driver) {after : ControllerDriver}
    (worker : after.worker = driver.worker) (runtime : after.runtime = driver.runtime)
    (extended : driver.sensing.sensor.Extends after.sensing.sensor) :
    Tracks config given past system pending after where
  run := tracks.run
  worker := worker.trans tracks.worker
  runtime := runtime.trans tracks.runtime
  external := tracks.external
  fixed := fun airborne =>
    ⟨(tracks.fixed airborne).1, extended.feedbackSource.trans (tracks.fixed airborne).2⟩
  follows := extended.follows tracks.follows
  solved := tracks.solved

/-- The marks may be cleared while the snapshot is the one the controller has seen. -/
theorem resetNewFlags (tracks : Tracks config given past system pending driver)
    (seen : driver.runtime.controller.sensorData = driver.sensing.sensor) :
    Tracks config given past system pending driver.resetNewFlags where
  run := tracks.run
  worker := tracks.worker
  runtime := tracks.runtime
  external := tracks.external
  fixed := tracks.fixed
  follows := by
    rw [← tracks.sensorData, seen]
    exact .resetNewFlags _
  solved := tracks.solved

/-- A step of the system other than a turn or a stop. -/
theorem quietStep (tracks : Tracks config given past system pending driver) (input : NmpcInput)
    (notTurn : ∀ turn, input ≠ .turn turn) (notStopped : input ≠ .stop)
    (granted : ∀ outcome, input = .solve outcome → given outcome)
    {after : ControllerDriver} (sensing : after.sensing = driver.sensing)
    (worker : after.worker = (nmpcMachine.step system input).1.worker)
    (runtime : after.runtime = (nmpcMachine.step system input).1.runtime.receiveAll pending)
    (quiet : NmpcSystem.Quiet system (nmpcMachine.step system input).1) :
    Tracks config given (nmpcMachine.event system input :: past) (nmpcMachine.step system input).1
      pending after where
  run := by
    refine tracks.run.step input ⟨?_, notStopped, fun turn same => (notTurn turn same).elim⟩
    cases input with
    | turn turn => exact (notTurn turn rfl).elim
    | _ => trivial
  worker := worker
  runtime := runtime
  external := tracks.external
  fixed := by
    intro airborne
    have before : system.runtime.onTheGround = false := by
      rw [← airborne, FlightRuntime.onTheGround, FlightRuntime.onTheGround,
        FlightRuntime.flightState, FlightRuntime.flightState, quiet.leaf]
    rw [sensing, quiet.controller]
    exact tracks.fixed before
  follows := by
    rw [sensing, quiet.controller]
    exact tracks.follows
  solved := List.forall_mem_cons.mpr ⟨granted, tracks.solved⟩

/-- What the solver's thread does is a step of the system other than a turn, or nothing. -/
theorem work (tracks : Tracks config given past system pending driver) (event : WorkerEvent)
    (granted : ∀ outcome, event = .solve outcome → given outcome) :
    ∃ later system', Tracks config given (later ++ past) system' pending (driver.work event) ∧
      (∀ event ∈ later, event.input.isTurn = false) ∧ system'.waiting = system.waiting := by
  have buffer : driver.runtime.controller.nmpcResultBuffer =
      system.runtime.controller.nmpcResultBuffer := by
    rw [tracks.runtime, FlightRuntime.receiveAll_nmpcResultBuffer _ tracks.external]
  have nothing (same : driver.work event = driver) :
      ∃ later system', Tracks config given (later ++ past) system' pending (driver.work event) ∧
        (∀ event ∈ later, event.input.isTurn = false) ∧ system'.waiting = system.waiting :=
    ⟨[], system, by rw [same]; exact tracks, by simp, rfl⟩
  cases event with
  | solve outcome =>
      cases busy : driver.worker with
      | solving request =>
          have solving : system.worker = .solving request := tracks.worker.symm.trans busy
          have solved : system.solve outcome = { system with
              worker := .solved
                (NmpcExecution.solve system.runtime.controller request outcome) } := by
            rw [NmpcSystem.solve, solving]
          refine ⟨[_], _, tracks.quietStep (.solve outcome) (by simp) (by simp)
            (fun _ same => by cases same; exact granted _ rfl) ?_ ?_ ?_
            (system.solve_quiet outcome), List.forall_mem_singleton.mpr rfl, ?_⟩
          · rw [ControllerDriver.work, busy]
          · change _ = (system.solve outcome).worker
            rw [ControllerDriver.work, busy, solved]
            change NmpcWorker.solved _ = .solved _
            rw [NmpcExecution.solve, NmpcExecution.solve, buffer]
          · change _ = (system.solve outcome).runtime.receiveAll pending
            rw [ControllerDriver.work, busy, solved]
            exact tracks.runtime
          · change (system.solve outcome).waiting = _
            rw [solved]
      | idle => exact nothing (by rw [ControllerDriver.work, busy])
      | solved result => exact nothing (by rw [ControllerDriver.work, busy])
  | commit =>
      cases busy : driver.worker with
      | solved result =>
          have finished : system.worker = .solved result := tracks.worker.symm.trans busy
          have committed : system.commit = { system with
              runtime := system.runtime.receive (.nmpcResult result)
              worker := .idle } := by
            rw [NmpcSystem.commit, finished]
            rfl
          refine ⟨[_], _, tracks.quietStep .commit (by simp) (by simp)
            (by simp) ?_ ?_ ?_ system.commit_quiet, List.forall_mem_singleton.mpr rfl, ?_⟩
          · rw [ControllerDriver.work, busy]
          · change _ = system.commit.worker
            rw [ControllerDriver.work, busy, committed]
          · change _ = system.commit.runtime.receiveAll pending
            rw [ControllerDriver.work, busy, committed]
            change driver.runtime.receive (.nmpcResult result) = _
            rw [FlightRuntime.receiveAll_nmpcResult_comm _ _ tracks.external, ← tracks.runtime]
          · change system.commit.waiting = _
            rw [committed]
      | idle => exact nothing (by rw [ControllerDriver.work, busy])
      | solving request => exact nothing (by rw [ControllerDriver.work, busy])

section Update

/-- What an update does: nothing without a start, statistics alone when they throw, and else
an update of the controller with the snapshot of that moment. -/
inductive Updated (driver : ControllerDriver) (now : Time) :
    ControllerDriver × Except RuntimeError Bool → Prop
  | inactive : driver.active = false → Updated driver now (driver, .ok false)
  | thrown (sensing : Sensing) (error : RuntimeError) : driver.active = true →
      driver.sensing.advanced now = none → driver.sensing.sensor.Extends sensing.sensor →
      Updated driver now ({ driver with clock := now, sensing }, .error error)
  | turned (sensing : Sensing) : driver.active = true →
      driver.sensing.advanced now = some sensing →
      driver.sensing.sensor.Extends sensing.sensor →
      Updated driver now
        ({ driver with
            clock := now
            sensing
            runtime := ((driver.runtime.observe sensing.sensor).update now).1 },
          ((driver.runtime.observe sensing.sensor).update now).2)

theorem updated (driver : ControllerDriver) (now : Time) :
    Updated driver now (driver.update now) := by
  have kept := Sensing.performs_advance now driver.sensing
  unfold ControllerDriver.update
  split
  next idle => exact .inactive (by simpa using idle)
  next started =>
    have started : driver.active = true := by simpa using started
    unfold Procedure.Performs Procedure.wp at kept
    dsimp only
    cases ran : (Sensing.advance now).run driver.sensing with
    | error error sensing =>
        rw [ran] at kept
        have advanced : driver.sensing.advanced now = none := by
          rw [Sensing.advanced, ran]
        exact .thrown sensing error started advanced (Sensing.extends_of_chain kept)
    | ok _ sensing =>
        rw [ran] at kept
        have advanced : driver.sensing.advanced now = some sensing := by
          rw [Sensing.advanced, ran]
        exact .turned sensing started advanced (Sensing.extends_of_chain kept)

/-- The turn that an update with this snapshot takes. -/
def turnOf (pending : List FlightInput) (sensing : Sensing) (now : Time) : Turn :=
  { inputs := pending, sensor := sensing.sensor, now }

theorem turnOf_turn (tracks : Tracks config given past system pending driver) (sensing : Sensing)
    (now : Time) : system.runtime.turn (turnOf pending sensing now) =
      (driver.runtime.observe sensing.sensor).update now := by
  rw [tracks.runtime]
  rfl

/-- The driver sees to what the laws of the machine assume. -/
theorem turnOf_admissible (tracks : Tracks config given past system pending driver)
    {sensing : Sensing} (extended : driver.sensing.sensor.Extends sensing.sensor) (now : Time) :
    driverEnvironment past system (.turn (turnOf pending sensing now)) := by
  have kept (airborne : system.runtime.onTheGround = false) :
      (system.runtime.prepare (turnOf pending sensing now)).controller.config =
        system.runtime.controller.config :=
    system.runtime.receiveAll_config (tracks.fixed airborne).1
  refine ⟨⟨?_, kept⟩, by simp, ?_⟩
  · rw [List.all_eq_true]
    intro input member
    rw [tracks.external input member]
    rfl
  · intro turn same
    cases same
    refine ⟨fun airborne => ⟨?_, ?_⟩, ?_⟩
    · rw [DroneController.backend, DroneController.backend, kept airborne]
    · exact extended.feedbackSource.trans (tracks.fixed airborne).2
    · exact extended.follows tracks.follows

/-- An update of the controller is a turn of the system. -/
theorem turned (tracks : Tracks config given past system pending driver) {sensing : Sensing}
    (extended : driver.sensing.sensor.Extends sensing.sensor) (now : Time) :
    Tracks config given (nmpcMachine.event system (.turn (turnOf pending sensing now)) :: past)
      (system.takeTurn (turnOf pending sensing now)).1 []
      { driver with
        clock := now
        sensing
        runtime := ((driver.runtime.observe sensing.sensor).update now).1 } := by
  have after := (system.takeTurn_runtime (turnOf pending sensing now)).trans
    (congrArg Prod.fst (tracks.turnOf_turn sensing now))
  obtain ⟨-, seen, -⟩ := (driver.runtime.observe sensing.sensor).update_circumstances now
  have snapshot : (system.takeTurn (turnOf pending sensing now)).1.runtime.controller.sensorData =
      sensing.sensor := by
    rw [after]
    exact seen
  exact {
    run := tracks.run.step _ (tracks.turnOf_admissible extended now)
    worker := tracks.worker.trans (system.takeTurn_worker _).symm
    runtime := after.symm
    external := by simp
    fixed := fun _ => ⟨by simp, (congrArg SensorData.feedbackSource snapshot).symm⟩
    follows := by
      rw [snapshot]
      exact ⟨.inr rfl, .inr rfl⟩
    solved := List.forall_mem_cons.mpr ⟨by simp [Machine.event], tracks.solved⟩ }

end Update

section Handle

variable {clock : Time} {accepts : Bool} {effect : FlightNmpcRequest}
variable {waiting : List FlightNmpcRequest}

/-- A request that is handled is a step of the system. -/
theorem handled (tracks : Tracks config given past system [] driver)
    (oldest : system.waiting = effect :: waiting) {controller : DroneController}
    {worker : NmpcWorker}
    (ran : NmpcExecution.handle driver.runtime.controller driver.worker clock accepts effect =
      .ok (controller, worker)) :
    ∃ event system', Tracks config given (event :: past) system' []
      { driver with runtime := { driver.runtime with controller }, worker } ∧
        event.input.isTurn = false ∧ system'.waiting = waiting := by
  have runtime : driver.runtime = system.runtime := tracks.runtime
  rw [runtime, tracks.worker] at ran
  have next : system.handleNext clock accepts =
      ({ system.withController controller with worker, waiting }, .ok ()) := by
    rw [NmpcSystem.handleNext, oldest]
    dsimp only
    rw [ran]
  refine ⟨_, _, tracks.quietStep (.handle clock accepts) (by simp) (by simp)
    (by simp) ?_ ?_ ?_ (system.handleNext_quiet clock accepts), rfl, ?_⟩
  · rfl
  · change _ = (system.handleNext clock accepts).1.worker
    rw [next]
  · change _ = (system.handleNext clock accepts).1.runtime
    rw [next, runtime]
    rfl
  · change (system.handleNext clock accepts).1.waiting = _
    rw [next]

/-- A request whose handling throws is gone. -/
theorem dropped (tracks : Tracks config given past system [] driver)
    (oldest : system.waiting = effect :: waiting) {error : RuntimeError}
    (ran : NmpcExecution.handle driver.runtime.controller driver.worker clock accepts effect =
      .error error) :
    ∃ event system', Tracks config given (event :: past) system' [] driver ∧
      event.input.isTurn = false ∧ system'.waiting = waiting := by
  have runtime : driver.runtime = system.runtime := tracks.runtime
  rw [runtime, tracks.worker] at ran
  have next : system.handleNext clock accepts = ({ system with waiting }, .error error) := by
    rw [NmpcSystem.handleNext, oldest]
    dsimp only
    rw [ran]
  refine ⟨_, _, tracks.quietStep (.handle clock accepts) (by simp) (by simp)
    (by simp) ?_ ?_ ?_ (system.handleNext_quiet clock accepts), rfl, ?_⟩
  · rfl
  · change _ = (system.handleNext clock accepts).1.worker
    rw [next]
    exact tracks.worker
  · change _ = (system.handleNext clock accepts).1.runtime
    rw [next]
    exact runtime
  · change (system.handleNext clock accepts).1.waiting = _
    rw [next]

end Handle

end Tracks

/-- The driver is a run of the machine with these turns, newest first, and with these
requests on their way. -/
def Reaches (config : ControllerConfig) (given : NmpcSolveResult → Prop) (turns : List NmpcEvent)
    (waiting : List FlightNmpcRequest) (pending : List FlightInput)
    (driver : ControllerDriver) : Prop :=
  ∃ past system, Tracks config given past system pending driver ∧
    past.filter (·.input.isTurn) = turns ∧ system.waiting = waiting

namespace Reaches

variable {config : ControllerConfig} {given : NmpcSolveResult → Prop} {turns : List NmpcEvent}
variable {waiting : List FlightNmpcRequest} {pending : List FlightInput}
variable {driver : ControllerDriver}

theorem deliver (reaches : Reaches config given turns waiting pending driver) {input : FlightInput}
    (external : input.isNmpcResult = false)
    (grounded : ∀ config, input = .configure config → driver.runtime.onTheGround = true) :
    Reaches config given turns waiting (pending ++ [input]) (driver.deliver input) := by
  obtain ⟨past, system, tracks, rest⟩ := reaches
  exact ⟨past, system, tracks.deliver external grounded, rest⟩

/-- What producers hand over neither answers a request nor configures. -/
theorem receiveAll (reaches : Reaches config given turns waiting pending driver)
    {inputs : List FlightInput} (external : ∀ input ∈ inputs,
      input.isNmpcResult = false ∧ ∀ config, input ≠ .configure config) :
    Reaches config given turns waiting (pending ++ inputs)
      { driver with runtime := driver.runtime.receiveAll inputs } := by
  induction inputs generalizing driver pending with
  | nil =>
      rw [List.append_nil]
      exact reaches
  | cons input rest ih =>
      obtain ⟨⟨foreign, unconfigured⟩, others⟩ := List.forall_mem_cons.mp external
      have first : Reaches config given turns waiting (pending ++ [input]) (driver.deliver input) :=
        reaches.deliver foreign fun config same => (unconfigured config same).elim
      have last := ih first others
      rw [List.append_assoc] at last
      exact last

theorem sense (reaches : Reaches config given turns waiting pending driver)
    {after : ControllerDriver} (worker : after.worker = driver.worker)
    (runtime : after.runtime = driver.runtime)
    (extended : driver.sensing.sensor.Extends after.sensing.sensor) :
    Reaches config given turns waiting pending after := by
  obtain ⟨past, system, tracks, rest⟩ := reaches
  exact ⟨past, system, tracks.sense worker runtime extended, rest⟩

theorem resetNewFlags (reaches : Reaches config given turns waiting pending driver)
    (seen : driver.runtime.controller.sensorData = driver.sensing.sensor) :
    Reaches config given turns waiting pending driver.resetNewFlags := by
  obtain ⟨past, system, tracks, rest⟩ := reaches
  exact ⟨past, system, tracks.resetNewFlags seen, rest⟩

/-- What is given may become more. -/
theorem mono {given' : NmpcSolveResult → Prop} (weaker : ∀ outcome, given outcome → given' outcome)
    (reaches : Reaches config given turns waiting pending driver) :
    Reaches config given' turns waiting pending driver := by
  obtain ⟨past, system, tracks, rest⟩ := reaches
  exact ⟨past, system, { tracks with
    solved := fun event member outcome same => weaker outcome (tracks.solved event member outcome
      same) }, rest⟩

theorem work (reaches : Reaches config given turns waiting pending driver) (event : WorkerEvent)
    (granted : ∀ outcome, event = .solve outcome → given outcome) :
    Reaches config given turns waiting pending (driver.work event) := by
  obtain ⟨past, system, tracks, rfl, rfl⟩ := reaches
  obtain ⟨later, system', tracks', quiet, kept⟩ := tracks.work event granted
  refine ⟨_, system', tracks', ?_, kept⟩
  rw [List.filter_append, List.filter_eq_nil_iff.mpr (by simpa using quiet), List.nil_append]

theorem works (reaches : Reaches config given turns waiting pending driver)
    {events : List WorkerEvent} (granted : ∀ outcome, .solve outcome ∈ events → given outcome) :
    Reaches config given turns waiting pending (events.foldl ControllerDriver.work driver) := by
  induction events generalizing driver with
  | nil => exact reaches
  | cons event rest ih =>
      refine ih (reaches.work event fun outcome same => ?_) fun outcome later => ?_
      · exact granted outcome (same ▸ List.mem_cons_self)
      · exact granted outcome (List.mem_cons_of_mem _ later)

/-- An update that completes is a turn, whose requests are now on their way. -/
theorem turned (reaches : Reaches config given turns [] pending driver) {sensing : Sensing}
    (extended : driver.sensing.sensor.Extends sensing.sensor) {now : Time} {again : Bool}
    (returned : ((driver.runtime.observe sensing.sensor).update now).2 = .ok again) :
    ∃ system : NmpcSystem,
      (system.takeTurn (Tracks.turnOf pending sensing now)).2 = .ok () ∧
      (system.takeTurn (Tracks.turnOf pending sensing now)).1.runtime =
        ((driver.runtime.observe sensing.sensor).update now).1 ∧
      Reaches config given
        (nmpcMachine.event system (.turn (Tracks.turnOf pending sensing now)) :: turns)
        (nmpcRequests
          ((driver.runtime.observe sensing.sensor).update now).1.controller.flightEffects) []
        { driver with
          clock := now
          sensing
          runtime := ((driver.runtime.observe sensing.sensor).update now).1 } := by
  obtain ⟨past, system, tracks, rfl, none_⟩ := reaches
  have same := tracks.turnOf_turn sensing now
  have took : system.takeTurn (Tracks.turnOf pending sensing now) =
      ({ system with
          runtime := ((driver.runtime.observe sensing.sensor).update now).1
          waiting := system.waiting ++ nmpcRequests
            ((driver.runtime.observe sensing.sensor).update now).1.controller.flightEffects },
        .ok ()) := by
    unfold NmpcSystem.takeTurn
    dsimp only
    rw [same, returned]
  refine ⟨system, congrArg Prod.snd took, (congrArg (·.1.runtime) took), _, _,
    tracks.turned extended now, List.filter_cons_of_pos rfl, ?_⟩
  rw [took, none_]
  rfl

/-- An update that throws is a turn whose requests are lost. -/
theorem thrown (reaches : Reaches config given turns [] pending driver) {sensing : Sensing}
    (extended : driver.sensing.sensor.Extends sensing.sensor) {now : Time} {error : RuntimeError}
    (returned : ((driver.runtime.observe sensing.sensor).update now).2 = .error error) :
    ∃ system : NmpcSystem,
      (system.takeTurn (Tracks.turnOf pending sensing now)).2 = .error error ∧
      Reaches config given
        (nmpcMachine.event system (.turn (Tracks.turnOf pending sensing now)) :: turns) [] []
        { driver with
          clock := now
          sensing
          runtime := ((driver.runtime.observe sensing.sensor).update now).1 } := by
  obtain ⟨past, system, tracks, rfl, none_⟩ := reaches
  have same := tracks.turnOf_turn sensing now
  have took : system.takeTurn (Tracks.turnOf pending sensing now) =
      ({ system with runtime := ((driver.runtime.observe sensing.sensor).update now).1 },
        .error error) := by
    unfold NmpcSystem.takeTurn
    dsimp only
    rw [same, returned]
  refine ⟨system, congrArg Prod.snd took, _, _, tracks.turned extended now,
    List.filter_cons_of_pos rfl, ?_⟩
  rw [took]
  exact none_

/-- An update of a started driver: the statistics throw before the controller is reached, or the
machine takes a turn, which may throw. -/
inductive Advanced (config : ControllerConfig) (given : NmpcSolveResult → Prop)
    (turns : List NmpcEvent) (pending : List FlightInput) (sensing : Sensing) (now : Time) :
    ControllerDriver × Except RuntimeError Bool → Prop
  | held {after : ControllerDriver} {error : RuntimeError} : after.active = true →
      sensing.advanced now = none → Reaches config given turns [] pending after →
      Advanced config given turns pending sensing now (after, .error error)
  | thrown {after : ControllerDriver} {error : RuntimeError} {system : NmpcSystem} :
      after.active = true → sensing.advanced now = some after.sensing →
      (system.takeTurn { inputs := pending, sensor := after.sensing.sensor, now }).2 =
        .error error →
      Reaches config given (nmpcMachine.event system
        (.turn { inputs := pending, sensor := after.sensing.sensor, now }) :: turns) [] [] after →
      Advanced config given turns pending sensing now (after, .error error)
  | turned {after : ControllerDriver} {again : Bool} {system : NmpcSystem} :
      after.active = true → sensing.advanced now = some after.sensing →
      (system.takeTurn { inputs := pending, sensor := after.sensing.sensor, now }).2 = .ok () →
      (system.takeTurn { inputs := pending, sensor := after.sensing.sensor, now }).1.runtime =
        after.runtime →
      Reaches config given (nmpcMachine.event system
        (.turn { inputs := pending, sensor := after.sensing.sensor, now }) :: turns)
        (nmpcRequests after.runtime.controller.flightEffects) [] after →
      Advanced config given turns pending sensing now (after, .ok again)

theorem update (reaches : Reaches config given turns [] pending driver)
    (active : driver.active = true) (now : Time) :
    Advanced config given turns pending driver.sensing now (driver.update now) := by
  have ended := Tracks.updated driver now
  generalize driver.update now = outcome at ended
  cases ended with
  | inactive idle => exact absurd (idle.symm.trans active) Bool.false_ne_true
  | thrown sensing error _ advanced extended =>
      exact .held active advanced (reaches.sense rfl rfl extended)
  | turned sensing _ advanced extended =>
      cases returned : ((driver.runtime.observe sensing.sensor).update now).2 with
      | error error =>
          obtain ⟨system, output, reached⟩ := reaches.thrown extended returned
          exact .thrown active advanced output reached
      | ok again =>
          obtain ⟨system, output, after, reached⟩ := reaches.turned extended returned
          exact .turned active advanced output after reached

section Start

/-- What a start does: it makes the driver active, unless the statistics throw. -/
inductive Begun (driver : ControllerDriver) (now : Time) :
    ControllerDriver × Except RuntimeError Unit → Prop
  | thrown (sensing : Sensing) (error : RuntimeError) :
      Begun driver now ({ driver with clock := now, sensing }, .error error)
  | started (sensing : Sensing) : driver.sensing.sensor.Follows sensing.sensor →
      Begun driver now ({ driver with clock := now, sensing, active := true }, .ok ())

omit [Libm] in
theorem begun (driver : ControllerDriver) (now : Time) : Begun driver now (driver.start now) := by
  let configured := (driver.withSensor fun sensor =>
    { sensor with feedbackSource := driver.runtime.controller.config.feedbackSource }).sensing
  have kept := Sensing.performs_start now configured
  unfold Procedure.Performs Procedure.wp at kept
  unfold ControllerDriver.start
  dsimp only
  cases ran : (Sensing.start now).run configured with
  | error error sensing => exact .thrown sensing error
  | ok _ sensing =>
      rw [ran] at kept
      refine .started sensing ((Sensing.extends_of_chain kept).follows ?_)
      exact ⟨.inr rfl, .inr rfl⟩

/-- A driver that was just started is a run without an event. -/
theorem start (worker : driver.worker = .idle)
    (runtime : driver.runtime = FlightRuntime.initial.setConfig config)
    (follows : SensorData.Follows {} driver.sensing.sensor) :
    Reaches config given [] [] [] driver :=
  ⟨[], _, .start worker runtime follows, rfl, rfl⟩

end Start

end Reaches

end MultirotorController
