import MultirotorController.Module.PublishedEffects

/-!
# Sessions of the module

From a start to the next stop the module is one run of the machine that the
controller, its dispatcher and the solver's worker make up. The run takes what the
samples and the configuration handed over since the last update, in their order,
and what the module writes is what the effects of the turn come to. A start that
throws leaves a module behind that never writes.
-/

namespace MultirotorController

namespace Module

variable [Libm] [Xgc2Math]

abbrev ModuleEvent := Machine.Event ControllerModule ModuleInput StepOutput

/-- The events since the present start, newest first. -/
def sinceStart (past : List ModuleEvent) : List ModuleEvent :=
  past.takeWhile (·.before.runtime.isSome)

/-- The configuration that the present start found. -/
def startConfig (past : List ModuleEvent) : ControllerConfig :=
  match past.dropWhile (·.before.runtime.isSome) with
  | entry :: _ => entry.before.config.controller
  | [] => {}

section Tells

variable (readers : ConfigReaders)

/-- What an event hands to the controller, in the order of the batch. -/
def handedBy (event : ModuleEvent) : List FlightInput :=
  match event.input, event.before.runtime with
  | .step context, some runtime =>
      match time context.nowNs with
      | .ok _ => handedAll runtime.sensing (collectInputs context.samples)
      | .error _ => []
  | .configure json, some _ =>
      if event.output.status = .ok then
        (JsonConfig.readConfig readers.controller json).toOption.toList.map .configure
      else []
  | _, _ => []

omit readers in
/-- The snapshot and the time of the update that a step comes to: the batch has been taken and
the statistics have advanced. Without a reason for an update there is none, and none if the
statistics throw. -/
def updateOf (event : ModuleEvent) : Option (SensorData × Time) :=
  match event.input, event.before.runtime with
  | .step context, some runtime =>
      match time context.nowNs with
      | .ok now =>
          let inputs := collectInputs context.samples
          if inputs.all (·.port = .sensor .battery) && !context.updateDue then none
          else ((inputs.foldl sensed runtime.sensing).advanced now).map
            fun sensing => (sensing.sensor, now)
      | .error _ => none
  | _, _ => none

/-- The runtime is the one after a turn, up to the results that have arrived since. -/
def SameFlight (flight : FlightRuntime) (module : ControllerModule) : Prop :=
  ∃ runtime buffer, module.runtime = some runtime ∧ runtime.runtime = flight.withResults buffer

/-- A step and the turn that it takes. A turn that throws writes nothing. -/
def Shows (event : ModuleEvent) (inputs : List FlightInput) (turn : NmpcEvent) : Prop :=
  ∃ context sensor now, event.input = .step context ∧ time context.nowNs = .ok now ∧
    updateOf event = some (sensor, now) ∧ turn.input = .turn { inputs, sensor, now } ∧
    ((∃ error, turn.output = .error error ∧ event.output.status = .errInternal ∧
        event.output.written = []) ∨
      turn.output = .ok () ∧ ∃ results,
        List.Forall₂ (Publishes event.before.config.reference now context turn.after.runtime)
          turn.after.runtime.controller.flightEffects results ∧
        event.output.written = outputsOf results ∧
        event.after.outputFailed = event.before.healthAfter results ∧
        SameFlight turn.after.runtime event.after)

/-- What the solver's thread answered during an event. -/
def Answers (event : ModuleEvent) (outcome : NmpcSolveResult) : Prop :=
  match event.input with
  | .step context => ∃ count, .solve outcome ∈ context.background count
  | .background worker => worker = .solve outcome
  | _ => False

def AnsweredIn (events : List ModuleEvent) (outcome : NmpcSolveResult) : Prop :=
  ∃ event ∈ events, Answers event outcome

/-- The events of a session, as turns of the machine with some inputs pending. -/
inductive Tells : List ModuleEvent → List NmpcEvent → List FlightInput → Prop
  | started : Tells [] [] []
  | quiet {event : ModuleEvent} {events : List ModuleEvent} {turns : List NmpcEvent}
      {pending : List FlightInput} : updateOf event = none → event.output.written = [] →
      Tells events turns pending →
      Tells (event :: events) turns (pending ++ handedBy readers event)
  | turned {event : ModuleEvent} {events : List ModuleEvent} {turn : NmpcEvent}
      {turns : List NmpcEvent} {pending : List FlightInput} :
      Shows event (pending ++ handedBy readers event) turn → Tells events turns pending →
      Tells (event :: events) (turn :: turns) []

end Tells

/-- A driver that was not started has emitted nothing. -/
structure Dormant (driver : ControllerDriver) : Prop where
  inactive : driver.active = false
  silent : driver.runtime.controller.flightEffects = []
  grounded : driver.runtime.onTheGround = true

namespace Dormant

variable {driver after : ControllerDriver}

theorem received (dormant : Dormant driver) (input : Input) : Dormant (taken driver input) where
  inactive := dormant.inactive
  silent := (driver.runtime.receiveAll_flightEffects _).trans dormant.silent
  grounded := (driver.runtime.receiveAll_onTheGround _).trans dormant.grounded

theorem configure (dormant : Dormant driver) (config : ControllerConfig) :
    Dormant (driver.deliver (.configure config)) :=
  ⟨dormant.inactive, dormant.silent, dormant.grounded⟩

omit [Libm] in
theorem undisturbed (dormant : Dormant driver) (same : Undisturbed driver after) :
    Dormant after := by
  rw [same]
  exact ⟨dormant.inactive, dormant.silent, dormant.grounded⟩

omit [Libm] in
theorem resetNewFlags (dormant : Dormant driver) : Dormant driver.resetNewFlags :=
  ⟨dormant.inactive, dormant.silent, dormant.grounded⟩

end Dormant

namespace ModuleRuntime

section Batch

variable {runtime : ModuleRuntime} {config : ControllerConfig} {given : NmpcSolveResult → Prop}
variable {turns : List NmpcEvent} {pending : List FlightInput}

/-- One input of a batch. -/
theorem reaches_receive {driver : ControllerDriver}
    (reaches : Reaches config given turns [] pending driver) (input : Input) :
    Reaches config given turns [] (pending ++ handed driver.sensing input)
      (receive driver input) := by
  rw [receive_eq]
  have sensing : Reaches config given turns [] pending
      { driver with sensing := sensed driver.sensing input } :=
    reaches.sense rfl rfl (extends_sensed driver.sensing input)
  exact sensing.receiveAll fun _ => external_of_handed driver.sensing input

theorem reaches_applyAll
    (reaches : Reaches config given turns [] pending runtime.toControllerDriver)
    {context : StepContext}
    (granted : ∀ count outcome, .solve outcome ∈ context.background count → given outcome)
    (inputs : List Input) (count : Nat) :
    Reaches config given turns [] (pending ++ handedAll runtime.sensing inputs)
      (applyAll context inputs count runtime).toControllerDriver := by
  induction inputs generalizing runtime pending count with
  | nil =>
      change Reaches config given turns [] (pending ++ []) runtime.toControllerDriver
      rw [List.append_nil]
      exact reaches
  | cons input rest ih =>
      let worked := runtime.work (context.background count)
      have sensing : worked.sensing = runtime.sensing :=
        (runtime.undisturbed_work (context.background count)).sensing
      have received : Reaches config given turns [] (pending ++ handed worked.sensing input)
          (worked.withDriver (receive worked.toControllerDriver input)).toControllerDriver :=
        reaches_receive (reaches.works (granted count)) input
      have next : (worked.withDriver (receive worked.toControllerDriver input)).sensing =
          sensed worked.sensing input := receive_sensing worked.toControllerDriver input
      have last := ih received (count + 1)
      rw [next, sensing, List.append_assoc] at last
      exact last

/-- What the batch leaves in the snapshot does not depend on the solver's thread. -/
theorem applyAll_sensing (context : StepContext) (inputs : List Input) (count : Nat) :
    (applyAll context inputs count runtime).sensing = inputs.foldl sensed runtime.sensing := by
  induction inputs generalizing runtime count with
  | nil => rfl
  | cons input rest ih =>
      have sensing := (runtime.undisturbed_work (context.background count)).sensing
      have received := receive_sensing (runtime.work (context.background count)).toControllerDriver
        input
      rw [sensing] at received
      refine (ih (count + 1)).trans ?_
      exact congrArg (rest.foldl sensed) received

theorem applyAll_active (context : StepContext) (inputs : List Input) (count : Nat) :
    (applyAll context inputs count runtime).active = runtime.active := by
  induction inputs generalizing runtime count with
  | nil => rfl
  | cons input rest ih =>
      have worked := (runtime.undisturbed_work (context.background count)).active
      have received := receive_active (runtime.work (context.background count)).toControllerDriver
        input
      exact ((ih (count + 1)).trans received).trans worked

theorem dormant_applyAll (dormant : Dormant runtime.toControllerDriver)
    (context : StepContext) (inputs : List Input) (count : Nat) :
    Dormant (applyAll context inputs count runtime).toControllerDriver := by
  induction inputs generalizing runtime count with
  | nil => exact dormant
  | cons input rest ih =>
      let worked := runtime.work (context.background count)
      have undisturbed := dormant.undisturbed (runtime.undisturbed_work (context.background count))
      have received : Dormant
          (worked.withDriver (receive worked.toControllerDriver input)).toControllerDriver := by
        change Dormant (receive worked.toControllerDriver input)
        rw [receive_eq]
        exact undisturbed.received input
      exact ih received (count + 1)

end Batch

end ModuleRuntime

namespace ControllerModule

variable (module : ControllerModule)

section Turn

variable {module} {runtime : ModuleRuntime} {context : StepContext} {count : Nat} {now : Time}
variable {driver : ControllerDriver}

omit [Libm] in
theorem consumeDeadline_config : (module.consumeDeadline context).config = module.config := by
  unfold consumeDeadline
  split <;> rfl

omit [Libm] in
theorem consumeDeadline_healthAfter (results : List Write) :
    (module.consumeDeadline context).healthAfter results = module.healthAfter results := by
  unfold consumeDeadline
  split <;> rfl

omit [Libm] in
/-- Neither the deadline nor the report changes anything else. -/
theorem settle_kept (handled : ModuleRuntime × List Write) (continuation : Bool) :
    (module.settle handled continuation).1.runtime =
        some (handled.1.withDriver handled.1.toControllerDriver.resetNewFlags) ∧
      (module.settle handled continuation).1.outputFailed = module.healthAfter handled.2 ∧
      (module.settle handled continuation).2.written = outputsOf handled.2 := by
  unfold settle
  dsimp only
  split
  · exact ⟨rfl, rfl, rfl⟩
  · unfold reportIfChanged
    dsimp only
    split <;> exact ⟨rfl, rfl, rfl⟩

/-- An update that throws ends the turn. -/
theorem turn_error {error : RuntimeError}
    (ran : (runtime.work (context.background count)).toControllerDriver.update now =
      (driver, .error error)) :
    module.turn runtime context count now =
      ({ module with
          runtime := some ((runtime.work (context.background count)).withDriver driver) },
        { status := .errInternal }) := by
  unfold turn
  dsimp only
  rw [ran]

/-- An update that returns is followed by the handling of its effects. -/
theorem turn_ok {continuation : Bool}
    (ran : (runtime.work (context.background count)).toControllerDriver.update now =
      (driver, .ok continuation)) :
    module.turn runtime context count now =
      module.settle (ModuleRuntime.handleAll module.config.reference now context
        driver.runtime.controller.flightEffects (count + 1)
        ((runtime.work (context.background count)).withDriver driver)) continuation := by
  unfold turn
  dsimp only
  rw [ran]

end Turn

end ControllerModule

/-- What is known of a started module: its events are those of a run of the machine, or it was
never started properly and has written nothing. -/
inductive Session (readers : ConfigReaders) (config : ControllerConfig)
    (events : List ModuleEvent) (runtime : ModuleRuntime) : Prop
  | alive {turns : List NmpcEvent} {pending : List FlightInput} : runtime.active = true →
      Reaches config (AnsweredIn events) turns [] pending runtime.toControllerDriver →
      Tells readers events turns pending → Session readers config events runtime
  | dormant : Dormant runtime.toControllerDriver →
      (∀ event ∈ events, event.output.written = []) → Session readers config events runtime

namespace Session

variable {readers : ConfigReaders} {config : ControllerConfig} {events : List ModuleEvent}
variable {runtime : ModuleRuntime} {event : ModuleEvent}

/-- With one more event the solver has answered no less. -/
theorem reaches_later {turns : List NmpcEvent} {pending : List FlightInput}
    {driver : ControllerDriver}
    (reaches : Reaches config (AnsweredIn events) turns [] pending driver) (event : ModuleEvent) :
    Reaches config (AnsweredIn (event :: events)) turns [] pending driver := by
  refine reaches.mono ?_
  rintro outcome ⟨earlier, member, answers⟩
  exact ⟨earlier, List.mem_cons_of_mem _ member, answers⟩

/-- An event that hands over nothing, writes nothing and leaves the controller alone. -/
theorem idle (session : Session readers config events runtime)
    (nothing : handedBy readers event = []) (quiet : updateOf event = none)
    (silent : event.output.written = []) (background : List WorkerEvent)
    (answers : ∀ outcome, .solve outcome ∈ background → Answers event outcome) :
    Session readers config (event :: events) (runtime.work background) := by
  have undisturbed := runtime.undisturbed_work background
  cases session with
  | @alive turns pending active reaches tells =>
      refine .alive (undisturbed.active.trans active) ((reaches_later reaches event).works
        fun outcome solved => ⟨event, List.mem_cons_self, answers outcome solved⟩) ?_
      rw [← List.append_nil pending, ← nothing]
      exact .quiet quiet silent tells
  | dormant dormant silence =>
      exact .dormant (dormant.undisturbed undisturbed)
        (List.forall_mem_cons.mpr ⟨silent, silence⟩)

/-- A configuration is handed over on the ground. -/
theorem configure (session : Session readers config events runtime) {next : ControllerConfig}
    (grounded : runtime.runtime.onTheGround = true)
    (hands : handedBy readers event = [.configure next]) (quiet : updateOf event = none)
    (silent : event.output.written = []) :
    Session readers config (event :: events)
      (runtime.withDriver (runtime.toControllerDriver.deliver (.configure next))) := by
  cases session with
  | alive active reaches tells =>
      refine .alive active ((reaches_later reaches event).deliver rfl fun _ _ => grounded) ?_
      rw [← hands]
      exact .quiet quiet silent tells
  | dormant dormant silence =>
      exact .dormant (dormant.configure next) (List.forall_mem_cons.mpr ⟨silent, silence⟩)

section Step

variable {module : ControllerModule} {context : StepContext} {now : Time}

omit [Libm] in
/-- What the solver's thread answers during a step. -/
theorem answered_of_step (input : event.input = .step context) :
    ∀ count outcome, .solve outcome ∈ context.background count →
      AnsweredIn (event :: events) outcome := by
  intro count outcome solved
  refine ⟨event, List.mem_cons_self, ?_⟩
  unfold Answers
  rw [input]
  exact ⟨count, solved⟩

omit [Libm] in
/-- A step hands over what its batch does. -/
theorem handedBy_step (input : event.input = .step context)
    (started : event.before.runtime = some runtime) (timed : time context.nowNs = .ok now) :
    handedBy readers event = handedAll runtime.sensing (collectInputs context.samples) := by
  unfold handedBy
  rw [input, started]
  dsimp only
  rw [timed]

theorem updateOf_skipped (input : event.input = .step context)
    (started : event.before.runtime = some runtime) (timed : time context.nowNs = .ok now)
    (skipped : ((collectInputs context.samples).all (·.port = .sensor .battery) &&
      !context.updateDue) = true) : updateOf event = none := by
  unfold updateOf
  rw [input, started]
  dsimp only
  rw [timed]
  dsimp only
  rw [if_pos skipped]

/-- The snapshot that a step updates with is the one that its batch leaves. -/
theorem updateOf_due (input : event.input = .step context)
    (started : event.before.runtime = some runtime) (timed : time context.nowNs = .ok now)
    (due : ¬((collectInputs context.samples).all (·.port = .sensor .battery) &&
      !context.updateDue) = true) :
    updateOf event = ((ModuleRuntime.applyAll context (collectInputs context.samples) 0
      runtime).sensing.advanced now).map fun sensing => (sensing.sensor, now) := by
  rw [ModuleRuntime.applyAll_sensing]
  unfold updateOf
  rw [input, started]
  dsimp only
  rw [timed]
  dsimp only
  rw [if_neg due]

/-- A step that only takes its batch. -/
theorem batch (session : Session readers config events runtime)
    (input : event.input = .step context) (started : event.before.runtime = some runtime)
    (timed : time context.nowNs = .ok now) (quiet : updateOf event = none)
    (silent : event.output.written = []) :
    Session readers config (event :: events)
      (ModuleRuntime.applyAll context (collectInputs context.samples) 0 runtime) := by
  cases session with
  | alive active reaches tells =>
      have reached := ModuleRuntime.reaches_applyAll (reaches_later reaches event)
        (answered_of_step input) (collectInputs context.samples) 0
      rw [← handedBy_step input started timed] at reached
      exact .alive ((ModuleRuntime.applyAll_active _ _ _).trans active) reached
        (.quiet quiet silent tells)
  | dormant dormant silence =>
      exact .dormant (ModuleRuntime.dormant_applyAll dormant _ _ _)
        (List.forall_mem_cons.mpr ⟨silent, silence⟩)

/-- An update that writes nothing leaves a module behind that has written nothing. -/
theorem turned_dormant {applied : ModuleRuntime} {count : Nat}
    (dormant : Dormant applied.toControllerDriver)
    (silence : ∀ event ∈ events, event.output.written = [])
    (ran : (event.after, event.output) = module.turn applied context count now) :
    ∃ after, event.after.runtime = some after ∧ Session readers config (event :: events) after := by
  have worked := dormant.undisturbed (applied.undisturbed_work (context.background count))
  have ended := Tracks.updated (applied.work (context.background count)).toControllerDriver now
  generalize update : (applied.work (context.background count)).toControllerDriver.update now =
    outcome at ended
  cases ended with
  | inactive idle =>
      rw [module.turn_ok update, worked.silent] at ran
      obtain ⟨runtime, -, written⟩ := module.settle_kept
        (applied.work (context.background count), []) false
      refine ⟨_, (congrArg (·.1.runtime) ran).trans runtime, .dormant worked.resetNewFlags ?_⟩
      exact List.forall_mem_cons.mpr ⟨(congrArg (·.2.written) ran).trans written, silence⟩
  | thrown sensing error active =>
      exact absurd (worked.inactive.symm.trans active) Bool.false_ne_true
  | turned sensing active => exact absurd (worked.inactive.symm.trans active) Bool.false_ne_true

/-- The effects of a turn are handled, and the marks of the snapshot are cleared. -/
theorem settled (worked : ModuleRuntime) {after : ControllerDriver}
    {given : NmpcSolveResult → Prop} {turns : List NmpcEvent} {system : NmpcSystem}
    {inputs : List FlightInput} (params : ReferenceParams) (context : StepContext) (count : Nat)
    (granted : ∀ count outcome, .solve outcome ∈ context.background count → given outcome)
    (ended : (system.takeTurn { inputs, sensor := after.sensing.sensor, now }).1.runtime =
      after.runtime)
    (reaches : Reaches config given turns (nmpcRequests after.runtime.controller.flightEffects) []
      after) :
    let handled := ModuleRuntime.handleAll params now context
      after.runtime.controller.flightEffects count (worked.withDriver after)
    List.Forall₂ (Publishes params now context after.runtime)
        after.runtime.controller.flightEffects handled.2 ∧
      Undisturbed after handled.1.toControllerDriver ∧
      Reaches config given turns [] [] handled.1.toControllerDriver.resetNewFlags := by
  intro handled
  rw [system.takeTurn_runtime] at ended
  have known : ∀ effect ∈ after.runtime.controller.flightEffects, effect.ModeKnown := by
    rw [← ended]
    exact FlightRuntime.update_modeKnown _ _
  have seen : after.runtime.controller.sensorData = after.sensing.sensor := by
    rw [← ended]
    exact (FlightRuntime.update_circumstances _ _).2.1
  have since : Undisturbed after (worked.withDriver after).toControllerDriver := .refl after
  have undisturbed : Undisturbed after handled.1.toControllerDriver :=
    since.trans (ModuleRuntime.undisturbed_handleAll _ _ _)
  obtain ⟨results, reached⟩ :=
    ModuleRuntime.handleAll_spec count granted since known reaches
  refine ⟨results, undisturbed, reached.resetNewFlags ?_⟩
  rw [undisturbed.sensorData, undisturbed.sensing]
  exact seen

/-- An update of a running module is a turn of the machine, unless its statistics throw. -/
theorem turned_alive {applied : ModuleRuntime} {count : Nat}
    {turns : List NmpcEvent} {pending : List FlightInput}
    (active : applied.active = true)
    (update : updateOf event =
      (applied.sensing.advanced now).map fun sensing => (sensing.sensor, now))
    (reaches : Reaches config (AnsweredIn (event :: events)) turns []
      (pending ++ handedBy readers event) applied.toControllerDriver)
    (tells : Tells readers events turns pending) (input : event.input = .step context)
    (timed : time context.nowNs = .ok now)
    (ran : (event.after, event.output) =
      (event.before.consumeDeadline context).turn applied context count now) :
    ∃ after, event.after.runtime = some after ∧ Session readers config (event :: events) after := by
  have undisturbed := applied.undisturbed_work (context.background count)
  have answered : ∀ count outcome, .solve outcome ∈ context.background count →
      AnsweredIn (event :: events) outcome := answered_of_step input
  have worked : Reaches config (AnsweredIn (event :: events)) turns []
      (pending ++ handedBy readers event)
      (applied.work (context.background count)).toControllerDriver :=
    reaches.works (answered count)
  have advanced := worked.update (undisturbed.active.trans active) now
  rw [undisturbed.sensing] at advanced
  generalize ended : (applied.work (context.background count)).toControllerDriver.update now =
    outcome at advanced
  cases advanced with
  | held started failed reached =>
      rw [ControllerModule.turn_error ended] at ran
      refine ⟨_, congrArg (·.1.runtime) ran, .alive started reached ?_⟩
      rw [failed] at update
      exact .quiet update (congrArg (·.2.written) ran) tells
  | thrown started sensed output reached =>
      rw [ControllerModule.turn_error ended] at ran
      refine ⟨_, congrArg (·.1.runtime) ran, .alive started reached (.turned ?_ tells)⟩
      rw [sensed] at update
      refine ⟨context, _, now, input, timed, update, rfl, .inl ⟨_, output, ?_, ?_⟩⟩
      · exact congrArg (·.2.status) ran
      · exact congrArg (·.2.written) ran
  | @turned after again system started sensed output same reached =>
      let handled := ModuleRuntime.handleAll event.before.config.reference now context
        after.runtime.controller.flightEffects (count + 1)
        ((applied.work (context.background count)).withDriver after)
      rw [ControllerModule.turn_ok ended, ControllerModule.consumeDeadline_config] at ran
      obtain ⟨published, kept, last⟩ := settled (applied.work (context.background count))
        event.before.config.reference context (count + 1) answered same reached
      obtain ⟨runtime, failed, written⟩ :=
        (event.before.consumeDeadline context).settle_kept handled again
      refine ⟨handled.1.withDriver handled.1.toControllerDriver.resetNewFlags,
        (congrArg (·.1.runtime) ran).trans runtime,
        .alive (kept.active.trans started) last (.turned ?_ tells)⟩
      rw [sensed] at update
      refine ⟨context, _, now, input, timed, update, rfl,
        .inr ⟨output, handled.2, ?_, ?_, ?_, ?_⟩⟩
      · change List.Forall₂ (Publishes _ _ _ (system.takeTurn _).1.runtime)
          (system.takeTurn _).1.runtime.controller.flightEffects _
        rw [same]
        exact published
      · exact (congrArg (·.2.written) ran).trans written
      · exact ((congrArg (·.1.outputFailed) ran).trans failed).trans
          (ControllerModule.consumeDeadline_healthAfter _)
      · refine ⟨_, handled.1.runtime.controller.nmpcResultBuffer,
          (congrArg (·.1.runtime) ran).trans runtime, ?_⟩
        change handled.1.runtime = (system.takeTurn _).1.runtime.withResults _
        rw [same]
        exact congrArg ControllerDriver.runtime kept

/-- A step that takes its batch and a turn. -/
theorem turned (session : Session readers config events runtime)
    (input : event.input = .step context) (started : event.before.runtime = some runtime)
    (timed : time context.nowNs = .ok now)
    (due : ¬((collectInputs context.samples).all (·.port = .sensor .battery) &&
      !context.updateDue) = true)
    (ran : (event.after, event.output) = (event.before.consumeDeadline context).turn
      (ModuleRuntime.applyAll context (collectInputs context.samples) 0 runtime) context
      (collectInputs context.samples).length now) :
    ∃ after, event.after.runtime = some after ∧ Session readers config (event :: events) after := by
  cases session with
  | alive active reaches tells =>
      have reached := ModuleRuntime.reaches_applyAll (reaches_later reaches event)
        (answered_of_step input) (collectInputs context.samples) 0
      rw [← handedBy_step input started timed] at reached
      exact turned_alive ((ModuleRuntime.applyAll_active _ _ _).trans active)
        (updateOf_due input started timed due) reached tells input timed ran
  | dormant dormant silence =>
      exact turned_dormant (ModuleRuntime.dormant_applyAll dormant _ _ _) silence ran

end Step

end Session

section Runs

variable {readers : ConfigReaders} {config : ControllerConfig} {past : List ModuleEvent}
variable {module : ControllerModule}

/-- A constructed module with its first configuration. -/
def ControllerModule.Constructed (module : ControllerModule) : Prop :=
  ∃ config, module = { config }

/-- The host may do anything at any time. -/
def anyHost : Machine.Restriction ControllerModule ModuleInput StepOutput := fun _ _ _ => True

omit [Libm] in
theorem sinceStart_cons_of_started {event : ModuleEvent} {runtime : ModuleRuntime}
    (started : event.before.runtime = some runtime) :
    sinceStart (event :: past) = event :: sinceStart past :=
  List.takeWhile_cons_of_pos (by rw [started]; rfl)

omit [Libm] in
theorem sinceStart_cons_of_stopped {event : ModuleEvent} (stopped : event.before.runtime = none) :
    sinceStart (event :: past) = [] :=
  List.takeWhile_cons_of_neg (by rw [stopped]; exact Bool.false_ne_true)

omit [Libm] in
theorem startConfig_cons_of_started {event : ModuleEvent} {runtime : ModuleRuntime}
    (started : event.before.runtime = some runtime) :
    startConfig (event :: past) = startConfig past := by
  unfold startConfig
  rw [List.dropWhile_cons_of_pos (by rw [started]; rfl)]

omit [Libm] in
theorem startConfig_cons_of_stopped {event : ModuleEvent} (stopped : event.before.runtime = none) :
    startConfig (event :: past) = event.before.config.controller := by
  unfold startConfig
  rw [List.dropWhile_cons_of_neg (by rw [stopped]; exact Bool.false_ne_true)]

omit [Libm] in
theorem launch_runtime (built : ModuleRuntime) {runtime : ModuleRuntime}
    {outcome : ControllerDriver × Except RuntimeError Unit}
    (started : (module.launch built outcome).1.runtime = some runtime) :
    runtime = built.withDriver outcome.1 := by
  obtain ⟨driver, outcome⟩ := outcome
  cases outcome with
  | error error =>
      cases started
      rfl
  | ok _ =>
      unfold ControllerModule.launch ControllerModule.reportIfChanged at started
      dsimp only at started
      split at started <;> cases started <;> rfl

omit [Libm] in
theorem launch_written (built : ModuleRuntime)
    (outcome : ControllerDriver × Except RuntimeError Unit) :
    (module.launch built outcome).2.written = [] := by
  obtain ⟨driver, outcome⟩ := outcome
  cases outcome with
  | error error => rfl
  | ok _ =>
      unfold ControllerModule.launch ControllerModule.reportIfChanged
      dsimp only
      split <;> rfl

/-- A start begins a run of the machine, or leaves a module behind that does nothing. -/
theorem session_start (stopped : module.runtime = none) (nowNs : Int64) {runtime : ModuleRuntime}
    (started : (module.start nowNs).1.runtime = some runtime) :
    Session readers module.config.controller [] runtime := by
  rw [ControllerModule.start, stopped] at started
  generalize time nowNs = timed at started
  cases timed with
  | error error =>
      cases started
      exact .dormant ⟨rfl, rfl, rfl⟩ (by simp)
  | ok now =>
      have same := launch_runtime _ started
      have begun := Reaches.begun
        { runtime := FlightRuntime.initial.setConfig module.config.controller } now
      generalize ControllerDriver.start _ now = outcome at begun same
      cases begun with
      | thrown sensing error =>
          rw [same]
          exact .dormant ⟨rfl, rfl, rfl⟩ (by simp)
      | started sensing follows =>
          rw [same]
          exact .alive rfl (.start rfl rfl follows) .started

section Events

variable {runtime after : ModuleRuntime}

/-- A configuration does not start the module. -/
theorem ControllerModule.configure_stopped (stopped : module.runtime = none) (json : JsonConfig) :
    (module.configure readers json).1.runtime = none := by
  unfold configure
  split
  · exact stopped
  · rw [stopped]
    rfl

section Handed

variable {event : ModuleEvent}

omit [Libm] in
theorem handedBy_configure {json : JsonConfig} (input : event.input = .configure json)
    (started : event.before.runtime = some runtime) :
    handedBy readers event = if event.output.status = .ok then
      (JsonConfig.readConfig readers.controller json).toOption.toList.map .configure else [] := by
  unfold handedBy
  rw [input, started]

omit [Libm] in
theorem handedBy_refused {json : JsonConfig} {status : ModuleStatus}
    (input : event.input = .configure json) (started : event.before.runtime = some runtime)
    (ended : event.output.status = status) (refused : status ≠ .ok) :
    handedBy readers event = [] := by
  rw [handedBy_configure input started, ended, if_neg refused]

omit [Libm] in
theorem handedBy_configured {json : JsonConfig} {next : ControllerConfig}
    (input : event.input = .configure json) (started : event.before.runtime = some runtime)
    (ended : event.output.status = .ok)
    (read : JsonConfig.readConfig readers.controller json = .ok next) :
    handedBy readers event = [.configure next] := by
  rw [handedBy_configure input started, ended, if_pos rfl, read]
  rfl

omit [Libm] in
/-- A step whose time is out of range is not taken. -/
theorem handedBy_untimed {context : StepContext} {error : RuntimeError}
    (input : event.input = .step context) (timed : time context.nowNs = .error error) :
    handedBy readers event = [] := by
  unfold handedBy
  rw [input]
  cases event.before.runtime with
  | none => rfl
  | some runtime =>
      dsimp only
      rw [timed]

theorem updateOf_untimed {context : StepContext} {error : RuntimeError}
    (input : event.input = .step context) (timed : time context.nowNs = .error error) :
    updateOf event = none := by
  unfold updateOf
  rw [input]
  cases event.before.runtime with
  | none => rfl
  | some runtime =>
      dsimp only
      rw [timed]

end Handed

/-- A configuration hands itself over, unless it is refused. -/
theorem session_configure (json : JsonConfig) (started : module.runtime = some runtime)
    {events : List ModuleEvent} (session : Session readers config events runtime)
    (ended : (module.configure readers json).1.runtime = some after) :
    Session readers config ((controllerMachine readers).event module (.configure json) :: events)
      after := by
  cases read : JsonConfig.readConfig readers.controller json with
  | error error =>
      have refused : module.configure readers json = (module, { status := .errInvalid }) := by
        rw [ControllerModule.configure, read]
      rw [refused] at ended
      cases started.symm.trans ended
      refine session.idle ?_ rfl (congrArg (·.2.written) refused) [] (by simp)
      exact handedBy_refused rfl started (congrArg (·.2.status) refused) (by simp)
  | ok next =>
      cases grounded : runtime.runtime.onTheGround with
      | false =>
          have refused : module.configure readers json = (module, { status := .errState }) := by
            rw [ControllerModule.configure, read, started, Option.any_some, grounded]
            rfl
          rw [refused] at ended
          cases started.symm.trans ended
          refine session.idle ?_ rfl (congrArg (·.2.written) refused) [] (by simp)
          exact handedBy_refused rfl started (congrArg (·.2.status) refused) (by simp)
      | true =>
          have taken : module.configure readers json = ({ module with
              config := ⟨next, readers.reference json⟩
              runtime := some (runtime.withDriver
                (runtime.toControllerDriver.deliver (.configure next))) }, {}) := by
            rw [ControllerModule.configure, read, started, Option.any_some, grounded]
            rfl
          rw [taken] at ended
          cases ended
          refine session.configure grounded ?_ rfl (congrArg (·.2.written) taken)
          exact handedBy_configured rfl started (congrArg (·.2.status) taken) read

/-- A step takes its batch and a turn, unless the time of the host is out of range. -/
theorem session_step (context : StepContext) (started : module.runtime = some runtime)
    {events : List ModuleEvent} (session : Session readers config events runtime)
    (ended : (module.step context).1.runtime = some after) :
    Session readers config ((controllerMachine readers).event module (.step context) :: events)
      after := by
  cases timed : time context.nowNs with
  | error error =>
      have stepped : module.step context = (module, { status := .errInternal }) := by
        rw [ControllerModule.step, started]
        generalize time context.nowNs = clock at timed
        rw [timed]
      rw [stepped] at ended
      cases started.symm.trans ended
      refine session.idle ?_ ?_ (congrArg (·.2.written) stepped) [] (by simp)
      · exact handedBy_untimed rfl timed
      · exact updateOf_untimed rfl timed
  | ok now =>
      have stepped : module.step context = module.stepAt runtime context now := by
        rw [ControllerModule.step, started]
        generalize time context.nowNs = clock at timed
        rw [timed]
      rw [stepped] at ended
      unfold ControllerModule.stepAt at stepped ended
      dsimp only at stepped ended
      split at ended
      next skipped =>
        rw [if_pos skipped] at stepped
        cases ended
        exact session.batch rfl started timed (Session.updateOf_skipped rfl started timed skipped)
          (congrArg (·.2.written) stepped)
      next due =>
        rw [if_neg due] at stepped
        have turned : ∃ after,
            ((controllerMachine readers).event module (.step context)).after.runtime = some after ∧
              Session readers config
                ((controllerMachine readers).event module (.step context) :: events) after :=
          session.turned rfl started timed due stepped
        obtain ⟨final, same, last⟩ := turned
        cases same.symm.trans (stepped ▸ ended)
        exact last

end Events

/-- Every event of a module that is started continues its session. -/
theorem session_event (input : ModuleInput) {runtime after : ModuleRuntime}
    (started : module.runtime = some runtime)
    (session : Session readers config (sinceStart past) runtime)
    (ended : ((controllerMachine readers).step module input).1.runtime = some after) :
    Session readers config
      (sinceStart ((controllerMachine readers).event module input :: past)) after := by
  have continued : sinceStart ((controllerMachine readers).event module input :: past) =
      (controllerMachine readers).event module input :: sinceStart past :=
    sinceStart_cons_of_started started
  rw [continued]
  cases input with
  | configure json => exact session_configure json started session ended
  | start nowNs =>
      have refused : module.start nowNs = (module, { status := .errState }) := by
        rw [ControllerModule.start, started]
      change (module.start nowNs).1.runtime = some after at ended
      rw [refused] at ended
      cases started.symm.trans ended
      refine session.idle ?_ rfl (congrArg (·.2.written) refused) [] (by simp)
      rfl
  | step context => exact session_step context started session ended
  | stop =>
      change module.stop.1.runtime = some after at ended
      rw [ControllerModule.stop, started] at ended
      cases ended
  | background event =>
      change module.runtime.map (·.work [event]) = some after at ended
      rw [started] at ended
      cases ended
      refine session.idle rfl rfl rfl [event] fun outcome member => ?_
      · exact (List.mem_singleton.mp member).symm

/-- Whatever the host does, a started module is in a session. -/
theorem session_of_run
    (run : (controllerMachine readers).Run ControllerModule.Constructed anyHost past module) :
    ∀ runtime, module.runtime = some runtime →
      Session readers (startConfig past) (sinceStart past) runtime := by
  refine run.invariant (fun past module => ∀ runtime, module.runtime = some runtime →
    Session readers (startConfig past) (sinceStart past) runtime) ?_ ?_
  · rintro _ ⟨config, rfl⟩ runtime started
    cases started
  · intro past module input _ held _ after ended
    cases running : module.runtime with
    | some runtime =>
        rw [startConfig_cons_of_started running]
        exact session_event input running (held runtime running) ended
    | none =>
        rw [sinceStart_cons_of_stopped running, startConfig_cons_of_stopped running]
        cases input with
        | start nowNs => exact session_start running nowNs ended
        | configure json =>
            change (module.configure readers json).1.runtime = some after at ended
            rw [module.configure_stopped running] at ended
            cases ended
        | step context =>
            change (module.step context).1.runtime = some after at ended
            rw [ControllerModule.step, running] at ended
            cases running.symm.trans ended
        | stop =>
            change module.stop.1.runtime = some after at ended
            rw [ControllerModule.stop, running] at ended
            cases running.symm.trans ended
        | background event =>
            change module.runtime.map (·.work [event]) = some after at ended
            rw [running] at ended
            cases ended

section Written

theorem turn_started (runtime : ModuleRuntime) (context : StepContext) (count : Nat) (now : Time) :
    ∃ after, (module.turn runtime context count now).1.runtime = some after := by
  generalize update : (runtime.work (context.background count)).toControllerDriver.update now =
    outcome
  obtain ⟨driver, outcome⟩ := outcome
  cases outcome with
  | error error =>
      rw [ControllerModule.turn_error update]
      exact ⟨_, rfl⟩
  | ok continuation =>
      rw [ControllerModule.turn_ok update]
      exact ⟨_, (module.settle_kept _ _).1⟩

/-- A step does not stop the module. -/
theorem step_started (context : StepContext) {runtime : ModuleRuntime}
    (started : module.runtime = some runtime) :
    ∃ after, (module.step context).1.runtime = some after := by
  rw [ControllerModule.step, started]
  generalize time context.nowNs = clock
  cases clock with
  | error error => exact ⟨runtime, started⟩
  | ok now =>
      change ∃ after, (module.stepAt runtime context now).1.runtime = some after
      unfold ControllerModule.stepAt
      dsimp only
      split
      · exact ⟨_, rfl⟩
      · exact turn_started _ _ _ _

/-- Only a step of a started module writes. -/
theorem step_of_written {input : ModuleInput}
    (written : ((controllerMachine readers).step module input).2.written ≠ []) :
    ∃ context runtime, input = .step context ∧ module.runtime = some runtime := by
  cases input with
  | configure json =>
      refine (written ?_).elim
      change (module.configure readers json).2.written = []
      unfold ControllerModule.configure
      split
      · rfl
      · split <;> rfl
  | start nowNs =>
      refine (written ?_).elim
      change (module.start nowNs).2.written = []
      rw [ControllerModule.start]
      cases module.runtime with
      | some runtime => rfl
      | none =>
          generalize time nowNs = clock
          cases clock with
          | error error => rfl
          | ok now => exact launch_written _ _
  | step context =>
      cases running : module.runtime with
      | some runtime => exact ⟨context, runtime, rfl, rfl⟩
      | none =>
          refine (written ?_).elim
          change (module.step context).2.written = []
          rw [ControllerModule.step, running]
  | stop =>
      refine (written ?_).elim
      change module.stop.2.written = []
      unfold ControllerModule.stop
      split <;> rfl
  | background event => exact (written rfl).elim

end Written

end Runs

end Module

end MultirotorController
