import MultirotorController.Safety.ModuleConfiguration

/-!
# Reports of the module

The host sees the flight state and the health of the module through its reports.
The module reports a change once, with the turn that made it, and every start. What
the host was last told is therefore what holds now, until a turn ends in an error.
-/

namespace MultirotorController

namespace Module

section Reports

variable [Libm] [Xgc2Math]

section Kept

/-- An input does not move the flight state. -/
theorem receive_flightState (driver : ControllerDriver) (input : Input) :
    (ModuleRuntime.receive driver input).runtime.flightState = driver.runtime.flightState := by
  rw [ModuleRuntime.receive_eq]
  exact congrArg FlightLeaf.flightState (driver.runtime.receiveAll_leaf _)

theorem ModuleRuntime.applyAll_flightState (context : StepContext) (inputs : List Input)
    (count : Nat) (runtime : ModuleRuntime) :
    (ModuleRuntime.applyAll context inputs count runtime).runtime.flightState =
      runtime.runtime.flightState := by
  induction inputs generalizing runtime count with
  | nil => rfl
  | cons input rest ih =>
      have worked := (runtime.undisturbed_work (context.background count)).flightState
      have received := receive_flightState
        (runtime.work (context.background count)).toControllerDriver input
      exact ((ih (count + 1) _).trans received).trans worked

end Kept

/-- What the host was last told of the flight state and the health. -/
def lastReport (past : List ModuleEvent) : Option (String × Bool) :=
  past.findSome? (·.output.report)

omit [Libm] in
theorem lastReport_cons (event : ModuleEvent) (past : List ModuleEvent) :
    lastReport (event :: past) = event.output.report.or (lastReport past) := by
  unfold lastReport
  rw [List.findSome?_cons]
  cases event.output.report <;> rfl

/-- The host was told the flight state of the started controller and the health. -/
def HostKnows (past : List ModuleEvent) (module : ControllerModule) : Prop :=
  ∀ runtime, module.runtime = some runtime →
    lastReport past = some (runtime.runtime.flightState.name, module.outputFailed)

/-- A step whose batch is more than battery samples, or that is due anyway. -/
def StepContext.Updates (context : StepContext) : Prop :=
  ¬((collectInputs context.samples).all (·.port = .sensor .battery) && !context.updateDue) = true

namespace ControllerModule

variable (module : ControllerModule)

/-- The module remembers what it told the host, and told nothing that the host had been told. -/
structure Told (module : ControllerModule) (ended : ControllerModule × StepOutput) : Prop where
  remembered : ended.1.reported = ended.2.report.or module.reported
  news : ∀ report, ended.2.report = some report → module.reported ≠ some report

/-- The module has told its present flight state and health. -/
def Current (module : ControllerModule) : Prop :=
  ∀ runtime, module.runtime = some runtime →
    module.reported = some (runtime.runtime.flightState.name, module.outputFailed)

variable {module} in
omit [Libm] in
theorem Told.silent {ended : ControllerModule × StepOutput} (quiet : ended.2.report = none)
    (same : ended.1.reported = module.reported) : module.Told ended := by
  refine ⟨?_, ?_⟩
  · rw [quiet, same]
    rfl
  · intro report told
    cases quiet.symm.trans told

omit [Libm] in
theorem reportIfChanged_spec (runtime : ModuleRuntime)
    {output : StepOutput} (quiet : output.report = none) :
    module.Told (module.reportIfChanged runtime output) ∧
      (module.reportIfChanged runtime output).1 = { module with
        reported := some (runtime.runtime.flightState.name, module.outputFailed) } := by
  unfold reportIfChanged
  dsimp only
  split
  next known =>
    refine ⟨.silent quiet rfl, ?_⟩
    rw [← known]
  next changed =>
    refine ⟨⟨rfl, ?_⟩, rfl⟩
    rintro report ⟨⟩
    exact changed

section Turn

variable (runtime : ModuleRuntime) (context : StepContext) (count : Nat) (now : Time)

omit [Libm] in
theorem consumeDeadline_reported : (module.consumeDeadline context).reported = module.reported := by
  unfold consumeDeadline
  split <;> rfl

omit [Libm] in
theorem settle_reports (handled : ModuleRuntime × List Write) (continuation : Bool) :
    module.Told (module.settle handled continuation) ∧
      ((module.settle handled continuation).2.status ≠ .errInternal →
        (module.settle handled continuation).1.Current) := by
  unfold settle
  dsimp only
  split
  · exact ⟨.silent rfl rfl, fun completed => (completed rfl).elim⟩
  next deadline _ =>
    obtain ⟨told, ended⟩ := reportIfChanged_spec
      { module with
        runtime := some (handled.1.withDriver handled.1.toControllerDriver.resetNewFlags)
        outputFailed := module.healthAfter handled.2
        deadline }
      (handled.1.withDriver handled.1.toControllerDriver.resetNewFlags)
      (show ({ written := outputsOf handled.2, wake := continuation } : StepOutput).report = none
        from rfl)
    refine ⟨⟨told.remembered, told.news⟩, fun _ => ?_⟩
    rw [ended]
    rintro _ ⟨⟩
    rfl

/-- A turn that completes leaves nothing to tell. -/
theorem turn_reports :
    module.Told (module.turn runtime context count now) ∧
      ((module.turn runtime context count now).2.status ≠ .errInternal →
        (module.turn runtime context count now).1.Current) := by
  generalize ran : (runtime.work (context.background count)).toControllerDriver.update now =
    outcome
  obtain ⟨driver, outcome⟩ := outcome
  cases outcome with
  | error error =>
      rw [turn_error ran]
      exact ⟨.silent rfl rfl, fun completed => (completed rfl).elim⟩
  | ok continuation =>
      rw [turn_ok ran]
      exact module.settle_reports _ _

theorem stepAt_reports :
    module.Told (module.stepAt runtime context now) ∧
      ((module.stepAt runtime context now).2.status ≠ .errInternal →
        module.runtime = some runtime → module.Current ∨ context.Updates →
        (module.stepAt runtime context now).1.Current) := by
  unfold stepAt
  dsimp only
  split
  next skipped =>
    refine ⟨.silent rfl (module.consumeDeadline_reported context), fun _ started refreshed => ?_⟩
    have current := refreshed.resolve_right (fun updates => updates skipped)
    have failed : (module.consumeDeadline context).outputFailed = module.outputFailed := by
      unfold consumeDeadline
      split <;> rfl
    rintro _ ⟨⟩
    dsimp only
    rw [ModuleRuntime.applyAll_flightState, consumeDeadline_reported, failed]
    exact current runtime started
  next due =>
    obtain ⟨told, current⟩ := (module.consumeDeadline context).turn_reports
      (ModuleRuntime.applyAll context (collectInputs context.samples) 0 runtime) context
      (collectInputs context.samples).length now
    refine ⟨⟨?_, ?_⟩, fun completed _ _ => current completed⟩
    · rw [told.remembered, consumeDeadline_reported]
    · intro report reported
      rw [← module.consumeDeadline_reported context]
      exact told.news report reported

end Turn

theorem step_reports (context : StepContext) :
    module.Told (module.step context) ∧
      ((module.step context).2.status ≠ .errInternal → module.Current ∨ context.Updates →
        (module.step context).1.Current) := by
  rw [ControllerModule.step]
  cases started : module.runtime with
  | none =>
      refine ⟨.silent rfl rfl, fun _ _ runtime same => ?_⟩
      cases started.symm.trans same
  | some runtime =>
      generalize time context.nowNs = clock
      cases clock with
      | error error => exact ⟨.silent rfl rfl, fun completed => (completed rfl).elim⟩
      | ok now =>
          obtain ⟨told, current⟩ := module.stepAt_reports runtime context now
          exact ⟨told, fun completed refreshed => current completed started refreshed⟩

theorem configure_reports (readers : ConfigReaders) (json : JsonConfig) :
    module.Told (module.configure readers json) ∧
      (module.Current → (module.configure readers json).1.Current) := by
  unfold configure
  split
  · exact ⟨.silent rfl rfl, id⟩
  · split
    · exact ⟨.silent rfl rfl, id⟩
    · refine ⟨.silent rfl rfl, fun current after same => ?_⟩
      obtain ⟨runtime, started, rfl⟩ := Option.map_eq_some_iff.mp same
      exact current runtime started

/-- A start tells the state, whatever was told before. -/
theorem start_reports (nowNs : Int64) :
    (module.start nowNs).1.reported = (module.start nowNs).2.report.or module.reported ∧
      ((module.start nowNs).2.status ≠ .errInternal → module.Current →
        (module.start nowNs).1.Current) := by
  rw [ControllerModule.start]
  cases started : module.runtime with
  | some runtime => exact ⟨rfl, fun _ current => current⟩
  | none =>
      generalize time nowNs = clock
      cases clock with
      | error error => exact ⟨rfl, fun completed => (completed rfl).elim⟩
      | ok now =>
          let built : ModuleRuntime :=
            { runtime := FlightRuntime.initial.setConfig module.config.controller }
          change (module.launch built (built.toControllerDriver.start now)).1.reported =
              (module.launch built (built.toControllerDriver.start now)).2.report.or _ ∧
            ((module.launch built (built.toControllerDriver.start now)).2.status ≠ .errInternal →
              _ → (module.launch built (built.toControllerDriver.start now)).1.Current)
          generalize built.toControllerDriver.start now = outcome
          obtain ⟨driver, outcome⟩ := outcome
          cases outcome with
          | error error => exact ⟨rfl, fun completed => (completed rfl).elim⟩
          | ok _ =>
              refine ⟨rfl, fun _ _ => ?_⟩
              rintro _ ⟨⟩
              rfl

end ControllerModule

section Runs

variable {readers : ConfigReaders} {past : List ModuleEvent} {module : ControllerModule}

/-- The event told the host nothing that it had been told, unless it is a start. -/
def TellsNews (older : List ModuleEvent) (event : ModuleEvent) : Prop :=
  ∀ report, event.output.report = some report →
    (∃ nowNs, event.input = .start nowNs) ∨ lastReport older ≠ some report

/-- The event takes a turn if it can. -/
def Refreshes (event : ModuleEvent) : Prop :=
  ∃ context, event.input = .step context ∧ context.Updates

/-- The module remembers its last report, and what an event does to it. -/
theorem reports_event (readers : ConfigReaders) (input : ModuleInput)
    (remembered : module.reported = lastReport past) :
    let event := (controllerMachine readers).event module input
    event.after.reported = lastReport (event :: past) ∧ TellsNews past event ∧
      (event.output.status ≠ .errInternal → module.Current ∨ Refreshes event →
        event.after.Current) := by
  intro event
  have told (ended : module.Told ((controllerMachine readers).step module input)) :
      event.after.reported = lastReport (event :: past) ∧ TellsNews past event := by
    refine ⟨?_, fun report reported => .inr ?_⟩
    · rw [lastReport_cons, ← remembered]
      exact ended.remembered
    · rw [← remembered]
      exact ended.news report reported
  have kept {other : Prop} (elsewhere : ∀ context, input ≠ .step context)
      (refreshed : other ∨ Refreshes event) : other := by
    refine refreshed.resolve_right ?_
    rintro ⟨context, stepped, -⟩
    exact elsewhere context stepped
  cases input with
  | configure json =>
      obtain ⟨ended, current⟩ := module.configure_reports readers json
      obtain ⟨same, news⟩ := told ended
      exact ⟨same, news, fun _ refreshed => current (kept (by simp) refreshed)⟩
  | start nowNs =>
      obtain ⟨same, current⟩ := module.start_reports nowNs
      refine ⟨?_, fun _ _ => .inl ⟨nowNs, rfl⟩, fun completed refreshed =>
        current completed (kept (by simp) refreshed)⟩
      rw [lastReport_cons, ← remembered]
      exact same
  | step context =>
      obtain ⟨ended, current⟩ := module.step_reports context
      obtain ⟨same, news⟩ := told ended
      refine ⟨same, news, fun completed refreshed => current completed ?_⟩
      rcases refreshed with known | ⟨other, stepped, updates⟩
      · exact .inl known
      · cases stepped
        exact .inr updates
  | stop =>
      have ended : module.Told module.stop ∧ module.stop.1.Current ∨ module.stop.1 = module ∧
          module.Told module.stop := by
        unfold ControllerModule.stop
        split
        · refine .inl ⟨.silent rfl rfl, ?_⟩
          rintro _ ⟨⟩
        · exact .inr ⟨rfl, .silent rfl rfl⟩
      rcases ended with ⟨ended, current⟩ | ⟨stopped, ended⟩
      · obtain ⟨same, news⟩ := told ended
        exact ⟨same, news, fun _ _ => current⟩
      · obtain ⟨same, news⟩ := told ended
        refine ⟨same, news, fun _ refreshed => ?_⟩
        change module.stop.1.Current
        rw [stopped]
        exact kept (by simp) refreshed
  | background worker =>
      obtain ⟨same, news⟩ := told (.silent rfl rfl)
      refine ⟨same, news, fun _ refreshed after ended => ?_⟩
      obtain ⟨runtime, started, rfl⟩ := Option.map_eq_some_iff.mp ended
      have state := (runtime.undisturbed_work [worker]).flightState
      rw [state]
      exact kept (by simp) refreshed runtime started

/-- In every run of the module the host is told news only, a start apart. After an event without
an internal error it knows the flight state and the health, if it knew them before or the event
is a step that takes a turn. -/
theorem host_knows_state
    (run : (controllerMachine readers).Run ControllerModule.Constructed anyHost past module) :
    ∀ event older, event :: older <:+ past → TellsNews older event ∧
      (event.output.status ≠ .errInternal → HostKnows older event.before ∨ Refreshes event →
        HostKnows (event :: older) event.after) := by
  refine run.invariant_history (fun past module => module.reported = lastReport past) ?_ ?_
  · rintro _ ⟨config, rfl⟩
    rfl
  · intro past module input _ remembered _
    obtain ⟨same, news, current⟩ := reports_event readers input remembered
    refine ⟨same, news, fun completed refreshed runtime started => ?_⟩
    rw [← same]
    refine current completed (refreshed.imp_left fun known runtime started => ?_) runtime started
    rw [remembered]
    exact known runtime started

end Runs

end Reports

section Takeoff

open ExactMath

/-- The host knows that the controller asks for arming, and is not told again. -/
theorem host_knows_state_takeoff :
    armEvent.output.report = none ∧
      lastReport offboardConfirmed.1 = some ("TakeoffArmRequest", false) ∧
      TellsNews offboardConfirmed.1 armEvent ∧
      HostKnows (armEvent :: offboardConfirmed.1) armEvent.after := by
  obtain ⟨news, knows⟩ := host_knows_state run_armEvent armEvent _ List.suffix_rfl
  refine ⟨by decide +kernel, by decide +kernel, news, knows (by decide +kernel) (.inr ⟨_, rfl, ?_⟩)⟩
  unfold StepContext.Updates
  decide +kernel

end Takeoff

end Module

end MultirotorController
