import MultirotorController.Safety.ModuleSafety

/-!
# The configuration in force

A started controller works under the configuration that the module holds: a start
takes it over, a turn and the samples leave it alone, and a new one is handed to
the controller when the module takes it. The module takes one that reads, and
only while no started controller is off the ground; a refused one changes
nothing.
-/

namespace MultirotorController

namespace Module

section Configuration

variable [Libm] [Xgc2Math]

section Kept

variable {first second : ControllerDriver}

omit [Libm] in
theorem Undisturbed.config (undisturbed : Undisturbed first second) :
    second.runtime.controller.config = first.runtime.controller.config := by
  rw [undisturbed]
  rfl

theorem receive_config (driver : ControllerDriver) (input : Input) :
    (ModuleRuntime.receive driver input).runtime.controller.config =
      driver.runtime.controller.config := by
  rw [ModuleRuntime.receive_eq]
  exact driver.runtime.receiveAll_config fun _ present =>
    (external_of_handed driver.sensing input present).2

theorem update_config (driver : ControllerDriver) (now : Time) :
    (driver.update now).1.runtime.controller.config = driver.runtime.controller.config := by
  have updated := Tracks.updated driver now
  generalize driver.update now = outcome at updated
  cases updated with
  | inactive idle => rfl
  | thrown sensing error active advanced extended => rfl
  | turned sensing active advanced extended => exact (FlightRuntime.update_circumstances _ now).1

omit [Libm] in
theorem start_config (driver : ControllerDriver) (now : Time) :
    (driver.start now).1.runtime.controller.config = driver.runtime.controller.config := by
  have begun := Reaches.begun driver now
  generalize driver.start now = outcome at begun
  cases begun <;> rfl

theorem ModuleRuntime.applyAll_config (context : StepContext) (inputs : List Input) (count : Nat)
    (runtime : ModuleRuntime) :
    (ModuleRuntime.applyAll context inputs count runtime).runtime.controller.config =
      runtime.runtime.controller.config := by
  induction inputs generalizing runtime count with
  | nil => rfl
  | cons input rest ih =>
      have worked := (runtime.undisturbed_work (context.background count)).config
      have received := receive_config (runtime.work (context.background count)).toControllerDriver
        input
      exact ((ih (count + 1) _).trans received).trans worked

end Kept

namespace ControllerModule

variable {module : ControllerModule}

/-- The started controller works under the configuration of the module. -/
def InForce (module : ControllerModule) : Prop :=
  ∀ runtime, module.runtime = some runtime →
    runtime.runtime.controller.config = module.config.controller

omit [Libm] in
theorem InForce.intro {after : ControllerModule} {runtime : ModuleRuntime}
    (started : after.runtime = some runtime)
    (config : runtime.runtime.controller.config = after.config.controller) : InForce after := by
  intro other same
  cases started.symm.trans same
  exact config

omit [Libm] in
theorem reportIfChanged_kept (module : ControllerModule) (runtime : ModuleRuntime)
    (output : StepOutput) :
    (module.reportIfChanged runtime output).1.runtime = module.runtime ∧
      (module.reportIfChanged runtime output).1.config = module.config := by
  unfold reportIfChanged
  dsimp only
  split <;> exact ⟨rfl, rfl⟩

omit [Libm] in
theorem settle_config (handled : ModuleRuntime × List Write) (continuation : Bool) :
    (module.settle handled continuation).1.config = module.config := by
  unfold settle
  dsimp only
  split
  · rfl
  · exact (reportIfChanged_kept _ _ _).2

section Turn

variable (runtime : ModuleRuntime) (context : StepContext) (count : Nat) (now : Time)

/-- A turn leaves the configuration alone, in the module and in the controller. -/
theorem turn_config :
    (module.turn runtime context count now).1.config = module.config ∧
      ∀ after, (module.turn runtime context count now).1.runtime = some after →
        after.runtime.controller.config = runtime.runtime.controller.config := by
  have worked := (runtime.undisturbed_work (context.background count)).config
  have updated := update_config (runtime.work (context.background count)).toControllerDriver now
  generalize ran : (runtime.work (context.background count)).toControllerDriver.update now =
    outcome at updated
  obtain ⟨driver, outcome⟩ := outcome
  cases outcome with
  | error error =>
      rw [turn_error ran]
      refine ⟨rfl, ?_⟩
      rintro after ⟨⟩
      exact updated.trans worked
  | ok continuation =>
      rw [turn_ok ran]
      refine ⟨settle_config _ _, ?_⟩
      intro after same
      rw [(settle_kept _ _).1] at same
      cases same
      exact ((ModuleRuntime.undisturbed_handleAll _ _ _).config.trans updated).trans worked

theorem stepAt_config :
    (module.stepAt runtime context now).1.config = module.config ∧
      ∀ after, (module.stepAt runtime context now).1.runtime = some after →
        after.runtime.controller.config = runtime.runtime.controller.config := by
  have batch := ModuleRuntime.applyAll_config context (collectInputs context.samples) 0 runtime
  unfold stepAt
  dsimp only
  split
  · refine ⟨consumeDeadline_config, ?_⟩
    rintro after ⟨⟩
    exact batch
  · obtain ⟨same, kept⟩ := (module.consumeDeadline context).turn_config
      (ModuleRuntime.applyAll context (collectInputs context.samples) 0 runtime) context
      (collectInputs context.samples).length now
    exact ⟨same.trans consumeDeadline_config, fun after ended => (kept after ended).trans batch⟩

end Turn

theorem InForce.step (held : module.InForce) (context : StepContext) :
    (module.step context).1.config = module.config ∧ (module.step context).1.InForce := by
  rw [ControllerModule.step]
  cases started : module.runtime with
  | none =>
      refine ⟨rfl, ?_⟩
      intro runtime same
      cases started.symm.trans same
  | some runtime =>
      generalize time context.nowNs = clock
      cases clock with
      | error error => exact ⟨rfl, held⟩
      | ok now =>
          obtain ⟨same, kept⟩ := module.stepAt_config runtime context now
          refine ⟨same, fun after ended => ?_⟩
          exact ((kept after ended).trans (held runtime started)).trans
            (congrArg (·.controller) same).symm

theorem InForce.start (held : module.InForce) (nowNs : Int64) :
    (module.start nowNs).1.config = module.config ∧ (module.start nowNs).1.InForce := by
  rw [ControllerModule.start]
  cases module.runtime with
  | some runtime => exact ⟨rfl, held⟩
  | none =>
      generalize time nowNs = clock
      cases clock with
      | error error => exact ⟨rfl, .intro rfl rfl⟩
      | ok now =>
          let built : ModuleRuntime :=
            { runtime := FlightRuntime.initial.setConfig module.config.controller }
          have begun := start_config built.toControllerDriver now
          change (module.launch built (built.toControllerDriver.start now)).1.config = _ ∧
            (module.launch built (built.toControllerDriver.start now)).1.InForce
          generalize built.toControllerDriver.start now = outcome at begun
          obtain ⟨driver, outcome⟩ := outcome
          cases outcome with
          | error error => exact ⟨rfl, .intro rfl begun⟩
          | ok _ =>
              obtain ⟨running, same⟩ := reportIfChanged_kept
                { module with runtime := some (built.withDriver driver), reported := none }
                (built.withDriver driver) { wake := true }
              exact ⟨same, .intro running (begun.trans (congrArg (·.controller) same).symm)⟩

end ControllerModule

/-- The host put another configuration in force: one that reads, while no started controller was
off the ground. -/
def Reconfigures (readers : ConfigReaders) (event : ModuleEvent) : Prop :=
  ∃ json next, event.input = .configure json ∧ event.output.status = .ok ∧
    JsonConfig.readConfig readers.controller json = .ok next ∧
    event.after.config = ⟨next, readers.reference json⟩ ∧
    ∀ runtime, event.before.runtime = some runtime → runtime.runtime.onTheGround = true

/-- The configuration stayed, and a host that wanted another was told and changed nothing. -/
def KeepsConfig (event : ModuleEvent) : Prop :=
  event.after.config = event.before.config ∧
    ∀ json, event.input = .configure json →
      event.output.status ≠ .ok ∧ event.after = event.before

section Runs

variable {readers : ConfigReaders} {past : List ModuleEvent} {module : ControllerModule}

theorem ControllerModule.InForce.configure (held : module.InForce) (json : JsonConfig) :
    (module.configure readers json).1.InForce ∧
      (KeepsConfig ((controllerMachine readers).event module (.configure json)) ∨
        Reconfigures readers ((controllerMachine readers).event module (.configure json))) := by
  generalize outcome : module.configure readers json = configured
  have same : (controllerMachine readers).step module (.configure json) = configured := outcome
  have after : ((controllerMachine readers).event module (.configure json)).after =
      configured.1 := congrArg Prod.fst same
  have output : ((controllerMachine readers).event module (.configure json)).output =
      configured.2 := congrArg Prod.snd same
  unfold KeepsConfig Reconfigures
  rw [after, output]
  unfold ControllerModule.configure at outcome
  split at outcome
  · cases outcome
    exact ⟨held, .inl ⟨rfl, fun _ _ => ⟨by simp, rfl⟩⟩⟩
  next next read =>
    split at outcome
    · cases outcome
      exact ⟨held, .inl ⟨rfl, fun _ _ => ⟨by simp, rfl⟩⟩⟩
    next allowed =>
      cases outcome
      refine ⟨?_, .inr ⟨json, next, rfl, rfl, read, rfl, ?_⟩⟩
      · intro runtime same
        obtain ⟨before, -, rfl⟩ := Option.map_eq_some_iff.mp same
        rfl
      · intro runtime started
        change module.runtime = some runtime at started
        rw [started] at allowed
        simpa using allowed

/-- What every event does to the configuration. -/
theorem ControllerModule.InForce.event (held : module.InForce) (input : ModuleInput) :
    ((controllerMachine readers).step module input).1.InForce ∧
      (KeepsConfig ((controllerMachine readers).event module input) ∨
        Reconfigures readers ((controllerMachine readers).event module input)) := by
  have quiet (same : ((controllerMachine readers).step module input).1.config = module.config)
      (other : ∀ json, input ≠ .configure json) :
      KeepsConfig ((controllerMachine readers).event module input) :=
    ⟨same, fun json asked => (other json asked).elim⟩
  cases input with
  | configure json => exact held.configure json
  | start nowNs =>
      obtain ⟨same, inForce⟩ := held.start nowNs
      exact ⟨inForce, .inl (quiet same (by simp))⟩
  | step context =>
      obtain ⟨same, inForce⟩ := held.step context
      exact ⟨inForce, .inl (quiet same (by simp))⟩
  | stop =>
      have stopped : module.stop.1.runtime = none ∧ module.stop.1.config = module.config := by
        unfold ControllerModule.stop
        split
        · exact ⟨rfl, rfl⟩
        next running => exact ⟨running, rfl⟩
      refine ⟨?_, .inl (quiet stopped.2 (by simp))⟩
      intro runtime running
      cases stopped.1.symm.trans running
  | background event =>
      refine ⟨?_, .inl (quiet rfl (by simp))⟩
      intro runtime running
      obtain ⟨before, started, rfl⟩ := Option.map_eq_some_iff.mp running
      exact (before.undisturbed_work [event]).config.trans (held before started)

omit [Libm] in
theorem inForce_constructed (constructed : module.Constructed) : module.InForce := by
  obtain ⟨config, rfl⟩ := constructed
  intro runtime started
  cases started

/-- In every run of the module a started controller works under the configuration that the
module holds. It is another one than before only after the host handed over one that reads,
without a started controller off the ground; a configuration that is refused changes nothing. -/
theorem configuration_in_force
    (run : (controllerMachine readers).Run ControllerModule.Constructed anyHost past module) :
    module.InForce ∧ ∀ event ∈ past, KeepsConfig event ∨ Reconfigures readers event :=
  run.invariant_events ControllerModule.InForce (fun _ => inForce_constructed)
    fun _ _ input held _ => held.event input

end Runs

end Configuration

section Refused

open ExactMath

/-- A document without a key. -/
def emptyDocument : JsonConfig :=
  { root := .object [], object := rfl, unique := ⟨List.nodup_nil, trivial⟩ }

def refusedEvent : ModuleEvent :=
  (controllerMachine defaultReaders).event armEvent.after (.configure emptyDocument)

/-- A vehicle that is taking off keeps its configuration, and the host is told. -/
theorem configuration_in_force_takeoff :
    refusedEvent.after.InForce ∧
      (KeepsConfig refusedEvent ∨ Reconfigures defaultReaders refusedEvent) ∧
      refusedEvent.output.status = .errState := by
  have run := run_armEvent.step (.configure emptyDocument) trivial
  obtain ⟨inForce, events⟩ := configuration_in_force run
  exact ⟨inForce, events _ List.mem_cons_self, by decide +kernel⟩

end Refused

end Module

end MultirotorController
