import MultirotorController.Module.ReceivedSamples

/-!
# What the module writes

A step writes the effects of its update one after another, while the solver's thread
goes on. Neither that thread nor the handling of a request touches what a payload is
made of, so every message carries what the controller decided in that update.
-/

namespace MultirotorController

namespace FlightEffect

/-- A mode is one of the two that the takeoff asks for. -/
def ModeKnown : FlightEffect → Prop
  | modeRequest _ mode => mode = "ALTCTL" ∨ mode = "OFFBOARD"
  | _ => True

theorem modeKnown_of_not_request {effect : FlightEffect} (other : effect.isModeRequest = false) :
    effect.ModeKnown := by
  cases effect with
  | modeRequest timestamp mode => cases other
  | _ => trivial

theorem modeKnown_of_setpoint (effect : FlightEffect) (published : effect.isSetpoint = true) :
    effect.ModeKnown := by
  cases effect with
  | modeRequest timestamp mode => cases published
  | _ => trivial

end FlightEffect

section Modes

open DroneController

variable [Xgc2Math]

omit [Xgc2Math] in
theorem TakeoffInitState.onTick_modes (scope : Scope TakeoffInitState) :
    PlainStep FlightEffect.ModeKnown (fun _ => True) scope.controller
      (onTick scope).controller := by
  dsimp only [onTick]
  refine .via (publishSetpointIfDue scope).controller 
    (.publishSetpointIfDue _ _ FlightEffect.modeKnown_of_setpoint) ?_
  refine .trans ?_ ((postAltctlReadyOnce_plain _).mono (fun _ none => none.elim) fun _ _ => trivial)
  split
  · exact .refl _
  · rw [updateAltctlConfirmation_controller]
    exact .requestIfDue _ _ _ (.inl rfl)

omit [Xgc2Math] in
theorem TakeoffOffboardRequestState.onTick_modes (scope : Scope TakeoffOffboardRequestState) :
    PlainStep FlightEffect.ModeKnown (fun _ => True) scope.controller
      (onTick scope).controller := by
  dsimp only [onTick]
  refine .via (publishSetpointIfDue scope).controller 
    (.publishSetpointIfDue _ _ FlightEffect.modeKnown_of_setpoint) ?_
  refine .trans ?_ ((postOffboardReadyOnce_plain _).mono (fun _ none => none.elim)
    fun _ _ => trivial)
  rw [updateOffboardConfirmation_controller]
  exact .requestIfDue _ _ _ (.inr rfl)

/-- An update requests no other mode. -/
theorem FlightRuntime.update_modeKnown [Libm] (runtime : FlightRuntime) (now : Time) :
    ∀ effect ∈ (runtime.update now).1.controller.flightEffects, effect.ModeKnown := by
  intro effect emitted
  rcases runtime.effect_of_mem_update now emitted with ticked | telemetry | ⟨choice, -, entered⟩
  · have allowed := runtime.tickEffects_of_mem_ticked now ticked
    have begun : (runtime.afterHealth now).leaf = runtime.leaf := rfl
    have silent := (runtime.afterHealth_step now).toEmits
    have fresh {after : DroneController}
        (step : Emits FlightEffect.ModeKnown (fun _ => True)
          (runtime.afterHealth now).controller after)
        (same : (runtime.ticked now).controller = after) : effect.ModeKnown := by
      rw [same] at ticked
      rcases step.effect_of_mem ticked with old | new
      · exact ((silent.effect_of_mem old).elim List.not_mem_nil id).elim
      · exact new
    cases leaf : runtime.leaf with
    | takeoffInit state =>
        refine fresh (TakeoffInitState.onTick_modes
          ⟨(runtime.afterHealth now).controller, state⟩).toEmits ?_
        rw [FlightRuntime.ticked, controlTick, begun, leaf]
        rfl
    | takeoffOffboardRequest state =>
        refine fresh (TakeoffOffboardRequestState.onTick_modes
          ⟨(runtime.afterHealth now).controller, state⟩).toEmits ?_
        rw [FlightRuntime.ticked, controlTick, begun, leaf]
        rfl
    | _ =>
        rw [flightState, leaf] at allowed
        apply FlightEffect.modeKnown_of_not_request
        cases effect <;> simp_all [FlightLeaf.flightState, FlightState.tickEffects,
          Custom1State.trackingEffect, FlightEffect.isSetpoint, FlightEffect.isAttitude,
          FlightEffect.isNmpcRequest, FlightEffect.isModeRequest, FlightEffect.isArm,
          FlightEffect.isDisarm]
  · apply FlightEffect.modeKnown_of_not_request
    cases effect <;> first | rfl | cases telemetry
  · apply FlightEffect.modeKnown_of_not_request
    cases target : choice.target <;> rw [target] at entered <;> cases effect <;>
      simp_all [FlightState.enterEffects, FlightEffect.isSetpoint, FlightEffect.isDisarm,
        FlightEffect.isReferenceActivation, FlightEffect.isModeRequest]

end Modes

/-- The runtime with another result buffer. -/
def FlightRuntime.withResults [Xgc2Math] (runtime : FlightRuntime)
    (nmpcResultBuffer : NmpcResultBuffer) : FlightRuntime :=
  { runtime with controller := { runtime.controller with nmpcResultBuffer } }

namespace Module

section Messages

/-- The host has every slot and takes every message. -/
def StepContext.Willing (context : StepContext) : Prop :=
  (∀ count, context.slot count = true) ∧ ∀ count, context.commits count = true

/-- A message that fits is written, unless the host refuses it. -/
theorem write_some (context : StepContext) (count : Nat) (output : ModuleOutput) :
    write (context.slot count) (context.commits count) (some output) = .done output ∨
      write (context.slot count) (context.commits count) (some output) = .failed ∧
        ¬context.Willing := by
  unfold write
  cases slot : context.slot count with
  | false => exact .inr ⟨rfl, fun willing => Bool.false_ne_true (slot.symm.trans (willing.1 count))⟩
  | true =>
      cases commits : context.commits count with
      | false =>
          exact .inr ⟨rfl, fun willing => Bool.false_ne_true (commits.symm.trans (willing.2 count))⟩
      | true => exact .inl rfl

theorem copyText_of_modeKnown {timestamp : Double} {mode : String}
    (known : (FlightEffect.modeRequest timestamp mode).ModeKnown) :
    copyText mode modeCapacity = some mode := by
  rcases known with rfl | rfl <;> decide +kernel

theorem copyText_name (state : FlightState) :
    copyText state.name stateCapacity = some state.name := by
  cases state <;> decide +kernel

end Messages

section Undisturbed

variable [Xgc2Math]

/-- Only the worker and the result buffer changed. -/
def Undisturbed (before after : ControllerDriver) : Prop :=
  after = { before with
    worker := after.worker
    runtime := before.runtime.withResults after.runtime.controller.nmpcResultBuffer }

namespace Undisturbed

variable {first second third : ControllerDriver}

theorem refl (driver : ControllerDriver) : Undisturbed driver driver := rfl

theorem trans (earlier : Undisturbed first second) (later : Undisturbed second third) :
    Undisturbed first third := by
  unfold Undisturbed at earlier later ⊢
  rw [later, earlier]
  rfl

theorem work (driver : ControllerDriver) (event : WorkerEvent) :
    Undisturbed driver (driver.work event) := by
  cases event <;> unfold ControllerDriver.work <;> dsimp only <;> split <;> rfl

theorem works (driver : ControllerDriver) (events : List WorkerEvent) :
    Undisturbed driver (events.foldl ControllerDriver.work driver) := by
  induction events generalizing driver with
  | nil => exact .refl driver
  | cons event rest ih => exact (work driver event).trans (ih _)

theorem handled {driver : ControllerDriver} {clock : Time} {accepts : Bool}
    {effect : FlightNmpcRequest} {controller : DroneController} {worker : NmpcWorker}
    (ran : NmpcExecution.handle driver.runtime.controller driver.worker clock accepts effect =
      .ok (controller, worker)) :
    Undisturbed driver { driver with runtime := { driver.runtime with controller }, worker } := by
  rcases NmpcExecution.handle_cases ran with ⟨-, rfl | ⟨result, -, rfl⟩⟩ | ⟨rfl, -⟩ <;> rfl

theorem active (undisturbed : Undisturbed first second) : second.active = first.active := by
  rw [undisturbed]

theorem sensing (undisturbed : Undisturbed first second) : second.sensing = first.sensing := by
  rw [undisturbed]

theorem sensorData (undisturbed : Undisturbed first second) :
    second.runtime.controller.sensorData = first.runtime.controller.sensorData := by
  rw [undisturbed]
  rfl

theorem flightState (undisturbed : Undisturbed first second) :
    second.runtime.flightState = first.runtime.flightState := by
  rw [undisturbed]
  rfl

end Undisturbed

end Undisturbed

section Publish

variable [Libm] [Xgc2Math]

/-- What may come of an effect of an update that ended with this runtime. A willing host gets
every message, but a request to the solver or to the generator may throw. -/
inductive Publishes (params : ReferenceParams) (now : Time) (context : StepContext)
    (flight : FlightRuntime) : FlightEffect → Write → Prop
  | failed {effect : FlightEffect} :
      (context.Willing → effect.isNmpcRequest ∨ effect.isReferenceActivation) →
      Publishes params now context flight effect .failed
  | setpoint (timestamp : Double) : Publishes params now context flight (.setpoint timestamp)
      (.done (.setpoint (ModuleRuntime.setpointPayload now flight.controller)))
  | attitude (timestamp : Double) : Publishes params now context flight (.attitude timestamp)
      (.done (.attitudeRate (ModuleRuntime.attitudePayload now flight.controller)))
  | armRequest (timestamp : Double) (arm : Bool) :
      Publishes params now context flight (.armRequest timestamp arm)
        (.done (.fcuRequest ⟨now.sec, now.nsec, .arm arm⟩))
  | modeRequest (timestamp : Double) (mode : String) :
      Publishes params now context flight (.modeRequest timestamp mode)
        (.done (.fcuRequest ⟨now.sec, now.nsec, .mode mode⟩))
  | referenceActivation (timestamp : Double) {before after : ReferenceActivation}
      {request : Reference.AnalyticReference} {payload : Generator.AnalyticPayload} :
      (ReferenceActivation.make (if 0 < timestamp then timestamp else now.toSec)
        flight.controller.sensorData params).run before = .ok request after →
      analyticToPayload request "map" = some payload →
      Publishes params now context flight (.referenceActivation timestamp)
        (.done (.refRequest payload))
  | nmpcRequest (timestamp : Double) (sequence generation : Nat) :
      Publishes params now context flight (.nmpcRequest timestamp sequence generation) .nothing
  | status (timestamp : Double) : Publishes params now context flight (.status timestamp)
      (.done (.status ⟨now.sec, now.nsec, flight.flightState.name⟩))
  | telemetry {effect : FlightEffect} : effect.isTelemetry →
      (∀ timestamp, effect ≠ .status timestamp) →
      Publishes params now context flight effect .nothing

namespace ModuleRuntime

section Handle

variable {runtime : ModuleRuntime} {params : ReferenceParams} {now : Time}
variable {context : StepContext} {effect : FlightEffect}

omit [Libm] in
theorem undisturbed_work (runtime : ModuleRuntime) (events : List WorkerEvent) :
    Undisturbed runtime.toControllerDriver (runtime.work events).toControllerDriver :=
  .works _ events

theorem undisturbed_handle (slot commits accepts : Bool) :
    Undisturbed runtime.toControllerDriver
      (runtime.handle params now slot commits accepts effect).1.toControllerDriver := by
  unfold handle
  split
  case h_5 => dsimp only; split <;> exact .refl _
  case h_6 =>
    split
    · exact .refl _
    next controller worker ran => exact .handled ran
  all_goals exact .refl _

/-- What comes of an effect is read off the update, whatever was done since. -/
theorem publishes_handle {updated : ControllerDriver}
    (since : Undisturbed updated runtime.toControllerDriver) (known : effect.ModeKnown)
    (count : Nat) :
    Publishes params now context updated.runtime effect
      (runtime.handle params now (context.slot count) (context.commits count)
        (context.accepts count) effect).2 := by
  have written {effect : FlightEffect} {output : ModuleOutput}
      (done : Publishes params now context updated.runtime effect (.done output)) :
      Publishes params now context updated.runtime effect
        (write (context.slot count) (context.commits count) (some output)) := by
    rcases write_some context count output with same | ⟨refused, unwilling⟩
    · rw [same]
      exact done
    · rw [refused]
      exact .failed fun willing => (unwilling willing).elim
  cases effect with
  | setpoint timestamp =>
      apply written
      rw [since]
      exact .setpoint timestamp
  | attitude timestamp =>
      apply written
      rw [since]
      exact .attitude timestamp
  | armRequest timestamp arm => exact written (.armRequest timestamp arm)
  | modeRequest timestamp mode =>
      unfold handle
      dsimp only
      rw [copyText_of_modeKnown known]
      exact written (.modeRequest timestamp mode)
  | referenceActivation timestamp =>
      unfold handle
      dsimp only
      split
      · exact .failed fun _ => .inr rfl
      next request activation made =>
        dsimp only
        cases fits : analyticToPayload request "map" with
        | none =>
            change Publishes _ _ _ _ _ (write _ _ none)
            unfold write
            split <;> exact .failed fun _ => .inr rfl
        | some payload =>
            rw [since.sensorData] at made
            exact written (.referenceActivation timestamp made fits)
  | nmpcRequest timestamp sequence generation =>
      unfold handle
      dsimp only
      split
      · exact .failed fun _ => .inl rfl
      · exact .nmpcRequest timestamp sequence generation
  | status timestamp =>
      unfold handle
      dsimp only
      rw [since.flightState, copyText_name]
      exact written (.status timestamp)
  | _ => exact .telemetry rfl (by simp)

variable {config : ControllerConfig} {given : NmpcSolveResult → Prop} {turns : List NmpcEvent}

/-- A request to the solver is the oldest one on its way; nothing else is handled by the
dispatcher. -/
theorem reaches_handle {rest : List FlightEffect} (slot commits accepts : Bool)
    (reaches : Reaches config given turns (nmpcRequests (effect :: rest)) []
      runtime.toControllerDriver) :
    Reaches config given turns (nmpcRequests rest) []
      (runtime.handle params now slot commits accepts effect).1.toControllerDriver := by
  cases effect with
  | nmpcRequest timestamp sequence generation =>
      obtain ⟨past, system, tracks, same, oldest⟩ := reaches
      have oldest :
          system.waiting = ⟨timestamp, sequence, generation⟩ :: nmpcRequests rest := oldest
      unfold handle
      dsimp only
      split
      next error ran =>
        obtain ⟨event, system', tracks', quiet, kept⟩ := tracks.dropped oldest ran
        exact ⟨_, system', tracks', (List.filter_cons_of_neg (by simp [quiet])).trans same, kept⟩
      next controller worker ran =>
        obtain ⟨event, system', tracks', quiet, kept⟩ := tracks.handled oldest ran
        exact ⟨_, system', tracks', (List.filter_cons_of_neg (by simp [quiet])).trans same, kept⟩
  | referenceActivation timestamp =>
      unfold handle
      dsimp only
      split <;> exact reaches
  | _ => exact reaches

theorem undisturbed_handleAll (effects : List FlightEffect) (count : Nat)
    (runtime : ModuleRuntime) :
    Undisturbed runtime.toControllerDriver
      (handleAll params now context effects count runtime).1.toControllerDriver := by
  induction effects generalizing runtime count with
  | nil => exact .refl _
  | cons effect rest ih =>
      have worked := runtime.undisturbed_work (context.background count)
      exact (worked.trans (undisturbed_handle _ _ _)).trans (ih (count + 1) _)

/-- Handling the effects of an update: every effect comes to something, in order, and every
request has been handled at the end. -/
theorem handleAll_spec {updated : ControllerDriver} {effects : List FlightEffect} (count : Nat)
    (granted : ∀ count outcome, .solve outcome ∈ context.background count → given outcome)
    (since : Undisturbed updated runtime.toControllerDriver)
    (known : ∀ effect ∈ effects, effect.ModeKnown)
    (reaches : Reaches config given turns (nmpcRequests effects) [] runtime.toControllerDriver) :
    List.Forall₂ (Publishes params now context updated.runtime) effects
        (handleAll params now context effects count runtime).2 ∧
      Reaches config given turns [] []
        (handleAll params now context effects count runtime).1.toControllerDriver := by
  induction effects generalizing runtime count with
  | nil => exact ⟨.nil, reaches⟩
  | cons effect rest ih =>
      obtain ⟨first, others⟩ := List.forall_mem_cons.mp known
      have worked := since.trans (runtime.undisturbed_work (context.background count))
      have reached : Reaches config given turns (nmpcRequests rest) []
          ((runtime.work (context.background count)).handle params now (context.slot count)
            (context.commits count) (context.accepts count) effect).1.toControllerDriver :=
        reaches_handle _ _ _ (reaches.works (granted count))
      obtain ⟨results, ended⟩ :=
        ih (count + 1) (worked.trans (undisturbed_handle _ _ _)) others reached
      exact ⟨.cons (publishes_handle worked first count) results, ended⟩

end Handle

end ModuleRuntime

end Publish

end Module

end MultirotorController
