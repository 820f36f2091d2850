import MultirotorController.Driver.DriverRuns
import MultirotorController.Module.ControllerModule

/-!
# What the module hands to the controller

An input extends the snapshot, and hands the controller at most one input of its
own: the command that a text spells, a setpoint, a reference, or the news of an
IMU sample that was recorded. Whatever throws half way has done no more than that.
What a batch leaves in the snapshot and what it hands over, in its order, is what
the driver makes of it.
-/

namespace MultirotorController

namespace Module

open Procedure

section Taken

variable (sensing : Sensing) (input : Input)

/-- What an input leaves in the snapshot and its statistics. -/
def sensed : Sensing :=
  match input.sample, time input.stampNs with
  | .payload (.sensor payload), _ => receiveSensor sensing ⟨input.stampNs, payload⟩
  | .payload (.hoverThrust payload), .ok receipt =>
      match Time.ofFields payload.stampSec payload.stampNsec with
      | .ok stamp => { sensing with
          sensor := (ingestHoverThrust sensing.sensor payload.hoverThrust payload.flags stamp.toSec
            receipt.toSec).1 }
      | .error _ => sensing
  | .payload (.localPv payload), .ok _ => { sensing with
      sensor := { sensing.sensor with pairedLocalPv := some ⟨payload.position, payload.velocity⟩ } }
  | _, _ => sensing

/-- What an input hands to the controller; an IMU sample only tells that there was one. -/
def handed : List FlightInput :=
  match input.sample, time input.stampNs with
  | .payload (.sensor .imu), _ =>
      if (recorded sensing.statistics ⟨input.stampNs, .imu⟩).toOption.isSome then [.freshImu]
      else []
  | .payload (.command payload), .ok _ =>
      (parseFlightCommand (boundedString payload.text commandCapacity)).toList.map .command
  | .payload (.algSetpoint payload), .ok receipt =>
      (payload.ingress receipt).toOption.toList.map .plannerSetpoint
  | .payload (.refActiveAnalytic payload), .ok receipt =>
      (analyticToCore payload).toOption.join.toList.map (.activeAnalytic · receipt)
  | .payload (.refActiveSampled payload), .ok receipt =>
      (sampledToCore payload).toOption.join.toList.map (.activeSampled · receipt)
  | _, _ => []

/-- What a batch hands over: each input by the statistics that those before it left. -/
def handedAll : Sensing → List Input → List FlightInput
  | _, [] => []
  | sensing, input :: rest => handed sensing input ++ handedAll (sensed sensing input) rest

/-- No producer hands over a result or a configuration. -/
theorem external_of_handed {received : FlightInput} (present : received ∈ handed sensing input) :
    received.isNmpcResult = false ∧ ∀ config, received ≠ .configure config := by
  unfold handed at present
  split at present
  · split at present
    · cases List.mem_singleton.mp present
      exact ⟨rfl, by simp⟩
    · cases present
  all_goals first
    | (obtain ⟨_, -, rfl⟩ := List.mem_map.mp present
       exact ⟨rfl, by simp⟩)
    | cases present

/-- The snapshot is extended. -/
theorem extends_sensed : sensing.sensor.Extends (sensed sensing input).sensor := by
  unfold sensed
  split
  · exact extends_receiveSensor sensing _
  · split
    · exact .ingestHoverThrust _ _ _ _ _
    · exact .refl _
  · exact ⟨.inr ⟨rfl, rfl⟩, .inr ⟨rfl, rfl⟩, rfl⟩
  · exact .refl _

end Taken

variable [Libm] [Xgc2Math]

/-- What an input does to the driver. -/
def taken (driver : ControllerDriver) (input : Input) : ControllerDriver :=
  { driver with
    sensing := sensed driver.sensing input
    runtime := driver.runtime.receiveAll (handed driver.sensing input) }

namespace ModuleRuntime

section Sensors

variable {driver : ControllerDriver}

omit [Libm] in
theorem wp_onSensing {operation : EStateM RuntimeError Sensing Unit}
    {returns : Unit → ControllerDriver → Prop} {throws : RuntimeError → ControllerDriver → Prop}
    (specified : wp operation (fun value sensing => returns value { driver with sensing })
      (fun error sensing => throws error { driver with sensing }) driver.sensing) :
    wp (onSensing operation) returns throws driver := by
  unfold wp at specified ⊢
  cases ran : operation.run driver.sensing with
  | ok value sensing =>
      have returned : (onSensing operation).run driver = .ok value { driver with sensing } := by
        change onSensing operation driver = _
        rw [onSensing, ran]
      rw [ran] at specified
      rw [returned]
      exact specified
  | error error sensing =>
      have thrown : (onSensing operation).run driver = .error error { driver with sensing } := by
        change onSensing operation driver = _
        rw [onSensing, ran]
      rw [ran] at specified
      rw [thrown]
      exact specified

omit [Libm] [Xgc2Math] in
/-- A sensor sample leaves what its reception leaves, also when its payload throws. The payload
of an IMU sample never does. -/
theorem wp_applySensor (sensing : Sensing) (sample : SensorSample) :
    wp (applySensor sample)
      (fun _ after => after = receiveSensor sensing sample ∧
        (recorded sensing.statistics sample).toOption.isSome = true)
      (fun _ after => after = receiveSensor sensing sample ∧ (sample.payload = .imu →
        (recorded sensing.statistics sample).toOption.isSome = false)) sensing := by
  have run := applySensor_run sensing sample
  unfold wp receiveSensor
  rw [run]
  cases recorded sensing.statistics sample with
  | error error => exact ⟨rfl, fun _ => rfl⟩
  | ok entry =>
      obtain ⟨receipt, dt⟩ := entry
      dsimp only
      obtain ⟨stampNs, payload⟩ := sample
      cases wrote : (writePayload payload).run (record sensing ⟨stampNs, payload⟩ receipt dt) with
      | ok _ after => exact ⟨rfl, rfl⟩
      | error error after =>
          refine ⟨rfl, ?_⟩
          rintro rfl
          cases wrote

end Sensors

section Apply

variable (driver : ControllerDriver)

section Sensor

variable (stampNs : Int64) (payload : SensorPayload)

/-- The driver with what a sensor sample leaves. -/
def sensedSample : ControllerDriver :=
  { driver with sensing := receiveSensor driver.sensing ⟨stampNs, payload⟩ }

/-- Only an IMU sample that is recorded hands something over. -/
theorem taken_silent (silent : payload = .imu →
    (recorded driver.sensing.statistics ⟨stampNs, payload⟩).toOption.isSome = false) :
    taken driver ⟨stampNs, .payload (.sensor payload)⟩ = sensedSample driver stampNs payload := by
  cases payload with
  | imu =>
      unfold taken handed
      dsimp only
      rw [silent rfl]
      rfl
  | _ => rfl

theorem taken_fresh
    (fresh : (recorded driver.sensing.statistics ⟨stampNs, .imu⟩).toOption.isSome = true) :
    taken driver ⟨stampNs, .payload (.sensor .imu)⟩ =
      (sensedSample driver stampNs .imu).deliver .freshImu := by
  unfold taken handed
  dsimp only
  rw [fresh]
  rfl

/-- A sensor sample is recorded before its payload is written, and the news of it is the last. -/
theorem wp_apply_sensor :
    wp (apply ⟨stampNs, .payload (.sensor payload)⟩)
      (fun _ after => after = taken driver ⟨stampNs, .payload (.sensor payload)⟩)
      (fun _ after => after = taken driver ⟨stampNs, .payload (.sensor payload)⟩) driver := by
  have specified := wp_applySensor driver.sensing ⟨stampNs, payload⟩
  unfold applySensor at specified
  unfold apply
  dsimp only at specified ⊢
  generalize time stampNs = clock at specified
  cases clock with
  | error error =>
      obtain ⟨same, silent⟩ := specified
      rw [taken_silent driver stampNs payload silent, sensedSample, ← same]
      rfl
  | ok receipt =>
      change wp (Sensing.observe payload.stream receipt >>= fun _ => writePayload payload)
        _ _ _ at specified
      rw [wp_bind] at specified
      change wp (onSensing (Sensing.observe payload.stream receipt) >>= _) _ _ _
      rw [wp_bind]
      have refused : ∀ final, final = receiveSensor driver.sensing ⟨stampNs, payload⟩ ∧
          (payload = .imu →
            (recorded driver.sensing.statistics ⟨stampNs, payload⟩).toOption.isSome = false) →
          ({ driver with sensing := final } : ControllerDriver) =
            taken driver ⟨stampNs, .payload (.sensor payload)⟩ := by
        rintro _ ⟨rfl, silent⟩
        exact (taken_silent driver stampNs payload silent).symm
      apply wp_onSensing
      refine wp_mono specified ?_ fun _ => refused
      intro _ observed specified
      rw [wp_bind]
      apply wp_onSensing
      refine wp_mono specified ?_ fun _ => refused
      rintro _ _ ⟨rfl, fresh⟩
      apply wp_ite_of
      · rintro rfl
        exact (taken_fresh driver stampNs fresh).symm
      · intro other
        exact (taken_silent driver stampNs payload fun imu => (other imu).elim).symm

end Sensor

/-- Whether or not an input throws, the driver is what it makes of it. -/
theorem wp_apply (input : Input) :
    wp (apply input) (fun _ after => after = taken driver input)
      (fun _ after => after = taken driver input) driver := by
  obtain ⟨stampNs, sample⟩ := input
  cases sample with
  | wrongSize port => rfl
  | payload payload =>
  cases payload
  case sensor payload => exact wp_apply_sensor driver stampNs payload
  all_goals
    unfold taken handed sensed apply
    dsimp only
    generalize time stampNs = clock
    cases clock with
    | error error => rfl
    | ok receipt => ?_
  case command.ok payload =>
    dsimp only
    cases parseFlightCommand (boundedString payload.text commandCapacity) <;> rfl
  case algSetpoint.ok payload =>
    change wp (rethrow (payload.ingress receipt) >>= _) _ _ _
    dsimp only
    cases payload.ingress receipt <;> rfl
  case hoverThrust.ok payload =>
    change wp (rethrow (Time.ofFields payload.stampSec payload.stampNsec) >>= _) _ _ _
    dsimp only
    cases Time.ofFields payload.stampSec payload.stampNsec <;> rfl
  case refActiveAnalytic.ok payload =>
    change wp (rethrow (analyticToCore payload) >>= _) _ _ _
    dsimp only
    cases analyticToCore payload with
    | error error => rfl
    | ok message => cases message <;> rfl
  case refActiveSampled.ok payload =>
    change wp (rethrow (sampledToCore payload) >>= _) _ _ _
    dsimp only
    cases sampledToCore payload with
    | error error => rfl
    | ok message => cases message <;> rfl
  case localPv.ok payload => rfl

theorem receive_eq (input : Input) : receive driver input = taken driver input := by
  have specified := wp_apply driver input
  unfold wp at specified
  unfold receive
  cases ran : (apply input).run driver with
  | ok _ after =>
      rw [ran] at specified
      exact specified
  | error _ after =>
      rw [ran] at specified
      exact specified

theorem receive_sensing (input : Input) :
    (receive driver input).sensing = sensed driver.sensing input := by
  rw [receive_eq]
  rfl

theorem receive_active (input : Input) : (receive driver input).active = driver.active := by
  rw [receive_eq]
  rfl

end Apply

end ModuleRuntime

end Module

end MultirotorController
