import MultirotorController.Common.WakeTicks
import MultirotorController.Driver.NmpcExecution
import MultirotorController.Driver.SensorStatistics

/-!
# The controller driver

Owns the snapshot with its receive statistics, the controller and the solver's
worker. The controller reads the snapshot through a reference; here it observes it
when it is updated. The internal hover thrust estimator is left out, which the
module refuses to configure. The worker works on its own, at any moment.
-/

namespace MultirotorController

/-- What the solver's thread does on its own. -/
inductive WorkerEvent where
  | solve (outcome : NmpcSolveResult)
  | commit
deriving DecidableEq, Repr

variable [Libm] [Xgc2Math]

structure ControllerDriver where
  sensing : Sensing := {}
  runtime : FlightRuntime
  worker : NmpcWorker := .idle
  /-- What the dispatcher reads as the present time. -/
  clock : Time := {}
  active : Bool := false

namespace ControllerDriver

variable (driver : ControllerDriver)

def withSensor (update : SensorData → SensorData) : ControllerDriver :=
  { driver with sensing := { driver.sensing with sensor := update driver.sensing.sensor } }

/-- Hands an input to the controller. -/
def deliver (input : FlightInput) : ControllerDriver :=
  { driver with runtime := driver.runtime.receive input }

def ingestPairedLocalPv (position velocity : Vec3) : ControllerDriver :=
  driver.withSensor fun sensor => { sensor with pairedLocalPv := some ⟨position, velocity⟩ }

/-- Statistics that cannot be started leave the driver inactive. -/
def start (now : Time) : ControllerDriver × Except RuntimeError Unit :=
  let driver := driver.withSensor fun sensor =>
    { sensor with feedbackSource := driver.runtime.controller.config.feedbackSource }
  let driver := { driver with clock := now }
  match (Sensing.start now).run driver.sensing with
  | .error error sensing => ({ driver with sensing }, .error error)
  | .ok _ sensing => ({ driver with sensing, active := true }, .ok ())

/-- Whether another update is due at once. An error of the statistics keeps the controller
from being updated. -/
def update (now : Time) : ControllerDriver × Except RuntimeError Bool :=
  if !driver.active then (driver, .ok false)
  else
    let driver := { driver with clock := now }
    match (Sensing.advance now).run driver.sensing with
    | .error error sensing => ({ driver with sensing }, .error error)
    | .ok _ sensing =>
        let (runtime, outcome) := (driver.runtime.observe sensing.sensor).update now
        ({ driver with sensing, runtime }, outcome)

def resetNewFlags : ControllerDriver := { driver with sensing := driver.sensing.resetNewFlags }

/-- The earlier of two ticks, either of which may be missing. -/
def earlierTick : Option Nat → Option Nat → Option Nat
  | none, b => b
  | some a, none => some a
  | some a, some b => some (min a b)

/-- The next tick of the host at which something is due. -/
def nextWake (rosStatisticsClock : Bool) : Except RuntimeError (Option Nat) := do
  if !driver.active then return none
  let flight ← (driver.runtime.observe driver.sensing.sensor).nextWake
  let flight ← flight.mapM fun deadline => controllerClockWakeNs (deadlineSeconds deadline)
  let statistics ← (Sensing.nextWake driver.sensing.statistics).mapM fun due =>
    if rosStatisticsClock then rosStatisticsWakeNs due else .ok due.toNSec.toNat
  return earlierTick flight statistics

/-- One event of the solver's thread. -/
def work : WorkerEvent → ControllerDriver
  | .solve outcome =>
      match driver.worker with
      | .solving request =>
          { driver with
            worker := .solved (NmpcExecution.solve driver.runtime.controller request outcome) }
      | _ => driver
  | .commit =>
      match driver.worker with
      | .solved result =>
          { driver with
            runtime := { driver.runtime with
              controller := NmpcExecution.storeResult driver.runtime.controller result }
            worker := .idle }
      | _ => driver

end ControllerDriver

end MultirotorController
