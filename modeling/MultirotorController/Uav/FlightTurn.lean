import MultirotorController.Driver.TrajectoryIngress
import MultirotorController.Lib.Run
import MultirotorController.Uav.FlightState

/-!
# Turns of the flight machine

Between two updates the controller may receive commands, IMU messages, planner
setpoints, active references, solver results and a configuration, in any order
and number. A turn takes them, sees a snapshot of the sensors and updates the
machine at a time. Nothing is assumed about any of these here; what a result
assumes about the environment is a restriction on its runs.
-/

namespace MultirotorController

open Reference

variable [Libm] [Xgc2Math]

/-- What may reach the controller between two updates. -/
inductive FlightInput where
  | command (command : FlightCommand)
  | freshImu
  | plannerSetpoint (ingress : PositionTargetIngress)
  | activeAnalytic (message : AnalyticReference) (received : Time)
  | activeSampled (message : SampledReference) (received : Time)
  | nmpcResult (result : NmpcSolveResult)
  | configure (config : ControllerConfig)
deriving DecidableEq, Repr

def FlightInput.isNmpcResult : FlightInput → Bool
  | nmpcResult _ => true
  | _ => false

namespace FlightRuntime

def receive (runtime : FlightRuntime) : FlightInput → FlightRuntime
  | .command command => (runtime.postCommand command).1
  | .freshImu => runtime.onFreshImu
  | .plannerSetpoint ingress =>
      { runtime with controller := (ingestPlannerSetpoint runtime.controller ingress).1 }
  | .activeAnalytic message received =>
      { runtime with
        controller := { runtime.controller with
          activeTrajectoryCache :=
            (runtime.controller.activeTrajectoryCache.updateAnalytic message received).1 } }
  | .activeSampled message received =>
      { runtime with
        controller := { runtime.controller with
          activeTrajectoryCache :=
            (runtime.controller.activeTrajectoryCache.updateSampled message received).1 } }
  | .nmpcResult result =>
      { runtime with
        controller := { runtime.controller with
          nmpcResultBuffer := (runtime.controller.nmpcResultBuffer.store result).1 } }
  | .configure config => runtime.setConfig config

/-- The snapshot that the next update reads. -/
def observe (runtime : FlightRuntime) (sensor : SensorData) : FlightRuntime :=
  { runtime with controller := { runtime.controller with sensorData := sensor } }

end FlightRuntime

structure Turn where
  inputs : List FlightInput := []
  sensor : SensorData := {}
  now : Time := {}
deriving DecidableEq, Repr

namespace FlightRuntime

/-- The runtime just before the update of a turn. -/
def prepare (runtime : FlightRuntime) (turn : Turn) : FlightRuntime :=
  (turn.inputs.foldl receive runtime).observe turn.sensor

def turn (runtime : FlightRuntime) (turn : Turn) : FlightRuntime × Except RuntimeError Bool :=
  (runtime.prepare turn).update turn.now

end FlightRuntime

/-- The flight machine, one turn a step; a step answers whether another turn is due,
or the error that ended it. -/
def flightMachine : Machine FlightRuntime Turn (Except RuntimeError Bool) where
  step := FlightRuntime.turn

/-- One turn as it happened. -/
abbrev FlightEvent := Machine.Event FlightRuntime Turn (Except RuntimeError Bool)

/-- A constructed and configured controller. -/
def FlightRuntime.Started (runtime : FlightRuntime) : Prop :=
  ∃ config, runtime = FlightRuntime.initial.setConfig config

end MultirotorController
