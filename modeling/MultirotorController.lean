import MultirotorController.Lib.Double
import MultirotorController.Lib.Binary64
import MultirotorController.Lib.Libm
import MultirotorController.Lib.Procedure
import MultirotorController.Lib.Run
import MultirotorController.Lib.Lookahead
import MultirotorController.Lib.Frames
import MultirotorController.Common.Time
import MultirotorController.Common.TimeOrder
import MultirotorController.Common.Types
import MultirotorController.Common.SensorChecks
import MultirotorController.Control.TrajectoryLifter
import MultirotorController.Control.Xgc2Math
import MultirotorController.Control.ExactMath
import MultirotorController.Uav.NmpcResultBuffer
import MultirotorController.Uav.ActiveTrajectoryCache
import MultirotorController.Control.TrackingStrategy
import MultirotorController.Uav.DroneController
import MultirotorController.Uav.StateMachine.HealthMonitor
import MultirotorController.Uav.StateMachine.Ground
import MultirotorController.Uav.StateMachine.Takeoff
import MultirotorController.Uav.StateMachine.Landing
import MultirotorController.Uav.StateMachine.Custom1
import MultirotorController.Uav.StateMachine.Custom1Actions
import MultirotorController.Uav.StateMachine.Custom1Results
import MultirotorController.Driver.TrajectoryIngress
import MultirotorController.Uav.FlightState
import MultirotorController.Uav.FlightTurn
import MultirotorController.Uav.FlightUpdate
import MultirotorController.Uav.TrackRequest
import MultirotorController.Uav.FlightTracking
import MultirotorController.Uav.StateMachine.Custom1Segments
import MultirotorController.Uav.PlannerSegments
import MultirotorController.Uav.FrameConfirmation
import MultirotorController.Driver.NmpcExecution
import MultirotorController.Driver.SensorStatistics
import MultirotorController.Module.Payloads
import MultirotorController.Module.SensorInput
import MultirotorController.Safety.Environment
import MultirotorController.Safety.Disarm
import MultirotorController.Safety.Touchdown
import MultirotorController.Safety.Supervision
import MultirotorController.Safety.Geofence
import MultirotorController.Safety.OperatorWord
import MultirotorController.Safety.EffectiveSegment
import MultirotorController.Safety.SetpointFrame
import MultirotorController.Safety.ResultIdentity
import MultirotorController.Safety.FrameGrouping
import MultirotorController.Safety.OutputFreshness
import MultirotorController.Lib.Deadline
import MultirotorController.Generator.ReferenceTypes
import MultirotorController.Generator.AnalyticEvaluator
import MultirotorController.Generator.ReferenceTrajectoryRuntime
import MultirotorController.Generator.CurveAgreement
import MultirotorController.Generator.RuntimeTurns
import MultirotorController.Generator.WakeUps
import MultirotorController.Lib.Insertion
import MultirotorController.Generator.ReferenceModule
import MultirotorController.Generator.Requests
import MultirotorController.Generator.ModuleSteps
import MultirotorController.Generator.Activation
import MultirotorController.Generator.Refusals
import MultirotorController.Uav.StateMachine.LeafWakes
import MultirotorController.Driver.ControllerConfig
import MultirotorController.Lib.BatchQueue
import MultirotorController.Uav.StateMachine.Custom1Ranges
import MultirotorController.Uav.CommandQueue
import MultirotorController.Safety.LandPriority
import MultirotorController.Uav.SignalTraces
import MultirotorController.Safety.CompletionSignals
import MultirotorController.Safety.Continuation
import MultirotorController.Uav.OutputSteps
import MultirotorController.Uav.TakeoffSteps
import MultirotorController.Safety.ArmingHandshake
import MultirotorController.Safety.SettledFrames
import MultirotorController.Uav.StateMachine.Custom1Decisions
import MultirotorController.Common.TimeSpans
import MultirotorController.Control.StageWindow
import MultirotorController.Uav.SegmentTurns
import MultirotorController.Safety.TrackingWindow
import MultirotorController.Safety.HeldPosition
import MultirotorController.Safety.TakeOverGate
import MultirotorController.Generator.PayloadRoundTrip
import MultirotorController.Nmpc.NmpcMathUtils
import MultirotorController.Nmpc.UavNmpcSolver
import MultirotorController.Lib.TwoRuns
import MultirotorController.Uav.NmpcTrackingBackend
import MultirotorController.Driver.NmpcSolverWorker
import MultirotorController.Uav.SolverSessions
import MultirotorController.Safety.SolverIndependence
import MultirotorController.Control.LiftMasks
import MultirotorController.Driver.SupervisionTasks
import MultirotorController.Safety.ReceiveSupervision
import MultirotorController.Lib.Json
import MultirotorController.Driver.WorldBoundary
import MultirotorController.Lib.JsonTree
import MultirotorController.Module.JsonConfig
import MultirotorController.Uav.InputBounds
import MultirotorController.Safety.NmpcReadiness
import MultirotorController.Nmpc.FiniteReferences
import MultirotorController.Uav.ComputeSteps
import MultirotorController.Safety.RejectedCandidates
import MultirotorController.Uav.StateMachine.Custom1Targets
import MultirotorController.Safety.PublishedLimits
import MultirotorController.Lib.BinarySearch
import MultirotorController.Common.WakeTicks
import MultirotorController.Uav.ReferenceActivation
import MultirotorController.Module.ControllerPorts
import MultirotorController.Driver.ControllerDriver
import MultirotorController.Driver.DriverWakes
import MultirotorController.Module.ControllerModule
import MultirotorController.Uav.ReceivedInputs
import MultirotorController.Driver.FlightProjection
import MultirotorController.Driver.SensorExtension
import MultirotorController.Driver.DriverRuns
import MultirotorController.Module.ReceivedSamples
import MultirotorController.Module.PublishedEffects
import MultirotorController.Module.ModuleRuns
import MultirotorController.Safety.ModuleSafety
import MultirotorController.Safety.ModuleConfiguration
import MultirotorController.Uav.StateMachine.MonitorWakes
import MultirotorController.Uav.FlightWakes
import MultirotorController.Safety.SilentTurns
import MultirotorController.Safety.ModuleTargets
import MultirotorController.Safety.RequestedReferences
import MultirotorController.Safety.ModuleReports
