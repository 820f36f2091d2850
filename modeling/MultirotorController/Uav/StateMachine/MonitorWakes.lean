import MultirotorController.Uav.StateMachine.HealthMonitor
import MultirotorController.Uav.StateMachine.LeafWakes

/-!
# Monitors between their deadlines

The health monitor reports edges, so a snapshot that it has already seen is no
news to it: its latches are those of the streams, and an unusable stretch began
at a time that it knows. Until the trip delay of such a stretch is over a tick
reports nothing. The debug monitor publishes at its two intervals alone.
-/

namespace MultirotorController

open DroneController

namespace HealthMonitorState

/-- The present unusable stretch began at a number, if there is one. -/
def Clocked (health : HealthMonitorState) : Prop :=
  health.safetyState.stateEstimateUnusableSince.isFinite = true

/-- The snapshot is one that the monitor has seen. -/
structure Informed (controller : DroneController) (safety : SafetyState) : Prop where
  streams : streamLatches controller safety = safety
  stretch : controlStateUnusable controller = true → ¬ safety.stateEstimateUnusableSince < 0

section Silent

variable {scope : Scope HealthMonitorState} {t : ℚ}

theorem checkSensorActiveEdge_same {stats : TopicStats} {wasActive : Bool}
    (same : stats.isActive = wasActive) (controller : DroneController) (signal : FlightSignal) :
    checkSensorActiveEdge controller stats wasActive signal = controller := by
  unfold checkSensorActiveEdge
  rw [same]
  cases wasActive <;> rfl

/-- Streams that are as they were report nothing. -/
theorem checkStreams_informed
    (streams : streamLatches scope.controller scope.leaf.safetyState = scope.leaf.safetyState) :
    checkStreams scope = scope := by
  obtain ⟨controller, safety, distance, canonical, localPose⟩ := scope
  have state := congrArg (·.wasStateActive) streams
  have estimate := congrArg (·.wasUavStateEstimateActive) streams
  have position := congrArg (·.wasLocalPosActive) streams
  have velocity := congrArg (·.wasLocalVelocityActive) streams
  have imu := congrArg (·.wasImuActive) streams
  obtain ⟨wasEstimate, wasPosition, wasVelocity, wasImu, wasState, geofence, xy, z, unusable,
    since⟩ := safety
  dsimp only [streamLatches] at state estimate position velocity imu
  subst state
  cases fused : trackingUsesFusedEstimate controller.backend <;>
    cases source : controller.sensorData.feedbackSource <;>
    simp_all [checkStreams, checkFusedStreams, checkStateStream, checkEstimateStream,
      checkLocalPosStream, checkLocalVelocityStream, checkImuStream, checkSensorActiveEdge_same]

theorem checkEstimateUsable_ahead (clock : scope.controller.currentTime = .fin t)
    (clocked : scope.leaf.Clocked)
    (length : scope.controller.config.safety.stateEstimateUnusableTripDelay.isFinite = true)
    (stretch : controlStateUnusable scope.controller = true →
      ¬ scope.leaf.safetyState.stateEstimateUnusableSince < 0)
    (ahead : Deadline.Ahead (.fin t) (nextWake scope)) :
    (checkEstimateUsable scope).controller = scope.controller := by
  unfold checkEstimateUsable
  dsimp only
  cases unusable : controlStateUnusable scope.controller with
  | false => simp [unusableTrip]
  | true =>
      have began := stretch unusable
      have since : unusableSince scope.controller.currentTime
          scope.leaf.safetyState.stateEstimateUnusableSince true =
            scope.leaf.safetyState.stateEstimateUnusableSince := by
        simp [unusableSince, began]
      have early : scope.leaf.safetyState.stateEstimateUnusable = false →
          unusableTrip scope.controller.currentTime
            scope.leaf.safetyState.stateEstimateUnusableSince
            scope.controller.config.safety.stateEstimateUnusableTripDelay true = false := by
        intro untripped
        unfold nextWake at ahead
        dsimp only at ahead
        rw [untripped, if_neg (by simpa using began)] at ahead
        have early := (later_controllerDueAt_iff clocked length).mp ahead
        have started := Double.le_of_not_lt rfl clocked began
        unfold unusableTrip
        rw [if_pos started, clock]
        simpa using early
      rw [since]
      cases tripped : scope.leaf.safetyState.stateEstimateUnusable with
      | true => rfl
      | false => rw [early tripped]; rfl

/-- Before the trip delay is over the monitor has nothing to say about a snapshot that it has
seen, without a new pose. -/
theorem onTick_ahead [Libm] (clock : scope.controller.currentTime = .fin t)
    (clocked : scope.leaf.Clocked)
    (length : scope.controller.config.safety.stateEstimateUnusableTripDelay.isFinite = true)
    (informed : Informed scope.controller scope.leaf.safetyState)
    (noWorldPose : scope.controller.isWorldPoseNew = false)
    (noPose : scope.controller.sensorData.vrpnPoseStats.isNew = false)
    (noLocalPose : scope.controller.sensorData.localPosStats.isNew = false)
    (ahead : Deadline.Ahead (.fin t) (nextWake scope)) :
    (onTick scope).controller = scope.controller ∧
      (onTick scope).leaf.positionDistance = scope.leaf.positionDistance := by
  have kept : updatePositionDistance scope.leaf scope.controller.sensorData = scope.leaf := by
    unfold updatePositionDistance
    rw [noPose, noLocalPose]
    rfl
  have streams : checkStreams scope = scope := checkStreams_informed informed.streams
  have usable := checkEstimateUsable_ahead clock clocked length informed.stretch ahead
  have fence (scope : Scope HealthMonitorState) (old : scope.controller.isWorldPoseNew = false) :
      checkVelocity (checkGeofence scope) = scope := by
    unfold checkGeofence
    dsimp only
    rw [old]
    unfold checkVelocity
    dsimp only
    rw [if_neg Bool.false_ne_true, old]
    rfl
  have ticked : onTick scope = checkEstimateUsable scope := by
    unfold onTick
    rw [kept]
    change checkVelocity (checkGeofence (checkEstimateUsable (checkStreams scope))) = _
    rw [streams, fence _ (by rw [usable]; exact noWorldPose)]
  rw [ticked]
  exact ⟨usable, rfl⟩

end Silent

section Turns

variable [Libm]

theorem clocked_nextSafety {controller : DroneController} {safety : SafetyState}
    (clock : controller.currentTime.isFinite = true)
    (clocked : safety.stateEstimateUnusableSince.isFinite = true) :
    (nextSafety controller safety).stateEstimateUnusableSince.isFinite = true := by
  change (unusableSince _ _ _).isFinite = true
  unfold unusableSince
  split
  · exact clock
  · split
    · rfl
    · exact clocked

/-- After a turn the monitor has seen its snapshot. -/
theorem informed_nextSafety {controller : DroneController} {safety : SafetyState}
    (clock : 0 ≤ controller.currentTime) :
    Informed controller (nextSafety controller safety) := by
  refine ⟨?_, ?_⟩
  · unfold nextSafety streamLatches
    dsimp only
    cases trackingUsesFusedEstimate controller.backend <;>
      cases controller.sensorData.feedbackSource <;> simp
  · intro unusable
    change ¬ unusableSince _ _ _ < 0
    rw [unusable]
    unfold unusableSince
    split
    · exact Double.not_lt_of_le clock
    next began => simpa using began

end Turns

end HealthMonitorState

namespace DebugMonitorState

/-- Both publications have taken place, at numbers. -/
structure Clocked (debug : DebugMonitorState) : Prop where
  status : debug.lastStatusPublishTime.isFinite = true
  print : debug.lastDebugPrintTime.isFinite = true

structure Running (debug : DebugMonitorState) : Prop where
  status : debug.statusPublishInitialized = true
  print : debug.debugPrintInitialized = true

section Silent

variable {scope : Scope DebugMonitorState} {t : ℚ}

theorem clocked_onTick (clock : scope.controller.currentTime.isFinite = true)
    (clocked : scope.leaf.Clocked) : (onTick scope).leaf.Clocked := by
  have events : (publishEvents scope).leaf = scope.leaf ∧
      (publishEvents scope).controller.currentTime = scope.controller.currentTime := by
    unfold publishEvents
    dsimp only
    split <;> exact ⟨rfl, rfl⟩
  have published : (publishStatus (publishEvents scope)).leaf.Clocked ∧
      (publishStatus (publishEvents scope)).controller.currentTime.isFinite = true := by
    unfold publishStatus
    dsimp only
    rw [events.2]
    split
    · exact ⟨⟨clock, by rw [events.1]; exact clocked.print⟩, by
        rw [← events.2] at clock; exact clock⟩
    · rw [events.1]
      exact ⟨clocked, by rw [events.2]; exact clock⟩
  unfold onTick printSensorDebug
  dsimp only
  split
  · exact ⟨published.1.status, published.2⟩
  · exact published.1

theorem running_onTick (scope : Scope DebugMonitorState) : (onTick scope).leaf.Running := by
  have published : (publishStatus (publishEvents scope)).leaf.statusPublishInitialized = true := by
    unfold publishStatus
    dsimp only
    split
    · rfl
    next idle => simp_all
  unfold onTick printSensorDebug
  dsimp only
  split
  · exact ⟨published, rfl⟩
  next idle => exact ⟨published, by simp_all⟩

/-- The deadline of a running monitor does not depend on the clock. -/
theorem nextWake_of_running {debug : DebugMonitorState} (running : debug.Running)
    (controller other : DroneController) :
    nextWake ⟨controller, debug⟩ = nextWake ⟨other, debug⟩ := by
  unfold nextWake
  dsimp only
  rw [running.status, running.print]
  rfl

theorem finite_nextWake (clocked : scope.leaf.Clocked) (running : scope.leaf.Running) :
    (nextWake scope).due.isFinite = true := by
  unfold nextWake
  dsimp only
  rw [if_pos running.status, if_pos running.print]
  unfold Deadline.min
  split
  · exact controllerDueAt_finite clocked.print rfl
  · exact controllerDueAt_finite clocked.status rfl

/-- Between its publications the monitor does nothing about a turn without events. -/
theorem onTick_ahead (clock : scope.controller.currentTime = .fin t)
    (clocked : scope.leaf.Clocked) (running : scope.leaf.Running)
    (silent : scope.controller.diagnosticEvents = [])
    (later : (nextWake scope).Later (.fin t)) : onTick scope = scope := by
  unfold nextWake at later
  dsimp only at later
  rw [if_pos running.status, if_pos running.print, Deadline.later_min
    (controllerDueAt_finite clocked.status rfl) (controllerDueAt_finite clocked.print rfl),
    later_controllerDueAt_iff clocked.status rfl, later_controllerDueAt_iff clocked.print rfl]
    at later
  have events : publishEvents scope = scope := by
    unfold publishEvents
    dsimp only
    rw [silent]
    rfl
  have status : publishStatus scope = scope := by
    unfold publishStatus
    dsimp only
    rw [running.status, clock]
    exact if_neg (by simpa using later.1)
  have print : printSensorDebug scope = scope := by
    unfold printSensorDebug
    dsimp only
    rw [running.print, clock]
    exact if_neg (by simpa using later.2)
  unfold onTick
  rw [events, status, print]

end Silent

end DebugMonitorState

end MultirotorController
