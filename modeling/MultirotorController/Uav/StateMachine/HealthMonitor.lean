import MultirotorController.Uav.DroneController

/-!
# Health and debug monitors

The health monitor runs before the active leaf in every turn. It reports edges:
a stream that stops, an estimate that has been unusable for too long, a pose that
leaves the control bounds, a speed over its limit. The distance between the
canonical and the local pose is kept as a level. The debug monitor runs last and
only publishes.
-/

namespace MultirotorController

open DroneController

structure PositionDistance where
  metres : Double := .nan
  available : Bool := false
  exceeded : Bool := false
deriving DecidableEq, Repr

structure SafetyState where
  wasUavStateEstimateActive : Bool := false
  wasLocalPosActive : Bool := false
  wasLocalVelocityActive : Bool := false
  wasImuActive : Bool := false
  wasStateActive : Bool := false
  geofenceViolated : Bool := false
  velocityXyExceeded : Bool := false
  velocityZExceeded : Bool := false
  stateEstimateUnusable : Bool := false
  stateEstimateUnusableSince : Double := -1
deriving DecidableEq, Repr

structure HealthMonitorState where
  safetyState : SafetyState := {}
  positionDistance : PositionDistance := {}
  receivedCanonicalPose : Bool := false
  receivedLocalPose : Bool := false
deriving DecidableEq, Repr

namespace HealthMonitorState

def kPositionDistanceLimitMetres : Double := 1.0

section

variable [Libm]

/-- The comparison of the two pose sources, made when either delivers. -/
def updatePositionDistance (health : HealthMonitorState) (sensor : SensorData) :
    HealthMonitorState :=
  if sensor.vrpnPoseStats.isNew || sensor.localPosStats.isNew then
    let health := { health with
      receivedCanonicalPose := health.receivedCanonicalPose || sensor.vrpnPoseStats.isNew
      receivedLocalPose := health.receivedLocalPose || sensor.localPosStats.isNew }
    if health.receivedCanonicalPose && health.receivedLocalPose then
      let metres := Libm.hypot (sensor.vrpnX - sensor.localX) (sensor.vrpnY - sensor.localY)
        (sensor.vrpnZ - sensor.localZ)
      let available := metres.isFinite
      { health with
        positionDistance := {
          metres, available
          exceeded := available && decide (kPositionDistanceLimitMetres < metres) } }
    else health
  else health

end

/-- A stream that was active in the previous turn and is not now. -/
def checkSensorActiveEdge (controller : DroneController) (stats : TopicStats) (wasActive : Bool)
    (signal : FlightSignal) : DroneController :=
  if wasActive && !stats.isActive then controller.emitFlightSignal signal else controller

variable (scope : Scope HealthMonitorState)

def checkEstimateStream : Scope HealthMonitorState :=
  let stats := scope.controller.sensorData.uavStateEstimateStats
  { controller := checkSensorActiveEdge scope.controller stats
      scope.leaf.safetyState.wasUavStateEstimateActive .timeoutEstimate
    leaf := { scope.leaf with safetyState.wasUavStateEstimateActive := stats.isActive } }

def checkLocalPosStream : Scope HealthMonitorState :=
  let stats := scope.controller.sensorData.localPosStats
  { controller := checkSensorActiveEdge scope.controller stats
      scope.leaf.safetyState.wasLocalPosActive .timeoutLocalPosition
    leaf := { scope.leaf with safetyState.wasLocalPosActive := stats.isActive } }

def checkLocalVelocityStream : Scope HealthMonitorState :=
  let stats := scope.controller.sensorData.localVelocityStats
  { controller := checkSensorActiveEdge scope.controller stats
      scope.leaf.safetyState.wasLocalVelocityActive .timeoutLocalVelocity
    leaf := { scope.leaf with safetyState.wasLocalVelocityActive := stats.isActive } }

def checkImuStream : Scope HealthMonitorState :=
  let stats := scope.controller.sensorData.imuStats
  { controller := checkSensorActiveEdge scope.controller stats
      scope.leaf.safetyState.wasImuActive .timeoutImu
    leaf := { scope.leaf with safetyState.wasImuActive := stats.isActive } }

def checkStateStream : Scope HealthMonitorState :=
  let stats := scope.controller.sensorData.stateStats
  { controller := checkSensorActiveEdge scope.controller stats
      scope.leaf.safetyState.wasStateActive .timeoutFcuState
    leaf := { scope.leaf with safetyState.wasStateActive := stats.isActive } }

/-- The fused streams are watched only while a fused backend is configured. -/
def checkFusedStreams : Scope HealthMonitorState :=
  let fused := trackingUsesFusedEstimate scope.controller.backend
  let source := scope.controller.sensorData.feedbackSource
  let scope := if fused && source == .rigidEstimate then checkEstimateStream scope else scope
  if fused && source == .mavrosLocal then
    checkImuStream (checkLocalVelocityStream (checkLocalPosStream scope))
  else scope

def checkStreams : Scope HealthMonitorState := checkStateStream (checkFusedStreams scope)

def controlStateUnusable (controller : DroneController) : Bool :=
  trackingUsesFusedEstimate controller.backend &&
    SensorChecks.isControlStateActive controller.sensorData &&
    !SensorChecks.isControlStateUsableForControl controller.sensorData

/-- The time at which the present unusable stretch began, or `-1`. -/
def unusableSince (now since : Double) (unusable : Bool) : Double :=
  if unusable && decide (since < 0) then now else if !unusable then -1 else since

def unusableTrip (now since delay : Double) (unusable : Bool) : Bool :=
  let duration := if 0 ≤ since then now - since else 0
  unusable && decide (delay ≤ duration)

def checkEstimateUsable : Scope HealthMonitorState :=
  let controller := scope.controller
  let safety := scope.leaf.safetyState
  let now := controller.currentTime
  let unusable := controlStateUnusable controller
  let since := unusableSince now safety.stateEstimateUnusableSince unusable
  let trip := unusableTrip now since
    controller.config.safety.stateEstimateUnusableTripDelay unusable
  { controller :=
      if !safety.stateEstimateUnusable && trip then controller.emitFlightSignal .estimateUnusable
      else controller
    leaf := { scope.leaf with
      safetyState.stateEstimateUnusableSince := since
      safetyState.stateEstimateUnusable := trip } }

/-- The end of the trip delay of an unusable stretch that has not tripped yet. -/
def nextWake : Option Deadline :=
  let safety := scope.leaf.safetyState
  if safety.stateEstimateUnusable || decide (safety.stateEstimateUnusableSince < 0) then none
  else
    some (controllerDueAt safety.stateEstimateUnusableSince
      scope.controller.config.safety.stateEstimateUnusableTripDelay)

/-- The present world pose is outside the configured bounds, if there are any. -/
def geofenceViolation (controller : DroneController) : Bool :=
  match controller.config.controlBounds with
  | some bounds => bounds.outside controller.worldX controller.worldY controller.worldZ
  | none => false

def checkGeofence : Scope HealthMonitorState :=
  let controller := scope.controller
  if controller.isWorldPoseNew then
    let violated := geofenceViolation controller
    { controller :=
        if !scope.leaf.safetyState.geofenceViolated && violated then
          controller.emitFlightSignal .geofence
        else controller
      leaf := { scope.leaf with safetyState.geofenceViolated := violated } }
  else scope

def velocityXyOver [Libm] (controller : DroneController) : Bool :=
  let vx := SensorChecks.worldVx controller.sensorData controller.backend
  let vy := SensorChecks.worldVy controller.sensorData controller.backend
  controller.config.safety.maxVelocityXy < Libm.sqrt (vx * vx + vy * vy)

def velocityZOver (controller : DroneController) : Bool :=
  controller.config.safety.maxVelocityZ < controller.worldVz.abs

def checkVelocity [Libm] : Scope HealthMonitorState :=
  let controller := scope.controller
  if controller.isWorldPoseNew then
    let safety := scope.leaf.safetyState
    let controller :=
      if !safety.velocityXyExceeded && velocityXyOver controller then
        controller.emitFlightSignal .velocityXY
      else controller
    { controller :=
        if !safety.velocityZExceeded && velocityZOver controller then
          controller.emitFlightSignal .velocityZ
        else controller
      leaf := { scope.leaf with
        safetyState.velocityXyExceeded := velocityXyOver scope.controller
        safetyState.velocityZExceeded := velocityZOver scope.controller } }
  else scope

def onTick [Libm] : Scope HealthMonitorState :=
  let scope := { scope with
    leaf := updatePositionDistance scope.leaf scope.controller.sensorData }
  checkVelocity (checkGeofence (checkEstimateUsable (checkStreams scope)))

/-- Once per delivered IMU message: the previous setpoint's acceleration limits. -/
def onFreshImu [Libm] (controller : DroneController) : DroneController :=
  let config := controller.config
  let setpoint := controller.setpoint
  if config.trackingBackend ≠ .px4Local then controller
  else
    let accXy := Libm.sqrt (setpoint.ax * setpoint.ax + setpoint.ay * setpoint.ay)
    let xy := if config.safety.accSaturationXy < accXy then [FlightSignal.saturationXY] else []
    let z := if config.safety.accSaturationZ < setpoint.az.abs then [FlightSignal.saturationZ]
      else []
    { controller with signals := controller.signals ++ xy ++ z }

section Spec

/-- The monitor posts nothing but safety signals. -/
abbrev MonitorStep : DroneController → DroneController → Prop :=
  PlainStep (fun _ => False) (·.isSafety)

theorem checkSensorActiveEdge_step (controller : DroneController) (stats : TopicStats)
    (wasActive : Bool) {signal : FlightSignal} (safety : signal.isSafety) :
    MonitorStep controller (checkSensorActiveEdge controller stats wasActive signal) := by
  dsimp only [checkSensorActiveEdge]
  split
  · exact .emitFlightSignal _ safety
  · exact .refl _

/-- The stream was active in the previous turn and is not now. -/
theorem mem_checkSensorActiveEdge (controller : DroneController) {stats : TopicStats}
    {wasActive : Bool} (signal : FlightSignal) (was : wasActive = true)
    (lost : stats.isActive = false) :
    signal ∈ (checkSensorActiveEdge controller stats wasActive signal).signals := by
  simp [checkSensorActiveEdge, was, lost, emitFlightSignal]

theorem checkEstimateStream_step :
    MonitorStep scope.controller (checkEstimateStream scope).controller :=
  checkSensorActiveEdge_step _ _ _ rfl

theorem checkLocalPosStream_step :
    MonitorStep scope.controller (checkLocalPosStream scope).controller :=
  checkSensorActiveEdge_step _ _ _ rfl

theorem checkLocalVelocityStream_step :
    MonitorStep scope.controller (checkLocalVelocityStream scope).controller :=
  checkSensorActiveEdge_step _ _ _ rfl

theorem checkImuStream_step : MonitorStep scope.controller (checkImuStream scope).controller :=
  checkSensorActiveEdge_step _ _ _ rfl

theorem checkStateStream_step :
    MonitorStep scope.controller (checkStateStream scope).controller :=
  checkSensorActiveEdge_step _ _ _ rfl

/-- The streams of MAVROS local feedback, in the order of the source. -/
theorem checkLocalStreams_step :
    MonitorStep scope.controller
      (checkImuStream (checkLocalVelocityStream (checkLocalPosStream scope))).controller :=
  ((checkLocalPosStream_step scope).trans (checkLocalVelocityStream_step _)).trans
    (checkImuStream_step _)

theorem checkFusedStreams_step :
    MonitorStep scope.controller (checkFusedStreams scope).controller := by
  dsimp only [checkFusedStreams]
  split
  · split
    · exact (checkEstimateStream_step scope).trans (checkLocalStreams_step _)
    · exact checkLocalStreams_step scope
  · split
    · exact checkEstimateStream_step scope
    · exact .refl _

theorem checkStreams_step : MonitorStep scope.controller (checkStreams scope).controller :=
  (checkFusedStreams_step scope).trans (checkStateStream_step _)

theorem checkEstimateUsable_step :
    MonitorStep scope.controller (checkEstimateUsable scope).controller := by
  dsimp only [checkEstimateUsable]
  split
  · exact .emitFlightSignal _ rfl
  · exact .refl _

theorem checkGeofence_step : MonitorStep scope.controller (checkGeofence scope).controller := by
  dsimp only [checkGeofence]
  split
  · dsimp only
    split
    · exact .emitFlightSignal _ rfl
    · exact .refl _
  · exact .refl _

theorem checkVelocity_step [Libm] :
    MonitorStep scope.controller (checkVelocity scope).controller := by
  dsimp only [checkVelocity]
  split
  · dsimp only
    repeat' split
    · exact .trans (.emitFlightSignal _ rfl) (.emitFlightSignal _ rfl)
    · exact .emitFlightSignal _ rfl
    · exact .emitFlightSignal _ rfl
    · exact .refl _
  · exact .refl _

/-- The scope in which the checks run. -/
private def measured [Libm] : Scope HealthMonitorState :=
  { scope with leaf := updatePositionDistance scope.leaf scope.controller.sensorData }

theorem onTick_step [Libm] : MonitorStep scope.controller (onTick scope).controller :=
  ((checkStreams_step (measured scope)).trans (checkEstimateUsable_step _)).trans
    ((checkGeofence_step _).trans (checkVelocity_step _))

/-- The latches after the streams were checked. -/
def streamLatches (controller : DroneController) (safety : SafetyState) : SafetyState :=
  let sensor := controller.sensorData
  let fused := trackingUsesFusedEstimate controller.backend
  let estimate := fused && sensor.feedbackSource == .rigidEstimate
  let mavros := fused && sensor.feedbackSource == .mavrosLocal
  { safety with
    wasUavStateEstimateActive :=
      if estimate then sensor.uavStateEstimateStats.isActive else safety.wasUavStateEstimateActive
    wasLocalPosActive :=
      if mavros then sensor.localPosStats.isActive else safety.wasLocalPosActive
    wasLocalVelocityActive :=
      if mavros then sensor.localVelocityStats.isActive else safety.wasLocalVelocityActive
    wasImuActive := if mavros then sensor.imuStats.isActive else safety.wasImuActive
    wasStateActive := sensor.stateStats.isActive }

/-- Every stream of the selected source was active in the previous turn. -/
def controlStateLatched (source : FeedbackSource) (safety : SafetyState) : Bool :=
  match source with
  | .rigidEstimate => safety.wasUavStateEstimateActive
  | .mavrosLocal =>
      safety.wasLocalPosActive && safety.wasLocalVelocityActive && safety.wasImuActive

/-- With a fused backend the latches of the selected source follow its streams. -/
theorem controlStateLatched_streamLatches {controller : DroneController} (safety : SafetyState)
    (fused : trackingUsesFusedEstimate controller.backend) :
    controlStateLatched controller.sensorData.feedbackSource (streamLatches controller safety) =
      SensorChecks.isControlStateActive controller.sensorData := by
  cases source : controller.sensorData.feedbackSource <;>
    simp [controlStateLatched, streamLatches, SensorChecks.isControlStateActive, fused, source]

@[simp] theorem checkSensorActiveEdge_sensorData (controller : DroneController)
    (stats : TopicStats) (wasActive : Bool) (signal : FlightSignal) :
    (checkSensorActiveEdge controller stats wasActive signal).sensorData =
      controller.sensorData := by
  dsimp only [checkSensorActiveEdge]
  split <;> rfl

theorem checkStreams_safetyState :
    (checkStreams scope).leaf.safetyState =
      streamLatches scope.controller scope.leaf.safetyState := by
  dsimp only [checkStreams, checkFusedStreams, streamLatches]
  cases trackingUsesFusedEstimate scope.controller.backend <;>
    cases scope.controller.sensorData.feedbackSource <;>
    simp [checkStateStream, checkEstimateStream, checkLocalPosStream, checkLocalVelocityStream,
      checkImuStream]

/-- A control state that was active in the previous turn and is not now is reported. -/
theorem checkStreams_controlEdge (fused : trackingUsesFusedEstimate scope.controller.backend)
    (latched : controlStateLatched scope.controller.sensorData.feedbackSource
      scope.leaf.safetyState)
    (lost : SensorChecks.isControlStateActive scope.controller.sensorData = false) :
    ∃ signal ∈ (checkStreams scope).controller.signals, signal.isSafety := by
  cases source : scope.controller.sensorData.feedbackSource with
  | rigidEstimate =>
      simp only [controlStateLatched, source] at latched
      simp only [SensorChecks.isControlStateActive, source] at lost
      refine ⟨.timeoutEstimate, ?_, rfl⟩
      simp only [checkStreams, checkFusedStreams, fused, source, Bool.true_and]
      exact (checkStateStream_step _).mem_signals
        (mem_checkSensorActiveEdge scope.controller .timeoutEstimate latched lost)
  | mavrosLocal =>
      simp only [controlStateLatched, source, Bool.and_eq_true] at latched
      simp only [SensorChecks.isControlStateActive, source, Bool.and_eq_false_iff] at lost
      have order : checkStreams scope = checkStateStream (checkImuStream
          (checkLocalVelocityStream (checkLocalPosStream scope))) := by
        simp [checkStreams, checkFusedStreams, fused, source]
      rw [order]
      obtain ⟨⟨wasPos, wasVelocity⟩, wasImu⟩ := latched
      obtain (lostPos | lostVelocity) | lostImu := lost
      · refine ⟨.timeoutLocalPosition, ?_, rfl⟩
        exact (((checkLocalVelocityStream_step _).trans (checkImuStream_step _)).trans
          (checkStateStream_step _)).mem_signals
            (mem_checkSensorActiveEdge scope.controller _ wasPos lostPos)
      · refine ⟨.timeoutLocalVelocity, ?_, rfl⟩
        have sensor := (checkLocalPosStream_step scope).sensorData
        refine ((checkImuStream_step _).trans (checkStateStream_step _)).mem_signals
          (mem_checkSensorActiveEdge (checkLocalPosStream scope).controller _ wasVelocity ?_)
        rw [sensor]
        exact lostVelocity
      · refine ⟨.timeoutImu, ?_, rfl⟩
        have sensor := ((checkLocalPosStream_step scope).trans
          (checkLocalVelocityStream_step _)).sensorData
        refine (checkStateStream_step _).mem_signals (mem_checkSensorActiveEdge
          (checkLocalVelocityStream (checkLocalPosStream scope)).controller _ wasImu ?_)
        rw [sensor]
        exact lostImu

theorem checkFusedStreams_wasStateActive :
    (checkFusedStreams scope).leaf.safetyState.wasStateActive =
      scope.leaf.safetyState.wasStateActive := by
  dsimp only [checkFusedStreams]
  repeat' split
  all_goals rfl

theorem mem_checkStreams_timeoutFcuState (was : scope.leaf.safetyState.wasStateActive = true)
    (lost : scope.controller.sensorData.stateStats.isActive = false) :
    .timeoutFcuState ∈ (checkStreams scope).controller.signals := by
  refine mem_checkSensorActiveEdge _ _ ((checkFusedStreams_wasStateActive scope).trans was) ?_
  rw [(checkFusedStreams_step scope).sensorData]
  exact lost

/-- The latches and levels that a turn of the monitor leaves behind. -/
def nextSafety [Libm] (controller : DroneController) (safety : SafetyState) : SafetyState :=
  let unusable := controlStateUnusable controller
  let since := unusableSince controller.currentTime safety.stateEstimateUnusableSince unusable
  let fresh := controller.isWorldPoseNew
  { streamLatches controller safety with
    stateEstimateUnusableSince := since
    stateEstimateUnusable := unusableTrip controller.currentTime since
      controller.config.safety.stateEstimateUnusableTripDelay unusable
    geofenceViolated := if fresh then geofenceViolation controller else safety.geofenceViolated
    velocityXyExceeded :=
      if fresh then velocityXyOver controller else safety.velocityXyExceeded
    velocityZExceeded := if fresh then velocityZOver controller else safety.velocityZExceeded }

/-- What a turn leaves behind depends on its circumstances alone. -/
theorem nextSafety_congr [Libm] {before after : DroneController}
    (config : after.config = before.config) (sensorData : after.sensorData = before.sensorData)
    (currentTime : after.currentTime = before.currentTime) (safety : SafetyState) :
    nextSafety after safety = nextSafety before safety := by
  cases before
  cases after
  cases config
  cases sensorData
  cases currentTime
  rfl

/-- The checks read the circumstances of the turn and nothing else of the controller. -/
private theorem checks_congr [Libm] {before after : DroneController}
    (step : MonitorStep before after) :
    controlStateUnusable after = controlStateUnusable before ∧
      after.isWorldPoseNew = before.isWorldPoseNew ∧
      geofenceViolation after = geofenceViolation before ∧
      velocityXyOver after = velocityXyOver before ∧
      velocityZOver after = velocityZOver before := by
  have config := step.config
  have sensorData := step.sensorData
  cases before
  cases after
  cases config
  cases sensorData
  exact ⟨rfl, rfl, rfl, rfl, rfl⟩

private theorem checkGeofence_safetyState :
    (checkGeofence scope).leaf.safetyState = { scope.leaf.safetyState with
      geofenceViolated :=
        if scope.controller.isWorldPoseNew then geofenceViolation scope.controller
        else scope.leaf.safetyState.geofenceViolated } := by
  dsimp only [checkGeofence]
  split <;> rfl

private theorem checkVelocity_safetyState [Libm] :
    (checkVelocity scope).leaf.safetyState = { scope.leaf.safetyState with
      velocityXyExceeded :=
        if scope.controller.isWorldPoseNew then velocityXyOver scope.controller
        else scope.leaf.safetyState.velocityXyExceeded
      velocityZExceeded :=
        if scope.controller.isWorldPoseNew then velocityZOver scope.controller
        else scope.leaf.safetyState.velocityZExceeded } := by
  dsimp only [checkVelocity]
  split <;> rfl

theorem updatePositionDistance_safetyState [Libm] (health : HealthMonitorState)
    (sensor : SensorData) :
    (updatePositionDistance health sensor).safetyState = health.safetyState := by
  dsimp only [updatePositionDistance]
  repeat' split
  all_goals rfl

theorem onTick_safetyState [Libm] :
    (onTick scope).leaf.safetyState = nextSafety scope.controller scope.leaf.safetyState := by
  have streams := checkStreams_step (measured scope)
  have usable := streams.trans (checkEstimateUsable_step _)
  have fence := usable.trans (checkGeofence_step _)
  obtain ⟨unusable, -⟩ := checks_congr streams
  obtain ⟨-, fresh, outside, -⟩ := checks_congr usable
  obtain ⟨-, fresh', -, speeds⟩ := checks_congr fence
  change (checkVelocity (checkGeofence (checkEstimateUsable
    (checkStreams (measured scope))))).leaf.safetyState = _
  rw [checkVelocity_safetyState, checkGeofence_safetyState, fresh, fresh', outside, speeds.1,
    speeds.2]
  dsimp only [checkEstimateUsable]
  rw [checkStreams_safetyState, unusable, streams.currentTime, streams.config]
  dsimp only [measured]
  rw [updatePositionDistance_safetyState]
  rfl

section Reports

variable [Libm]

/-- Whatever the streams report is still pending when the tick ends. -/
private theorem mem_onTick_of_streams {signal : FlightSignal}
    (reported : signal ∈ (checkStreams (measured scope)).controller.signals) :
    signal ∈ (onTick scope).controller.signals :=
  ((checkEstimateUsable_step _).trans ((checkGeofence_step _).trans
    (checkVelocity_step _))).mem_signals reported

theorem onTick_reports_controlState
    (fused : trackingUsesFusedEstimate scope.controller.backend)
    (latched : controlStateLatched scope.controller.sensorData.feedbackSource
      scope.leaf.safetyState)
    (lost : SensorChecks.isControlStateActive scope.controller.sensorData = false) :
    ∃ signal ∈ (onTick scope).controller.signals, signal.isSafety := by
  obtain ⟨signal, reported, safety⟩ := checkStreams_controlEdge (measured scope) fused
    (by rw [measured, updatePositionDistance_safetyState]; exact latched) lost
  exact ⟨signal, mem_onTick_of_streams scope reported, safety⟩

theorem onTick_reports_fcuState (was : scope.leaf.safetyState.wasStateActive = true)
    (lost : scope.controller.sensorData.stateStats.isActive = false) :
    .timeoutFcuState ∈ (onTick scope).controller.signals :=
  mem_onTick_of_streams scope (mem_checkStreams_timeoutFcuState (measured scope)
    (by rw [measured, updatePositionDistance_safetyState]; exact was) lost)

omit [Libm] in
private theorem mem_checkEstimateUsable
    (was : scope.leaf.safetyState.stateEstimateUnusable = false)
    (trips : (checkEstimateUsable scope).leaf.safetyState.stateEstimateUnusable = true) :
    .estimateUnusable ∈ (checkEstimateUsable scope).controller.signals := by
  dsimp only [checkEstimateUsable] at trips ⊢
  rw [was, trips]
  simp [emitFlightSignal]

/-- The level of an unusable estimate rises in this turn. -/
theorem onTick_reports_unusable (was : scope.leaf.safetyState.stateEstimateUnusable = false)
    (trips : (nextSafety scope.controller scope.leaf.safetyState).stateEstimateUnusable = true) :
    .estimateUnusable ∈ (onTick scope).controller.signals := by
  refine ((checkGeofence_step _).trans (checkVelocity_step _)).mem_signals
    (mem_checkEstimateUsable (checkStreams (measured scope)) ?_ ?_)
  · rw [checkStreams_safetyState, measured, updatePositionDistance_safetyState]
    exact was
  · have level := congrArg SafetyState.stateEstimateUnusable (onTick_safetyState scope)
    change (checkVelocity (checkGeofence (checkEstimateUsable
      (checkStreams (measured scope))))).leaf.safetyState.stateEstimateUnusable = _ at level
    rw [checkVelocity_safetyState, checkGeofence_safetyState] at level
    exact level.trans trips

omit [Libm] in
private theorem mem_checkGeofence (was : scope.leaf.safetyState.geofenceViolated = false)
    (fresh : scope.controller.isWorldPoseNew = true)
    (outside : geofenceViolation scope.controller = true) :
    .geofence ∈ (checkGeofence scope).controller.signals := by
  simp only [checkGeofence, fresh, outside, was]
  simp [emitFlightSignal]

/-- The pose leaves the bounds in this turn. -/
theorem onTick_reports_geofence (was : scope.leaf.safetyState.geofenceViolated = false)
    (fresh : scope.controller.isWorldPoseNew = true)
    (outside : geofenceViolation scope.controller = true) :
    .geofence ∈ (onTick scope).controller.signals := by
  obtain ⟨-, fresh', outside', -⟩ :=
    checks_congr ((checkStreams_step (measured scope)).trans (checkEstimateUsable_step _))
  refine (checkVelocity_step _).mem_signals (mem_checkGeofence
    (checkEstimateUsable (checkStreams (measured scope))) ?_ (fresh'.trans fresh)
    (outside'.trans outside))
  dsimp only [checkEstimateUsable]
  rw [checkStreams_safetyState, measured, updatePositionDistance_safetyState]
  exact was

end Reports

end Spec

end HealthMonitorState

structure DebugMonitorState where
  lastStatusPublishTime : Double := 0
  lastDebugPrintTime : Double := 0
  statusPublishInitialized : Bool := false
  debugPrintInitialized : Bool := false
deriving DecidableEq, Repr

namespace DebugMonitorState

def statusPublishInterval : Double := 0.2
def debugPrintInterval : Double := 1.0

variable (scope : Scope DebugMonitorState)

def publishEvents : Scope DebugMonitorState :=
  let controller := scope.controller
  if controller.diagnosticEvents.isEmpty then scope
  else { scope with controller := controller.emitFlightEffect (.events controller.currentTime) }

def publishStatus : Scope DebugMonitorState :=
  let now := scope.controller.currentTime
  if !scope.leaf.statusPublishInitialized ||
      decide (statusPublishInterval ≤ now - scope.leaf.lastStatusPublishTime) then
    { controller :=
        ((scope.controller.emitFlightEffect (.status now)).emitFlightEffect
          (.sensorStats now)).emitFlightEffect (.trackingError now)
      leaf := { scope.leaf with
        lastStatusPublishTime := now, statusPublishInitialized := true } }
  else scope

def printSensorDebug : Scope DebugMonitorState :=
  let now := scope.controller.currentTime
  if !scope.leaf.debugPrintInitialized ||
      decide (debugPrintInterval ≤ now - scope.leaf.lastDebugPrintTime) then
    { controller := scope.controller.emitFlightEffect (.sensorDebug now)
      leaf := { scope.leaf with lastDebugPrintTime := now, debugPrintInitialized := true } }
  else scope

def onTick : Scope DebugMonitorState := printSensorDebug (publishStatus (publishEvents scope))

theorem publishEvents_plain :
    PlainStep (·.isTelemetry) (fun _ => False) scope.controller
      (publishEvents scope).controller := by
  dsimp only [publishEvents]
  split
  · exact .refl _
  · exact .emitFlightEffect _ rfl

theorem publishStatus_plain :
    PlainStep (·.isTelemetry) (fun _ => False) scope.controller
      (publishStatus scope).controller := by
  dsimp only [publishStatus]
  split
  · exact .trans (.trans (.emitFlightEffect _ rfl) (.emitFlightEffect _ rfl))
      (.emitFlightEffect _ rfl)
  · exact .refl _

theorem printSensorDebug_plain :
    PlainStep (·.isTelemetry) (fun _ => False) scope.controller
      (printSensorDebug scope).controller := by
  dsimp only [printSensorDebug]
  split
  · exact .emitFlightEffect _ rfl
  · exact .refl _

theorem onTick_plain :
    PlainStep (·.isTelemetry) (fun _ => False) scope.controller (onTick scope).controller :=
  ((publishEvents_plain scope).trans (publishStatus_plain _)).trans (printSensorDebug_plain _)

def nextWake : Deadline :=
  let now := scope.controller.currentTime
  let status :=
    if scope.leaf.statusPublishInitialized then
      controllerDueAt scope.leaf.lastStatusPublishTime statusPublishInterval
    else { due := now }
  let debug :=
    if scope.leaf.debugPrintInitialized then
      controllerDueAt scope.leaf.lastDebugPrintTime debugPrintInterval
    else { due := now }
  status.min debug

end DebugMonitorState

end MultirotorController
