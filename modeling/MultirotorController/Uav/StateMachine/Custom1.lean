import MultirotorController.Control.TrackingStrategy
import MultirotorController.Lib.Procedure
import MultirotorController.Uav.DroneController

/-!
# Custom1, the tracking leaf

One handler per backend. NMPC works by events: it consumes a solver result, gives
up a missed deadline, watches the age of the last success and dispatches the next
request. The other backends compute their output in the tick. A tick may throw
when two clock values are too far apart; whatever it had done until then stays.
-/

namespace MultirotorController

open Procedure

/-- Stages of the solver's horizon. -/
def UavNmpcSolver.horizonSteps : Nat := 10

structure Custom1State [Xgc2Math] where
  lastPublishTime : Double := 0
  commandTime : Double := 0
  hoverX : Double := 0
  hoverY : Double := 0
  hoverZ : Double := 0
  trackingArmed : Bool := false
  requestSequence : Nat := 0
  controlGeneration : Nat := 0
  inFlightSequence : Nat := 0
  consumedResultSequence : Nat := 0
  requestInFlight : Bool := false
  lastRequestTime : Double := 0
  requestDeadline : Double := 0
  lastSuccessTime : Double := 0
  consecutiveFailures : Nat := 0
  referenceFinishEventPosted : Bool := false
  nmpcWaitLogTimer : ControllerTimer := {}
  trajectoryWaitLogTimer : ControllerTimer := {}
  dfbcStrategy : DfbcAttitudeRateStrategy := {}
  smcStrategy : SmcAccelerationStrategy := {}
  syncStrategyEntered : Bool := false
  trackingPositionHeld : Bool := false
  trackingFrozenHover : Setpoint := {}
  /-- The frozen target is a measured one, in local ENU. -/
  frozenFrame : trackingFrozenHover.coordinateFrame = 1

namespace Custom1State

variable [Libm] [Xgc2Math]

/-- A procedure of the leaf. -/
abbrev Custom1M := EStateM RuntimeError (Scope Custom1State)

section Scope

variable (scope : Scope Custom1State)

def currentTime : Double := scope.controller.currentTime

def shouldPublish : Bool :=
  scope.controller.custom1PublishPeriod ≤ currentTime scope - scope.leaf.lastPublishTime

def shouldDispatchNmpc : Bool :=
  if scope.leaf.requestInFlight then false
  else
    decide (scope.leaf.lastRequestTime ≤ 0) ||
      decide (scope.controller.config.nmpc.controlPeriod ≤
        currentTime scope - scope.leaf.lastRequestTime)

def shouldRunSynchronousStrategy (configuredPeriod : Double) : Bool :=
  let period := Double.max 1.0e-3 configuredPeriod
  decide (scope.leaf.lastPublishTime ≤ 0) ||
    decide (period ≤ currentTime scope - scope.leaf.lastPublishTime)

/-- A hover target at the measured world pose, in frame 1. -/
def measurementHoverSetpoint (controller : DroneController) : Setpoint :=
  let sensor := controller.sensorData
  let backend := controller.backend
  { x := controller.worldX
    y := controller.worldY
    z := controller.worldZ
    qx := SensorChecks.worldQx sensor backend
    qy := SensorChecks.worldQy sensor backend
    qz := SensorChecks.worldQz sensor backend
    qw := SensorChecks.worldQw sensor backend
    typeMask := kHoverPositionVelocityTypeMask
    coordinateFrame := 1 }

/-- Writes the shared setpoint and publishes it. -/
def publishSetpoint (setpoint : Setpoint) : Scope Custom1State :=
  let controller := { scope.controller with setpoint }
  { controller := controller.emitFlightEffect (.setpoint (currentTime scope))
    leaf := { scope.leaf with lastPublishTime := currentTime scope } }

/-- Publishes the present attitude target. -/
def publishAttitude : Scope Custom1State :=
  { controller := scope.controller.emitFlightEffect (.attitude (currentTime scope))
    leaf := { scope.leaf with lastPublishTime := currentTime scope } }

def publishCurrentHoverSetpoint : Scope Custom1State :=
  publishSetpoint scope (measurementHoverSetpoint scope.controller)

def publishCurrentHoverIfDue : Scope Custom1State :=
  if shouldPublish scope then publishCurrentHoverSetpoint scope else scope

/-- Freezes the hover target when the hold begins and repeats it until it ends. -/
def holdTrackingPosition : Scope Custom1State :=
  let scope :=
    if scope.leaf.trackingPositionHeld then scope
    else
      { scope with
        leaf := { scope.leaf with
          trackingFrozenHover := measurementHoverSetpoint scope.controller
          trackingPositionHeld := true
          frozenFrame := rfl } }
  publishSetpoint scope scope.leaf.trackingFrozenHover

def markReferenceFinished : Scope Custom1State :=
  { scope with
    leaf := { scope.leaf with
      referenceFinishEventPosted := true, requestInFlight := false, trackingArmed := false } }

def postReferenceFinished : Scope Custom1State :=
  if scope.leaf.referenceFinishEventPosted then publishCurrentHoverIfDue scope
  else
    let scope := publishCurrentHoverSetpoint (markReferenceFinished scope)
    { scope with controller := scope.controller.emitFlightSignal .referenceFinished }

def countFailure : Scope Custom1State :=
  { scope with
    leaf := { scope.leaf with consecutiveFailures := scope.leaf.consecutiveFailures + 1 } }

/-- The throttled wait logs change nothing but their timers. -/
def logNmpcWait : Scope Custom1State :=
  let (timer, _) := scope.leaf.nmpcWaitLogTimer.shouldRunEvery (currentTime scope) 1 true
  { scope with leaf := { scope.leaf with nmpcWaitLogTimer := timer } }

def logTrajectoryWait : Scope Custom1State :=
  let (timer, _) := scope.leaf.trajectoryWaitLogTimer.shouldRunEvery (currentTime scope) 1 true
  { scope with leaf := { scope.leaf with trajectoryWaitLogTimer := timer } }

def logStaleOutput : Scope Custom1State :=
  let (timer, _) :=
    scope.controller.nmpcStaleOutputLogTimer.shouldRunEvery (currentTime scope) 1 true
  { scope with controller := { scope.controller with nmpcStaleOutputLogTimer := timer } }

def setTrackingArmed (armed : Bool) : Scope Custom1State :=
  { scope with leaf := { scope.leaf with trackingArmed := armed } }

/-- The pass-through gate at the hover pose latched on entry. -/
def mayTakeSetpoint (sample : MpcTrajectoryState) : Bool :=
  let params := scope.controller.config.nmpc
  passThroughMayTakeSetpoint sample scope.leaf.hoverX scope.leaf.hoverY scope.leaf.hoverZ
    params.planHoverXyTol params.planHoverZTol scope.leaf.trackingArmed

/-- Opens a generation and forgets everything about earlier requests. -/
def onEnterSession : Scope Custom1State :=
  let controller := scope.controller.clearCustom1Request
  let results := controller.nmpcResultBuffer.beginGeneration
  { controller := { controller with
      nmpcResultBuffer := results
      nmpcStaleOutputLogTimer := controller.nmpcStaleOutputLogTimer.reset controller.currentTime }
    leaf := { scope.leaf with
      commandTime := controller.currentTime
      hoverX := controller.worldX
      hoverY := controller.worldY
      hoverZ := controller.worldZ
      trackingArmed := false
      controlGeneration := results.activeGeneration
      requestSequence := results.requestCounter
      inFlightSequence := 0
      consumedResultSequence := results.requestCounter
      requestInFlight := false
      lastRequestTime := 0
      requestDeadline := 0
      lastSuccessTime := 0
      lastPublishTime := 0
      consecutiveFailures := 0
      referenceFinishEventPosted := false
      syncStrategyEntered := false
      trackingPositionHeld := false
      trackingFrozenHover := {}
      frozenFrame := Setpoint.coordinateFrame_default } }

def clearReference : Scope Custom1State :=
  { scope with
    controller := { scope.controller with activeTrajectoryCache := ActiveTrajectoryCache.clear } }

def requestReference : Scope Custom1State :=
  { scope with
    controller := scope.controller.emitFlightEffect
      (.referenceActivation scope.leaf.commandTime) }

def setPublishPeriod (period : Double) : Scope Custom1State :=
  { scope with controller := { scope.controller with custom1PublishPeriod := period } }

/-- The cache-fed backends drop the stored reference and ask for a new one. -/
def onEnter : Scope Custom1State :=
  let config := scope.controller.config
  let scope := onEnterSession scope
  match config.trackingBackend with
  | .nmpc => requestReference (clearReference scope)
  | .dfbc =>
      let scope := clearReference scope
      let scope := { scope with
        leaf := { scope.leaf with dfbcStrategy := scope.leaf.dfbcStrategy.configure config } }
      if config.dfbc.referenceSource = .plannerSetpoint then
        { scope with controller := { scope.controller with mpcTrajectoryBuffer := {} } }
      else requestReference scope
  | .smc =>
      { scope with
        leaf := { scope.leaf with smcStrategy := scope.leaf.smcStrategy.configure config } }
  | .pvaSmc => setPublishPeriod scope 0.01
  | .px4Local => setPublishPeriod scope kLocalSetpointPublishInterval

def onExit : Scope Custom1State :=
  let backend := scope.controller.backend
  let leaf := { scope.leaf with
    nmpcWaitLogTimer := scope.leaf.nmpcWaitLogTimer.stop
    trajectoryWaitLogTimer := scope.leaf.trajectoryWaitLogTimer.stop
    trackingArmed := false
    requestInFlight := false }
  { controller := { scope.controller with
      nmpcResultBuffer :=
        scope.controller.nmpcResultBuffer.invalidateGeneration scope.leaf.controlGeneration }
    leaf :=
      match backend with
      | .nmpc => leaf
      | .dfbc => { leaf with dfbcStrategy := leaf.dfbcStrategy.exit, syncStrategyEntered := false }
      | .smc => { leaf with smcStrategy := leaf.smcStrategy.exit, syncStrategyEntered := false }
      | .pvaSmc => leaf
      | .px4Local => { leaf with syncStrategyEntered := false } }

end Scope

/-- The turn's time as a clock value. -/
def clockTime : Custom1M Time := do
  rethrow (Time.fromSec (currentTime (← get)))

/-- Promotes a pending planner sample; true when the active one changed. -/
def promote (now : Time) (backend : TrackingBackend) : Custom1M Bool := do
  let scope ← get
  let (buffer, switched) := promoteTrajectorySample scope.controller.mpcTrajectoryBuffer now
    backend scope.controller.config.px4LocalLift
  set { scope with controller := { scope.controller with mpcTrajectoryBuffer := buffer } }
  return switched

section Nmpc

/-- A backup target from the cached reference, in frame 1. -/
def backupSetpoint (reference : UavReferencePoint) : Setpoint :=
  { x := reference.position.x
    y := reference.position.y
    z := reference.position.z
    vx := reference.velocity.x
    vy := reference.velocity.y
    vz := reference.velocity.z
    typeMask := kHoverPositionVelocityTypeMask
    coordinateFrame := 1 }

def publishBackupSetpoint : Custom1M Unit := do
  let scope ← get
  let now ← clockTime
  match ← rethrow (scope.controller.activeTrajectoryCache.sample now) with
  | some reference => modify (publishSetpoint · (backupSetpoint reference))
  | none => modify publishCurrentHoverSetpoint

def horizonSampleSpan (config : ControllerConfig) : Double :=
  config.nmpc.predictionHorizon / .fin UavNmpcSolver.horizonSteps *
    .fin (UavNmpcSolver.horizonSteps + 1 : Nat)

def referenceWillFinishBeforeNextHorizon : Custom1M Bool := do
  let scope ← get
  let now ← clockTime
  match ← rethrow (scope.controller.activeTrajectoryCache.finiteTimeRemaining now) with
  | some remaining =>
      return decide (remaining ≤ horizonSampleSpan scope.controller.config + 1.0e-6)
  | none => return false

def referenceWillFinishBeforeNextSynchronousUpdate : Custom1M Bool := do
  let scope ← get
  let now ← clockTime
  match ← rethrow (scope.controller.activeTrajectoryCache.finiteTimeRemaining now) with
  | some remaining =>
      return decide (remaining ≤ Double.max 1.0e-3 scope.leaf.dfbcStrategy.period + 1.0e-6)
  | none => return false

/-- A generation that someone else closed is replaced by a fresh one. -/
def reopenGeneration (scope : Scope Custom1State) : Scope Custom1State :=
  if scope.controller.nmpcResultBuffer.isGenerationActive scope.leaf.controlGeneration then scope
  else
    let results := scope.controller.nmpcResultBuffer.beginGeneration
    { controller := { scope.controller with nmpcResultBuffer := results }
      leaf := { scope.leaf with
        controlGeneration := results.activeGeneration
        requestSequence := results.requestCounter
        consumedResultSequence := results.requestCounter
        requestInFlight := false
        inFlightSequence := 0
        lastRequestTime := 0 } }

/-- Remembers that the result was taken. -/
def takeResult (result : NmpcSolveResult) (scope : Scope Custom1State) : Scope Custom1State :=
  { scope with
    leaf := { scope.leaf with
      consumedResultSequence := result.sequence
      requestInFlight :=
        if result.sequence = scope.leaf.inFlightSequence then false
        else scope.leaf.requestInFlight } }

/-- The last target may be repeated for `resultTimeout` after it was consumed. -/
def mayRepeatTarget (scope : Scope Custom1State) : Bool :=
  decide (0 < scope.leaf.lastSuccessTime) &&
    decide (currentTime scope - scope.leaf.lastSuccessTime ≤
      scope.controller.config.nmpc.resultTimeout)

def consumeFailure (result : NmpcSolveResult) : Custom1M Unit := do
  if result.solverStatus = NmpcSolverStatus.kReferenceSamplingFailed then
    if ← referenceWillFinishBeforeNextHorizon then modify postReferenceFinished
    else do
      modify countFailure
      publishBackupSetpoint
  else do
    modify countFailure
    if mayRepeatTarget (← get) then modify publishAttitude else publishBackupSetpoint

def consumeSuccess (result : NmpcSolveResult) (scope : Scope Custom1State) :
    Scope Custom1State :=
  publishAttitude {
    controller := { scope.controller with attitudeRateTarget := result.target }
    leaf := { scope.leaf with
      consecutiveFailures := 0
      lastSuccessTime := currentTime scope } }

/-- A clock value that is not finite or negative makes every result stale. -/
def resultIsFresh (result : NmpcSolveResult) : Custom1M Bool := do
  let scope ← get
  if !(currentTime scope).isFinite || decide (currentTime scope < 0) then return false
  else
    let now ← clockTime
    return NmpcResultBuffer.isResultTimestampFresh result.stamp now
      scope.controller.config.nmpc.resultTimeout

/-- The result that this tick takes from the buffer: of the current generation and
of the request in flight. -/
def offeredResult (scope : Scope Custom1State) : Option NmpcSolveResult :=
  (scope.controller.nmpcResultBuffer.consumeNewerThan
    scope.leaf.consumedResultSequence).filter fun result =>
      decide (result.controlGeneration = scope.leaf.controlGeneration) &&
        decide (result.sequence = scope.leaf.inFlightSequence)

/-- The source's last test on the sequence cannot fail for an offered result, whose
sequence is the one in flight. -/
def consumeNmpcResult : Custom1M Unit := do
  match offeredResult (← get) with
  | none => return
  | some result => do
      modify (takeResult result)
      if ← resultIsFresh result then
        if result.success then modify (consumeSuccess result) else consumeFailure result
      else return

def giveUpDeadline : Custom1M Unit := do
  let scope ← get
  if scope.leaf.requestInFlight && decide (scope.leaf.requestDeadline < currentTime scope) then do
    modify fun scope => countFailure
      { scope with leaf := { scope.leaf with requestInFlight := false } }
    publishBackupSetpoint
  else return

def nextRequestTime (period currentTime lastRequestTime : Double) : Double :=
  if lastRequestTime ≤ 0 then currentTime
  else if period < currentTime - (lastRequestTime + period) then currentTime
  else lastRequestTime + period

def dispatchNmpcRequest (scope : Scope Custom1State) : Scope Custom1State :=
  let now := currentTime scope
  let params := scope.controller.config.nmpc
  let results := scope.controller.nmpcResultBuffer.reserveRequestSequence
  let controller := { scope.controller with nmpcResultBuffer := results }
  { controller := controller.emitFlightEffect
      (.nmpcRequest now results.requestCounter scope.leaf.controlGeneration)
    leaf := { scope.leaf with
      requestSequence := results.requestCounter
      inFlightSequence := results.requestCounter
      requestInFlight := true
      lastRequestTime := nextRequestTime params.controlPeriod now scope.leaf.lastRequestTime
      requestDeadline := now + params.solveTimeout } }

/-- The age of the last success is counted from its consumption. -/
def outputStale (scope : Scope Custom1State) : Bool :=
  let timeout := scope.controller.config.nmpc.resultTimeout
  decide (0 < scope.leaf.lastSuccessTime) && decide (0 < timeout) &&
    decide (timeout < currentTime scope - scope.leaf.lastSuccessTime)

def publishIfStale : Custom1M Unit := do
  if outputStale (← get) then do
    modify logStaleOutput
    if shouldPublish (← get) then publishBackupSetpoint else return
  else return

def dispatchIfDue (scope : Scope Custom1State) : Scope Custom1State :=
  if shouldDispatchNmpc scope then dispatchNmpcRequest scope else scope

/-- Waits in hover until a reference is cached. -/
def waitForReference (scope : Scope Custom1State) : Scope Custom1State :=
  publishCurrentHoverIfDue (logNmpcWait (setTrackingArmed scope false))

/-- The rest of an NMPC tick, once a result has been taken. -/
def superviseRequests : Custom1M Unit := do
  giveUpDeadline
  if !(← get).controller.activeTrajectoryCache.valid then modify waitForReference
  else do
    modify (setTrackingArmed · true)
    if ← referenceWillFinishBeforeNextHorizon then modify postReferenceFinished
    else do
      publishIfStale
      modify dispatchIfDue

def handleNmpcEventMode : Custom1M Unit := do
  modify reopenGeneration
  consumeNmpcResult
  superviseRequests

end Nmpc

section Synchronous

/-- Enters the geometric strategy once its inputs are ready. -/
def enterDfbcStrategy (now : Time) (scope : Scope Custom1State) : Scope Custom1State :=
  let strategy := scope.leaf.dfbcStrategy.configure scope.controller.config
  if scope.leaf.syncStrategyEntered then
    { scope with leaf := { scope.leaf with dfbcStrategy := strategy } }
  else
    let (strategy, entered) := strategy.enter scope.controller.sensorData now
    { scope with
      leaf := { scope.leaf with dfbcStrategy := strategy, syncStrategyEntered := entered } }

/-- The reference that a lifted planner sample stands for. -/
def streamedReference (point : Setpoint) : UavReferencePoint :=
  { position := ⟨point.x, point.y, point.z⟩
    velocity := ⟨point.vx, point.vy, point.vz⟩
    acceleration := ⟨point.ax, point.ay, point.az⟩
    yaw := quaternionToYaw point.qx point.qy point.qz point.qw
    yawRate := if positionTargetIgnored point.typeMask kIgnoreYawRateBit then 0 else point.yawRate }

/-- The streamed reference of this tick, unless the tick only holds or hovers. -/
def streamingReference (now : Time) : Custom1M (Option UavReferencePoint) := do
  let _ ← promote now .dfbc
  let scope ← get
  let config := scope.controller.config
  let sample := scope.controller.mpcTrajectoryBuffer.active
  let lifted ← rethrow (liftForBackend sample now config.planningPeriod config.localTypeMask
    config.enableYawControl .dfbc config.px4LocalLift)
  if !lifted.success || !mayTakeSetpoint scope sample then do
    modify fun scope =>
      if scope.leaf.trackingArmed || scope.leaf.trackingPositionHeld then
        if shouldPublish scope then holdTrackingPosition scope else scope
      else publishCurrentHoverIfDue scope
    return none
  else do
    modify (setTrackingArmed · true)
    return some (streamedReference lifted.setpoint)

/-- True when a cached reference is to be followed in this tick. -/
def cachedReferenceReady : Custom1M Bool := do
  if !(← get).controller.activeTrajectoryCache.valid then do
    modify waitForReference
    return false
  else do
    modify (setTrackingArmed · true)
    if ← referenceWillFinishBeforeNextSynchronousUpdate then do
      modify postReferenceFinished
      return false
    else return true

/-- Runs the geometric law on a reference and publishes its result. -/
def runDfbcStrategy (now : Time) (streaming : Bool) (reference : UavReferencePoint) :
    Custom1M Unit := do
  let scope ← get
  if !scope.leaf.syncStrategyEntered then modify publishCurrentHoverSetpoint
  else do
    let (strategy, outcome) := scope.leaf.dfbcStrategy.update
      { sensor := scope.controller.sensorData, reference, now }
    modify fun scope => { scope with leaf := { scope.leaf with dfbcStrategy := strategy } }
    let result ← rethrow outcome
    if !result.success then do
      modify fun scope => logTrajectoryWait (countFailure scope)
      if streaming then modify holdTrackingPosition else publishBackupSetpoint
    else
      modify fun scope => publishAttitude {
        controller := { scope.controller with attitudeRateTarget := result.attitudeRateTarget }
        leaf := { scope.leaf with
          consecutiveFailures := 0
          lastSuccessTime := currentTime scope
          trackingPositionHeld :=
            if streaming then false else scope.leaf.trackingPositionHeld } }

def followStreamedReference (now : Time) : Custom1M Unit := do
  match ← streamingReference now with
  | none => return
  | some reference => do
      let scope ← get
      if shouldRunSynchronousStrategy scope scope.leaf.dfbcStrategy.period then
        runDfbcStrategy now true reference
      else return

def followCachedReference (now : Time) : Custom1M Unit := do
  if ← cachedReferenceReady then do
    let scope ← get
    if shouldRunSynchronousStrategy scope scope.leaf.dfbcStrategy.period then do
      match ← rethrow (scope.controller.activeTrajectoryCache.sample now) with
      | none => modify publishCurrentHoverSetpoint
      | some reference => runDfbcStrategy now false reference
    else return
  else return

def handleSynchronousAttitudeRateMode : Custom1M Unit := do
  let now ← clockTime
  modify (enterDfbcStrategy now)
  if (← get).controller.config.dfbc.referenceSource = .plannerSetpoint then
    followStreamedReference now
  else followCachedReference now

end Synchronous

section Smc

/-- Outside the effective window: hold once armed, hover before. -/
def smcWithoutReference (scope : Scope Custom1State) : Scope Custom1State :=
  if scope.leaf.trackingArmed && !scope.leaf.trackingPositionHeld then
    holdTrackingPosition (logTrajectoryWait scope)
  else if scope.leaf.trackingPositionHeld then
    if shouldPublish scope then publishSetpoint scope scope.leaf.trackingFrozenHover else scope
  else publishCurrentHoverIfDue (logTrajectoryWait scope)

def enterSmcStrategy (scope : Scope Custom1State) : Scope Custom1State :=
  if scope.leaf.syncStrategyEntered then scope
  else
    let (strategy, entered) := scope.leaf.smcStrategy.enter scope.controller.sensorData
    { scope with
      leaf := { scope.leaf with smcStrategy := strategy, syncStrategyEntered := entered } }

def noteSmcSuccess (scope : Scope Custom1State) : Scope Custom1State :=
  { scope with
    leaf := { scope.leaf with
      consecutiveFailures := 0
      lastSuccessTime := currentTime scope
      trackingPositionHeld := false } }

def runSmcStrategy (now : Time) (sample : MpcTrajectoryState) (lifted : Setpoint) :
    Custom1M Unit := do
  let scope ← get
  let reference : UavReferencePoint := {
    position := ⟨lifted.x, lifted.y, lifted.z⟩
    velocity := ⟨lifted.vx, lifted.vy, lifted.vz⟩
    acceleration := ⟨lifted.ax, lifted.ay, lifted.az⟩ }
  let (strategy, outcome) := (scope.leaf.smcStrategy.configure scope.controller.config).update
    { sensor := scope.controller.sensorData, reference, now
      stamp := sample.planningTime, typeMask := lifted.typeMask }
  modify fun scope => { scope with leaf := { scope.leaf with smcStrategy := strategy } }
  let result ← rethrow outcome
  if !result.success || result.outputKind != .localSetpoint then
    modify fun scope => holdTrackingPosition (logTrajectoryWait (countFailure scope))
  else
    modify fun scope => publishSetpoint (noteSmcSuccess scope) result.localSetpoint

def handleSmcMode : Custom1M Unit := do
  let now ← clockTime
  modify enterSmcStrategy
  let _ ← promote now .smc
  let scope ← get
  let config := scope.controller.config
  let sample := scope.controller.mpcTrajectoryBuffer.active
  let lifted ← rethrow (liftForBackend sample now config.planningPeriod config.localTypeMask
    false .smc config.px4LocalLift)
  if !lifted.success || !mayTakeSetpoint scope sample then modify smcWithoutReference
  else do
    modify (setTrackingArmed · true)
    let scope ← get
    if !scope.leaf.syncStrategyEntered ||
        !shouldRunSynchronousStrategy scope config.nmpc.controlPeriod then
      modify fun scope =>
        if scope.leaf.syncStrategyEntered then scope else publishCurrentHoverIfDue scope
    else runSmcStrategy now sample lifted.setpoint

def handlePvaSmcMode : Custom1M Unit := do
  let now ← clockTime
  let switched ← promote now .pvaSmc
  let scope ← get
  let config := scope.controller.config
  let reference := scope.controller.mpcTrajectoryBuffer.active
  match scope.controller.sensorData.pairedLocalPv with
  | none => return
  | some paired =>
      if !reference.isValid || !switched && !shouldPublish scope then return
      else do
        let lifted ← rethrow
          (liftWorldLocal reference now config.localTypeMask config.enableYawControl)
        modify (publishSetpoint · (pvaSmcSetpoint lifted paired config))

end Smc

/-- The planner's sample passes through unchanged, in the frame it declares. -/
def handlePx4LocalPassThrough : Custom1M Unit := do
  let now ← clockTime
  let _ ← promote now .px4Local
  let scope ← get
  let config := scope.controller.config
  let sample := scope.controller.mpcTrajectoryBuffer.active
  let lifted ← rethrow (liftForBackend sample now config.planningPeriod config.localTypeMask
    config.enableYawControl .px4Local config.px4LocalLift)
  if !mayTakeSetpoint scope sample then
    modify fun scope => publishCurrentHoverIfDue (logTrajectoryWait (setTrackingArmed scope false))
  else if !lifted.success then modify publishCurrentHoverIfDue
  else
    modify fun scope =>
      let scope := setTrackingArmed scope true
      if shouldPublish scope then publishSetpoint scope lifted.setpoint else scope

def onTick : Custom1M Unit := do
  match (← get).controller.backend with
  | .nmpc => handleNmpcEventMode
  | .dfbc => handleSynchronousAttitudeRateMode
  | .smc => handleSmcMode
  | .pvaSmc => handlePvaSmcMode
  | .px4Local => handlePx4LocalPassThrough

section Wake

variable (scope : Scope Custom1State)

def publishDue : Option Deadline :=
  some (controllerDueAt scope.leaf.lastPublishTime scope.controller.custom1PublishPeriod)

/-- Before the first output the strategy runs at once, but not again and again at time zero. -/
def synchronousDue (configuredPeriod : Double) : Option Deadline :=
  let period := Double.max 1.0e-3 configuredPeriod
  let now := currentTime scope
  if scope.leaf.lastPublishTime ≤ 0 then
    if 0 < now then some { due := now } else some (controllerDueAt now period)
  else some (controllerDueAt scope.leaf.lastPublishTime period)

/-- The start of the pending planner segment. -/
def activationWake : Except RuntimeError (Option Deadline) := do
  let config := scope.controller.config
  let buffer := scope.controller.mpcTrajectoryBuffer
  if buffer.hasPending && usesStageEffectiveTime config.trackingBackend config.px4LocalLift &&
      (config.trackingBackend != .pvaSmc || scope.controller.sensorData.pairedLocalPv.isSome) then
    return some (← buffer.pending.planningTime.toSecAtOrAfter)
  else return none

/-- The nanosecond after the window of the active planner segment. -/
def expiryWake (now : Time) : Except RuntimeError (Option Deadline) := do
  let config := scope.controller.config
  let sample := scope.controller.mpcTrajectoryBuffer.active
  if sample.isValid && usesStageEffectiveTime config.trackingBackend config.px4LocalLift &&
      config.trackingBackend != .pvaSmc then
    let periodNs := segmentPeriodNs config.planningPeriod
    if 0 ≤ periodNs then
      let expires ← sample.planningTime.add (← Duration.fromNSec (periodNs + 1))
      if now < expires then return some (← expires.toSecAtOrAfter) else return none
    else return none
  else return none

def pvaSmcWakes : List (Option Deadline) :=
  if scope.controller.mpcTrajectoryBuffer.active.isValid &&
      scope.controller.sensorData.pairedLocalPv.isSome then
    [publishDue scope]
  else []

def px4LocalWakes : List (Option Deadline) :=
  [publishDue scope,
    if mayTakeSetpoint scope scope.controller.mpcTrajectoryBuffer.active then none
    else scope.leaf.trajectoryWaitLogTimer.dueAt 1]

/-- The active segment can be tracked at a time: the window, the axes and the gate. -/
def segmentReady (now : Time) : Except RuntimeError Bool := do
  let sample := scope.controller.mpcTrajectoryBuffer.active
  return (← stageWindowOpen sample now scope.controller.config.planningPeriod) &&
    smcWorldPvaAvailable sample.typeMask sample.coordinateFrame && mayTakeSetpoint scope sample

def smcWakes (now : Time) : Except RuntimeError (List (Option Deadline)) := do
  let ready ← segmentReady scope now
  return [
    if ready && scope.leaf.syncStrategyEntered then
      synchronousDue scope scope.controller.config.nmpc.controlPeriod
    else publishDue scope,
    if !ready && !scope.leaf.trackingArmed && !scope.leaf.trackingPositionHeld then
      scope.leaf.trajectoryWaitLogTimer.dueAt 1
    else none]

def streamingWakes (now : Time) : Except RuntimeError (List (Option Deadline)) := do
  if ← segmentReady scope now then
    return [synchronousDue scope scope.leaf.dfbcStrategy.period]
  else return [publishDue scope]

def cachedWakes (now : Time) : Except RuntimeError (List (Option Deadline)) := do
  let cache := scope.controller.activeTrajectoryCache
  if cache.valid then
    let period := scope.leaf.dfbcStrategy.period
    return [synchronousDue scope period,
      ← cache.nextTimeRemainingAtMost now (Double.max 1.0e-3 period + 1.0e-6)]
  else return [publishDue scope, scope.leaf.nmpcWaitLogTimer.dueAt 1]

/-- The moment at which the last success becomes stale, or the next backup after that. -/
def staleWakes : List (Option Deadline) :=
  let timeout := scope.controller.config.nmpc.resultTimeout
  if 0 < scope.leaf.lastSuccessTime ∧ 0 < timeout then
    let stale := controllerStrictDueAt scope.leaf.lastSuccessTime timeout
    if stale.Later (currentTime scope) then [some stale]
    else [publishDue scope, scope.controller.nmpcStaleOutputLogTimer.dueAt 1]
  else []

def dispatchWake : Option Deadline :=
  let period := scope.controller.config.nmpc.controlPeriod
  let now := currentTime scope
  if scope.leaf.requestInFlight then none
  else if scope.leaf.lastRequestTime ≤ 0 then
    if 0 < now then some { due := now } else some (controllerDueAt now period)
  else some (controllerDueAt scope.leaf.lastRequestTime period)

def nmpcWakes (now : Time) : Except RuntimeError (List (Option Deadline)) := do
  let giveUp :=
    if scope.leaf.requestInFlight then some (controllerStrictDueAt scope.leaf.requestDeadline 0)
    else none
  let cache := scope.controller.activeTrajectoryCache
  if !cache.valid then
    return [giveUp, publishDue scope, scope.leaf.nmpcWaitLogTimer.dueAt 1]
  else
    let finish ← cache.nextTimeRemainingAtMost now
      (horizonSampleSpan scope.controller.config + 1.0e-6)
    return giveUp :: finish :: staleWakes scope ++ [dispatchWake scope]

def backendWakes (now : Time) : Except RuntimeError (List (Option Deadline)) :=
  match scope.controller.backend with
  | .pvaSmc => return pvaSmcWakes scope
  | .px4Local => return px4LocalWakes scope
  | .smc => smcWakes scope now
  | .dfbc =>
      if scope.controller.config.dfbc.referenceSource = .plannerSetpoint then
        streamingWakes scope now
      else cachedWakes scope now
  | .nmpc => nmpcWakes scope now

def nextWake : Except RuntimeError (Option Deadline) := do
  let now ← Time.fromSec (currentTime scope)
  let activation ← activationWake scope
  let expiry ← expiryWake scope now
  return Deadline.earliest (activation :: expiry :: (← backendWakes scope now))

end Wake

end Custom1State

end MultirotorController
