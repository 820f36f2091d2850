import MultirotorController.Uav.DroneController

/-!
# Landing

Landing descends at a rate chosen by altitude and ends only by a confirmed
touchdown: enough consecutive settled frames of active feedback, and then a fresh
flight-controller state that reports the motors disarmed. The timeout is only
reported.
-/

namespace MultirotorController

open DroneController

inductive ExitReason where
  | unknown
  | touchdown
deriving DecidableEq, Repr

structure LandingState where
  landingSetpoint : Setpoint := {}
  initialAltitude : Double := 0
  logTimer : ControllerTimer := {}
  setpointPublishTimer : ControllerTimer := {}
  maxLandingDuration : Double := 60.0
  touchdownEventPosted : Bool := false
  timeoutReported : Bool := false
  disarmRequested : Bool := false
  confirmedLandedFrames : Nat := 0
  exitReason : ExitReason := .unknown
  /-- No method writes the frame of the landing setpoint. -/
  worldFrame : landingSetpoint.coordinateFrame = 1
deriving DecidableEq, Repr

namespace LandingState

def landingVelocityTypeMask : UInt16 := 0b110111000111
def landingAltitudeThreshold : Double := 0.3
def landingVzHighAltitude : Double := -0.2
def landingVzLowAltitude : Double := -0.9
def groundAltitude : Double := 0.1
def landingTimeout : Double := 60.0
def touchdownVelocityThreshold : Double := 0.1
def landingTimeMargin : Double := 5.0
def consecutiveSettledFrames : Nat := 5

def getDescentVelocity (altitude : Double) : Double :=
  if landingAltitudeThreshold < altitude then landingVzHighAltitude else landingVzLowAltitude

/-- The altitude over the slower descent rate, with a margin, at most the timeout. -/
def landingDurationFrom (initialAltitude : Double) : Double :=
  let slowestDescentRate :=
    Double.max (Double.min landingVzHighAltitude.abs landingVzLowAltitude.abs) 1.0e-3
  let positiveInitialAltitude := Double.max initialAltitude 0
  Double.min (positiveInitialAltitude / slowestDescentRate + landingTimeMargin) landingTimeout

variable (scope : Scope LandingState)

def configureLandingSetpoint : Scope LandingState :=
  { scope with
    leaf.landingSetpoint := {
      scope.leaf.landingSetpoint with
      typeMask := landingVelocityTypeMask
      x := 0
      y := 0
      z := 0
      vx := 0
      vy := 0
      vz := getDescentVelocity scope.controller.worldZ
      ax := 0
      ay := 0
      az := 0
      qx := 0
      qy := 0
      qz := 0
      qw := 1
      yawRate := 0 } }

def emitLandingSetpoint : Scope LandingState :=
  let controller := { scope.controller with setpoint := scope.leaf.landingSetpoint }
  { scope with controller := controller.emitFlightEffect (.setpoint controller.currentTime) }

def onEnter : Scope LandingState :=
  let controller := scope.controller.clearCustom1Request
  let clock := controller.currentTime
  let scope : Scope LandingState := {
    controller
    leaf := { scope.leaf with
      initialAltitude := controller.worldZ
      maxLandingDuration := landingDurationFrom controller.worldZ } }
  let scope := emitLandingSetpoint (configureLandingSetpoint scope)
  { scope with
    leaf := { scope.leaf with
      setpointPublishTimer := scope.leaf.setpointPublishTimer.start clock
      logTimer := scope.leaf.logTimer.start clock
      touchdownEventPosted := false
      timeoutReported := false
      disarmRequested := false
      confirmedLandedFrames := 0
      exitReason := .unknown } }

def updateDescentVelocityIfNeeded : Scope LandingState :=
  if scope.controller.isWorldPoseNew then
    { scope with leaf.landingSetpoint.vz := getDescentVelocity scope.controller.worldZ }
  else scope

def publishSetpointIfDue : Scope LandingState :=
  let (timer, due) := scope.leaf.setpointPublishTimer.shouldRunEvery
    scope.controller.currentTime kLocalSetpointPublishInterval true
  let scope := { scope with leaf.setpointPublishTimer := timer }
  if due then emitLandingSetpoint scope else scope

def logStatusIfDue : Scope LandingState :=
  let clock := scope.controller.currentTime
  if scope.leaf.logTimer.elapsed clock < 1 then scope
  else { scope with leaf.logTimer := scope.leaf.logTimer.reset clock }

/-- The timeout is diagnostic; it is not a touchdown. -/
def reportTimeoutIfNeeded : Scope LandingState :=
  if scope.leaf.timeoutReported then scope
  else if scope.controller.flightElapsed < scope.leaf.maxLandingDuration then scope
  else { scope with leaf.timeoutReported := true }

def landingFeedbackActive (controller : DroneController) : Bool :=
  let sensor := controller.sensorData
  let active :=
    if trackingUsesFusedEstimate controller.backend then SensorChecks.isControlStateActive sensor
    else sensor.localPosStats.isActive && sensor.localVelocityStats.isActive
  active && controller.worldZ.isFinite && controller.worldVz.isFinite

def velocitySettled (controller : DroneController) : Bool :=
  controller.worldVz.abs ≤ touchdownVelocityThreshold

def altitudeSettled (controller : DroneController) : Bool :=
  controller.worldZ ≤ groundAltitude

def updateTouchdownConfirmation : Scope LandingState :=
  let controller := scope.controller
  if scope.leaf.touchdownEventPosted then scope
  else if !landingFeedbackActive controller then { scope with leaf.confirmedLandedFrames := 0 }
  else if !controller.isWorldPoseNew then scope
  else if !velocitySettled controller || !altitudeSettled controller then
    { scope with leaf.confirmedLandedFrames := 0 }
  else
    { scope with
      leaf.confirmedLandedFrames :=
        countFrame consecutiveSettledFrames scope.leaf.confirmedLandedFrames }

def postTouchdownOnce : Scope LandingState :=
  let controller := scope.controller
  let sensor := controller.sensorData
  if scope.leaf.touchdownEventPosted ∨
      scope.leaf.confirmedLandedFrames < consecutiveSettledFrames then
    scope
  else if !landingFeedbackActive controller || !sensor.stateStats.isActive ||
      !SensorChecks.isFcuConnected sensor then
    scope
  else if !SensorChecks.isFcuArmed sensor then
    -- A cached armed=false is not an acknowledgement.
    if !sensor.stateStats.isNew then scope
    else
      { controller := controller.emitFlightSignal .touchdown
        leaf := { scope.leaf with touchdownEventPosted := true, exitReason := .touchdown } }
  else if !scope.leaf.disarmRequested then
    { controller := controller.emitFlightEffect (.armRequest controller.currentTime false)
      leaf := { scope.leaf with disarmRequested := true } }
  else scope

/-- The part of a tick that does not decide the touchdown. -/
def descend : Scope LandingState :=
  reportTimeoutIfNeeded (logStatusIfDue
    (publishSetpointIfDue (updateDescentVelocityIfNeeded scope)))

def onTick : Scope LandingState :=
  postTouchdownOnce (updateTouchdownConfirmation (descend scope))

def onExit : Scope LandingState :=
  { scope with
    leaf := { scope.leaf with
      logTimer := scope.leaf.logTimer.stop
      setpointPublishTimer := scope.leaf.setpointPublishTimer.stop } }

def nextWake : Option Deadline :=
  Deadline.earlier (scope.leaf.setpointPublishTimer.dueAt kLocalSetpointPublishInterval)
    (scope.leaf.logTimer.dueAt 1)

def timeoutAfterEntry : Option Double :=
  if scope.leaf.timeoutReported then none else some scope.leaf.maxLandingDuration

section Spec

/-- The frame counter after an update with the given snapshot. -/
def nextLandedFrames (controller : DroneController) (count : Nat) : Nat :=
  if !landingFeedbackActive controller then 0
  else if !controller.isWorldPoseNew then count
  else if !velocitySettled controller || !altitudeSettled controller then 0
  else countFrame consecutiveSettledFrames count

/-- What a touchdown needs besides the frames: live feedback and a connected flight
controller whose fresh state says disarmed. -/
def disarmAcknowledged (controller : DroneController) : Bool :=
  landingFeedbackActive controller && controller.sensorData.stateStats.isActive &&
    SensorChecks.isFcuConnected controller.sensorData &&
    !SensorChecks.isFcuArmed controller.sensorData && controller.sensorData.stateStats.isNew

/-- A counter above zero was settled by this snapshot or kept without a new pose. -/
theorem worldZ_le_of_nextLandedFrames {controller : DroneController} {count : Nat}
    (counted : 0 < nextLandedFrames controller count) :
    controller.worldZ ≤ groundAltitude ∨ controller.isWorldPoseNew = false ∧ 0 < count := by
  unfold nextLandedFrames at counted
  split at counted
  · cases counted
  · split at counted
    next old => exact .inr ⟨by simpa using old, counted⟩
    · split at counted
      · cases counted
      next settled => exact .inl (by simp_all [altitudeSettled])

/-- Equal circumstances give equal answers. -/
theorem nextLandedFrames_congr {before after : DroneController}
    (config : after.config = before.config) (sensorData : after.sensorData = before.sensorData)
    (count : Nat) : nextLandedFrames after count = nextLandedFrames before count := by
  cases before
  cases after
  cases config
  cases sensorData
  rfl

theorem disarmAcknowledged_congr {before after : DroneController}
    (config : after.config = before.config) (sensorData : after.sensorData = before.sensorData) :
    disarmAcknowledged after = disarmAcknowledged before := by
  cases before
  cases after
  cases config
  cases sensorData
  rfl

theorem onEnter_plain :
    PlainStep (·.isSetpoint) (fun _ => False) scope.controller (onEnter scope).controller :=
  .via scope.controller.clearCustom1Request (.setCustom1Requested _ false)
    (.publish _ _ rfl (.inr scope.leaf.worldFrame))

theorem descend_plain :
    PlainStep (·.isSetpoint) (fun _ => False) scope.controller (descend scope).controller := by
  dsimp only [descend, reportTimeoutIfNeeded, logStatusIfDue, publishSetpointIfDue,
    updateDescentVelocityIfNeeded, emitLandingSetpoint]
  repeat' split
  all_goals first | exact .refl _ | exact .publish _ _ rfl (.inr scope.leaf.worldFrame)

theorem descend_touchdownEventPosted :
    (descend scope).leaf.touchdownEventPosted = scope.leaf.touchdownEventPosted := by
  dsimp only [descend, reportTimeoutIfNeeded, logStatusIfDue, publishSetpointIfDue,
    updateDescentVelocityIfNeeded, emitLandingSetpoint]
  repeat' split
  all_goals rfl

theorem descend_confirmedLandedFrames :
    (descend scope).leaf.confirmedLandedFrames = scope.leaf.confirmedLandedFrames := by
  dsimp only [descend, reportTimeoutIfNeeded, logStatusIfDue, publishSetpointIfDue,
    updateDescentVelocityIfNeeded, emitLandingSetpoint]
  repeat' split
  all_goals rfl

/-- Before the touchdown is posted the counter follows the snapshot alone. -/
theorem updateTouchdownConfirmation_spec (waiting : scope.leaf.touchdownEventPosted = false) :
    updateTouchdownConfirmation scope =
      { scope with
        leaf.confirmedLandedFrames :=
          nextLandedFrames scope.controller scope.leaf.confirmedLandedFrames } := by
  obtain ⟨controller, leaf⟩ := scope
  cases leaf
  cases waiting
  simp only [updateTouchdownConfirmation, nextLandedFrames, Bool.false_eq_true, if_false]
  repeat' split
  all_goals rfl

theorem postTouchdownOnce_plain :
    PlainStep
      (fun effect => effect.isDisarm ∧
        consecutiveSettledFrames ≤ scope.leaf.confirmedLandedFrames)
      (· = .touchdown) scope.controller (postTouchdownOnce scope).controller := by
  dsimp only [postTouchdownOnce]
  split
  · exact .refl _
  next open_ =>
    have counted := Nat.le_of_not_lt fun few => open_ (.inr few)
    repeat' split
    · exact .refl _
    · exact .refl _
    · exact .emitFlightSignal _ rfl
    · exact .emitFlightEffect _ ⟨rfl, counted⟩
    · exact .refl _

/-- The touchdown is posted exactly on enough frames and an acknowledged disarm. -/
theorem postTouchdownOnce_signals (waiting : scope.leaf.touchdownEventPosted = false) :
    (postTouchdownOnce scope).controller.signals = scope.controller.signals ++
      if consecutiveSettledFrames ≤ scope.leaf.confirmedLandedFrames ∧
          disarmAcknowledged scope.controller then [.touchdown]
      else [] := by
  by_cases counted : consecutiveSettledFrames ≤ scope.leaf.confirmedLandedFrames
  · simp only [postTouchdownOnce, disarmAcknowledged, waiting, Nat.not_lt.mpr counted, counted]
    repeat' split
    all_goals simp_all [emitFlightSignal, emitFlightEffect]
  · simp [postTouchdownOnce, Nat.lt_of_not_le counted, counted]

theorem postTouchdownOnce_touchdownEventPosted
    (waiting : scope.leaf.touchdownEventPosted = false) :
    (postTouchdownOnce scope).leaf.touchdownEventPosted =
      decide (consecutiveSettledFrames ≤ scope.leaf.confirmedLandedFrames ∧
        disarmAcknowledged scope.controller) := by
  by_cases counted : consecutiveSettledFrames ≤ scope.leaf.confirmedLandedFrames
  · simp only [postTouchdownOnce, disarmAcknowledged, waiting, Nat.not_lt.mpr counted, counted]
    repeat' split
    all_goals simp_all <;> grind
  · simp [postTouchdownOnce, Nat.lt_of_not_le counted, counted, waiting]

theorem postTouchdownOnce_confirmedLandedFrames :
    (postTouchdownOnce scope).leaf.confirmedLandedFrames = scope.leaf.confirmedLandedFrames := by
  dsimp only [postTouchdownOnce]
  repeat' split
  all_goals rfl

@[simp] theorem updateTouchdownConfirmation_controller :
    (updateTouchdownConfirmation scope).controller = scope.controller := by
  dsimp only [updateTouchdownConfirmation]
  repeat' split
  all_goals rfl

theorem updateTouchdownConfirmation_touchdownEventPosted :
    (updateTouchdownConfirmation scope).leaf.touchdownEventPosted =
      scope.leaf.touchdownEventPosted := by
  dsimp only [updateTouchdownConfirmation]
  repeat' split
  all_goals rfl

/-- A disarm is emitted only with enough settled frames. -/
theorem onTick_plain :
    PlainStep
      (fun effect => effect.isSetpoint ∨ effect.isDisarm ∧
        consecutiveSettledFrames ≤ (onTick scope).leaf.confirmedLandedFrames)
      (· = .touchdown) scope.controller (onTick scope).controller := by
  have posted := postTouchdownOnce_plain (updateTouchdownConfirmation (descend scope))
  rw [updateTouchdownConfirmation_controller] at posted
  rw [onTick, postTouchdownOnce_confirmedLandedFrames]
  exact ((descend_plain scope).mono (fun _ published => .inl published)
    fun _ none => none.elim).trans (posted.mono (fun _ disarm => .inr disarm) fun _ => id)

section Waiting

variable (waiting : scope.leaf.touchdownEventPosted = false)

include waiting

theorem onTick_confirmedLandedFrames :
    (onTick scope).leaf.confirmedLandedFrames =
      nextLandedFrames scope.controller scope.leaf.confirmedLandedFrames := by
  have descent := descend_plain scope
  rw [onTick, postTouchdownOnce_confirmedLandedFrames, updateTouchdownConfirmation_spec _
    ((descend_touchdownEventPosted scope).trans waiting), descend_confirmedLandedFrames]
  exact nextLandedFrames_congr descent.config descent.sensorData _

theorem onTick_signals :
    (onTick scope).controller.signals = scope.controller.signals ++
      if consecutiveSettledFrames ≤ (onTick scope).leaf.confirmedLandedFrames ∧
          disarmAcknowledged scope.controller then [.touchdown]
      else [] := by
  have descent := descend_plain scope
  have quiet : (descend scope).controller.signals = scope.controller.signals := by
    obtain ⟨new, appended, none⟩ := descent.signals
    rw [appended, List.eq_nil_iff_forall_not_mem.mpr none, List.append_nil]
  rw [onTick, postTouchdownOnce_signals _ ((updateTouchdownConfirmation_touchdownEventPosted
      _).trans ((descend_touchdownEventPosted scope).trans waiting)),
    postTouchdownOnce_confirmedLandedFrames, updateTouchdownConfirmation_controller, quiet,
    disarmAcknowledged_congr descent.config descent.sensorData]

theorem onTick_touchdownEventPosted :
    (onTick scope).leaf.touchdownEventPosted =
      decide (consecutiveSettledFrames ≤ (onTick scope).leaf.confirmedLandedFrames ∧
        disarmAcknowledged scope.controller) := by
  have descent := descend_plain scope
  rw [onTick, postTouchdownOnce_touchdownEventPosted _
      ((updateTouchdownConfirmation_touchdownEventPosted _).trans
        ((descend_touchdownEventPosted scope).trans waiting)),
    postTouchdownOnce_confirmedLandedFrames, updateTouchdownConfirmation_controller,
    disarmAcknowledged_congr descent.config descent.sensorData]

end Waiting

end Spec

end LandingState

end MultirotorController
