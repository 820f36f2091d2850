import MultirotorController.Lib.Frames
import MultirotorController.Uav.FlightState

/-!
# Confirmation by consecutive frames

Five leaves wait for agreeing frames of a stream. Each reads the stream and counts
in its own function; here they are read as counters of frames, so that what is
known about such counters applies to all of them. Only Landing awaits more than
the frames: a fresh flight-controller state that reports the motors disarmed.
-/

namespace MultirotorController

open Frames

/-- What a leaf waits for. -/
inductive Confirmation where
  | altctl
  | offboard
  | armed
  | altitude
  | touchdown
deriving DecidableEq, Repr

namespace Confirmation

def counter : Confirmation → Counter
  | altctl => ⟨TakeoffInitState.requiredAltctlFrames, false⟩
  | offboard => ⟨TakeoffOffboardRequestState.requiredOffboardFrames, false⟩
  | armed => ⟨TakeoffArmRequestState.requiredArmFrames, false⟩
  | altitude => ⟨TakeoffAscendingState.consecutiveSettledFrames, false⟩
  | touchdown => ⟨LandingState.consecutiveSettledFrames, true⟩

/-- What the leaf reads when it ticks. -/
def view (controller : DroneController) : Confirmation → View
  | altctl =>
      { live := true
        fresh := controller.sensorData.stateStats.isNew
        agrees := decide (controller.sensorData.fcuMode = "ALTCTL")
        acknowledged := false }
  | offboard =>
      { live := true
        fresh := controller.sensorData.stateStats.isNew
        agrees := decide (controller.sensorData.fcuMode = "OFFBOARD")
        acknowledged := false }
  | armed =>
      { live := true
        fresh := controller.sensorData.stateStats.isNew
        agrees := controller.sensorData.fcuArmed
        acknowledged := false }
  | altitude =>
      { live := true
        fresh := controller.isWorldPoseNew
        agrees := TakeoffAscendingState.altitudeSettled controller
        acknowledged := false }
  | touchdown =>
      { live := LandingState.landingFeedbackActive controller
        fresh := controller.isWorldPoseNew
        agrees := LandingState.velocitySettled controller &&
          LandingState.altitudeSettled controller
        acknowledged := controller.sensorData.stateStats.isActive &&
          SensorChecks.isFcuConnected controller.sensorData &&
          !SensorChecks.isFcuArmed controller.sensorData &&
          controller.sensorData.stateStats.isNew }

/-- The view reads the configuration, the snapshot and, for the altitude, the setpoint. -/
theorem view_congr {before after : DroneController} (config : after.config = before.config)
    (sensorData : after.sensorData = before.sensorData) (confirmation : Confirmation)
    (target : confirmation = .altitude → after.setpoint = before.setpoint) :
    confirmation.view after = confirmation.view before := by
  cases before
  cases after
  cases config
  cases sensorData
  cases confirmation with
  | altitude => cases target rfl; rfl
  | altctl | offboard | armed | touchdown => rfl

end Confirmation

variable [Xgc2Math]

namespace FlightLeaf

/-- The confirmation a leaf waits for, as long as it does. -/
def confirmation : FlightLeaf → Option Confirmation
  | takeoffInit leaf => if leaf.skipAltctlGate then none else some .altctl
  | takeoffOffboardRequest _ => some .offboard
  | takeoffArmRequest _ => some .armed
  | takeoffAscending leaf => if leaf.timeoutEventPosted then none else some .altitude
  | landing _ => some .touchdown
  | _ => none

def progress : FlightLeaf → Progress
  | takeoffInit leaf =>
      if leaf.altctlReadyEventPosted then .confirmed else .counting leaf.altctlFrameCount
  | takeoffOffboardRequest leaf =>
      if leaf.offboardReadyEventPosted then .confirmed
      else .counting leaf.confirmedOffboardFrames
  | takeoffArmRequest leaf =>
      if leaf.armReadyEventPosted then .confirmed else .counting leaf.confirmedArmFrames
  | takeoffAscending leaf =>
      if leaf.altitudeReachedEventPosted then .confirmed
      else .counting leaf.confirmedSettledFrames
  | landing leaf =>
      if leaf.touchdownEventPosted then .confirmed else .counting leaf.confirmedLandedFrames
  | _ => .counting 0

section Tick

omit [Xgc2Math] in
/-- Without an acknowledgement to wait for, enough frames confirm. -/
theorem step_eq {counter : Counter} (alone : counter.awaitsAcknowledgement = false) (view : View)
    (frames : Nat) :
    counter.step view (.counting frames) =
      if counter.required ≤ counter.next view frames then .confirmed
      else .counting (counter.next view frames) := by
  simp [Counter.step, Counter.confirms, alone]

omit [Xgc2Math] in
@[simp] theorem publishSetpointIfDue_sensorData (controller : DroneController)
    (timer : ControllerTimer) :
    (controller.publishSetpointIfDue timer).1.sensorData = controller.sensorData := by
  dsimp only [DroneController.publishSetpointIfDue]
  split <;> rfl

omit [Xgc2Math] in
@[simp] theorem requestIfDue_sensorData (controller : DroneController) (timer : ControllerTimer)
    (interval : Double) (effect : FlightEffect) :
    (controller.requestIfDue timer interval effect).1.sensorData = controller.sensorData := by
  dsimp only [DroneController.requestIfDue]
  split <;> rfl

omit [Xgc2Math] in
/-- A leaf makes the counter's step if its count differs at most beyond the required one. -/
theorem step_of_count (counter : Counter) (alone : counter.awaitsAcknowledgement = false)
    {view : View} (posted : Bool) {frames frames' : Nat}
    (counted : min frames' counter.required = min (counter.next view frames) counter.required) :
    (if posted then Progress.confirmed else if counter.required ≤ frames' then .confirmed
      else .counting frames') =
      counter.step view (if posted then .confirmed else .counting frames) := by
  cases posted with
  | true => rfl
  | false =>
      simp only [Bool.false_eq_true, if_false, step_eq alone]
      by_cases enough : counter.required ≤ frames'
      · have : counter.required ≤ counter.next view frames := by omega
        simp only [enough, this, if_true]
      · have below : ¬counter.required ≤ counter.next view frames := by omega
        have same : frames' = counter.next view frames := by omega
        rw [if_neg enough, if_neg below, same]

section TakeoffInit

open TakeoffInitState

theorem postAltctlReadyOnce_progress (scope : Scope TakeoffInitState) :
    (takeoffInit (postAltctlReadyOnce scope).leaf).progress =
      if scope.leaf.altctlReadyEventPosted then .confirmed
      else if requiredAltctlFrames ≤ scope.leaf.altctlFrameCount then .confirmed
      else .counting scope.leaf.altctlFrameCount := by
  dsimp only [postAltctlReadyOnce, progress]
  by_cases posted : scope.leaf.altctlReadyEventPosted = true
  · simp [posted]
  · by_cases few : scope.leaf.altctlFrameCount < requiredAltctlFrames
    · simp [posted, few, Nat.not_le.mpr few]
    · simp [posted, few, Nat.le_of_not_lt few]

omit [Xgc2Math] in
theorem postAltctlReadyOnce_skipAltctlGate (scope : Scope TakeoffInitState) :
    (postAltctlReadyOnce scope).leaf.skipAltctlGate = scope.leaf.skipAltctlGate := by
  dsimp only [postAltctlReadyOnce]
  split <;> rfl

omit [Xgc2Math] in
theorem updateAltctlConfirmation_leaf (scope : Scope TakeoffInitState) :
    (updateAltctlConfirmation scope).leaf = { scope.leaf with
      altctlFrameCount :=
        if !scope.controller.sensorData.stateStats.isNew then scope.leaf.altctlFrameCount
        else if scope.controller.sensorData.fcuMode = "ALTCTL" then
          min (scope.leaf.altctlFrameCount + 1) requiredAltctlFrames
        else 0 } := by
  dsimp only [updateAltctlConfirmation]
  repeat' split
  all_goals rfl

theorem takeoffInit_progress (controller : DroneController) (leaf : TakeoffInitState)
    (gate : leaf.skipAltctlGate = false) :
    (takeoffInit (TakeoffInitState.onTick ⟨controller, leaf⟩).leaf).confirmation =
        some .altctl ∧
      (takeoffInit (TakeoffInitState.onTick ⟨controller, leaf⟩).leaf).progress =
        Confirmation.altctl.counter.step (Confirmation.altctl.view controller)
          (takeoffInit leaf).progress := by
  have ticked : TakeoffInitState.onTick ⟨controller, leaf⟩ = postAltctlReadyOnce
      (updateAltctlConfirmation (requestAltctlModeIfDue
        (publishSetpointIfDue ⟨controller, leaf⟩))) := by
    have kept : (publishSetpointIfDue ⟨controller, leaf⟩).leaf.skipAltctlGate = false := gate
    simp only [TakeoffInitState.onTick, kept, Bool.false_eq_true, if_false]
  constructor
  · rw [ticked, confirmation, postAltctlReadyOnce_skipAltctlGate, updateAltctlConfirmation_leaf]
    change (if leaf.skipAltctlGate then none else some Confirmation.altctl) = _
    rw [gate]
    rfl
  · rw [ticked, postAltctlReadyOnce_progress, updateAltctlConfirmation_leaf]
    refine step_of_count Confirmation.altctl.counter rfl _ ?_
    simp only [requestAltctlModeIfDue, publishSetpointIfDue, requestIfDue_sensorData,
      publishSetpointIfDue_sensorData, Counter.next, Confirmation.view, Confirmation.counter]
    grind

end TakeoffInit

section TakeoffOffboardRequest

open TakeoffOffboardRequestState

theorem postOffboardReadyOnce_progress (scope : Scope TakeoffOffboardRequestState) :
    (takeoffOffboardRequest (postOffboardReadyOnce scope).leaf).progress =
      if scope.leaf.offboardReadyEventPosted then .confirmed
      else if requiredOffboardFrames ≤ scope.leaf.confirmedOffboardFrames then .confirmed
      else .counting scope.leaf.confirmedOffboardFrames := by
  dsimp only [postOffboardReadyOnce, progress]
  by_cases posted : scope.leaf.offboardReadyEventPosted = true
  · simp [posted]
  · by_cases few : scope.leaf.confirmedOffboardFrames < requiredOffboardFrames
    · simp [posted, few, Nat.not_le.mpr few]
    · simp [posted, few, Nat.le_of_not_lt few]

omit [Xgc2Math] in
theorem updateOffboardConfirmation_leaf (scope : Scope TakeoffOffboardRequestState) :
    (updateOffboardConfirmation scope).leaf = { scope.leaf with
      confirmedOffboardFrames :=
        if !scope.controller.sensorData.stateStats.isNew then scope.leaf.confirmedOffboardFrames
        else if scope.controller.sensorData.fcuMode = "OFFBOARD" then
          countFrame requiredOffboardFrames scope.leaf.confirmedOffboardFrames
        else 0 } := by
  dsimp only [updateOffboardConfirmation]
  repeat' split
  all_goals rfl

theorem takeoffOffboardRequest_progress (controller : DroneController)
    (leaf : TakeoffOffboardRequestState) :
    (takeoffOffboardRequest (TakeoffOffboardRequestState.onTick ⟨controller, leaf⟩).leaf).progress =
      Confirmation.offboard.counter.step (Confirmation.offboard.view controller)
        (takeoffOffboardRequest leaf).progress := by
  rw [TakeoffOffboardRequestState.onTick, postOffboardReadyOnce_progress,
    updateOffboardConfirmation_leaf]
  refine step_of_count Confirmation.offboard.counter rfl _ ?_
  simp only [requestOffboardModeIfDue, publishSetpointIfDue, requestIfDue_sensorData,
    publishSetpointIfDue_sensorData, Counter.next, Confirmation.view, Confirmation.counter,
    countFrame]
  grind

end TakeoffOffboardRequest

section TakeoffArmRequest

open TakeoffArmRequestState

theorem postArmReadyOnce_progress (scope : Scope TakeoffArmRequestState) :
    (takeoffArmRequest (postArmReadyOnce scope).leaf).progress =
      if scope.leaf.armReadyEventPosted then .confirmed
      else if requiredArmFrames ≤ scope.leaf.confirmedArmFrames then .confirmed
      else .counting scope.leaf.confirmedArmFrames := by
  dsimp only [postArmReadyOnce, progress]
  by_cases posted : scope.leaf.armReadyEventPosted = true
  · simp [posted]
  · by_cases few : scope.leaf.confirmedArmFrames < requiredArmFrames
    · simp [posted, few, Nat.not_le.mpr few]
    · simp [posted, few, Nat.le_of_not_lt few]

omit [Xgc2Math] in
theorem updateArmConfirmation_leaf (scope : Scope TakeoffArmRequestState) :
    (updateArmConfirmation scope).leaf = { scope.leaf with
      confirmedArmFrames :=
        if !scope.controller.sensorData.stateStats.isNew then scope.leaf.confirmedArmFrames
        else if scope.controller.sensorData.fcuArmed then
          countFrame requiredArmFrames scope.leaf.confirmedArmFrames
        else 0 } := by
  dsimp only [updateArmConfirmation]
  repeat' split
  all_goals rfl

theorem takeoffArmRequest_progress (controller : DroneController)
    (leaf : TakeoffArmRequestState) :
    (takeoffArmRequest (TakeoffArmRequestState.onTick ⟨controller, leaf⟩).leaf).progress =
      Confirmation.armed.counter.step (Confirmation.armed.view controller)
        (takeoffArmRequest leaf).progress := by
  rw [TakeoffArmRequestState.onTick, postArmReadyOnce_progress, updateArmConfirmation_leaf]
  refine step_of_count Confirmation.armed.counter rfl _ ?_
  simp only [requestArmIfDue, publishSetpointIfDue, requestIfDue_sensorData,
    publishSetpointIfDue_sensorData, Counter.next, Confirmation.view, Confirmation.counter,
    countFrame]
  grind

end TakeoffArmRequest

section TakeoffAscending

open TakeoffAscendingState

theorem postAltitudeReachedOnce_progress (scope : Scope TakeoffAscendingState) :
    (takeoffAscending (postAltitudeReachedOnce scope).leaf).progress =
      if scope.leaf.altitudeReachedEventPosted then .confirmed
      else if consecutiveSettledFrames ≤ scope.leaf.confirmedSettledFrames then .confirmed
      else .counting scope.leaf.confirmedSettledFrames := by
  dsimp only [postAltitudeReachedOnce, progress]
  by_cases posted : scope.leaf.altitudeReachedEventPosted = true
  · simp [posted]
  · by_cases few : scope.leaf.confirmedSettledFrames < consecutiveSettledFrames
    · simp [posted, few, Nat.not_le.mpr few]
    · simp [posted, few, Nat.le_of_not_lt few]

omit [Xgc2Math] in
theorem postAltitudeReachedOnce_timeoutEventPosted (scope : Scope TakeoffAscendingState) :
    (postAltitudeReachedOnce scope).leaf.timeoutEventPosted = scope.leaf.timeoutEventPosted := by
  dsimp only [postAltitudeReachedOnce]
  split <;> rfl

omit [Xgc2Math] in
theorem updateAltitudeConfirmation_leaf (scope : Scope TakeoffAscendingState) :
    (updateAltitudeConfirmation scope).leaf = { scope.leaf with
      confirmedSettledFrames :=
        if scope.leaf.altitudeReachedEventPosted ∨ scope.leaf.timeoutEventPosted then
          scope.leaf.confirmedSettledFrames
        else if !scope.controller.isWorldPoseNew then scope.leaf.confirmedSettledFrames
        else if !altitudeSettled scope.controller then 0
        else countFrame consecutiveSettledFrames scope.leaf.confirmedSettledFrames } := by
  dsimp only [updateAltitudeConfirmation]
  repeat' split
  all_goals rfl

theorem takeoffAscending_progress (controller : DroneController) (leaf : TakeoffAscendingState)
    (waiting : leaf.timeoutEventPosted = false)
    (inTime : controller.flightElapsed ≤ ascendingTimeout) :
    (takeoffAscending (TakeoffAscendingState.onTick ⟨controller, leaf⟩).leaf).confirmation =
        some .altitude ∧
      (takeoffAscending (TakeoffAscendingState.onTick ⟨controller, leaf⟩).leaf).progress =
        Confirmation.altitude.counter.step (Confirmation.altitude.view controller)
          (takeoffAscending leaf).progress := by
  let logged := logStatusIfDue (publishSetpointIfDue ⟨controller, leaf⟩)
  have published : logged.controller =
      (controller.publishSetpointIfDue leaf.setpointPublishTimer).1 :=
    logStatusIfDue_controller _
  have kept : logged.leaf.timeoutEventPosted = leaf.timeoutEventPosted ∧
      logged.leaf.altitudeReachedEventPosted = leaf.altitudeReachedEventPosted ∧
      logged.leaf.confirmedSettledFrames = leaf.confirmedSettledFrames := by
    dsimp only [logged, logStatusIfDue]
    split <;> exact ⟨rfl, rfl, rfl⟩
  have same : logged.controller.flightElapsed = controller.flightElapsed ∧
      Confirmation.altitude.view logged.controller = Confirmation.altitude.view controller := by
    rw [published, DroneController.publishSetpointIfDue]
    dsimp only
    split <;> exact ⟨rfl, rfl⟩
  have ticked : TakeoffAscendingState.onTick ⟨controller, leaf⟩ =
      postAltitudeReachedOnce (updateAltitudeConfirmation logged) := by
    have early : postTimeoutIfNeeded logged = (logged, false) := by
      simp only [postTimeoutIfNeeded, kept.1, waiting, same.1, inTime, Bool.false_eq_true,
        if_false, if_true]
    change (if (postTimeoutIfNeeded logged).2 = true then (postTimeoutIfNeeded logged).1
      else postAltitudeReachedOnce (updateAltitudeConfirmation
        (postTimeoutIfNeeded logged).1)) = _
    rw [early]
    rfl
  constructor
  · rw [ticked, confirmation, postAltitudeReachedOnce_timeoutEventPosted,
      updateAltitudeConfirmation_leaf]
    simp only [kept.1, waiting, Bool.false_eq_true, if_false]
  · rw [ticked, postAltitudeReachedOnce_progress, updateAltitudeConfirmation_leaf, ← same.2]
    simp only [kept, waiting, Bool.false_eq_true, or_false, progress]
    by_cases posted : leaf.altitudeReachedEventPosted = true
    · simp [posted]
    · refine step_of_count Confirmation.altitude.counter rfl _ ?_
      simp only [posted, Counter.next, Confirmation.view, Confirmation.counter, countFrame]
      grind

end TakeoffAscending

section Landing

open LandingState

omit [Xgc2Math] in
theorem touchdown_required :
    Confirmation.touchdown.counter.required = consecutiveSettledFrames := rfl

omit [Xgc2Math] in
theorem next_eq_nextLandedFrames (controller : DroneController) (frames : Nat) :
    Confirmation.touchdown.counter.next (Confirmation.touchdown.view controller) frames =
      nextLandedFrames controller frames := by
  cases live : landingFeedbackActive controller <;> cases fresh : controller.isWorldPoseNew <;>
    cases slow : velocitySettled controller <;> cases low : altitudeSettled controller <;>
    simp [Counter.next, Confirmation.view, touchdown_required, nextLandedFrames, countFrame,
      live, fresh, slow, low]
  rfl

omit [Xgc2Math] in
/-- Enough landed frames include live feedback. -/
theorem confirms_eq_acknowledged (controller : DroneController) {frames : Nat} :
    Confirmation.touchdown.counter.confirms (Confirmation.touchdown.view controller)
        (nextLandedFrames controller frames) =
      decide (consecutiveSettledFrames ≤ nextLandedFrames controller frames ∧
        disarmAcknowledged controller) := by
  by_cases live : landingFeedbackActive controller = true
  · have awaits : Confirmation.touchdown.counter.awaitsAcknowledgement = true := rfl
    rw [Bool.eq_iff_iff]
    simp [Counter.confirms, touchdown_required, awaits, Confirmation.view, disarmAcknowledged,
      live]
    exact fun _ _ _ _ => decide_eq_true_iff
  · have none : nextLandedFrames controller frames = 0 := by simp [nextLandedFrames, live]
    simp [Counter.confirms, Confirmation.counter, none, consecutiveSettledFrames]

theorem landing_progress (controller : DroneController) (leaf : LandingState) :
    (landing (LandingState.onTick ⟨controller, leaf⟩).leaf).progress =
      Confirmation.touchdown.counter.step (Confirmation.touchdown.view controller)
        (landing leaf).progress := by
  cases waiting : leaf.touchdownEventPosted with
  | true =>
      have posted : (updateTouchdownConfirmation
          (descend ⟨controller, leaf⟩)).leaf.touchdownEventPosted = true :=
        (updateTouchdownConfirmation_touchdownEventPosted _).trans
          ((descend_touchdownEventPosted _).trans waiting)
      have kept : LandingState.onTick ⟨controller, leaf⟩ =
          updateTouchdownConfirmation (descend ⟨controller, leaf⟩) :=
        if_pos (.inl posted)
      rw [kept]
      simp only [progress, posted, waiting, if_true, Counter.step_confirmed]
  | false =>
      have frames := onTick_confirmedLandedFrames ⟨controller, leaf⟩ waiting
      have posted := onTick_touchdownEventPosted ⟨controller, leaf⟩ waiting
      rw [frames, ← confirms_eq_acknowledged] at posted
      simp only [progress, posted, frames, waiting, Bool.false_eq_true, if_false, Counter.step,
        next_eq_nextLandedFrames]

end Landing

variable [Libm] (controller : DroneController)

/-- A tick of a waiting leaf is a step of its counter, unless the climb has timed out. -/
theorem onTick_progress {leaf : FlightLeaf} {confirmation : Confirmation}
    (waits : leaf.confirmation = some confirmation)
    (inTime : confirmation = .altitude →
      controller.flightElapsed ≤ TakeoffAscendingState.ascendingTimeout) :
    (leaf.onTick controller).1.leaf.confirmation = some confirmation ∧
      (leaf.onTick controller).1.leaf.progress =
        confirmation.counter.step (confirmation.view controller) leaf.progress := by
  cases leaf with
  | takeoffInit leaf =>
      have gate : leaf.skipAltctlGate = false := by
        by_contra skipped
        simp [FlightLeaf.confirmation, skipped] at waits
      obtain rfl : Confirmation.altctl = confirmation := by
        simpa [FlightLeaf.confirmation, gate] using waits
      exact takeoffInit_progress controller leaf gate
  | takeoffOffboardRequest leaf =>
      cases waits
      exact ⟨rfl, takeoffOffboardRequest_progress controller leaf⟩
  | takeoffArmRequest leaf =>
      cases waits
      exact ⟨rfl, takeoffArmRequest_progress controller leaf⟩
  | takeoffAscending leaf =>
      have waiting : leaf.timeoutEventPosted = false := by
        by_contra posted
        simp [FlightLeaf.confirmation, posted] at waits
      obtain rfl : Confirmation.altitude = confirmation := by
        simpa [FlightLeaf.confirmation, waiting] using waits
      exact takeoffAscending_progress controller leaf waiting (inTime rfl)
  | landing leaf =>
      cases waits
      exact ⟨rfl, landing_progress controller leaf⟩
  | selfCheck leaf => cases waits
  | ready leaf => cases waits
  | hover leaf => cases waits
  | custom1 leaf => cases waits

end Tick

end FlightLeaf

end MultirotorController
