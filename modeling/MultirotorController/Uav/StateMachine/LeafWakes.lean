import MultirotorController.Uav.FlightState

/-!
# Leaves between their deadlines

A leaf acts without an input only when one of its timers is due, so between the
deadlines it asks for a tick changes nothing that others can see. A tick that did
not post its event leaves the leaf settled: the timer of the setpoint runs, and
the frames that would post the event are not there.
-/

namespace MultirotorController

section Due

variable {start interval : Double} {t : ℚ}

theorem controllerDueAt_fin (start interval : ℚ) :
    controllerDueAt (.fin start) (.fin interval) = { due := .fin (start + interval) } := by
  unfold controllerDueAt
  dsimp only
  rw [Double.fin_add_fin, Double.fin_sub_fin, add_sub_cancel_left, if_neg]
  rw [Double.fin_lt_fin]
  exact lt_irrefl interval

theorem controllerDueAt_finite (number : start.isFinite = true)
    (length : interval.isFinite = true) : (controllerDueAt start interval).due.isFinite = true := by
  obtain ⟨start, rfl⟩ := Double.exists_eq_fin number
  obtain ⟨interval, rfl⟩ := Double.exists_eq_fin length
  rw [controllerDueAt_fin]
  rfl

/-- The interval is not over before its deadline. -/
theorem later_controllerDueAt_iff (number : start.isFinite = true)
    (length : interval.isFinite = true) :
    (controllerDueAt start interval).Later (.fin t) ↔ ¬ interval ≤ .fin t - start := by
  obtain ⟨start, rfl⟩ := Double.exists_eq_fin number
  obtain ⟨interval, rfl⟩ := Double.exists_eq_fin length
  rw [controllerDueAt_fin, Double.fin_sub_fin, Double.fin_le_fin, not_le]
  change Double.fin t < .fin (start + interval) ↔ _
  rw [Double.fin_lt_fin, sub_lt_iff_lt_add']

end Due

namespace ControllerTimer

variable {timer : ControllerTimer} {interval : Double} {t : ℚ}

/-- The timer was started or reset at a number. -/
def Clocked (timer : ControllerTimer) : Prop := timer.startTime.isFinite = true

theorem clocked_start (timer : ControllerTimer) (t : ℚ) : (timer.start (.fin t)).Clocked := rfl

theorem clocked_reset (timer : ControllerTimer) (t : ℚ) : (timer.reset (.fin t)).Clocked := rfl

theorem Clocked.shouldRunEvery (clocked : timer.Clocked) (interval : Double) (t : ℚ) :
    (timer.shouldRunEvery (.fin t) interval true).1.Clocked := by
  unfold ControllerTimer.shouldRunEvery
  split
  · exact clocked_start timer t
  · split
    · exact clocked_reset timer t
    · exact clocked

/-- Asking a timer starts it. -/
theorem started_shouldRunEvery (timer : ControllerTimer) (clock interval : Double) :
    (timer.shouldRunEvery clock interval true).1.started = true := by
  unfold ControllerTimer.shouldRunEvery
  by_cases started : timer.started = true
  · rw [started]
    split
    · rfl
    · split <;> exact started
  · rw [Bool.not_eq_true] at started
    rw [started]
    rfl

theorem finite_dueAt (clocked : timer.Clocked) (length : interval.isFinite = true) :
    Deadline.Finite (timer.dueAt interval) := by
  unfold dueAt
  split
  · exact Deadline.finite_none
  · exact Deadline.finite_some (controllerDueAt_finite clocked length)

/-- A running timer does not fire before its deadline. -/
theorem shouldRunEvery_ahead (clocked : timer.Clocked) (length : interval.isFinite = true)
    (started : timer.started = true) (ahead : Deadline.Ahead (.fin t) (timer.dueAt interval)) :
    timer.shouldRunEvery (.fin t) interval true = (timer, false) := by
  unfold dueAt at ahead
  rw [started] at ahead
  have early := (later_controllerDueAt_iff clocked length).mp ahead
  unfold ControllerTimer.shouldRunEvery elapsed
  rw [started]
  exact if_neg early

/-- Nor has its interval passed, whether it runs or not. -/
theorem elapsed_ahead (clocked : timer.Clocked) (length : interval.isFinite = true)
    (positive : 0 < interval) (ahead : Deadline.Ahead (.fin t) (timer.dueAt interval)) :
    timer.elapsed (.fin t) < interval := by
  unfold elapsed
  by_cases started : timer.started = true
  · rw [if_pos started]
    unfold dueAt at ahead
    rw [started] at ahead
    have early := (later_controllerDueAt_iff clocked length).mp ahead
    obtain ⟨first, number⟩ := Double.exists_eq_fin clocked
    rw [number] at early ⊢
    exact Double.lt_of_not_le rfl length early
  · rw [if_neg started]
    exact positive

end ControllerTimer

theorem kLocalSetpointPublishInterval_finite : kLocalSetpointPublishInterval.isFinite = true := by
  decide +kernel

namespace DroneController

variable {controller : DroneController} {timer : ControllerTimer} {t : ℚ}

theorem publishSetpointIfDue_ahead (clock : controller.currentTime = .fin t)
    (clocked : timer.Clocked) (running : timer.started = true)
    (ahead : Deadline.Ahead (.fin t) (timer.dueAt kLocalSetpointPublishInterval)) :
    controller.publishSetpointIfDue timer = (controller, timer) := by
  unfold publishSetpointIfDue
  rw [clock, timer.shouldRunEvery_ahead clocked kLocalSetpointPublishInterval_finite running ahead]
  rfl

theorem requestIfDue_ahead (clock : controller.currentTime = .fin t) (clocked : timer.Clocked)
    {interval : Double} (length : interval.isFinite = true) (positive : 0 < interval)
    (ahead : Deadline.Ahead (.fin t) (timer.dueAt interval)) (effect : FlightEffect) :
    controller.requestIfDue timer interval effect = (controller, timer) := by
  unfold requestIfDue
  rw [clock]
  exact if_pos (timer.elapsed_ahead clocked length positive ahead)

theorem running_publishSetpointIfDue (controller : DroneController) (timer : ControllerTimer) :
    (controller.publishSetpointIfDue timer).2.started = true :=
  timer.started_shouldRunEvery _ _

theorem clocked_publishSetpointIfDue (clock : controller.currentTime = .fin t)
    (clocked : timer.Clocked) : (controller.publishSetpointIfDue timer).2.Clocked := by
  change (timer.shouldRunEvery controller.currentTime _ true).1.Clocked
  rw [clock]
  exact clocked.shouldRunEvery _ t

theorem clocked_requestIfDue (clock : controller.currentTime = .fin t) (clocked : timer.Clocked)
    (interval : Double) (effect : FlightEffect) :
    (controller.requestIfDue timer interval effect).2.Clocked := by
  unfold requestIfDue
  rw [clock]
  split
  · exact clocked
  · exact timer.clocked_reset t

theorem publishSetpointIfDue_currentTime (controller : DroneController) (timer : ControllerTimer) :
    (controller.publishSetpointIfDue timer).1.currentTime = controller.currentTime := by
  dsimp only [publishSetpointIfDue]
  split <;> rfl

end DroneController

namespace SelfCheckState

variable {scope : Scope SelfCheckState} {t : ℚ}

def Clocked (leaf : SelfCheckState) : Prop := leaf.statusLogTimer.Clocked

theorem clocked_onEnter (clock : scope.controller.currentTime = .fin t) :
    (onEnter scope).leaf.Clocked := by
  change (scope.leaf.statusLogTimer.start scope.controller.currentTime).Clocked
  rw [clock]
  exact ControllerTimer.clocked_start _ t

theorem clocked_onTick (clock : scope.controller.currentTime = .fin t)
    (clocked : scope.leaf.Clocked) : (onTick scope).leaf.Clocked := by
  unfold onTick
  dsimp only
  rw [clock]
  split
  · exact ControllerTimer.clocked_reset _ t
  · exact clocked

theorem finite_nextWake (clocked : scope.leaf.Clocked) : Deadline.Finite (nextWake scope) :=
  ControllerTimer.finite_dueAt clocked rfl

end SelfCheckState

namespace HoverState

variable {scope : Scope HoverState} {t : ℚ}

def Clocked (leaf : HoverState) : Prop := leaf.setpointPublishTimer.Clocked

theorem clocked_onEnter (clock : scope.controller.currentTime = .fin t) :
    (onEnter scope).leaf.Clocked := by
  change (scope.leaf.setpointPublishTimer.start scope.controller.currentTime).Clocked
  rw [clock]
  exact ControllerTimer.clocked_start _ t

theorem clocked_onTick (clock : scope.controller.currentTime = .fin t)
    (clocked : scope.leaf.Clocked) : (onTick scope).leaf.Clocked :=
  DroneController.clocked_publishSetpointIfDue clock clocked

theorem running_onTick (scope : Scope HoverState) :
    (onTick scope).leaf.setpointPublishTimer.started = true :=
  scope.controller.running_publishSetpointIfDue _

theorem finite_nextWake (clocked : scope.leaf.Clocked) : Deadline.Finite (nextWake scope) :=
  ControllerTimer.finite_dueAt clocked kLocalSetpointPublishInterval_finite

theorem onTick_ahead (clock : scope.controller.currentTime = .fin t)
    (clocked : scope.leaf.Clocked) (running : scope.leaf.setpointPublishTimer.started = true)
    (ahead : Deadline.Ahead (.fin t) (nextWake scope)) :
    (onTick scope).controller = scope.controller := by
  change (scope.controller.publishSetpointIfDue scope.leaf.setpointPublishTimer).1 = _
  rw [DroneController.publishSetpointIfDue_ahead clock clocked running ahead]

end HoverState

namespace TakeoffInitState

variable {scope : Scope TakeoffInitState} {t : ℚ}

structure Clocked (leaf : TakeoffInitState) : Prop where
  setpointPublishTimer : leaf.setpointPublishTimer.Clocked
  altctlRequestTimer : leaf.altctlRequestTimer.Clocked

/-- The setpoint is being repeated, and nothing is left to post. -/
structure Settled (leaf : TakeoffInitState) : Prop where
  running : leaf.setpointPublishTimer.started = true
  posted : leaf.altctlReadyEventPosted = true ∨ leaf.altctlFrameCount < requiredAltctlFrames

theorem clocked_onEnter (clock : scope.controller.currentTime = .fin t)
    (clocked : scope.leaf.Clocked) : (onEnter scope).leaf.Clocked := by
  have started : (scope.leaf.setpointPublishTimer.start (.fin t)).Clocked := rfl
  unfold onEnter
  dsimp only
  rw [clock]
  split
  next skip =>
    simp only [skip, requestDisarmIfRequired, configureTakeoffSetpoint, if_true]
    exact ⟨started, clocked.altctlRequestTimer⟩
  next skip =>
    simp only [skip, requestDisarmIfRequired, configureTakeoffSetpoint, Bool.false_eq_true,
      if_false]
    exact ⟨started, rfl⟩

@[simp] theorem postAltctlReadyOnce_setpointPublishTimer (scope : Scope TakeoffInitState) :
    (postAltctlReadyOnce scope).leaf.setpointPublishTimer = scope.leaf.setpointPublishTimer := by
  unfold postAltctlReadyOnce
  split <;> rfl

@[simp] theorem postAltctlReadyOnce_altctlRequestTimer (scope : Scope TakeoffInitState) :
    (postAltctlReadyOnce scope).leaf.altctlRequestTimer = scope.leaf.altctlRequestTimer := by
  unfold postAltctlReadyOnce
  split <;> rfl

@[simp] theorem updateAltctlConfirmation_setpointPublishTimer (scope : Scope TakeoffInitState) :
    (updateAltctlConfirmation scope).leaf.setpointPublishTimer =
      scope.leaf.setpointPublishTimer := by
  unfold updateAltctlConfirmation
  dsimp only
  repeat' split
  all_goals rfl

@[simp] theorem updateAltctlConfirmation_altctlRequestTimer (scope : Scope TakeoffInitState) :
    (updateAltctlConfirmation scope).leaf.altctlRequestTimer = scope.leaf.altctlRequestTimer := by
  unfold updateAltctlConfirmation
  dsimp only
  repeat' split
  all_goals rfl

theorem clocked_onTick (clock : scope.controller.currentTime = .fin t)
    (clocked : scope.leaf.Clocked) : (onTick scope).leaf.Clocked := by
  have published : (publishSetpointIfDue scope).leaf.Clocked :=
    ⟨DroneController.clocked_publishSetpointIfDue clock clocked.setpointPublishTimer,
      clocked.altctlRequestTimer⟩
  have clock' : (publishSetpointIfDue scope).controller.currentTime = .fin t :=
    (DroneController.publishSetpointIfDue_currentTime _ _).trans clock
  unfold onTick
  dsimp only
  split
  · exact ⟨by simpa using published.setpointPublishTimer,
      by simpa using published.altctlRequestTimer⟩
  · have asked : (requestAltctlModeIfDue (publishSetpointIfDue scope)).leaf.Clocked :=
      ⟨published.setpointPublishTimer,
        DroneController.clocked_requestIfDue clock' published.altctlRequestTimer _ _⟩
    exact ⟨by simpa using asked.setpointPublishTimer, by simpa using asked.altctlRequestTimer⟩

theorem settled_onTick (scope : Scope TakeoffInitState) : (onTick scope).leaf.Settled := by
  have running : (publishSetpointIfDue scope).leaf.setpointPublishTimer.started = true :=
    scope.controller.running_publishSetpointIfDue _
  have posted : ∀ scope : Scope TakeoffInitState,
      (postAltctlReadyOnce scope).leaf.altctlReadyEventPosted = true ∨
        (postAltctlReadyOnce scope).leaf.altctlFrameCount < requiredAltctlFrames := by
    intro scope
    unfold postAltctlReadyOnce
    split
    next settled => exact settled
    · exact .inl rfl
  refine ⟨?_, posted _⟩
  unfold onTick
  dsimp only
  split
  · simpa using running
  · simpa [requestAltctlModeIfDue] using running

theorem finite_nextWake (clocked : scope.leaf.Clocked) : Deadline.Finite (nextWake scope) := by
  have publish := ControllerTimer.finite_dueAt clocked.setpointPublishTimer
    kLocalSetpointPublishInterval_finite
  unfold nextWake
  dsimp only
  split
  · exact publish
  · exact Deadline.finite_earlier publish
      (ControllerTimer.finite_dueAt clocked.altctlRequestTimer rfl)

theorem onTick_ahead (clock : scope.controller.currentTime = .fin t)
    (clocked : scope.leaf.Clocked) (settled : scope.leaf.Settled)
    (noState : scope.controller.sensorData.stateStats.isNew = false)
    (ahead : Deadline.Ahead (.fin t) (nextWake scope)) :
    (onTick scope).controller = scope.controller := by
  have done : postAltctlReadyOnce scope = scope := if_pos settled.posted
  have publishes : Deadline.Ahead (.fin t)
      (scope.leaf.setpointPublishTimer.dueAt kLocalSetpointPublishInterval) →
      publishSetpointIfDue scope = scope := by
    intro ahead
    unfold publishSetpointIfDue
    rw [DroneController.publishSetpointIfDue_ahead clock clocked.setpointPublishTimer
      settled.running ahead]
  unfold nextWake at ahead
  unfold onTick
  dsimp only at ahead ⊢
  by_cases skip : scope.leaf.skipAltctlGate = true
  · rw [if_pos skip] at ahead
    rw [publishes ahead, if_pos skip, done]
  · rw [if_neg skip, Deadline.ahead_earlier
      (ControllerTimer.finite_dueAt clocked.setpointPublishTimer
        kLocalSetpointPublishInterval_finite)
      (ControllerTimer.finite_dueAt clocked.altctlRequestTimer rfl)] at ahead
    have asks : requestAltctlModeIfDue scope = scope := by
      unfold requestAltctlModeIfDue
      rw [DroneController.requestIfDue_ahead clock clocked.altctlRequestTimer rfl
        (by decide +kernel) ahead.2]
    have unchanged : updateAltctlConfirmation scope = scope := by
      unfold updateAltctlConfirmation
      dsimp only
      rw [noState]
      rfl
    rw [publishes ahead.1, if_neg skip, asks, unchanged, done]

end TakeoffInitState

namespace TakeoffOffboardRequestState

variable {scope : Scope TakeoffOffboardRequestState} {t : ℚ}

structure Clocked (leaf : TakeoffOffboardRequestState) : Prop where
  setpointPublishTimer : leaf.setpointPublishTimer.Clocked
  modeRequestTimer : leaf.modeRequestTimer.Clocked

structure Settled (leaf : TakeoffOffboardRequestState) : Prop where
  running : leaf.setpointPublishTimer.started = true
  posted : leaf.offboardReadyEventPosted = true ∨
    leaf.confirmedOffboardFrames < requiredOffboardFrames

theorem clocked_onEnter (clock : scope.controller.currentTime = .fin t) :
    (onEnter scope).leaf.Clocked := by
  unfold onEnter
  rw [clock]
  exact ⟨rfl, rfl⟩

/-- The frames and the event do not touch the timers. -/
theorem postOffboardReadyOnce_timers (scope : Scope TakeoffOffboardRequestState) :
    (postOffboardReadyOnce (updateOffboardConfirmation scope)).leaf.setpointPublishTimer =
        scope.leaf.setpointPublishTimer ∧
      (postOffboardReadyOnce (updateOffboardConfirmation scope)).leaf.modeRequestTimer =
        scope.leaf.modeRequestTimer := by
  unfold postOffboardReadyOnce updateOffboardConfirmation
  dsimp only
  repeat' split
  all_goals exact ⟨rfl, rfl⟩

theorem clocked_onTick (clock : scope.controller.currentTime = .fin t)
    (clocked : scope.leaf.Clocked) : (onTick scope).leaf.Clocked := by
  have clock' : (publishSetpointIfDue scope).controller.currentTime = .fin t :=
    (DroneController.publishSetpointIfDue_currentTime _ _).trans clock
  have asked : (requestOffboardModeIfDue (publishSetpointIfDue scope)).leaf.Clocked :=
    ⟨DroneController.clocked_publishSetpointIfDue clock clocked.setpointPublishTimer,
      DroneController.clocked_requestIfDue clock' clocked.modeRequestTimer _ _⟩
  obtain ⟨publish, request⟩ := postOffboardReadyOnce_timers
    (requestOffboardModeIfDue (publishSetpointIfDue scope))
  unfold onTick
  exact ⟨publish ▸ asked.setpointPublishTimer, request ▸ asked.modeRequestTimer⟩

theorem settled_onTick (scope : Scope TakeoffOffboardRequestState) :
    (onTick scope).leaf.Settled := by
  obtain ⟨publish, -⟩ := postOffboardReadyOnce_timers
    (requestOffboardModeIfDue (publishSetpointIfDue scope))
  constructor
  · unfold onTick
    rw [publish]
    exact scope.controller.running_publishSetpointIfDue _
  · unfold onTick postOffboardReadyOnce
    split
    next settled => exact settled
    · exact .inl rfl

theorem finite_nextWake (clocked : scope.leaf.Clocked) : Deadline.Finite (nextWake scope) :=
  Deadline.finite_earlier
    (ControllerTimer.finite_dueAt clocked.setpointPublishTimer
      kLocalSetpointPublishInterval_finite)
    (ControllerTimer.finite_dueAt clocked.modeRequestTimer rfl)

theorem onTick_ahead (clock : scope.controller.currentTime = .fin t)
    (clocked : scope.leaf.Clocked) (settled : scope.leaf.Settled)
    (noState : scope.controller.sensorData.stateStats.isNew = false)
    (ahead : Deadline.Ahead (.fin t) (nextWake scope)) :
    (onTick scope).controller = scope.controller := by
  unfold nextWake at ahead
  rw [Deadline.ahead_earlier
    (ControllerTimer.finite_dueAt clocked.setpointPublishTimer
      kLocalSetpointPublishInterval_finite)
    (ControllerTimer.finite_dueAt clocked.modeRequestTimer rfl)] at ahead
  have publishes : publishSetpointIfDue scope = scope := by
    unfold publishSetpointIfDue
    rw [DroneController.publishSetpointIfDue_ahead clock clocked.setpointPublishTimer
      settled.running ahead.1]
  have asks : requestOffboardModeIfDue scope = scope := by
    unfold requestOffboardModeIfDue
    rw [DroneController.requestIfDue_ahead clock clocked.modeRequestTimer rfl
      (by decide +kernel) ahead.2]
  have unchanged : updateOffboardConfirmation scope = scope := by
    unfold updateOffboardConfirmation
    dsimp only
    rw [noState]
    rfl
  have done : postOffboardReadyOnce scope = scope := if_pos settled.posted
  unfold onTick
  rw [publishes, asks, unchanged, done]

end TakeoffOffboardRequestState

namespace TakeoffArmRequestState

variable {scope : Scope TakeoffArmRequestState} {t : ℚ}

structure Clocked (leaf : TakeoffArmRequestState) : Prop where
  setpointPublishTimer : leaf.setpointPublishTimer.Clocked
  armRequestTimer : leaf.armRequestTimer.Clocked

structure Settled (leaf : TakeoffArmRequestState) : Prop where
  running : leaf.setpointPublishTimer.started = true
  posted : leaf.armReadyEventPosted = true ∨ leaf.confirmedArmFrames < requiredArmFrames

theorem clocked_onEnter (clock : scope.controller.currentTime = .fin t) :
    (onEnter scope).leaf.Clocked := by
  unfold onEnter
  rw [clock]
  exact ⟨rfl, rfl⟩

/-- The frames and the event do not touch the timers. -/
theorem postArmReadyOnce_timers (scope : Scope TakeoffArmRequestState) :
    (postArmReadyOnce (updateArmConfirmation scope)).leaf.setpointPublishTimer =
        scope.leaf.setpointPublishTimer ∧
      (postArmReadyOnce (updateArmConfirmation scope)).leaf.armRequestTimer =
        scope.leaf.armRequestTimer := by
  unfold postArmReadyOnce updateArmConfirmation
  dsimp only
  repeat' split
  all_goals exact ⟨rfl, rfl⟩

theorem clocked_onTick (clock : scope.controller.currentTime = .fin t)
    (clocked : scope.leaf.Clocked) : (onTick scope).leaf.Clocked := by
  have clock' : (publishSetpointIfDue scope).controller.currentTime = .fin t :=
    (DroneController.publishSetpointIfDue_currentTime _ _).trans clock
  have asked : (requestArmIfDue (publishSetpointIfDue scope)).leaf.Clocked :=
    ⟨DroneController.clocked_publishSetpointIfDue clock clocked.setpointPublishTimer,
      DroneController.clocked_requestIfDue clock' clocked.armRequestTimer _ _⟩
  obtain ⟨publish, request⟩ := postArmReadyOnce_timers
    (requestArmIfDue (publishSetpointIfDue scope))
  unfold onTick
  exact ⟨publish ▸ asked.setpointPublishTimer, request ▸ asked.armRequestTimer⟩

theorem settled_onTick (scope : Scope TakeoffArmRequestState) :
    (onTick scope).leaf.Settled := by
  obtain ⟨publish, -⟩ := postArmReadyOnce_timers
    (requestArmIfDue (publishSetpointIfDue scope))
  constructor
  · unfold onTick
    rw [publish]
    exact scope.controller.running_publishSetpointIfDue _
  · unfold onTick postArmReadyOnce
    split
    next settled => exact settled
    · exact .inl rfl

theorem finite_nextWake (clocked : scope.leaf.Clocked) : Deadline.Finite (nextWake scope) :=
  Deadline.finite_earlier
    (ControllerTimer.finite_dueAt clocked.setpointPublishTimer
      kLocalSetpointPublishInterval_finite)
    (ControllerTimer.finite_dueAt clocked.armRequestTimer rfl)

theorem onTick_ahead (clock : scope.controller.currentTime = .fin t)
    (clocked : scope.leaf.Clocked) (settled : scope.leaf.Settled)
    (noState : scope.controller.sensorData.stateStats.isNew = false)
    (ahead : Deadline.Ahead (.fin t) (nextWake scope)) :
    (onTick scope).controller = scope.controller := by
  unfold nextWake at ahead
  rw [Deadline.ahead_earlier
    (ControllerTimer.finite_dueAt clocked.setpointPublishTimer
      kLocalSetpointPublishInterval_finite)
    (ControllerTimer.finite_dueAt clocked.armRequestTimer rfl)] at ahead
  have publishes : publishSetpointIfDue scope = scope := by
    unfold publishSetpointIfDue
    rw [DroneController.publishSetpointIfDue_ahead clock clocked.setpointPublishTimer
      settled.running ahead.1]
  have asks : requestArmIfDue scope = scope := by
    unfold requestArmIfDue
    rw [DroneController.requestIfDue_ahead clock clocked.armRequestTimer rfl
      (by decide +kernel) ahead.2]
  have unchanged : updateArmConfirmation scope = scope := by
    unfold updateArmConfirmation
    dsimp only
    rw [noState]
    rfl
  have done : postArmReadyOnce scope = scope := if_pos settled.posted
  unfold onTick
  rw [publishes, asks, unchanged, done]

end TakeoffArmRequestState

namespace TakeoffAscendingState

variable {scope : Scope TakeoffAscendingState} {t : ℚ}

structure Clocked (leaf : TakeoffAscendingState) : Prop where
  setpointPublishTimer : leaf.setpointPublishTimer.Clocked
  statusLogTimer : leaf.statusLogTimer.Clocked

structure Settled (leaf : TakeoffAscendingState) : Prop where
  running : leaf.setpointPublishTimer.started = true
  posted : leaf.timeoutEventPosted = true ∨ leaf.altitudeReachedEventPosted = true ∨
    leaf.confirmedSettledFrames < consecutiveSettledFrames

theorem clocked_onEnter (clock : scope.controller.currentTime = .fin t) :
    (onEnter scope).leaf.Clocked := by
  unfold onEnter
  rw [clock]
  exact ⟨rfl, rfl⟩

/-- The timeout, the frames and the event do not touch the timers. -/
theorem postTimeoutIfNeeded_timers (scope : Scope TakeoffAscendingState) :
    (postTimeoutIfNeeded scope).1.leaf.setpointPublishTimer = scope.leaf.setpointPublishTimer ∧
      (postTimeoutIfNeeded scope).1.leaf.statusLogTimer = scope.leaf.statusLogTimer := by
  unfold postTimeoutIfNeeded
  repeat' split
  all_goals exact ⟨rfl, rfl⟩

theorem postAltitudeReachedOnce_timers (scope : Scope TakeoffAscendingState) :
    (postAltitudeReachedOnce (updateAltitudeConfirmation scope)).leaf.setpointPublishTimer =
        scope.leaf.setpointPublishTimer ∧
      (postAltitudeReachedOnce (updateAltitudeConfirmation scope)).leaf.statusLogTimer =
        scope.leaf.statusLogTimer := by
  unfold postAltitudeReachedOnce updateAltitudeConfirmation
  dsimp only
  repeat' split
  all_goals exact ⟨rfl, rfl⟩

theorem clocked_onTick (clock : scope.controller.currentTime = .fin t)
    (clocked : scope.leaf.Clocked) : (onTick scope).leaf.Clocked := by
  have clock' : (publishSetpointIfDue scope).controller.currentTime = .fin t :=
    (DroneController.publishSetpointIfDue_currentTime _ _).trans clock
  have published : (publishSetpointIfDue scope).leaf.Clocked :=
    ⟨DroneController.clocked_publishSetpointIfDue clock clocked.setpointPublishTimer,
      clocked.statusLogTimer⟩
  have logged : (logStatusIfDue (publishSetpointIfDue scope)).leaf.Clocked := by
    unfold logStatusIfDue
    dsimp only
    rw [clock']
    split
    · exact published
    · exact ⟨published.setpointPublishTimer, rfl⟩
  have timed : (postTimeoutIfNeeded
      (logStatusIfDue (publishSetpointIfDue scope))).1.leaf.Clocked := by
    obtain ⟨publish, log⟩ := postTimeoutIfNeeded_timers
      (logStatusIfDue (publishSetpointIfDue scope))
    exact ⟨publish ▸ logged.setpointPublishTimer, log ▸ logged.statusLogTimer⟩
  unfold onTick
  dsimp only
  split
  · exact timed
  · obtain ⟨publish, log⟩ := postAltitudeReachedOnce_timers
      (postTimeoutIfNeeded (logStatusIfDue (publishSetpointIfDue scope))).1
    exact ⟨publish ▸ timed.setpointPublishTimer, log ▸ timed.statusLogTimer⟩

theorem settled_onTick (scope : Scope TakeoffAscendingState) : (onTick scope).leaf.Settled := by
  have running : (logStatusIfDue
      (publishSetpointIfDue scope)).leaf.setpointPublishTimer.started = true := by
    have started := scope.controller.running_publishSetpointIfDue scope.leaf.setpointPublishTimer
    unfold logStatusIfDue
    dsimp only
    split <;> exact started
  have timed := (postTimeoutIfNeeded_timers (logStatusIfDue (publishSetpointIfDue scope))).1
  unfold onTick
  dsimp only
  split
  next timedOut =>
    refine ⟨timed ▸ running, .inl ?_⟩
    unfold postTimeoutIfNeeded at timedOut ⊢
    split
    next posted => exact posted
    next notPosted =>
      rw [if_neg notPosted] at timedOut
      split at timedOut
      · cases timedOut
      next late =>
        rw [if_neg late]
  · refine ⟨((postAltitudeReachedOnce_timers _).1.trans timed) ▸ running, .inr ?_⟩
    unfold postAltitudeReachedOnce
    split
    next settled => exact settled
    · exact .inl rfl

theorem finite_nextWake (clocked : scope.leaf.Clocked) : Deadline.Finite (nextWake scope) :=
  Deadline.finite_earlier
    (ControllerTimer.finite_dueAt clocked.setpointPublishTimer
      kLocalSetpointPublishInterval_finite)
    (ControllerTimer.finite_dueAt clocked.statusLogTimer rfl)

theorem onTick_ahead (clock : scope.controller.currentTime = .fin t)
    (clocked : scope.leaf.Clocked) (settled : scope.leaf.Settled)
    (noPose : scope.controller.isWorldPoseNew = false)
    (inTime : scope.leaf.timeoutEventPosted = true ∨
      scope.controller.flightElapsed ≤ ascendingTimeout)
    (ahead : Deadline.Ahead (.fin t) (nextWake scope)) :
    (onTick scope).controller = scope.controller := by
  unfold nextWake at ahead
  rw [Deadline.ahead_earlier
    (ControllerTimer.finite_dueAt clocked.setpointPublishTimer
      kLocalSetpointPublishInterval_finite)
    (ControllerTimer.finite_dueAt clocked.statusLogTimer rfl)] at ahead
  have publishes : publishSetpointIfDue scope = scope := by
    unfold publishSetpointIfDue
    rw [DroneController.publishSetpointIfDue_ahead clock clocked.setpointPublishTimer
      settled.running ahead.1]
  have logs : logStatusIfDue scope = scope := by
    unfold logStatusIfDue
    dsimp only
    rw [clock]
    exact if_pos (ControllerTimer.elapsed_ahead clocked.statusLogTimer rfl (by decide +kernel)
      ahead.2)
  have unchanged : updateAltitudeConfirmation scope = scope := by
    unfold updateAltitudeConfirmation
    rw [noPose]
    split <;> rfl
  unfold onTick
  rw [publishes, logs]
  dsimp only
  by_cases timedOut : scope.leaf.timeoutEventPosted = true
  · have kept : postTimeoutIfNeeded scope = (scope, true) := if_pos timedOut
    rw [kept]
    rfl
  · have kept : postTimeoutIfNeeded scope = (scope, false) :=
      (if_neg timedOut).trans (if_pos (inTime.resolve_left timedOut))
    rw [kept]
    change (postAltitudeReachedOnce (updateAltitudeConfirmation scope)).controller = _
    rw [unchanged]
    unfold postAltitudeReachedOnce
    rw [if_pos (settled.posted.resolve_left timedOut)]

end TakeoffAscendingState

namespace LandingState

variable {scope : Scope LandingState} {t : ℚ}

structure Clocked (leaf : LandingState) : Prop where
  setpointPublishTimer : leaf.setpointPublishTimer.Clocked
  logTimer : leaf.logTimer.Clocked

/-- The settled frames, the feedback and a connected flight controller, on which the leaf
asks for a disarm or ends. -/
def touchdownDue (controller : DroneController) (leaf : LandingState) : Prop :=
  leaf.touchdownEventPosted = false ∧ consecutiveSettledFrames ≤ leaf.confirmedLandedFrames ∧
    landingFeedbackActive controller = true ∧ controller.sensorData.stateStats.isActive = true ∧
      SensorChecks.isFcuConnected controller.sensorData = true

/-- The setpoint is being repeated, and an armed vehicle has been asked to disarm. -/
structure Settled (controller : DroneController) (leaf : LandingState) : Prop where
  running : leaf.setpointPublishTimer.started = true
  requested : touchdownDue controller leaf →
    SensorChecks.isFcuArmed controller.sensorData = true → leaf.disarmRequested = true

theorem clocked_onEnter (clock : scope.controller.currentTime = .fin t) :
    (onEnter scope).leaf.Clocked := by
  have clock' : scope.controller.clearCustom1Request.currentTime = .fin t := clock
  unfold onEnter
  dsimp only
  rw [clock']
  exact ⟨rfl, rfl⟩

theorem touchdown_timers (scope : Scope LandingState) :
    (postTouchdownOnce (updateTouchdownConfirmation scope)).leaf.setpointPublishTimer =
        scope.leaf.setpointPublishTimer ∧
      (postTouchdownOnce (updateTouchdownConfirmation scope)).leaf.logTimer =
        scope.leaf.logTimer := by
  have confirmed : (updateTouchdownConfirmation scope).leaf.setpointPublishTimer =
        scope.leaf.setpointPublishTimer ∧
      (updateTouchdownConfirmation scope).leaf.logTimer = scope.leaf.logTimer := by
    unfold updateTouchdownConfirmation
    dsimp only
    repeat' split
    all_goals exact ⟨rfl, rfl⟩
  have posted : ∀ scope : Scope LandingState,
      (postTouchdownOnce scope).leaf.setpointPublishTimer = scope.leaf.setpointPublishTimer ∧
        (postTouchdownOnce scope).leaf.logTimer = scope.leaf.logTimer := by
    intro scope
    unfold postTouchdownOnce
    dsimp only
    repeat' split
    all_goals exact ⟨rfl, rfl⟩
  exact ⟨(posted _).1.trans confirmed.1, (posted _).2.trans confirmed.2⟩

theorem descend_timers (scope : Scope LandingState) :
    (descend scope).leaf.setpointPublishTimer =
        (scope.leaf.setpointPublishTimer.shouldRunEvery scope.controller.currentTime
          kLocalSetpointPublishInterval true).1 ∧
      ((descend scope).leaf.logTimer = scope.leaf.logTimer ∨
        (descend scope).leaf.logTimer =
          scope.leaf.logTimer.reset scope.controller.currentTime) := by
  unfold descend reportTimeoutIfNeeded logStatusIfDue publishSetpointIfDue
    updateDescentVelocityIfNeeded emitLandingSetpoint DroneController.emitFlightEffect
  dsimp only
  repeat' split
  all_goals first | exact ⟨rfl, .inl rfl⟩ | exact ⟨rfl, .inr rfl⟩

theorem clocked_onTick (clock : scope.controller.currentTime = .fin t)
    (clocked : scope.leaf.Clocked) : (onTick scope).leaf.Clocked := by
  obtain ⟨publish, log⟩ := touchdown_timers (descend scope)
  obtain ⟨repeated, logged⟩ := descend_timers scope
  rw [clock] at repeated logged
  unfold onTick
  constructor
  · rw [publish, repeated]
    exact clocked.setpointPublishTimer.shouldRunEvery _ t
  · rw [log]
    rcases logged with same | reset
    · rw [same]
      exact clocked.logTimer
    · rw [reset]
      rfl

/-- A tick that had to ask for the disarm has asked. -/
theorem requested_postTouchdownOnce
    (due : touchdownDue (postTouchdownOnce scope).controller (postTouchdownOnce scope).leaf)
    (armed : SensorChecks.isFcuArmed (postTouchdownOnce scope).controller.sensorData = true) :
    (postTouchdownOnce scope).leaf.disarmRequested = true := by
  obtain ⟨unposted, frames, feedback, active, connected⟩ := due
  unfold postTouchdownOnce at *
  dsimp only at *
  split
  next early =>
    rw [if_pos early] at unposted frames
    rcases early with posted | few
    · rw [posted] at unposted
      cases unposted
    · exact absurd frames (not_le.mpr few)
  next ready =>
    simp only [if_neg ready] at *
    split
    next lost =>
      simp only [if_pos lost] at *
      simp [feedback, active, connected] at lost
    next alive =>
      simp only [if_neg alive] at *
      split
      next disarmed =>
        simp only [if_pos disarmed] at *
        split at armed
        · simp [armed] at disarmed
        · simp [DroneController.emitFlightSignal] at armed
          simp [armed] at disarmed
      next running =>
        simp only [if_neg running] at *
        split
        · rfl
        next asked => simpa using asked

theorem settled_onTick (scope : Scope LandingState) :
    Settled (onTick scope).controller (onTick scope).leaf := by
  refine ⟨?_, requested_postTouchdownOnce⟩
  unfold onTick
  rw [(touchdown_timers (descend scope)).1, (descend_timers scope).1]
  exact ControllerTimer.started_shouldRunEvery _ _ _

theorem finite_nextWake (clocked : scope.leaf.Clocked) : Deadline.Finite (nextWake scope) :=
  Deadline.finite_earlier
    (ControllerTimer.finite_dueAt clocked.setpointPublishTimer
      kLocalSetpointPublishInterval_finite)
    (ControllerTimer.finite_dueAt clocked.logTimer rfl)

/-- Without a fresh flight-controller state nothing is asked for twice. -/
theorem postTouchdownOnce_quiet
    (noState : scope.controller.sensorData.stateStats.isNew = false)
    (requested : touchdownDue scope.controller scope.leaf →
      SensorChecks.isFcuArmed scope.controller.sensorData = true →
        scope.leaf.disarmRequested = true) :
    (postTouchdownOnce scope).controller = scope.controller := by
  unfold postTouchdownOnce
  dsimp only
  split
  · rfl
  next open_ =>
    split
    · rfl
    next alive =>
      split
      · rw [noState]
        rfl
      next armed =>
        have due : touchdownDue scope.controller scope.leaf := by
          simp only [Bool.or_eq_true, Bool.not_eq_true', not_or, Bool.not_eq_false] at alive
          exact ⟨by simpa using fun posted => open_ (.inl posted),
            not_lt.mp fun few => open_ (.inr few), alive.1.1, alive.1.2, alive.2⟩
        rw [requested due (by simpa using armed)]
        rfl

theorem onTick_ahead (clock : scope.controller.currentTime = .fin t)
    (clocked : scope.leaf.Clocked) (settled : Settled scope.controller scope.leaf)
    (noPose : scope.controller.isWorldPoseNew = false)
    (noState : scope.controller.sensorData.stateStats.isNew = false)
    (ahead : Deadline.Ahead (.fin t) (nextWake scope)) :
    (onTick scope).controller = scope.controller := by
  unfold nextWake at ahead
  rw [Deadline.ahead_earlier
    (ControllerTimer.finite_dueAt clocked.setpointPublishTimer
      kLocalSetpointPublishInterval_finite)
    (ControllerTimer.finite_dueAt clocked.logTimer rfl)] at ahead
  have steady : updateDescentVelocityIfNeeded scope = scope := by
    unfold updateDescentVelocityIfNeeded
    rw [noPose]
    rfl
  have publishes : publishSetpointIfDue scope = scope := by
    unfold publishSetpointIfDue
    rw [clock, ControllerTimer.shouldRunEvery_ahead clocked.setpointPublishTimer
      kLocalSetpointPublishInterval_finite settled.running ahead.1]
    rfl
  have logs : logStatusIfDue scope = scope := by
    unfold logStatusIfDue
    dsimp only
    rw [clock]
    exact if_pos (ControllerTimer.elapsed_ahead clocked.logTimer rfl (by decide +kernel)
      ahead.2)
  have falls : descend scope = reportTimeoutIfNeeded scope := by
    unfold descend
    rw [steady, publishes, logs]
  have reported : (reportTimeoutIfNeeded scope).controller = scope.controller ∧
      (reportTimeoutIfNeeded scope).leaf.disarmRequested = scope.leaf.disarmRequested ∧
      (reportTimeoutIfNeeded scope).leaf.touchdownEventPosted = scope.leaf.touchdownEventPosted ∧
      (reportTimeoutIfNeeded scope).leaf.confirmedLandedFrames =
        scope.leaf.confirmedLandedFrames := by
    unfold reportTimeoutIfNeeded
    repeat' split
    all_goals exact ⟨rfl, rfl, rfl, rfl⟩
  have confirmed : ∀ scope : Scope LandingState, scope.controller.isWorldPoseNew = false →
      (updateTouchdownConfirmation scope).controller = scope.controller ∧
      (updateTouchdownConfirmation scope).leaf.disarmRequested = scope.leaf.disarmRequested ∧
      (updateTouchdownConfirmation scope).leaf.touchdownEventPosted =
        scope.leaf.touchdownEventPosted ∧
      (updateTouchdownConfirmation scope).leaf.confirmedLandedFrames ≤
        scope.leaf.confirmedLandedFrames := by
    intro scope old
    unfold updateTouchdownConfirmation
    dsimp only
    rw [old]
    split
    · exact ⟨rfl, rfl, rfl, le_rfl⟩
    · split
      · exact ⟨rfl, rfl, rfl, Nat.zero_le _⟩
      · exact ⟨rfl, rfl, rfl, le_rfl⟩
  obtain ⟨kept, asked, posted, frames⟩ := confirmed (reportTimeoutIfNeeded scope)
    (reported.1 ▸ noPose)
  rw [reported.1] at kept
  rw [reported.2.1] at asked
  rw [reported.2.2.1] at posted
  rw [reported.2.2.2] at frames
  unfold onTick
  rw [falls]
  refine (postTouchdownOnce_quiet (by rw [kept]; exact noState) ?_).trans kept
  intro due armed
  rw [kept] at due armed
  rw [asked]
  exact settled.requested ⟨posted ▸ due.1, due.2.1.trans frames, due.2.2⟩ armed

end LandingState

end MultirotorController
