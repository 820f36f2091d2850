import MultirotorController.Common.TimeOrder
import MultirotorController.Uav.StateMachine.Custom1Segments

/-!
# Ticks of Custom1 that return

A tick throws only where it subtracts two clock values: the start of the cached
reference, the planning time of the active planner sample and the time of the
last log of a strategy are subtracted from the present time. While those that
the configured backend reads are in reach, the tick returns.
-/

namespace MultirotorController

open Procedure Relation

/-- The difference of the two times is a `Duration`. -/
def Time.reaches (now t : Time) : Bool := (now.sub t).isOk

theorem Time.sub_of_reaches {now t : Time} (reached : now.reaches t = true) :
    ∃ difference, now.sub t = .ok difference := by
  unfold Time.reaches at reached
  cases subtracted : now.sub t with
  | ok difference => exact ⟨difference, rfl⟩
  | error error =>
      rw [subtracted] at reached
      cases reached

namespace ActiveTrajectoryCache

variable [Xgc2Math] {cache : ActiveTrajectoryCache} {now : Time}

/-- The start of a usable reference can be subtracted from the present time. -/
def inReach (cache : ActiveTrajectoryCache) (now : Time) : Bool :=
  !cache.valid || now.reaches cache.startTime

omit [Xgc2Math] in
theorem elapsed_ok (reached : now.reaches cache.startTime = true) :
    ∃ t, cache.elapsed now = .ok t := by
  obtain ⟨difference, subtracted⟩ := Time.sub_of_reaches reached
  exact ⟨_, by unfold elapsed; rw [subtracted]; rfl⟩

theorem reaches_of_usable (reach : cache.inReach now = true) {curve : Trajectory.Curve}
    (usable : cache.usable = some curve) : now.reaches cache.startTime = true := by
  simpa [inReach, valid, usable] using reach

theorem sample_ok (reach : cache.inReach now = true) : ∃ point, cache.sample now = .ok point := by
  unfold sample
  cases usable : cache.usable with
  | none => exact ⟨none, rfl⟩
  | some curve =>
      obtain ⟨t, elapsed⟩ := elapsed_ok (reaches_of_usable reach usable)
      exact ⟨_, by dsimp only; rw [elapsed]; rfl⟩

theorem finiteTimeRemaining_ok (reach : cache.inReach now = true) :
    ∃ remaining, cache.finiteTimeRemaining now = .ok remaining := by
  unfold finiteTimeRemaining
  cases usable : cache.usable with
  | none => exact ⟨none, rfl⟩
  | some curve =>
      obtain ⟨t, elapsed⟩ := elapsed_ok (reaches_of_usable reach usable)
      dsimp only
      rw [elapsed]
      split
      · exact ⟨none, rfl⟩
      · exact ⟨_, rfl⟩

end ActiveTrajectoryCache

section Lift

variable {sample : MpcTrajectoryState} {now : Time}

/-- The planning time of a valid sample can be subtracted from the present time, where the
lift does so. -/
def MpcTrajectoryState.inReach (sample : MpcTrajectoryState) (now : Time) : Bool :=
  !sample.isValid || sample.planningTime.isZero || now.isZero ||
    now.reaches sample.planningTime

theorem liftWorldLocal_ok (reach : sample.inReach now = true) (defaultMask : UInt16)
    (enableYaw : Bool) : ∃ setpoint, liftWorldLocal sample now defaultMask enableYaw =
      .ok setpoint := by
  unfold liftWorldLocal
  by_cases valid : sample.isValid = true
  · have read : (!sample.planningTime.isZero && !now.isZero) = true →
        ∃ difference, now.sub sample.planningTime = .ok difference := by
      intro subtracts
      simp only [Bool.and_eq_true, Bool.not_eq_true'] at subtracts
      refine Time.sub_of_reaches ?_
      simpa [MpcTrajectoryState.inReach, valid, subtracts.1, subtracts.2] using reach
    rw [valid]
    by_cases subtracts : (!sample.planningTime.isZero && !now.isZero) = true
    · obtain ⟨difference, subtracted⟩ := read subtracts
      rw [subtracts, subtracted]
      by_cases negative : difference.toSec < 0
      · exact ⟨_, if_pos negative⟩
      · exact ⟨_, if_neg negative⟩
    · rw [Bool.not_eq_true] at subtracts
      rw [subtracts]
      exact ⟨_, if_neg (by decide)⟩
  · rw [Bool.not_eq_true] at valid
    rw [valid]
    exact ⟨_, rfl⟩

theorem Time.reaches_self (now : Time) : now.reaches now = true := by
  unfold reaches sub
  rw [UInt64.sub_self]
  decide

/-- What a lift for the backend subtracts from the present time is in reach; a segment that
has not begun is not subtracted. -/
def MpcTrajectoryState.liftInReach (sample : MpcTrajectoryState) (now : Time)
    (backend : TrackingBackend) (px4LocalLift : Px4LocalLiftMode) : Bool :=
  sample.inReach now ||
    usesStageEffectiveTime backend px4LocalLift && backend != .pvaSmc &&
      decide (now < sample.planningTime)

/-- The window of a segment is decided without a throw, and an open one is in reach. -/
theorem stageWindowOpen_ok (reach : sample.inReach now = true ∨ now < sample.planningTime)
    (planningPeriod : Double) : ∃ open_, stageWindowOpen sample now planningPeriod = .ok open_ ∧
      (open_ = true → sample.inReach now = true) := by
  unfold stageWindowOpen
  by_cases closed : (!passThroughReferenceReady sample || sample.planningTime.isZero ||
      now.isZero || decide (now < sample.planningTime)) = true
  · rw [if_pos closed]
    exact ⟨false, rfl, nofun⟩
  · rw [if_neg closed]
    simp only [Bool.or_eq_true, not_or, Bool.not_eq_true, decide_eq_true_eq,
      Bool.not_eq_false'] at closed
    obtain ⟨⟨⟨ready, planned⟩, started⟩, due⟩ := closed
    have reach := reach.resolve_right due
    have valid : sample.isValid = true := by
      by_contra invalid
      simp [passThroughReferenceReady, invalid] at ready
    have near : now.reaches sample.planningTime = true := by
      simpa [MpcTrajectoryState.inReach, valid, planned, started] using reach
    obtain ⟨difference, subtracted⟩ := Time.sub_of_reaches near
    rw [subtracted]
    exact ⟨_, rfl, fun _ => reach⟩

theorem liftForBackend_ok {backend : TrackingBackend} {px4LocalLift : Px4LocalLiftMode}
    (reach : sample.liftInReach now backend px4LocalLift = true) 
    (planner : backend = .smc ∨ backend = .dfbc ∨ backend = .px4Local)
    (planningPeriod : Double) (defaultMask : UInt16) (enableYaw : Bool) :
    ∃ lifted, liftForBackend sample now planningPeriod defaultMask enableYaw backend
      px4LocalLift = .ok lifted := by
  have staged : usesStageEffectiveTime backend px4LocalLift = true →
      sample.inReach now = true ∨ now < sample.planningTime := by
    intro timed
    have notPva : backend ≠ .pvaSmc := by rcases planner with rfl | rfl | rfl <;> decide
    simpa [MpcTrajectoryState.liftInReach, timed, notPva] using reach
  unfold liftForBackend
  by_cases geometric : (backend == .smc || backend == .dfbc) = true
  · obtain ⟨open_, decided, near⟩ := stageWindowOpen_ok
      (staged (by simp [usesStageEffectiveTime, geometric])) planningPeriod
    rw [if_pos geometric, decided]
    cases open_ with
    | false => exact ⟨_, rfl⟩
    | true =>
        obtain ⟨setpoint, lifted⟩ := liftWorldLocal_ok (near rfl) 0
          (backend == .dfbc && enableYaw)
        by_cases world : smcWorldPvaAvailable sample.typeMask sample.coordinateFrame = true
        · rw [world, lifted]
          exact ⟨_, rfl⟩
        · rw [Bool.not_eq_true] at world
          rw [world]
          exact ⟨_, rfl⟩
  · rw [if_neg geometric]
    have px4Local : backend = .px4Local := by
      rcases planner with rfl | rfl | px4Local
      · exact (geometric rfl).elim
      · exact (geometric rfl).elim
      · exact px4Local
    by_cases held : (px4LocalLift == .zeroOrderHold) = true
    · obtain ⟨open_, decided, -⟩ := stageWindowOpen_ok
        (staged (by simp [usesStageEffectiveTime, px4Local, held])) planningPeriod
      have near : sample.inReach sample.planningTime = true := by
        simp [MpcTrajectoryState.inReach, Time.reaches_self]
      obtain ⟨setpoint, lifted⟩ := liftWorldLocal_ok near defaultMask enableYaw
      rw [if_pos held, decided]
      cases open_ with
      | false => exact ⟨_, rfl⟩
      | true =>
          rw [lifted]
          exact ⟨_, rfl⟩
    · rw [if_neg held]
      split
      · exact ⟨_, rfl⟩
      · have near : sample.inReach now = true := by
          simpa [MpcTrajectoryState.liftInReach, usesStageEffectiveTime, geometric, held]
            using reach
        obtain ⟨setpoint, lifted⟩ := liftWorldLocal_ok near defaultMask enableYaw
        rw [lifted]
        exact ⟨_, rfl⟩

end Lift

namespace Custom1State

variable [Xgc2Math]

/-- What the rest of a tick reads of the past: the cached reference and the strategies. -/
structure SameTimes (before after : Scope Custom1State) : Prop where
  currentTime : currentTime after = currentTime before
  cache : after.controller.activeTrajectoryCache = before.controller.activeTrajectoryCache
  dfbcStrategy : after.leaf.dfbcStrategy = before.leaf.dfbcStrategy
  smcStrategy : after.leaf.smcStrategy = before.leaf.smcStrategy

theorem SameTimes.trans {first second third : Scope Custom1State}
    (earlier : SameTimes first second) (later : SameTimes second third) : SameTimes first third :=
  ⟨later.currentTime.trans earlier.currentTime, later.cache.trans earlier.cache,
    later.dfbcStrategy.trans earlier.dfbcStrategy, later.smcStrategy.trans earlier.smcStrategy⟩

theorem sameTimes_of_acts {before after : Scope Custom1State}
    (acts : ReflTransGen SameTimes before after) : SameTimes before after := by
  induction acts with
  | refl => exact ⟨rfl, rfl, rfl, rfl⟩
  | tail _ same ih => exact ih.trans same

/-- The procedure returns. -/
abbrev Returning {α : Type} (program : Custom1M α) (scope : Scope Custom1State) : Prop :=
  Completes SameTimes program scope

/-- The clock is readable, and the cached reference is in reach of it. -/
structure CacheInReach (scope : Scope Custom1State) (now : Time) : Prop where
  clock : Time.fromSec (currentTime scope) = .ok now
  cache : scope.controller.activeTrajectoryCache.inReach now = true

namespace CacheInReach

variable {before after : Scope Custom1State} {now : Time}

theorem same (reach : CacheInReach before now) (same : SameTimes before after) :
    CacheInReach after now :=
  ⟨by rw [same.currentTime]; exact reach.clock, by rw [same.cache]; exact reach.cache⟩

theorem acts (reach : CacheInReach before now) (acts : ReflTransGen SameTimes before after) :
    CacheInReach after now := reach.same (sameTimes_of_acts acts)

end CacheInReach

section Updates

variable (scope : Scope Custom1State)

theorem sameTimes_publishCurrentHoverIfDue :
    SameTimes scope (publishCurrentHoverIfDue scope) := by
  unfold publishCurrentHoverIfDue
  split <;> exact ⟨rfl, rfl, rfl, rfl⟩

theorem sameTimes_holdTrackingPosition : SameTimes scope (holdTrackingPosition scope) := by
  unfold holdTrackingPosition
  dsimp only
  split <;> exact ⟨rfl, rfl, rfl, rfl⟩

theorem sameTimes_postReferenceFinished : SameTimes scope (postReferenceFinished scope) := by
  unfold postReferenceFinished
  split
  · exact sameTimes_publishCurrentHoverIfDue scope
  · exact ⟨rfl, rfl, rfl, rfl⟩

theorem sameTimes_waitForReference : SameTimes scope (waitForReference scope) := by
  have waited : SameTimes scope (logNmpcWait (setTrackingArmed scope false)) :=
    ⟨rfl, rfl, rfl, rfl⟩
  exact waited.trans (sameTimes_publishCurrentHoverIfDue _)

end Updates

section Nmpc

variable {scope : Scope Custom1State} {now : Time}

theorem returning_clockTime_bind {α : Type} {next : Time → Custom1M α}
    (clock : Time.fromSec (currentTime scope) = .ok now) (rest : Returning (next now) scope) :
    Returning (clockTime >>= next) scope := by
  simp only [Returning, Completes, clockTime, wp_bind, wp_get, wp_rethrow, clock]
  exact rest

theorem returning_publishBackupSetpoint (reach : CacheInReach scope now) :
    Returning publishBackupSetpoint scope := by
  obtain ⟨sampled, found⟩ := ActiveTrajectoryCache.sample_ok reach.cache
  refine .get_bind (returning_clockTime_bind reach.clock (.rethrow_bind found ?_))
  cases sampled with
  | none => exact .of_modify (.single ⟨rfl, rfl, rfl, rfl⟩)
  | some reference => exact .of_modify (.single ⟨rfl, rfl, rfl, rfl⟩)

theorem returning_referenceWillFinishBeforeNextHorizon (reach : CacheInReach scope now) :
    Returning referenceWillFinishBeforeNextHorizon scope := by
  obtain ⟨remaining, computed⟩ := ActiveTrajectoryCache.finiteTimeRemaining_ok reach.cache
  refine .get_bind (returning_clockTime_bind reach.clock (.rethrow_bind computed ?_))
  cases remaining <;> exact .of_pure _

theorem returning_referenceWillFinishBeforeNextSynchronousUpdate
    (reach : CacheInReach scope now) :
    Returning referenceWillFinishBeforeNextSynchronousUpdate scope := by
  obtain ⟨remaining, computed⟩ := ActiveTrajectoryCache.finiteTimeRemaining_ok reach.cache
  refine .get_bind (returning_clockTime_bind reach.clock (.rethrow_bind computed ?_))
  cases remaining <;> exact .of_pure _

theorem returning_consumeFailure (reach : CacheInReach scope now) (result : NmpcSolveResult) :
    Returning (consumeFailure result) scope := by
  refine .ite ?_ ?_
  · intro _
    refine .bind (returning_referenceWillFinishBeforeNextHorizon reach)
      fun finishing middle acts => ?_
    refine .ite (fun _ => ?_) fun _ => ?_
    · exact .of_modify (.single (sameTimes_postReferenceFinished middle))
    · exact .modify_bind (.single ⟨rfl, rfl, rfl, rfl⟩)
        (returning_publishBackupSetpoint ((reach.acts acts).same ⟨rfl, rfl, rfl, rfl⟩))
  · intro _
    refine .modify_bind (.single ⟨rfl, rfl, rfl, rfl⟩) (.get_bind (.ite (fun _ => ?_) fun _ => ?_))
    · exact .of_modify (.single ⟨rfl, rfl, rfl, rfl⟩)
    · exact returning_publishBackupSetpoint (reach.same ⟨rfl, rfl, rfl, rfl⟩)

theorem returning_resultIsFresh (reach : CacheInReach scope now) (result : NmpcSolveResult) :
    Returning (resultIsFresh result) scope := by
  refine .get_bind (.ite (fun _ => .of_pure _) fun _ => ?_)
  exact returning_clockTime_bind reach.clock (.of_pure _)

theorem returning_consumeNmpcResult (reach : CacheInReach scope now) :
    Returning consumeNmpcResult scope := by
  refine .get_bind ?_
  cases offered : offeredResult scope with
  | none => exact .of_pure _
  | some result =>
      have taken : CacheInReach (takeResult result scope) now := reach.same ⟨rfl, rfl, rfl, rfl⟩
      refine .modify_bind (.single ⟨rfl, rfl, rfl, rfl⟩)
        (.bind (returning_resultIsFresh taken result) fun fresh middle acts => ?_)
      refine .ite (fun _ => .ite (fun _ => ?_) fun _ => ?_) fun _ => .of_pure _
      · exact .of_modify (.single ⟨rfl, rfl, rfl, rfl⟩)
      · exact returning_consumeFailure (taken.acts acts) result

theorem returning_giveUpDeadline (reach : CacheInReach scope now) :
    Returning giveUpDeadline scope := by
  refine .get_bind (.ite (fun _ => ?_) fun _ => .of_pure _)
  exact .modify_bind (.single ⟨rfl, rfl, rfl, rfl⟩)
    (returning_publishBackupSetpoint (reach.same ⟨rfl, rfl, rfl, rfl⟩))

theorem returning_publishIfStale (reach : CacheInReach scope now) :
    Returning publishIfStale scope := by
  refine .get_bind (.ite (fun _ => ?_) fun _ => .of_pure _)
  refine .modify_bind (.single ⟨rfl, rfl, rfl, rfl⟩) (.get_bind (.ite (fun _ => ?_) fun _ => ?_))
  · exact returning_publishBackupSetpoint (reach.same ⟨rfl, rfl, rfl, rfl⟩)
  · exact .of_pure _

theorem sameTimes_dispatchIfDue (scope : Scope Custom1State) :
    SameTimes scope (dispatchIfDue scope) := by
  unfold dispatchIfDue
  split <;> exact ⟨rfl, rfl, rfl, rfl⟩

theorem returning_superviseRequests (reach : CacheInReach scope now) :
    Returning superviseRequests scope := by
  refine .bind (returning_giveUpDeadline reach) fun _ awaited acts => ?_
  have awaiting := reach.acts acts
  refine .get_bind (.ite (fun _ => ?_) fun _ => ?_)
  · exact .of_modify (.single (sameTimes_waitForReference awaited))
  · have armed : CacheInReach (setTrackingArmed awaited true) now :=
      awaiting.same ⟨rfl, rfl, rfl, rfl⟩
    refine .modify_bind (.single ⟨rfl, rfl, rfl, rfl⟩)
      (.bind (returning_referenceWillFinishBeforeNextHorizon armed) fun finishing middle acts => ?_)
    refine .ite (fun _ => ?_) fun _ => ?_
    · exact .of_modify (.single (sameTimes_postReferenceFinished middle))
    · refine .bind (returning_publishIfStale (armed.acts acts)) fun _ published _ => ?_
      exact .of_modify (.single (sameTimes_dispatchIfDue published))

theorem sameTimes_reopenGeneration (scope : Scope Custom1State) :
    SameTimes scope (reopenGeneration scope) := by
  unfold reopenGeneration
  split <;> exact ⟨rfl, rfl, rfl, rfl⟩

theorem returning_handleNmpcEventMode (reach : CacheInReach scope now) :
    Returning handleNmpcEventMode scope := by
  have reopened := reach.same (sameTimes_reopenGeneration scope)
  refine .modify_bind (.single (sameTimes_reopenGeneration scope))
    (.bind (returning_consumeNmpcResult reopened) fun _ consumed acts => ?_)
  exact returning_superviseRequests (reopened.acts acts)

end Nmpc

section Synchronous

variable {scope : Scope Custom1State} {now : Time}

/-- The throttled log of a strategy can tell how long ago the last one was. -/
def logInReach (config : ControllerConfig) (lastLogTime now : Time) : Bool :=
  !config.nmpc.enableTimingLog || lastLogTime.isZero || now.reaches lastLogTime

omit [Xgc2Math] in
theorem timingLogDue_ok {config : ControllerConfig} {lastLogTime : Time}
    (reach : logInReach config lastLogTime now = true) :
    ∃ due, timingLogDue config lastLogTime now = .ok due := by
  unfold timingLogDue
  by_cases logging : config.nmpc.enableTimingLog = true
  · by_cases first : lastLogTime.isZero = true
    · rw [logging, first]
      exact ⟨true, rfl⟩
    · have near : now.reaches lastLogTime = true := by
        simpa [logInReach, logging, first] using reach
      obtain ⟨difference, subtracted⟩ := Time.sub_of_reaches near
      rw [Bool.not_eq_true] at first
      rw [logging, first, subtracted]
      exact ⟨_, rfl⟩
  · rw [Bool.not_eq_true] at logging
    rw [logging]
    exact ⟨false, rfl⟩

theorem dfbcUpdate_ok [Libm] (strategy : DfbcAttitudeRateStrategy)
    (input : TrackingStrategyInput)
    (reach : logInReach strategy.config strategy.lastLogTime input.now = true) :
    ∃ result, (strategy.update input).2 = .ok result := by
  obtain ⟨due, decided⟩ := timingLogDue_ok reach
  cases updated : (strategy.update input).2 with
  | ok result => exact ⟨result, rfl⟩
  | error error =>
      dsimp only [DfbcAttitudeRateStrategy.update] at updated
      rw [decided] at updated
      repeat' split at updated
      all_goals cases updated
      next thrown => cases thrown

theorem smcUpdate_ok (strategy : SmcAccelerationStrategy) (input : TrackingStrategyInput)
    (reach : logInReach strategy.config strategy.lastLogTime input.now = true) :
    ∃ result, (strategy.update input).2 = .ok result := by
  obtain ⟨due, decided⟩ := timingLogDue_ok reach
  cases updated : (strategy.update input).2 with
  | ok result => exact ⟨result, rfl⟩
  | error error =>
      dsimp only [SmcAccelerationStrategy.update] at updated
      rw [decided] at updated
      repeat' split at updated
      all_goals cases updated
      next thrown => cases thrown

/-- Entering configures the strategy and restarts its log, if it restarts at all. -/
theorem enterDfbcStrategy_logInReach [Libm]
    (reach : logInReach scope.controller.config scope.leaf.dfbcStrategy.lastLogTime now = true) :
    logInReach (enterDfbcStrategy now scope).leaf.dfbcStrategy.config
      (enterDfbcStrategy now scope).leaf.dfbcStrategy.lastLogTime now = true := by
  unfold enterDfbcStrategy
  dsimp only
  split
  · exact reach
  · unfold DfbcAttitudeRateStrategy.enter
    split
    · exact reach
    · simp [logInReach, Time.isZero]

/-- The law returns; a failure under the cached reference samples the reference. -/
theorem completes_runDfbcStrategy [Libm] {streaming : Bool}
    (clock : Time.fromSec (currentTime scope) = .ok now)
    (cached : streaming = true ∨ scope.controller.activeTrajectoryCache.inReach now = true)
    (log : logInReach scope.leaf.dfbcStrategy.config scope.leaf.dfbcStrategy.lastLogTime now =
      true) (reference : UavReferencePoint) :
    Completes (fun _ _ => True) (runDfbcStrategy now streaming reference) scope := by
  obtain ⟨result, updated⟩ := dfbcUpdate_ok scope.leaf.dfbcStrategy
    { sensor := scope.controller.sensorData, reference, now } log
  refine .get_bind (.ite (fun _ => .of_modify (.single trivial)) fun _ => ?_)
  refine .modify_bind (.single trivial)
    (.rethrow_bind updated (.ite (fun _ => ?_) fun _ => .of_modify (.single trivial)))
  refine .modify_bind (.single trivial)
    (.ite (fun _ => .of_modify (.single trivial)) fun stored => ?_)
  have reach := cached.resolve_left stored
  refine Completes.mono (fun _ _ _ => trivial)
    (returning_publishBackupSetpoint (?_ : CacheInReach _ now))
  exact ⟨clock, reach⟩

theorem returning_cachedReferenceReady (reach : CacheInReach scope now) :
    Returning cachedReferenceReady scope := by
  refine .get_bind (.ite (fun _ => ?_) fun _ => ?_)
  · exact .modify_bind (.single (sameTimes_waitForReference scope)) (.of_pure _)
  · have armed : CacheInReach (setTrackingArmed scope true) now :=
      reach.same ⟨rfl, rfl, rfl, rfl⟩
    refine .modify_bind (.single ⟨rfl, rfl, rfl, rfl⟩)
      (.bind (returning_referenceWillFinishBeforeNextSynchronousUpdate armed)
        fun finishing middle _ => ?_)
    refine .ite (fun _ => ?_) fun _ => .of_pure _
    exact .modify_bind (.single (sameTimes_postReferenceFinished middle)) (.of_pure _)

/-- A procedure that returns, followed by one that is only known to return. -/
theorem completes_bind {α β : Type} {program : Custom1M α} {next : α → Custom1M β}
    (first : Returning program scope)
    (second : ∀ value middle, SameTimes scope middle →
      Completes (fun _ _ => True) (next value) middle) :
    Completes (fun _ _ => True) (program >>= next) scope := by
  unfold Completes
  rw [wp_bind]
  refine wp_mono first ?_ fun _ _ thrown => thrown
  intro value middle acts
  exact wp_mono (second value middle (sameTimes_of_acts acts)) (fun _ _ _ => .single trivial)
    fun _ _ thrown => thrown

theorem completes_followCachedReference [Libm] (reach : CacheInReach scope now)
    (log : logInReach scope.leaf.dfbcStrategy.config scope.leaf.dfbcStrategy.lastLogTime now =
      true) : Completes (fun _ _ => True) (followCachedReference now) scope := by
  refine completes_bind (returning_cachedReferenceReady reach) fun ready middle same => ?_
  refine .ite (fun _ => .get_bind (.ite (fun _ => ?_) fun _ => .of_pure _)) fun _ => .of_pure _
  have kept := reach.same same
  obtain ⟨sampled, found⟩ := ActiveTrajectoryCache.sample_ok kept.cache
  refine .rethrow_bind found ?_
  cases sampled with
  | none => exact .of_modify (.single trivial)
  | some reference =>
      exact completes_runDfbcStrategy kept.clock (.inr kept.cache)
        (by rw [same.dfbcStrategy]; exact log) reference

/-- The lift of the promoted segment is in reach. -/
def planInReach (scope : Scope Custom1State) (now : Time) : Bool :=
  (promotedBuffer scope now).active.liftInReach now scope.controller.backend
    scope.controller.config.px4LocalLift

/-- The scope once the pending segment has been promoted. -/
def promotedScope (scope : Scope Custom1State) (now : Time) : Scope Custom1State :=
  { scope with
    controller := { scope.controller with mpcTrajectoryBuffer := promotedBuffer scope now } }

theorem completes_promote_bind {α : Type} {backend : TrackingBackend} {next : Bool → Custom1M α}
    {action : Scope Custom1State → Scope Custom1State → Prop}
    (related : action scope (promotedScope scope now))
    (configured : scope.controller.backend = backend)
    (rest : ∀ switched, Completes action (next switched) (promotedScope scope now)) :
    Completes action (promote now backend >>= next) scope := by
  subst configured
  simp only [Completes, promote, wp_bind, wp_get, wp_set, wp_pure]
  exact wp_mono (rest _) (fun _ _ acts => (ReflTransGen.single related).trans acts)
    fun _ _ thrown => thrown

theorem returning_streamingReference [Libm] (dfbc : scope.controller.backend = .dfbc)
    (plan : planInReach scope now = true) : Returning (streamingReference now) scope := by
  refine completes_promote_bind ⟨rfl, rfl, rfl, rfl⟩ dfbc fun _ => .get_bind ?_
  unfold planInReach at plan
  rw [dfbc] at plan
  obtain ⟨lifted, computed⟩ := liftForBackend_ok plan (.inr (.inl rfl))
    scope.controller.config.planningPeriod scope.controller.config.localTypeMask
    scope.controller.config.enableYawControl
  refine .rethrow_bind computed (.ite (fun _ => ?_) fun _ => ?_)
  · refine .modify_bind (.single ?_) (.of_pure _)
    repeat' split
    · exact sameTimes_holdTrackingPosition _
    · exact ⟨rfl, rfl, rfl, rfl⟩
    · exact sameTimes_publishCurrentHoverIfDue _
  · exact .modify_bind (.single ⟨rfl, rfl, rfl, rfl⟩) (.of_pure _)

theorem completes_followStreamedReference [Libm] (dfbc : scope.controller.backend = .dfbc)
    (clock : Time.fromSec (currentTime scope) = .ok now) (plan : planInReach scope now = true)
    (log : logInReach scope.leaf.dfbcStrategy.config scope.leaf.dfbcStrategy.lastLogTime now =
      true) : Completes (fun _ _ => True) (followStreamedReference now) scope := by
  refine completes_bind (returning_streamingReference dfbc plan) fun reference middle same => ?_
  cases reference with
  | none => exact .of_pure _
  | some reference =>
      refine .get_bind (.ite (fun _ => ?_) fun _ => .of_pure _)
      exact completes_runDfbcStrategy (by rw [same.currentTime]; exact clock) (.inl rfl)
        (by rw [same.dfbcStrategy]; exact log) reference

theorem completes_clockTime_bind {α : Type} {next : Time → Custom1M α}
    (clock : Time.fromSec (currentTime scope) = .ok now)
    (rest : Completes (fun _ _ => True) (next now) scope) :
    Completes (fun _ _ => True) (clockTime >>= next) scope := by
  simp only [Completes, clockTime, wp_bind, wp_get, wp_rethrow, clock]
  exact rest

theorem completes_handleSynchronousAttitudeRateMode [Libm]
    (dfbc : scope.controller.backend = .dfbc)
    (clock : Time.fromSec (currentTime scope) = .ok now)
    (plan : scope.controller.config.dfbc.referenceSource = .plannerSetpoint →
      planInReach scope now = true)
    (cache : scope.controller.config.dfbc.referenceSource ≠ .plannerSetpoint →
      scope.controller.activeTrajectoryCache.inReach now = true)
    (log : logInReach scope.controller.config scope.leaf.dfbcStrategy.lastLogTime now = true) :
    Completes (fun _ _ => True) handleSynchronousAttitudeRateMode scope := by
  have log := enterDfbcStrategy_logInReach log
  have entered : (enterDfbcStrategy now scope).controller = scope.controller := by
    unfold enterDfbcStrategy
    dsimp only
    split <;> rfl
  have clock' : Time.fromSec (currentTime (enterDfbcStrategy now scope)) = .ok now := by
    unfold currentTime
    rw [entered]
    exact clock
  refine completes_clockTime_bind clock (.modify_bind (.single trivial) (.get_bind ?_))
  refine .ite (fun streamed => ?_) fun stored => ?_
  · rw [entered] at streamed
    refine completes_followStreamedReference (by rw [entered]; exact dfbc) clock' ?_ log
    unfold planInReach promotedBuffer
    rw [entered]
    exact plan streamed
  · rw [entered] at stored
    exact completes_followCachedReference ⟨clock', by rw [entered]; exact cache stored⟩ log

end Synchronous

section Smc

variable {scope : Scope Custom1State} {now : Time}

theorem completes_runSmcStrategy
    (log : logInReach scope.controller.config scope.leaf.smcStrategy.lastLogTime now = true)
    (sample : MpcTrajectoryState) (lifted : Setpoint) :
    Completes (fun _ _ => True) (runSmcStrategy now sample lifted) scope := by
  obtain ⟨result, updated⟩ := smcUpdate_ok
    (scope.leaf.smcStrategy.configure scope.controller.config)
    { sensor := scope.controller.sensorData, now
      reference := {
        position := ⟨lifted.x, lifted.y, lifted.z⟩
        velocity := ⟨lifted.vx, lifted.vy, lifted.vz⟩
        acceleration := ⟨lifted.ax, lifted.ay, lifted.az⟩ }
      stamp := sample.planningTime, typeMask := lifted.typeMask } log
  refine .get_bind (.modify_bind (.single trivial) (.rethrow_bind updated ?_))
  exact .ite (fun _ => .of_modify (.single trivial)) fun _ => .of_modify (.single trivial)

theorem completes_handleSmcMode (smc : scope.controller.backend = .smc)
    (clock : Time.fromSec (currentTime scope) = .ok now) (plan : planInReach scope now = true)
    (log : logInReach scope.controller.config scope.leaf.smcStrategy.lastLogTime now = true) :
    Completes (fun _ _ => True) handleSmcMode scope := by
  have entered : (enterSmcStrategy scope).controller = scope.controller := by
    unfold enterSmcStrategy
    split <;> rfl
  have log : logInReach (enterSmcStrategy scope).controller.config
      (enterSmcStrategy scope).leaf.smcStrategy.lastLogTime now = true := by
    rw [entered]
    unfold enterSmcStrategy
    split
    · exact log
    · change logInReach _ (scope.leaf.smcStrategy.enter _).1.lastLogTime now = true
      unfold SmcAccelerationStrategy.enter
      split
      · exact log
      · simp [logInReach, Time.isZero]
  refine completes_clockTime_bind clock (.modify_bind (.single trivial) ?_)
  refine completes_promote_bind trivial (by rw [entered]; exact smc) fun _ => .get_bind ?_
  unfold planInReach at plan
  rw [smc] at plan
  obtain ⟨lifted, computed⟩ := liftForBackend_ok plan (.inl rfl)
    scope.controller.config.planningPeriod scope.controller.config.localTypeMask false
  have same : (promotedScope (enterSmcStrategy scope) now).controller.mpcTrajectoryBuffer =
      promotedBuffer scope now := by
    unfold promotedScope promotedBuffer
    rw [entered]
  have config : (promotedScope (enterSmcStrategy scope) now).controller.config =
      scope.controller.config := by
    unfold promotedScope
    rw [entered]
  refine .rethrow_bind (by rw [same, config]; exact computed) (.ite (fun _ => ?_) fun _ => ?_)
  · exact .of_modify (.single trivial)
  · refine .modify_bind (.single trivial) (.get_bind (.ite (fun _ => ?_) fun _ => ?_))
    · exact .of_modify (.single trivial)
    · refine completes_runSmcStrategy ?_ _ _
      exact log

theorem completes_handlePvaSmcMode [Libm] (pvaSmc : scope.controller.backend = .pvaSmc)
    (clock : Time.fromSec (currentTime scope) = .ok now)
    (plan : (promotedBuffer scope now).active.inReach now = true) :
    Completes (fun _ _ => True) handlePvaSmcMode scope := by
  refine completes_clockTime_bind clock
    (completes_promote_bind trivial pvaSmc fun switched => .get_bind ?_)
  dsimp only
  cases (promotedScope scope now).controller.sensorData.pairedLocalPv with
  | none => exact .of_pure _
  | some paired =>
      refine .ite (fun _ => .of_pure _) fun _ => ?_
      obtain ⟨lifted, computed⟩ := liftWorldLocal_ok plan scope.controller.config.localTypeMask
        scope.controller.config.enableYawControl
      exact .rethrow_bind computed (.of_modify (.single trivial))

theorem completes_handlePx4LocalPassThrough (px4Local : scope.controller.backend = .px4Local)
    (clock : Time.fromSec (currentTime scope) = .ok now) (plan : planInReach scope now = true) :
    Completes (fun _ _ => True) handlePx4LocalPassThrough scope := by
  refine completes_clockTime_bind clock
    (completes_promote_bind trivial px4Local fun _ => .get_bind ?_)
  unfold planInReach at plan
  rw [px4Local] at plan
  obtain ⟨lifted, computed⟩ := liftForBackend_ok plan (.inr (.inr rfl))
    scope.controller.config.planningPeriod scope.controller.config.localTypeMask
    scope.controller.config.enableYawControl
  refine .rethrow_bind computed (.ite (fun _ => .of_modify (.single trivial)) fun _ => ?_)
  exact .ite (fun _ => .of_modify (.single trivial)) fun _ => .of_modify (.single trivial)

end Smc

section Tick

variable (scope : Scope Custom1State) (now : Time)

/-- The clock values that the configured backend subtracts from the present time are in
reach of it. -/
def tickInReach : Bool :=
  match scope.controller.backend with
  | .nmpc => scope.controller.activeTrajectoryCache.inReach now
  | .dfbc =>
      logInReach scope.controller.config scope.leaf.dfbcStrategy.lastLogTime now &&
        if scope.controller.config.dfbc.referenceSource = .plannerSetpoint then
          planInReach scope now
        else scope.controller.activeTrajectoryCache.inReach now
  | .smc =>
      logInReach scope.controller.config scope.leaf.smcStrategy.lastLogTime now &&
        planInReach scope now
  | .pvaSmc => (promotedBuffer scope now).active.inReach now
  | .px4Local => planInReach scope now

variable {scope now}

/-- A tick whose clock values are in reach returns. -/
theorem completes_onTick [Libm] (clock : Time.fromSec (currentTime scope) = .ok now)
    (reach : tickInReach scope now = true) :
    Completes (fun _ _ => True) onTick scope := by
  refine .get_bind ?_
  unfold tickInReach at reach
  cases backend : scope.controller.backend with
  | nmpc =>
      rw [backend] at reach
      exact (returning_handleNmpcEventMode ⟨clock, reach⟩).mono fun _ _ _ => trivial
  | dfbc =>
      rw [backend] at reach
      simp only [Bool.and_eq_true] at reach
      obtain ⟨log, source⟩ := reach
      refine completes_handleSynchronousAttitudeRateMode backend clock ?_ ?_ log
      · intro streamed
        rw [if_pos streamed] at source
        exact source
      · intro stored
        rw [if_neg stored] at source
        exact source
  | smc =>
      rw [backend] at reach
      simp only [Bool.and_eq_true] at reach
      exact completes_handleSmcMode backend clock reach.2 reach.1
  | pvaSmc =>
      rw [backend] at reach
      exact completes_handlePvaSmcMode backend clock reach
  | px4Local =>
      rw [backend] at reach
      exact completes_handlePx4LocalPassThrough backend clock reach

end Tick

end Custom1State

end MultirotorController
