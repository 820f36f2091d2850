import MultirotorController.Uav.StateMachine.Custom1

/-!
# What a tick of Custom1 can do

A tick is a sequence of actions, and an action is one of the few things below,
each with the guard under which the source performs it. Whatever every action
preserves, every tick preserves, also a tick that throws.
-/

namespace MultirotorController

open Procedure Relation

namespace Custom1State

variable [Xgc2Math]

/-- The leaf changes nothing that identifies the session, its requests or its last
success. -/
structure Bookkeeping (scope : Scope Custom1State) (leaf : Custom1State) : Prop where
  controlGeneration : leaf.controlGeneration = scope.leaf.controlGeneration
  requestSequence : leaf.requestSequence = scope.leaf.requestSequence
  inFlightSequence : leaf.inFlightSequence = scope.leaf.inFlightSequence
  consumedResultSequence : leaf.consumedResultSequence = scope.leaf.consumedResultSequence
  lastSuccessTime : scope.controller.backend = .nmpc →
    leaf.lastSuccessTime = scope.leaf.lastSuccessTime
  frozenHover : leaf.trackingFrozenHover = scope.leaf.trackingFrozenHover ∨
    leaf.trackingFrozenHover = measurementHoverSetpoint scope.controller

/-- Where a setpoint that Custom1 publishes comes from. -/
inductive SetpointOrigin (scope : Scope Custom1State) : Setpoint → Prop
  | measured : SetpointOrigin scope (measurementHoverSetpoint scope.controller)
  | frozen : SetpointOrigin scope scope.leaf.trackingFrozenHover
  | backup {now : Time} {reference : UavReferencePoint} :
      scope.controller.activeTrajectoryCache.sample now = .ok (some reference) →
      SetpointOrigin scope (backupSetpoint reference)
  | law {setpoint : Setpoint} : scope.controller.backend = .smc ∨
      scope.controller.backend = .pvaSmc → setpoint.coordinateFrame = 1 →
      SetpointOrigin scope setpoint
  | passThrough {setpoint : Setpoint} : scope.controller.backend = .px4Local →
      SetpointOrigin scope setpoint

/-- The reference that the geometric law follows: the planner's stream, or a sample of
the cached reference. -/
def TrackedReference (scope : Scope Custom1State) (reference : UavReferencePoint) : Prop :=
  scope.controller.config.dfbc.referenceSource = .plannerSetpoint ∨
    ∃ now, scope.controller.activeTrajectoryCache.sample now = .ok (some reference)

/-- The result passed the test of its stamp in this tick. -/
def FreshAtTick (scope : Scope Custom1State) (result : NmpcSolveResult) : Prop :=
  ∃ now, Time.fromSec (currentTime scope) = .ok now ∧
    NmpcResultBuffer.isResultTimestampFresh result.stamp now
      scope.controller.config.nmpc.resultTimeout = true

inductive Custom1Action : Scope Custom1State → Scope Custom1State → Prop
  | note {scope : Scope Custom1State} (timer : ControllerTimer) {leaf : Custom1State} :
      Bookkeeping scope leaf →
      Custom1Action scope
        ⟨{ scope.controller with nmpcStaleOutputLogTimer := timer }, leaf⟩
  | publish {scope : Scope Custom1State} {setpoint : Setpoint} :
      SetpointOrigin scope setpoint → Custom1Action scope (publishSetpoint scope setpoint)
  | finish (scope : Scope Custom1State) :
      Custom1Action scope
        { scope with controller := scope.controller.emitFlightSignal .referenceFinished }
  | buffer (scope : Scope Custom1State) (samples : MpcTrajectoryBuffer) :
      Custom1Action scope
        { scope with controller := { scope.controller with mpcTrajectoryBuffer := samples } }
  | reopen (scope : Scope Custom1State) : Custom1Action scope (reopenGeneration scope)
  | take {scope : Scope Custom1State} {result : NmpcSolveResult} :
      offeredResult scope = some result → Custom1Action scope (takeResult result scope)
  | succeed {scope : Scope Custom1State} {result : NmpcSolveResult} :
      offeredResult scope = some result → FreshAtTick scope result → result.success = true →
      Custom1Action scope (consumeSuccess result (takeResult result scope))
  | repeatTarget {scope : Scope Custom1State} :
      mayRepeatTarget scope = true → Custom1Action scope (publishAttitude scope)
  | dispatch {scope : Scope Custom1State} :
      scope.controller.activeTrajectoryCache.valid = true → scope.leaf.requestInFlight = false →
      Custom1Action scope (dispatchNmpcRequest scope)
  | track {scope : Scope Custom1State} {leaf : Custom1State} (target : AttitudeRateTarget)
      {reference : UavReferencePoint} :
      scope.controller.backend = .dfbc → TrackedReference scope reference →
      Bookkeeping scope leaf →
      Custom1Action scope
        (publishAttitude ⟨{ scope.controller with attitudeRateTarget := target }, leaf⟩)

theorem Custom1Action.ofLeaf {scope : Scope Custom1State} {leaf : Custom1State}
    (kept : Bookkeeping scope leaf) : Custom1Action scope ⟨scope.controller, leaf⟩ :=
  .note scope.controller.nmpcStaleOutputLogTimer kept

/-- Effects of a tracking tick. -/
def trackingEffect (effect : FlightEffect) : Prop :=
  effect.isSetpoint ∨ effect.isAttitude ∨ effect.isNmpcRequest

open DroneController in
theorem Custom1Action.emits {before after : Scope Custom1State}
    (action : Custom1Action before after) :
    Emits trackingEffect (· = .referenceFinished) before.controller after.controller := by
  cases action with
  | note timer kept => exact .of_silent
  | @publish setpoint origin =>
      exact .via { before.controller with setpoint } .of_silent
        (.emitFlightEffect _ (.inl rfl))
  | finish => exact .emitFlightSignal _ rfl
  | buffer samples => exact .of_silent
  | reopen =>
      unfold reopenGeneration
      split <;> exact .of_silent
  | take offered => exact .of_silent
  | @succeed result offered fresh success =>
      exact .via { before.controller with attitudeRateTarget := result.target }
        .of_silent (.emitFlightEffect _ (.inr (.inl rfl)))
  | repeatTarget recent => exact .emitFlightEffect _ (.inr (.inl rfl))
  | dispatch cached idle =>
      exact .via { before.controller with
          nmpcResultBuffer := before.controller.nmpcResultBuffer.reserveRequestSequence }
        .of_silent (.emitFlightEffect _ (.inr (.inr rfl)))
  | track target dfbc reference kept =>
      exact .via { before.controller with attitudeRateTarget := target } .of_silent
        (.emitFlightEffect _ (.inr (.inl rfl)))

/-- Only the pass-through of PX4_LOCAL publishes in a foreign frame. -/
theorem SetpointOrigin.coordinateFrame {scope : Scope Custom1State} {setpoint : Setpoint}
    (origin : SetpointOrigin scope setpoint) (notPx4Local : scope.controller.backend ≠ .px4Local) :
    setpoint.coordinateFrame = 1 := by
  cases origin with
  | measured => rfl
  | frozen => exact scope.leaf.frozenFrame
  | backup => rfl
  | law _ world => exact world
  | passThrough px4Local => exact (notPx4Local px4Local).elim

open DroneController in
theorem Custom1Action.keepsFrame {before after : Scope Custom1State}
    (action : Custom1Action before after) (notPx4Local : before.controller.backend ≠ .px4Local) :
    KeepsFrame before.controller after.controller := by
  cases action with
  | publish origin => exact .inr (origin.coordinateFrame notPx4Local)
  | reopen =>
      unfold reopenGeneration
      split <;> exact .inl rfl
  | _ => exact .inl rfl

/-- No tick writes the cached reference. -/
theorem Custom1Action.activeTrajectoryCache {before after : Scope Custom1State}
    (action : Custom1Action before after) :
    after.controller.activeTrajectoryCache = before.controller.activeTrajectoryCache := by
  cases action with
  | reopen =>
      unfold reopenGeneration
      split <;> rfl
  | _ => rfl

section Updates

variable (scope : Scope Custom1State)

/-- Sequences of actions. -/
abbrev Acts : Scope Custom1State → Scope Custom1State → Prop := ReflTransGen Custom1Action

theorem acts_setTrackingArmed (armed : Bool) : Acts scope (setTrackingArmed scope armed) :=
  .single (.ofLeaf ⟨rfl, rfl, rfl, rfl, fun _ => rfl, .inl rfl⟩)

theorem acts_countFailure : Acts scope (countFailure scope) :=
  .single (.ofLeaf ⟨rfl, rfl, rfl, rfl, fun _ => rfl, .inl rfl⟩)

theorem acts_logNmpcWait : Acts scope (logNmpcWait scope) :=
  .single (.ofLeaf ⟨rfl, rfl, rfl, rfl, fun _ => rfl, .inl rfl⟩)

theorem acts_logTrajectoryWait : Acts scope (logTrajectoryWait scope) :=
  .single (.ofLeaf ⟨rfl, rfl, rfl, rfl, fun _ => rfl, .inl rfl⟩)

theorem acts_logStaleOutput : Acts scope (logStaleOutput scope) :=
  .single (.note _ ⟨rfl, rfl, rfl, rfl, fun _ => rfl, .inl rfl⟩)

theorem acts_publishCurrentHoverSetpoint : Acts scope (publishCurrentHoverSetpoint scope) :=
  .single (.publish .measured)

theorem acts_publishCurrentHoverIfDue : Acts scope (publishCurrentHoverIfDue scope) := by
  unfold publishCurrentHoverIfDue
  split
  · exact acts_publishCurrentHoverSetpoint scope
  · exact .refl

theorem acts_holdTrackingPosition : Acts scope (holdTrackingPosition scope) := by
  unfold holdTrackingPosition
  dsimp only
  refine .tail ?_ (.publish .frozen)
  split
  · exact .refl
  · exact .single (.ofLeaf ⟨rfl, rfl, rfl, rfl, fun _ => rfl, .inr rfl⟩)

theorem acts_postReferenceFinished : Acts scope (postReferenceFinished scope) := by
  unfold postReferenceFinished
  split
  · exact acts_publishCurrentHoverIfDue scope
  · have marked : Acts scope (markReferenceFinished scope) :=
      .single (.ofLeaf ⟨rfl, rfl, rfl, rfl, fun _ => rfl, .inl rfl⟩)
    exact .tail (marked.trans (acts_publishCurrentHoverSetpoint _)) (.finish _)

theorem acts_waitForReference : Acts scope (waitForReference scope) :=
  ((acts_setTrackingArmed scope false).trans (acts_logNmpcWait _)).trans
    (acts_publishCurrentHoverIfDue _)

end Updates

open DroneController in
theorem Acts.emits {before after : Scope Custom1State} (acts : Acts before after) :
    Emits trackingEffect (· = .referenceFinished) before.controller after.controller := by
  induction acts with
  | refl => exact .refl _
  | tail _ action ih => exact ih.trans action.emits

theorem Acts.activeTrajectoryCache {before after : Scope Custom1State} (acts : Acts before after) :
    after.controller.activeTrajectoryCache = before.controller.activeTrajectoryCache := by
  induction acts with
  | refl => rfl
  | tail _ action ih => exact action.activeTrajectoryCache.trans ih

theorem Acts.backend {before after : Scope Custom1State} (acts : Acts before after) :
    after.controller.backend = before.controller.backend :=
  congrArg ControllerConfig.trackingBackend acts.emits.config

open DroneController in
theorem Acts.keepsFrame {before after : Scope Custom1State} (acts : Acts before after)
    (notPx4Local : before.controller.backend ≠ .px4Local) :
    KeepsFrame before.controller after.controller := by
  induction acts with
  | refl => exact .inl rfl
  | tail earlier action ih =>
      exact ih.trans (action.keepsFrame ((Acts.backend earlier).symm ▸ notPx4Local))

section Procedures

variable (scope : Scope Custom1State)

/-- A procedure that only performs actions, from the given scope. -/
abbrev Acting {α : Type} (program : Custom1M α) : Prop := Performs Custom1Action program scope

/-- Reading the clock changes nothing. -/
theorem acting_clockTime_bind {α : Type} {next : Time → Custom1M α}
    (rest : ∀ now, Time.fromSec (currentTime scope) = .ok now → Acting scope (next now)) :
    Acting scope (clockTime >>= next) := by
  have read : Acting scope (rethrow (Time.fromSec (currentTime scope)) >>= next) :=
    .rethrow_bind rest
  simpa only [Acting, Performs, clockTime, wp_bind, wp_get] using read

/-- Promoting a planner sample changes the buffer alone. -/
theorem acting_promote_bind {α : Type} {now : Time} {backend : TrackingBackend}
    {next : Bool → Custom1M α}
    (rest : ∀ switched samples, Acting { scope with
      controller := { scope.controller with mpcTrajectoryBuffer := samples } } (next switched)) :
    Acting scope (promote now backend >>= next) := by
  let promoted := promoteTrajectorySample scope.controller.mpcTrajectoryBuffer now backend
    scope.controller.config.px4LocalLift
  have stored : Acting scope (set { scope with
      controller := { scope.controller with mpcTrajectoryBuffer := promoted.1 } } >>=
      fun _ => next promoted.2) :=
    .set_bind (.single (.buffer scope _)) (rest _ _)
  simpa only [Acting, Performs, promote, wp_bind, wp_get, wp_set, wp_pure] using stored

theorem acting_publishBackupSetpoint : Acting scope publishBackupSetpoint := by
  refine .get_bind (acting_clockTime_bind scope fun now _ => .rethrow_bind ?_)
  intro sampled found
  cases sampled with
  | none => exact .of_modify (acts_publishCurrentHoverSetpoint scope)
  | some reference => exact .of_modify (.single (.publish (.backup found)))

theorem acting_referenceWillFinishBeforeNextHorizon :
    Acting scope referenceWillFinishBeforeNextHorizon := by
  refine .get_bind (acting_clockTime_bind scope fun now _ => .rethrow_bind ?_)
  intro remaining _
  cases remaining <;> exact .of_pure _

theorem acting_referenceWillFinishBeforeNextSynchronousUpdate :
    Acting scope referenceWillFinishBeforeNextSynchronousUpdate := by
  refine .get_bind (acting_clockTime_bind scope fun now _ => .rethrow_bind ?_)
  intro remaining _
  cases remaining <;> exact .of_pure _

theorem acting_consumeFailure (result : NmpcSolveResult) :
    Acting scope (consumeFailure result) := by
  refine .ite ?_ ?_
  · intro _
    refine .bind (acting_referenceWillFinishBeforeNextHorizon scope) fun finishing middle _ => ?_
    refine .ite (fun _ => .of_modify (acts_postReferenceFinished middle)) fun _ => ?_
    exact .modify_bind (acts_countFailure middle) (acting_publishBackupSetpoint _)
  · intro _
    refine .modify_bind (acts_countFailure scope) (.get_bind (.ite ?_ ?_))
    · intro recent
      exact .of_modify (.single (.repeatTarget recent))
    · intro _
      exact acting_publishBackupSetpoint _

/-- The test of the stamp changes nothing and decides freshness; without a clock value it
throws, or finds the result stale. -/
theorem wp_resultIsFresh {result : NmpcSolveResult}
    {returns : Bool → Scope Custom1State → Prop} {throws : RuntimeError → Scope Custom1State → Prop}
    (onReturn : ∀ fresh, (fresh = true ↔ FreshAtTick scope result) → returns fresh scope)
    (onThrow : ∀ error, ¬FreshAtTick scope result → throws error scope) :
    wp (resultIsFresh result) returns throws scope := by
  simp only [resultIsFresh, clockTime, wp_bind, wp_get, wp_ite, wp_pure, wp_rethrow]
  split
  next unreadable =>
    refine onReturn false ⟨by simp, ?_⟩
    rintro ⟨now, clock, -⟩
    obtain ⟨nonneg, finite⟩ := Time.fromSec_ok clock
    simp [nonneg, finite] at unreadable
  next =>
    cases clock : Time.fromSec (currentTime scope) with
    | error error =>
        refine onThrow error ?_
        rintro ⟨now, readable, -⟩
        cases clock.symm.trans readable
    | ok now =>
        refine onReturn _ ⟨fun fresh => ⟨now, clock, fresh⟩, ?_⟩
        rintro ⟨time, readable, fresh⟩
        cases clock.symm.trans readable
        exact fresh

/-- A success is taken and published in one action. -/
theorem acting_consumeNmpcResult : Acting scope consumeNmpcResult := by
  refine .get_bind ?_
  cases offered : offeredResult scope with
  | none => exact .of_pure _
  | some result =>
      have taken : Acts scope (takeResult result scope) := .single (.take offered)
      simp only [Performs, wp_bind, wp_modify]
      refine wp_resultIsFresh (takeResult result scope) ?_ fun _ _ => taken
      intro fresh isFresh
      cases fresh with
      | false => exact taken
      | true =>
          simp only [if_true]
          split
          next success =>
            exact .single (.succeed offered (isFresh.mp rfl) success)
          next =>
            exact wp_mono (acting_consumeFailure (takeResult result scope) result)
              (fun _ _ later => taken.trans later) fun _ _ later => taken.trans later

theorem acting_giveUpDeadline : Acting scope giveUpDeadline := by
  refine .get_bind (.ite (fun _ => ?_) fun _ => .of_pure _)
  exact .modify_bind
    (.single (.ofLeaf ⟨rfl, rfl, rfl, rfl, fun _ => rfl, .inl rfl⟩))
    (acting_publishBackupSetpoint _)

theorem acting_publishIfStale : Acting scope publishIfStale := by
  refine .get_bind (.ite (fun _ => ?_) fun _ => .of_pure _)
  refine .modify_bind (acts_logStaleOutput scope) (.get_bind (.ite (fun _ => ?_) ?_))
  · exact acting_publishBackupSetpoint _
  · exact fun _ => .of_pure _

/-- A request needs a cached reference and no request in flight. -/
theorem acts_dispatchIfDue
    (cached : scope.controller.activeTrajectoryCache.valid = true) :
    Acts scope (dispatchIfDue scope) := by
  unfold dispatchIfDue
  split
  next due =>
    refine .single (.dispatch cached ?_)
    by_contra inFlight
    simp [shouldDispatchNmpc, inFlight] at due
  next => exact .refl

theorem acting_superviseRequests : Acting scope superviseRequests := by
  refine .bind (acting_giveUpDeadline scope) fun _ awaited _ => ?_
  refine .get_bind (.ite (fun _ => .of_modify (acts_waitForReference awaited)) fun cached => ?_)
  have cached : awaited.controller.activeTrajectoryCache.valid = true := by simpa using cached
  refine .modify_bind (acts_setTrackingArmed awaited true) ?_
  refine .bind (acting_referenceWillFinishBeforeNextHorizon _) fun finishing armed armedActs => ?_
  refine .ite (fun _ => .of_modify (acts_postReferenceFinished armed)) fun _ => ?_
  refine .bind (acting_publishIfStale armed) fun _ published publishedActs => ?_
  refine .of_modify (acts_dispatchIfDue published ?_)
  rw [Acts.activeTrajectoryCache publishedActs, Acts.activeTrajectoryCache armedActs]
  exact cached

theorem acting_handleNmpcEventMode : Acting scope handleNmpcEventMode :=
  .modify_bind (.single (.reopen scope))
    (.bind (acting_consumeNmpcResult _) fun _ consumed _ => acting_superviseRequests consumed)

theorem acts_enterDfbcStrategy [Libm] (now : Time) : Acts scope (enterDfbcStrategy now scope) := by
  unfold enterDfbcStrategy
  dsimp only
  split <;> exact .single (.ofLeaf ⟨rfl, rfl, rfl, rfl, fun _ => rfl, .inl rfl⟩)

/-- Holding or hovering while no streamed reference is due. -/
theorem acting_streamingReference [Libm] (now : Time) :
    Acting scope (streamingReference now) := by
  refine acting_promote_bind scope fun _ samples => .get_bind (.rethrow_bind fun lifted _ => ?_)
  refine .ite (fun _ => ?_) fun _ => ?_
  · refine .modify_bind ?_ (.of_pure _)
    dsimp only
    repeat' split
    · exact acts_holdTrackingPosition _
    · exact .refl
    · exact acts_publishCurrentHoverIfDue _
  · exact .modify_bind (acts_setTrackingArmed _ true) (.of_pure _)

theorem acting_cachedReferenceReady : Acting scope cachedReferenceReady := by
  refine .get_bind (.ite (fun _ => ?_) fun _ => ?_)
  · exact .modify_bind (acts_waitForReference scope) (.of_pure _)
  · refine .modify_bind (acts_setTrackingArmed scope true) ?_
    refine .bind (acting_referenceWillFinishBeforeNextSynchronousUpdate _)
      fun finishing armed _ => ?_
    refine .ite (fun _ => ?_) fun _ => .of_pure _
    exact .modify_bind (acts_postReferenceFinished armed) (.of_pure _)

theorem acting_runDfbcStrategy [Libm] (now : Time) (streaming : Bool)
    {reference : UavReferencePoint} (dfbc : scope.controller.backend = .dfbc)
    (tracked : TrackedReference scope reference) :
    Acting scope (runDfbcStrategy now streaming reference) := by
  refine .get_bind (.ite (fun _ => ?_) fun _ => ?_)
  · exact .of_modify (acts_publishCurrentHoverSetpoint scope)
  · refine .modify_bind (.single (.ofLeaf ⟨rfl, rfl, rfl, rfl, fun _ => rfl, .inl rfl⟩))
      (.rethrow_bind fun result _ => .ite (fun _ => ?_) fun _ => ?_)
    · refine .modify_bind ((acts_countFailure _).trans (acts_logTrajectoryWait _)) ?_
      refine .ite (fun _ => ?_) fun _ => ?_
      · exact .of_modify (acts_holdTrackingPosition _)
      · exact acting_publishBackupSetpoint _
    · refine .of_modify (.single (.track _ dfbc tracked ?_))
      refine ⟨rfl, rfl, rfl, rfl, fun nmpc => ?_, .inl rfl⟩
      cases dfbc.symm.trans nmpc

theorem acting_followStreamedReference [Libm] (now : Time)
    (dfbc : scope.controller.backend = .dfbc)
    (streamed : scope.controller.config.dfbc.referenceSource = .plannerSetpoint) :
    Acting scope (followStreamedReference now) := by
  refine .bind (acting_streamingReference scope now) fun reference middle acts => ?_
  cases reference with
  | none => exact .of_pure _
  | some reference =>
      refine .get_bind (.ite (fun _ => ?_) fun _ => .of_pure _)
      refine acting_runDfbcStrategy middle now true ((Acts.backend acts).trans dfbc) (.inl ?_)
      rw [(Acts.emits acts).config]
      exact streamed

theorem acting_followCachedReference [Libm] (now : Time)
    (dfbc : scope.controller.backend = .dfbc) :
    Acting scope (followCachedReference now) := by
  refine .bind (acting_cachedReferenceReady scope) fun ready middle acts => ?_
  refine .ite (fun _ => ?_) fun _ => .of_pure _
  refine .get_bind (.ite (fun _ => .rethrow_bind fun sampled found => ?_) fun _ => .of_pure _)
  cases sampled with
  | none => exact .of_modify (acts_publishCurrentHoverSetpoint middle)
  | some reference =>
      exact acting_runDfbcStrategy middle now false ((Acts.backend acts).trans dfbc)
        (.inr ⟨now, found⟩)

theorem acting_handleSynchronousAttitudeRateMode [Libm]
    (dfbc : scope.controller.backend = .dfbc) :
    Acting scope handleSynchronousAttitudeRateMode := by
  refine acting_clockTime_bind scope fun now _ => ?_
  have entered := acts_enterDfbcStrategy scope now
  have dfbc := entered.backend.trans dfbc
  refine .modify_bind entered (.get_bind (.ite (fun streamed => ?_) fun _ => ?_))
  · exact acting_followStreamedReference _ now dfbc streamed
  · exact acting_followCachedReference _ now dfbc

theorem acts_smcWithoutReference : Acts scope (smcWithoutReference scope) := by
  unfold smcWithoutReference
  repeat' split
  · exact (acts_logTrajectoryWait scope).trans (acts_holdTrackingPosition _)
  · exact .single (.publish .frozen)
  · exact .refl
  · exact (acts_logTrajectoryWait scope).trans (acts_publishCurrentHoverIfDue _)

theorem acts_enterSmcStrategy : Acts scope (enterSmcStrategy scope) := by
  unfold enterSmcStrategy
  split
  · exact .refl
  · exact .single (.ofLeaf ⟨rfl, rfl, rfl, rfl, fun _ => rfl, .inl rfl⟩)

theorem acts_noteSmcSuccess (smc : scope.controller.backend = .smc) :
    Acts scope (noteSmcSuccess scope) := by
  refine .single (.ofLeaf ⟨rfl, rfl, rfl, rfl, fun nmpc => ?_, .inl rfl⟩)
  simp [smc] at nmpc

theorem acting_runSmcStrategy (now : Time) (sample : MpcTrajectoryState) (lifted : Setpoint)
    (smc : scope.controller.backend = .smc) :
    Acting scope (runSmcStrategy now sample lifted) := by
  refine .get_bind (.modify_bind
    (.single (.ofLeaf ⟨rfl, rfl, rfl, rfl, fun _ => rfl, .inl rfl⟩)) ?_)
  refine .rethrow_bind fun result updated => .ite (fun _ => ?_) fun _ => ?_
  · exact .of_modify (((acts_countFailure _).trans (acts_logTrajectoryWait _)).trans
      (acts_holdTrackingPosition _))
  · exact .of_modify (.tail (acts_noteSmcSuccess _ smc)
      (.publish (.law (.inl smc) (SmcAccelerationStrategy.update_frame _ updated))))

theorem acting_handleSmcMode (smc : scope.controller.backend = .smc) :
    Acting scope handleSmcMode := by
  refine acting_clockTime_bind scope fun now _ => ?_
  have entered := acts_enterSmcStrategy scope
  refine .modify_bind entered (acting_promote_bind _ fun _ samples => .get_bind ?_)
  refine .rethrow_bind fun lifted _ => .ite (fun _ => ?_) fun _ => ?_
  · exact .of_modify (acts_smcWithoutReference _)
  · refine .modify_bind (acts_setTrackingArmed _ true) (.get_bind (.ite (fun _ => ?_) fun _ => ?_))
    · refine .of_modify ?_
      dsimp only
      split
      · exact .refl
      · exact acts_publishCurrentHoverIfDue _
    · exact acting_runSmcStrategy _ now _ _ (entered.backend.trans smc)

theorem acting_handlePvaSmcMode [Libm] (pvaSmc : scope.controller.backend = .pvaSmc) :
    Acting scope handlePvaSmcMode := by
  refine acting_clockTime_bind scope fun now _ => acting_promote_bind _ fun switched samples => ?_
  refine .get_bind ?_
  dsimp only
  cases scope.controller.sensorData.pairedLocalPv with
  | none => exact .of_pure _
  | some paired =>
      refine .ite (fun _ => .of_pure _) fun _ => .rethrow_bind fun lifted _ => ?_
      exact .of_modify (.single (.publish (.law (.inr pvaSmc) rfl)))

theorem acting_handlePx4LocalPassThrough (px4Local : scope.controller.backend = .px4Local) :
    Acting scope handlePx4LocalPassThrough := by
  refine acting_clockTime_bind scope fun now _ => acting_promote_bind _ fun _ samples => ?_
  refine .get_bind (.rethrow_bind fun lifted _ => .ite (fun _ => ?_) fun _ => .ite (fun _ => ?_)
    fun _ => ?_)
  · exact .of_modify (((acts_setTrackingArmed _ false).trans (acts_logTrajectoryWait _)).trans
      (acts_publishCurrentHoverIfDue _))
  · exact .of_modify (acts_publishCurrentHoverIfDue _)
  · refine .of_modify ?_
    dsimp only
    split
    · exact .tail (acts_setTrackingArmed _ true) (.publish (.passThrough px4Local))
    · exact acts_setTrackingArmed _ true

/-- A tick is a sequence of actions, whether it returns or throws. -/
theorem acting_onTick [Libm] : Acting scope onTick := by
  refine .get_bind ?_
  cases backend : scope.controller.backend with
  | nmpc => exact acting_handleNmpcEventMode scope
  | dfbc => exact acting_handleSynchronousAttitudeRateMode scope backend
  | smc => exact acting_handleSmcMode scope backend
  | pvaSmc => exact acting_handlePvaSmcMode scope backend
  | px4Local => exact acting_handlePx4LocalPassThrough scope backend

end Procedures

open DroneController in
/-- Entering drops or keeps the stored references and may ask for a new one. -/
theorem onEnter_emits [Libm] (scope : Scope Custom1State) :
    Emits (·.isReferenceActivation) (fun _ => False) scope.controller
      (onEnter scope).controller := by
  dsimp only [onEnter]
  split
  · exact .via (clearReference (onEnterSession scope)).controller .of_silent
      (.emitFlightEffect _ rfl)
  · split
    · exact .of_silent
    · exact .via (clearReference (onEnterSession scope)).controller .of_silent
        (.emitFlightEffect _ rfl)
  · exact .of_silent
  · exact .of_silent
  · exact .of_silent

/-- Entering does not touch the shared setpoint. -/
theorem onEnter_setpoint [Libm] (scope : Scope Custom1State) :
    (onEnter scope).controller.setpoint = scope.controller.setpoint := by
  dsimp only [onEnter]
  repeat' split
  all_goals rfl

theorem onEnter_target (scope : Scope Custom1State) :
    (onEnter scope).controller.attitudeRateTarget = scope.controller.attitudeRateTarget := by
  dsimp only [onEnter]
  repeat' split
  all_goals rfl

end Custom1State

end MultirotorController
