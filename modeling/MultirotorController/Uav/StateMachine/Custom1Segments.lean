import MultirotorController.Driver.TrajectoryIngress
import MultirotorController.Uav.StateMachine.Custom1Actions

/-!
# The planner buffer in a tick of Custom1

A backend that follows planner segments promotes the pending one before it
computes anything, and nothing after that touches the buffer, whether the tick
returns or throws.
-/

namespace MultirotorController

open Procedure Relation

/-- The configured backend takes planner setpoints, at their header times. -/
def ControllerConfig.stageTimed (config : ControllerConfig) : Bool :=
  usesPlannerSetpoint config && usesStageEffectiveTime config.trackingBackend config.px4LocalLift

namespace Custom1State

variable [Xgc2Math]

/-- The buffer is as it was. -/
def SameBuffer (before after : Scope Custom1State) : Prop :=
  after.controller.mpcTrajectoryBuffer = before.controller.mpcTrajectoryBuffer

abbrev KeepsBuffer {α : Type} (program : Custom1M α) (scope : Scope Custom1State) : Prop :=
  Performs SameBuffer program scope

theorem sameBuffer_of_acts {before after : Scope Custom1State}
    (acts : ReflTransGen SameBuffer before after) : SameBuffer before after := by
  induction acts with
  | refl => rfl
  | tail _ same ih => exact same.trans ih

section Updates

variable (scope : Scope Custom1State)

theorem sameBuffer_publishCurrentHoverIfDue :
    SameBuffer scope (publishCurrentHoverIfDue scope) := by
  unfold publishCurrentHoverIfDue
  split <;> rfl

theorem sameBuffer_holdTrackingPosition : SameBuffer scope (holdTrackingPosition scope) := by
  unfold holdTrackingPosition
  dsimp only
  split <;> rfl

theorem sameBuffer_smcWithoutReference : SameBuffer scope (smcWithoutReference scope) := by
  unfold smcWithoutReference
  repeat' split
  · exact sameBuffer_holdTrackingPosition _
  · rfl
  · rfl
  · exact sameBuffer_publishCurrentHoverIfDue _

end Updates

section Procedures

variable (scope : Scope Custom1State)

theorem keepsBuffer_modify {update : Scope Custom1State → Scope Custom1State}
    (same : SameBuffer scope (update scope)) : KeepsBuffer (modify update) scope :=
  .of_modify (.single same)

theorem keepsBuffer_publishBackupSetpoint : KeepsBuffer publishBackupSetpoint scope := by
  refine .get_bind ?_
  refine .bind (.get_bind (.of_rethrow _)) fun now middle _ => .rethrow_bind fun sampled _ => ?_
  cases sampled with
  | none => exact keepsBuffer_modify _ rfl
  | some reference => exact keepsBuffer_modify _ rfl

theorem keepsBuffer_runSmcStrategy (now : Time) (sample : MpcTrajectoryState) (lifted : Setpoint) :
    KeepsBuffer (runSmcStrategy now sample lifted) scope := by
  refine .get_bind (.modify_bind (.single rfl) (.rethrow_bind fun result _ => ?_))
  refine .ite (fun _ => keepsBuffer_modify _ ?_) fun _ => keepsBuffer_modify _ rfl
  exact (sameBuffer_holdTrackingPosition _).trans rfl

theorem keepsBuffer_runDfbcStrategy [Libm] (now : Time) (streaming : Bool)
    (reference : UavReferencePoint) :
    KeepsBuffer (runDfbcStrategy now streaming reference) scope := by
  refine .get_bind (.ite (fun _ => keepsBuffer_modify _ rfl) fun _ => ?_)
  refine .modify_bind (.single rfl) (.rethrow_bind fun result _ => .ite (fun _ => ?_) fun _ => ?_)
  · refine .modify_bind (.single rfl) (.ite (fun _ => ?_) fun _ => ?_)
    · exact keepsBuffer_modify _ (sameBuffer_holdTrackingPosition _)
    · exact keepsBuffer_publishBackupSetpoint _
  · exact keepsBuffer_modify _ rfl

end Procedures

section Tick

variable (scope : Scope Custom1State)

/-- The buffer once the pending segment has been promoted. -/
def promotedBuffer (now : Time) : MpcTrajectoryBuffer :=
  (promoteTrajectorySample scope.controller.mpcTrajectoryBuffer now scope.controller.backend
    scope.controller.config.px4LocalLift).1

/-- However it ends, the program leaves the promoted buffer behind. -/
abbrev Promotes {α : Type} (program : Custom1M α) (now : Time) : Prop :=
  wp program (fun _ final => final.controller.mpcTrajectoryBuffer = promotedBuffer scope now)
    (fun _ final => final.controller.mpcTrajectoryBuffer = promotedBuffer scope now) scope

/-- A promotion followed by what leaves the buffer alone. -/
theorem promotes_promote_bind {α : Type} {now : Time} {backend : TrackingBackend}
    {next : Bool → Custom1M α} (configured : scope.controller.backend = backend)
    (rest : ∀ switched, KeepsBuffer (next switched) { scope with
      controller := { scope.controller with mpcTrajectoryBuffer := promotedBuffer scope now } }) :
    Promotes scope (promote now backend >>= next) now := by
  subst configured
  simp only [Promotes, promote, wp_bind, wp_get, wp_set, wp_pure]
  exact wp_mono (rest _) (fun _ _ acts => sameBuffer_of_acts acts)
    fun _ _ acts => sameBuffer_of_acts acts

/-- With a readable clock the program goes on at its time. -/
theorem promotes_clockTime_bind {α : Type} {now : Time} {next : Time → Custom1M α}
    (clock : Time.fromSec (currentTime scope) = .ok now) (rest : Promotes scope (next now) now) :
    Promotes scope (clockTime >>= next) now := by
  simp only [Promotes, clockTime, wp_bind, wp_get, wp_rethrow, clock]
  exact rest

/-- What precedes the promotion leaves the buffer and the configuration alone. -/
theorem promotes_modify_bind {α : Type} {now : Time}
    {update : Scope Custom1State → Scope Custom1State}
    {next : PUnit → Custom1M α} (controller : (update scope).controller = scope.controller)
    (rest : Promotes (update scope) (next ⟨⟩) now) :
    Promotes scope (modify update >>= next) now := by
  simp only [Promotes, wp_bind, wp_modify]
  have same : promotedBuffer (update scope) now = promotedBuffer scope now := by
    rw [promotedBuffer, promotedBuffer, controller]
  rw [← same]
  exact rest

theorem promotes_handleSmcMode {now : Time} (smc : scope.controller.backend = .smc)
    (clock : Time.fromSec (currentTime scope) = .ok now) :
    Promotes scope handleSmcMode now := by
  refine promotes_clockTime_bind scope clock (promotes_modify_bind scope ?_ ?_)
  · unfold enterSmcStrategy
    split <;> rfl
  have backend : (enterSmcStrategy scope).controller.backend = .smc := by
    unfold enterSmcStrategy
    split <;> exact smc
  refine promotes_promote_bind _ backend fun _ => .get_bind (.rethrow_bind fun lifted _ => ?_)
  refine .ite (fun _ => keepsBuffer_modify _ (sameBuffer_smcWithoutReference _)) fun _ => ?_
  refine .modify_bind (.single rfl) (.get_bind (.ite (fun _ => ?_) fun _ => ?_))
  · refine keepsBuffer_modify _ ?_
    dsimp only
    split
    · rfl
    · exact sameBuffer_publishCurrentHoverIfDue _
  · exact keepsBuffer_runSmcStrategy _ now _ _

theorem promotes_handlePvaSmcMode [Libm] {now : Time} (pvaSmc : scope.controller.backend = .pvaSmc)
    (clock : Time.fromSec (currentTime scope) = .ok now) :
    Promotes scope handlePvaSmcMode now := by
  refine promotes_clockTime_bind scope clock (promotes_promote_bind _ pvaSmc fun switched => ?_)
  refine .get_bind ?_
  dsimp only
  cases scope.controller.sensorData.pairedLocalPv with
  | none => exact .of_pure _
  | some paired =>
      refine .ite (fun _ => .of_pure _) fun _ => .rethrow_bind fun lifted _ => ?_
      exact keepsBuffer_modify _ rfl

theorem promotes_handlePx4LocalPassThrough {now : Time}
    (px4Local : scope.controller.backend = .px4Local)
    (clock : Time.fromSec (currentTime scope) = .ok now) :
    Promotes scope handlePx4LocalPassThrough now := by
  refine promotes_clockTime_bind scope clock (promotes_promote_bind _ px4Local fun _ => ?_)
  refine .get_bind (.rethrow_bind fun lifted _ => .ite (fun _ => ?_) fun _ => .ite (fun _ => ?_)
    fun _ => ?_)
  · exact keepsBuffer_modify _ (sameBuffer_publishCurrentHoverIfDue _)
  · exact keepsBuffer_modify _ (sameBuffer_publishCurrentHoverIfDue _)
  · refine keepsBuffer_modify _ ?_
    dsimp only
    split <;> rfl

theorem promotes_followStreamedReference [Libm] {now : Time}
    (dfbc : scope.controller.backend = .dfbc) :
    Promotes scope (followStreamedReference now) now := by
  have streams : Promotes scope (streamingReference now) now := by
    refine promotes_promote_bind scope dfbc fun _ => .get_bind (.rethrow_bind fun lifted _ => ?_)
    refine .ite (fun _ => .modify_bind (.single ?_) (.of_pure _)) fun _ =>
      .modify_bind (.single rfl) (.of_pure _)
    dsimp only
    repeat' split
    · exact sameBuffer_holdTrackingPosition _
    · rfl
    · exact sameBuffer_publishCurrentHoverIfDue _
  simp only [Promotes, followStreamedReference, wp_bind]
  refine wp_mono streams (fun reference middle promoted => ?_) fun _ _ promoted => promoted
  cases reference with
  | none => exact promoted
  | some reference =>
      have follows : KeepsBuffer (get >>= fun scope =>
          if shouldRunSynchronousStrategy scope scope.leaf.dfbcStrategy.period then
            runDfbcStrategy now true reference
          else return) middle :=
        .get_bind (.ite (fun _ => keepsBuffer_runDfbcStrategy _ now true reference)
          fun _ => .of_pure _)
      exact wp_mono follows (fun _ _ acts => (sameBuffer_of_acts acts).trans promoted)
        fun _ _ acts => (sameBuffer_of_acts acts).trans promoted

/-- A tick with a readable clock brings the buffer up to its time. -/
theorem promotes_onTick [Libm] {now : Time} (timed : scope.controller.config.stageTimed = true)
    (clock : Time.fromSec (currentTime scope) = .ok now) : Promotes scope onTick now := by
  simp only [Promotes, onTick, wp_bind, wp_get]
  cases backend : scope.controller.backend with
  | nmpc =>
      change scope.controller.config.trackingBackend = .nmpc at backend
      simp [ControllerConfig.stageTimed, usesPlannerSetpoint, backend] at timed
  | dfbc =>
      have streamed : scope.controller.config.dfbc.referenceSource = .plannerSetpoint := by
        change scope.controller.config.trackingBackend = .dfbc at backend
        simpa [ControllerConfig.stageTimed, usesPlannerSetpoint, backend,
          usesStageEffectiveTime] using timed
      have enters : (enterDfbcStrategy now scope).controller = scope.controller := by
        unfold enterDfbcStrategy
        dsimp only
        split <;> rfl
      refine promotes_clockTime_bind scope clock (promotes_modify_bind scope enters ?_)
      simp only [Promotes, wp_bind, wp_get, wp_ite, enters, streamed, if_true]
      refine promotes_followStreamedReference _ ?_
      rw [enters]
      exact backend
  | smc => exact promotes_handleSmcMode scope backend clock
  | pvaSmc => exact promotes_handlePvaSmcMode scope backend clock
  | px4Local => exact promotes_handlePx4LocalPassThrough scope backend clock

/-- Only streamed tracking by the geometric law starts with an empty buffer. -/
theorem onEnter_buffer :
    (onEnter scope).controller.mpcTrajectoryBuffer =
      if scope.controller.backend = .dfbc ∧
          scope.controller.config.dfbc.referenceSource = .plannerSetpoint then {}
      else scope.controller.mpcTrajectoryBuffer := by
  have elsewhere (other : scope.controller.config.trackingBackend ≠ .dfbc) :
      ¬ (scope.controller.backend = .dfbc ∧
        scope.controller.config.dfbc.referenceSource = .plannerSetpoint) :=
    fun streamed => other streamed.1
  dsimp only [onEnter]
  split
  next nmpc =>
    rw [if_neg (elsewhere (by simp [nmpc]))]
    rfl
  next dfbc =>
    split
    next planner => rw [if_pos ⟨dfbc, planner⟩]
    next cached =>
      rw [if_neg fun streamed => cached streamed.2]
      rfl
  all_goals
    next other =>
      rw [if_neg (elsewhere (by simp [other]))]
      rfl

end Tick

end Custom1State

end MultirotorController
