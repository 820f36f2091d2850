import MultirotorController.Uav.InputBounds
import MultirotorController.Uav.StateMachine.Custom1Actions

/-!
# Targets of the geometric law

The law may command anything. Its strategy clamps the rates, maps the thrust with
the hover thrust that it has just checked, and refuses a thrust that could not be
mapped. In a tick under DFBC nothing else writes the target or publishes it.
-/

namespace MultirotorController

open Procedure Relation

/-- A target that may be published: within the limits, and without a yaw rate if the geometric law
does not control the yaw. -/
structure AttitudeRateTarget.Publishable (config : ControllerConfig) (target : AttitudeRateTarget) :
    Prop where
  within : target.Within config
  yaw : config.trackingBackend = .dfbc → config.enableYawControl = false → target.bodyRateZ = 0

namespace DfbcAttitudeRateStrategy

variable [Libm] [Xgc2Math] {strategy : DfbcAttitudeRateStrategy}

omit [Libm] in
theorem clampBodyRate_within (limits : strategy.config.Limits) (bodyRate : Vec3) :
    let command := strategy.clampBodyRate bodyRate
    (command.x.isFinite = true ∧ command.x.abs ≤ strategy.config.nmpc.maxRollPitchBodyRate) ∧
      (command.y.isFinite = true ∧ command.y.abs ≤ strategy.config.nmpc.maxRollPitchBodyRate) ∧
      command.z.isFinite = true ∧ command.z.abs ≤ strategy.config.nmpc.maxYawBodyRate := by
  have clamped {limit : Double} (positive : limit.isFinite = true ∧ 0 < limit) (value : Double) :
      (clampScalar value (-Double.max 0 limit) (Double.max 0 limit)).isFinite = true ∧
        (clampScalar value (-Double.max 0 limit) (Double.max 0 limit)).abs ≤ limit := by
    have same : Double.max 0 limit = limit := if_pos positive.2
    have between : -limit ≤ clampScalar value (-limit) limit ∧
        clampScalar value (-limit) limit ≤ limit :=
      Double.between_max_min_swapped (Double.neg_le_self (Double.le_of_lt positive.2))
    rw [same]
    exact Double.abs_le_of_between positive.1 between.1 between.2
  exact ⟨clamped limits.rollPitchRate _, clamped limits.rollPitchRate _, clamped limits.yawRate _⟩

omit [Libm] in
/-- A thrust that is mapped to something positive was mapped with a usable hover thrust. -/
theorem mapped_within (limits : strategy.config.Limits) {specificThrust hoverThrust : Double}
    (positive : ¬strategy.mapSpecificThrustToNormalized specificThrust hoverThrust ≤ 0) :
    let thrust := strategy.mapSpecificThrustToNormalized specificThrust hoverThrust
    (strategy.config.nmpc.normalizedThrustMin ≤ thrust ∧
        thrust ≤ strategy.config.nmpc.normalizedThrustMax) ∧
      ∃ hoverThrust specificThrust, strategy.config.UsableHoverThrust hoverThrust ∧
        specificThrust.isFinite = true ∧
        thrust = NmpcMath.stdClamp (hoverThrust * (specificThrust / strategy.config.nmpc.gravity))
          strategy.config.nmpc.normalizedThrustMin strategy.config.nmpc.normalizedThrustMax := by
  unfold mapSpecificThrustToNormalized at positive ⊢
  dsimp only at positive ⊢
  split at positive
  · exact absurd (show (0 : Double) ≤ 0 by decide) positive
  next mappable =>
    rw [if_neg mappable]
    simp only [Bool.or_eq_true, Bool.not_eq_true', decide_eq_true_eq, not_or, Bool.not_eq_false]
      at mappable
    have usable : strategy.config.UsableHoverThrust hoverThrust :=
      ⟨mappable.1.1.2, mappable.1.2, mappable.2⟩
    have finite := mappable.1.1.1.1
    have number := limits.rawThrust_ne_nan usable finite
    refine ⟨Double.between_max_min_swapped limits.ordered, hoverThrust, specificThrust, usable,
      finite, ?_⟩
    have numbers := Double.ne_nan_of_le limits.ordered
    unfold clampScalar
    rw [Double.min_comm number numbers.2]
    exact Double.max_min_eq number limits.ordered

/-- The strategy keeps its configuration, and whatever the law answers, a success is a target
within the limits. -/
theorem update_publishable (limits : strategy.config.Limits) (input : TrackingStrategyInput) :
    (strategy.update input).1.config = strategy.config ∧
      ∀ result, (strategy.update input).2 = .ok result → result.success = true →
        result.attitudeRateTarget.Publishable strategy.config := by
  have refused (message : String) (result : TrackingStrategyResult)
      (same : (.ok (.failed message) : Except RuntimeError TrackingStrategyResult) = .ok result)
      (success : result.success = true) :
      result.attitudeRateTarget.Publishable strategy.config := by
    cases same
    cases success
  unfold update
  split
  · exact ⟨rfl, refused _⟩
  split
  · exact ⟨rfl, refused _⟩
  cases readControlFeedback input.sensor .dfbc with
  | none => exact ⟨rfl, refused _⟩
  | some current =>
      dsimp only
      split
      · exact ⟨rfl, refused _⟩
      split
      · exact ⟨rfl, refused _⟩
      next mapped =>
        simp only [Bool.or_eq_true, Bool.not_eq_true', decide_eq_true_eq, not_or,
          Bool.not_eq_false] at mapped
        obtain ⟨x, y, z⟩ := clampBodyRate_within limits
          (Xgc2Math.dfbcCompute strategy.controller {
            current
            reference := flatReference input.reference
            dt := strategy.period
            measuredAcceleration :=
              strategy.measuredAcceleration input.sensor input.now }).2.bodyRateCommand
        obtain ⟨between, thrust⟩ := mapped_within limits mapped.2
        have yawRate := limits.yawRate
        cases timingLogDue strategy.config strategy.lastLogTime input.now with
        | error error => exact ⟨rfl, fun result thrown => by cases thrown⟩
        | ok due =>
            refine ⟨by dsimp only; split <;> rfl, fun result returned _ => ?_⟩
            cases returned
            refine ⟨⟨x, y, ?_, between, thrust⟩, fun _ off => ?_⟩
            · dsimp only
              split
              · exact z
              · exact ⟨rfl, Double.le_of_lt yawRate.2⟩
            · dsimp only
              rw [off]
              rfl

end DfbcAttitudeRateStrategy

namespace Custom1State

variable [Xgc2Math]

/-- Neither the target is written nor an attitude emitted, and the law is left alone. -/
structure Untargeted (before after : Scope Custom1State) : Prop where
  config : after.controller.config = before.controller.config
  strategy : after.leaf.dfbcStrategy = before.leaf.dfbcStrategy
  attitudes : ∀ effect ∈ after.controller.flightEffects, effect.isAttitude = true →
    effect ∈ before.controller.flightEffects

namespace Untargeted

theorem refl (scope : Scope Custom1State) : Untargeted scope scope := ⟨rfl, rfl, fun _ old _ => old⟩

theorem trans {first second third : Scope Custom1State} (earlier : Untargeted first second)
    (later : Untargeted second third) : Untargeted first third :=
  ⟨later.config.trans earlier.config, later.strategy.trans earlier.strategy,
    fun effect emitted attitude =>
      earlier.attitudes effect (later.attitudes effect emitted attitude) attitude⟩

theorem of_steps {before after : Scope Custom1State}
    (steps : ReflTransGen Untargeted before after) :
    Untargeted before after := by
  induction steps with
  | refl => exact .refl _
  | tail _ step ih => exact ih.trans step

section Updates

variable {before scope : Scope Custom1State}

theorem publishSetpoint (quiet : Untargeted before scope) (setpoint : Setpoint) :
    Untargeted before (publishSetpoint scope setpoint) := by
  refine ⟨quiet.config, quiet.strategy, fun effect emitted attitude => ?_⟩
  rcases List.mem_append.mp emitted with old | fresh
  · exact quiet.attitudes effect old attitude
  · cases List.mem_singleton.mp fresh
    cases attitude

theorem publishCurrentHoverIfDue (quiet : Untargeted before scope) :
    Untargeted before (publishCurrentHoverIfDue scope) := by
  unfold Custom1State.publishCurrentHoverIfDue
  split
  · exact quiet.publishSetpoint _
  · exact quiet

theorem holdTrackingPosition (quiet : Untargeted before scope) :
    Untargeted before (holdTrackingPosition scope) := by
  unfold Custom1State.holdTrackingPosition
  refine publishSetpoint ?_ _
  split
  · exact quiet
  · exact ⟨quiet.config, quiet.strategy, quiet.attitudes⟩

theorem postReferenceFinished (quiet : Untargeted before scope) :
    Untargeted before (postReferenceFinished scope) := by
  unfold Custom1State.postReferenceFinished
  split
  · exact quiet.publishCurrentHoverIfDue
  · have marked : Untargeted before (markReferenceFinished scope) :=
      ⟨quiet.config, quiet.strategy, quiet.attitudes⟩
    have published := marked.publishSetpoint
      (measurementHoverSetpoint (markReferenceFinished scope).controller)
    exact ⟨published.config, published.strategy, published.attitudes⟩

theorem waitForReference (quiet : Untargeted before scope) :
    Untargeted before (waitForReference scope) := by
  have waiting : Untargeted before (logNmpcWait (setTrackingArmed scope false)) :=
    ⟨quiet.config, quiet.strategy, quiet.attitudes⟩
  exact waiting.publishCurrentHoverIfDue

end Updates

end Untargeted

section Dfbc

variable [Libm] (scope : Scope Custom1State)

/-- A procedure that leaves the target alone, from the given scope. -/
abbrev Untargeting {α : Type} (program : Custom1M α) : Prop := Performs Untargeted program scope

omit [Libm] in
theorem untargeting_clockTime_bind {α : Type} {next : Time → Custom1M α}
    (rest : ∀ now, Untargeting scope (next now)) : Untargeting scope (clockTime >>= next) := by
  have read : Untargeting scope (rethrow (Time.fromSec (currentTime scope)) >>= next) :=
    .rethrow_bind fun now _ => rest now
  simpa only [Untargeting, Performs, clockTime, wp_bind, wp_get] using read

omit [Libm] in
theorem untargeting_publishBackupSetpoint : Untargeting scope publishBackupSetpoint := by
  refine .get_bind (untargeting_clockTime_bind scope fun now => .rethrow_bind fun sampled _ => ?_)
  cases sampled with
  | none => exact .of_modify (.single (.publishSetpoint (.refl scope) _))
  | some reference => exact .of_modify (.single (.publishSetpoint (.refl scope) _))

theorem untargeting_streamingReference (now : Time) :
    Untargeting scope (streamingReference now) := by
  let promoted := promoteTrajectorySample scope.controller.mpcTrajectoryBuffer now .dfbc
    scope.controller.config.px4LocalLift
  have stored : Untargeted scope { scope with
      controller := { scope.controller with mpcTrajectoryBuffer := promoted.1 } } :=
    ⟨rfl, rfl, fun _ old _ => old⟩
  refine .bind ?_ fun _ middle _ => .get_bind (.rethrow_bind fun lifted _ => ?_)
  · exact .get_bind (.set_bind (.single stored) (.of_pure _))
  refine .ite (fun _ => ?_) fun _ => ?_
  · refine .modify_bind (.single ?_) (.of_pure _)
    repeat' split
    · exact .holdTrackingPosition (.refl _)
    · exact .refl _
    · exact .publishCurrentHoverIfDue (.refl _)
  · exact .modify_bind (.single ⟨rfl, rfl, fun _ old _ => old⟩) (.of_pure _)

omit [Libm] in
theorem untargeting_cachedReferenceReady : Untargeting scope cachedReferenceReady := by
  refine .get_bind (.ite (fun _ => ?_) fun _ => ?_)
  · exact .modify_bind (.single (.waitForReference (.refl scope))) (.of_pure _)
  · refine .modify_bind (.single ⟨rfl, rfl, fun _ old _ => old⟩)
      (.bind ?_ fun finishing armed _ => ?_)
    · refine .get_bind (untargeting_clockTime_bind _ fun now => .rethrow_bind fun remaining _ => ?_)
      cases remaining <;> exact .of_pure _
    · refine .ite (fun _ => ?_) fun _ => .of_pure _
      exact .modify_bind (.single (.postReferenceFinished (.refl armed))) (.of_pure _)

/-- After a procedure of DFBC: no new attitude, or a target that may be published. -/
def Targets (before after : Scope Custom1State) : Prop :=
  (∀ effect ∈ after.controller.flightEffects, effect.isAttitude = true →
    effect ∈ before.controller.flightEffects) ∨
  after.controller.attitudeRateTarget.Publishable before.controller.config

/-- A procedure of DFBC, however it ends. -/
abbrev Targeting {α : Type} (program : Custom1M α) : Prop :=
  wp program (fun _ => Targets scope) (fun _ => Targets scope) scope

variable {scope}

omit [Libm] in
theorem Untargeted.targets {middle final : Scope Custom1State} (quiet : Untargeted scope middle)
    (targets : Targets middle final) : Targets scope final := by
  unfold Targets at targets ⊢
  rw [quiet.config] at targets
  refine targets.imp_left fun old effect emitted attitude => ?_
  exact quiet.attitudes effect (old effect emitted attitude) attitude

omit [Libm] in
theorem Untargeted.targeting {α : Type} {program : Custom1M α} {middle : Scope Custom1State}
    (quiet : Untargeted scope middle) (rest : Targeting middle program) :
    wp program (fun _ => Targets scope) (fun _ => Targets scope) middle :=
  wp_mono rest (fun _ _ => quiet.targets) fun _ _ => quiet.targets

omit [Libm] in
theorem Targeting.of_untargeting {α : Type} {program : Custom1M α}
    (quiet : Untargeting scope program) : Targeting scope program :=
  wp_mono quiet (fun _ _ steps => .inl (Untargeted.of_steps steps).attitudes)
    fun _ _ steps => .inl (Untargeted.of_steps steps).attitudes

omit [Libm] in
theorem Targeting.bind {α β : Type} {program : Custom1M α} {next : α → Custom1M β}
    (first : Untargeting scope program)
    (second : ∀ value middle, Untargeted scope middle → Targeting middle (next value)) :
    Targeting scope (program >>= next) := by
  unfold Targeting
  rw [wp_bind]
  refine wp_mono first (fun value middle steps => ?_)
    fun _ _ steps => .inl (Untargeted.of_steps steps).attitudes
  exact (Untargeted.of_steps steps).targeting (second value middle (.of_steps steps))

omit [Libm] in
theorem Targeting.get_bind {α : Type} {next : Scope Custom1State → Custom1M α}
    (rest : Targeting scope (next scope)) : Targeting scope (get >>= next) := by
  rw [Targeting, wp_bind, wp_get]
  exact rest

omit [Libm] in
theorem Targeting.ite {α : Type} {condition : Prop} [Decidable condition]
    {first second : Custom1M α}
    (holds : condition → Targeting scope first) (fails : ¬condition → Targeting scope second) :
    Targeting scope (if condition then first else second) :=
  wp_ite_of holds fails

/-- The law's configuration is the one of the controller. -/
def Configured (scope : Scope Custom1State) : Prop :=
  scope.leaf.dfbcStrategy.config = scope.controller.config

omit [Libm] in
theorem Untargeted.configured {middle : Scope Custom1State} (quiet : Untargeted scope middle)
    (configured : Configured scope) : Configured middle := by
  unfold Configured
  rw [quiet.strategy, quiet.config]
  exact configured

theorem targeting_runDfbcStrategy (limits : scope.controller.config.Limits)
    (configured : Configured scope) (now : Time) (streaming : Bool)
    (reference : UavReferencePoint) :
    Targeting scope (runDfbcStrategy now streaming reference) := by
  have known : scope.leaf.dfbcStrategy.config = scope.controller.config := configured
  obtain ⟨-, publishable⟩ := DfbcAttitudeRateStrategy.update_publishable
    (known.symm ▸ limits : scope.leaf.dfbcStrategy.config.Limits)
    { sensor := scope.controller.sensorData, reference, now }
  rw [known] at publishable
  refine .get_bind (.ite (fun _ => ?_) fun _ => ?_)
  · exact .of_untargeting (.of_modify (.single (.publishSetpoint (.refl scope) _)))
  rw [Targeting, wp_bind, wp_modify]
  refine wp_rethrow_bind (fun result returned => ?_) fun _ _ => .inl fun _ old _ => old
  refine wp_ite_of (fun _ => ?_) fun success => ?_
  · refine Targeting.of_untargeting (.modify_bind (.single ⟨rfl, rfl, fun _ old _ => old⟩) ?_)
    refine .ite (fun _ => .of_modify (.single (.holdTrackingPosition (.refl _)))) fun _ => ?_
    exact untargeting_publishBackupSetpoint _
  · exact .inr (publishable result returned (by simpa using success))

theorem targeting_followStreamedReference (limits : scope.controller.config.Limits)
    (configured : Configured scope) (now : Time) :
    Targeting scope (followStreamedReference now) := by
  refine .bind (untargeting_streamingReference scope now) fun reference middle quiet => ?_
  cases reference with
  | none => exact .of_untargeting (.of_pure _)
  | some reference =>
      refine .get_bind (.ite (fun _ => ?_) fun _ => .of_untargeting (.of_pure _))
      exact targeting_runDfbcStrategy (quiet.config ▸ limits) (quiet.configured configured) now true
        reference

theorem targeting_followCachedReference (limits : scope.controller.config.Limits)
    (configured : Configured scope) (now : Time) :
    Targeting scope (followCachedReference now) := by
  refine .bind (untargeting_cachedReferenceReady scope) fun ready middle quiet => ?_
  refine .ite (fun _ => .get_bind (.ite (fun _ => ?_) fun _ => .of_untargeting (.of_pure _)))
    fun _ => .of_untargeting (.of_pure _)
  refine wp_rethrow_bind (fun sampled _ => ?_) fun _ _ => .inl fun _ old _ => old
  cases sampled with
  | none =>
      exact Targeting.of_untargeting (.of_modify (.single (.publishSetpoint (.refl middle) _)))
  | some reference =>
      exact targeting_runDfbcStrategy (quiet.config ▸ limits) (quiet.configured configured) now
        false
        reference

/-- Under DFBC a tick publishes no attitude but with a target that may be published. -/
theorem targeting_handleSynchronousAttitudeRateMode (limits : scope.controller.config.Limits) :
    Targeting scope handleSynchronousAttitudeRateMode := by
  refine .bind (.get_bind (.of_rethrow _)) fun now middle quiet => ?_
  rw [Targeting, wp_bind, wp_modify]
  obtain ⟨configured, same⟩ : Configured (enterDfbcStrategy now middle) ∧
      (enterDfbcStrategy now middle).controller = middle.controller := by
    unfold enterDfbcStrategy DfbcAttitudeRateStrategy.enter
    dsimp only
    repeat' split
    all_goals exact ⟨rfl, rfl⟩
  have limits : (enterDfbcStrategy now middle).controller.config.Limits := by
    rw [same, quiet.config]
    exact limits
  have targeting : Targeting (enterDfbcStrategy now middle) (get >>= fun scope =>
      if scope.controller.config.dfbc.referenceSource = .plannerSetpoint then
        followStreamedReference now
      else followCachedReference now) :=
    .get_bind (.ite (fun _ => targeting_followStreamedReference limits configured now)
      fun _ => targeting_followCachedReference limits configured now)
  unfold Targeting Targets at targeting
  rw [same] at targeting
  exact targeting

theorem targeting_onTick (dfbc : scope.controller.backend = .dfbc)
    (limits : scope.controller.config.Limits) : Targeting scope onTick := by
  refine .get_bind ?_
  rw [dfbc]
  exact targeting_handleSynchronousAttitudeRateMode limits

end Dfbc

end Custom1State

end MultirotorController
