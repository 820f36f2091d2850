import MultirotorController.Generator.RuntimeTurns
import MultirotorController.Control.ExactMath

/-!
# The curve of the generator and the curve of the controller

The controller reads a published analytic reference again, with a decoder of its
own. Both decoders agree on most messages; they read differently a center that is
not given, the vertical motion of a plain circle and a yaw that cannot be
computed. The controller also refuses more flags, at limits of its own.
-/

namespace MultirotorController

open Trajectory Reference

namespace Reference.AnalyticReference

/-- The message carries a finite parameter at this place. -/
def Given (msg : AnalyticReference) (index : Nat) : Prop :=
  ∃ value, msg.params[index]? = some value ∧ value.isFinite = true

theorem paramAt_eq_iff (msg : AnalyticReference) (index : Nat) (a b : Double) :
    msg.paramAt index a = msg.paramAt index b ↔ msg.Given index ∨ a = b := by
  unfold paramAt Given
  cases msg.params[index]? with
  | none => simp
  | some value =>
      by_cases finite : value.isFinite = true
      · simp [finite]
      · simp [finite]

/-- A center that is not given is the origin, which is zero. -/
def CenterKnown (msg : AnalyticReference) : Prop :=
  (msg.Given 6 ∨ msg.origin.position.x = 0) ∧ (msg.Given 7 ∨ msg.origin.position.y = 0)

theorem center_eq_iff (msg : AnalyticReference) :
    msg.paramAt 6 msg.origin.position.x = msg.paramAt 6 0 ∧
      msg.paramAt 7 msg.origin.position.y = msg.paramAt 7 0 ↔ msg.CenterKnown := by
  rw [paramAt_eq_iff, paramAt_eq_iff, CenterKnown]

end Reference.AnalyticReference

namespace Generator

section Agreement

variable [Libm] [Xgc2Math]

/-- Both terms are computed in the format, where a product of numbers may overflow. -/
def sinyCosp (q : Quaternion) : Double :=
  (2 * ((q.w * q.z).rounded + (q.x * q.y).rounded).rounded).rounded

def cosyCosp (q : Quaternion) : Double :=
  (1 - (2 * ((q.y * q.y).rounded + (q.z * q.z).rounded).rounded).rounded).rounded

/-- The yaw of the orientation can be computed, or comes out as zero anyway. -/
def YawKnown (q : Quaternion) : Prop :=
  let yaw := Libm.atan2 (sinyCosp q) (cosyCosp q)
  if (sinyCosp q).isFinite ∧ (cosyCosp q).isFinite then yaw.isFinite = true
  else yaw.isFinite = false ∨ yaw = 0

omit [Xgc2Math] in
theorem yaw_eq_iff (q : Quaternion) :
    ActiveTrajectoryCache.yawFromQuaternion q = yawFromQuaternion q ↔ YawKnown q := by
  change (if (sinyCosp q).isFinite && (cosyCosp q).isFinite then
      Libm.atan2 (sinyCosp q) (cosyCosp q) else 0) =
    finiteOr (Libm.atan2 (sinyCosp q) (cosyCosp q)) 0 ↔ _
  unfold YawKnown finiteOr
  generalize Libm.atan2 (sinyCosp q) (cosyCosp q) = yaw
  by_cases computed : (sinyCosp q).isFinite = true ∧ (cosyCosp q).isFinite = true
  · rw [if_pos (by simpa using computed), if_pos computed]
    cases yaw <;> simp [Double.isFinite]
  · rw [if_neg (by simpa using computed), if_neg computed]
    by_cases finite : yaw.isFinite = true
    · simp [finite, eq_comm]
    · simp [finite]

/-- Finite components whose product does not fit. -/
example : sinyCosp ⟨0, 0, .fin (2 ^ 700), .fin (2 ^ 700)⟩ = .inf false := by decide +kernel

/-- The parameters that both decoders read alike, class by class. -/
def SameParameters (msg : Reference.AnalyticReference) : Prop :=
  if msg.analyticType = analyticHold then YawKnown msg.origin.orientation
  else if msg.analyticType = analyticCircle then
    msg.CenterKnown ∧ Xgc2Math.defaults.circle.zAmplitude = 0 ∧
      Xgc2Math.defaults.circle.zFrequency = msg.paramAt 4 0.5
  else if msg.analyticType = analyticHeightCircle then msg.CenterKnown
  else if msg.analyticType = analyticFigureEight ∨ msg.analyticType = analyticLine ∨
      msg.analyticType = analyticLemniscate ∨ msg.analyticType = analyticHelixYz ∨
      msg.analyticType = analyticHelixXy then True
  else if msg.analyticType = analyticTorusKnot then YawKnown msg.origin.orientation
  else msg.CenterKnown ∧ YawKnown msg.origin.orientation

omit [Libm] in
theorem torusKnotCurve_inj (msg : Reference.AnalyticReference) (hasDuration : Bool)
    (duration yaw yaw' : Double) :
    ActiveTrajectoryCache.torusKnotCurve msg hasDuration duration yaw =
      ActiveTrajectoryCache.torusKnotCurve msg hasDuration duration yaw' ↔ yaw = yaw' := by
  constructor
  · unfold ActiveTrajectoryCache.torusKnotCurve
    dsimp only
    split
    · intro same
      injection same with same
      injection same
    · intro same
      injection same with same
      injection same
  · rintro rfl
    rfl

theorem analyticCurve_eq_iff (msg : Reference.AnalyticReference) :
    ActiveTrajectoryCache.analyticCurve msg = analyticCurve msg ↔ SameParameters msg := by
  rw [SameParameters]
  have center := msg.center_eq_iff
  have yaw := yaw_eq_iff msg.origin.orientation
  unfold ActiveTrajectoryCache.analyticCurve analyticCurve
  dsimp only
  by_cases hold : msg.analyticType = analyticHold
  · simp only [if_pos hold, Curve.hold.injEq, HoldCurveParameters3.mk.injEq, true_and]
    exact yaw
  simp only [if_neg hold]
  by_cases circle : msg.analyticType = analyticCircle
  · simp only [circle, true_or, if_true, Curve.circle.injEq,
      CircleCurveParameters3.mk.injEq, true_and]
    rw [← center]
    tauto
  simp only [circle, if_false, false_or]
  by_cases heightCircle : msg.analyticType = analyticHeightCircle
  · simp only [if_pos heightCircle, Curve.circle.injEq, CircleCurveParameters3.mk.injEq, true_and,
      and_true]
    exact center
  simp only [if_neg heightCircle]
  by_cases figureEight : msg.analyticType = analyticFigureEight
  · simp [figureEight]
  by_cases line : msg.analyticType = analyticLine
  · simp [line]
  by_cases lemniscate : msg.analyticType = analyticLemniscate
  · simp [lemniscate]
  by_cases helixYz : msg.analyticType = analyticHelixYz
  · simp [helixYz]
  by_cases helixXy : msg.analyticType = analyticHelixXy
  · simp [helixXy]
  simp only [figureEight, line, lemniscate, helixYz, helixXy, or_false, if_false]
  by_cases torusKnot : msg.analyticType = analyticTorusKnot
  · simp only [if_pos torusKnot]
    rw [torusKnotCurve_inj]
    exact yaw
  · simp only [if_neg torusKnot, Curve.circleEntry.injEq, CircleEntryCurveParameters3.mk.injEq,
      CircleCurveParameters3.mk.injEq, true_and, and_true]
    rw [← center, ← yaw]
    tauto

/-- The controller takes the message and stores this curve for it. -/
def Follows (msg : Reference.AnalyticReference) (curve : Curve) : Prop :=
  ∀ (cache : ActiveTrajectoryCache) (receivedTime : Time),
    (cache.updateAnalytic msg receivedTime).2 = true ∧
      (cache.updateAnalytic msg receivedTime).1.evaluator = some curve

/-- No flag that the controller calls fatal, from the message or at its own limits. -/
def Tracked (msg : Reference.AnalyticReference) : Prop :=
  ActiveTrajectoryCache.fatalReferenceFlags
    (msg.flags ||| Xgc2Math.validate (analyticCurve msg) 0.02) = false

theorem follows_iff (msg : Reference.AnalyticReference) :
    Follows msg (analyticCurve msg) ↔ SameParameters msg ∧ Tracked msg := by
  rw [← analyticCurve_eq_iff]
  unfold Follows Tracked ActiveTrajectoryCache.updateAnalytic
    ActiveTrajectoryCache.buildAnalyticEvaluator
  dsimp only
  constructor
  · intro followed
    obtain ⟨taken, stored⟩ := followed {} {}
    split at taken
    · cases taken
    next curve flags built =>
      split at built
      · cases built
      next safe =>
        obtain ⟨rfl, rfl⟩ := Prod.mk.inj (Option.some.inj built)
        rw [if_neg safe] at stored
        have same := Option.some.inj stored
        rw [← same]
        exact ⟨rfl, by simpa using safe⟩
  · rintro ⟨same, safe⟩ cache receivedTime
    rw [same, if_neg (by simp [safe])]
    exact ⟨rfl, rfl⟩

variable [TrajectoryValidator3]

/-- Of the messages the generator accepts and publishes, the controller flies those on the
generator's curve that both decoders read alike and whose curve it does not refuse. -/
theorem curve_followed_iff {runtime after : ReferenceTrajectoryRuntime} {msg : AnalyticReference}
    {receiptSec : Double} (accepted : runtime.acceptAnalytic msg receiptSec = .ok (after, true))
    (now : Double) :
    ∃ published curve flags,
      (after.update now).active = some (.analytic published curve flags) ∧
        ⟨.activeAnalytic, now⟩ ∈ (after.update now).effects ∧
        (Follows published.toAnalyticReference curve ↔
          SameParameters msg.toAnalyticReference ∧ Tracked msg.toAnalyticReference) := by
  obtain ⟨startTime, flags, rfl⟩ := ReferenceTrajectoryRuntime.acceptAnalytic_true accepted
  have turn := ReferenceTrajectoryRuntime.update_pending
    (rfl : ({ runtime with
      pending := some (.analytic { msg with startTime }
        (analyticCurve msg.toAnalyticReference) flags) } : ReferenceTrajectoryRuntime).pending = _)
    now
  refine ⟨{ msg with startTime }, analyticCurve msg.toAnalyticReference, flags, ?_, ?_, ?_⟩
  · rw [turn]
    rfl
  · rw [turn]
    exact List.mem_append_right _ (List.mem_singleton.mpr rfl)
  · exact follows_iff { msg.toAnalyticReference with startTime }

end Agreement

section Witness

open ExactMath

/-- Default parameters around a point away from the origin. -/
def roundThePoint : AnalyticReference :=
  { analyticType := analyticCircleEntry, origin := ⟨⟨5, 0, 0⟩, ⟨0, 0, 0, 1⟩⟩ }

def acceptedRound : ReferenceTrajectoryRuntime :=
  { pending := some (.analytic { roundThePoint with startTime := ⟨1, 200000000⟩ }
      (analyticCurve roundThePoint.toAnalyticReference) 0) }

/-- The generator validates a circle around zero, and the controller flies one around the
origin of the message. -/
theorem centers_diverge :
    ¬ ∀ (runtime after : ReferenceTrajectoryRuntime) (msg : AnalyticReference)
      (receiptSec now : Double), runtime.acceptAnalytic msg receiptSec = .ok (after, true) →
        ∀ published curve flags,
          (after.update now).active = some (.analytic published curve flags) →
            Follows published.toAnalyticReference curve := by
  intro followed
  have accepted : ({} : ReferenceTrajectoryRuntime).acceptAnalytic roundThePoint 1 =
      .ok (acceptedRound, true) := by
    decide +kernel
  obtain ⟨taken, stored⟩ := followed {} acceptedRound roundThePoint 1 1 accepted _ _ _ rfl {} {}
  exact absurd stored (by decide +kernel)

/-- Around zero both fly the same circle. -/
theorem centers_agree_at_zero :
    ∃ published curve flags,
      (({ acceptedRound with pending := some (.analytic { startTime := ⟨1, 200000000⟩ }
        (analyticCurve {}) 0) } : ReferenceTrajectoryRuntime).update 1).active =
          some (.analytic published curve flags) ∧
        ⟨.activeAnalytic, 1⟩ ∈ (({ acceptedRound with
          pending := some (.analytic { startTime := ⟨1, 200000000⟩ } (analyticCurve {}) 0) } :
            ReferenceTrajectoryRuntime).update 1).effects ∧
        (Follows published.toAnalyticReference curve ↔ SameParameters {} ∧ Tracked {}) :=
  curve_followed_iff (show ({} : ReferenceTrajectoryRuntime).acceptAnalytic {} 1 =
    .ok ({ acceptedRound with
      pending := some (.analytic { startTime := ⟨1, 200000000⟩ } (analyticCurve {}) 0) }, true) by
    decide +kernel) 1

end Witness

end Generator

end MultirotorController
