import MultirotorController.Common.TimeSpans
import MultirotorController.Control.TrajectoryLifter

/-!
# Masks and the lift

What a lift reads and writes, axis by axis. An axis that the incoming mask ignores
is neither read nor written; yaw is decided by the yaw setting instead. The axes in
force are extrapolated with constant acceleration.
-/

namespace MultirotorController

inductive Axis where
  | x | y | z
deriving DecidableEq, Repr

namespace Axis

def of (v : Vec3) : Axis → Double
  | x => v.x
  | y => v.y
  | z => v.z

def positionBit : Axis → UInt16
  | x => kIgnorePxBit
  | y => kIgnorePyBit
  | z => kIgnorePzBit

def velocityBit : Axis → UInt16
  | x => kIgnoreVxBit
  | y => kIgnoreVyBit
  | z => kIgnoreVzBit

def accelerationBit : Axis → UInt16
  | x => kIgnoreAfxBit
  | y => kIgnoreAfyBit
  | z => kIgnoreAfzBit

def position (setpoint : Setpoint) : Axis → Double
  | x => setpoint.x
  | y => setpoint.y
  | z => setpoint.z

def velocity (setpoint : Setpoint) : Axis → Double
  | x => setpoint.vx
  | y => setpoint.vy
  | z => setpoint.vz

def acceleration (setpoint : Setpoint) : Axis → Double
  | x => setpoint.ax
  | y => setpoint.ay
  | z => setpoint.az

theorem positionBit_outside (axis : Axis) :
    ~~~kIgnoreYawBit &&& axis.positionBit = axis.positionBit := by
  cases axis <;> decide

theorem velocityBit_outside (axis : Axis) :
    ~~~kIgnoreYawBit &&& axis.velocityBit = axis.velocityBit := by
  cases axis <;> decide

theorem accelerationBit_outside (axis : Axis) :
    ~~~kIgnoreYawBit &&& axis.accelerationBit = axis.accelerationBit := by
  cases axis <;> decide

end Axis

/-- A value in force, or zero. -/
def unlessIgnored (mask bit : UInt16) (value : Double) : Double :=
  if positionTargetIgnored mask bit then 0 else value

/-- The mask of a sample before the yaw setting: its own, or the default for a zero one. -/
def incomingMask (sample : MpcTrajectoryState) (defaultMask : UInt16) : UInt16 :=
  if sample.typeMask != 0 then sample.typeMask else defaultMask

/-- The seconds of the extrapolation; a zero stamp is no time. -/
def liftTau (sample : MpcTrajectoryState) (now : Time) : Except RuntimeError Double := do
  let mut tau : Double := 0
  if !sample.planningTime.isZero && !now.isZero then
    tau := (← now.sub sample.planningTime).toSec
  if tau < 0 then tau := 0
  return tau

variable {sample other : MpcTrajectoryState} {now : Time} {defaultMask : UInt16} {enableYaw : Bool}

/-- What a lift is made of: the sample extrapolated by some seconds, under the effective mask. -/
structure Lifted (sample : MpcTrajectoryState) (mask : UInt16) (tau : Double)
    (setpoint : Setpoint) : Prop where
  position : ∀ axis : Axis, axis.position setpoint = unlessIgnored mask axis.positionBit
    (axis.of sample.positionK +
      unlessIgnored mask axis.velocityBit (axis.of sample.velocityK) * tau +
      0.5 * unlessIgnored mask axis.accelerationBit (axis.of sample.accelerationK) * tau * tau)
  velocity : ∀ axis : Axis, axis.velocity setpoint = unlessIgnored mask axis.velocityBit
    (unlessIgnored mask axis.velocityBit (axis.of sample.velocityK) +
      unlessIgnored mask axis.accelerationBit (axis.of sample.accelerationK) * tau)
  acceleration : ∀ axis : Axis, axis.acceleration setpoint =
    unlessIgnored mask axis.accelerationBit
      (unlessIgnored mask axis.accelerationBit (axis.of sample.accelerationK))
  yaw : (setpoint.qx, setpoint.qy, setpoint.qz, setpoint.qw) =
    (sample.qx, sample.qy, sample.qz, sample.qw)
  yawRate : setpoint.yawRate = sample.yawRate
  typeMask : setpoint.typeMask = mask
  coordinateFrame : setpoint.coordinateFrame =
    if sample.coordinateFrame == 0 then 1 else sample.coordinateFrame

/-- A valid sample is lifted unless the difference of the times is out of range. -/
theorem liftWorldLocal_spec (valid : sample.isValid = true) (now : Time) (defaultMask : UInt16)
    (enableYaw : Bool) :
    (∀ tau, liftTau sample now = .ok tau →
      ∃ setpoint, liftWorldLocal sample now defaultMask enableYaw = .ok setpoint ∧
        Lifted sample (liftMask sample defaultMask enableYaw) tau setpoint) ∧
    (∀ error, liftTau sample now = .error error →
      liftWorldLocal sample now defaultMask enableYaw = .error error) := by
  unfold liftWorldLocal liftTau
  simp only [valid, Bool.not_true, Bool.false_eq_true, if_false]
  split
  next timed =>
    cases now.sub sample.planningTime with
    | error error =>
        dsimp only [bind, Except.bind]
        refine ⟨fun tau same => ?_, fun thrown same => ?_⟩
        · cases same
        · cases same
          rfl
    | ok span =>
        dsimp only [bind, Except.bind, pure, Except.pure]
        split
        all_goals
          refine ⟨fun tau same => ?_, fun thrown same => by cases same⟩
          cases same
          refine ⟨_, rfl, ?_, ?_, ?_, rfl, rfl, rfl, rfl⟩
          all_goals
            intro axis
            cases axis <;> rfl
  next untimed =>
    have positive : ¬(0 : Double) < 0 := by decide
    simp only [positive, if_false]
    refine ⟨fun tau same => ?_, fun thrown same => by cases same⟩
    cases same
    refine ⟨_, rfl, ?_, ?_, ?_, rfl, rfl, rfl, rfl⟩
    all_goals
      intro axis
      cases axis <;> rfl

/-- What two masks have in common with a bit does not depend on the rest of the second. -/
theorem and_bit_of_or (mask others bit : UInt16) :
    mask &&& bit = mask &&& ((mask ||| others) &&& bit) := by
  apply UInt16.toBitVec_inj.mp
  ext i
  simp
  grind

/-- Setting bits keeps an axis ignored. -/
theorem positionTargetIgnored_or {mask bit : UInt16} (others : UInt16)
    (ignored : positionTargetIgnored mask bit = true) :
    positionTargetIgnored (mask ||| others) bit = true := by
  unfold positionTargetIgnored at *
  rw [bne_iff_ne] at *
  intro clear
  rw [and_bit_of_or mask others bit, clear, UInt16.and_zero] at ignored
  exact ignored rfl

/-- Clearing another bit changes nothing for an axis. -/
theorem positionTargetIgnored_and {mask bit : UInt16} {others : UInt16}
    (outside : others &&& bit = bit) :
    positionTargetIgnored (mask &&& others) bit = positionTargetIgnored mask bit := by
  unfold positionTargetIgnored
  rw [UInt16.and_assoc, outside]

theorem liftMask_eq (sample : MpcTrajectoryState) (defaultMask : UInt16) (enableYaw : Bool) :
    liftMask sample defaultMask enableYaw =
      if enableYaw then incomingMask sample defaultMask &&& ~~~kIgnoreYawBit
      else incomingMask sample defaultMask ||| (kIgnoreYawBit ||| kIgnoreYawRateBit) := by
  unfold liftMask incomingMask
  cases enableYaw <;> rfl

/-- The yaw setting decides about the yaw bit alone. -/
theorem ignored_liftMask {bit : UInt16} (outside : ~~~kIgnoreYawBit &&& bit = bit)
    (ignored : positionTargetIgnored (incomingMask sample defaultMask) bit = true) :
    positionTargetIgnored (liftMask sample defaultMask enableYaw) bit = true := by
  rw [liftMask_eq]
  cases enableYaw with
  | true => exact (positionTargetIgnored_and outside).trans ignored
  | false => exact positionTargetIgnored_or _ ignored

/-- The components of two samples that are not ignored are equal. Yaw counts as in force where the
yaw setting asks for it. -/
structure MpcTrajectoryState.AgreeOn (mask : UInt16) (enableYaw : Bool)
    (sample other : MpcTrajectoryState) : Prop where
  position : ∀ axis : Axis, positionTargetIgnored mask axis.positionBit = false →
    axis.of sample.positionK = axis.of other.positionK
  velocity : ∀ axis : Axis, positionTargetIgnored mask axis.velocityBit = false →
    axis.of sample.velocityK = axis.of other.velocityK
  acceleration : ∀ axis : Axis, positionTargetIgnored mask axis.accelerationBit = false →
    axis.of sample.accelerationK = axis.of other.accelerationK
  yaw : (positionTargetIgnored mask kIgnoreYawBit = false ∨ enableYaw = true) →
    (sample.qx, sample.qy, sample.qz, sample.qw) = (other.qx, other.qy, other.qz, other.qw)
  yawRate : positionTargetIgnored mask kIgnoreYawRateBit = false → sample.yawRate = other.yawRate
  planningTime : sample.planningTime = other.planningTime
  typeMask : sample.typeMask = other.typeMask
  coordinateFrame : sample.coordinateFrame = other.coordinateFrame
  isValid : sample.isValid = other.isValid

/-- The components of two setpoints that their common mask does not ignore are equal. -/
structure Setpoint.AgreeOn (mask : UInt16) (setpoint other : Setpoint) : Prop where
  position : ∀ axis : Axis, positionTargetIgnored mask axis.positionBit = false →
    axis.position setpoint = axis.position other
  velocity : ∀ axis : Axis, positionTargetIgnored mask axis.velocityBit = false →
    axis.velocity setpoint = axis.velocity other
  acceleration : ∀ axis : Axis, positionTargetIgnored mask axis.accelerationBit = false →
    axis.acceleration setpoint = axis.acceleration other
  yaw : positionTargetIgnored mask kIgnoreYawBit = false →
    (setpoint.qx, setpoint.qy, setpoint.qz, setpoint.qw) = (other.qx, other.qy, other.qz, other.qw)
  yawRate : positionTargetIgnored mask kIgnoreYawRateBit = false →
    setpoint.yawRate = other.yawRate
  typeMask : setpoint.typeMask = mask
  sameMask : other.typeMask = mask
  coordinateFrame : setpoint.coordinateFrame = other.coordinateFrame

theorem unlessIgnored_congr {mask bit : UInt16} {first second : Double}
    (same : positionTargetIgnored mask bit = false → first = second) :
    unlessIgnored mask bit first = unlessIgnored mask bit second := by
  unfold unlessIgnored
  cases ignored : positionTargetIgnored mask bit with
  | true => rfl
  | false => rw [same ignored]

/-- Lifts of samples that agree under the incoming mask agree under their own. -/
theorem Lifted.agree {tau : Double} {setpoint setpoint' : Setpoint}
    (agree : sample.AgreeOn (incomingMask sample defaultMask) enableYaw other)
    (lifted : Lifted sample (liftMask sample defaultMask enableYaw) tau setpoint)
    (lifted' : Lifted other (liftMask sample defaultMask enableYaw) tau setpoint') :
    setpoint.AgreeOn (liftMask sample defaultMask enableYaw) setpoint' := by
  -- What the lift does not ignore, the incoming mask did not ignore.
  have incoming {bit : UInt16} (outside : ~~~kIgnoreYawBit &&& bit = bit)
      (inForce : positionTargetIgnored (liftMask sample defaultMask enableYaw) bit = false) :
      positionTargetIgnored (incomingMask sample defaultMask) bit = false := by
    cases ignored : positionTargetIgnored (incomingMask sample defaultMask) bit with
    | false => rfl
    | true =>
        have kept : positionTargetIgnored (liftMask sample defaultMask enableYaw) bit = true :=
          ignored_liftMask outside ignored
        cases kept.symm.trans inForce
  have velocity (axis : Axis) : unlessIgnored (liftMask sample defaultMask enableYaw)
        axis.velocityBit (axis.of sample.velocityK) =
      unlessIgnored (liftMask sample defaultMask enableYaw) axis.velocityBit
        (axis.of other.velocityK) :=
    unlessIgnored_congr fun inForce =>
      agree.velocity axis (incoming axis.velocityBit_outside inForce)
  have acceleration (axis : Axis) : unlessIgnored (liftMask sample defaultMask enableYaw)
        axis.accelerationBit (axis.of sample.accelerationK) =
      unlessIgnored (liftMask sample defaultMask enableYaw) axis.accelerationBit
        (axis.of other.accelerationK) :=
    unlessIgnored_congr fun inForce =>
      agree.acceleration axis (incoming axis.accelerationBit_outside inForce)
  constructor
  · intro axis inForce
    have position := agree.position axis (incoming axis.positionBit_outside inForce)
    rw [lifted.position, lifted'.position, velocity, acceleration, position]
  · intro axis _
    rw [lifted.velocity, lifted'.velocity, velocity, acceleration]
  · intro axis _
    rw [lifted.acceleration, lifted'.acceleration, acceleration]
  · intro inForce
    rw [lifted.yaw, lifted'.yaw]
    apply agree.yaw
    cases enableYaw with
    | true => exact .inr rfl
    | false =>
        have ignored : positionTargetIgnored (liftMask sample defaultMask false) kIgnoreYawBit =
            true := by
          rw [liftMask_eq, if_neg Bool.false_ne_true, UInt16.or_comm]
          apply positionTargetIgnored_or
          decide
        cases ignored.symm.trans inForce
  · intro inForce
    rw [lifted.yawRate, lifted'.yawRate]
    exact agree.yawRate (incoming (by decide) inForce)
  · exact lifted.typeMask
  · exact lifted'.typeMask
  · rw [lifted.coordinateFrame, lifted'.coordinateFrame, agree.coordinateFrame]

/-- Two outcomes of a lift: setpoints that agree, or the same error. -/
def LiftsAgree (mask : UInt16) (outcome outcome' : Except RuntimeError Setpoint) : Prop :=
  (∃ setpoint setpoint' : Setpoint, outcome = .ok setpoint ∧ outcome' = .ok setpoint' ∧
    setpoint.AgreeOn mask setpoint') ∨
  ∃ error, outcome = .error error ∧ outcome' = .error error

theorem lifts_agree (valid : sample.isValid = true)
    (agree : sample.AgreeOn (incomingMask sample defaultMask) enableYaw other) :
    LiftsAgree (liftMask sample defaultMask enableYaw)
      (liftWorldLocal sample now defaultMask enableYaw)
      (liftWorldLocal other now defaultMask enableYaw) := by
  have sameTau : liftTau other now = liftTau sample now := by
    unfold liftTau
    rw [agree.planningTime]
  have sameMask : liftMask other defaultMask enableYaw = liftMask sample defaultMask enableYaw := by
    unfold liftMask
    rw [agree.typeMask]
  obtain ⟨lifts, throws⟩ := liftWorldLocal_spec valid now defaultMask enableYaw
  obtain ⟨lifts', throws'⟩ :=
    liftWorldLocal_spec (agree.isValid.symm.trans valid) now defaultMask enableYaw
  rw [sameTau, sameMask] at lifts'
  rw [sameTau] at throws'
  cases tau : liftTau sample now with
  | error error => exact .inr ⟨error, throws error tau, throws' error tau⟩
  | ok seconds =>
      obtain ⟨setpoint, made, lifted⟩ := lifts seconds tau
      obtain ⟨setpoint', made', lifted'⟩ := lifts' seconds tau
      exact .inl ⟨setpoint, setpoint', made, made', lifted.agree agree lifted'⟩

/-- Both times of an extrapolation are known. -/
def stamped (sample : MpcTrajectoryState) (now : Time) : Bool :=
  !sample.planningTime.isZero && !now.isZero

/-- The nanoseconds of an extrapolation. -/
def elapsed (sample : MpcTrajectoryState) (now : Time) : Int :=
  if stamped sample now then max 0 ((now.nanos : Int) - sample.planningTime.nanos) else 0

/-- The extrapolation goes back to the sample in no case, and over any time a duration can hold. -/
theorem liftTau_eq (inRange : stamped sample now = true →
    Duration.InRange ((now.nanos : Int) - sample.planningTime.nanos)) :
    liftTau sample now = .ok (.fin (elapsed sample now / 1000000000)) := by
  unfold liftTau elapsed
  cases timed : stamped sample now with
  | false =>
      have unstamped : (!sample.planningTime.isZero && !now.isZero) = false := timed
      have positive : ¬(0 : Double) < 0 := by decide
      rw [unstamped]
      simp only [Bool.false_eq_true, if_false, positive, Int.cast_zero, zero_div]
      rfl
  | true =>
      have both : (!sample.planningTime.isZero && !now.isZero) = true := timed
      obtain ⟨span, subtracted, -, count⟩ :=
        (now.sub_exact sample.planningTime).1 (inRange timed)
      rw [both, subtracted]
      simp only [if_true, bind, Except.bind, pure, Except.pure, span.toSec_eq, count]
      have negative : Double.fin
          ((((now.nanos : Int) - sample.planningTime.nanos : Int) : ℚ) / 1000000000) < 0 ↔
          (now.nanos : Int) - sample.planningTime.nanos < 0 := by
        change Double.fin _ < Double.fin 0 ↔ _
        rw [Double.fin_lt_fin, div_lt_iff₀ (by norm_num), zero_mul, Int.cast_lt_zero]
      split
      next before =>
        rw [negative] at before
        rw [max_eq_left before.le, Int.cast_zero, zero_div]
        rfl
      next after =>
        rw [negative, not_lt] at after
        rw [max_eq_right after]

theorem liftTau_error (timed : stamped sample now = true)
    (out : ¬Duration.InRange ((now.nanos : Int) - sample.planningTime.nanos)) :
    liftTau sample now = .error Duration.outOfRange := by
  have both : (!sample.planningTime.isZero && !now.isZero) = true := timed
  unfold liftTau
  rw [both, (now.sub_exact sample.planningTime).2 out]
  rfl

/-- The bits of all axes, yaw and yaw rate included. -/
def axisBits : List UInt16 :=
  [kIgnorePxBit, kIgnorePyBit, kIgnorePzBit, kIgnoreVxBit, kIgnoreVyBit, kIgnoreVzBit,
    kIgnoreAfxBit, kIgnoreAfyBit, kIgnoreAfzBit, kIgnoreYawBit, kIgnoreYawRateBit]

/-- The axes in force are the sample's, extrapolated with what is in force of its derivatives. -/
structure Extrapolated (sample : MpcTrajectoryState) (tau : Double) (setpoint : Setpoint) :
    Prop where
  position : ∀ axis : Axis, positionTargetIgnored setpoint.typeMask axis.positionBit = false →
    axis.position setpoint = axis.of sample.positionK +
      unlessIgnored setpoint.typeMask axis.velocityBit (axis.of sample.velocityK) * tau +
      0.5 * unlessIgnored setpoint.typeMask axis.accelerationBit (axis.of sample.accelerationK) *
        tau * tau
  velocity : ∀ axis : Axis, positionTargetIgnored setpoint.typeMask axis.velocityBit = false →
    axis.velocity setpoint = axis.of sample.velocityK +
      unlessIgnored setpoint.typeMask axis.accelerationBit (axis.of sample.accelerationK) * tau
  acceleration : ∀ axis : Axis,
    positionTargetIgnored setpoint.typeMask axis.accelerationBit = false →
    axis.acceleration setpoint = axis.of sample.accelerationK
  yaw : (setpoint.qx, setpoint.qy, setpoint.qz, setpoint.qw) =
    (sample.qx, sample.qy, sample.qz, sample.qw)
  yawRate : setpoint.yawRate = sample.yawRate

theorem unlessIgnored_inForce {mask bit : UInt16} (value : Double)
    (inForce : positionTargetIgnored mask bit = false) : unlessIgnored mask bit value = value := by
  unfold unlessIgnored
  rw [inForce]
  rfl

theorem Lifted.extrapolated {mask : UInt16} {tau : Double} {setpoint : Setpoint}
    (lifted : Lifted sample mask tau setpoint) : Extrapolated sample tau setpoint := by
  constructor
  · intro axis inForce
    rw [lifted.typeMask] at inForce ⊢
    rw [lifted.position, unlessIgnored_inForce _ inForce]
  · intro axis inForce
    rw [lifted.typeMask] at inForce ⊢
    rw [lifted.velocity, unlessIgnored_inForce _ inForce, unlessIgnored_inForce _ inForce]
  · intro axis inForce
    rw [lifted.typeMask] at inForce
    rw [lifted.acceleration, unlessIgnored_inForce _ inForce, unlessIgnored_inForce _ inForce]
  · exact lifted.yaw
  · exact lifted.yawRate

/-- What a nonzero incoming mask ignores stays ignored; yaw does unless it is controlled. -/
theorem ignored_of_lift {setpoint : Setpoint} (valid : sample.isValid = true)
    (made : liftWorldLocal sample now defaultMask enableYaw = .ok setpoint)
    (own : sample.typeMask ≠ 0) {bit : UInt16} (axis : bit ∈ axisBits)
    (yaw : bit = kIgnoreYawBit → enableYaw = false)
    (ignored : positionTargetIgnored sample.typeMask bit = true) :
    positionTargetIgnored setpoint.typeMask bit = true := by
  obtain ⟨lifts, throws⟩ := liftWorldLocal_spec valid now defaultMask enableYaw
  have incoming : incomingMask sample defaultMask = sample.typeMask :=
    if_pos (bne_iff_ne.mpr own)
  cases tau : liftTau sample now with
  | error error => cases made.symm.trans (throws error tau)
  | ok seconds =>
      obtain ⟨lifted, returned, shape⟩ := lifts seconds tau
      cases made.symm.trans returned
      rw [shape.typeMask]
      by_cases isYaw : bit = kIgnoreYawBit
      · rw [liftMask_eq, yaw isYaw, if_neg Bool.false_ne_true, incoming]
        exact positionTargetIgnored_or _ ignored
      · have others : (axisBits.all fun bit =>
            bit == kIgnoreYawBit || ~~~kIgnoreYawBit &&& bit == bit) = true := by decide
        have apart := List.all_eq_true.mp others bit axis
        rw [Bool.or_eq_true, beq_iff_eq, beq_iff_eq] at apart
        apply ignored_liftMask (apart.resolve_left isYaw)
        rw [incoming]
        exact ignored

/-- A lift reads and writes only what the masks leave in force, and extrapolates that. -/
theorem lift_respects_masks (valid : sample.isValid = true) (now : Time) (defaultMask : UInt16)
    (enableYaw : Bool) :
    (∀ other, sample.AgreeOn (incomingMask sample defaultMask) enableYaw other →
      LiftsAgree (liftMask sample defaultMask enableYaw)
        (liftWorldLocal sample now defaultMask enableYaw)
        (liftWorldLocal other now defaultMask enableYaw)) ∧
    (∀ setpoint, liftWorldLocal sample now defaultMask enableYaw = .ok setpoint →
      sample.typeMask ≠ 0 → ∀ bit ∈ axisBits, (bit = kIgnoreYawBit → enableYaw = false) →
        positionTargetIgnored sample.typeMask bit = true →
        positionTargetIgnored setpoint.typeMask bit = true) ∧
    ((stamped sample now = true →
        Duration.InRange ((now.nanos : Int) - sample.planningTime.nanos)) →
      ∃ setpoint, liftWorldLocal sample now defaultMask enableYaw = .ok setpoint ∧
        Extrapolated sample (.fin (elapsed sample now / 1000000000)) setpoint) ∧
    (stamped sample now = true →
      ¬Duration.InRange ((now.nanos : Int) - sample.planningTime.nanos) →
      liftWorldLocal sample now defaultMask enableYaw = .error Duration.outOfRange) := by
  obtain ⟨lifts, throws⟩ := liftWorldLocal_spec valid now defaultMask enableYaw
  refine ⟨fun other agree => lifts_agree valid agree, ?_, ?_, ?_⟩
  · intro setpoint made own bit axis yaw ignored
    exact ignored_of_lift valid made own axis yaw ignored
  · intro inRange
    obtain ⟨setpoint, made, lifted⟩ := lifts _ (liftTau_eq inRange)
    exact ⟨setpoint, made, lifted.extrapolated⟩
  · intro timed out
    exact throws _ (liftTau_error timed out)

/-- A sample that moves along one axis and ignores yaw. -/
def movingSample : MpcTrajectoryState :=
  { velocityK := { x := 1 }
    planningTime := ⟨2, 0⟩
    typeMask := kDefaultPvaLocalTypeMask
    isValid := true }

theorem lift_respects_masks_moving :
    ∃ setpoint, liftWorldLocal movingSample ⟨3, 0⟩ kDefaultPvaLocalTypeMask false = .ok setpoint ∧
      Extrapolated movingSample (.fin (elapsed movingSample ⟨3, 0⟩ / 1000000000)) setpoint :=
  (lift_respects_masks rfl ⟨3, 0⟩ kDefaultPvaLocalTypeMask false).2.2.1 fun _ => by decide +kernel

/-- With yaw control on the ignored yaw is passed on and in force; without a planning time the
sample is not extrapolated. -/
theorem yaw_passed_on :
    positionTargetIgnored movingSample.typeMask kIgnoreYawBit = true ∧
      (liftWorldLocal movingSample ⟨3, 0⟩ kDefaultPvaLocalTypeMask true).map
        (fun setpoint => (setpoint.qz, positionTargetIgnored setpoint.typeMask kIgnoreYawBit)) =
        .ok (0, false) ∧
      (liftWorldLocal { movingSample with qz := 1, qw := 0 } ⟨3, 0⟩ kDefaultPvaLocalTypeMask
        true).map
        (fun setpoint => (setpoint.qz, positionTargetIgnored setpoint.typeMask kIgnoreYawBit)) =
        .ok (1, false) ∧
      (liftWorldLocal { movingSample with planningTime := {} } ⟨3, 0⟩ kDefaultPvaLocalTypeMask
        false).map
        (fun setpoint => (setpoint.x, positionTargetIgnored setpoint.typeMask kIgnorePxBit)) =
        .ok (0, false) := by
  decide +kernel

end MultirotorController
