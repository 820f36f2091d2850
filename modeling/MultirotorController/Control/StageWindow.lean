import MultirotorController.Common.TimeSpans
import MultirotorController.Control.TrajectoryLifter
import MultirotorController.Lib.Procedure

/-!
# The effective window of a planner segment

What the lift of the geometric backends has checked when it succeeds, in integer
nanoseconds and bit by bit.
-/

namespace MultirotorController

/-- The bits that declare an axis of position, velocity or acceleration unavailable. -/
def pvaBits : List UInt16 :=
  [kIgnorePxBit, kIgnorePyBit, kIgnorePzBit, kIgnoreVxBit, kIgnoreVyBit, kIgnoreVzBit,
    kIgnoreAfxBit, kIgnoreAfyBit, kIgnoreAfzBit]

/-- The segment is in force at a time: the window, the frame, the axes and the numbers. -/
structure InWindow (sample : MpcTrajectoryState) (now : Time) (planningPeriod : Double) : Prop where
  begun : sample.planningTime.nanos ≤ now.nanos
  unexpired : (now.nanos : Int) ≤ sample.planningTime.nanos + (segmentPeriodNs planningPeriod).toInt
  world : sample.coordinateFrame = 1
  supplied : ∀ bit ∈ pvaBits, positionTargetIgnored sample.typeMask bit = false
  notForce : positionTargetIgnored sample.typeMask kForceBit = false
  finitePosition : sample.positionK.allFinite = true
  finiteVelocity : sample.velocityK.allFinite = true
  finiteAcceleration : sample.accelerationK.allFinite = true

variable {sample : MpcTrajectoryState} {now : Time} {planningPeriod : Double}

theorem ready_of_stageWindowOpen (open_ : stageWindowOpen sample now planningPeriod = .ok true) :
    passThroughReferenceReady sample = true ∧
      sample.planningTime.nanos ≤ now.nanos ∧
      (now.nanos : Int) ≤ sample.planningTime.nanos + (segmentPeriodNs planningPeriod).toInt := by
  unfold stageWindowOpen at open_
  by_cases closed : (!passThroughReferenceReady sample || sample.planningTime.isZero ||
      now.isZero || decide (now < sample.planningTime)) = true
  · rw [if_pos closed] at open_
    cases open_
  · rw [if_neg closed] at open_
    cases subtracted : now.sub sample.planningTime with
    | error error =>
        rw [subtracted] at open_
        cases open_
    | ok difference =>
        have exact_ := Time.toInt_sub subtracted
        rw [subtracted] at open_
        have inside := Except.ok.inj open_
        simp only [Bool.and_eq_true, decide_eq_true_eq, Int64.le_iff_toInt_le] at inside
        obtain ⟨⟨-, nonneg⟩, unexpired⟩ := inside
        have zero : (0 : Int64).toInt = 0 := rfl
        refine ⟨?_, by omega, by omega⟩
        simp only [Bool.or_eq_true, not_or, Bool.not_eq_true] at closed
        simpa using closed.1.1.1

/-- A mask without any bit of a set has none of its members. -/
theorem positionTargetIgnored_of_subset {mask bits bit : UInt16} (clear : mask &&& bits = 0)
    (member : bits &&& bit = bit) : positionTargetIgnored mask bit = false := by
  have absent : mask &&& bit = 0 := by
    rw [← member, ← UInt16.and_assoc, clear, UInt16.zero_and]
  simp [positionTargetIgnored, absent]

theorem inWindow_of_open (open_ : stageWindowOpen sample now planningPeriod = .ok true)
    (available : smcWorldPvaAvailable sample.typeMask sample.coordinateFrame = true) :
    InWindow sample now planningPeriod := by
  obtain ⟨ready, begun, unexpired⟩ := ready_of_stageWindowOpen open_
  have finite : (sample.positionK.allFinite && sample.velocityK.allFinite &&
      sample.accelerationK.allFinite) = true := by
    unfold passThroughReferenceReady at ready
    split at ready
    · cases ready
    · exact ready
  simp only [Bool.and_eq_true] at finite
  simp only [smcWorldPvaAvailable, smcCoordinateFrameIsWorld, smcMaskSuppliesWorldPva,
    Bool.and_eq_true, beq_iff_eq] at available
  obtain ⟨world, unforced, clear⟩ := available
  refine ⟨begun, unexpired, world, ?_, ?_, finite.1.1, finite.1.2, finite.2⟩
  · have members : (pvaBits.all fun bit => (kIgnorePxBit ||| kIgnorePyBit ||| kIgnorePzBit |||
        kIgnoreVxBit ||| kIgnoreVyBit ||| kIgnoreVzBit ||| kIgnoreAfxBit ||| kIgnoreAfyBit |||
        kIgnoreAfzBit) &&& bit == bit) = true := by decide
    intro bit member
    have subset := List.all_eq_true.mp members bit member
    exact positionTargetIgnored_of_subset clear (beq_iff_eq.mp subset)
  · simp [positionTargetIgnored, unforced]

/-- The geometric backends lift only inside the window, and then to the present time. -/
theorem inWindow_of_lift {backend : TrackingBackend} {defaultMask : UInt16} {enableYaw : Bool}
    {px4LocalLift : Px4LocalLiftMode} {lifted : EffectiveSegmentLift}
    (geometric : backend = .smc ∨ backend = .dfbc)
    (found : liftForBackend sample now planningPeriod defaultMask enableYaw backend px4LocalLift =
      .ok lifted) (success : lifted.success = true) :
    InWindow sample now planningPeriod ∧
      liftWorldLocal sample now 0 (backend == .dfbc && enableYaw) = .ok lifted.setpoint := by
  have branch : (backend == .smc || backend == .dfbc) = true := by
    rcases geometric with rfl | rfl <;> rfl
  unfold liftForBackend at found
  rw [if_pos branch] at found
  obtain ⟨open_, window, rest⟩ := Procedure.bind_eq_ok found
  by_cases shut : (!open_ || !smcWorldPvaAvailable sample.typeMask sample.coordinateFrame) = true
  · rw [if_pos shut] at rest
    cases rest
    cases success
  · rw [if_neg shut] at rest
    obtain ⟨setpoint, computed, stored⟩ := Procedure.bind_eq_ok rest
    cases stored
    simp only [Bool.or_eq_true, not_or, Bool.not_eq_true', Bool.not_eq_false] at shut
    obtain ⟨isOpen, available⟩ := shut
    subst isOpen
    exact ⟨inWindow_of_open window available, computed⟩

end MultirotorController
