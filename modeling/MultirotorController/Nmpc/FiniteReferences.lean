import MultirotorController.Uav.NmpcTrackingBackend

/-!
# Reference horizons of numbers

A horizon of numbers is still one after its yaw has been held or limited: every
division of the rotations is guarded, and what the libraries make of numbers is
assumed to be a number. The guesses that the solver takes from the references rest
on this.
-/

namespace MultirotorController

open Control

def Mat3.allFinite (m : Mat3) : Bool := m.col0.allFinite && m.col1.allFinite && m.col2.allFinite

def Control.Se3State.allFinite (state : Se3State) : Bool :=
  state.position.allFinite && state.velocity.allFinite && state.attitude.allFinite &&
    state.bodyRate.allFinite

def Control.Se3Reference.allFinite (reference : Se3Reference) : Bool :=
  reference.state.allFinite && reference.bodyZSpecificForce.isFinite &&
    reference.angularAcceleration.allFinite

/-- What is relied on of the libraries: they make numbers of numbers. -/
structure FiniteLibraries [Libm] [Eigen] [Se3Packing] : Prop where
  sqrt : ∀ x : Double, x.isFinite = true → 0 < x →
    (Libm.sqrt x).isFinite = true ∧ Libm.sqrt x ≠ 0
  sin : ∀ x : Double, x.isFinite = true → (Libm.sin x).isFinite = true
  cos : ∀ x : Double, x.isFinite = true → (Libm.cos x).isFinite = true
  atan2 : ∀ y x : Double, y.isFinite = true → x.isFinite = true → (Libm.atan2 y x).isFinite = true
  quaternion : ∀ m : Mat3, m.allFinite = true → (Eigen.quaternion m).allFinite = true
  packState : ∀ state : Se3State, state.allFinite = true →
    (Se3Packing.packState state).allFinite = true

section Vectors

theorem Vec3.allFinite_iff {v : Vec3} :
    v.allFinite = true ↔ v.x.isFinite = true ∧ v.y.isFinite = true ∧ v.z.isFinite = true := by
  simp [Vec3.allFinite, and_assoc]

theorem Vec3.dividedBy_finite {v : Vec3} {divisor : Double} (finite : v.allFinite = true)
    (number : divisor.isFinite = true) (nonzero : divisor ≠ 0) :
    (v.dividedBy divisor).allFinite = true := by
  obtain ⟨x, y, z⟩ := Vec3.allFinite_iff.mp finite
  exact Vec3.allFinite_iff.mpr ⟨Double.isFinite_div x number nonzero,
    Double.isFinite_div y number nonzero, Double.isFinite_div z number nonzero⟩

theorem Vec3.scale_finite {v : Vec3} {factor : Double} (finite : v.allFinite = true)
    (number : factor.isFinite = true) : (v.scale factor).allFinite = true := by
  obtain ⟨x, y, z⟩ := Vec3.allFinite_iff.mp finite
  exact Vec3.allFinite_iff.mpr ⟨Double.isFinite_mul.mpr ⟨number, x⟩,
    Double.isFinite_mul.mpr ⟨number, y⟩, Double.isFinite_mul.mpr ⟨number, z⟩⟩

theorem Vec3.cross_finite {v w : Vec3} (finite : v.allFinite = true)
    (finite' : w.allFinite = true) : (v.cross w).allFinite = true := by
  obtain ⟨x, y, z⟩ := Vec3.allFinite_iff.mp finite
  obtain ⟨x', y', z'⟩ := Vec3.allFinite_iff.mp finite'
  apply Vec3.allFinite_iff.mpr
  refine ⟨?_, ?_, ?_⟩ <;> simp [Vec3.cross, x, y, z, x', y', z']

theorem Quaternion.allFinite_iff {q : Quaternion} :
    q.allFinite = true ↔ q.x.isFinite = true ∧ q.y.isFinite = true ∧ q.z.isFinite = true ∧
      q.w.isFinite = true := by
  simp [Quaternion.allFinite, and_assoc]

theorem Mat3.allFinite_iff {m : Mat3} :
    m.allFinite = true ↔
      m.col0.allFinite = true ∧ m.col1.allFinite = true ∧ m.col2.allFinite = true := by
  simp [Mat3.allFinite, and_assoc]

theorem Quaternion.toRotationMatrix_finite {q : Quaternion} (finite : q.allFinite = true) :
    q.toRotationMatrix.allFinite = true := by
  obtain ⟨x, y, z, w⟩ := Quaternion.allFinite_iff.mp finite
  have two : (2 : Double).isFinite = true := rfl
  have one : (1 : Double).isFinite = true := rfl
  simp [Quaternion.toRotationMatrix, Mat3.allFinite_iff, Vec3.allFinite_iff, x, y, z, w, two, one]

theorem Control.Se3Reference.allFinite_iff {reference : Se3Reference} :
    reference.allFinite = true ↔ reference.state.position.allFinite = true ∧
      reference.state.velocity.allFinite = true ∧ reference.state.attitude.allFinite = true ∧
      reference.state.bodyRate.allFinite = true ∧ reference.bodyZSpecificForce.isFinite = true ∧
      reference.angularAcceleration.allFinite = true := by
  simp [Control.Se3Reference.allFinite, Control.Se3State.allFinite, and_assoc]

end Vectors

section Rotations

variable [Libm]

/-- A vector that is too short, or whose length is no number, is replaced. -/
theorem NmpcMath.normalizeVector_finite {value fallback : Vec3} (finite : value.allFinite = true)
    (instead : fallback.allFinite = true) :
    (NmpcMath.normalizeVector value fallback).allFinite = true := by
  unfold NmpcMath.normalizeVector
  dsimp only
  split
  · exact instead
  next long =>
    simp only [Bool.or_eq_true, Bool.not_eq_true', decide_eq_true_eq, not_or,
      Bool.not_eq_false] at long
    refine Vec3.dividedBy_finite finite long.1 fun zero => long.2 ?_
    rw [zero]
    decide +kernel

theorem NmpcMath.rotationFromBodyZ_finite {bodyZ : Vec3} {yaw : Double}
    (finite : bodyZ.allFinite = true) (sin : (Libm.sin yaw).isFinite = true)
    (cos : (Libm.cos yaw).isFinite = true) :
    (NmpcMath.rotationFromBodyZ bodyZ yaw).allFinite = true := by
  have zB : (normalizeVector bodyZ .unitZ).allFinite = true := normalizeVector_finite finite rfl
  have heading : (⟨Libm.cos yaw, Libm.sin yaw, 0⟩ : Vec3).allFinite = true :=
    Vec3.allFinite_iff.mpr ⟨cos, sin, rfl⟩
  unfold NmpcMath.rotationFromBodyZ
  dsimp only
  generalize normalizeVector bodyZ .unitZ = z at zB ⊢
  have crossed := Vec3.cross_finite zB heading
  have spare : (z.cross .unitY).allFinite = true := Vec3.cross_finite zB rfl
  have yB : (normalizeVector (if (z.cross ⟨Libm.cos yaw, Libm.sin yaw, 0⟩).norm < 1e-8 then
      z.cross .unitY else z.cross ⟨Libm.cos yaw, Libm.sin yaw, 0⟩) .unitY).allFinite = true := by
    refine normalizeVector_finite ?_ rfl
    split
    · exact spare
    · exact crossed
  exact Mat3.allFinite_iff.mpr
    ⟨normalizeVector_finite (Vec3.cross_finite yB zB) rfl, yB, zB⟩

omit [Libm] in
theorem NmpcMath.normalizeAngle_finite {angle : Double} (finite : angle.isFinite = true) :
    (NmpcMath.normalizeAngle angle).isFinite = true := by
  obtain ⟨value, rfl⟩ := Double.exists_eq_fin finite
  unfold NmpcMath.normalizeAngle
  dsimp only
  split
  · rfl
  split <;> rfl

variable [Eigen]

omit [Libm] in
/-- The logarithm leaves out whatever the library does not decompose into numbers. -/
theorem NmpcMath.rotationLog_finite (rotation : Mat3) :
    (NmpcMath.rotationLog rotation).allFinite = true := by
  unfold NmpcMath.rotationLog
  dsimp only
  split
  · rfl
  next decomposed =>
    simp only [Bool.or_eq_true, Bool.not_eq_true', not_or, Bool.not_eq_false] at decomposed
    exact Vec3.scale_finite decomposed.2 decomposed.1.1

theorem NmpcMath.bodyRateFromRotationDelta_finite (current next : Quaternion) (dt : Double) :
    (NmpcMath.bodyRateFromRotationDelta current next dt).allFinite = true := by
  unfold NmpcMath.bodyRateFromRotationDelta
  split
  · rfl
  next positive =>
    split
    · rfl
    · simp only [Bool.or_eq_true, Bool.not_eq_true', decide_eq_true_eq, not_or,
        Bool.not_eq_false] at positive
      refine Vec3.dividedBy_finite (rotationLog_finite _) positive.1 fun zero => positive.2 ?_
      rw [zero]
      decide +kernel

end Rotations

namespace UavNmpcTrackingBackend

variable [Libm] [Eigen] [Se3Packing]

section Horizon

variable {references : List Se3Reference} {stageDt : Double}

omit [Se3Packing] in
/-- Recomputed rates are numbers whatever the references are. -/
theorem recomputeReferenceBodyRates_finite
    (finite : ∀ reference ∈ references, reference.allFinite = true) :
    ∀ reference ∈ recomputeReferenceBodyRates references stageDt, reference.allFinite = true := by
  have computed : ∀ rate ∈ List.zipWith (fun current next : Se3Reference =>
      NmpcMath.bodyRateFromRotationDelta current.state.attitude next.state.attitude stageDt)
      references references.tail, rate.allFinite = true := by
    intro rate member
    rw [← List.map_uncurry_zip_eq_zipWith] at member
    obtain ⟨pair, -, rfl⟩ := List.mem_map.mp member
    exact NmpcMath.bodyRateFromRotationDelta_finite _ _ _
  have rates : ∀ rate ∈ referenceBodyRates references stageDt, rate.allFinite = true := by
    intro rate member
    unfold referenceBodyRates at member
    rcases List.mem_append.mp member with inner | last
    · exact computed rate inner
    · rw [List.mem_singleton.mp last, List.getLastD_eq_getLast?]
      generalize List.zipWith (fun current next : Se3Reference =>
          NmpcMath.bodyRateFromRotationDelta current.state.attitude next.state.attitude stageDt)
          references references.tail = rates at computed ⊢
      cases found : rates.getLast? with
      | none => rfl
      | some rate => exact computed rate (List.mem_of_getLast? found)
  intro reference member
  unfold recomputeReferenceBodyRates at member
  rw [← List.map_uncurry_zip_eq_zipWith] at member
  obtain ⟨⟨old, rate⟩, inside, rfl⟩ := List.mem_map.mp member
  obtain ⟨given, chosen⟩ := List.of_mem_zip inside
  obtain ⟨position, velocity, attitude, -, force, -⟩ :=
    Control.Se3Reference.allFinite_iff.mp (finite old given)
  have rate : rate.allFinite = true := by
    split at chosen
    · obtain ⟨-, -, rfl⟩ := List.mem_map.mp chosen
      rfl
    · exact rates rate chosen
  exact Control.Se3Reference.allFinite_iff.mpr ⟨position, velocity, attitude, rate, force, rfl⟩

theorem setReferenceYaw_finite (libraries : FiniteLibraries) {reference : Se3Reference}
    {yaw : Double} (finite : reference.allFinite = true) (number : yaw.isFinite = true) :
    (setReferenceYaw reference yaw).allFinite = true := by
  obtain ⟨position, velocity, attitude, rate, force, acceleration⟩ :=
    Control.Se3Reference.allFinite_iff.mp finite
  have bodyZ := (Mat3.allFinite_iff.mp (Quaternion.toRotationMatrix_finite attitude)).2.2
  have turned := libraries.quaternion _ (NmpcMath.rotationFromBodyZ_finite bodyZ
    (libraries.sin yaw number) (libraries.cos yaw number))
  refine Control.Se3Reference.allFinite_iff.mpr
    ⟨position, velocity, ?_, rate, force, acceleration⟩
  unfold setReferenceYaw Quaternion.normalize
  dsimp only
  generalize Eigen.quaternion _ = q at turned ⊢
  obtain ⟨x, y, z, w⟩ := Quaternion.allFinite_iff.mp turned
  split
  next positive =>
    have square : q.squaredNorm.isFinite = true := by
      simp [Quaternion.squaredNorm, x, y, z, w]
    obtain ⟨norm, nonzero⟩ := libraries.sqrt _ square positive
    exact Quaternion.allFinite_iff.mpr ⟨Double.isFinite_div x norm nonzero,
      Double.isFinite_div y norm nonzero, Double.isFinite_div z norm nonzero,
      Double.isFinite_div w norm nonzero⟩
  · exact turned

theorem quaternionToYaw_finite (libraries : FiniteLibraries) {q : Quaternion}
    (finite : q.allFinite = true) : (quaternionToYaw q.x q.y q.z q.w).isFinite = true := by
  obtain ⟨x, y, z, w⟩ := Quaternion.allFinite_iff.mp finite
  have two : (2 : Double).isFinite = true := rfl
  have one : (1 : Double).isFinite = true := rfl
  refine libraries.atan2 _ _ ?_ ?_ <;> simp [x, y, z, w, two, one]

theorem yawFromStateVector_finite (libraries : FiniteLibraries) (x0 : Se3StateVector) :
    (yawFromStateVector x0).isFinite = true := by
  unfold yawFromStateVector
  dsimp only
  split
  · rfl
  next finite => exact quaternionToYaw_finite libraries (by simpa using finite)

omit [Eigen] [Se3Packing] in
theorem limitedYaw_finite (reference : Se3Reference) {currentYaw : Double}
    (number : currentYaw.isFinite = true) : (limitedYaw reference currentYaw).isFinite = true := by
  unfold limitedYaw
  dsimp only
  have ordered : -kMaxYawReferenceErrorRad ≤ kMaxYawReferenceErrorRad := by decide +kernel
  obtain ⟨above, below⟩ := Double.between_max_min ordered
  exact NmpcMath.normalizeAngle_finite
    (Double.isFinite_add.mpr ⟨number, Double.isFinite_of_between rfl rfl above below⟩)

/-- The references that a request is solved for consist of numbers if the given ones do. -/
theorem trackingReferences_finite (libraries : FiniteLibraries) (backend : UavNmpcTrackingBackend)
    (x0 : Se3StateVector) (finite : ∀ reference ∈ references, reference.allFinite = true) :
    ∀ reference ∈ backend.trackingReferences x0 references, reference.allFinite = true := by
  have number := yawFromStateVector_finite libraries x0
  unfold trackingReferences
  dsimp only
  split
  · refine recomputeReferenceBodyRates_finite fun reference member => ?_
    obtain ⟨given, inside, rfl⟩ := List.mem_map.mp member
    exact setReferenceYaw_finite libraries (finite given inside) number
  · refine recomputeReferenceBodyRates_finite fun reference member => ?_
    obtain ⟨given, inside, rfl⟩ := List.mem_map.mp member
    exact setReferenceYaw_finite libraries (finite given inside)
      (limitedYaw_finite given number)

end Horizon

end UavNmpcTrackingBackend

end MultirotorController
