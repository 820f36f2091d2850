import MultirotorController.Uav.NmpcTrackingBackend

/-!
# The bounds of a session

A configuration whose limits are numbers can bound a command. The checks of the
backend and of the solver, written apart from each other, together ask for such a
configuration, a thrust interval that is no single point and a hover thrust that can
be divided by. A session that has locked its bounds has passed all of them, and its
commands stay inside the limits whatever the solver returns.
-/

namespace MultirotorController

open Control

/-- The limits of a configuration are numbers, and leave room for a command. -/
structure ControllerConfig.Limits (config : ControllerConfig) : Prop where
  gravity : config.nmpc.gravity.isFinite = true ∧ 1e-6 < config.nmpc.gravity
  least : config.nmpc.normalizedThrustMin.isFinite = true ∧ 0 ≤ config.nmpc.normalizedThrustMin
  greatest : config.nmpc.normalizedThrustMax.isFinite = true ∧
    config.nmpc.normalizedThrustMax ≤ 1
  ordered : config.nmpc.normalizedThrustMin ≤ config.nmpc.normalizedThrustMax
  rollPitchRate : config.nmpc.maxRollPitchBodyRate.isFinite = true ∧
    0 < config.nmpc.maxRollPitchBodyRate
  yawRate : config.nmpc.maxYawBodyRate.isFinite = true ∧ 0 < config.nmpc.maxYawBodyRate
  rollPitchAcceleration : config.nmpc.maxRollPitchAngularAcceleration.isFinite = true ∧
    0 < config.nmpc.maxRollPitchAngularAcceleration
  yawAcceleration : config.nmpc.maxYawAngularAcceleration.isFinite = true ∧
    0 < config.nmpc.maxYawAngularAcceleration

/-- A hover thrust that the mapping of thrusts can work with. -/
structure ControllerConfig.UsableHoverThrust (config : ControllerConfig) (hoverThrust : Double) :
    Prop where
  finite : hoverThrust.isFinite = true
  notBelow : ¬hoverThrust < config.nmpc.minHoverThrust
  notAbove : ¬config.nmpc.maxHoverThrust < hoverThrust

namespace ControllerConfig.Limits

variable {config : ControllerConfig}

theorem not_weak (limits : config.Limits) : ¬config.nmpc.gravity ≤ 1e-6 := fun weak =>
  Double.not_lt_of_le weak limits.gravity.2

/-- A thrust in numbers stands for a normalized thrust in numbers. -/
theorem rawThrust_ne_nan (limits : config.Limits) {hoverThrust thrust : Double}
    (usable : config.UsableHoverThrust hoverThrust) (finite : thrust.isFinite = true) :
    hoverThrust * (thrust / config.nmpc.gravity) ≠ .nan := by
  have nonzero : config.nmpc.gravity ≠ 0 := by
    intro zero
    refine limits.not_weak ?_
    rw [zero]
    decide +kernel
  have raw : (hoverThrust * (thrust / config.nmpc.gravity)).isFinite = true :=
    Double.isFinite_mul.mpr ⟨usable.finite, Double.isFinite_div finite limits.gravity.1 nonzero⟩
  intro notNumber
  rw [notNumber] at raw
  cases raw

end ControllerConfig.Limits

theorem NmpcMath.stdClamp_between {value low high : Double} (number : value ≠ .nan)
    (ordered : low ≤ high) :
    low ≤ NmpcMath.stdClamp value low high ∧ NmpcMath.stdClamp value low high ≤ high := by
  have same : NmpcMath.stdClamp value low high = Double.max low (Double.min high value) :=
    (Double.max_min_eq number ordered).symm
  rw [same]
  exact Double.between_max_min ordered

/-- A target of numbers within the limits of a configuration, whose thrust stands for a thrust
and a hover thrust that could be mapped. -/
structure AttitudeRateTarget.Within (config : ControllerConfig) (target : AttitudeRateTarget) :
    Prop where
  rollRate : target.bodyRateX.isFinite = true ∧
    target.bodyRateX.abs ≤ config.nmpc.maxRollPitchBodyRate
  pitchRate : target.bodyRateY.isFinite = true ∧
    target.bodyRateY.abs ≤ config.nmpc.maxRollPitchBodyRate
  yawRate : target.bodyRateZ.isFinite = true ∧ target.bodyRateZ.abs ≤ config.nmpc.maxYawBodyRate
  thrust : config.nmpc.normalizedThrustMin ≤ target.thrust ∧
    target.thrust ≤ config.nmpc.normalizedThrustMax
  mapped : ∃ hoverThrust specificThrust, config.UsableHoverThrust hoverThrust ∧
    specificThrust.isFinite = true ∧
    target.thrust = NmpcMath.stdClamp (hoverThrust * (specificThrust / config.nmpc.gravity))
      config.nmpc.normalizedThrustMin config.nmpc.normalizedThrustMax

namespace UavNmpcSolver

/-- The interval and the limits pass the checks of the solver. -/
structure Checked (least greatest rollPitchRate yawRate rollPitchAcceleration
    yawAcceleration : Double) : Prop where
  nonnegative : least.isFinite = true ∧ 0 ≤ least
  wide : greatest.isFinite = true ∧ least < greatest
  rollPitch : rollPitchRate.isFinite = true ∧ 0 < rollPitchRate
  yaw : yawRate.isFinite = true ∧ 0 < yawRate
  rollPitchAngular : rollPitchAcceleration.isFinite = true ∧ 0 < rollPitchAcceleration
  yawAngular : yawAcceleration.isFinite = true ∧ 0 < yawAcceleration

section Checks

variable (solver : UavNmpcSolver) (least greatest rollPitchRate yawRate rollPitchAcceleration
  yawAcceleration : Double)

/-- The bounds that are written for an interval and the limits. -/
def boundsFor : RuntimeBounds := {
  inputLower := ⟨least, ⟨-rollPitchRate, -rollPitchRate, -yawRate⟩⟩
  inputUpper := ⟨greatest, ⟨rollPitchRate, rollPitchRate, yawRate⟩⟩
  pathLower := { solver.bounds.pathLower with
    axes := ⟨-rollPitchAcceleration, -rollPitchAcceleration, -yawAcceleration⟩ }
  pathUpper := { solver.bounds.pathUpper with
    axes := ⟨rollPitchAcceleration, rollPitchAcceleration, yawAcceleration⟩ } }

theorem positive_of_check {limit : Double} (passed : ¬(!limit.isFinite ∨ limit ≤ 0)) :
    limit.isFinite = true ∧ 0 < limit := by
  simp only [Bool.not_eq_true', not_or, Bool.not_eq_false] at passed
  exact ⟨passed.1, Double.lt_of_not_le rfl passed.1 passed.2⟩

variable [Acados]

/-- Bounds that pass the checks are written; others change nothing. -/
theorem configureInputBounds_cases :
    (Checked least greatest rollPitchRate yawRate rollPitchAcceleration yawAcceleration ∧
      solver.configureInputBounds least greatest rollPitchRate yawRate rollPitchAcceleration
          yawAcceleration =
        ({ solver with
            bounds := solver.boundsFor least greatest rollPitchRate yawRate rollPitchAcceleration
              yawAcceleration
            capsule := solver.capsule.map fun capsule => { capsule with
              bounds := solver.boundsFor least greatest rollPitchRate yawRate
                rollPitchAcceleration yawAcceleration } },
          !solver.capsule.isSome || Acados.setBounds (solver.boundsFor least greatest
            rollPitchRate yawRate rollPitchAcceleration yawAcceleration))) ∨
    ¬Checked least greatest rollPitchRate yawRate rollPitchAcceleration yawAcceleration ∧
      solver.configureInputBounds least greatest rollPitchRate yawRate rollPitchAcceleration
          yawAcceleration = (solver, false) := by
  unfold configureInputBounds
  split
  next refused =>
    refine .inr ⟨fun checked => ?_, rfl⟩
    have above := Double.not_lt_of_le checked.nonnegative.2
    have apart : ¬greatest ≤ least := fun below => Double.not_lt_of_le below checked.wide.2
    simp [checked.nonnegative.1, checked.wide.1, above, apart] at refused
  split
  next refused =>
    refine .inr ⟨fun checked => ?_, rfl⟩
    have first : ¬rollPitchRate ≤ 0 := fun below =>
      Double.not_lt_of_le below checked.rollPitch.2
    have second : ¬yawRate ≤ 0 := fun below => Double.not_lt_of_le below checked.yaw.2
    simp [checked.rollPitch.1, checked.yaw.1, first, second] at refused
  split
  next refused =>
    refine .inr ⟨fun checked => ?_, rfl⟩
    have first : ¬rollPitchAcceleration ≤ 0 := fun below =>
      Double.not_lt_of_le below checked.rollPitchAngular.2
    have second : ¬yawAcceleration ≤ 0 := fun below =>
      Double.not_lt_of_le below checked.yawAngular.2
    simp [checked.rollPitchAngular.1, checked.yawAngular.1, first, second] at refused
  next interval rates accelerations =>
    simp only [Bool.or_eq_true, decide_eq_true_eq, not_or] at interval rates accelerations
    obtain ⟨⟨⟨finite, finite'⟩, above⟩, apart⟩ := interval
    obtain ⟨⟨⟨rollPitch, rollPitch'⟩, yaw⟩, yaw'⟩ := rates
    obtain ⟨⟨⟨rollPitch₂, rollPitch₂'⟩, yaw₂⟩, yaw₂'⟩ := accelerations
    simp only [Bool.not_eq_true', Bool.not_eq_false] at finite finite'
    refine .inl ⟨⟨⟨finite, Double.le_of_not_lt rfl finite above⟩,
      ⟨finite', Double.lt_of_not_le finite finite' apart⟩,
      positive_of_check (not_or.mpr ⟨rollPitch, rollPitch'⟩),
      positive_of_check (not_or.mpr ⟨yaw, yaw'⟩),
      positive_of_check (not_or.mpr ⟨rollPitch₂, rollPitch₂'⟩),
      positive_of_check (not_or.mpr ⟨yaw₂, yaw₂'⟩)⟩, ?_⟩
    cases held : solver.capsule with
    | none => rfl
    | some capsule => rfl

end Checks

end UavNmpcSolver

namespace UavNmpcTrackingBackend

/-- The thrust that a normalized thrust stands for. -/
def specificThrust (config : ControllerConfig) (hoverThrust normalizedThrust : Double) : Double :=
  config.nmpc.gravity * normalizedThrust / hoverThrust

/-- What a session knows once its bounds are locked: the limits are usable, the thrust interval
is no single point, and the hover thrust that was locked is one of the configured range. -/
structure Locked (backend : UavNmpcTrackingBackend) : Prop where
  limits : backend.config.Limits
  apart : backend.config.nmpc.normalizedThrustMin < backend.config.nmpc.normalizedThrustMax
  divisor : 1e-6 < backend.initialHoverThrust
  usable : backend.config.UsableHoverThrust backend.initialHoverThrust
  lower : backend.solver.bounds.inputLower =
    ⟨specificThrust backend.config backend.initialHoverThrust
        backend.config.nmpc.normalizedThrustMin,
      ⟨-backend.config.nmpc.maxRollPitchBodyRate, -backend.config.nmpc.maxRollPitchBodyRate,
        -backend.config.nmpc.maxYawBodyRate⟩⟩
  upper : backend.solver.bounds.inputUpper =
    ⟨specificThrust backend.config backend.initialHoverThrust
        backend.config.nmpc.normalizedThrustMax,
      ⟨backend.config.nmpc.maxRollPitchBodyRate, backend.config.nmpc.maxRollPitchBodyRate,
        backend.config.nmpc.maxYawBodyRate⟩⟩

section Lock

variable (backend : UavNmpcTrackingBackend) (hoverThrust : Double)

/-- The bounds that a session hands to its solver for a hover thrust. -/
def checkedBounds : Prop :=
  UavNmpcSolver.Checked
    (specificThrust backend.config hoverThrust backend.config.nmpc.normalizedThrustMin)
    (specificThrust backend.config hoverThrust backend.config.nmpc.normalizedThrustMax)
    backend.config.nmpc.maxRollPitchBodyRate backend.config.nmpc.maxYawBodyRate
    backend.config.nmpc.maxRollPitchAngularAcceleration
    backend.config.nmpc.maxYawAngularAcceleration

/-- The thrust interval exists unless one of its ends or the hover thrust cannot be used. -/
theorem specificThrustBounds_cases :
    (hoverThrust.isFinite = true ∧ ¬hoverThrust ≤ 1e-6 ∧ ¬backend.config.nmpc.gravity ≤ 1e-6 ∧
      ¬backend.config.nmpc.normalizedThrustMin < 0 ∧
      ¬backend.config.nmpc.normalizedThrustMax ≤ backend.config.nmpc.normalizedThrustMin ∧
      ¬1 < backend.config.nmpc.normalizedThrustMax ∧
      backend.specificThrustBounds hoverThrust =
        some (specificThrust backend.config hoverThrust backend.config.nmpc.normalizedThrustMin,
          specificThrust backend.config hoverThrust backend.config.nmpc.normalizedThrustMax)) ∨
    (hoverThrust.isFinite = false ∨ hoverThrust ≤ 1e-6 ∨ backend.config.nmpc.gravity ≤ 1e-6 ∨
      backend.config.nmpc.normalizedThrustMin < 0 ∨
      backend.config.nmpc.normalizedThrustMax ≤ backend.config.nmpc.normalizedThrustMin ∨
      1 < backend.config.nmpc.normalizedThrustMax) ∧
      backend.specificThrustBounds hoverThrust = none := by
  unfold specificThrustBounds
  dsimp only
  split
  next refused =>
    refine .inr ⟨?_, rfl⟩
    simp only [Bool.or_eq_true, Bool.not_eq_true', decide_eq_true_eq] at refused
    obtain (infinite | low) | low := refused
    · exact .inl infinite
    · exact .inr (.inl low)
    · exact .inr (.inr (.inl low))
  next usable =>
    split
    next refused =>
      refine .inr ⟨?_, rfl⟩
      simp only [Bool.or_eq_true, decide_eq_true_eq] at refused
      obtain (low | crossed) | high := refused
      · exact .inr (.inr (.inr (.inl low)))
      · exact .inr (.inr (.inr (.inr (.inl crossed))))
      · exact .inr (.inr (.inr (.inr (.inr high))))
    next wide =>
      simp only [Bool.or_eq_true, Bool.not_eq_true', decide_eq_true_eq, not_or,
        Bool.not_eq_false] at usable wide
      exact .inl ⟨usable.1.1, usable.1.2, usable.2, wide.1.1, wide.1.2, wide.2, rfl⟩

variable {backend hoverThrust}

/-- Numbers at both ends of the interval come from numbers only. -/
theorem finite_of_specificThrust {config : ControllerConfig} {normalizedThrust : Double}
    (hover : hoverThrust.isFinite = true)
    (finite : (specificThrust config hoverThrust normalizedThrust).isFinite = true) :
    config.nmpc.gravity.isFinite = true ∧ normalizedThrust.isFinite = true :=
  Double.isFinite_mul.mp (Double.isFinite_of_div hover finite)

/-- Whoever has passed all the checks has usable limits. -/
theorem limits_of_checked (checked : backend.checkedBounds hoverThrust)
    (hover : hoverThrust.isFinite = true) (gravity : ¬backend.config.nmpc.gravity ≤ 1e-6)
    (least : ¬backend.config.nmpc.normalizedThrustMin < 0)
    (apart : ¬backend.config.nmpc.normalizedThrustMax ≤ backend.config.nmpc.normalizedThrustMin)
    (greatest : ¬1 < backend.config.nmpc.normalizedThrustMax) :
    backend.config.Limits ∧
      backend.config.nmpc.normalizedThrustMin < backend.config.nmpc.normalizedThrustMax := by
  obtain ⟨finite, low⟩ := finite_of_specificThrust hover checked.nonnegative.1
  obtain ⟨-, high⟩ := finite_of_specificThrust hover checked.wide.1
  have between := Double.lt_of_not_le low high apart
  exact ⟨⟨⟨finite, Double.lt_of_not_le rfl finite gravity⟩,
    ⟨low, Double.le_of_not_lt rfl low least⟩, ⟨high, Double.le_of_not_lt high rfl greatest⟩,
    Double.le_of_lt between, checked.rollPitch, checked.yaw, checked.rollPitchAngular,
    checked.yawAngular⟩, between⟩

variable (backend hoverThrust) [Acados]

/-- The solver of a session whose bounds are being written. -/
def boundedSolver : UavNmpcSolver :=
  (backend.solver.configureInputBounds
    (specificThrust backend.config hoverThrust backend.config.nmpc.normalizedThrustMin)
    (specificThrust backend.config hoverThrust backend.config.nmpc.normalizedThrustMax)
    backend.config.nmpc.maxRollPitchBodyRate backend.config.nmpc.maxYawBodyRate
    backend.config.nmpc.maxRollPitchAngularAcceleration
    backend.config.nmpc.maxYawAngularAcceleration).1

variable {backend hoverThrust}

/-- Bounds that are locked for the first time have passed every check. -/
theorem lockInputBounds_taken (unlocked : backend.inputBoundsLocked = false)
    (taken : (backend.lockInputBounds hoverThrust).2 = true) :
    backend.checkedBounds hoverThrust ∧ backend.config.Limits ∧
      backend.config.nmpc.normalizedThrustMin < backend.config.nmpc.normalizedThrustMax ∧
      1e-6 < hoverThrust ∧
      (backend.lockInputBounds hoverThrust).1 =
        { backend with
          solver := backend.boundedSolver hoverThrust
          initialHoverThrust := hoverThrust
          effectiveSpecificThrustMin :=
            specificThrust backend.config hoverThrust backend.config.nmpc.normalizedThrustMin
          effectiveSpecificThrustMax :=
            specificThrust backend.config hoverThrust backend.config.nmpc.normalizedThrustMax
          inputBoundsLocked := true } := by
  unfold lockInputBounds at taken ⊢
  simp only [unlocked, Bool.false_eq_true, if_false] at taken ⊢
  obtain ⟨hover, positive, gravity, least, apart, greatest, interval⟩ | ⟨-, missing⟩ :=
    backend.specificThrustBounds_cases hoverThrust
  · rw [interval] at taken ⊢
    obtain ⟨checked, -⟩ | ⟨-, refused⟩ := backend.solver.configureInputBounds_cases
      (specificThrust backend.config hoverThrust backend.config.nmpc.normalizedThrustMin)
      (specificThrust backend.config hoverThrust backend.config.nmpc.normalizedThrustMax)
      backend.config.nmpc.maxRollPitchBodyRate backend.config.nmpc.maxYawBodyRate
      backend.config.nmpc.maxRollPitchAngularAcceleration
      backend.config.nmpc.maxYawAngularAcceleration
    · obtain ⟨limits, between⟩ := limits_of_checked checked hover gravity least apart greatest
      refine ⟨checked, limits, between, Double.lt_of_not_le rfl hover positive, ?_⟩
      dsimp only at taken ⊢
      split at taken
      · cases taken
      next configured =>
        rw [if_neg configured]
        rfl
    · dsimp only at taken
      rw [refused] at taken
      cases taken
  · rw [missing] at taken
    cases taken

/-- A session that has locked its bounds keeps them, and knows what the lock has checked. -/
theorem lockInputBounds_locked
    (known : backend.inputBoundsLocked = true → backend.Locked)
    (inRange : backend.config.UsableHoverThrust hoverThrust)
    (taken : (backend.lockInputBounds hoverThrust).2 = true) :
    (backend.lockInputBounds hoverThrust).1.inputBoundsLocked = true ∧
      (backend.lockInputBounds hoverThrust).1.Locked := by
  cases locked : backend.inputBoundsLocked with
  | true =>
      have kept : backend.lockInputBounds hoverThrust = (backend, true) := if_pos locked
      rw [kept]
      exact ⟨locked, known locked⟩
  | false =>
      obtain ⟨checked, limits, apart, positive, after⟩ := lockInputBounds_taken locked taken
      rw [after]
      refine ⟨rfl, limits, apart, positive, inRange, ?_, ?_⟩
      all_goals
        unfold boundedSolver
        obtain ⟨-, written⟩ | ⟨refused, -⟩ := backend.solver.configureInputBounds_cases
          (specificThrust backend.config hoverThrust backend.config.nmpc.normalizedThrustMin)
          (specificThrust backend.config hoverThrust backend.config.nmpc.normalizedThrustMax)
          backend.config.nmpc.maxRollPitchBodyRate backend.config.nmpc.maxYawBodyRate
          backend.config.nmpc.maxRollPitchAngularAcceleration
          backend.config.nmpc.maxYawAngularAcceleration
        · rw [written]
          rfl
        · exact absurd checked refused

omit [Acados] in
/-- With usable limits only a thrust interval that is a single point, or a hover thrust that
cannot be divided by, is left to fail. -/
theorem checkedBounds_of_limits {config : ControllerConfig} (limits : config.Limits)
    (configured : backend.config = config)
    (apart : config.nmpc.normalizedThrustMin < config.nmpc.normalizedThrustMax)
    (hover : hoverThrust.isFinite = true) (positive : 1e-6 < hoverThrust) :
    backend.checkedBounds hoverThrust := by
  subst configured
  have above : 0 < hoverThrust := Double.lt_of_le_of_lt (by decide +kernel) positive
  have pulled : 0 < backend.config.nmpc.gravity :=
    Double.lt_of_le_of_lt (by decide +kernel) limits.gravity.2
  obtain ⟨h, hoverEq⟩ := Double.exists_eq_fin hover
  obtain ⟨g, gravityEq⟩ := Double.exists_eq_fin limits.gravity.1
  obtain ⟨low, lowEq⟩ := Double.exists_eq_fin limits.least.1
  obtain ⟨high, highEq⟩ := Double.exists_eq_fin limits.greatest.1
  have nonnegative := limits.least.2
  rw [lowEq, highEq] at apart
  rw [lowEq] at nonnegative
  rw [gravityEq] at pulled
  subst hoverEq
  have above : 0 < h := (Double.fin_lt_fin 0 h).mp above
  have pulled : 0 < g := (Double.fin_lt_fin 0 g).mp pulled
  have nonnegative : 0 ≤ low := (Double.fin_le_fin 0 low).mp nonnegative
  have apart : low < high := (Double.fin_lt_fin low high).mp apart
  have ends (value : ℚ) : Double.fin g * .fin value / .fin h = .fin (g * value / h) := by
    rw [Double.fin_mul_fin, Double.fin_div_fin above.ne']
  unfold checkedBounds specificThrust
  rw [gravityEq, lowEq, highEq, ends, ends]
  refine ⟨⟨rfl, ?_⟩, ⟨rfl, ?_⟩, limits.rollPitchRate, limits.yawRate,
    limits.rollPitchAcceleration, limits.yawAcceleration⟩
  · apply (Double.fin_le_fin 0 _).mpr
    positivity
  · apply (Double.fin_lt_fin _ _).mpr
    exact div_lt_div_of_pos_right (mul_lt_mul_of_pos_left apart pulled) above

/-- With usable limits, and a library whose setters take the bounds, the lock succeeds unless the
thrust interval is a single point or the hover thrust cannot be divided by. -/
theorem lockInputBounds_iff (limits : backend.config.Limits)
    (setters : ∀ bounds, Acados.setBounds bounds = true) (hover : hoverThrust.isFinite = true)
    (unlocked : backend.inputBoundsLocked = false) :
    (backend.lockInputBounds hoverThrust).2 = true ↔
      backend.config.nmpc.normalizedThrustMin < backend.config.nmpc.normalizedThrustMax ∧
        1e-6 < hoverThrust := by
  constructor
  · intro taken
    obtain ⟨-, -, apart, positive, -⟩ := lockInputBounds_taken unlocked taken
    exact ⟨apart, positive⟩
  · rintro ⟨apart, positive⟩
    have checked := checkedBounds_of_limits limits rfl apart hover positive
    unfold lockInputBounds
    simp only [unlocked, Bool.false_eq_true, if_false]
    obtain ⟨-, -, -, -, -, -, interval⟩ | ⟨refused, -⟩ :=
      backend.specificThrustBounds_cases hoverThrust
    · rw [interval]
      obtain ⟨-, written⟩ | ⟨refused, -⟩ := backend.solver.configureInputBounds_cases
        (specificThrust backend.config hoverThrust backend.config.nmpc.normalizedThrustMin)
        (specificThrust backend.config hoverThrust backend.config.nmpc.normalizedThrustMax)
        backend.config.nmpc.maxRollPitchBodyRate backend.config.nmpc.maxYawBodyRate
        backend.config.nmpc.maxRollPitchAngularAcceleration
        backend.config.nmpc.maxYawAngularAcceleration
      · dsimp only
        rw [written]
        simp [setters]
      · exact absurd checked refused
    · rcases refused with infinite | small | weak | negative | crossed | large
      · exact absurd (hover.symm.trans infinite) (by decide)
      · exact absurd positive (Double.not_lt_of_le small)
      · exact absurd limits.gravity.2 (Double.not_lt_of_le weak)
      · exact absurd negative (Double.not_lt_of_le limits.least.2)
      · exact absurd apart (Double.not_lt_of_le crossed)
      · exact absurd large (Double.not_lt_of_le limits.greatest.2)

end Lock

section Commands

variable {backend : UavNmpcTrackingBackend}

/-- With usable limits a commanded rate is within them, whatever it is commanded for. -/
theorem bodyRateCommand_within (limits : backend.config.Limits) (bodyRate : Vec3) :
    let command := backend.bodyRateCommand bodyRate
    let rollPitch := backend.config.nmpc.maxRollPitchBodyRate
    let yaw := backend.config.nmpc.maxYawBodyRate
    (-rollPitch ≤ command.x ∧ command.x ≤ rollPitch) ∧
      (-rollPitch ≤ command.y ∧ command.y ≤ rollPitch) ∧ -yaw ≤ command.z ∧ command.z ≤ yaw := by
  have symmetric {limit : Double} (positive : 0 < limit) : -limit ≤ limit :=
    Double.neg_le_self (Double.le_of_lt positive)
  have rollPitch := symmetric limits.rollPitchRate.2
  have yaw := symmetric limits.yawRate.2
  unfold bodyRateCommand NmpcMath.bodyRateCommandFromPredictedBodyRate
  simp only [limits.rollPitchRate.1, limits.rollPitchRate.2, limits.yawRate.1, limits.yawRate.2,
    decide_true, Bool.and_self, if_true]
  exact ⟨Double.between_max_min rollPitch, Double.between_max_min rollPitch,
    Double.between_max_min yaw⟩

theorem bodyRateCommand_finite (limits : backend.config.Limits) (bodyRate : Vec3) :
    (backend.bodyRateCommand bodyRate).allFinite = true := by
  obtain ⟨x, y, z⟩ := bodyRateCommand_within limits bodyRate
  have rollPitch : (-backend.config.nmpc.maxRollPitchBodyRate).isFinite = true :=
    Double.isFinite_neg.trans limits.rollPitchRate.1
  have yaw : (-backend.config.nmpc.maxYawBodyRate).isFinite = true :=
    Double.isFinite_neg.trans limits.yawRate.1
  unfold Vec3.allFinite
  rw [Double.isFinite_of_between rollPitch limits.rollPitchRate.1 x.1 x.2,
    Double.isFinite_of_between rollPitch limits.rollPitchRate.1 y.1 y.2,
    Double.isFinite_of_between yaw limits.yawRate.1 z.1 z.2]
  rfl

/-- With the hover thrust of the lock, a number is mapped and not refused. -/
theorem mapSpecificThrust_of_usable (limits : backend.config.Limits) {hoverThrust thrust : Double}
    (usable : backend.config.UsableHoverThrust hoverThrust) (finite : thrust.isFinite = true) :
    backend.mapSpecificThrustToNormalized thrust hoverThrust =
      NmpcMath.stdClamp (hoverThrust * (thrust / backend.config.nmpc.gravity))
        backend.config.nmpc.normalizedThrustMin backend.config.nmpc.normalizedThrustMax := by
  have pulled := limits.not_weak
  unfold mapSpecificThrustToNormalized
  simp only [finite, usable.finite, usable.notBelow, usable.notAbove, pulled, Bool.not_true,
    decide_false, Bool.or_self, Bool.false_eq_true, if_false]
  exact Double.max_min_eq (limits.rawThrust_ne_nan usable finite) limits.ordered

/-- The command of a locked session is within the limits, whatever its rates are. -/
theorem command_within [LibmExp] (locked : backend.Locked) {u : Se3ControlVector}
    (finite : u.thrust.isFinite = true) : (backend.command u).2.Within backend.config := by
  obtain ⟨x, y, z⟩ := bodyRateCommand_within locked.limits u.axes
  have mapped := mapSpecificThrust_of_usable locked.limits locked.usable finite
  have within : backend.config.nmpc.normalizedThrustMin ≤
      backend.mapSpecificThrustToNormalized u.thrust backend.initialHoverThrust ∧
      backend.mapSpecificThrustToNormalized u.thrust backend.initialHoverThrust ≤
        backend.config.nmpc.normalizedThrustMax := by
    rw [mapped]
    exact NmpcMath.stdClamp_between (locked.limits.rawThrust_ne_nan locked.usable finite)
      locked.limits.ordered
  exact ⟨Double.abs_le_of_between locked.limits.rollPitchRate.1 x.1 x.2,
    Double.abs_le_of_between locked.limits.rollPitchRate.1 y.1 y.2,
    Double.abs_le_of_between locked.limits.yawRate.1 z.1 z.2, within,
    ⟨_, _, locked.usable, finite, mapped⟩⟩

end Commands

section Steps

/-- Nothing that a lock has fixed is written. -/
structure KeepsLock (before after : UavNmpcTrackingBackend) : Prop where
  config : after.config = before.config
  entered : after.entered = before.entered
  hoverThrust : after.initialHoverThrust = before.initialHoverThrust
  locked : after.inputBoundsLocked = before.inputBoundsLocked
  bounds : after.solver.bounds = before.solver.bounds

namespace KeepsLock

variable {first second third : UavNmpcTrackingBackend}

theorem refl (backend : UavNmpcTrackingBackend) : KeepsLock backend backend :=
  ⟨rfl, rfl, rfl, rfl, rfl⟩

theorem trans (earlier : KeepsLock first second) (later : KeepsLock second third) :
    KeepsLock first third :=
  ⟨later.config.trans earlier.config, later.entered.trans earlier.entered,
    later.hoverThrust.trans earlier.hoverThrust, later.locked.trans earlier.locked,
    later.bounds.trans earlier.bounds⟩

theorem known (kept : KeepsLock first second)
    (locked : first.inputBoundsLocked = true → first.Locked) :
    second.inputBoundsLocked = true → second.Locked := by
  intro isLocked
  obtain ⟨limits, apart, divisor, usable, lower, upper⟩ := locked (kept.locked.symm.trans isLocked)
  constructor <;> simp only [kept.config, kept.hoverThrust, kept.bounds] <;> assumption

end KeepsLock

variable (backend : UavNmpcTrackingBackend)

theorem ensureMemory_keepsLock (reference : Se3Reference) :
    KeepsLock backend (backend.ensureMemory reference) := by
  have thrust : KeepsLock backend (backend.ensureThrustActualEstimate reference) := by
    unfold ensureThrustActualEstimate
    split <;> exact ⟨rfl, rfl, rfl, rfl, rfl⟩
  have commanded (backend : UavNmpcTrackingBackend) :
      KeepsLock backend (backend.ensureLastCommandedSpecificThrust reference) := by
    unfold ensureLastCommandedSpecificThrust
    split <;> exact ⟨rfl, rfl, rfl, rfl, rfl⟩
  have rate (backend : UavNmpcTrackingBackend) :
      KeepsLock backend (backend.ensureLastCommandedBodyRate reference) := by
    unfold ensureLastCommandedBodyRate
    split <;> exact ⟨rfl, rfl, rfl, rfl, rfl⟩
  exact (thrust.trans (commanded _)).trans (rate _)

theorem command_keepsLock [LibmExp] (u : Se3ControlVector) :
    KeepsLock backend (backend.command u).1 := by
  have thrust : KeepsLock backend (backend.updateLastCommandedSpecificThrust u.thrust) := by
    unfold updateLastCommandedSpecificThrust
    split <;> exact ⟨rfl, rfl, rfl, rfl, rfl⟩
  have rate (backend : UavNmpcTrackingBackend) (bodyRate : Vec3) :
      KeepsLock backend (backend.updateLastCommandedBodyRate bodyRate) := by
    unfold updateLastCommandedBodyRate
    split <;> exact ⟨rfl, rfl, rfl, rfl, rfl⟩
  have estimate (backend : UavNmpcTrackingBackend) :
      KeepsLock backend (backend.updateThrustActualEstimate u.thrust) := by
    unfold updateThrustActualEstimate
    split
    · exact .refl _
    · split <;> exact ⟨rfl, rfl, rfl, rfl, rfl⟩
  exact (thrust.trans (rate _ _)).trans (estimate _)

theorem finish_keepsLock (now : Time) (target : Option AttitudeRateTarget) :
    KeepsLock backend (backend.finish now target).1 := by
  unfold finish
  cases backend.logs now with
  | error error => exact .refl _
  | ok logs => cases logs <;> exact ⟨rfl, rfl, rfl, rfl, rfl⟩

end Steps

end UavNmpcTrackingBackend

end MultirotorController
