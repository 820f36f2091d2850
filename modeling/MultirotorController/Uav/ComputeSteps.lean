import MultirotorController.Uav.InputBounds

/-!
# One computation of the backend

A computation admits its request or not, asks the solver or not, and uses the
solution or not. The lemmas say what each of these parts leaves alone and what it
hands on: the guesses for the solve, the warm start after it, and the memory of the
commands.
-/

namespace MultirotorController

open Control

/-- What the library returns from a solve: the status, the states and the inputs. -/
abbrev Candidate := Int × List UavNmpcStateVector × List Se3ControlVector

/-- A zero status, and nothing but numbers. -/
def Candidate.usable (candidate : Candidate) : Bool :=
  decide (candidate.1 = 0) && candidate.2.1.all UavNmpcStateVector.allFinite &&
    candidate.2.2.all Se3ControlVector.allFinite

/-- The input that a usable candidate is commanded with. -/
theorem Candidate.usable_head {candidate : Candidate} (usable : candidate.usable = true) :
    (candidate.2.2.headD {}).allFinite = true := by
  have numbers : candidate.2.2.all Se3ControlVector.allFinite = true :=
    (Bool.and_eq_true_iff.mp usable).2
  cases inputs : candidate.2.2 with
  | nil => rfl
  | cons u rest =>
      rw [inputs] at numbers
      exact (Bool.and_eq_true_iff.mp numbers).1

namespace UavNmpcSolver

/-- The guesses of the next solve and what they come from are left alone, and so is whether
there is a capsule. -/
structure KeepsWarmStart (before after : UavNmpcSolver) : Prop where
  initialized : after.initialized = before.initialized
  capsule : after.capsule.isSome = before.capsule.isSome
  haveWarmStart : after.haveWarmStart = before.haveWarmStart
  xGuess : after.xGuess = before.xGuess
  uGuess : after.uGuess = before.uGuess

/-- A solver that is set up. -/
structure Ready (solver : UavNmpcSolver) : Prop where
  initialized : solver.initialized = true
  capsule : solver.capsule.isSome = true

theorem KeepsWarmStart.refl (solver : UavNmpcSolver) : KeepsWarmStart solver solver :=
  ⟨rfl, rfl, rfl, rfl, rfl⟩

theorem KeepsWarmStart.trans {first second third : UavNmpcSolver}
    (earlier : KeepsWarmStart first second) (later : KeepsWarmStart second third) :
    KeepsWarmStart first third :=
  ⟨later.initialized.trans earlier.initialized, later.capsule.trans earlier.capsule,
    later.haveWarmStart.trans earlier.haveWarmStart, later.xGuess.trans earlier.xGuess,
    later.uGuess.trans earlier.uGuess⟩

theorem KeepsWarmStart.ready {before after : UavNmpcSolver} (kept : KeepsWarmStart before after)
    (ready : before.Ready) : after.Ready :=
  ⟨kept.initialized.trans ready.initialized, kept.capsule.trans ready.capsule⟩

theorem withCapsule_keeps (solver : UavNmpcSolver) (change : Capsule → Capsule) :
    KeepsWarmStart solver (solver.withCapsule change) :=
  ⟨rfl, Option.isSome_map, rfl, rfl, rfl⟩

section Solve

variable [Acados] {solver : UavNmpcSolver}

theorem configureInputBounds_keeps (solver : UavNmpcSolver)
    (least greatest rollPitchRate yawRate rollPitchAcceleration
    yawAcceleration : Double) :
    KeepsWarmStart solver (solver.configureInputBounds least greatest rollPitchRate yawRate
      rollPitchAcceleration yawAcceleration).1 := by
  obtain ⟨-, written⟩ | ⟨-, refused⟩ := solver.configureInputBounds_cases least greatest
    rollPitchRate yawRate rollPitchAcceleration yawAcceleration
  · rw [written]
    exact ⟨rfl, Option.isSome_map, rfl, rfl, rfl⟩
  · rw [refused]
    exact .refl solver

variable [Se3Packing]

omit [Acados] in
/-- The guesses for a solve: the measured state first, and then the last solution or the
references. -/
def guesses (solver : UavNmpcSolver) (initial : UavNmpcStateVector)
    (references : List Se3Reference) : List UavNmpcStateVector × List Se3ControlVector :=
  if solver.haveWarmStart then (initial :: solver.xGuess.tail, solver.uGuess)
  else
    (initial :: ((references.take (horizonSteps + 1)).map packInternalReference).tail,
      (references.take horizonSteps).map fun reference =>
        solver.clampInputGuess (packBodyRateInputReference reference))

/-- Loading either fails and leaves the warm start alone, or writes the guesses to the solver
and to its capsule. -/
theorem load_cases (ready : solver.Ready) (x0 : Se3StateVector) (thrustActual lastThrust : Double)
    (lastRate : Vec3) (references : List Se3Reference) :
    ((solver.load x0 thrustActual lastThrust lastRate references).2 = false ∧
      KeepsWarmStart solver (solver.load x0 thrustActual lastThrust lastRate references).1 ∧
      (solver.load x0 thrustActual lastThrust lastRate references).1.bounds = solver.bounds) ∨
    (solver.load x0 thrustActual lastThrust lastRate references).2 = true ∧
      thrustActual.isFinite = true ∧
      ∃ capsule,
        capsule.x = (solver.guesses (packInternalState x0 thrustActual) references).1 ∧
        capsule.u = (solver.guesses (packInternalState x0 thrustActual) references).2 ∧
        (solver.load x0 thrustActual lastThrust lastRate references).1 =
          { solver with
            capsule := some capsule
            xGuess := (solver.guesses (packInternalState x0 thrustActual) references).1
            uGuess := (solver.guesses (packInternalState x0 thrustActual) references).2 } := by
  have set : solver.initializeSolver = (solver, true) := if_pos ready.initialized
  unfold load
  rw [set]
  simp only [Bool.not_true, Bool.false_eq_true, if_false]
  split
  · exact .inl ⟨rfl, .refl solver, rfl⟩
  split
  · exact .inl ⟨rfl, .refl solver, rfl⟩
  next numbers =>
    split
    · exact .inl ⟨rfl, solver.withCapsule_keeps _, rfl⟩
    · simp only [Bool.or_eq_true, Bool.not_eq_true', not_or, Bool.not_eq_false] at numbers
      obtain ⟨held, isHeld⟩ := Option.isSome_iff_exists.mp ready.capsule
      refine .inr ⟨rfl, numbers.1.1.2, ?_⟩
      unfold setGuesses guesses
      cases warm : solver.haveWarmStart with
      | true =>
          simp only [withCapsule, isHeld, Option.map_some, warm, if_true]
          exact ⟨_, rfl, rfl, rfl⟩
      | false =>
          simp only [withCapsule, isHeld, Option.map_some, warm, Bool.false_eq_true, if_false]
          exact ⟨_, rfl, rfl, rfl⟩

omit [Se3Packing] in
/-- A usable solution becomes the warm start. Another one leaves the warm start alone, or gives
it up. -/
theorem runSolver_cases (solver : UavNmpcSolver) (capsule : Capsule) :
    (Candidate.usable (Acados.solve capsule) = true ∧
      (solver.runSolver capsule).2 = true ∧
      (solver.runSolver capsule).1.optimalControl = (Acados.solve capsule).2.2.headD {} ∧
      (solver.runSolver capsule).1.xGuess = (Acados.solve capsule).2.1 ∧
      (solver.runSolver capsule).1.uGuess = (Acados.solve capsule).2.2) ∨
    Candidate.usable (Acados.solve capsule) = false ∧
      (solver.runSolver capsule).2 = false ∧
      ((solver.runSolver capsule).1.haveWarmStart = false ∨
        (solver.runSolver capsule).1.haveWarmStart = solver.haveWarmStart ∧
        (solver.runSolver capsule).1.xGuess = solver.xGuess ∧
        (solver.runSolver capsule).1.uGuess = solver.uGuess) := by
  unfold runSolver Candidate.usable
  obtain ⟨status, x, u⟩ := Acados.solve capsule
  dsimp only
  split
  next failed => exact .inr ⟨by simp [failed], rfl, .inr ⟨rfl, rfl, rfl⟩⟩
  next solved =>
    split
    next infinite =>
      refine .inr ⟨?_, rfl, .inl rfl⟩
      rw [Bool.or_eq_true, Bool.not_eq_true', Bool.not_eq_true'] at infinite
      rcases infinite with states | inputs
      · simp [states]
      · simp [inputs]
    next finite =>
      refine .inl ⟨?_, rfl, rfl, rfl, rfl⟩
      rw [Bool.or_eq_true, Bool.not_eq_true', Bool.not_eq_true', not_or, Bool.not_eq_false,
        Bool.not_eq_false] at finite
      simp [not_not.mp solved, finite.1, finite.2]

omit [Se3Packing] in
/-- A solve sets up nothing and writes no bounds. -/
theorem runSolver_keeps (solver : UavNmpcSolver) (capsule : Capsule) :
    (solver.runSolver capsule).1.initialized = solver.initialized ∧
      (solver.runSolver capsule).1.capsule.isSome = true ∧
      (solver.runSolver capsule).1.bounds = solver.bounds := by
  unfold runSolver
  obtain ⟨status, x, u⟩ := Acados.solve capsule
  dsimp only
  split
  · exact ⟨rfl, rfl, rfl⟩
  split <;> exact ⟨rfl, rfl, rfl⟩

end Solve

end UavNmpcSolver

/-- What the backend remembers of its commands. -/
structure CommandMemory where
  thrustActual : Double
  lastSpecificThrust : Double
  lastBodyRate : Vec3
deriving DecidableEq, Repr

namespace UavNmpcTrackingBackend

def memory (backend : UavNmpcTrackingBackend) : CommandMemory :=
  ⟨backend.thrustActualEstimate, backend.lastCommandedSpecificThrust,
    backend.lastCommandedBodyRate⟩

/-- The memory that a session starts from, taken from a reference. -/
def firstMemory (backend : UavNmpcTrackingBackend) (reference : Se3Reference) : CommandMemory :=
  let bodyRate := reference.state.bodyRate
  ⟨backend.referenceThrust reference, backend.referenceThrust reference,
    backend.bodyRateCommand (if bodyRate.allFinite then bodyRate else {})⟩

/-- The memory before a solve, once it has been set: an estimate that overflowed begins again. -/
def keptMemory (backend : UavNmpcTrackingBackend) (reference : Se3Reference) : CommandMemory :=
  if backend.thrustActualEstimate.isFinite then backend.memory
  else { backend.memory with thrustActual := backend.referenceThrust reference }

/-- All three memories have been set, and the last command consists of numbers. -/
structure Remembering (backend : UavNmpcTrackingBackend) : Prop where
  thrustActual : backend.thrustActualInitialized = true
  lastSpecificThrust : backend.lastCommandedSpecificThrustInitialized = true ∧
    backend.lastCommandedSpecificThrust.isFinite = true
  lastBodyRate : backend.lastCommandedBodyRateInitialized = true ∧
    backend.lastCommandedBodyRate.allFinite = true

/-- None of the three memories has been set. -/
structure Forgetful (backend : UavNmpcTrackingBackend) : Prop where
  thrustActual : backend.thrustActualInitialized = false
  lastSpecificThrust : backend.lastCommandedSpecificThrustInitialized = false
  lastBodyRate : backend.lastCommandedBodyRateInitialized = false

/-- The memories and their marks are left alone. -/
structure KeepsMemory (before after : UavNmpcTrackingBackend) : Prop where
  memory : after.memory = before.memory
  thrustActual : after.thrustActualInitialized = before.thrustActualInitialized
  lastSpecificThrust : after.lastCommandedSpecificThrustInitialized =
    before.lastCommandedSpecificThrustInitialized
  lastBodyRate : after.lastCommandedBodyRateInitialized = before.lastCommandedBodyRateInitialized

section Memory

variable {backend before after : UavNmpcTrackingBackend}

theorem KeepsMemory.refl (backend : UavNmpcTrackingBackend) : KeepsMemory backend backend :=
  ⟨rfl, rfl, rfl, rfl⟩

theorem KeepsMemory.estimate (kept : KeepsMemory before after) :
    after.thrustActualEstimate = before.thrustActualEstimate :=
  congrArg CommandMemory.thrustActual kept.memory

theorem KeepsMemory.remembering (kept : KeepsMemory before after)
    (remembering : before.Remembering) : after.Remembering := by
  obtain ⟨thrust, specific, rate⟩ := CommandMemory.mk.inj kept.memory
  constructor
  · exact kept.thrustActual.trans remembering.thrustActual
  · rw [kept.lastSpecificThrust, specific]
    exact remembering.lastSpecificThrust
  · rw [kept.lastBodyRate, rate]
    exact remembering.lastBodyRate

theorem KeepsMemory.forgetful (kept : KeepsMemory before after) (forgetful : before.Forgetful) :
    after.Forgetful :=
  ⟨kept.thrustActual.trans forgetful.thrustActual,
    kept.lastSpecificThrust.trans forgetful.lastSpecificThrust,
    kept.lastBodyRate.trans forgetful.lastBodyRate⟩

theorem referenceThrust_finite (limits : backend.config.Limits) (reference : Se3Reference) :
    (backend.referenceThrust reference).isFinite = true := by
  unfold referenceThrust
  dsimp only
  split
  · exact limits.gravity.1
  next positive =>
    simp only [Bool.or_eq_true, Bool.not_eq_true', not_or, Bool.not_eq_false] at positive
    exact positive.1

/-- A memory that has been set is kept, but for an estimate that overflowed. -/
theorem Remembering.ensureMemory (remembering : backend.Remembering)
    (limits : backend.config.Limits) (reference : Se3Reference) :
    (backend.ensureMemory reference).memory = backend.keptMemory reference ∧
      (backend.ensureMemory reference).Remembering ∧
      (backend.ensureMemory reference).thrustActualEstimate.isFinite = true := by
  obtain ⟨initialized, specific, rate⟩ := remembering
  have rest (estimated : UavNmpcTrackingBackend)
      (sameSpecific : estimated.lastCommandedSpecificThrustInitialized = true ∧
        estimated.lastCommandedSpecificThrust.isFinite = true)
      (sameRate : estimated.lastCommandedBodyRateInitialized = true ∧
        estimated.lastCommandedBodyRate.allFinite = true) :
      (estimated.ensureLastCommandedSpecificThrust reference).ensureLastCommandedBodyRate
        reference = estimated := by
    unfold ensureLastCommandedSpecificThrust
    rw [if_pos (by simp [sameSpecific])]
    unfold ensureLastCommandedBodyRate
    rw [if_pos (by simp [sameRate])]
  unfold UavNmpcTrackingBackend.ensureMemory ensureThrustActualEstimate keptMemory
  rw [initialized, Bool.true_and]
  split
  next finite =>
    rw [rest backend specific rate]
    exact ⟨rfl, ⟨initialized, specific, rate⟩, finite⟩
  next overflowed =>
    rw [rest { backend with
      thrustActualEstimate := backend.referenceThrust reference
      thrustActualInitialized := true } specific rate]
    exact ⟨rfl, ⟨rfl, specific, rate⟩, referenceThrust_finite limits reference⟩

/-- The first memory of a session comes from the reference. -/
theorem Forgetful.ensureMemory (forgetful : backend.Forgetful) (limits : backend.config.Limits)
    (reference : Se3Reference) :
    (backend.ensureMemory reference).memory = backend.firstMemory reference ∧
      (backend.ensureMemory reference).Remembering ∧
      (backend.ensureMemory reference).thrustActualEstimate.isFinite = true := by
  have thrust := referenceThrust_finite limits reference
  unfold UavNmpcTrackingBackend.ensureMemory ensureThrustActualEstimate
  rw [if_neg (by simp [forgetful.thrustActual])]
  unfold ensureLastCommandedSpecificThrust
  rw [if_neg (by simp [forgetful.lastSpecificThrust])]
  unfold ensureLastCommandedBodyRate
  rw [if_neg (by simp [forgetful.lastBodyRate])]
  exact ⟨rfl, ⟨rfl, ⟨rfl, thrust⟩, ⟨rfl, bodyRateCommand_finite limits _⟩⟩, thrust⟩

/-- A command of numbers is remembered. -/
theorem Remembering.command [LibmExp] (remembering : backend.Remembering)
    (limits : backend.config.Limits) {u : Se3ControlVector}
    (finite : u.thrust.isFinite = true) : (backend.command u).1.Remembering := by
  have rate := bodyRateCommand_finite limits u.axes
  unfold UavNmpcTrackingBackend.command
  dsimp only
  unfold updateLastCommandedSpecificThrust
  rw [if_neg (by simp [finite])]
  unfold updateLastCommandedBodyRate
  rw [if_neg (by simp [rate])]
  unfold updateThrustActualEstimate
  rw [if_neg (by simp [finite])]
  split
  · exact ⟨rfl, ⟨rfl, finite⟩, ⟨rfl, rate⟩⟩
  · exact ⟨remembering.thrustActual, ⟨rfl, finite⟩, ⟨rfl, rate⟩⟩

theorem finish_keepsMemory (now : Time) (target : Option AttitudeRateTarget) :
    KeepsMemory backend (backend.finish now target).1 := by
  unfold finish
  cases backend.logs now with
  | error error => exact .refl _
  | ok logs => cases logs <;> exact ⟨rfl, rfl, rfl, rfl⟩

end Memory

section Admission

variable [Acados] {backend : UavNmpcTrackingBackend}

/-- Locking the bounds leaves the warm start and the memories alone, and a session that is
locked afterwards knows what the lock has checked. -/
theorem lockInputBounds_keeps (hoverThrust : Double) :
    UavNmpcSolver.KeepsWarmStart backend.solver (backend.lockInputBounds hoverThrust).1.solver ∧
      KeepsMemory backend (backend.lockInputBounds hoverThrust).1 ∧
      (backend.lockInputBounds hoverThrust).1.config = backend.config ∧
      (backend.lockInputBounds hoverThrust).1.entered = backend.entered ∧
      ((backend.lockInputBounds hoverThrust).2 = false →
        (backend.lockInputBounds hoverThrust).1.inputBoundsLocked = false) := by
  unfold lockInputBounds
  split
  · exact ⟨.refl _, .refl _, rfl, rfl, fun refused => by cases refused⟩
  next unlocked =>
    rw [Bool.not_eq_true] at unlocked
    cases backend.specificThrustBounds hoverThrust with
    | none => exact ⟨.refl _, .refl _, rfl, rfl, fun _ => unlocked⟩
    | some interval =>
        have kept := UavNmpcSolver.configureInputBounds_keeps backend.solver
          interval.1 interval.2 backend.config.nmpc.maxRollPitchBodyRate
          backend.config.nmpc.maxYawBodyRate
          backend.config.nmpc.maxRollPitchAngularAcceleration
          backend.config.nmpc.maxYawAngularAcceleration
        dsimp only
        split
        · exact ⟨kept, ⟨rfl, rfl, rfl, rfl⟩, rfl, rfl, fun _ => unlocked⟩
        · exact ⟨kept, ⟨rfl, rfl, rfl, rfl⟩, rfl, rfl, fun refused => by cases refused⟩

omit [Acados] in
/-- The hover thrust that the backend accepts is one that it can map. -/
theorem usable_of_ready {sensor : SensorData} {now : Time}
    (ready : backend.hoverThrustReady sensor now = true) :
    backend.config.UsableHoverThrust sensor.hoverThrustEstimate := by
  simp only [hoverThrustReady, Bool.and_eq_true, Bool.not_eq_true', decide_eq_false_iff_not]
    at ready
  exact ⟨ready.1.1.1.1.1.1.2, ready.1.1.1.1.1.2, ready.1.1.1.1.2⟩

variable [Libm] [Se3Packing]

/-- Admitting a request leaves the warm start and the memories alone. An admitted one has a
measured state of numbers, and its session is locked. -/
theorem accepts_cases (known : backend.inputBoundsLocked = true → backend.Locked)
    (sensor : SensorData) (references : List Se3Reference) (now : Time) :
    UavNmpcSolver.KeepsWarmStart backend.solver
        (backend.accepts sensor references now).1.solver ∧
      KeepsMemory backend (backend.accepts sensor references now).1 ∧
      (backend.accepts sensor references now).1.config = backend.config ∧
      (backend.accepts sensor references now).1.entered = backend.entered ∧
      ((backend.accepts sensor references now).1.inputBoundsLocked = true →
        (backend.accepts sensor references now).1.Locked) ∧
      ∀ x0, (backend.accepts sensor references now).2 = some x0 →
        x0.allFinite = true ∧
          (backend.accepts sensor references now).1.inputBoundsLocked = true := by
  have unchanged : UavNmpcSolver.KeepsWarmStart backend.solver backend.solver ∧
      KeepsMemory backend backend ∧ backend.config = backend.config ∧
      backend.entered = backend.entered ∧
      (backend.inputBoundsLocked = true → backend.Locked) ∧
      ∀ x0 : Se3StateVector, none = some x0 → x0.allFinite = true ∧
        backend.inputBoundsLocked = true :=
    ⟨.refl _, .refl _, rfl, rfl, known, fun x0 nothing => by cases nothing⟩
  unfold accepts
  split
  · exact unchanged
  cases measured : feedbackState sensor with
  | none => exact unchanged
  | some x0 =>
      have finite : x0.allFinite = true := by
        unfold feedbackState at measured
        split at measured
        · cases measured
        · dsimp only at measured
          split at measured
          next finite =>
            cases measured
            exact finite
          · cases measured
      dsimp only
      split
      · exact unchanged
      next ready =>
        have usable := usable_of_ready (by simpa using ready)
        obtain ⟨warm, memory, config, entered, refused⟩ :=
          backend.lockInputBounds_keeps sensor.hoverThrustEstimate
        dsimp only
        cases taken : (backend.lockInputBounds sensor.hoverThrustEstimate).2 with
        | false =>
            have unlocked := refused taken
            refine ⟨warm, memory, config, entered, fun locked => ?_, fun x0 nothing => ?_⟩
            · exact absurd (unlocked.symm.trans locked) (by decide)
            · cases nothing
        | true =>
            obtain ⟨locked, knows⟩ := lockInputBounds_locked known usable taken
            refine ⟨warm, memory, config, entered, fun _ => knows, fun admitted same => ?_⟩
            cases same
            exact ⟨finite, locked⟩

end Admission

section Compute

variable [Libm] [Eigen] [LibmExp] [Acados] [Se3Packing] (backend : UavNmpcTrackingBackend)

/-- The backend when it asks, the measured state and the references of an admitted request. -/
def asked (sensor : SensorData) (references : List Se3Reference) (now : Time) :
    Option (UavNmpcTrackingBackend × Se3StateVector × List Se3Reference) :=
  match backend.accepts sensor references now with
  | (_, none) => none
  | (backend, some x0) =>
      let (backend, references) := backend.question x0 references
      some (backend, x0, references)

/-- The capsule that the library is given for a question, unless it cannot be loaded. -/
def submitted (x0 : Se3StateVector) (references : List Se3Reference) : Option Capsule :=
  let (solver, loaded) := backend.solver.load x0 backend.thrustActualEstimate
    backend.lastCommandedSpecificThrust backend.lastCommandedBodyRate references
  if loaded then solver.capsule else none

omit [LibmExp] in
theorem asked_eq (sensor : SensorData) (references : List Se3Reference) (now : Time) :
    backend.asked sensor references now =
      (backend.accepts sensor references now).2.map fun x0 =>
        (((backend.accepts sensor references now).1.question x0 references).1, x0,
          ((backend.accepts sensor references now).1.question x0 references).2) := by
  unfold asked
  obtain ⟨after, _ | x0⟩ := backend.accepts sensor references now <;> rfl

theorem compute_eq (sensor : SensorData) (references : List Se3Reference) (now : Time) :
    backend.compute sensor references now =
      ((backend.asked sensor references now).map fun question =>
        question.1.ask question.2.1 question.2.2 now).getD
          ((backend.accepts sensor references now).1, .ok none) := by
  unfold compute asked
  obtain ⟨after, _ | x0⟩ := backend.accepts sensor references now <;> rfl

omit [Libm] [Eigen] [LibmExp] [Acados] [Se3Packing] in
/-- The log after a solve keeps the solver, and never brings a target about. -/
theorem finish_spec (now : Time) (target : Option AttitudeRateTarget) :
    (backend.finish now target).1.solver = backend.solver ∧
      ∀ answer, (backend.finish now target).2 = .ok answer → answer = target := by
  unfold finish
  cases backend.logs now with
  | error error => exact ⟨rfl, fun answer thrown => by cases thrown⟩
  | ok logs =>
      cases logs <;> exact ⟨rfl, fun answer returned => (Except.ok.inj returned).symm⟩

variable {backend} {x0 : Se3StateVector} {references : List Se3Reference}

omit [Libm] [Eigen] in
/-- A question that cannot be loaded ends without a target, and leaves everything alone but
what the solver was given. -/
theorem ask_unsubmitted (ready : backend.solver.Ready) (now : Time)
    (nothing : backend.submitted x0 references = none) :
    ∃ solver, UavNmpcSolver.KeepsWarmStart backend.solver solver ∧
      solver.bounds = backend.solver.bounds ∧
      backend.ask x0 references now =
        ({ backend with solver } : UavNmpcTrackingBackend).finish now none := by
  rcases UavNmpcSolver.load_cases ready x0 backend.thrustActualEstimate
      backend.lastCommandedSpecificThrust backend.lastCommandedBodyRate references with
    ⟨refused, kept, bounds⟩ | ⟨loaded, -, capsule, -, -, after⟩
  · refine ⟨_, kept, bounds, ?_⟩
    unfold ask UavNmpcSolver.solve
    dsimp only
    rw [refused]
    rfl
  · unfold submitted at nothing
    dsimp only at nothing
    rw [loaded, after] at nothing
    cases nothing

omit [Libm] [Eigen] in
/-- A question that is submitted gives the library its guesses, and is answered by what the
library makes of them. -/
theorem ask_submitted (ready : backend.solver.Ready) (now : Time) {capsule : Capsule}
    (given : backend.submitted x0 references = some capsule) :
    backend.thrustActualEstimate.isFinite = true ∧
      (capsule.x, capsule.u) = backend.solver.guesses
        (UavNmpcSolver.packInternalState x0 backend.thrustActualEstimate) references ∧
      ∃ solver : UavNmpcSolver, solver.initialized = true ∧
        solver.bounds = backend.solver.bounds ∧
        solver.haveWarmStart = backend.solver.haveWarmStart ∧
        solver.xGuess = capsule.x ∧ solver.uGuess = capsule.u ∧
        backend.ask x0 references now =
          let answered : UavNmpcTrackingBackend :=
            { backend with solver := (solver.runSolver capsule).1 }
          if (solver.runSolver capsule).2 then
            let command := answered.command (solver.runSolver capsule).1.optimalControl
            command.1.finish now (some command.2)
          else answered.finish now none := by
  rcases UavNmpcSolver.load_cases ready x0 backend.thrustActualEstimate
      backend.lastCommandedSpecificThrust backend.lastCommandedBodyRate references with
    ⟨refused, -⟩ | ⟨loaded, thrust, held, x, u, after⟩
  · unfold submitted at given
    dsimp only at given
    rw [refused] at given
    cases given
  · unfold submitted at given
    dsimp only at given
    rw [loaded, after] at given
    cases Option.some.inj given
    refine ⟨thrust, Prod.ext x u, (backend.solver.load x0 backend.thrustActualEstimate
      backend.lastCommandedSpecificThrust backend.lastCommandedBodyRate references).1, ?_⟩
    rw [after]
    refine ⟨ready.initialized, rfl, rfl, x.symm, u.symm, ?_⟩
    unfold ask UavNmpcSolver.solve
    dsimp only
    rw [loaded, after]

end Compute

end UavNmpcTrackingBackend

section Targets

variable [LibmExp] [Acados] [Se3Packing]

omit [LibmExp] in
/-- Whatever the library does, a solve writes no bounds, and a success leaves an input of
numbers. -/
theorem UavNmpcSolver.solve_spec (solver : UavNmpcSolver) (x0 : Se3StateVector)
    (thrustActual lastThrust : Double) (lastRate : Vec3) (references : List Se3Reference) :
    (solver.solve x0 thrustActual lastThrust lastRate references).1.bounds = solver.bounds ∧
      ((solver.solve x0 thrustActual lastThrust lastRate references).2 = true →
        (solver.solve x0 thrustActual lastThrust lastRate references).1.optimalControl.allFinite =
          true) := by
  have set (solver : UavNmpcSolver) : solver.initializeSolver.1.bounds = solver.bounds := by
    unfold initializeSolver
    split
    · rfl
    split
    · rfl
    dsimp only [applyRuntimeBounds]
    split <;> rfl
  have guessed (solver : UavNmpcSolver) (x0 : UavNmpcStateVector) :
      (solver.setGuesses x0 references).bounds = solver.bounds := by
    unfold setGuesses
    dsimp only
    split <;> rfl
  have loaded : (solver.load x0 thrustActual lastThrust lastRate references).1.bounds =
      solver.bounds := by
    unfold load
    dsimp only
    repeat' split
    · exact set solver
    · exact set solver
    · exact set solver
    · exact set solver
    · exact (guessed _ _).trans (set solver)
  unfold solve
  generalize solver.load x0 thrustActual lastThrust lastRate references = loading at loaded ⊢
  obtain ⟨filled, _ | _⟩ := loading
  · exact ⟨loaded, fun failed => by cases failed⟩
  cases given : filled.capsule with
  | none =>
      dsimp only
      rw [given]
      exact ⟨loaded, fun failed => by cases failed⟩
  | some capsule =>
      dsimp only
      rw [given]
      refine ⟨(filled.runSolver_keeps capsule).2.2.trans loaded, fun success => ?_⟩
      rcases filled.runSolver_cases capsule with ⟨usable, -, control, -, -⟩ | ⟨-, failed, -⟩
      · rw [control]
        exact Candidate.usable_head usable
      · exact absurd (failed.symm.trans success) (by decide)

namespace UavNmpcTrackingBackend

/-- What a step of a session keeps known, and the targets that it may return. -/
structure Commands (before after : UavNmpcTrackingBackend)
    (result : Except RuntimeError (Option AttitudeRateTarget)) : Prop where
  config : after.config = before.config
  known : after.inputBoundsLocked = true → after.Locked
  target : ∀ target, result = .ok (some target) → target.Within before.config

variable {backend : UavNmpcTrackingBackend}

/-- The answer to a question of a locked session is within the limits, whatever the library
answers to it. -/
theorem ask_commands (locked : backend.Locked) (x0 : Se3StateVector)
    (references : List Se3Reference) (now : Time) :
    Commands backend (backend.ask x0 references now).1 (backend.ask x0 references now).2 := by
  have spec := backend.solver.solve_spec x0 backend.thrustActualEstimate
    backend.lastCommandedSpecificThrust backend.lastCommandedBodyRate references
  unfold ask
  generalize backend.solver.solve x0 backend.thrustActualEstimate
    backend.lastCommandedSpecificThrust backend.lastCommandedBodyRate references = solved at spec ⊢
  obtain ⟨solver, success⟩ := solved
  have kept : KeepsLock backend { backend with solver } := ⟨rfl, rfl, rfl, rfl, spec.1⟩
  have knows : ({ backend with solver } : UavNmpcTrackingBackend).Locked :=
    ⟨locked.limits, locked.apart, locked.divisor, locked.usable, spec.1.symm ▸ locked.lower,
      spec.1.symm ▸ locked.upper⟩
  cases success with
  | true =>
      have finite := spec.2 rfl
      have commanded := ({ backend with solver } : UavNmpcTrackingBackend).command_keepsLock
        solver.optimalControl
      have finished := finish_keepsLock (({ backend with solver } :
        UavNmpcTrackingBackend).command solver.optimalControl).1 now
        (some (({ backend with solver } : UavNmpcTrackingBackend).command solver.optimalControl).2)
      have all := commanded.trans finished
      refine ⟨all.config, all.known fun _ => knows, fun target returned => ?_⟩
      cases (finish_spec _ now _).2 _ returned
      exact command_within knows (Bool.and_eq_true_iff.mp finite).1
  | false =>
      have finished := ({ backend with solver } : UavNmpcTrackingBackend).finish_keepsLock now none
      refine ⟨finished.config, finished.known fun _ => knows, fun target returned => ?_⟩
      have nothing := (finish_spec _ now _).2 _ returned
      cases nothing

variable [Libm] [Eigen]

/-- The target of a computation is within the limits, whatever the library does in it. -/
theorem compute_commands (known : backend.inputBoundsLocked = true → backend.Locked)
    (sensor : SensorData) (references : List Se3Reference) (now : Time) :
    Commands backend (backend.compute sensor references now).1
      (backend.compute sensor references now).2 := by
  obtain ⟨-, -, config, -, knows, admitted⟩ := accepts_cases known sensor references now
  rw [compute_eq, asked_eq]
  cases measured : (backend.accepts sensor references now).2 with
  | none => exact ⟨config, knows, fun target nothing => by cases nothing⟩
  | some x0 =>
      obtain ⟨-, locked⟩ := admitted x0 measured
      have knows := knows locked
      generalize (backend.accepts sensor references now).1 = accepting at config knows locked ⊢
      have kept := accepting.ensureMemory_keepsLock
        ((accepting.trackingReferences x0 references).headD {})
      have asking : (accepting.question x0 references).1.Locked :=
        kept.known (fun _ => knows) (kept.locked.trans locked)
      have answer := ask_commands asking x0 (accepting.question x0 references).2 now
      have same : (accepting.question x0 references).1.config = backend.config :=
        kept.config.trans config
      refine ⟨answer.config.trans same, answer.known, fun target returned => ?_⟩
      have within := answer.target target returned
      rw [same] at within
      exact within

end UavNmpcTrackingBackend

end Targets

end MultirotorController
