import MultirotorController.Uav.NmpcTrackingBackend

/-!
# Solver sessions

Two solvers that have entered a session serve it alike if they agree on its
weights, its warm start and, once the bounds are locked, on the bounds. Everything
else that they hold is overwritten before it is used, but for the last status.
-/

namespace MultirotorController

open Control

namespace UavNmpcSolver

variable [Libm] [Acados]

/-- The bounds that a solver is constructed with. -/
def constructedBounds : RuntimeBounds := ({} : UavNmpcSolver).bounds

/-- Whether a solver can be set up at all. -/
def available : Bool := Acados.create && Acados.setBounds constructedBounds

/-- A solver between two calls, entered or not. -/
structure Sound (solver : UavNmpcSolver) : Prop where
  capsule : solver.initialized = true → solver.capsule.isSome = true
  available : solver.initialized = true → UavNmpcSolver.available = true
  untouched : solver.initialized = false → solver.bounds = constructedBounds
  tiltLower : solver.bounds.pathLower.thrust = constructedBounds.pathLower.thrust
  tiltUpper : solver.bounds.pathUpper.thrust = constructedBounds.pathUpper.thrust

/-- Two solvers serve the same session. -/
structure Alike (locked : Bool) (first second : UavNmpcSolver) : Prop where
  firstSound : first.Sound
  secondSound : second.Sound
  firstInitialized : first.initialized = true
  secondInitialized : second.initialized = true
  weights : first.angularAccelerationSqrtWeights = second.angularAccelerationSqrtWeights
  warm : first.haveWarmStart = second.haveWarmStart
  guesses : first.haveWarmStart = true →
    first.xGuess = second.xGuess ∧ first.uGuess = second.uGuess
  bounds : locked = true → first.bounds = second.bounds ∧
    first.capsule.map (·.bounds) = second.capsule.map (·.bounds)

omit [Libm] in
theorem sound_constructed : Sound {} := by
  refine ⟨?_, ?_, fun _ => rfl, rfl, rfl⟩ <;> intro initialized <;> cases initialized

omit [Libm] in
theorem Sound.resetWarmStart {solver : UavNmpcSolver} (sound : solver.Sound) :
    solver.resetWarmStart.Sound :=
  ⟨sound.capsule, sound.available, sound.untouched, sound.tiltLower, sound.tiltUpper⟩

omit [Libm] in
theorem Alike.resetWarmStart {locked : Bool} {first second : UavNmpcSolver}
    (alike : Alike locked first second) : Alike locked first.resetWarmStart second.resetWarmStart :=
  ⟨alike.firstSound.resetWarmStart, alike.secondSound.resetWarmStart, alike.firstInitialized,
    alike.secondInitialized, alike.weights, rfl, (fun warm => by cases warm), alike.bounds⟩

omit [Libm] in
/-- Setting a solver up succeeds or fails whatever happened to it before. -/
theorem initializeSolver_spec {solver : UavNmpcSolver} (sound : solver.Sound) :
    solver.initializeSolver.2 = available ∧ solver.initializeSolver.1.Sound ∧
      solver.initializeSolver.1.initialized = available ∧
      solver.initializeSolver.1.solverStatus = solver.solverStatus ∧
      solver.initializeSolver.1.angularAccelerationSqrtWeights =
        solver.angularAccelerationSqrtWeights := by
  cases before : solver.initialized with
  | true =>
      have isAvailable := sound.available before
      unfold initializeSolver
      rw [if_pos before, isAvailable]
      exact ⟨rfl, sound, before, rfl, rfl⟩
  | false =>
      have untouched := sound.untouched before
      unfold initializeSolver
      rw [if_neg (by simp [before])]
      cases creates : Acados.create with
      | false =>
          have missing : available = false := by simp [available, creates]
          rw [missing]
          exact ⟨rfl, ⟨(fun on => by cases on), (fun on => by cases on), fun _ => untouched,
            sound.tiltLower, sound.tiltUpper⟩, rfl, rfl, rfl⟩
      | true =>
          rw [if_neg (by simp)]
          dsimp only [applyRuntimeBounds]
          rw [untouched]
          cases takes : Acados.setBounds constructedBounds with
          | false =>
              have missing : available = false := by simp [available, creates, takes]
              rw [missing]
              exact ⟨rfl,
                ⟨(fun on => by cases on), (fun on => by cases on), fun _ => rfl, rfl, rfl⟩,
                rfl, rfl, rfl⟩
          | true =>
              have present : available = true := by simp [available, creates, takes]
              rw [present]
              exact ⟨rfl, ⟨fun _ => rfl, fun _ => present, (fun off => by cases off), rfl, rfl⟩,
                rfl, rfl, rfl⟩

omit [Acados] in
/-- Weights are taken or refused whatever the solver holds. -/
theorem configureWeights_eq (first second : UavNmpcSolver) (weights : Vec3) :
    (first.configureAngularAccelerationWeights weights).2 =
        (second.configureAngularAccelerationWeights weights).2 ∧
      ((first.configureAngularAccelerationWeights weights).2 = true →
        (first.configureAngularAccelerationWeights weights).1.angularAccelerationSqrtWeights =
          (second.configureAngularAccelerationWeights
            weights).1.angularAccelerationSqrtWeights) := by
  unfold configureAngularAccelerationWeights
  split
  · exact ⟨rfl, fun taken => by cases taken⟩
  · exact ⟨rfl, fun _ => rfl⟩

theorem Sound.configureWeights {solver : UavNmpcSolver} (sound : solver.Sound) (weights : Vec3) :
    (solver.configureAngularAccelerationWeights weights).1.Sound ∧
      (solver.configureAngularAccelerationWeights weights).1.solverStatus =
        solver.solverStatus := by
  unfold configureAngularAccelerationWeights
  split
  · exact ⟨sound, rfl⟩
  · exact ⟨⟨sound.capsule, sound.available, sound.untouched, sound.tiltLower, sound.tiltUpper⟩,
      rfl⟩

omit [Libm] in
/-- Bounds for a session are taken or refused alike, and are the same afterwards. -/
theorem Alike.configureInputBounds {first second : UavNmpcSolver} (alike : Alike false first second)
    (least greatest rollPitchRate yawRate rollPitchAcceleration yawAcceleration : Double) :
    (first.configureInputBounds least greatest rollPitchRate yawRate rollPitchAcceleration
        yawAcceleration).2 =
        (second.configureInputBounds least greatest rollPitchRate yawRate rollPitchAcceleration
          yawAcceleration).2 ∧
      Alike (first.configureInputBounds least greatest rollPitchRate yawRate rollPitchAcceleration
          yawAcceleration).2
        (first.configureInputBounds least greatest rollPitchRate yawRate rollPitchAcceleration
          yawAcceleration).1
        (second.configureInputBounds least greatest rollPitchRate yawRate rollPitchAcceleration
          yawAcceleration).1 ∧
      (first.configureInputBounds least greatest rollPitchRate yawRate rollPitchAcceleration
          yawAcceleration).1.solverStatus = first.solverStatus ∧
      (second.configureInputBounds least greatest rollPitchRate yawRate rollPitchAcceleration
          yawAcceleration).1.solverStatus = second.solverStatus := by
  obtain ⟨capsule, held⟩ := Option.isSome_iff_exists.mp
    (alike.firstSound.capsule alike.firstInitialized)
  obtain ⟨capsule', held'⟩ := Option.isSome_iff_exists.mp
    (alike.secondSound.capsule alike.secondInitialized)
  unfold UavNmpcSolver.configureInputBounds
  split
  · exact ⟨rfl, alike, rfl, rfl⟩
  split
  · exact ⟨rfl, alike, rfl, rfl⟩
  split
  · exact ⟨rfl, alike, rfl, rfl⟩
  dsimp only [applyRuntimeBounds]
  simp only [held, held', Option.isSome_some, if_true]
  have tiltLower := alike.firstSound.tiltLower.trans alike.secondSound.tiltLower.symm
  have tiltUpper := alike.firstSound.tiltUpper.trans alike.secondSound.tiltUpper.symm
  rw [tiltLower, tiltUpper]
  refine ⟨rfl, ⟨?_, ?_, alike.firstInitialized, alike.secondInitialized, alike.weights,
    alike.warm, alike.guesses, fun _ => ⟨rfl, rfl⟩⟩, trivial, trivial⟩
  · exact ⟨fun _ => rfl, alike.firstSound.available,
      fun off => absurd (alike.firstInitialized.symm.trans off) (by decide),
      alike.secondSound.tiltLower, alike.secondSound.tiltUpper⟩
  · exact ⟨fun _ => rfl, alike.secondSound.available,
      fun off => absurd (alike.secondInitialized.symm.trans off) (by decide),
      alike.secondSound.tiltLower, alike.secondSound.tiltUpper⟩

omit [Libm] in
/-- What is set on both capsules alike keeps the solvers alike. -/
theorem Alike.withCapsule {locked : Bool} {first second : UavNmpcSolver}
    (alike : Alike locked first second) (change : Capsule → Capsule)
    (keeps : ∀ capsule, (change capsule).bounds = capsule.bounds) :
    Alike locked (first.withCapsule change) (second.withCapsule change) := by
  have kept (solver : UavNmpcSolver) :
      (solver.withCapsule change).capsule.map (·.bounds) = solver.capsule.map (·.bounds) := by
    simp [UavNmpcSolver.withCapsule, Function.comp_def, keeps]
  have sound {solver : UavNmpcSolver} (sound : solver.Sound) :
      (solver.withCapsule change).Sound := by
    refine ⟨fun on => ?_, sound.available, sound.untouched, sound.tiltLower, sound.tiltUpper⟩
    rw [UavNmpcSolver.withCapsule, Option.isSome_map]
    exact sound.capsule on
  refine ⟨sound alike.firstSound, sound alike.secondSound, alike.firstInitialized,
    alike.secondInitialized, alike.weights, alike.warm, alike.guesses, fun isLocked => ?_⟩
  rw [kept, kept]
  exact alike.bounds isLocked

omit [Libm] in
theorem Alike.withGuesses {locked : Bool} {first second : UavNmpcSolver}
    (alike : Alike locked first second) (xGuess : List UavNmpcStateVector)
    (uGuess : List Se3ControlVector) :
    Alike locked { first with xGuess, uGuess } { second with xGuess, uGuess } := by
  obtain ⟨firstSound, secondSound, firstOn, secondOn, weights, warm, -, bounds⟩ := alike
  refine ⟨?_, ?_, firstOn, secondOn, weights, warm, fun _ => ⟨rfl, rfl⟩, bounds⟩
  · exact ⟨firstSound.capsule, firstSound.available, firstSound.untouched, firstSound.tiltLower,
      firstSound.tiltUpper⟩
  · exact ⟨secondSound.capsule, secondSound.available, secondSound.untouched,
      secondSound.tiltLower, secondSound.tiltUpper⟩

variable [Se3Packing]

omit [Libm] in
/-- The guesses are the same, whether they come from a warm start or from the references. -/
theorem Alike.setGuesses {first second : UavNmpcSolver} (alike : Alike true first second)
    (x0 : UavNmpcStateVector) (references : List Se3Reference) :
    ∃ xGuess uGuess,
      first.setGuesses x0 references =
        ({ first with xGuess, uGuess } : UavNmpcSolver).withCapsule
          (fun capsule => { capsule with x := xGuess, u := uGuess }) ∧
      second.setGuesses x0 references =
        ({ second with xGuess, uGuess } : UavNmpcSolver).withCapsule
          (fun capsule => { capsule with x := xGuess, u := uGuess }) := by
  obtain ⟨bounds, -⟩ := alike.bounds rfl
  cases warm : first.haveWarmStart with
  | true =>
      have warm' : second.haveWarmStart = true := alike.warm.symm.trans warm
      obtain ⟨sameX, sameU⟩ := alike.guesses warm
      refine ⟨x0 :: first.xGuess.tail, first.uGuess, ?_, ?_⟩
      · simp only [UavNmpcSolver.setGuesses, warm, if_true]
      · simp only [UavNmpcSolver.setGuesses, warm', if_true, sameX, sameU]
  | false =>
      have warm' : second.haveWarmStart = false := alike.warm.symm.trans warm
      refine ⟨x0 :: ((references.take (horizonSteps + 1)).map packInternalReference).tail,
        (references.take horizonSteps).map fun reference =>
          first.clampInputGuess (packBodyRateInputReference reference), ?_, ?_⟩
      · simp only [UavNmpcSolver.setGuesses, warm, Bool.false_eq_true, if_false,
          UavNmpcSolver.clampInputGuess]
      · simp only [UavNmpcSolver.setGuesses, warm', Bool.false_eq_true, if_false,
          UavNmpcSolver.clampInputGuess, bounds]

omit [Libm] in
/-- Loading leaves the status, and gives both capsules the same problem. -/
theorem Alike.load {first second : UavNmpcSolver} (alike : Alike true first second)
    (x0 : Se3StateVector) (thrustActual lastThrust : Double) (lastRate : Vec3)
    (references : List Se3Reference) :
    (first.load x0 thrustActual lastThrust lastRate references).2 =
        (second.load x0 thrustActual lastThrust lastRate references).2 ∧
      Alike true (first.load x0 thrustActual lastThrust lastRate references).1
        (second.load x0 thrustActual lastThrust lastRate references).1 ∧
      (first.load x0 thrustActual lastThrust lastRate references).1.solverStatus =
        first.solverStatus ∧
      (second.load x0 thrustActual lastThrust lastRate references).1.solverStatus =
        second.solverStatus ∧
      ((first.load x0 thrustActual lastThrust lastRate references).2 = true →
        (first.load x0 thrustActual lastThrust lastRate references).1.capsule =
          (second.load x0 thrustActual lastThrust lastRate references).1.capsule) := by
  have set : first.initializeSolver = (first, true) := if_pos alike.firstInitialized
  have set' : second.initializeSolver = (second, true) := if_pos alike.secondInitialized
  unfold UavNmpcSolver.load
  rw [set, set']
  simp only [Bool.not_true, Bool.false_eq_true, if_false]
  split
  · exact ⟨rfl, alike, rfl, rfl, fun loaded => by cases loaded⟩
  split
  · exact ⟨rfl, alike, rfl, rfl, fun loaded => by cases loaded⟩
  have started := alike.withCapsule
    (fun capsule => { capsule with initialState := packInternalState x0 thrustActual })
    fun _ => rfl
  split
  · exact ⟨rfl, started, rfl, rfl, fun loaded => by cases loaded⟩
  have weights (change : Capsule → Capsule) :
      (first.withCapsule change).stageParameters lastThrust lastRate =
        second.stageParameters lastThrust lastRate := by
    funext reference
    simp only [stageParameters, UavNmpcSolver.withCapsule, alike.weights]
  have weights' (change : Capsule → Capsule) :
      (second.withCapsule change).stageParameters lastThrust lastRate =
        second.stageParameters lastThrust lastRate := rfl
  have parameterized := started.withCapsule (fun capsule => { capsule with
    parameters := (references.take (horizonSteps + 1)).map
      (second.stageParameters lastThrust lastRate) }) fun _ => rfl
  obtain ⟨xGuess, uGuess, loaded, loaded'⟩ :=
    parameterized.setGuesses (packInternalState x0 thrustActual) references
  have guessed := (parameterized.withGuesses xGuess uGuess).withCapsule
    (fun capsule => { capsule with x := xGuess, u := uGuess }) fun _ => rfl
  rw [weights, weights', loaded, loaded']
  refine ⟨rfl, guessed, rfl, rfl, fun _ => ?_⟩
  -- Every field of the problem but the bounds has just been set.
  have problem := congrArg (Option.map fun bounds => ({
    bounds
    initialState := packInternalState x0 thrustActual
    parameters := (references.take (horizonSteps + 1)).map
      (second.stageParameters lastThrust lastRate)
    x := xGuess
    u := uGuess } : Capsule)) (alike.bounds rfl).2
  simpa [UavNmpcSolver.withCapsule, Function.comp_def] using problem

omit [Libm] [Se3Packing] in
/-- A solve of the same problem ends alike, with the same status. -/
theorem Alike.runSolver {first second : UavNmpcSolver} (alike : Alike true first second)
    (capsule : Capsule) :
    (first.runSolver capsule).2 = (second.runSolver capsule).2 ∧
      Alike true (first.runSolver capsule).1 (second.runSolver capsule).1 ∧
      (first.runSolver capsule).1.solverStatus = (second.runSolver capsule).1.solverStatus ∧
      ((first.runSolver capsule).2 = true →
        (first.runSolver capsule).1.optimalControl =
          (second.runSolver capsule).1.optimalControl) := by
  obtain ⟨firstSound, secondSound, firstOn, secondOn, weights, warm, guesses, bounds⟩ := alike
  have sound {solver changed : UavNmpcSolver} (sound : solver.Sound)
      (on : changed.initialized = solver.initialized) (bounds : changed.bounds = solver.bounds)
      (held : changed.capsule.isSome = true) : changed.Sound := by
    refine ⟨fun _ => held, ?_, ?_, ?_, ?_⟩
    · rw [on]
      exact sound.available
    · rw [on, bounds]
      exact sound.untouched
    · rw [bounds]
      exact sound.tiltLower
    · rw [bounds]
      exact sound.tiltUpper
  unfold UavNmpcSolver.runSolver
  obtain ⟨status, x, u⟩ := Acados.solve capsule
  dsimp only
  split
  · refine ⟨rfl, ⟨sound firstSound rfl rfl rfl, sound secondSound rfl rfl rfl, firstOn, secondOn,
      weights, warm, guesses, fun isLocked => ⟨(bounds isLocked).1, rfl⟩⟩, rfl, ?_⟩
    intro solved
    cases solved
  split
  · refine ⟨rfl, Alike.resetWarmStart ⟨sound firstSound rfl rfl rfl, sound secondSound rfl rfl rfl,
      firstOn, secondOn, weights, warm, guesses,
      fun isLocked => ⟨(bounds isLocked).1, rfl⟩⟩, rfl, ?_⟩
    intro solved
    cases solved
  · exact ⟨rfl, ⟨sound firstSound rfl rfl rfl, sound secondSound rfl rfl rfl, firstOn, secondOn,
      weights, rfl, fun _ => ⟨rfl, rfl⟩, fun isLocked => ⟨(bounds isLocked).1, rfl⟩⟩, rfl,
      fun _ => rfl⟩

omit [Libm] in
/-- The two solvers give the same answer, and the same status if there was a solve. -/
theorem Alike.solve {first second : UavNmpcSolver} (alike : Alike true first second)
    (x0 : Se3StateVector) (thrustActual lastThrust : Double) (lastRate : Vec3)
    (references : List Se3Reference) :
    (first.solve x0 thrustActual lastThrust lastRate references).2 =
        (second.solve x0 thrustActual lastThrust lastRate references).2 ∧
      Alike true (first.solve x0 thrustActual lastThrust lastRate references).1
        (second.solve x0 thrustActual lastThrust lastRate references).1 ∧
      ((first.solve x0 thrustActual lastThrust lastRate references).2 = true →
        (first.solve x0 thrustActual lastThrust lastRate references).1.optimalControl =
          (second.solve x0 thrustActual lastThrust lastRate references).1.optimalControl) ∧
      if (first.load x0 thrustActual lastThrust lastRate references).2 then
        (first.solve x0 thrustActual lastThrust lastRate references).1.solverStatus =
          (second.solve x0 thrustActual lastThrust lastRate references).1.solverStatus
      else
        (first.solve x0 thrustActual lastThrust lastRate references).1.solverStatus =
            first.solverStatus ∧
          (second.solve x0 thrustActual lastThrust lastRate references).1.solverStatus =
            second.solverStatus := by
  obtain ⟨asks, loaded, firstStatus, secondStatus, problem⟩ :=
    alike.load x0 thrustActual lastThrust lastRate references
  unfold UavNmpcSolver.solve
  generalize first.load x0 thrustActual lastThrust lastRate references = before at *
  generalize second.load x0 thrustActual lastThrust lastRate references = before' at *
  obtain ⟨solver, asked⟩ := before
  obtain ⟨solver', asked'⟩ := before'
  dsimp only at *
  subst asks
  cases asked with
  | false => exact ⟨rfl, loaded, (fun solved => by cases solved), firstStatus, secondStatus⟩
  | true =>
      obtain ⟨capsule, held⟩ := Option.isSome_iff_exists.mp
        (loaded.firstSound.capsule loaded.firstInitialized)
      have held' : solver'.capsule = some capsule := (problem rfl).symm.trans held
      obtain ⟨same, after, status, control⟩ := loaded.runSolver capsule
      simp only [held, held', if_true]
      exact ⟨same, after, control, status⟩

end UavNmpcSolver

namespace UavNmpcTrackingBackend

def withSolver (backend : UavNmpcTrackingBackend) (solver : UavNmpcSolver) :
    UavNmpcTrackingBackend := { backend with solver }

/-- A step that reads and writes the backend's own memory, but neither the solver nor the marks of
the session. -/
structure Remembers (step : UavNmpcTrackingBackend → UavNmpcTrackingBackend) : Prop where
  withSolver : ∀ backend solver, step (backend.withSolver solver) = (step backend).withSolver solver
  entered : ∀ backend, (step backend).entered = backend.entered
  locked : ∀ backend, (step backend).inputBoundsLocked = backend.inputBoundsLocked

namespace Remembers

theorem solver {step : UavNmpcTrackingBackend → UavNmpcTrackingBackend} (remembers : Remembers step)
    (backend : UavNmpcTrackingBackend) : (step backend).solver = backend.solver := by
  have same : step backend = (step backend).withSolver backend.solver :=
    remembers.withSolver backend backend.solver
  have kept := congrArg UavNmpcTrackingBackend.solver same
  exact kept

theorem comp {step next : UavNmpcTrackingBackend → UavNmpcTrackingBackend}
    (second : Remembers next) (first : Remembers step) :
    Remembers fun backend => next (step backend) := by
  refine ⟨fun backend solver => ?_, fun backend => ?_, fun backend => ?_⟩
  · rw [first.withSolver, second.withSolver]
  · rw [second.entered, first.entered]
  · rw [second.locked, first.locked]

/-- A step that is one of two, as the memory decides. -/
theorem choice {test : UavNmpcTrackingBackend → Bool}
    {yes no : UavNmpcTrackingBackend → UavNmpcTrackingBackend}
    (blind : ∀ backend solver, test (backend.withSolver solver) = test backend)
    (first : Remembers yes) (second : Remembers no) :
    Remembers fun backend => if test backend then yes backend else no backend := by
  refine ⟨fun backend solver => ?_, fun backend => ?_, fun backend => ?_⟩
  · rw [blind]
    split
    · exact first.withSolver backend solver
    · exact second.withSolver backend solver
  · split
    · exact first.entered backend
    · exact second.entered backend
  · split
    · exact first.locked backend
    · exact second.locked backend

theorem same : Remembers id := ⟨fun _ _ => rfl, fun _ => rfl, fun _ => rfl⟩

theorem ensureThrustActualEstimate (reference : Se3Reference) :
    Remembers (·.ensureThrustActualEstimate reference) :=
  choice (fun _ _ => rfl) same ⟨fun _ _ => rfl, fun _ => rfl, fun _ => rfl⟩

theorem ensureLastCommandedSpecificThrust (reference : Se3Reference) :
    Remembers (·.ensureLastCommandedSpecificThrust reference) :=
  choice (fun _ _ => rfl) same ⟨fun _ _ => rfl, fun _ => rfl, fun _ => rfl⟩

theorem ensureLastCommandedBodyRate (reference : Se3Reference) :
    Remembers (·.ensureLastCommandedBodyRate reference) :=
  choice (fun _ _ => rfl) same ⟨fun _ _ => rfl, fun _ => rfl, fun _ => rfl⟩

theorem updateLastCommandedSpecificThrust (commanded : Double) :
    Remembers (·.updateLastCommandedSpecificThrust commanded) :=
  choice (fun _ _ => rfl) same ⟨fun _ _ => rfl, fun _ => rfl, fun _ => rfl⟩

theorem updateLastCommandedBodyRate (bodyRate : Vec3) :
    Remembers (·.updateLastCommandedBodyRate bodyRate) :=
  choice (fun _ _ => rfl) same ⟨fun _ _ => rfl, fun _ => rfl, fun _ => rfl⟩

theorem updateThrustActualEstimate [LibmExp] (commanded : Double) :
    Remembers (·.updateThrustActualEstimate commanded) :=
  choice (fun _ _ => rfl) same (choice (fun _ _ => rfl)
    ⟨fun _ _ => rfl, fun _ => rfl, fun _ => rfl⟩ ⟨fun _ _ => rfl, fun _ => rfl, fun _ => rfl⟩)

theorem ensureMemory (reference : Se3Reference) : Remembers (·.ensureMemory reference) :=
  (ensureLastCommandedBodyRate reference).comp
    ((ensureLastCommandedSpecificThrust reference).comp (ensureThrustActualEstimate reference))

theorem configure (config : ControllerConfig) : Remembers (·.configure config) :=
  ⟨fun _ _ => rfl, fun _ => rfl, fun _ => rfl⟩

end Remembers

section Session

variable [Acados]

/-- Two backends serve the same session: they differ in their solvers only, and these are alike. -/
structure SameSession (first second : UavNmpcTrackingBackend) : Prop where
  memory : second = first.withSolver second.solver
  entered : first.entered = true
  solvers : UavNmpcSolver.Alike first.inputBoundsLocked first.solver second.solver

/-- A pair of steps of one session without a solve: both statuses are still the old ones. -/
structure Unasked (first second after after' : UavNmpcTrackingBackend) : Prop where
  session : SameSession after after'
  firstStatus : after.solver.solverStatus = first.solver.solverStatus
  secondStatus : after'.solver.solverStatus = second.solver.solverStatus

variable {first second : UavNmpcTrackingBackend}

theorem SameSession.unasked (same : SameSession first second) :
    Unasked first second first second := ⟨same, rfl, rfl⟩

theorem SameSession.remembers {step : UavNmpcTrackingBackend → UavNmpcTrackingBackend}
    (same : SameSession first second) (remembers : Remembers step) :
    Unasked first second (step first) (step second) := by
  refine ⟨⟨?_, ?_, ?_⟩, ?_, ?_⟩
  · rw [remembers.solver second, ← remembers.withSolver first, ← same.memory]
  · rw [remembers.entered first]
    exact same.entered
  · rw [remembers.solver first, remembers.solver second, remembers.locked first]
    exact same.solvers
  · rw [remembers.solver first]
  · rw [remembers.solver second]

/-- The bounds of a session are locked alike. -/
theorem SameSession.lockInputBounds (same : SameSession first second) (hoverThrust : Double) :
    (first.lockInputBounds hoverThrust).2 = (second.lockInputBounds hoverThrust).2 ∧
      Unasked first second (first.lockInputBounds hoverThrust).1
        (second.lockInputBounds hoverThrust).1 ∧
      ((first.lockInputBounds hoverThrust).2 = true →
        (first.lockInputBounds hoverThrust).1.inputBoundsLocked = true) := by
  obtain ⟨memory, entered, solvers⟩ := same
  generalize second.solver = solver at memory solvers
  subst memory
  cases locked : first.inputBoundsLocked with
  | true =>
      have kept (backend : UavNmpcTrackingBackend) (isLocked : backend.inputBoundsLocked = true) :
          backend.lockInputBounds hoverThrust = (backend, true) := if_pos isLocked
      rw [kept first locked, kept (first.withSolver solver) locked]
      exact ⟨rfl, ⟨⟨rfl, entered, solvers⟩, rfl, rfl⟩, fun _ => locked⟩
  | false =>
      have unchanged : Unasked first (first.withSolver solver) first (first.withSolver solver) :=
        SameSession.unasked ⟨rfl, entered, solvers⟩
      have unlocked : (first.withSolver solver).inputBoundsLocked = false := locked
      rw [locked] at solvers
      have bounds : (first.withSolver solver).specificThrustBounds hoverThrust =
          first.specificThrustBounds hoverThrust := rfl
      unfold UavNmpcTrackingBackend.lockInputBounds
      rw [locked, unlocked, bounds]
      simp only [Bool.false_eq_true, if_false]
      cases first.specificThrustBounds hoverThrust with
      | none => exact ⟨rfl, unchanged, fun isLocked => by cases isLocked⟩
      | some interval =>
          obtain ⟨sameAnswer, alike, firstStatus, secondStatus⟩ :=
            solvers.configureInputBounds interval.1 interval.2
              first.config.nmpc.maxRollPitchBodyRate first.config.nmpc.maxYawBodyRate
              first.config.nmpc.maxRollPitchAngularAcceleration
              first.config.nmpc.maxYawAngularAcceleration
          simp only [withSolver]
          cases configured : (first.solver.configureInputBounds interval.1 interval.2
              first.config.nmpc.maxRollPitchBodyRate first.config.nmpc.maxYawBodyRate
              first.config.nmpc.maxRollPitchAngularAcceleration
              first.config.nmpc.maxYawAngularAcceleration).2 with
          | false =>
              rw [configured] at alike sameAnswer
              simp only [← sameAnswer, Bool.not_false, if_true]
              exact ⟨trivial, ⟨⟨rfl, entered, locked ▸ alike⟩, firstStatus, secondStatus⟩,
                fun isLocked => by cases isLocked⟩
          | true =>
              rw [configured] at alike sameAnswer
              simp only [← sameAnswer, Bool.not_true, Bool.false_eq_true, if_false]
              exact ⟨trivial, ⟨⟨rfl, entered, alike⟩, firstStatus, secondStatus⟩, fun _ => trivial⟩

variable [Libm] [Se3Packing]

/-- A request is admitted by both or by neither; the bounds are locked then. -/
theorem SameSession.accepts (same : SameSession first second) (sensor : SensorData)
    (references : List Se3Reference) (now : Time) :
    (first.accepts sensor references now).2 = (second.accepts sensor references now).2 ∧
      Unasked first second (first.accepts sensor references now).1
        (second.accepts sensor references now).1 ∧
      ((first.accepts sensor references now).2.isSome = true →
        (first.accepts sensor references now).1.inputBoundsLocked = true) := by
  have entered : second.entered = first.entered := by
    rw [same.memory]
    rfl
  have ready : second.hoverThrustReady sensor now = first.hoverThrustReady sensor now := by
    rw [same.memory]
    rfl
  obtain ⟨sameAnswer, unasked, locked⟩ := same.lockInputBounds sensor.hoverThrustEstimate
  unfold UavNmpcTrackingBackend.accepts
  rw [entered, ready]
  split
  · exact ⟨rfl, same.unasked, fun admitted => by cases admitted⟩
  cases feedbackState sensor with
  | none => exact ⟨rfl, same.unasked, fun admitted => by cases admitted⟩
  | some x0 =>
      dsimp only
      split
      · exact ⟨rfl, same.unasked, fun admitted => by cases admitted⟩
      dsimp only
      rw [← sameAnswer]
      refine ⟨rfl, unasked, ?_⟩
      cases answer : (first.lockInputBounds sensor.hoverThrustEstimate).2 with
      | false => exact fun admitted => by cases admitted
      | true => exact fun _ => locked answer

variable [Eigen] [LibmExp]

omit [Acados] [Libm] [Se3Packing] [Eigen] in
/-- The last command is remembered alike. -/
theorem remembers_command (u : Se3ControlVector) :
    Remembers fun backend => (backend.command u).1 := by
  refine ⟨fun backend solver => ?_, fun backend => ?_, fun backend => ?_⟩
  · have thrust := (Remembers.updateLastCommandedSpecificThrust u.thrust).withSolver backend solver
    have rate := (Remembers.updateLastCommandedBodyRate (backend.bodyRateCommand u.axes)).withSolver
      (backend.updateLastCommandedSpecificThrust u.thrust) solver
    have estimate := (Remembers.updateThrustActualEstimate u.thrust).withSolver
      ((backend.updateLastCommandedSpecificThrust u.thrust).updateLastCommandedBodyRate
        (backend.bodyRateCommand u.axes)) solver
    have limits : (backend.withSolver solver).bodyRateCommand u.axes =
        backend.bodyRateCommand u.axes := rfl
    unfold command
    dsimp only
    rw [limits, thrust, rate, estimate]
  · exact ((Remembers.updateThrustActualEstimate u.thrust).entered _).trans
      (((Remembers.updateLastCommandedBodyRate _).entered _).trans
        ((Remembers.updateLastCommandedSpecificThrust u.thrust).entered _))
  · exact ((Remembers.updateThrustActualEstimate u.thrust).locked _).trans
      (((Remembers.updateLastCommandedBodyRate _).locked _).trans
        ((Remembers.updateLastCommandedSpecificThrust u.thrust).locked _))

omit [Acados] [Libm] [Se3Packing] [Eigen] [LibmExp] in
theorem remembers_finish (now : Time) (target : Option AttitudeRateTarget) :
    Remembers fun backend => (backend.finish now target).1 := by
  have throttle (backend : UavNmpcTrackingBackend) (solver : UavNmpcSolver) :
      (backend.withSolver solver).logs now = backend.logs now := rfl
  refine ⟨fun backend solver => ?_, fun backend => ?_, fun backend => ?_⟩
  · unfold finish
    rw [throttle]
    cases backend.logs now with
    | error error => rfl
    | ok logs => cases logs <;> rfl
  · unfold finish
    cases backend.logs now with
    | error error => rfl
    | ok logs => cases logs <;> rfl
  · unfold finish
    cases backend.logs now with
    | error error => rfl
    | ok logs => cases logs <;> rfl

omit [Acados] [Libm] [Se3Packing] [Eigen] [LibmExp] in
theorem remembers_question [Libm] [Eigen] (x0 : Se3StateVector) (references : List Se3Reference) :
    Remembers fun backend => (backend.question x0 references).1 := by
  refine ⟨fun backend solver => ?_, fun backend => ?_, fun backend => ?_⟩
  · exact (Remembers.ensureMemory _).withSolver backend solver
  · exact (Remembers.ensureMemory _).entered backend
  · exact (Remembers.ensureMemory _).locked backend

omit [Libm] [Se3Packing] [Eigen] [LibmExp] in
theorem SameSession.finish (same : SameSession first second) (now : Time)
    (target : Option AttitudeRateTarget) :
    (first.finish now target).2 = (second.finish now target).2 := by
  have throttle : second.logs now = first.logs now := by
    rw [same.memory]
    rfl
  unfold UavNmpcTrackingBackend.finish
  rw [throttle]
  cases first.logs now <;> rfl

/-- Whether a question reaches the solve. -/
def asks (backend : UavNmpcTrackingBackend) (x0 : Se3StateVector)
    (references : List Se3Reference) : Bool :=
  (backend.solver.load x0 backend.thrustActualEstimate backend.lastCommandedSpecificThrust
    backend.lastCommandedBodyRate references).2

omit [Libm] [Eigen] in
/-- After a solve the two statuses are the same. -/
theorem SameSession.ask (same : SameSession first second)
    (locked : first.inputBoundsLocked = true) (x0 : Se3StateVector)
    (references : List Se3Reference) (now : Time) :
    first.asks x0 references = second.asks x0 references ∧
      (first.ask x0 references now).2 = (second.ask x0 references now).2 ∧
      SameSession (first.ask x0 references now).1 (second.ask x0 references now).1 ∧
      if first.asks x0 references then
        (first.ask x0 references now).1.solver.solverStatus =
          (second.ask x0 references now).1.solver.solverStatus
      else
        (first.ask x0 references now).1.solver.solverStatus = first.solver.solverStatus ∧
          (second.ask x0 references now).1.solver.solverStatus = second.solver.solverStatus := by
  obtain ⟨memory, entered, solvers⟩ := same
  rw [locked] at solvers
  generalize second.solver = solver at memory solvers
  subst memory
  obtain ⟨loads, -⟩ := solvers.load x0 first.thrustActualEstimate first.lastCommandedSpecificThrust
    first.lastCommandedBodyRate references
  obtain ⟨solves, alike, control, statuses⟩ := solvers.solve x0 first.thrustActualEstimate
    first.lastCommandedSpecificThrust first.lastCommandedBodyRate references
  unfold asks UavNmpcTrackingBackend.ask
  dsimp only [withSolver]
  generalize first.solver.solve x0 first.thrustActualEstimate first.lastCommandedSpecificThrust
    first.lastCommandedBodyRate references = solved at *
  generalize solver.solve x0 first.thrustActualEstimate first.lastCommandedSpecificThrust
    first.lastCommandedBodyRate references = solved' at *
  obtain ⟨solver₁, success⟩ := solved
  obtain ⟨solver₂, success'⟩ := solved'
  dsimp only at solves alike control statuses ⊢
  subst solves
  have session : SameSession { first with solver := solver₁ } { first with solver := solver₂ } :=
    ⟨rfl, entered, by rw [locked]; exact alike⟩
  cases success with
  | false =>
      have after := session.remembers (remembers_finish now none)
      simp only [Bool.false_eq_true, if_false]
      refine ⟨loads, session.finish now none, after.session, ?_⟩
      rw [after.firstStatus, after.secondStatus]
      exact statuses
  | true =>
      have commanded := session.remembers (remembers_command solver₁.optimalControl)
      have after := commanded.session.remembers (remembers_finish now (some
        (UavNmpcTrackingBackend.command { first with solver := solver₁ } solver₁.optimalControl).2))
      have target : (UavNmpcTrackingBackend.command { first with solver := solver₂ }
            solver₁.optimalControl).2 =
          (UavNmpcTrackingBackend.command { first with solver := solver₁ }
            solver₁.optimalControl).2 := rfl
      simp only [if_true]
      rw [← control rfl, target]
      refine ⟨loads, commanded.session.finish now _, after.session, ?_⟩
      rw [after.firstStatus, after.secondStatus, commanded.firstStatus, commanded.secondStatus]
      exact statuses

/-- Whether a request reaches the solve. -/
def reachesSolve (backend : UavNmpcTrackingBackend) (sensor : SensorData)
    (references : List Se3Reference) (now : Time) : Bool :=
  match backend.accepts sensor references now with
  | (_, none) => false
  | (backend, some x0) =>
      let (backend, references) := backend.question x0 references
      backend.asks x0 references

/-- Two backends of one session answer a request alike; its solve brings the statuses together. -/
theorem SameSession.compute (same : SameSession first second) (sensor : SensorData)
    (references : List Se3Reference) (now : Time) :
    first.reachesSolve sensor references now = second.reachesSolve sensor references now ∧
      (first.compute sensor references now).2 = (second.compute sensor references now).2 ∧
      SameSession (first.compute sensor references now).1
        (second.compute sensor references now).1 ∧
      if first.reachesSolve sensor references now then
        (first.compute sensor references now).1.solver.solverStatus =
          (second.compute sensor references now).1.solver.solverStatus
      else
        (first.compute sensor references now).1.solver.solverStatus =
            first.solver.solverStatus ∧
          (second.compute sensor references now).1.solver.solverStatus =
            second.solver.solverStatus := by
  obtain ⟨admits, unasked, locked⟩ := same.accepts sensor references now
  unfold reachesSolve UavNmpcTrackingBackend.compute
  generalize first.accepts sensor references now = admitted at *
  generalize second.accepts sensor references now = admitted' at *
  obtain ⟨before, answer⟩ := admitted
  obtain ⟨before', answer'⟩ := admitted'
  dsimp only at admits unasked locked ⊢
  subst admits
  cases answer with
  | none => exact ⟨rfl, rfl, unasked.session, unasked.firstStatus, unasked.secondStatus⟩
  | some x0 =>
      have questioned := unasked.session.remembers (remembers_question x0 references)
      have asked : (before'.question x0 references).2 = (before.question x0 references).2 := by
        rw [unasked.session.memory]
        rfl
      have isLocked : (before.question x0 references).1.inputBoundsLocked = true :=
        ((remembers_question x0 references).locked before).trans (locked rfl)
      obtain ⟨reaches, outcome, session, statuses⟩ :=
        questioned.session.ask isLocked x0 (before.question x0 references).2 now
      dsimp only
      rw [asked]
      refine ⟨reaches, outcome, session, ?_⟩
      rw [questioned.firstStatus, questioned.secondStatus, unasked.firstStatus,
        unasked.secondStatus] at statuses
      exact statuses

omit [Se3Packing] [Eigen] [LibmExp] in
/-- A session begins alike whatever was before, and leaves the status as it was. -/
theorem enter_alike (firstSound : first.solver.Sound) (secondSound : second.solver.Sound)
    (sameConfig : first.config = second.config) :
    first.enter.2 = second.enter.2 ∧
      first.enter.1.solver.Sound ∧ second.enter.1.solver.Sound ∧
      first.enter.1.solver.solverStatus = first.solver.solverStatus ∧
      second.enter.1.solver.solverStatus = second.solver.solverStatus ∧
      (first.enter.2 = true → SameSession first.enter.1 second.enter.1) := by
  obtain ⟨sameAnswer, sameWeights⟩ := UavNmpcSolver.configureWeights_eq first.solver second.solver
    second.config.nmpc.angularAccelerationWeight
  obtain ⟨sound, status⟩ := firstSound.configureWeights
    second.config.nmpc.angularAccelerationWeight
  obtain ⟨sound', status'⟩ := secondSound.configureWeights
    second.config.nmpc.angularAccelerationWeight
  unfold enter
  rw [sameConfig]
  generalize first.solver.configureAngularAccelerationWeights
    second.config.nmpc.angularAccelerationWeight = weighted at *
  generalize second.solver.configureAngularAccelerationWeights
    second.config.nmpc.angularAccelerationWeight = weighted' at *
  obtain ⟨solver, taken⟩ := weighted
  obtain ⟨solver', taken'⟩ := weighted'
  dsimp only at sameAnswer sameWeights sound status sound' status' ⊢
  subst sameAnswer
  cases taken with
  | false => exact ⟨rfl, sound, sound', status, status', fun entered => by cases entered⟩
  | true =>
      obtain ⟨sets, ready, on, kept, weights⟩ := UavNmpcSolver.initializeSolver_spec sound
      obtain ⟨sets', ready', on', kept', weights'⟩ := UavNmpcSolver.initializeSolver_spec sound'
      simp only [sets, sets', Bool.not_true, Bool.false_eq_true, if_false]
      cases isAvailable : UavNmpcSolver.available with
      | false =>
          exact ⟨rfl, ready, ready', kept.trans status, kept'.trans status',
            fun entered => by cases entered⟩
      | true =>
          refine ⟨rfl, ready.resetWarmStart, ready'.resetWarmStart, kept.trans status,
            kept'.trans status', fun _ => ⟨rfl, rfl, ?_⟩⟩
          exact ⟨ready.resetWarmStart, ready'.resetWarmStart, on.trans isAvailable,
            on'.trans isAvailable, weights.trans ((sameWeights rfl).trans weights'.symm), rfl,
            (fun warm => by cases warm), fun isLocked => by cases isLocked⟩

/-- A backend between two calls: one that is entered has a solver that is set up. -/
structure Sound (backend : UavNmpcTrackingBackend) : Prop where
  solver : backend.solver.Sound
  entered : backend.entered = true → backend.solver.initialized = true

omit [Libm] [Se3Packing] [Eigen] [LibmExp] in
theorem Sound.sameSession {backend : UavNmpcTrackingBackend} (sound : backend.Sound)
    (entered : backend.entered = true) : SameSession backend backend :=
  ⟨rfl, entered, sound.solver, sound.solver, sound.entered entered, sound.entered entered, rfl, rfl,
    fun _ => ⟨rfl, rfl⟩, fun _ => ⟨rfl, rfl⟩⟩

omit [Libm] [Se3Packing] [Eigen] [LibmExp] in
theorem SameSession.sound (same : SameSession first second) : first.Sound :=
  ⟨same.solvers.firstSound, fun _ => same.solvers.firstInitialized⟩

omit [Se3Packing] [Eigen] [LibmExp] in
theorem enter_sound {backend : UavNmpcTrackingBackend} (sound : backend.solver.Sound) :
    backend.enter.1.Sound := by
  obtain ⟨-, after, -, -, -, session⟩ := enter_alike sound sound rfl
  have marked : backend.enter.1.entered = backend.enter.2 := by
    unfold enter
    dsimp only
    split
    · rfl
    split <;> rfl
  cases entered : backend.enter.2 with
  | false => exact ⟨after, fun on => by cases on.symm.trans (marked.trans entered)⟩
  | true => exact (session entered).sound

theorem Sound.compute {backend : UavNmpcTrackingBackend} (sound : backend.Sound)
    (sensor : SensorData) (references : List Se3Reference) (now : Time) :
    (backend.compute sensor references now).1.Sound := by
  cases entered : backend.entered with
  | true =>
      obtain ⟨-, -, session, -⟩ := (sound.sameSession entered).compute sensor references now
      exact session.sound
  | false =>
      have refused : backend.accepts sensor references now = (backend, none) :=
        if_pos (by rw [entered]; rfl)
      unfold UavNmpcTrackingBackend.compute
      rw [refused]
      exact sound

end Session

end UavNmpcTrackingBackend

end MultirotorController
