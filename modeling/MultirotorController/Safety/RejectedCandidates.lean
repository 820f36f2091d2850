import MultirotorController.Lib.Run
import MultirotorController.Nmpc.FiniteReferences
import MultirotorController.Safety.SolverIndependence
import MultirotorController.Uav.ComputeSteps

/-!
# Rejected solver candidates

The solver library may return anything from a solve, and something else from the next.
Over all computations of a session, a candidate that is rejected brings no target
about, leaves the memory of the commands alone and never reaches a guess. What a
rejected call does to the memories it does before it solves, from its references: the
first admitted call of a session sets them, and a call after an accepted one whose
command made the thrust estimate overflow begins the estimate again.
-/

namespace MultirotorController

open Control UavNmpcTrackingBackend

/-- A call, and what the solver library does in it. -/
structure ComputeCall where
  library : Acados
  sensor : SensorData
  references : List Se3Reference
  now : Time

/-- What a call answers, and what passes between it and the library: the measured state and the
references of an admitted request, the capsule of a solve and the candidate that it returns. -/
structure ComputeReport where
  result : Except RuntimeError (Option AttitudeRateTarget)
  question : Option (UavNmpcStateVector × List Se3Reference)
  submitted : Option Capsule
  candidate : Option Candidate

abbrev ComputeEvent := Machine.Event UavNmpcTrackingBackend ComputeCall ComputeReport

/-- The bounds are an input's own interval, axis by axis. -/
structure Se3ControlVector.Within (bounds : RuntimeBounds) (u : Se3ControlVector) : Prop where
  thrust : bounds.inputLower.thrust ≤ u.thrust ∧ u.thrust ≤ bounds.inputUpper.thrust
  roll : bounds.inputLower.axes.x ≤ u.axes.x ∧ u.axes.x ≤ bounds.inputUpper.axes.x
  pitch : bounds.inputLower.axes.y ≤ u.axes.y ∧ u.axes.y ≤ bounds.inputUpper.axes.y
  yaw : bounds.inputLower.axes.z ≤ u.axes.z ∧ u.axes.z ≤ bounds.inputUpper.axes.z

/-- The newest candidate of the past that was accepted. -/
def lastAccepted (past : List ComputeEvent) : Option Candidate :=
  past.findSome? fun event => event.output.candidate.filter Candidate.usable

def AttitudeRateTarget.allFinite (target : AttitudeRateTarget) : Bool :=
  target.bodyRateX.isFinite && target.bodyRateY.isFinite && target.bodyRateZ.isFinite &&
    target.thrust.isFinite

/-- Some call of the past was admitted. -/
def anyAdmitted (past : List ComputeEvent) : Bool :=
  past.any fun event => event.output.question.isSome

/-- The newest call of the past that was admitted was answered by a usable candidate. -/
def AcceptedLast (past : List ComputeEvent) : Prop :=
  ∃ event candidate, past.find? (fun event => event.output.question.isSome) = some event ∧
    event.output.candidate = some candidate ∧ candidate.usable = true

section Calls

variable [Libm] [Eigen] [LibmExp] [Se3Packing]

def computeStep (backend : UavNmpcTrackingBackend) (call : ComputeCall) :
    UavNmpcTrackingBackend × ComputeReport :=
  letI := call.library
  let computed := backend.compute call.sensor call.references call.now
  let asked := backend.asked call.sensor call.references call.now
  let submitted := asked.bind fun question => question.1.submitted question.2.1 question.2.2
  (computed.1, {
    result := computed.2
    question := asked.map fun question =>
      (UavNmpcSolver.packInternalState question.2.1 question.1.thrustActualEstimate,
        question.2.2)
    submitted
    candidate := submitted.map Acados.solve })

def computing : Machine UavNmpcTrackingBackend ComputeCall ComputeReport where
  step := computeStep

/-- The horizons of the calls consist of numbers. -/
def finiteHorizon : Machine.Restriction UavNmpcTrackingBackend ComputeCall ComputeReport :=
  fun _ _ call => ∀ reference ∈ call.references, reference.allFinite = true

instance : ∀ past backend call, Decidable (finiteHorizon past backend call) :=
  fun _ _ call => inferInstanceAs (Decidable (∀ reference ∈ call.references, _))

omit [Eigen] [LibmExp] [Se3Packing] in
/-- A session has just begun, with a solver whose capsule is there if it is set up. -/
def Entered (backend : UavNmpcTrackingBackend) : Prop :=
  ∃ (_ : Acados) (before : UavNmpcTrackingBackend),
    (before.solver.initialized = true → before.solver.capsule.isSome = true) ∧
      before.enter = (backend, true)

omit [Libm] [Eigen] [LibmExp] in
/-- The guesses of a solve are numbers. The first state is the measured one, and everything else
comes from the last accepted candidate, or from the references, and then the inputs are inside
the locked bounds. -/
structure GuessesTraced (older : List ComputeEvent) (event : ComputeEvent) (capsule : Capsule) :
    Prop where
  states : ∀ x ∈ capsule.x, x.allFinite = true
  inputs : ∀ u ∈ capsule.u, u.allFinite = true
  traced : ∃ measured references, event.output.question = some (measured, references) ∧
    ((∃ last, lastAccepted older = some last ∧ capsule.x = measured :: last.2.1.tail ∧
        capsule.u = last.2.2) ∨
      capsule.x = measured :: ((references.take (UavNmpcSolver.horizonSteps + 1)).map
          UavNmpcSolver.packInternalReference).tail ∧
        capsule.u = (references.take UavNmpcSolver.horizonSteps).map (fun reference =>
          event.after.solver.clampInputGuess
            (UavNmpcSolver.packBodyRateInputReference reference)) ∧
        event.after.inputBoundsLocked = true ∧
        ∀ u ∈ capsule.u, u.Within event.after.solver.bounds)

omit [Libm] [Eigen] [LibmExp] [Se3Packing] in
/-- A rejected candidate gives no target, and leaves the memories alone. Unless the call is the
first that was admitted, which sets them from its first reference; or the call accepted before it
left an estimate that is no number, in whose place the thrust of the first reference is put. -/
structure TracelesslyRejected (older : List ComputeEvent) (event : ComputeEvent) : Prop where
  noTarget : ∀ target, event.output.result ≠ .ok (some target)
  memory : anyAdmitted older = true → event.before.thrustActualEstimate.isFinite = true →
    event.after.memory = event.before.memory
  overflowed : anyAdmitted older = true → event.before.thrustActualEstimate.isFinite = false →
    AcceptedLast older ∧ ∃ measured references,
      event.output.question = some (measured, references) ∧
        event.after.memory = { event.before.memory with
          thrustActual := event.before.referenceThrust (references.headD {}) }
  first : anyAdmitted older = false → ∃ measured references,
    event.output.question = some (measured, references) ∧
      event.after.memory = event.before.firstMemory (references.headD {})

/-- What is known between two calls: the solver is set up, its bounds have passed the checks if
they are locked, its warm start is the last accepted candidate but for the first state, and the
memories are those of some admitted call, or of none. Only an accepted call leaves an estimate
that is no number. -/
structure Tracing (past : List ComputeEvent) (backend : UavNmpcTrackingBackend) : Prop where
  ready : backend.solver.Ready
  locked : backend.inputBoundsLocked = true → backend.Locked
  warm : backend.solver.haveWarmStart = true → ∃ last, lastAccepted past = some last ∧
    last.usable = true ∧ backend.solver.xGuess.tail = last.2.1.tail ∧
    backend.solver.uGuess = last.2.2
  remembering : anyAdmitted past = true → backend.Remembering
  estimated : anyAdmitted past = true → backend.thrustActualEstimate.isFinite = false →
    AcceptedLast past
  forgetful : anyAdmitted past = false → backend.Forgetful

section Start

omit [Eigen] [LibmExp] [Se3Packing]

omit [Libm] in
theorem initializeSolver_ready [Acados] {solver : UavNmpcSolver}
    (standing : solver.initialized = true → solver.capsule.isSome = true)
    (set : solver.initializeSolver.2 = true) : solver.initializeSolver.1.Ready := by
  unfold UavNmpcSolver.initializeSolver at set ⊢
  split at set
  next on =>
    rw [if_pos on]
    exact ⟨on, standing on⟩
  next off =>
    rw [if_neg off]
    split at set
    · cases set
    next creates =>
      rw [if_neg creates]
      dsimp only [UavNmpcSolver.applyRuntimeBounds] at set ⊢
      split at set
      · cases set
      next applied =>
        rw [if_neg applied]
        exact ⟨rfl, rfl⟩

theorem Entered.tracing {backend : UavNmpcTrackingBackend} (entered : Entered backend) :
    Tracing [] backend := by
  obtain ⟨library, before, standing, enters⟩ := entered
  have kept : (before.solver.configureAngularAccelerationWeights
        before.config.nmpc.angularAccelerationWeight).1.initialized = before.solver.initialized ∧
      (before.solver.configureAngularAccelerationWeights
        before.config.nmpc.angularAccelerationWeight).1.capsule = before.solver.capsule := by
    unfold UavNmpcSolver.configureAngularAccelerationWeights
    split <;> exact ⟨rfl, rfl⟩
  unfold enter at enters
  dsimp only at enters
  split at enters
  · cases enters
  split at enters
  · cases enters
  next initialized =>
    have set := initializeSolver_ready (fun on => by
      rw [kept.2]
      exact standing (kept.1.symm.trans on)) (by simpa using initialized)
    cases enters
    refine ⟨⟨set.initialized, set.capsule⟩, fun locked => ?_, fun warm => ?_, fun admitted => ?_,
      fun admitted => ?_, fun _ => ⟨rfl, rfl, rfl⟩⟩
    · cases locked
    · cases warm
    · cases admitted
    · cases admitted

end Start

section Question

/-- The backend when it asks: its session is locked, its memories are set, and its warm start is
the one from before the call. -/
structure Asking (before asking : UavNmpcTrackingBackend) (reference : Se3Reference) : Prop where
  warm : UavNmpcSolver.KeepsWarmStart before.solver asking.solver
  locked : asking.inputBoundsLocked = true
  knows : asking.Locked
  remembered : before.Remembering → asking.memory = before.keptMemory reference ∧
    asking.Remembering ∧ asking.thrustActualEstimate.isFinite = true
  first : before.Forgetful → asking.memory = before.firstMemory reference ∧
    asking.Remembering ∧ asking.thrustActualEstimate.isFinite = true

variable [Acados] {backend : UavNmpcTrackingBackend}

omit [Libm] [Eigen] [LibmExp] [Se3Packing] [Acados] in
theorem firstMemory_config {before after : UavNmpcTrackingBackend}
    (same : after.config = before.config) (reference : Se3Reference) :
    after.firstMemory reference = before.firstMemory reference := by
  unfold firstMemory referenceThrust bodyRateCommand
  rw [same]

omit [Libm] [Eigen] [LibmExp] [Se3Packing] [Acados] in
theorem keptMemory_congr {before after : UavNmpcTrackingBackend}
    (same : after.config = before.config) (memory : after.memory = before.memory)
    (reference : Se3Reference) : after.keptMemory reference = before.keptMemory reference := by
  have thrust : after.thrustActualEstimate = before.thrustActualEstimate :=
    congrArg CommandMemory.thrustActual memory
  unfold keptMemory referenceThrust
  rw [same, memory, thrust]

omit [LibmExp] in
/-- An admitted request is asked with numbers only. -/
theorem asked_spec (libraries : FiniteLibraries)
    (known : backend.inputBoundsLocked = true → backend.Locked) {sensor : SensorData}
    {references : List Se3Reference} {now : Time}
    (finite : ∀ reference ∈ references, reference.allFinite = true)
    {question : UavNmpcTrackingBackend × Se3StateVector × List Se3Reference}
    (asked : backend.asked sensor references now = some question) :
    Asking backend question.1 (question.2.2.headD {}) ∧ question.2.1.allFinite = true ∧
      ∀ reference ∈ question.2.2, reference.allFinite = true := by
  obtain ⟨warm, memory, config, -, knows, admitted⟩ :=
    accepts_cases known sensor references now
  rw [asked_eq] at asked
  obtain ⟨x0, measured, rfl⟩ := Option.map_eq_some_iff.mp asked
  obtain ⟨numbers, locked⟩ := admitted x0 measured
  have knows := knows locked
  generalize (backend.accepts sensor references now).1 = accepting at *
  have remembers := Remembers.ensureMemory ((accepting.trackingReferences x0 references).headD {})
  have kept := accepting.ensureMemory_keepsLock
    ((accepting.trackingReferences x0 references).headD {})
  refine ⟨⟨?_, kept.locked.trans locked, kept.known (fun _ => knows) (kept.locked.trans locked),
    fun remembering => ?_, fun forgetful => ?_⟩, numbers,
    trackingReferences_finite libraries accepting x0 finite⟩
  · refine warm.trans ?_
    change UavNmpcSolver.KeepsWarmStart accepting.solver (accepting.ensureMemory _).solver
    rw [remembers.solver accepting]
    exact .refl _
  · obtain ⟨kept, rest⟩ := (memory.remembering remembering).ensureMemory knows.limits
      ((accepting.trackingReferences x0 references).headD {})
    exact ⟨kept.trans (keptMemory_congr config memory.memory _), rest⟩
  · obtain ⟨set, rest⟩ := (memory.forgetful forgetful).ensureMemory knows.limits
      ((accepting.trackingReferences x0 references).headD {})
    exact ⟨set.trans (firstMemory_config config _), rest⟩

omit [LibmExp] in
/-- A request that is not admitted changes nothing that matters to the next one. -/
theorem not_asked_spec (known : backend.inputBoundsLocked = true → backend.Locked)
    {sensor : SensorData} {references : List Se3Reference} {now : Time}
    (unasked : backend.asked sensor references now = none) [LibmExp] :
    backend.compute sensor references now =
        ((backend.accepts sensor references now).1, .ok none) ∧
      UavNmpcSolver.KeepsWarmStart backend.solver
        (backend.accepts sensor references now).1.solver ∧
      KeepsMemory backend (backend.accepts sensor references now).1 ∧
      ((backend.accepts sensor references now).1.inputBoundsLocked = true →
        (backend.accepts sensor references now).1.Locked) := by
  obtain ⟨warm, memory, -, -, knows, -⟩ := accepts_cases known sensor references now
  rw [compute_eq, unasked]
  exact ⟨rfl, warm, memory, knows⟩

end Question

section Guesses

omit [Libm] [Eigen] [LibmExp] [Se3Packing] in
theorem clampInput_spec (value : Double) {low high : Double} (finite : low.isFinite = true)
    (finite' : high.isFinite = true) (ordered : low ≤ high) :
    (low ≤ UavNmpcSolver.clampInput value low high ∧
        UavNmpcSolver.clampInput value low high ≤ high) ∧
      (UavNmpcSolver.clampInput value low high).isFinite = true := by
  have number : (if value.isFinite then value else 0) ≠ Double.nan := by
    split
    next isFinite =>
      intro notNumber
      rw [notNumber] at isFinite
      cases isFinite
    · decide
  have between : low ≤ UavNmpcSolver.clampInput value low high ∧
      UavNmpcSolver.clampInput value low high ≤ high := NmpcMath.stdClamp_between number ordered
  exact ⟨between, Double.isFinite_of_between finite finite' between.1 between.2⟩

omit [Libm] [Eigen] [LibmExp] [Se3Packing] in
/-- A guess that is taken from anything is inside the locked bounds. -/
theorem clampInputGuess_within {backend : UavNmpcTrackingBackend} (locked : backend.Locked)
    (input : Se3ControlVector) :
    (backend.solver.clampInputGuess input).Within backend.solver.bounds ∧
      (backend.solver.clampInputGuess input).allFinite = true := by
  have limits := locked.limits
  have checked := checkedBounds_of_limits limits rfl locked.apart locked.usable.finite
    locked.divisor
  have thrust := clampInput_spec input.thrust checked.nonnegative.1 checked.wide.1
    (Double.le_of_lt checked.wide.2)
  have rate (value : Double) {limit : Double} (positive : limit.isFinite = true ∧ 0 < limit) :=
    clampInput_spec value (Double.isFinite_neg.trans positive.1) positive.1
      (Double.neg_le_self (Double.le_of_lt positive.2))
  have roll := rate input.axes.x limits.rollPitchRate
  have pitch := rate input.axes.y limits.rollPitchRate
  have yaw := rate input.axes.z limits.yawRate
  unfold UavNmpcSolver.clampInputGuess
  dsimp only
  refine ⟨?_, ?_⟩
  · constructor <;> dsimp only <;> rw [locked.lower, locked.upper]
    · exact thrust.1
    · exact roll.1
    · exact pitch.1
    · exact yaw.1
  · rw [locked.lower, locked.upper]
    exact Bool.and_eq_true_iff.mpr ⟨thrust.2, Vec3.allFinite_iff.mpr ⟨roll.2, pitch.2, yaw.2⟩⟩

omit [LibmExp] in
theorem packInternalReference_finite (libraries : FiniteLibraries) {reference : Se3Reference}
    (finite : reference.allFinite = true) :
    (UavNmpcSolver.packInternalReference reference).allFinite = true := by
  obtain ⟨position, velocity, attitude, rate, force, -⟩ :=
    Control.Se3Reference.allFinite_iff.mp finite
  have state : reference.state.allFinite = true := by
    simp [Control.Se3State.allFinite, position, velocity, attitude, rate]
  exact Bool.and_eq_true_iff.mpr ⟨libraries.packState _ state, force⟩

omit [LibmExp] in
/-- The guesses of a locked session whose warm start is the last accepted candidate. -/
theorem guesses_traced (libraries : FiniteLibraries) {past : List ComputeEvent}
    {backend : UavNmpcTrackingBackend} (locked : backend.Locked)
    (warm : backend.solver.haveWarmStart = true → ∃ last, lastAccepted past = some last ∧
      last.usable = true ∧ backend.solver.xGuess.tail = last.2.1.tail ∧
      backend.solver.uGuess = last.2.2)
    {measured : UavNmpcStateVector} (finite : measured.allFinite = true)
    {references : List Se3Reference}
    (numbers : ∀ reference ∈ references, reference.allFinite = true) :
    (∀ x ∈ (backend.solver.guesses measured references).1, x.allFinite = true) ∧
      (∀ u ∈ (backend.solver.guesses measured references).2, u.allFinite = true) ∧
      ((∃ last, lastAccepted past = some last ∧
          (backend.solver.guesses measured references).1 = measured :: last.2.1.tail ∧
          (backend.solver.guesses measured references).2 = last.2.2) ∨
        (backend.solver.guesses measured references).1 =
            measured :: ((references.take (UavNmpcSolver.horizonSteps + 1)).map
              UavNmpcSolver.packInternalReference).tail ∧
          (backend.solver.guesses measured references).2 =
            (references.take UavNmpcSolver.horizonSteps).map (fun reference =>
              backend.solver.clampInputGuess
                (UavNmpcSolver.packBodyRateInputReference reference)) ∧
          ∀ u ∈ (backend.solver.guesses measured references).2,
            u.Within backend.solver.bounds) := by
  unfold UavNmpcSolver.guesses
  cases isWarm : backend.solver.haveWarmStart with
  | true =>
      obtain ⟨last, accepted, usable, states, inputs⟩ := warm isWarm
      simp only [Candidate.usable, Bool.and_eq_true, List.all_eq_true] at usable
      rw [if_pos rfl, states, inputs]
      refine ⟨List.forall_mem_cons.mpr ⟨finite, fun x member => ?_⟩, usable.2,
        .inl ⟨last, accepted, rfl, rfl⟩⟩
      exact usable.1.2 x (List.mem_of_mem_tail member)
  | false =>
      rw [if_neg (by decide)]
      have clamped : ∀ u ∈ (references.take UavNmpcSolver.horizonSteps).map (fun reference =>
          backend.solver.clampInputGuess (UavNmpcSolver.packBodyRateInputReference reference)),
          u.Within backend.solver.bounds ∧ u.allFinite = true := by
        intro u member
        obtain ⟨reference, -, rfl⟩ := List.mem_map.mp member
        exact clampInputGuess_within locked _
      refine ⟨List.forall_mem_cons.mpr ⟨finite, fun x member => ?_⟩,
        fun u member => (clamped u member).2, .inr ⟨rfl, rfl, fun u member => (clamped u member).1⟩⟩
      obtain ⟨reference, inside, rfl⟩ := List.mem_map.mp (List.mem_of_mem_tail member)
      exact packInternalReference_finite libraries
        (numbers reference (List.mem_of_mem_take inside))

end Guesses

/-- A call leaves no trace of a rejected candidate. -/
structure Untraced (older : List ComputeEvent) (event : ComputeEvent) : Prop where
  answered : ∀ target, event.output.result = .ok (some target) →
    target.allFinite = true ∧ event.after.solver.optimalControl.allFinite = true ∧
      ∃ candidate, event.output.candidate = some candidate ∧ candidate.usable = true ∧
        candidate.2.2.all Se3ControlVector.allFinite = true
  rejected : ∀ candidate, event.output.candidate = some candidate → candidate.usable = false →
    TracelesslyRejected older event
  guesses : ∀ capsule, event.output.submitted = some capsule → GuessesTraced older event capsule

section Step

omit [Libm] [Eigen] [LibmExp] [Se3Packing]

theorem anyAdmitted_cons (event : ComputeEvent) (past : List ComputeEvent) :
    anyAdmitted (event :: past) = (event.output.question.isSome || anyAdmitted past) := rfl

/-- A call that is not admitted says nothing about the newest one that was. -/
theorem acceptedLast_cons {event : ComputeEvent} (unasked : event.output.question = none)
    (past : List ComputeEvent) : AcceptedLast (event :: past) ↔ AcceptedLast past := by
  unfold AcceptedLast
  rw [List.find?_cons, unasked]
  rfl

theorem lastAccepted_cons_of_usable {event : ComputeEvent} {candidate : Candidate}
    (returned : event.output.candidate = some candidate) (usable : candidate.usable = true)
    (past : List ComputeEvent) : lastAccepted (event :: past) = some candidate := by
  unfold lastAccepted
  rw [List.findSome?_cons, returned, Option.filter_some, if_pos usable]

/-- A call that is not accepted leaves the last accepted candidate where it was. -/
theorem lastAccepted_cons_of_not {event : ComputeEvent}
    (rejected : ∀ candidate, event.output.candidate = some candidate → candidate.usable = false)
    (past : List ComputeEvent) : lastAccepted (event :: past) = lastAccepted past := by
  unfold lastAccepted
  rw [List.findSome?_cons]
  cases returned : event.output.candidate with
  | none => rfl
  | some candidate =>
      rw [Option.filter_some, if_neg (by simp [rejected candidate returned])]

theorem AttitudeRateTarget.Within.finite {config : ControllerConfig} {target : AttitudeRateTarget}
    (limits : config.Limits) (within : target.Within config) : target.allFinite = true := by
  have thrust := Double.isFinite_of_between limits.least.1 limits.greatest.1 within.thrust.1
    within.thrust.2
  unfold AttitudeRateTarget.allFinite
  rw [within.rollRate.1, within.pitchRate.1, within.yawRate.1, thrust]
  rfl

/-- What is written at the end of an admitted call does not matter to the next one. -/
theorem tracing_finish {past : List ComputeEvent} {answered : UavNmpcTrackingBackend}
    (ready : answered.solver.Ready) (locked : answered.inputBoundsLocked = true → answered.Locked)
    (warm : answered.solver.haveWarmStart = true → ∃ last, lastAccepted past = some last ∧
      last.usable = true ∧ answered.solver.xGuess.tail = last.2.1.tail ∧
      answered.solver.uGuess = last.2.2)
    (remembering : answered.Remembering)
    (estimated : answered.thrustActualEstimate.isFinite = false → AcceptedLast past)
    (admitted : anyAdmitted past = true) (now : Time)
    (target : Option AttitudeRateTarget) : Tracing past (answered.finish now target).1 := by
  have solver := (answered.finish_spec now target).1
  have memory : KeepsMemory answered (answered.finish now target).1 :=
    finish_keepsMemory now target
  refine ⟨?_, (answered.finish_keepsLock now target).known locked, ?_,
    fun _ => memory.remembering remembering, fun _ overflowed => estimated ?_, fun nobody => ?_⟩
  · rw [solver]
    exact ready
  · rw [solver]
    exact warm
  · rw [← memory.estimate]
    exact overflowed
  · exact absurd (nobody.symm.trans admitted) (by decide)

end Step

section Cases

variable [library : Acados] {past : List ComputeEvent} {backend : UavNmpcTrackingBackend}
variable {sensor : SensorData} {references : List Se3Reference} {now : Time}

/-- A call whose request is not admitted. -/
theorem traced_unasked (tracing : Tracing past backend)
    (unasked : backend.asked sensor references now = none) :
    let event := computing.event backend ⟨library, sensor, references, now⟩
    Tracing (event :: past) event.after ∧ Untraced past event := by
  intro event
  obtain ⟨computed, warm, memory, locked⟩ := not_asked_spec tracing.locked unasked
  have question : event.output.question = none := congrArg (Option.map _) unasked
  have submitted : event.output.submitted = none := congrArg (Option.bind · _) unasked
  have candidate : event.output.candidate = none := congrArg (Option.map _) submitted
  have result : event.output.result = .ok none := congrArg Prod.snd computed
  have after : event.after = (backend.accepts sensor references now).1 :=
    congrArg Prod.fst computed
  have same : anyAdmitted (event :: past) = anyAdmitted past := by
    rw [anyAdmitted_cons, question]
    rfl
  refine ⟨?_, ⟨?_, ?_, ?_⟩⟩
  · rw [after]
    refine ⟨warm.ready tracing.ready, locked, fun isWarm => ?_, fun admitted => ?_,
      fun admitted overflowed => ?_, fun nobody => ?_⟩
    · rw [lastAccepted_cons_of_not (by rw [candidate]; intro _ nothing; cases nothing), warm.xGuess,
        warm.uGuess]
      exact tracing.warm (warm.haveWarmStart.symm.trans isWarm)
    · exact memory.remembering (tracing.remembering (same.symm.trans admitted))
    · rw [memory.estimate] at overflowed
      exact (acceptedLast_cons question past).mpr
        (tracing.estimated (same.symm.trans admitted) overflowed)
    · exact memory.forgetful (tracing.forgetful (same.symm.trans nobody))
  · intro target returned
    rw [result] at returned
    cases returned
  · intro _ returned
    rw [candidate] at returned
    cases returned
  · intro _ given
    rw [submitted] at given
    cases given

omit [Libm] [Eigen] [LibmExp] [Se3Packing] library in
/-- The memory of an admitted call is set before it solves: it is the old one, or the first. -/
theorem asking_memory (tracing : Tracing past backend) {asking : UavNmpcTrackingBackend}
    {reference : Se3Reference} (asks : Asking backend asking reference) :
    asking.Remembering ∧ asking.thrustActualEstimate.isFinite = true ∧
      (anyAdmitted past = true → asking.memory = backend.keptMemory reference) ∧
      (anyAdmitted past = false → asking.memory = backend.firstMemory reference) := by
  cases admitted : anyAdmitted past with
  | true =>
      obtain ⟨same, remembering, finite⟩ := asks.remembered (tracing.remembering admitted)
      exact ⟨remembering, finite, fun _ => same, fun contrary => by cases contrary⟩
  | false =>
      obtain ⟨set, remembering, finite⟩ := asks.first (tracing.forgetful admitted)
      exact ⟨remembering, finite, (fun contrary => by cases contrary), fun _ => set⟩

/-- A call whose question cannot be loaded into the solver. -/
theorem traced_unsubmitted (libraries : FiniteLibraries) (tracing : Tracing past backend)
    (finite : ∀ reference ∈ references, reference.allFinite = true)
    {question : UavNmpcTrackingBackend × Se3StateVector × List Se3Reference}
    (asked : backend.asked sensor references now = some question)
    (nothing : question.1.submitted question.2.1 question.2.2 = none) :
    let event := computing.event backend ⟨library, sensor, references, now⟩
    Tracing (event :: past) event.after ∧ Untraced past event := by
  intro event
  obtain ⟨asks, -, -⟩ := asked_spec libraries tracing.locked finite asked
  obtain ⟨remembering, estimate, -, -⟩ := asking_memory tracing asks
  obtain ⟨solver, warm, bounds, answer⟩ :=
    ask_unsubmitted (asks.warm.ready tracing.ready) now nothing
  have submitted : event.output.submitted = none :=
    (congrArg (Option.bind · _) asked).trans nothing
  have candidate : event.output.candidate = none := congrArg (Option.map _) submitted
  have computed : backend.compute sensor references now =
      ({ question.1 with solver } : UavNmpcTrackingBackend).finish now none := by
    rw [compute_eq, asked]
    exact answer
  have admitted : anyAdmitted (event :: past) = true := by
    have admits : event.output.question.isSome = true := by
      change (Option.map _ (backend.asked sensor references now)).isSome = true
      rw [asked]
      rfl
    rw [anyAdmitted_cons, admits, Bool.true_or]
  have kept : KeepsLock question.1 { question.1 with solver } := ⟨rfl, rfl, rfl, rfl, bounds⟩
  refine ⟨?_, ⟨?_, ?_, ?_⟩⟩
  · have after : event.after =
        (({ question.1 with solver } : UavNmpcTrackingBackend).finish now none).1 :=
      congrArg Prod.fst computed
    rw [after]
    refine tracing_finish ((asks.warm.trans warm).ready tracing.ready)
      (kept.known fun _ => asks.knows) (fun isWarm => ?_)
      ⟨remembering.thrustActual, remembering.lastSpecificThrust, remembering.lastBodyRate⟩
      (fun overflowed => absurd (overflowed.symm.trans estimate) (by decide)) admitted now none
    change solver.haveWarmStart = true at isWarm
    rw [lastAccepted_cons_of_not (by rw [candidate]; intro _ nothing; cases nothing), warm.xGuess,
      warm.uGuess, asks.warm.xGuess, asks.warm.uGuess]
    exact tracing.warm ((warm.haveWarmStart.trans asks.warm.haveWarmStart).symm.trans isWarm)
  · intro target returned
    have none := (finish_spec _ now none).2 _ ((congrArg Prod.snd computed).symm.trans returned)
    cases none
  · intro _ returned
    rw [candidate] at returned
    cases returned
  · intro _ given
    rw [submitted] at given
    cases given

/-- The report of a call whose question reaches the library. -/
theorem report_submitted
    {question : UavNmpcTrackingBackend × Se3StateVector × List Se3Reference}
    (asked : backend.asked sensor references now = some question) {capsule : Capsule}
    (given : question.1.submitted question.2.1 question.2.2 = some capsule) :
    (computing.event backend ⟨library, sensor, references, now⟩).output =
        { result := (question.1.ask question.2.1 question.2.2 now).2
          question := some (UavNmpcSolver.packInternalState question.2.1
            question.1.thrustActualEstimate, question.2.2)
          submitted := some capsule
          candidate := some (Acados.solve capsule) } ∧
      (computing.event backend ⟨library, sensor, references, now⟩).after =
        (question.1.ask question.2.1 question.2.2 now).1 := by
  have computed : backend.compute sensor references now =
      question.1.ask question.2.1 question.2.2 now := by
    rw [compute_eq, asked]
    rfl
  have submitted : (backend.asked sensor references now).bind
      (fun question => question.1.submitted question.2.1 question.2.2) = some capsule := by
    rw [asked]
    exact given
  refine ⟨?_, congrArg Prod.fst computed⟩
  change ComputeReport.mk (backend.compute sensor references now).2
    ((backend.asked sensor references now).map _) ((backend.asked sensor references now).bind _)
    (((backend.asked sensor references now).bind _).map Acados.solve) = _
  rw [computed, submitted, asked]
  rfl

/-- A backend whose solver has been given a capsule, with the event of the call. -/
structure Solved (past : List ComputeEvent) (event : ComputeEvent) (capsule : Capsule)
    (solved : UavNmpcTrackingBackend) : Prop where
  ready : solved.solver.Ready
  knows : solved.Locked
  remembering : solved.Remembering
  estimate : solved.thrustActualEstimate.isFinite = true
  asked : event.output.question.isSome = true
  submitted : event.output.submitted = some capsule
  candidate : event.output.candidate = some (Acados.solve capsule)
  guessed : ∀ backend, KeepsLock solved backend → event.after = backend →
    GuessesTraced past event capsule

omit [Libm] [Eigen] [LibmExp] in
theorem Solved.admitted {event : ComputeEvent} {capsule : Capsule}
    {solved : UavNmpcTrackingBackend} (solves : Solved past event capsule solved) :
    anyAdmitted (event :: past) = true := by
  rw [anyAdmitted_cons, solves.asked, Bool.true_or]

omit [Libm] [Eigen] in
/-- A usable candidate becomes the warm start, and its command the target. -/
theorem traced_accepted {event : ComputeEvent} {capsule : Capsule}
    {solved : UavNmpcTrackingBackend} (solves : Solved past event capsule solved)
    (usable : Candidate.usable (Acados.solve capsule) = true)
    (control : solved.solver.optimalControl = (Acados.solve capsule).2.2.headD {})
    (states : solved.solver.xGuess = (Acados.solve capsule).2.1)
    (inputs : solved.solver.uGuess = (Acados.solve capsule).2.2)
    (ends : (event.after, event.output.result) =
      (solved.command solved.solver.optimalControl).1.finish now
        (some (solved.command solved.solver.optimalControl).2)) :
    Tracing (event :: past) event.after ∧ Untraced past event := by
  have after : event.after = ((solved.command solved.solver.optimalControl).1.finish now
      (some (solved.command solved.solver.optimalControl).2)).1 := congrArg Prod.fst ends
  have result : event.output.result = ((solved.command solved.solver.optimalControl).1.finish now
      (some (solved.command solved.solver.optimalControl).2)).2 := congrArg Prod.snd ends
  have numbers : (Acados.solve capsule).2.2.all Se3ControlVector.allFinite = true :=
    (Bool.and_eq_true_iff.mp usable).2
  have optimal : solved.solver.optimalControl.allFinite = true := by
    rw [control]
    exact Candidate.usable_head usable
  have specific := (Bool.and_eq_true_iff.mp optimal).1
  have commandSolver := (remembers_command solved.solver.optimalControl).solver solved
  have keptByCommand := solved.command_keepsLock solved.solver.optimalControl
  refine ⟨?_, ⟨?_, ?_, ?_⟩⟩
  · rw [after]
    refine tracing_finish ?_ (keptByCommand.known fun _ => solves.knows) (fun _ => ?_)
      (solves.remembering.command solves.knows.limits specific)
      (fun _ => ⟨event, _, ?_, solves.candidate, usable⟩) solves.admitted now _
    · rw [commandSolver]
      exact solves.ready
    · rw [commandSolver, states, inputs]
      exact ⟨_, lastAccepted_cons_of_usable solves.candidate usable past, usable, rfl, rfl⟩
    · rw [List.find?_cons, solves.asked]
  · intro target returned
    rw [result] at returned
    cases (finish_spec _ now _).2 _ returned
    refine ⟨(command_within solves.knows specific).finite solves.knows.limits, ?_, _,
      solves.candidate, usable, numbers⟩
    rw [after, (finish_spec _ now _).1, commandSolver]
    exact optimal
  · intro rejected returned unusable
    cases Option.some.inj (solves.candidate.symm.trans returned)
    exact absurd (unusable.symm.trans usable) (by decide)
  · intro given same
    cases Option.some.inj (solves.submitted.symm.trans same)
    exact solves.guessed _ (keptByCommand.trans (finish_keepsLock _ now _)) after

omit [Libm] [Eigen] [LibmExp] in
/-- A rejected candidate leaves behind at most a warm start that has been given up. -/
theorem traced_rejected {event : ComputeEvent} {capsule : Capsule}
    {solved : UavNmpcTrackingBackend} (solves : Solved past event capsule solved)
    (unusable : Candidate.usable (Acados.solve capsule) = false)
    (warm : solved.solver.haveWarmStart = true → ∃ last, lastAccepted past = some last ∧
      last.usable = true ∧ solved.solver.xGuess.tail = last.2.1.tail ∧
      solved.solver.uGuess = last.2.2)
    (estimated : anyAdmitted past = true → event.before.thrustActualEstimate.isFinite = false →
      AcceptedLast past)
    (later : anyAdmitted past = true → ∃ measured references,
      event.output.question = some (measured, references) ∧
        solved.memory = event.before.keptMemory (references.headD {}))
    (first : anyAdmitted past = false → ∃ measured references,
      event.output.question = some (measured, references) ∧
        solved.memory = event.before.firstMemory (references.headD {}))
    (ends : (event.after, event.output.result) = solved.finish now none) :
    Tracing (event :: past) event.after ∧ Untraced past event := by
  have after : event.after = (solved.finish now none).1 := congrArg Prod.fst ends
  have result : event.output.result = (solved.finish now none).2 := congrArg Prod.snd ends
  have nothing : ∀ target, event.output.result ≠ .ok (some target) := by
    intro target returned
    rw [result] at returned
    have none := (finish_spec _ now _).2 _ returned
    cases none
  have memory : event.after.memory = solved.memory := by
    rw [after]
    exact (finish_keepsMemory now none).memory
  have same : lastAccepted (event :: past) = lastAccepted past := by
    refine lastAccepted_cons_of_not (fun other returned => ?_) past
    cases Option.some.inj (solves.candidate.symm.trans returned)
    exact unusable
  refine ⟨?_, ⟨?_, ?_, ?_⟩⟩
  · rw [after]
    refine tracing_finish solves.ready (fun _ => solves.knows) ?_ solves.remembering
      (fun overflowed => absurd (overflowed.symm.trans solves.estimate) (by decide))
      solves.admitted now _
    rw [same]
    exact warm
  · exact fun target returned => absurd returned (nothing target)
  · intro rejected returned _
    refine ⟨nothing, fun older finite => ?_, fun older overflowed => ?_, fun nobody => ?_⟩
    · obtain ⟨measured, references, -, kept⟩ := later older
      rw [memory, kept]
      exact if_pos finite
    · obtain ⟨measured, references, question, kept⟩ := later older
      refine ⟨estimated older overflowed, measured, references, question, ?_⟩
      rw [memory, kept]
      exact if_neg (by rw [overflowed]; decide)
    · obtain ⟨measured, references, question, set⟩ := first nobody
      exact ⟨measured, references, question, memory.trans set⟩
  · intro given same
    cases Option.some.inj (solves.submitted.symm.trans same)
    exact solves.guessed _ (finish_keepsLock _ now _) after

/-- A call whose question reaches the library. -/
theorem traced_submitted (libraries : FiniteLibraries) (tracing : Tracing past backend)
    (finite : ∀ reference ∈ references, reference.allFinite = true)
    {question : UavNmpcTrackingBackend × Se3StateVector × List Se3Reference}
    (asked : backend.asked sensor references now = some question) {capsule : Capsule}
    (given : question.1.submitted question.2.1 question.2.2 = some capsule) :
    let event := computing.event backend ⟨library, sensor, references, now⟩
    Tracing (event :: past) event.after ∧ Untraced past event := by
  intro event
  obtain ⟨asks, measured, numbers⟩ := asked_spec libraries tracing.locked finite asked
  obtain ⟨remembering, estimate, later, first⟩ := asking_memory tracing asks
  obtain ⟨thrust, guesses, solver, initialized, bounds, warm, xGuess, uGuess, answer⟩ :=
    ask_submitted (asks.warm.ready tracing.ready) now given
  obtain ⟨output, after⟩ := report_submitted asked given
  change event.output = _ at output
  change event.after = _ at after
  have ends : (event.after, event.output.result) =
      question.1.ask question.2.1 question.2.2 now := by rw [after, output]
  have warmBefore : question.1.solver.haveWarmStart = true → ∃ last, lastAccepted past = some last ∧
      last.usable = true ∧ question.1.solver.xGuess.tail = last.2.1.tail ∧
      question.1.solver.uGuess = last.2.2 := by
    intro isWarm
    rw [asks.warm.xGuess, asks.warm.uGuess]
    exact tracing.warm (asks.warm.haveWarmStart.symm.trans isWarm)
  obtain ⟨keepsInitialized, keepsCapsule, keepsBounds⟩ := solver.runSolver_keeps capsule
  generalize answered : ({ question.1 with solver := (solver.runSolver capsule).1 } :
    UavNmpcTrackingBackend) = solved at answer
  have solvedSolver : solved.solver = (solver.runSolver capsule).1 := by rw [← answered]
  have kept : KeepsLock question.1 solved := by
    rw [← answered]
    exact ⟨rfl, rfl, rfl, rfl, keepsBounds.trans bounds⟩
  have locked : solved.inputBoundsLocked = true := kept.locked.trans asks.locked
  have memory : KeepsMemory question.1 solved := by
    rw [← answered]
    exact ⟨rfl, rfl, rfl, rfl⟩
  have solves : Solved past event capsule solved := by
    refine ⟨?_, kept.known (fun _ => asks.knows) locked, memory.remembering remembering,
      (congrArg Double.isFinite memory.estimate).trans estimate, ?_,
      congrArg ComputeReport.submitted output, congrArg ComputeReport.candidate output, ?_⟩
    · rw [solvedSolver]
      exact ⟨keepsInitialized.trans initialized, keepsCapsule⟩
    · rw [output]
      rfl
    · intro backend same ends
      have state : (UavNmpcSolver.packInternalState question.2.1
          question.1.thrustActualEstimate).allFinite = true :=
        Bool.and_eq_true_iff.mpr ⟨measured, thrust⟩
      have sameBounds : event.after.solver.bounds = question.1.solver.bounds := by
        rw [ends, same.bounds, kept.bounds]
      obtain ⟨states, inputs, traced⟩ :=
        guesses_traced libraries asks.knows warmBefore state numbers
      rw [← guesses] at states inputs traced
      refine ⟨states, inputs, _, _, congrArg ComputeReport.question output, ?_⟩
      refine traced.imp id fun ⟨fromStates, fromInputs, within⟩ => ⟨fromStates, ?_, ?_, ?_⟩
      · dsimp only at fromInputs
        rw [fromInputs]
        unfold UavNmpcSolver.clampInputGuess
        rw [sameBounds]
      · rw [ends, same.locked, locked]
      · rw [sameBounds]
        exact within
  rcases solver.runSolver_cases capsule with ⟨usable, success, control, states, inputs⟩ |
    ⟨unusable, failure, cold⟩
  · simp only [success, if_true] at answer
    rw [← solvedSolver] at answer control states inputs
    exact traced_accepted solves usable control states inputs (ends.trans answer)
  · simp only [failure, Bool.false_eq_true, if_false] at answer
    rw [← solvedSolver] at cold
    refine traced_rejected solves unusable (fun isWarm => ?_) tracing.estimated
      (fun older => ⟨_, _, congrArg ComputeReport.question output,
        memory.memory.trans (later older)⟩)
      (fun nobody => ⟨_, _, congrArg ComputeReport.question output,
        memory.memory.trans (first nobody)⟩) (ends.trans answer)
    rcases cold with cold | ⟨same, sameStates, sameInputs⟩
    · exact absurd (cold.symm.trans isWarm) (by decide)
    · have wasWarm := warm.symm.trans (same.symm.trans isWarm)
      obtain ⟨last, accepted, usable, tail, controls⟩ := warmBefore wasWarm
      have reused : (capsule.x, capsule.u) = (_ :: question.1.solver.xGuess.tail, _) :=
        guesses.trans (if_pos wasWarm)
      obtain ⟨reusedStates, reusedInputs⟩ := Prod.mk.inj reused
      refine ⟨last, accepted, usable, ?_, ?_⟩
      · rw [sameStates, xGuess, reusedStates]
        exact tail
      · rw [sameInputs, uGuess, reusedInputs]
        exact controls

end Cases

/-- One call of a session, whatever its library does. -/
theorem computeStep_traced (libraries : FiniteLibraries) {past : List ComputeEvent}
    {backend : UavNmpcTrackingBackend} (tracing : Tracing past backend) (call : ComputeCall)
    (finite : ∀ reference ∈ call.references, reference.allFinite = true) :
    Tracing (computing.event backend call :: past) (computing.event backend call).after ∧
      Untraced past (computing.event backend call) := by
  obtain ⟨library, sensor, references, now⟩ := call
  cases asked : backend.asked sensor references now with
  | none => exact traced_unasked tracing asked
  | some question =>
      cases given : question.1.submitted question.2.1 question.2.2 with
      | none => exact traced_unsubmitted libraries tracing finite asked given
      | some capsule => exact traced_submitted libraries tracing finite asked given

/-- In every session, whatever the library does in any of its calls, a target and the inputs
behind it are numbers; a rejected candidate leaves the target and, but for the first admitted
call and an estimate that overflowed, the memories alone; and the guesses of every solve are
numbers that come from the measured state, the references and the last accepted candidate. -/
theorem rejected_candidates_untraced (libraries : FiniteLibraries) {past : List ComputeEvent}
    {backend : UavNmpcTrackingBackend} (run : computing.Run Entered finiteHorizon past backend) :
    ∀ event older, event :: older <:+ past → Untraced older event :=
  run.invariant_history Tracing (fun _ entered => entered.tracing)
    fun _ _ call _ tracing finite => computeStep_traced libraries tracing call finite

end Calls

namespace FiniteMath

/-- Finite everywhere, and exact at a level attitude with zero yaw. -/
scoped instance : Libm where
  sqrt x := x
  hypot x _ _ := x
  sin x := x
  cos x := 1 - x * x / 2
  atan x := x
  atan2 y _ := y

scoped instance : LibmExp := ⟨fun x => if x.isFinite then 1 + x else 0⟩

end FiniteMath

section Adversary

open EchoSolver FiniteMath

theorem finiteLibraries : FiniteLibraries where
  sqrt x finite positive := by
    refine ⟨finite, fun zero => ?_⟩
    change x = 0 at zero
    rw [zero] at positive
    exact absurd positive (by decide)
  sin _ finite := finite
  cos x finite := by
    have half : (x * x / 2).isFinite = true :=
      Double.isFinite_div (Double.isFinite_mul.mpr ⟨finite, finite⟩) rfl (by decide)
    exact Double.isFinite_sub.mpr ⟨rfl, half⟩
  atan2 _ _ finite _ := finite
  quaternion _ _ := rfl
  packState state finite := by
    simp only [Control.Se3State.allFinite, Bool.and_eq_true] at finite
    simp [Se3Packing.packState, Se3StateVector.allFinite, finite]

/-- A library that is set up as any other, and solves as it likes. -/
abbrev solvingWith (solve : Capsule → Candidate) : Acados :=
  { create := true
    created := { bounds := ⟨{}, {}, {}, {}⟩ }
    setBounds := fun _ => true
    setInitialState := fun _ => true
    solve }

/-- A call of a level hover that asks for more thrust than gravity. -/
def climbingCall (solve : Capsule → Candidate) : ComputeCall :=
  { library := solvingWith solve
    sensor := hoveringRequest.sensor
    references := hoveringRequest.references.map ({ · with bodyZSpecificForce := 12 })
    now := hoveringRequest.now }

/-- The status of a failure, and candidates of numbers. -/
def failing (capsule : Capsule) : Candidate := (1, capsule.x, capsule.u)

/-- The status of a success, with an input of the last stage that is no number. -/
def corrupting (capsule : Capsule) : Candidate :=
  (0, capsule.x, capsule.u.dropLast ++ [{ thrust := .nan }])

def echoing (capsule : Capsule) : Candidate := (0, capsule.x, capsule.u)

/-- A success with this thrust in every stage. -/
def commanding (thrust : Double) (capsule : Capsule) : Candidate :=
  (0, capsule.x, capsule.u.map ({ · with thrust }))

def hovering : UavNmpcTrackingBackend :=
  letI := solvingWith failing
  ({ config := hoveringRequest.config } : UavNmpcTrackingBackend).enter.1

theorem hovering_entered : Entered hovering :=
  letI := solvingWith failing
  have enters : ({ config := hoveringRequest.config } : UavNmpcTrackingBackend).enter.2 = true := by
    decide +kernel
  ⟨_, { config := hoveringRequest.config }, (fun on => by cases on), Prod.ext rfl enters⟩

def adversaryCalls : List ComputeCall :=
  [climbingCall failing, climbingCall echoing, climbingCall corrupting,
    climbingCall (commanding 1.79e308), climbingCall (commanding (-1.79e308)),
    climbingCall failing]

theorem rejected_candidates_untraced_adversary :
    (computing.replay [] hovering adversaryCalls).1.map
        (fun event => event.output.candidate.map Candidate.usable) =
      [some false, some true, some true, some false, some true, some false] ∧
    ∀ event older, event :: older <:+ (computing.replay [] hovering adversaryCalls).1 →
      Untraced older event :=
  ⟨by decide +kernel, rejected_candidates_untraced finiteLibraries
    (Machine.Run.replay (.start hovering_entered) adversaryCalls (by decide +kernel))⟩

/-- The session after two accepted commands. -/
def overflowed : UavNmpcTrackingBackend :=
  computing.final hovering
    [climbingCall (commanding 1.79e308), climbingCall (commanding (-1.79e308))]

/-- Two rejected candidates with a trace. The first admitted call sets the memories from its
reference. And two accepted commands at both ends of the format make the estimate overflow, which
the next call replaces. -/
theorem rejected_candidate_sets_memory :
    Entered hovering ∧
      (∀ call ∈ [climbingCall failing, climbingCall (commanding 1.79e308),
        climbingCall (commanding (-1.79e308))], finiteHorizon [] hovering call) ∧
      (computing.event hovering (climbingCall failing)).output.candidate.map Candidate.usable =
        some false ∧
      (computing.event hovering (climbingCall failing)).before.memory = ⟨9.8066, 9.8066, {}⟩ ∧
      (computing.event hovering (climbingCall failing)).after.memory = ⟨12, 12, {}⟩ ∧
      (computing.event overflowed (climbingCall failing)).output.candidate.map Candidate.usable =
        some false ∧
      (computing.event overflowed (climbingCall failing)).before.memory =
        ⟨.inf true, -1.79e308, {}⟩ ∧
      (computing.event overflowed (climbingCall failing)).after.memory = ⟨12, -1.79e308, {}⟩ := by
  refine ⟨hovering_entered, ?_⟩
  decide +kernel

end Adversary

end MultirotorController
