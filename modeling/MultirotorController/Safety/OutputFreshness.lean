import MultirotorController.Safety.ResultIdentity

/-!
# Age of NMPC outputs

A success is taken while its request is younger than `resultTimeout`; from then on
its target may be repeated for another `resultTimeout`, counted from the moment it
was taken. An output is therefore at most twice that old, and it can be older than
once.
-/

namespace MultirotorController

section Age

variable [Xgc2Math] [Libm]

/-- The dispatcher's environment on a clock that never runs backwards. -/
def nmpcClock :
    Machine.Restriction NmpcSystem NmpcInput (Except RuntimeError Unit) :=
  fun past system input => nmpcEnvironment past system input ∧
    match input with
    | .turn turn => system.runtime.controller.currentTime ≤ turn.now.toSec
    | _ => True

variable {past : List NmpcEvent} {system : NmpcSystem}

/-- Every update so far ran at a time that has passed. -/
def Elapsed (past : List NmpcEvent) (system : NmpcSystem) : Prop :=
  ∀ event ∈ past, ∀ turn, event.input = .turn turn →
    turn.now.toSec ≤ system.runtime.controller.currentTime

omit [Xgc2Math] [Libm] in
/-- A result that was fresh at the time of an update was stamped at most `resultTimeout`
before it. -/
theorem FreshAt.age {config : ControllerConfig} {time : Time} {result : NmpcSolveResult}
    (fresh : FreshAt config time.toSec result) (positive : 0 < config.nmpc.resultTimeout) :
    result.stamp.toSec ≤ time.toSec ∧
      time.toSec - result.stamp.toSec ≤ config.nmpc.resultTimeout := by
  obtain ⟨now, clock, fresh⟩ := fresh
  have same := Time.toSec_fromSec clock
  rw [← same]
  exact NmpcResultBuffer.fresh_spec fresh positive

theorem Elapsed.step (elapsed : Elapsed past system) {input : NmpcInput}
    (allowed : nmpcClock past system input) :
    Elapsed (nmpcMachine.event system input :: past) (nmpcMachine.step system input).1 := by
  have clock := system.step_currentTime input
  intro event member turn same
  change turn.now.toSec ≤ (system.step input).1.runtime.controller.currentTime
  rw [clock]
  rcases List.mem_cons.mp member with rfl | older
  · change input = .turn turn at same
    subst same
    exact Double.le_refl_of_isFinite turn.now.toSec_isFinite
  · have passed := elapsed event older turn same
    cases input with
    | turn next => exact Double.le_trans passed allowed.2
    | _ => exact passed

/-- How old a target is when it is published: the request of a success is at most
`resultTimeout` old, and a repeated success was taken at most `resultTimeout` ago. -/
structure OutputAge (older : List NmpcEvent) (event : NmpcEvent) (now timeout : Double)
    (result : NmpcSolveResult) : Prop where
  stamped : result.stamp.toSec ≤ now
  age : now - result.stamp.toSec ≤ timeout + timeout
  taken : takenBy event ≠ none → now - result.stamp.toSec ≤ timeout
  repeated : takenBy event = none → ∃ time, TakenIn (session older) time result ∧ time ≤ now ∧
    now - time ≤ timeout ∧ result.stamp.toSec ≤ time ∧ time - result.stamp.toSec ≤ timeout

theorem Source.outputAge {older : List NmpcEvent} {event : NmpcEvent} {turn : Turn}
    {result : NmpcSolveResult} (source : Source older event turn.now.toSec result)
    (passed : ∀ earlier ∈ older, ∀ other, earlier.input = .turn other →
      other.now.toSec ≤ turn.now.toSec)
    (positive : 0 < event.before.runtime.controller.config.nmpc.resultTimeout) :
    OutputAge older event turn.now.toSec
      event.before.runtime.controller.config.nmpc.resultTimeout result := by
  cases source with
  | taken took fresh =>
      obtain ⟨stamped, age⟩ := fresh.age positive
      refine ⟨stamped, ?_, fun _ => age, fun nothing => ?_⟩
      · refine Double.fin_sub_le_add age ?_
        rw [Double.fin_sub_fin, sub_self]
        exact Double.le_of_lt positive
      · cases took.symm.trans nothing
  | repeated time nothing takenIn fresh recent =>
      obtain ⟨earlier, member, other, input, took, rfl⟩ := takenIn
      obtain ⟨stamped, age⟩ := fresh.age positive
      have before := passed earlier ((List.takeWhile_prefix _).subset member) other input
      refine ⟨Double.le_trans stamped before, Double.fin_sub_le_add recent age, ?_, fun _ => ?_⟩
      · exact fun some_ => (some_ nothing).elim
      · exact ⟨_, ⟨earlier, member, other, input, took, rfl⟩, before, recent, stamped, age⟩

/-- Every attitude of Custom1 under NMPC carries the answer to a request of the session that
is at most `resultTimeout` old when it is taken, and that was taken at most `resultTimeout`
ago. -/
theorem nmpc_output_age (run : nmpcMachine.Run NmpcSystem.Started nmpcClock past system) :
    ∀ event older, event :: older <:+ past → ∀ turn, event.input = .turn turn →
      event.before.runtime.controller.backend = .nmpc →
      0 < event.before.runtime.controller.config.nmpc.resultTimeout →
      ∀ effect ∈ event.after.runtime.controller.flightEffects, effect.isAttitude = true →
        ∃ result, SolvedIn (session older) result ∧
          event.after.runtime.controller.attitudeRateTarget = result.target ∧
          OutputAge older event turn.now.toSec
            event.before.runtime.controller.config.nmpc.resultTimeout result := by
  refine run.invariant_history
    (fun past system => Coherent past system ∧ Elapsed past system)
    (fun _ started => ⟨.start started, by simp [Elapsed]⟩) ?_
  intro past state input _ ⟨coherent, elapsed⟩ allowed
  obtain ⟨next, plain⟩ := coherent.step input allowed.1
  refine ⟨⟨next, elapsed.step allowed⟩, ?_⟩
  intro turn same nmpc positive effect emitted attitude
  have began : Coherent past (nmpcMachine.event state input).before := coherent
  obtain ⟨-, result, solved, target, source⟩ :=
    began.source (plain turn same) nmpc emitted attitude
  refine ⟨result, solved, target, source.outputAge ?_ positive⟩
  intro earlier member other before
  have after := elapsed.step allowed earlier (List.mem_cons_of_mem _ member) other before
  rw [show (nmpcMachine.step state input).1.runtime.controller.currentTime = _ from
    state.step_currentTime input] at after
  change input = .turn turn at same
  subst same
  exact after

end Age

section Repeated

open ExactMath

instance (past : List NmpcEvent) (system : NmpcSystem) :
    ∀ input, Decidable (nmpcClock past system input)
  | .turn _ => inferInstanceAs (Decidable (_ ∧ _))
  | .handle _ _ => inferInstanceAs (Decidable (_ ∧ True))
  | .solve _ => inferInstanceAs (Decidable (_ ∧ True))
  | .commit => inferInstanceAs (Decidable (_ ∧ True))
  | .stop => inferInstanceAs (Decidable (_ ∧ True))

/-- The answer is taken after 20 ms, and the next request is rejected at once. -/
def rejectedInputs : List NmpcInput :=
  answeredInputs ++ [.turn takingTurn, .handle ⟨8, 20000000⟩ false]

/-- 110 ms after the request that was answered. -/
def repeatingTurn : Turn := { sensor := armedSensor, now := ⟨8, 110000000⟩ }

/-- Whatever the worker has answered was requested at the given time. -/
def NmpcWorker.answeredAt (stamp : Time) : NmpcWorker → Bool
  | .solved result => result.stamp = stamp
  | _ => true

/-- The repeated target is published with an age between one and two timeouts. -/
theorem nmpc_output_age_repeated :
    let rejected := nmpcMachine.replay [] nmpcStart rejectedInputs
    let event := nmpcMachine.event rejected.2 (.turn repeatingTurn)
    ∃ result, SolvedIn (session rejected.1) result ∧
      OutputAge rejected.1 event repeatingTurn.now.toSec 0.1 result := by
  intro rejected event
  have start : nmpcMachine.Run NmpcSystem.Started nmpcClock [] nmpcStart :=
    .start nmpcStart_started
  have run := (start.replay rejectedInputs (by decide +kernel)).step (.turn repeatingTurn)
    (by decide +kernel)
  obtain ⟨result, solved, -, age⟩ := nmpc_output_age run event rejected.1 List.suffix_rfl
    repeatingTurn rfl (by decide +kernel) (by decide +kernel) (.attitude 8.11)
    (by decide +kernel) rfl
  have timeout : event.before.runtime.controller.config.nmpc.resultTimeout = 0.1 := by
    decide +kernel
  rw [timeout] at age
  exact ⟨result, solved, age⟩

/-- With the default timeout of 100 ms, an attitude carries the answer to a request that is
110 ms old. -/
theorem nmpc_output_older_than_timeout :
    let rejected := nmpcMachine.replay [] nmpcStart rejectedInputs
    let event := nmpcMachine.event rejected.2 (.turn repeatingTurn)
    nmpcMachine.Run NmpcSystem.Started nmpcClock (event :: rejected.1) event.after ∧
      event.before.runtime.controller.backend = .nmpc ∧
      event.before.runtime.controller.config.nmpc.resultTimeout = 0.1 ∧
      .attitude repeatingTurn.now.toSec ∈ event.after.runtime.controller.flightEffects ∧
      ¬ ∃ result, SolvedIn rejected.1 result ∧
        event.after.runtime.controller.attitudeRateTarget = result.target ∧
        repeatingTurn.now.toSec - result.stamp.toSec ≤ 0.1 := by
  intro rejected event
  have start : nmpcMachine.Run NmpcSystem.Started nmpcClock [] nmpcStart :=
    .start nmpcStart_started
  have run := (start.replay rejectedInputs (by decide +kernel)).extend (.turn repeatingTurn)
    (by decide +kernel)
  refine ⟨run, by decide +kernel, by decide +kernel, by decide +kernel, ?_⟩
  rintro ⟨result, ⟨answered, member, request, outcome, -, -, solved, -⟩, -, age⟩
  have stamps : rejected.1.all (fun event => event.after.worker.answeredAt ⟨8, 0⟩) = true := by
    decide +kernel
  have stamp := List.all_eq_true.mp stamps answered member
  rw [solved, NmpcWorker.answeredAt, decide_eq_true_eq] at stamp
  rw [stamp] at age
  exact absurd age (by decide +kernel)

end Repeated

end MultirotorController
