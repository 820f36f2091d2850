import MultirotorController.Control.ExactMath
import MultirotorController.Driver.NmpcExecution
import MultirotorController.Safety.Environment
import MultirotorController.Uav.FlightTracking

/-!
# Identity of NMPC results

A session is the part of a run that is spent in Custom1 without a break. A target
that a session publishes is the answer of the solver to a request of that session,
however updates, completions, rejections, exits and re-entries interleave.
-/

namespace MultirotorController

open Custom1State

section Dispatcher

variable [Xgc2Math]

def NmpcSystem.inCustom1 (system : NmpcSystem) : Bool := system.runtime.flightState = .custom1

section Session

/-- The events since the present session was entered, newest first. -/
def session (past : List NmpcEvent) : List NmpcEvent :=
  past.takeWhile fun event => event.before.inCustom1

/-- How many generations had been opened when the present session was entered. -/
def openedBefore (past : List NmpcEvent) : Nat :=
  match past.dropWhile fun event => event.before.inCustom1 with
  | entry :: _ => entry.before.buffer.generationCounter
  | [] => 0

/-- The sequence of the newest request that the events dispatched. -/
def latestDispatched : List NmpcEvent → Option Nat
  | [] => none
  | event :: older =>
      match event.input with
      | .turn _ =>
          latestRequest event.after.runtime.controller.flightEffects (latestDispatched older)
      | _ => latestDispatched older

/-- The result is the solver's successful answer to a request, given during the events. -/
def SolvedIn (events : List NmpcEvent) (result : NmpcSolveResult) : Prop :=
  ∃ event ∈ events, ∃ request outcome, event.before.worker = .solving request ∧
    event.input = .solve outcome ∧ event.after.worker = .solved result ∧
    result = request.answer outcome ∧ result.success = true

variable {past : List NmpcEvent} {event : NmpcEvent} {result : NmpcSolveResult}

theorem SolvedIn.cons (solved : SolvedIn past result) : SolvedIn (event :: past) result := by
  obtain ⟨answered, member, rest⟩ := solved
  exact ⟨answered, List.mem_cons_of_mem _ member, rest⟩

theorem session_cons_of_custom1 (tracking : event.before.inCustom1 = true) :
    session (event :: past) = event :: session past :=
  List.takeWhile_cons_of_pos tracking

theorem session_cons_of_other (elsewhere : event.before.inCustom1 = false) :
    session (event :: past) = [] :=
  List.takeWhile_cons_of_neg (by simp [elsewhere])

theorem openedBefore_cons_of_custom1 (tracking : event.before.inCustom1 = true) :
    openedBefore (event :: past) = openedBefore past := by
  simp [openedBefore, tracking]

theorem openedBefore_cons_of_other (elsewhere : event.before.inCustom1 = false) :
    openedBefore (event :: past) = event.before.buffer.generationCounter := by
  simp [openedBefore, elsewhere]

end Session

variable [Libm]

/-- Results reach the buffer through the dispatcher alone, and off the ground the
configuration is fixed. -/
def nmpcEnvironment :
    Machine.Restriction NmpcSystem NmpcInput (Except RuntimeError Unit) := fun _ system input =>
  match input with
  | .turn turn =>
      (turn.inputs.all fun received => !received.isNmpcResult) ∧
        (system.runtime.onTheGround = false →
          (system.runtime.prepare turn).controller.config = system.runtime.controller.config)
  | _ => True

instance (past : List NmpcEvent) (system : NmpcSystem) :
    ∀ input, Decidable (nmpcEnvironment past system input)
  | .turn _ => inferInstanceAs (Decidable (_ ∧ (_ → _)))
  | .handle _ _ => .isTrue trivial
  | .solve _ => .isTrue trivial
  | .commit => .isTrue trivial
  | .stop => .isTrue trivial

section Invariant

/-- The result that an update takes and publishes as a success. -/
def FlightRuntime.takenSuccess (runtime : FlightRuntime) (turn : Turn) : Option NmpcSolveResult :=
  match runtime.leaf with
  | .custom1 leaf => Custom1State.takenSuccess (runtime.tickScope turn leaf)
  | _ => none

/-- The result that an event takes as a success. -/
def takenBy (event : NmpcEvent) : Option NmpcSolveResult :=
  match event.input with
  | .turn turn => event.before.runtime.takenSuccess turn
  | _ => none

/-- Some update took the result as a success, at the given time. -/
def TakenIn (events : List NmpcEvent) (time : Double) (result : NmpcSolveResult) : Prop :=
  ∃ event ∈ events, ∃ turn, event.input = .turn turn ∧ takenBy event = some result ∧
    turn.now.toSec = time

/-- The stamp of the result passes the test of Custom1 at the given time. -/
def FreshAt (config : ControllerConfig) (time : Double) (result : NmpcSolveResult) : Prop :=
  ∃ now, Time.fromSec time = .ok now ∧
    NmpcResultBuffer.isResultTimestampFresh result.stamp now config.nmpc.resultTimeout = true

/-- What is known of Custom1 between two turns: its session is identified, nothing that was
taken is newer than what it has consumed, and the target that it may repeat was taken from
the solver in this session. -/
structure Tracking (past : List NmpcEvent) (system : NmpcSystem) (leaf : Custom1State) :
    Prop where
  identified : Identified (openedBefore past) 0 (latestDispatched (session past))
    (SolvedIn (session past)) ⟨{ system.runtime.controller with flightEffects := [] }, leaf⟩
  taken : ∀ event ∈ past, ∀ result, takenBy event = some result →
    result.sequence ≤ leaf.consumedResultSequence
  target : system.runtime.controller.backend = .nmpc → 0 < leaf.lastSuccessTime →
    ∃ result, SolvedIn (session past) result ∧
      TakenIn (session past) leaf.lastSuccessTime result ∧
      FreshAt system.runtime.controller.config leaf.lastSuccessTime result ∧
      system.runtime.controller.attitudeRateTarget = result.target

/-- The invariant of the whole system: no generation is open outside Custom1, and the worker
has no answer of a generation that is yet to be opened. -/
structure Coherent (past : List NmpcEvent) (system : NmpcSystem) : Prop where
  solving : ∀ request, system.worker = .solving request →
    request.generation ≤ system.buffer.generationCounter
  solved : ∀ result, system.worker = .solved result →
    result.controlGeneration ≤ system.buffer.generationCounter
  answered : ∀ result, system.worker = .solved result → result.success = true →
    system.inCustom1 = true → openedBefore past < result.controlGeneration →
    SolvedIn (session past) result
  outside : system.inCustom1 = false → system.buffer.activeGeneration = 0
  taken : ∀ event ∈ past, ∀ result, takenBy event = some result →
    result.sequence ≤ system.buffer.requestCounter
  tracking : ∀ leaf, system.runtime.leaf = .custom1 leaf → Tracking past system leaf

variable {past : List NmpcEvent} {system : NmpcSystem}

omit [Libm] in
theorem inCustom1_of_leaf {leaf : Custom1State} (tracking : system.runtime.leaf = .custom1 leaf) :
    system.inCustom1 = true := by
  simp [NmpcSystem.inCustom1, FlightRuntime.flightState, tracking, FlightLeaf.flightState]

omit [Libm] in
theorem leaf_of_inCustom1 (tracking : system.inCustom1 = true) :
    ∃ leaf, system.runtime.leaf = .custom1 leaf := by
  cases leaf : system.runtime.leaf <;>
    simp_all [NmpcSystem.inCustom1, FlightRuntime.flightState, FlightLeaf.flightState]

theorem Coherent.start (started : system.Started) : Coherent [] system := by
  obtain ⟨⟨config, runtime⟩, worker, -⟩ := started
  have elsewhere : system.inCustom1 = false := by
    rw [NmpcSystem.inCustom1, runtime]
    rfl
  constructor
  · simp [worker]
  · simp [worker]
  · simp [worker]
  · intro _
    rw [NmpcSystem.buffer, runtime]
    rfl
  · simp
  · intro leaf tracking
    rw [inCustom1_of_leaf tracking] at elsewhere
    cases elsewhere

variable {event : NmpcEvent}

omit [Libm] in
theorem latestDispatched_cons_quiet (notTurn : ∀ turn, event.input ≠ .turn turn) :
    latestDispatched (event :: past) = latestDispatched past := by
  unfold latestDispatched
  split
  next turn same => exact (notTurn turn same).elim
  next => cases past <;> rfl

theorem takenBy_quiet (notTurn : ∀ turn, event.input ≠ .turn turn) : takenBy event = none := by
  unfold takenBy
  split
  next turn same => exact (notTurn turn same).elim
  next => rfl

/-- A step other than a turn keeps the invariant, if the worker's answer is one of this
session and whatever it stored is known. -/
theorem Coherent.quiet (coherent : Coherent past event.before)
    (notTurn : ∀ turn, event.input ≠ .turn turn)
    (quiet : NmpcSystem.Quiet event.before event.after)
    (solving : ∀ request, event.after.worker = .solving request →
      request.generation ≤ event.before.buffer.generationCounter)
    (solved : ∀ result, event.after.worker = .solved result →
      result.controlGeneration ≤ event.before.buffer.generationCounter)
    (answered : ∀ result, event.after.worker = .solved result → result.success = true →
      event.before.inCustom1 = true → openedBefore past < result.controlGeneration →
      SolvedIn (event :: session past) result)
    (identified : ∀ leaf, event.before.runtime.leaf = .custom1 leaf →
      Identified (openedBefore past) 0 (latestDispatched (session past)) (SolvedIn (session past))
        ⟨{ event.after.runtime.controller with flightEffects := [] }, leaf⟩) :
    Coherent (event :: past) event.after := by
  have same : event.after.inCustom1 = event.before.inCustom1 := by
    unfold NmpcSystem.inCustom1 FlightRuntime.flightState
    rw [quiet.leaf]
  constructor
  · intro request running
    rw [quiet.generations]
    exact solving request running
  · intro result finished
    rw [quiet.generations]
    exact solved result finished
  · intro result finished success tracking newer
    rw [same] at tracking
    rw [openedBefore_cons_of_custom1 tracking] at newer
    rw [session_cons_of_custom1 tracking]
    exact answered result finished success tracking newer
  · intro elsewhere
    exact quiet.closed (coherent.outside (same ▸ elsewhere))
  · intro earlier member result taken
    rw [quiet.requests]
    rcases List.mem_cons.mp member with rfl | older
    · cases (takenBy_quiet notTurn).symm.trans taken
    · exact coherent.taken earlier older result taken
  · intro leaf tracking
    rw [quiet.leaf] at tracking
    have inside := inCustom1_of_leaf tracking
    have before := coherent.tracking leaf tracking
    constructor
    · rw [session_cons_of_custom1 inside, openedBefore_cons_of_custom1 inside,
        latestDispatched_cons_quiet notTurn]
      exact (identified leaf tracking).mono fun _ => SolvedIn.cons
    · intro earlier member result taken
      rcases List.mem_cons.mp member with rfl | older
      · cases (takenBy_quiet notTurn).symm.trans taken
      · exact before.taken earlier older result taken
    · rw [quiet.controller, session_cons_of_custom1 inside]
      intro nmpc succeeded
      obtain ⟨result, solvedIn, ⟨earlier, member, taken⟩, fresh, target⟩ :=
        before.target nmpc succeeded
      exact ⟨result, solvedIn.cons, ⟨earlier, List.mem_cons_of_mem _ member, taken⟩, fresh, target⟩

/-- The buffer's generation belongs to the session. -/
theorem Coherent.generation_of_active (coherent : Coherent past system) {generation : Nat}
    (active : system.buffer.isGenerationActive generation = true) :
    ∃ leaf, system.runtime.leaf = .custom1 leaf ∧ generation = leaf.controlGeneration ∧
      openedBefore past < generation ∧ generation ≤ system.buffer.generationCounter := by
  simp only [NmpcResultBuffer.isGenerationActive, decide_eq_true_eq] at active
  obtain ⟨positive, rfl⟩ := active
  cases inside : system.inCustom1 with
  | false => exact (positive (coherent.outside inside)).elim
  | true =>
      obtain ⟨leaf, tracking⟩ := leaf_of_inCustom1 inside
      have identified := (coherent.tracking leaf tracking).identified
      have same : system.buffer.activeGeneration = leaf.controlGeneration :=
        identified.active.resolve_left positive
      rw [same]
      exact ⟨leaf, tracking, rfl, identified.opened, identified.counted⟩

/-- A step that leaves the worker alone and stores at most a rejection. -/
theorem Coherent.idle_worker (coherent : Coherent past event.before)
    (notTurn : ∀ turn, event.input ≠ .turn turn)
    (quiet : NmpcSystem.Quiet event.before event.after)
    (worker : event.after.worker = event.before.worker)
    (identified : ∀ leaf, event.before.runtime.leaf = .custom1 leaf →
      Identified (openedBefore past) 0 (latestDispatched (session past)) (SolvedIn (session past))
        ⟨{ event.after.runtime.controller with flightEffects := [] }, leaf⟩) :
    Coherent (event :: past) event.after := by
  refine coherent.quiet notTurn quiet ?_ ?_ ?_ identified
  · rw [worker]
    exact coherent.solving
  · rw [worker]
    exact coherent.solved
  · rw [worker]
    intro result finished success tracking newer
    exact (coherent.answered result finished success tracking newer).cons

/-- A step that changes nothing, or that only drops a waiting request. -/
theorem Coherent.unchanged (coherent : Coherent past event.before)
    (notTurn : ∀ turn, event.input ≠ .turn turn)
    (runtime : event.after.runtime = event.before.runtime)
    (worker : event.after.worker = event.before.worker) : Coherent (event :: past) event.after := by
  refine coherent.idle_worker notTurn (.of_runtime runtime) worker ?_
  intro leaf tracking
  rw [runtime]
  exact (coherent.tracking leaf tracking).identified

/-- A stored answer has to be known when it is a success. -/
theorem Coherent.stored (coherent : Coherent past event.before)
    (notTurn : ∀ turn, event.input ≠ .turn turn) (result : NmpcSolveResult)
    (runtime : event.after.runtime = (event.before.withController
      (NmpcExecution.storeResult event.before.runtime.controller result)).runtime)
    (known : result.success = true → event.before.inCustom1 = true →
      openedBefore past < result.controlGeneration → SolvedIn (session past) result)
    (worker : event.after.worker = event.before.worker ∨ event.after.worker = .idle) :
    Coherent (event :: past) event.after := by
  have identified : ∀ leaf, event.before.runtime.leaf = .custom1 leaf →
      Identified (openedBefore past) 0 (latestDispatched (session past)) (SolvedIn (session past))
        ⟨{ event.after.runtime.controller with flightEffects := [] }, leaf⟩ := by
    intro leaf tracking
    have before := (coherent.tracking leaf tracking).identified
    rw [runtime]
    refine before.store result ?_
    intro generation success
    refine known success (inCustom1_of_leaf tracking) ?_
    rw [generation]
    exact before.opened
  have quiet := NmpcSystem.Quiet.storeResult event.before result runtime
  rcases worker with worker | idle
  · exact coherent.idle_worker notTurn quiet worker identified
  · refine coherent.quiet notTurn quiet ?_ ?_ ?_ identified <;> simp [idle]

theorem Coherent.handle (coherent : Coherent past event.before) {clock : Time} {accepts : Bool}
    (input : event.input = .handle clock accepts)
    (after : event.after = (event.before.handleNext clock accepts).1) :
    Coherent (event :: past) event.after := by
  have notTurn : ∀ turn, event.input ≠ .turn turn := by simp [input]
  unfold NmpcSystem.handleNext at after
  split at after
  · exact coherent.unchanged notTurn (by rw [after]) (by rw [after])
  next effect waiting _ =>
    split at after
    next controller worker handled =>
      rcases NmpcExecution.handle_cases handled with
        ⟨sameWorker, same | ⟨result, failed, rejected⟩⟩ | ⟨same, request, running, active⟩
      · refine coherent.unchanged notTurn ?_ ?_
        · rw [after, same]
          rfl
        · rw [after]
          exact sameWorker
      · refine coherent.stored notTurn result ?_ ?_ (.inl ?_)
        · rw [after, rejected]
        · simp [failed]
        · rw [after]
          exact sameWorker
      · obtain ⟨leaf, tracking, -, -, counted⟩ := coherent.generation_of_active active
        have runtime : event.after.runtime = event.before.runtime := by
          rw [after, same]
          rfl
        have worker : event.after.worker = .solving request := by
          rw [after]
          exact running
        refine coherent.quiet notTurn (.of_runtime runtime) ?_ ?_ ?_ ?_
        · rw [worker]
          rintro other ⟨⟩
          exact counted
        · simp [worker]
        · simp [worker]
        · intro leaf tracking
          rw [runtime]
          exact (coherent.tracking leaf tracking).identified
    next error _ => exact coherent.unchanged notTurn (by rw [after]) (by rw [after])

theorem Coherent.solve (coherent : Coherent past event.before) {outcome : NmpcSolveResult}
    (input : event.input = .solve outcome) (after : event.after = event.before.solve outcome) :
    Coherent (event :: past) event.after := by
  have notTurn : ∀ turn, event.input ≠ .turn turn := by simp [input]
  unfold NmpcSystem.solve at after
  split at after
  next request running =>
    have runtime : event.after.runtime = event.before.runtime := by rw [after]
    have worker : event.after.worker =
        .solved (NmpcExecution.solve event.before.runtime.controller request outcome) := by
      rw [after]
    refine coherent.quiet notTurn (.of_runtime runtime) (by simp [worker]) ?_ ?_ ?_
    · rw [worker]
      rintro result ⟨⟩
      have bounded := coherent.solving request running
      unfold NmpcExecution.solve
      split <;> exact bounded
    · rintro result finished success - -
      have same := NmpcWorker.solved.inj (worker.symm.trans finished)
      unfold NmpcExecution.solve at same
      split at same
      · exact ⟨event, List.mem_cons_self, request, outcome, running, input, finished, same.symm,
          success⟩
      · rw [← same] at success
        cases success
    · intro leaf tracking
      rw [runtime]
      exact (coherent.tracking leaf tracking).identified
  next => exact coherent.unchanged notTurn (by rw [after]) (by rw [after])

theorem Coherent.commit (coherent : Coherent past event.before) (input : event.input = .commit)
    (after : event.after = event.before.commit) : Coherent (event :: past) event.after := by
  have notTurn : ∀ turn, event.input ≠ .turn turn := by simp [input]
  unfold NmpcSystem.commit at after
  split at after
  next result finished =>
    exact coherent.stored notTurn result (by rw [after]) (coherent.answered result finished)
      (.inr (by rw [after]))
  next => exact coherent.unchanged notTurn (by rw [after]) (by rw [after])

theorem Coherent.stop (coherent : Coherent past event.before) (input : event.input = .stop)
    (after : event.after = event.before.stop) : Coherent (event :: past) event.after := by
  have notTurn : ∀ turn, event.input ≠ .turn turn := by simp [input]
  have quiet : NmpcSystem.Quiet event.before event.after := after ▸ event.before.stop_quiet
  refine coherent.idle_worker notTurn quiet (by rw [after]; rfl) ?_
  intro leaf tracking
  rw [after]
  exact (coherent.tracking leaf tracking).identified.invalidate

end Invariant

section Turn

variable {past : List NmpcEvent} {event : NmpcEvent} {turn : Turn} {leaf : Custom1State}

theorem takenBy_turn (input : event.input = .turn turn)
    (tracking : event.before.runtime.leaf = .custom1 leaf) :
    takenBy event = Custom1State.takenSuccess (event.before.runtime.tickScope turn leaf) := by
  simp [takenBy, input, FlightRuntime.takenSuccess, tracking]

theorem takenBy_other (elsewhere : event.before.inCustom1 = false) : takenBy event = none := by
  unfold takenBy
  split
  · unfold FlightRuntime.takenSuccess
    split
    next leaf tracking =>
      rw [inCustom1_of_leaf tracking] at elsewhere
      cases elsewhere
    next => rfl
  next => rfl

omit [Libm] in
theorem latestDispatched_turn (input : event.input = .turn turn) :
    latestDispatched (event :: past) =
      latestRequest event.after.runtime.controller.flightEffects (latestDispatched past) := by
  rw [latestDispatched, input]

/-- A turn as the restriction on the environment allows it. -/
structure PlainTurn (event : NmpcEvent) (turn : Turn) : Prop where
  input : event.input = .turn turn
  own : turn.inputs.all fun received => !received.isNmpcResult
  fixed : event.before.runtime.onTheGround = false →
    (event.before.runtime.prepare turn).controller.config = event.before.runtime.controller.config
  after : event.after.runtime = (event.before.runtime.turn turn).1
  worker : event.after.worker = event.before.worker

omit [Libm] in
theorem flightState_of_other (elsewhere : event.before.inCustom1 = false) :
    event.before.runtime.flightState ≠ .custom1 := by
  simpa [NmpcSystem.inCustom1] using elsewhere

/-- The configuration is fixed within a session. -/
theorem PlainTurn.fixed_custom1 (plain : PlainTurn event turn)
    (tracking : event.before.runtime.leaf = .custom1 leaf) :
    (event.before.runtime.prepare turn).controller.config =
      event.before.runtime.controller.config := by
  refine plain.fixed ?_
  simp [FlightRuntime.onTheGround, FlightRuntime.flightState, tracking, FlightLeaf.flightState]

theorem PlainTurn.config (plain : PlainTurn event turn)
    (tracking : event.before.runtime.leaf = .custom1 leaf) :
    (event.before.runtime.tickScope turn leaf).controller.config =
      event.before.runtime.controller.config :=
  (event.before.runtime.tickScope_spec turn leaf).2.2.1.trans (plain.fixed_custom1 tracking)

theorem PlainTurn.backend (plain : PlainTurn event turn)
    (tracking : event.before.runtime.leaf = .custom1 leaf)
    (nmpc : event.before.runtime.controller.backend = .nmpc) :
    (event.before.runtime.tickScope turn leaf).controller.backend = .nmpc := by
  rw [DroneController.backend, plain.config tracking]
  exact nmpc

/-- The tick starts with the target that the turn before it left. -/
theorem tickScope_target :
    (event.before.runtime.tickScope turn leaf).controller.attitudeRateTarget =
    event.before.runtime.controller.attitudeRateTarget :=
  (event.before.runtime.tickScope_spec turn leaf).1.attitudeRateTarget.trans
    (event.before.runtime.prepare_received turn).attitudeRateTarget

/-- The tick of a session starts and ends identified. -/
theorem Coherent.tick (coherent : Coherent past event.before) (plain : PlainTurn event turn)
    (tracking : event.before.runtime.leaf = .custom1 leaf) :
    Identified (openedBefore past) leaf.consumedResultSequence (latestDispatched (session past))
        (SolvedIn (session past)) (event.before.runtime.tickScope turn leaf) ∧
      ∃ ticked, TickOutcome (event.before.runtime.tickScope turn leaf) ticked ∧
        FlightRuntime.CustomTurn ticked event.after.runtime ∧
        Identified (openedBefore past) leaf.consumedResultSequence
          (latestDispatched (session past)) (SolvedIn (session past)) ticked := by
  obtain ⟨kept, effects, -, -⟩ := event.before.runtime.tickScope_spec turn leaf
  have results := kept.nmpcResultBuffer.trans
    (event.before.runtime.prepare_results turn plain.own)
  have starts : Identified (openedBefore past) leaf.consumedResultSequence
      (latestDispatched (session past)) (SolvedIn (session past))
      (event.before.runtime.tickScope turn leaf) :=
    ((coherent.tracking leaf tracking).identified.raise).congr results
      (by rw [effects]) rfl rfl rfl
  obtain ⟨ticked, outcome, ended⟩ :=
    FlightRuntime.turn_custom1 turn tracking (wp_onTick starts)
  rw [← plain.after] at ended
  exact ⟨starts, ticked, outcome, ended, Acts.keepsIdentified outcome.acts starts⟩

/-- Whatever was taken until now is no newer than what the tick has consumed. -/
theorem Coherent.taken_tick (coherent : Coherent past event.before)
    (plain : PlainTurn event turn) (tracking : event.before.runtime.leaf = .custom1 leaf)
    {ticked : Scope Custom1State}
    (outcome : TickOutcome (event.before.runtime.tickScope turn leaf) ticked)
    (ends : Identified (openedBefore past) leaf.consumedResultSequence
      (latestDispatched (session past)) (SolvedIn (session past)) ticked) :
    ∀ earlier ∈ event :: past, ∀ result, takenBy earlier = some result →
      result.sequence ≤ ticked.leaf.consumedResultSequence := by
  intro earlier member result taken
  rcases List.mem_cons.mp member with rfl | older
  · rw [takenBy_turn plain.input tracking] at taken
    exact (outcome.success result taken).2.2.2
  · exact Nat.le_trans ((coherent.tracking leaf tracking).taken earlier older result taken)
      ends.consumed

/-- The target that the next tick may repeat. -/
theorem Coherent.target_tick (coherent : Coherent past event.before)
    (plain : PlainTurn event turn) (tracking : event.before.runtime.leaf = .custom1 leaf)
    {ticked : Scope Custom1State}
    (outcome : TickOutcome (event.before.runtime.tickScope turn leaf) ticked)
    (starts : Identified (openedBefore past) leaf.consumedResultSequence
      (latestDispatched (session past)) (SolvedIn (session past))
      (event.before.runtime.tickScope turn leaf))
    (nmpc : event.before.runtime.controller.backend = .nmpc)
    (succeeded : 0 < ticked.leaf.lastSuccessTime) :
    ∃ result, SolvedIn (session past) result ∧
      TakenIn (event :: session past) ticked.leaf.lastSuccessTime result ∧
      FreshAt event.before.runtime.controller.config ticked.leaf.lastSuccessTime result ∧
      ticked.controller.attitudeRateTarget = result.target := by
  obtain ⟨-, -, -, currentTime⟩ := event.before.runtime.tickScope_spec turn leaf
  cases taken : Custom1State.takenSuccess (event.before.runtime.tickScope turn leaf) with
  | some result =>
      obtain ⟨target, time, -⟩ := outcome.success result taken
      obtain ⟨-, -, success, now, clock, fresh⟩ := takenSuccess_eq_some _ taken
      obtain ⟨present, latest, -⟩ := takenSuccess_spec _ taken
      refine ⟨result, ?_, ⟨event, List.mem_cons_self, turn, plain.input, ?_, ?_⟩, ⟨now, ?_, ?_⟩,
        target⟩
      · rw [← latest] at success ⊢
        exact starts.genuine present success
      · rw [takenBy_turn plain.input tracking, taken]
      · rw [time]
        exact currentTime.symm
      · rw [time]
        exact clock
      · rw [plain.config tracking] at fresh
        exact fresh
  | none =>
      obtain ⟨target, time, -⟩ := outcome.kept (plain.backend tracking nmpc) taken
      rw [time] at succeeded ⊢
      obtain ⟨result, solved, ⟨earlier, member, takenThere⟩, fresh, same⟩ :=
        (coherent.tracking leaf tracking).target nmpc succeeded
      refine ⟨result, solved, ⟨earlier, List.mem_cons_of_mem _ member, takenThere⟩, fresh, ?_⟩
      rw [target, tickScope_target, same]

theorem Coherent.turn_custom1 (coherent : Coherent past event.before)
    (plain : PlainTurn event turn) (tracking : event.before.runtime.leaf = .custom1 leaf) :
    Coherent (event :: past) event.after := by
  obtain ⟨starts, ticked, outcome, ended, ends⟩ := coherent.tick plain tracking
  have inside := inCustom1_of_leaf tracking
  have taken := coherent.taken_tick plain tracking outcome ends
  obtain ⟨generations, requests⟩ := ended.counters
  obtain ⟨kept, -, -, -⟩ := event.before.runtime.tickScope_spec turn leaf
  have counted : event.before.buffer.generationCounter ≤ event.after.buffer.generationCounter := by
    have grown := Acts.generationCounter_le outcome.acts
    rw [kept.nmpcResultBuffer, event.before.runtime.prepare_results turn plain.own,
      ← generations] at grown
    exact grown
  constructor
  · rw [plain.worker]
    exact fun request running => Nat.le_trans (coherent.solving request running) counted
  · rw [plain.worker]
    exact fun result finished => Nat.le_trans (coherent.solved result finished) counted
  · rw [plain.worker, openedBefore_cons_of_custom1 inside, session_cons_of_custom1 inside]
    intro result finished success _ newer
    exact (coherent.answered result finished success inside newer).cons
  · intro elsewhere
    rcases ended.ended with ⟨stays, -⟩ | ⟨-, closed⟩
    · rw [inCustom1_of_leaf stays] at elsewhere
      cases elsewhere
    · rw [NmpcSystem.buffer, closed]
      exact ends.closed
  · intro earlier member result took
    have reserved := Nat.le_trans (taken earlier member result took) ends.reserved
    rw [← requests] at reserved
    exact reserved
  · intro final stays
    obtain ⟨same, results⟩ : event.after.runtime.leaf = .custom1 ticked.leaf ∧
        event.after.runtime.controller.nmpcResultBuffer = ticked.controller.nmpcResultBuffer := by
      rcases ended.ended with kept | ⟨left, -⟩
      · exact kept
      · exact (left (by rw [FlightRuntime.flightState, stays]; rfl)).elim
    cases FlightLeaf.custom1.inj (same.symm.trans stays)
    have circumstances := (event.before.runtime.prepare turn).update_circumstances turn.now
    have fixed : event.after.runtime.controller.config =
        event.before.runtime.controller.config := by
      rw [plain.after]
      exact circumstances.1.trans (plain.fixed_custom1 tracking)
    constructor
    · rw [openedBefore_cons_of_custom1 inside, session_cons_of_custom1 inside]
      have carried : Identified (openedBefore past) leaf.consumedResultSequence
          (latestDispatched (event :: session past)) (SolvedIn (session past))
          ⟨{ event.after.runtime.controller with flightEffects := [] }, ticked.leaf⟩ := by
        refine ends.congr results ?_ rfl rfl rfl
        rw [latestDispatched_turn plain.input, ended.latestRequest]
        rfl
      exact carried.lower.mono fun _ => SolvedIn.cons
    · exact taken
    · intro nmpc succeeded
      rw [DroneController.backend, fixed] at nmpc
      obtain ⟨result, solved, takenIn, fresh, target⟩ :=
        coherent.target_tick plain tracking outcome starts nmpc succeeded
      rw [session_cons_of_custom1 inside, fixed, ended.target]
      exact ⟨result, solved.cons, takenIn, fresh, target⟩

theorem Coherent.turn_other (coherent : Coherent past event.before)
    (plain : PlainTurn event turn) (elsewhere : event.before.inCustom1 = false) :
    Coherent (event :: past) event.after := by
  have ended := FlightRuntime.turn_other turn (flightState_of_other elsewhere)
  rw [← plain.after] at ended
  have results := event.before.runtime.prepare_results turn plain.own
  have nothing := takenBy_other elsewhere
  have taken : ∀ earlier ∈ event :: past, ∀ result, takenBy earlier = some result →
      result.sequence ≤ event.before.buffer.requestCounter := by
    intro earlier member result took
    rcases List.mem_cons.mp member with rfl | older
    · cases nothing.symm.trans took
    · exact coherent.taken earlier older result took
  rcases ended.ended with ⟨outside, kept⟩ | ⟨scope, before, entered, kept⟩
  · have same : event.after.buffer = event.before.buffer := kept.nmpcResultBuffer.trans results
    have outside : event.after.inCustom1 = false := by
      simpa [NmpcSystem.inCustom1] using outside
    constructor
    · rw [plain.worker, same]
      exact coherent.solving
    · rw [plain.worker, same]
      exact coherent.solved
    · intro result _ _ inside
      cases outside.symm.trans inside
    · intro _
      rw [same]
      exact coherent.outside elsewhere
    · rw [same]
      exact taken
    · intro leaf tracking
      cases outside.symm.trans (inCustom1_of_leaf tracking)
  · obtain ⟨begun, -, consumed, -, succeeded⟩ := onEnter_results scope
    have opened : scope.controller.nmpcResultBuffer = event.before.buffer :=
      before.nmpcResultBuffer.trans results
    have same : event.after.buffer = event.before.buffer.beginGeneration := by
      rw [← opened, ← begun]
      exact kept.nmpcResultBuffer
    constructor
    · rw [plain.worker, same]
      exact fun request running => Nat.le_succ_of_le (coherent.solving request running)
    · rw [plain.worker, same]
      exact fun result finished => Nat.le_succ_of_le (coherent.solved result finished)
    · rw [plain.worker, openedBefore_cons_of_other elsewhere]
      intro result finished _ _ newer
      exact absurd (coherent.solved result finished) (Nat.not_le_of_gt newer)
    · intro outside
      rw [inCustom1_of_leaf entered] at outside
      cases outside
    · rw [same]
      exact taken
    · intro leaf tracking
      cases FlightLeaf.custom1.inj (entered.symm.trans tracking)
      constructor
      · rw [openedBefore_cons_of_other elsewhere, ← opened]
        exact Identified.of_onEnter kept.nmpcResultBuffer
      · rw [consumed, opened]
        exact taken
      · intro _ positive
        rw [succeeded] at positive
        exact absurd positive (by decide)

end Turn

section Identity

variable {past older : List NmpcEvent} {system : NmpcSystem} {event : NmpcEvent}

/-- What identifies a success that an update takes: its target is published, it answers the
latest request of the present session, of the generation that the session has opened, and it
is newer than everything taken before. -/
structure Identity (older : List NmpcEvent) (event : NmpcEvent) (result : NmpcSolveResult) :
    Prop where
  published : ∃ effect ∈ event.after.runtime.controller.flightEffects, effect.isAttitude = true
  target : event.after.runtime.controller.attitudeRateTarget = result.target
  solved : SolvedIn (session older) result
  active : result.controlGeneration = event.before.buffer.activeGeneration
  opened : openedBefore older < result.controlGeneration
  latest : latestDispatched (session older) = some result.sequence
  once : ∀ earlier ∈ older, ∀ other, takenBy earlier = some other →
    other.sequence < result.sequence

/-- Where a published target comes from: it is taken in this update, or it was taken in this
session, at most `resultTimeout` ago. -/
inductive Source (older : List NmpcEvent) (event : NmpcEvent) (now : Double)
    (result : NmpcSolveResult) : Prop
  | taken : takenBy event = some result →
      FreshAt event.before.runtime.controller.config now result → Source older event now result
  | repeated (time : Double) : takenBy event = none → TakenIn (session older) time result →
      FreshAt event.before.runtime.controller.config time result →
      now - time ≤ event.before.runtime.controller.config.nmpc.resultTimeout →
      Source older event now result

theorem Coherent.identity {turn : Turn} (coherent : Coherent older event.before)
    (plain : PlainTurn event turn) {result : NmpcSolveResult} (took : takenBy event = some result) :
    Identity older event result := by
  obtain ⟨leaf, tracking⟩ : ∃ leaf, event.before.runtime.leaf = .custom1 leaf := by
    refine leaf_of_inCustom1 ?_
    by_contra elsewhere
    cases (takenBy_other (eq_false_of_ne_true elsewhere)).symm.trans took
  obtain ⟨starts, ticked, outcome, ended, -⟩ := coherent.tick plain tracking
  rw [takenBy_turn plain.input tracking] at took
  obtain ⟨target, -, published, -⟩ := outcome.success result took
  obtain ⟨-, -, success, -⟩ := takenSuccess_eq_some _ took
  obtain ⟨present, latest, active, newer, generation, inFlight⟩ := takenSuccess_spec _ took
  obtain ⟨kept, effects, -, -⟩ := event.before.runtime.tickScope_spec turn leaf
  obtain ⟨new, appended, -⟩ := ended.effects
  constructor
  · refine ⟨.attitude (currentTime (event.before.runtime.tickScope turn leaf)), ?_, rfl⟩
    rw [appended]
    exact List.mem_append_left _ published
  · exact ended.target.trans target
  · have genuine := starts.genuine present
    rw [latest] at genuine
    exact genuine success
  · rw [← active, kept.nmpcResultBuffer, event.before.runtime.prepare_results turn plain.own]
    rfl
  · rw [generation]
    exact starts.opened
  · have requested := starts.inFlight (by omega)
    rw [effects, ← inFlight] at requested
    exact requested
  · intro earlier member other taken
    exact Nat.lt_of_le_of_lt ((coherent.tracking leaf tracking).taken earlier member other taken)
      newer

/-- Every attitude of an update under NMPC carries a target of its session. -/
theorem Coherent.source {turn : Turn} (coherent : Coherent older event.before)
    (plain : PlainTurn event turn) (nmpc : event.before.runtime.controller.backend = .nmpc)
    {effect : FlightEffect} (emitted : effect ∈ event.after.runtime.controller.flightEffects)
    (attitude : effect.isAttitude = true) :
    event.before.inCustom1 = true ∧ ∃ result, SolvedIn (session older) result ∧
      event.after.runtime.controller.attitudeRateTarget = result.target ∧
      Source older event turn.now.toSec result := by
  cases inside : event.before.inCustom1 with
  | false =>
      have ended := FlightRuntime.turn_other turn (flightState_of_other inside)
      rw [← plain.after] at ended
      rw [(ended.effects effect emitted).1] at attitude
      cases attitude
  | true =>
      obtain ⟨leaf, tracking⟩ := leaf_of_inCustom1 inside
      obtain ⟨starts, ticked, outcome, ended, -⟩ := coherent.tick plain tracking
      obtain ⟨-, effects, -, currentTime⟩ := event.before.runtime.tickScope_spec turn leaf
      have config := plain.config tracking
      refine ⟨rfl, ?_⟩
      cases took : takenBy event with
      | some result =>
          have identity := coherent.identity plain took
          rw [takenBy_turn plain.input tracking] at took
          obtain ⟨-, -, -, now, clock, fresh⟩ := takenSuccess_eq_some _ took
          refine ⟨result, identity.solved, identity.target, .taken ?_ ⟨now, ?_, ?_⟩⟩
          · rw [takenBy_turn plain.input tracking, took]
          · rw [← currentTime]
            exact clock
          · rw [← config]
            exact fresh
      | none =>
          have nothing := took
          rw [takenBy_turn plain.input tracking] at nothing
          obtain ⟨target, -, repeats⟩ := outcome.kept (plain.backend tracking nmpc) nothing
          rcases repeats effect (ended.attitude attitude emitted) attitude with old | recent
          · rw [effects] at old
            cases old
          · simp only [mayRepeatTarget, Bool.and_eq_true, decide_eq_true_eq] at recent
            obtain ⟨result, solved, takenIn, fresh, same⟩ :=
              (coherent.tracking leaf tracking).target nmpc recent.1
            refine ⟨result, solved, ?_, .repeated _ took takenIn fresh ?_⟩
            · rw [ended.target, target, tickScope_target, same]
            · have age := recent.2
              rw [config, Custom1State.currentTime, currentTime] at age
              exact age

/-- Without a success the target stays as it is. -/
theorem Coherent.target_kept {turn : Turn} (coherent : Coherent older event.before)
    (plain : PlainTurn event turn) (nmpc : event.before.runtime.controller.backend = .nmpc)
    (nothing : takenBy event = none) :
    event.after.runtime.controller.attitudeRateTarget =
      event.before.runtime.controller.attitudeRateTarget := by
  cases inside : event.before.inCustom1 with
  | false =>
      have ended := FlightRuntime.turn_other turn (flightState_of_other inside)
      rw [← plain.after] at ended
      exact ended.target.trans (event.before.runtime.prepare_received turn).attitudeRateTarget
  | true =>
      obtain ⟨leaf, tracking⟩ := leaf_of_inCustom1 inside
      obtain ⟨-, ticked, outcome, ended, -⟩ := coherent.tick plain tracking
      rw [takenBy_turn plain.input tracking] at nothing
      obtain ⟨target, -, -⟩ := outcome.kept (plain.backend tracking nmpc) nothing
      rw [ended.target, target, tickScope_target]

/-- A step of the system keeps the invariant, and every turn is a plain one. -/
theorem Coherent.step (coherent : Coherent past system) (input : NmpcInput)
    (allowed : nmpcEnvironment past system input) :
    Coherent (nmpcMachine.event system input :: past) (nmpcMachine.step system input).1 ∧
      ∀ turn, input = .turn turn → PlainTurn (nmpcMachine.event system input) turn := by
  have began : Coherent past (nmpcMachine.event system input).before := coherent
  cases input with
  | turn turn =>
      have plain : PlainTurn (nmpcMachine.event system (.turn turn)) turn := by
        constructor
        · rfl
        · exact allowed.1
        · exact allowed.2
        · exact system.takeTurn_runtime turn
        · exact system.takeTurn_worker turn
      refine ⟨?_, ?_⟩
      · cases inside : system.inCustom1 with
        | true =>
            obtain ⟨leaf, tracking⟩ := leaf_of_inCustom1 inside
            exact began.turn_custom1 plain tracking
        | false => exact began.turn_other plain inside
      · rintro _ ⟨⟩
        exact plain
  | handle clock accepts => exact ⟨began.handle rfl rfl, by simp⟩
  | solve outcome => exact ⟨began.solve rfl rfl, by simp⟩
  | commit => exact ⟨began.commit rfl rfl, by simp⟩
  | stop => exact ⟨began.stop rfl rfl, by simp⟩

/-- What holds of every turn of every run under the dispatcher. -/
theorem nmpc_turns {happens : List NmpcEvent → NmpcEvent → Turn → Prop}
    (run : nmpcMachine.Run NmpcSystem.Started nmpcEnvironment past system)
    (turns : ∀ older event turn, Coherent older event.before → PlainTurn event turn →
      happens older event turn) :
    ∀ event older, event :: older <:+ past → ∀ turn, event.input = .turn turn →
      happens older event turn := by
  refine run.invariant_history Coherent (fun _ => Coherent.start) ?_
  intro past state input _ coherent allowed
  obtain ⟨next, plain⟩ := coherent.step input allowed
  refine ⟨next, fun turn same => turns past _ turn coherent (plain turn same)⟩

/-- Whatever is consumed as a success is the solver's answer to the latest request of the
present session, nothing is consumed twice, and an attitude never carries a target of another
session. -/
theorem nmpc_results_identified
    (run : nmpcMachine.Run NmpcSystem.Started nmpcEnvironment past system) :
    ∀ event older, event :: older <:+ past → ∀ turn, event.input = .turn turn →
      (∀ result, takenBy event = some result → Identity older event result) ∧
      (event.before.runtime.controller.backend = .nmpc →
        (takenBy event = none → event.after.runtime.controller.attitudeRateTarget =
          event.before.runtime.controller.attitudeRateTarget) ∧
        ∀ effect ∈ event.after.runtime.controller.flightEffects, effect.isAttitude = true →
          event.before.inCustom1 = true ∧ ∃ result, SolvedIn (session older) result ∧
            event.after.runtime.controller.attitudeRateTarget = result.target) := by
  refine nmpc_turns run fun older event turn coherent plain => ⟨?_, ?_⟩
  · intro result took
    exact coherent.identity plain took
  · intro nmpc
    refine ⟨coherent.target_kept plain nmpc, ?_⟩
    intro effect emitted attitude
    obtain ⟨inside, result, solved, target, -⟩ := coherent.source plain nmpc emitted attitude
    exact ⟨inside, result, solved, target⟩

end Identity

end Dispatcher

section Answered

open ExactMath

def nmpcConfig : ControllerConfig := { skipTakeoffInitDisarm := true, trackingBackend := .nmpc }

def nmpcStart : NmpcSystem := { runtime := FlightRuntime.initial.setConfig nmpcConfig }

theorem nmpcStart_started : nmpcStart.Started := ⟨⟨nmpcConfig, rfl⟩, rfl, rfl⟩

/-- A flight into Custom1, which then receives a reference and dispatches its first request. -/
def requestingTurns : List Turn :=
  hoverTurns ++
    [{ inputs := [.command .track], sensor := armedSensor, now := ⟨7, 0⟩ },
      { inputs := [.activeAnalytic { duration := 60 } ⟨8, 0⟩]
        sensor := armedSensor
        now := ⟨8, 0⟩ }]

/-- The solver answers the first request. -/
def answeredInputs : List NmpcInput :=
  requestingTurns.map .turn ++
    [.handle ⟨8, 0⟩ true, .solve { success := true, target := { thrust := 0.5 } }, .commit]

def takingTurn : Turn := { sensor := armedSensor, now := ⟨8, 20000000⟩ }

/-- The answer is taken 20 ms later. -/
theorem nmpc_results_identified_answered :
    let answered := nmpcMachine.replay [] nmpcStart answeredInputs
    let event := nmpcMachine.event answered.2 (.turn takingTurn)
    ∃ result, result.target.thrust = 0.5 ∧ Identity answered.1 event result := by
  intro answered event
  have start : nmpcMachine.Run NmpcSystem.Started nmpcEnvironment [] nmpcStart :=
    .start nmpcStart_started
  have run := (start.replay answeredInputs (by decide +kernel)).step (.turn takingTurn)
    (by decide +kernel)
  obtain ⟨result, took, thrust⟩ : ∃ result, takenBy event = some result ∧
      result.target.thrust = 0.5 := by
    refine ⟨(takenBy event).get (by decide +kernel), Option.some_get _ |>.symm, ?_⟩
    decide +kernel
  exact ⟨result, thrust,
    (nmpc_results_identified run event answered.1 List.suffix_rfl takingTurn rfl).1 result took⟩

end Answered

end MultirotorController
