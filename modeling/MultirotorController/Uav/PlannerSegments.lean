import MultirotorController.Common.TimeOrder
import MultirotorController.Lib.Lookahead
import MultirotorController.Uav.FlightTracking
import MultirotorController.Uav.StateMachine.Custom1Segments

/-!
# Planner segments and the buffer that holds them

With a header effective time the buffer is a store with one pending slot: a
segment arrives at its time of receipt and is due at its header time. Receipts
and ticks of Custom1 promote the pending segment once it is due.
-/

namespace MultirotorController

open Lookahead Procedure

/-- A planner sample that was accepted, due at its header time. -/
abbrev Segment := Entry Time MpcTrajectoryState

/-- The active sample for the segment that was reached, or the empty one. -/
def activeSample (segment : Option Segment) : MpcTrajectoryState :=
  (segment.map (·.value)).getD {}

/-- What an accepted sample is known to satisfy. -/
structure Accepted (segment : Segment) : Prop where
  valid : segment.value.isValid = true
  seen : segment.value.newDataReceived = false
  due : segment.value.planningTime = segment.due
  dated : segment.due.isZero = false

/-- The buffer after the segments, newest first, up to a time: the newest is pending, or it
was due and has been promoted. -/
inductive Holds (buffer : MpcTrajectoryBuffer) : List Segment → Time → Prop
  | waiting {newest : Segment} {older : List Segment} {last : Time} : Accepted newest →
      buffer.pending = newest.value →
      buffer.active = activeSample (reached older newest.arrival) →
      Holds buffer (newest :: older) last
  | settled {segments : List Segment} {last : Time} : buffer.pending.isValid = false →
      (∀ newest ∈ segments.head?, newest.due ≤ last) →
      buffer.active = activeSample (reached segments last) → Holds buffer segments last

theorem holds_empty (last : Time) : Holds {} [] last := .settled rfl (by simp) rfl

section Buffer

variable {buffer : MpcTrajectoryBuffer} {segments : List Segment} {last now : Time}
variable {backend : TrackingBackend} {liftMode : Px4LocalLiftMode}

/-- A promotion brings the buffer up to the present time. -/
theorem Holds.promote (holds : Holds buffer segments last) (order : last ≤ now)
    (stage : usesStageEffectiveTime backend liftMode = true) :
    Holds (promoteTrajectorySample buffer now backend liftMode).1 segments now ∧
      (promoteTrajectorySample buffer now backend liftMode).1.active =
        activeSample (reached segments now) := by
  cases holds with
  | @waiting newest older _ accepted pending active =>
      obtain ⟨valid, seen, due, dated⟩ := accepted
      have present : buffer.hasPending = true := by
        rw [MpcTrajectoryBuffer.hasPending, pending, valid]
      by_cases ahead : now < newest.due
      · have unchanged : (promoteTrajectorySample buffer now backend liftMode).1 = buffer := by
          simp [promoteTrajectorySample, present, stage, pending, due, ahead]
        rw [unchanged, reached_cons_ahead ahead]
        exact ⟨.waiting ⟨valid, seen, due, dated⟩ pending active, active⟩
      · have isDue := le_of_not_gt ahead
        have promoted : (promoteTrajectorySample buffer now backend liftMode).1 =
            { active := newest.value, pending := {} } := by
          have same : { newest.value with
              isValid := true, newDataReceived := false } = newest.value := by
            rw [← valid, ← seen]
          simp [promoteTrajectorySample, present, pending, valid, due, dated, ahead,
            MpcTrajectoryBuffer.promotePending]
          rw [← due]
          exact same
        rw [promoted, reached_cons_due isDue]
        refine ⟨.settled rfl ?_ (by rw [reached_cons_due isDue]; rfl), rfl⟩
        intro head isHead
        cases isHead
        exact isDue
  | settled absent due active =>
      have unchanged : (promoteTrajectorySample buffer now backend liftMode).1 = buffer := by
        simp [promoteTrajectorySample, MpcTrajectoryBuffer.hasPending, absent]
      rw [unchanged, reached_of_le order due]
      refine ⟨.settled absent (fun newest head => (due newest head).trans order) ?_, active⟩
      rw [reached_of_le order due]
      exact active

/-- A receipt promotes the due segment before the slot takes the next one. -/
theorem Holds.cache {sample : MpcTrajectoryState} {receipt : Time} {config : ControllerConfig}
    (holds : Holds buffer segments last) (order : last ≤ receipt) (timed : config.stageTimed)
    (accepted : Accepted ⟨sample, sample.planningTime, receipt⟩) :
    Holds (cacheTrajectorySample buffer sample receipt config)
      (⟨sample, sample.planningTime, receipt⟩ :: segments) receipt := by
  have stage : usesStageEffectiveTime config.trackingBackend config.px4LocalLift = true :=
    (Bool.and_eq_true_iff.mp timed).2
  obtain ⟨-, active⟩ := holds.promote order stage
  refine .waiting accepted ?_ ?_
  · obtain ⟨valid, seen, -, -⟩ := accepted
    dsimp only at valid seen
    simp only [cacheTrajectorySample, MpcTrajectoryBuffer.cachePending]
    rw [← valid, ← seen]
  · simp only [cacheTrajectorySample, MpcTrajectoryBuffer.cachePending, stage, if_true]
    exact active

/-- Time passes without a change. -/
theorem Holds.mono (holds : Holds buffer segments last) (order : last ≤ now) :
    Holds buffer segments now := by
  cases holds with
  | waiting accepted pending active => exact .waiting accepted pending active
  | settled absent due active =>
      refine .settled absent (fun newest head => (due newest head).trans order) ?_
      rw [reached_of_le order due]
      exact active

end Buffer

namespace FlightRuntime

variable [Libm] [Xgc2Math]

section Arrivals

variable (runtime : FlightRuntime)

/-- The segment that an input brings in, if it is accepted. -/
def segmentOf : FlightInput → Option Segment
  | .plannerSetpoint ingress =>
      let config := runtime.controller.config
      let sample := ingestPositionTarget ingress config.trackingBackend config.px4LocalLift
      if (ingestPlannerSetpoint runtime.controller ingress).2 = .kCached then
        some ⟨sample, sample.planningTime, ingress.receiptTime⟩
      else none
  | _ => none

/-- The segments after a list of inputs, newest first. -/
def accept : FlightRuntime → List Segment → List FlightInput → List Segment
  | _, segments, [] => segments
  | runtime, segments, input :: rest =>
      (runtime.receive input).accept ((runtime.segmentOf input).toList ++ segments) rest

theorem accept_append (segments : List Segment) (inputs : List FlightInput) :
    runtime.accept segments inputs = runtime.accept [] inputs ++ segments := by
  induction inputs generalizing runtime segments with
  | nil => rfl
  | cons input rest ih =>
      rw [accept, accept, ih, ih (runtime.receive input) ((runtime.segmentOf input).toList ++ [])]
      simp

end Arrivals

section Receive

variable {runtime : FlightRuntime} {segments : List Segment} {last now : Time}

/-- The input leaves a configuration with header effective times. -/
def keepsStage : FlightInput → Bool
  | .configure config => config.stageTimed
  | _ => true

theorem receive_stageTimed {input : FlightInput} (timed : runtime.controller.config.stageTimed)
    (keeps : keepsStage input = true) : (runtime.receive input).controller.config.stageTimed := by
  cases input with
  | command command =>
      dsimp only [receive, postCommand]
      split <;> exact timed
  | freshImu =>
      dsimp only [receive, onFreshImu, HealthMonitorState.onFreshImu]
      split <;> exact timed
  | plannerSetpoint ingress =>
      dsimp only [receive]
      rw [ingestPlannerSetpoint_frame]
      exact timed
  | configure config => exact keeps
  | _ => exact timed

omit [Xgc2Math] in
/-- What the ingress caches at a header time is an accepted segment. -/
theorem ingestPlannerSetpoint_accepted {controller : DroneController}
    {ingress : PositionTargetIngress} (timed : controller.config.stageTimed = true)
    (cached : (ingestPlannerSetpoint controller ingress).2 = .kCached) :
    let sample := ingestPositionTarget ingress controller.config.trackingBackend
      controller.config.px4LocalLift
    (ingestPlannerSetpoint controller ingress).1.mpcTrajectoryBuffer =
        cacheTrajectorySample controller.mpcTrajectoryBuffer sample ingress.receiptTime
          controller.config ∧
      Accepted ⟨sample, sample.planningTime, ingress.receiptTime⟩ := by
  intro sample
  obtain ⟨planned, stage⟩ := Bool.and_eq_true_iff.mp timed
  have valid : sample.isValid = true := by
    by_contra refused
    have refused : (ingestPositionTarget ingress controller.config.trackingBackend
        controller.config.px4LocalLift).isValid = false := by simpa using refused
    simp only [ingestPlannerSetpoint, planned, stage, refused] at cached
    repeat' split at cached
    all_goals simp_all
  refine ⟨?_, ?_⟩
  · have valid : (ingestPositionTarget ingress controller.config.trackingBackend
        controller.config.px4LocalLift).isValid = true := valid
    simp only [ingestPlannerSetpoint, planned, stage, valid, sample]
    rfl
  · have due : sample.planningTime = ingress.headerStamp := by
      simp only [sample, ingestPositionTarget, stage, if_true]
    have seen : sample.newDataReceived = false := by
      simp only [sample, ingestPositionTarget, stage, if_true]
    refine ⟨valid, seen, rfl, ?_⟩
    dsimp only
    rw [due]
    by_contra zero
    have zero : ingress.headerStamp.isZero = true := by simpa using zero
    simp only [sample, ingestPositionTarget, stage, if_true, zero] at valid
    split at valid <;> simp at valid

/-- An input that brings in no segment leaves the buffer alone. -/
theorem receive_buffer {input : FlightInput} (none_ : runtime.segmentOf input = none) :
    (runtime.receive input).controller.mpcTrajectoryBuffer =
      runtime.controller.mpcTrajectoryBuffer := by
  cases input with
  | command command =>
      dsimp only [receive, postCommand]
      split <;> rfl
  | freshImu =>
      dsimp only [receive, onFreshImu, HealthMonitorState.onFreshImu]
      split <;> rfl
  | plannerSetpoint ingress =>
      dsimp only [receive]
      rw [ingestPlannerSetpoint_of_not_cached]
      intro cached
      simp [segmentOf, cached] at none_
  | _ => rfl

theorem holds_receive {input : FlightInput} {segment : Segment}
    (holds : Holds runtime.controller.mpcTrajectoryBuffer segments last)
    (timed : runtime.controller.config.stageTimed) (found : runtime.segmentOf input = some segment)
    (order : last ≤ segment.arrival) :
    Holds (runtime.receive input).controller.mpcTrajectoryBuffer (segment :: segments)
      segment.arrival := by
  cases input with
  | plannerSetpoint ingress =>
      dsimp only [segmentOf] at found
      split at found
      next cached =>
        cases found
        obtain ⟨buffer, accepted⟩ := ingestPlannerSetpoint_accepted timed cached
        dsimp only [receive]
        rw [buffer]
        exact holds.cache order timed accepted
      · cases found
  | _ => cases found

/-- Whatever a list of inputs brings in is an accepted segment. -/
theorem accepted_of_mem_accept {inputs : List FlightInput}
    (timed : runtime.controller.config.stageTimed) (keeps : inputs.all keepsStage)
    (earlier : ∀ segment ∈ segments, Accepted segment) :
    ∀ segment ∈ runtime.accept segments inputs, Accepted segment := by
  induction inputs generalizing runtime segments with
  | nil => exact earlier
  | cons input rest ih =>
      simp only [List.all_cons, Bool.and_eq_true] at keeps
      refine ih (receive_stageTimed timed keeps.1) keeps.2 ?_
      intro segment member
      rcases List.mem_append.mp member with new | old
      · cases input with
        | plannerSetpoint ingress =>
            simp only [segmentOf, Option.mem_toList] at new
            split at new
            next cached =>
              cases new
              exact (ingestPlannerSetpoint_accepted timed cached).2
            · cases new
        | _ => cases new
      · exact earlier segment old

/-- After the inputs of a turn the buffer holds what has arrived until then. -/
theorem holds_foldl_receive {inputs : List FlightInput}
    (holds : Holds runtime.controller.mpcTrajectoryBuffer segments last)
    (timed : runtime.controller.config.stageTimed) (keeps : inputs.all keepsStage)
    (ordered : Ordered (runtime.accept segments inputs)) (order : last ≤ now)
    (arrivals : ∀ segment ∈ runtime.accept [] inputs,
      last ≤ segment.arrival ∧ segment.arrival ≤ now) :
    Holds (inputs.foldl receive runtime).controller.mpcTrajectoryBuffer
        (runtime.accept segments inputs) now ∧
      (inputs.foldl receive runtime).controller.config.stageTimed := by
  induction inputs generalizing runtime segments last with
  | nil => exact ⟨holds.mono order, timed⟩
  | cons input rest ih =>
      simp only [List.all_cons, Bool.and_eq_true] at keeps
      have timedNext := receive_stageTimed timed keeps.1
      rw [accept, accept_append] at arrivals
      cases found : runtime.segmentOf input with
      | none =>
          rw [accept, found] at ordered ⊢
          rw [found] at arrivals
          have kept :
              Holds (receive runtime input).controller.mpcTrajectoryBuffer segments last := by
            rw [receive_buffer found]
            exact holds
          refine ih kept timedNext keeps.2 ordered order ?_
          intro segment member
          exact arrivals segment (List.mem_append_left _ member)
      | some segment =>
          rw [accept, found] at ordered ⊢
          rw [found] at arrivals
          have arrived := arrivals segment (List.mem_append_right _ (by simp))
          have taken := holds_receive holds timed found arrived.1
          refine ih taken timedNext keeps.2 ordered arrived.2 ?_
          intro later member
          refine ⟨?_, (arrivals later (List.mem_append_left _ member)).2⟩
          rw [accept_append] at ordered
          exact ((List.pairwise_append.mp ordered).2.2 later member segment (by simp)).2

end Receive

section Transitions

variable (runtime : FlightRuntime)

omit [Libm] in
theorem leave_buffer (choice : Choice) :
    (leave choice runtime).mpcTrajectoryBuffer = runtime.controller.mpcTrajectoryBuffer := by
  unfold leave
  cases runtime.leaf <;> dsimp only [FlightLeaf.onExit] <;> split <;> rfl

omit [Libm] in
/-- Only a Custom1 that streams planner setpoints to the geometric law starts with an empty
buffer. -/
theorem transition_buffer (choice : Choice) :
    (runtime.transition choice).controller.mpcTrajectoryBuffer =
      if choice.target = .custom1 ∧ runtime.controller.backend = .dfbc ∧
          runtime.controller.config.dfbc.referenceSource = .plannerSetpoint then {}
      else runtime.controller.mpcTrajectoryBuffer := by
  obtain ⟨target, signal, command⟩ := choice
  have config := (runtime.leave_emits ⟨target, signal, command⟩).config
  by_cases custom1 : target = .custom1
  · subst custom1
    refine (Custom1State.onEnter_buffer ⟨leave _ runtime, _⟩).trans ?_
    simp only [DroneController.backend, config, leave_buffer, true_and]
  · rw [if_neg (by simp [custom1])]
    exact (runtime.transition_tracking _ custom1).mpcTrajectoryBuffer.trans
      (runtime.leave_buffer _)

/-- The turn begins a session that starts with an empty buffer. -/
def clearsSegments (event : FlightEvent) : Bool :=
  event.before.flightState ≠ .custom1 && event.after.flightState = .custom1 &&
    event.after.controller.backend = .dfbc

/-- After the tick a turn leaves the buffer alone, unless it begins such a session. -/
theorem turn_buffer (turn : Turn) (timed : (runtime.prepare turn).controller.config.stageTimed) :
    (runtime.turn turn).1.controller.mpcTrajectoryBuffer =
      if clearsSegments (flightMachine.event runtime turn) then {}
      else ((runtime.prepare turn).ticked turn.now).controller.mpcTrajectoryBuffer := by
  have leaf : ((runtime.prepare turn).ticked turn.now).flightState = runtime.flightState :=
    ((runtime.prepare turn).ticked_flightState turn.now).trans prepare_flightState
  have tickConfig := ((runtime.prepare turn).ticked_emits turn.now).config
  have endConfig := ((runtime.prepare turn).update_circumstances turn.now).1
  have clears : clearsSegments (flightMachine.event runtime turn) =
      (decide (runtime.flightState ≠ .custom1) &&
        decide ((runtime.turn turn).1.flightState = .custom1) &&
        decide ((runtime.prepare turn).controller.backend = .dfbc)) := by
    rw [DroneController.backend, ← endConfig]
    rfl
  rw [clears]
  rcases (runtime.prepare turn).update_cases turn.now with
    ⟨error, custom1, thrown⟩ | ⟨again, completed⟩
  · have left : (runtime.turn turn).1 = (runtime.prepare turn).ticked turn.now :=
      congrArg Prod.fst thrown
    have custom1 : runtime.flightState = .custom1 := prepare_flightState.symm.trans custom1
    rw [left]
    simp [custom1]
  · have left : (runtime.turn turn).1 = afterTick _ ((runtime.prepare turn).ticked turn.now) :=
      congrArg Prod.fst completed
    rw [left, afterTick_flightState, leaf,
      (afterTick_tracking ((runtime.prepare turn).ticked turn.now) _).mpcTrajectoryBuffer]
    cases chosen : ((runtime.prepare turn).ticked turn.now).choose with
    | none =>
        have kept := foldl_dispatchCommand_tracking ((runtime.prepare turn).ticked turn.now)
          ((runtime.prepare turn).ticked turn.now).commands
        rw [applyChoice, kept.mpcTrajectoryBuffer]
        by_cases custom1 : runtime.flightState = .custom1 <;> simp [custom1]
    | some choice =>
        rw [applyChoice, transition_buffer]
        by_cases custom1 : choice.target = .custom1
        · have elsewhere : runtime.flightState ≠ .custom1 := by
            intro tracking
            rcases target_of_custom1 _ (leaf.trans tracking) chosen with hover | landing
            · cases custom1.symm.trans hover
            · cases custom1.symm.trans landing
          have planner : (runtime.prepare turn).controller.backend = .dfbc →
              (runtime.prepare turn).controller.config.dfbc.referenceSource =
                .plannerSetpoint := by
            intro dfbc
            change (runtime.prepare turn).controller.config.trackingBackend = .dfbc at dfbc
            simpa [ControllerConfig.stageTimed, usesPlannerSetpoint, dfbc,
              usesStageEffectiveTime] using timed
          have same : ((runtime.prepare turn).ticked turn.now).controller.config =
              (runtime.prepare turn).controller.config := tickConfig
          have backend : ((runtime.prepare turn).ticked turn.now).controller.backend =
              (runtime.prepare turn).controller.backend :=
            congrArg ControllerConfig.trackingBackend same
          by_cases dfbc : (runtime.prepare turn).controller.backend = .dfbc
          · simp [custom1, elsewhere, backend, same, dfbc, planner dfbc]
          · simp [backend, dfbc]
        · simp [custom1]

/-- A tick of Custom1 brings the buffer up to the time of the turn; other leaves leave it
alone. -/
theorem ticked_buffer {turn : Turn} (canonical : turn.now.Canonical)
    (timed : (runtime.prepare turn).controller.config.stageTimed) :
    ((runtime.prepare turn).ticked turn.now).controller.mpcTrajectoryBuffer =
      if runtime.flightState = .custom1 then
        (promoteTrajectorySample (runtime.prepare turn).controller.mpcTrajectoryBuffer turn.now
          (runtime.prepare turn).controller.backend
          (runtime.prepare turn).controller.config.px4LocalLift).1
      else (runtime.prepare turn).controller.mpcTrajectoryBuffer := by
  split
  next custom1 =>
    cases tracking : runtime.leaf with
    | custom1 leaf =>
        have prepared : (runtime.prepare turn).leaf = .custom1 leaf :=
          (runtime.prepare_received turn).leaf.trans tracking
        obtain ⟨kept, -, config, currentTime⟩ := runtime.tickScope_spec turn leaf
        have clock : Time.fromSec (Custom1State.currentTime (runtime.tickScope turn leaf)) =
            .ok turn.now := by
          rw [Custom1State.currentTime, currentTime]
          exact Time.fromSec_toSec canonical
        have promotes := Custom1State.promotes_onTick (runtime.tickScope turn leaf)
          (by rw [config]; exact timed) clock
        obtain ⟨scope, promoted, controller, -⟩ :=
          (runtime.prepare turn).ticked_custom1 turn.now prepared promotes
        rw [controller, promoted, Custom1State.promotedBuffer, kept.mpcTrajectoryBuffer,
          DroneController.backend, config]
        rfl
    | _ =>
        rw [flightState, tracking] at custom1
        cases custom1
  next elsewhere =>
    refine (ticked_tracking turn.now ?_).mpcTrajectoryBuffer
    rw [prepare_flightState]
    exact elsewhere

end Transitions

end FlightRuntime

end MultirotorController
