import MultirotorController.Control.ExactMath
import MultirotorController.Safety.Environment
import MultirotorController.Uav.PlannerSegments

/-!
# The effective planner segment

With header effective times a tick of Custom1 works on the segment that is in
force: of those received, the one with the greatest header time that is not in
the future. The buffer has one pending slot, and the last arrival takes it, so
a segment that another one replaced before its header time never becomes active.
All other segments do.
-/

namespace MultirotorController

open Lookahead FlightRuntime

section Law

variable [Libm] [Xgc2Math]

/-- The segments that a run has received, newest first; streamed tracking by the geometric
law begins without any. -/
def segments : List FlightEvent → List Segment
  | [] => []
  | event :: past =>
      if clearsSegments event then []
      else event.before.accept (segments past) event.input.inputs

/-- The time of the latest update. -/
def latestUpdate (past : List FlightEvent) : Time := (past.head?.map (·.input.now)).getD {}

/-- The clock of receipts and updates does not go back, header times increase, and the
backends that are configured use them. -/
structure SegmentsInOrder (past : List FlightEvent) (runtime : FlightRuntime) (turn : Turn) :
    Prop where
  canonical : turn.now.Canonical
  stage : turn.inputs.all keepsStage
  increasing : Ordered (runtime.accept (segments past) turn.inputs)
  arrivals : ∀ segment ∈ runtime.accept [] turn.inputs,
    latestUpdate past ≤ segment.arrival ∧ segment.arrival ≤ turn.now
  clock : latestUpdate past ≤ turn.now

instance (past : List FlightEvent) (runtime : FlightRuntime) (turn : Turn) :
    Decidable (SegmentsInOrder past runtime turn) :=
  have : Decidable (Ordered (runtime.accept (segments past) turn.inputs)) :=
    inferInstanceAs (Decidable (List.Pairwise _ _))
  decidable_of_iff (turn.now.Canonical ∧ turn.inputs.all keepsStage ∧
      Ordered (runtime.accept (segments past) turn.inputs) ∧
      (∀ segment ∈ runtime.accept [] turn.inputs,
        latestUpdate past ≤ segment.arrival ∧ segment.arrival ≤ turn.now) ∧
      latestUpdate past ≤ turn.now)
    ⟨fun ⟨canonical, stage, increasing, arrivals, clock⟩ =>
        ⟨canonical, stage, increasing, arrivals, clock⟩,
      fun ⟨canonical, stage, increasing, arrivals, clock⟩ =>
        ⟨canonical, stage, increasing, arrivals, clock⟩⟩

/-- The law of one tick: the active segment is the one in force, exactly if the segment
received next, if any, did not come before its header time. -/
def SegmentInForce (older : List FlightEvent) (event : FlightEvent) : Prop :=
  event.before.flightState = .custom1 →
    ∀ segment, latestDue (segments (event :: older)) event.input.now = some segment →
      (event.after.controller.mpcTrajectoryBuffer.active = segment.value ↔
        ¬ Dropped (segments (event :: older)) segment)

/-- A controller whose backend follows planner segments at their header times. -/
def FlightRuntime.StartedStaged (runtime : FlightRuntime) : Prop :=
  ∃ config, config.stageTimed = true ∧ runtime.StartedWith config

/-- The buffer holds what the run has received. -/
structure KeepsSegments (past : List FlightEvent) (runtime : FlightRuntime) : Prop where
  holds : Holds runtime.controller.mpcTrajectoryBuffer (segments past) (latestUpdate past)
  timed : runtime.controller.config.stageTimed = true
  accepted : ∀ segment ∈ segments past, Accepted segment
  arrived : ∀ segment ∈ segments past, segment.arrival ≤ latestUpdate past

end Law

namespace FlightRuntime

variable [Libm] [Xgc2Math] {past : List FlightEvent} {runtime : FlightRuntime} {turn : Turn}

/-- Before the update the buffer holds what has arrived, all of it by the time of the turn. -/
theorem prepare_segments (inOrder : SegmentsInOrder past runtime turn)
    (keeps : KeepsSegments past runtime) :
    Holds (runtime.prepare turn).controller.mpcTrajectoryBuffer
        (runtime.accept (segments past) turn.inputs) turn.now ∧
      (runtime.prepare turn).controller.config.stageTimed = true ∧
      ∀ segment ∈ runtime.accept (segments past) turn.inputs,
        Accepted segment ∧ segment.arrival ≤ turn.now := by
  obtain ⟨holds, timed⟩ := holds_foldl_receive keeps.holds keeps.timed inOrder.stage
    inOrder.increasing inOrder.clock inOrder.arrivals
  refine ⟨holds, timed, fun segment member => ⟨?_, ?_⟩⟩
  · exact accepted_of_mem_accept keeps.timed inOrder.stage keeps.accepted segment member
  · rw [accept_append] at member
    rcases List.mem_append.mp member with new | old
    · exact (inOrder.arrivals segment new).2
    · exact (keeps.arrived segment old).trans inOrder.clock

/-- After the tick the buffer is up to date, and in Custom1 its active segment is. -/
theorem ticked_segments (inOrder : SegmentsInOrder past runtime turn)
    (keeps : KeepsSegments past runtime) :
    Holds ((runtime.prepare turn).ticked turn.now).controller.mpcTrajectoryBuffer
        (runtime.accept (segments past) turn.inputs) turn.now ∧
      (runtime.flightState = .custom1 →
        ((runtime.prepare turn).ticked turn.now).controller.mpcTrajectoryBuffer.active =
          activeSample (reached (runtime.accept (segments past) turn.inputs) turn.now)) := by
  obtain ⟨holds, timed, -⟩ := prepare_segments inOrder keeps
  have stage : usesStageEffectiveTime (runtime.prepare turn).controller.backend
      (runtime.prepare turn).controller.config.px4LocalLift = true :=
    (Bool.and_eq_true_iff.mp timed).2
  rw [ticked_buffer runtime inOrder.canonical timed]
  obtain ⟨promoted, active⟩ := holds.promote le_rfl stage
  split
  next custom1 => exact ⟨promoted, fun _ => active⟩
  next elsewhere => exact ⟨holds, fun custom1 => (elsewhere custom1).elim⟩

theorem keepsSegments_turn (inOrder : SegmentsInOrder past runtime turn)
    (keeps : KeepsSegments past runtime) :
    KeepsSegments (flightMachine.event runtime turn :: past) (runtime.turn turn).1 := by
  obtain ⟨-, timed, members⟩ := prepare_segments inOrder keeps
  obtain ⟨holds, -⟩ := ticked_segments inOrder keeps
  have config := ((runtime.prepare turn).update_circumstances turn.now).1
  have buffer := runtime.turn_buffer turn timed
  have now : latestUpdate (flightMachine.event runtime turn :: past) = turn.now := rfl
  by_cases clears : clearsSegments (flightMachine.event runtime turn) = true
  · have none_ : segments (flightMachine.event runtime turn :: past) = [] := if_pos clears
    rw [if_pos clears] at buffer
    refine ⟨?_, (congrArg _ config).trans timed, ?_, ?_⟩
    · rw [none_, buffer]
      exact holds_empty _
    · simp [none_]
    · simp [none_]
  · have received : segments (flightMachine.event runtime turn :: past) =
        runtime.accept (segments past) turn.inputs := if_neg clears
    rw [if_neg clears] at buffer
    refine ⟨?_, (congrArg _ config).trans timed, ?_, ?_⟩
    · rw [received, buffer, now]
      exact holds
    · rw [received]
      exact fun segment member => (members segment member).1
    · rw [received, now]
      exact fun segment member => (members segment member).2

/-- A turn of Custom1 works on the segment in force, unless that one was replaced early. -/
theorem segmentInForce_turn (inOrder : SegmentsInOrder past runtime turn)
    (keeps : KeepsSegments past runtime) {event : FlightEvent} (before : event.before = runtime)
    (input : event.input = turn) (after : event.after = (runtime.turn turn).1) :
    SegmentInForce past event := by
  intro custom1 segment inForce
  obtain ⟨-, timed, members⟩ := prepare_segments inOrder keeps
  obtain ⟨-, active⟩ := ticked_segments inOrder keeps
  have clears (later : FlightEvent) (began : later.before.flightState = .custom1) :
      clearsSegments later = false := by
    simp [clearsSegments, began]
  have received : segments (event :: past) = runtime.accept (segments past) turn.inputs := by
    rw [segments, clears event custom1, before, input]
    rfl
  rw [before] at custom1
  rw [received, input] at inForce
  rw [received, after, runtime.turn_buffer turn timed, clears _ custom1, if_neg (by simp),
    active custom1]
  have arrived : ∀ segment ∈ runtime.accept (segments past) turn.inputs,
      segment.arrival ≤ turn.now := fun segment member => (members segment member).2
  rw [← reached_eq_latestDue_iff inOrder.increasing arrived inForce]
  constructor
  · intro same
    have member := List.mem_of_find?_eq_some inForce
    obtain ⟨valid, -, due, -⟩ := (members segment member).1
    cases found : reached (runtime.accept (segments past) turn.inputs) turn.now with
    | none =>
        rw [found] at same
        rw [← same] at valid
        cases valid
    | some other =>
        rw [found] at same
        have otherMember := (due_le_of_reached inOrder.increasing arrived found).1
        have otherDue := (members other otherMember).1.due
        have same : other.value = segment.value := same
        rw [eq_of_due_eq inOrder.increasing otherMember member
          (by rw [← otherDue, ← due, same])]
  · intro found
    rw [found]
    rfl

theorem keepsSegments_started (started : runtime.StartedStaged) : KeepsSegments [] runtime := by
  obtain ⟨config, timed, rfl⟩ := started
  have buffer : (initial.setConfig config).controller.mpcTrajectoryBuffer = {} := rfl
  refine ⟨?_, timed, by simp [segments], by simp [segments]⟩
  rw [buffer]
  exact holds_empty _

end FlightRuntime

/-- At every tick of Custom1 the active segment is the received one with the greatest header
time not in the future, unless another one replaced it before that time. -/
theorem active_segment_in_force [Libm] [Xgc2Math] {past : List FlightEvent}
    {runtime : FlightRuntime}
    (run : flightMachine.Run FlightRuntime.StartedStaged SegmentsInOrder past runtime) :
    ∀ event older, event :: older <:+ past → SegmentInForce older event := by
  refine run.invariant_history KeepsSegments (fun _ => FlightRuntime.keepsSegments_started) ?_
  intro past runtime turn _ keeps inOrder
  exact ⟨FlightRuntime.keepsSegments_turn inOrder keeps,
    FlightRuntime.segmentInForce_turn inOrder keeps rfl rfl rfl⟩

section Ahead

open ExactMath

def aheadConfig : ControllerConfig := { skipTakeoffInitDisarm := true, trackingBackend := .smc }

/-- A planner setpoint for a header time, received at another. -/
def plannedAt (header receipt : UInt32) : PositionTargetIngress :=
  { headerStamp := ⟨header, 0⟩, receiptTime := ⟨receipt, 0⟩ }

/-- Into Custom1, and segments for the given header times one second after another. -/
def aheadTurns (headers : List UInt32) : List Turn :=
  hoverTurns ++ [{ inputs := [.command .track], sensor := armedSensor, now := ⟨7, 0⟩ }] ++
    headers.zipIdx.map fun header =>
      { inputs := [.plannerSetpoint (plannedAt header.1 (.ofNat (8 + header.2)))]
        sensor := armedSensor
        now := ⟨.ofNat (8 + header.2), 0⟩ }

/-- The update at the header time of the first segment. -/
def effectiveTurn : Turn := { sensor := armedSensor, now := ⟨20, 0⟩ }

def segmentAt (header receipt : UInt32) : Segment :=
  ⟨ingestPositionTarget (plannedAt header receipt) .smc .legacy, ⟨header, 0⟩, ⟨receipt, 0⟩⟩

/-- The segment for that time. -/
def firstSegment : Segment := segmentAt 20 8

/-- An update between the header times of two segments. -/
def betweenTurn : Turn := { sensor := armedSensor, now := ⟨12, 0⟩ }

/-- The second segment arrives at the header time of the first, for a later time. The first is
active until then, and the second from then on. -/
theorem active_segment_in_force_next :
    let tracked := flightMachine.replay [] (FlightRuntime.initial.setConfig aheadConfig)
      (aheadTurns [9, 20])
    let between := flightMachine.event tracked.2 betweenTurn
    let event := flightMachine.event between.after effectiveTurn
    between.after.controller.mpcTrajectoryBuffer.active = (segmentAt 9 8).value ∧
      between.after.controller.mpcTrajectoryBuffer.pending = (segmentAt 20 9).value ∧
      event.after.controller.mpcTrajectoryBuffer.active = (segmentAt 20 9).value := by
  intro tracked between event
  have start : flightMachine.Run FlightRuntime.StartedStaged SegmentsInOrder []
      (FlightRuntime.initial.setConfig aheadConfig) := .start ⟨aheadConfig, by decide, rfl⟩
  have run : flightMachine.Run FlightRuntime.StartedStaged SegmentsInOrder
      (event :: between :: tracked.1) event.after :=
    ((start.replay (aheadTurns [9, 20]) (by decide +kernel)).step betweenTurn
      (by decide +kernel)).step effectiveTurn (by decide +kernel)
  have law := active_segment_in_force run
  have received : segments (between :: tracked.1) = [segmentAt 20 9, segmentAt 9 8] := by
    decide +kernel
  have received' : segments (event :: between :: tracked.1) =
      [segmentAt 20 9, segmentAt 9 8] := by decide +kernel
  refine ⟨(law between tracked.1 (List.suffix_cons _ _) (by decide +kernel) _ ?_).mpr ?_,
    by decide +kernel, (law event _ List.suffix_rfl (by decide +kernel) _ ?_).mpr ?_⟩
  · rw [received]
    decide +kernel
  · rw [received]
    rintro (⟨-, early⟩ | alone)
    · exact absurd early (by decide +kernel)
    · exact alone
  · rw [received']
    decide +kernel
  · rw [received']
    rintro (⟨same, -⟩ | alone)
    · exact absurd same (by decide +kernel)
    · exact alone

/-- With a second one sent ahead the first is never active. -/
theorem active_segment_not_in_force :
    let tracked := flightMachine.replay [] (FlightRuntime.initial.setConfig aheadConfig)
      (aheadTurns [20, 30])
    let event := flightMachine.event tracked.2 effectiveTurn
    flightMachine.Run FlightRuntime.StartedStaged SegmentsInOrder (event :: tracked.1)
        event.after ∧
      event.before.flightState = .custom1 ∧
      latestDue (segments (event :: tracked.1)) event.input.now = some firstSegment ∧
      event.after.controller.mpcTrajectoryBuffer.active ≠ firstSegment.value := by
  intro tracked event
  have start : flightMachine.Run FlightRuntime.StartedStaged SegmentsInOrder []
      (FlightRuntime.initial.setConfig aheadConfig) := .start ⟨aheadConfig, by decide, rfl⟩
  have run := (start.replay (aheadTurns [20, 30]) (by decide +kernel)).step effectiveTurn
    (by decide +kernel)
  exact ⟨run, by decide +kernel, by decide +kernel, by decide +kernel⟩

end Ahead

end MultirotorController
