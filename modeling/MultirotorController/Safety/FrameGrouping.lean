import MultirotorController.Control.ExactMath
import MultirotorController.Module.SensorInput
import MultirotorController.Uav.FlightTracking
import MultirotorController.Uav.FrameConfirmation

/-!
# Grouping messages into turns

The module queues every flight-controller state and every pose, applies all that
have arrived and then ticks the leaf once. The leaf sees the last message of each
stream and one mark for it, so a burst counts as one frame.

Messages delivered one per turn and messages delivered in bursts are compared for
a leaf that waits for consecutive frames. The comparison starts between any two
turns of the waiting leaf and lets the two runs differ in everything that does not
reach its counter: times, timers and the rest of the controller.
-/

namespace MultirotorController

open Frames MultirotorController.Module

/-- The flight-controller states and the poses. -/
def frameStreams : List SensorStream := [.state, .localPose, .estimate, .pose]

namespace Confirmation

/-- The stream that the world pose of a backend comes from. -/
def poseStream (backend : TrackingBackend) (source : FeedbackSource) : SensorStream :=
  if trackingUsesFusedEstimate backend && source == .rigidEstimate then .estimate else .localPose

/-- What a stream is to a waiting leaf. -/
def role (backend : TrackingBackend) (source : FeedbackSource) (stream : SensorStream) :
    Confirmation → Role
  | altctl | offboard | armed => if stream = .state then .frame else .other
  | altitude => if stream = poseStream backend source then .frame else .other
  | touchdown =>
      if stream = poseStream backend source then .frame
      else if stream = .state then .acknowledgement
      else .other

/-- What the leaf would read after the samples received so far. -/
def shown (confirmation : Confirmation) (base : DroneController) (sensor : SensorData) : View :=
  confirmation.view { base with sensorData := sensor }

/-- The message that turns one view of the leaf into the next. -/
def message (view : View) : Role → Delivery
  | .other => .other
  | .frame => .frame view.live view.agrees
  | .acknowledgement => .acknowledgement view.acknowledged

/-- What one sample means to the leaf; nothing, if it cannot be recorded. -/
def delivery (confirmation : Confirmation) (base : DroneController) (sensing : Sensing)
    (sample : SensorSample) : Delivery :=
  match recorded sensing.statistics sample with
  | .error _ => .other
  | .ok _ =>
      message (confirmation.shown base (receiveSensor sensing sample).sensor)
        (confirmation.role base.backend sensing.sensor.feedbackSource sample.payload.stream)

/-- The fields of a frame that a leaf may read; it reads no stamp of an estimate. -/
def copied (payload : SensorPayload) (sensor : SensorData) : SensorData :=
  match payload with
  | .stateEstimate payload => writeEstimate payload sensor
  | payload => written payload sensor

theorem shown_copied (confirmation : Confirmation) (base : DroneController)
    (payload : SensorPayload) (sensor : SensorData) :
    confirmation.shown base (written payload sensor) =
      confirmation.shown base (copied payload sensor) := by
  cases payload with
  | stateEstimate payload =>
      dsimp only [written, copied]
      cases Time.ofFields payload.stampSec payload.stampNsec with
      | error error => rfl
      | ok stamp => cases confirmation <;> rfl
  | localPose | localVelocity | imu | fcuState | battery | vrpnPose => rfl

/-- A stream that the leaf does not read leaves its view, any other changes its own part. -/
theorem shown_written (confirmation : Confirmation) (base : DroneController) (sensor : SensorData)
    {payload : SensorPayload} (expected : payload.stream ∈ frameStreams) (receipt : Time) :
    confirmation.shown base (written payload
        (sensor.updateStats (Sensing.markReceived receipt) payload.stream)) =
      (message (confirmation.shown base (written payload
          (sensor.updateStats (Sensing.markReceived receipt) payload.stream)))
        (confirmation.role base.backend sensor.feedbackSource payload.stream)).seen
        (confirmation.shown base sensor) := by
  rw [shown_copied]
  cases payload
  case localVelocity | imu | battery => simp [SensorPayload.stream, frameStreams] at expected
  all_goals
    cases fused : trackingUsesFusedEstimate base.config.trackingBackend <;>
    cases source : sensor.feedbackSource <;>
    cases confirmation <;>
    simp [shown, view, role, poseStream, message, Delivery.seen, copied, written,
      writeEstimate, writeFcuState, writeLocalPose, writeVrpnPose, SensorData.updateStats,
      SensorPayload.stream,
      Sensing.markReceived, DroneController.isWorldPoseNew, DroneController.worldZ,
      DroneController.worldVz, DroneController.backend, SensorChecks.isWorldPoseNew,
      SensorChecks.isControlStateNew, SensorChecks.worldZ, SensorChecks.worldVz,
      SensorChecks.readsEstimate, SensorChecks.isControlStateActive,
      SensorChecks.isFcuConnected, SensorChecks.isFcuArmed,
      LandingState.landingFeedbackActive, LandingState.velocitySettled,
      LandingState.altitudeSettled, TakeoffAscendingState.altitudeSettled, fused, source]

variable (confirmation : Confirmation) (base : DroneController)

theorem shown_receiveSensor (sensing : Sensing) {sample : SensorSample}
    (expected : sample.payload.stream ∈ frameStreams) :
    confirmation.shown base (receiveSensor sensing sample).sensor =
      (confirmation.delivery base sensing sample).seen
        (confirmation.shown base sensing.sensor) := by
  unfold delivery
  rw [receiveSensor_eq]
  cases recorded sensing.statistics sample with
  | error error => rfl
  | ok entry => exact shown_written confirmation base sensing.sensor expected entry.1

theorem shown_resetNewFlags (sensor : SensorData) :
    confirmation.shown base sensor.resetNewFlags = (confirmation.shown base sensor).cleared := by
  cases fused : trackingUsesFusedEstimate base.config.trackingBackend <;>
  cases source : sensor.feedbackSource <;>
  cases confirmation <;>
  simp [shown, view, View.cleared, SensorData.resetNewFlags, DroneController.isWorldPoseNew,
    DroneController.worldZ, DroneController.worldVz, DroneController.backend,
    SensorChecks.isWorldPoseNew, SensorChecks.isControlStateNew, SensorChecks.worldZ,
    SensorChecks.worldVz, SensorChecks.readsEstimate, SensorChecks.isControlStateActive,
    LandingState.landingFeedbackActive, LandingState.velocitySettled,
    LandingState.altitudeSettled, TakeoffAscendingState.altitudeSettled, fused, source]

/-- The answer of the flight controller, which alone decides what a state acknowledges. -/
theorem acknowledged_written (sensor : SensorData) (payload : FcuStatePayload)
    (receipt : Time) :
    (touchdown.shown base (written (.fcuState payload)
        (sensor.updateStats (Sensing.markReceived receipt) .state))).acknowledged =
      (payload.connected != 0 && !(payload.armed != 0)) := by
  simp [shown, view, written, writeFcuState, SensorData.updateStats, Sensing.markReceived,
    SensorChecks.isFcuConnected, SensorChecks.isFcuArmed]

theorem delivery_resetNewFlags (sensing : Sensing) (sample : SensorSample) :
    confirmation.delivery base sensing.resetNewFlags sample =
      confirmation.delivery base sensing sample := by
  have same : recorded sensing.resetNewFlags.statistics sample =
      recorded sensing.statistics sample := rfl
  have source : sensing.resetNewFlags.sensor.feedbackSource = sensing.sensor.feedbackSource := rfl
  have cleared : (confirmation.shown base
      (receiveSensor sensing.resetNewFlags sample).sensor).cleared =
      (confirmation.shown base (receiveSensor sensing sample).sensor).cleared := by
    rw [← shown_resetNewFlags, ← shown_resetNewFlags]
    exact congrArg (confirmation.shown base ∘ Sensing.sensor)
      (receiveSensor_resetNewFlags sensing sample)
  unfold delivery
  rw [same, source]
  cases entry : recorded sensing.statistics sample with
  | error error => rfl
  | ok entry' =>
      have live := congrArg View.live cleared
      have agrees := congrArg View.agrees cleared
      cases awaited : confirmation.role base.backend sensing.sensor.feedbackSource
          sample.payload.stream with
      | other => rfl
      | frame => exact congrArg₂ Delivery.frame live agrees
      | acknowledgement =>
          obtain ⟨rfl, stated⟩ : confirmation = .touchdown ∧ sample.payload.stream = .state := by
            cases confirmation <;> simp only [role] at awaited <;> split at awaited <;>
              simp_all
          obtain ⟨stampNs, payload⟩ := sample
          obtain ⟨payload, rfl⟩ : ∃ payload', payload = .fcuState payload' := by
            cases payload <;> simp_all [SensorPayload.stream]
          refine congrArg Delivery.acknowledgement ?_
          rw [receiveSensor_eq, receiveSensor_eq, same, entry]
          exact (acknowledged_written base _ payload entry'.1).trans
            (acknowledged_written base _ payload entry'.1).symm

/-- What a sequence of samples means to the leaf. -/
def deliveries (sensing : Sensing) : List SensorSample → List Delivery
  | [] => []
  | sample :: samples =>
      confirmation.delivery base sensing sample :: deliveries (receiveSensor sensing sample) samples

theorem shown_foldl (samples : List SensorSample)
    (expected : ∀ sample ∈ samples, sample.payload.stream ∈ frameStreams) (sensing : Sensing) :
    confirmation.shown base (samples.foldl receiveSensor sensing).sensor =
      (confirmation.deliveries base sensing samples).foldl Delivery.seen
        (confirmation.shown base sensing.sensor) := by
  induction samples generalizing sensing with
  | nil => rfl
  | cons sample samples step =>
      rw [List.foldl_cons, step fun later member => expected later (List.mem_cons_of_mem _ member),
        shown_receiveSensor confirmation base sensing (expected sample List.mem_cons_self)]
      rfl

/-- Only the new marks may differ. -/
theorem deliveries_congr (samples : List SensorSample) {first second : Sensing}
    (same : first.resetNewFlags = second.resetNewFlags) :
    confirmation.deliveries base first samples = confirmation.deliveries base second samples := by
  induction samples generalizing first second with
  | nil => rfl
  | cons sample samples step =>
      have next : (receiveSensor first sample).resetNewFlags =
          (receiveSensor second sample).resetNewFlags := by
        rw [← receiveSensor_resetNewFlags, same, receiveSensor_resetNewFlags]
      rw [deliveries, deliveries, step next, ← delivery_resetNewFlags, same,
        delivery_resetNewFlags]

theorem deliveries_append (first second : List SensorSample) (sensing : Sensing) :
    confirmation.deliveries base sensing (first ++ second) =
      confirmation.deliveries base sensing first ++
        confirmation.deliveries base (first.foldl receiveSensor sensing) second := by
  induction first generalizing sensing with
  | nil => rfl
  | cons sample first step =>
      rw [List.cons_append, deliveries, step]
      rfl

end Confirmation

/-- A sample writes no selection of the feedback source. -/
theorem feedbackSource_receiveSensor (sensing : Sensing) (sample : SensorSample) :
    (receiveSensor sensing sample).sensor.feedbackSource = sensing.sensor.feedbackSource := by
  rw [receiveSensor_eq]
  cases recorded sensing.statistics sample with
  | error error => rfl
  | ok entry =>
      obtain ⟨stampNs, payload⟩ := sample
      cases payload with
      | stateEstimate payload =>
          dsimp only [written]
          cases Time.ofFields payload.stampSec payload.stampNsec <;> rfl
      | localPose | localVelocity | imu | fcuState | battery | vrpnPose => rfl

theorem feedbackSource_foldl (samples : List SensorSample) (sensing : Sensing) :
    (samples.foldl receiveSensor sensing).sensor.feedbackSource =
      sensing.sensor.feedbackSource := by
  induction samples generalizing sensing with
  | nil => rfl
  | cons sample samples step =>
      rw [List.foldl_cons, step, feedbackSource_receiveSensor]

namespace Confirmation

variable (confirmation : Confirmation) (base : DroneController)

/-- A recorded sample has the role of its stream, a refused one none. -/
theorem role_delivery (sensing : Sensing) (sample : SensorSample) :
    (confirmation.delivery base sensing sample).role = .other ∨
      (confirmation.delivery base sensing sample).role =
        confirmation.role base.backend sensing.sensor.feedbackSource sample.payload.stream := by
  unfold delivery
  cases recorded sensing.statistics sample with
  | error error => exact .inl rfl
  | ok entry =>
      refine .inr ?_
      cases confirmation.role base.backend sensing.sensor.feedbackSource sample.payload.stream <;>
        rfl

theorem roles_deliveries (samples : List SensorSample) (sensing : Sensing) :
    (((confirmation.deliveries base sensing samples).map Delivery.role).filter
        (· ≠ .other)).Sublist
      ((samples.map fun sample => confirmation.role base.backend sensing.sensor.feedbackSource
        sample.payload.stream).filter (· ≠ .other)) := by
  induction samples generalizing sensing with
  | nil => exact .slnil
  | cons sample samples step =>
      have rest := step (receiveSensor sensing sample)
      rw [feedbackSource_receiveSensor] at rest
      simp only [deliveries, List.map_cons]
      obtain none | same := role_delivery confirmation base sensing sample
      · rw [List.filter_cons_of_neg (by simp [none])]
        exact rest.trans ((List.sublist_cons_self _ _).filter _)
      · rw [same, List.filter_cons, List.filter_cons]
        split
        · exact rest.cons_cons _
        · exact rest

/-- A burst whose streams leave room is one the counter loses nothing of. -/
theorem oneOfEach_deliveries {samples : List SensorSample} {sensing : Sensing}
    (shape : OneOfEach (samples.map fun sample => confirmation.role base.backend
      sensing.sensor.feedbackSource sample.payload.stream)) :
    OneOfEach ((confirmation.deliveries base sensing samples).map Delivery.role) :=
  (roles_deliveries confirmation base samples sensing).trans shape

end Confirmation

section Runs

variable [Xgc2Math] [Libm]

/-- The streams whose samples a waiting leaf counts or takes as an acknowledgement. -/
inductive FrameStream where
  | fcuState
  | localPose
  | stateEstimate
  | vrpnPose
deriving DecidableEq, Repr

def FrameStream.stream : FrameStream → SensorStream
  | fcuState => .state
  | localPose => .localPose
  | stateEstimate => .estimate
  | vrpnPose => .pose

/-- One owner turn of a waiting leaf: the samples that have arrived, in the order in which
they are applied, and the controller around the leaf when it ticks. -/
structure FrameTurn where
  host : DroneController := {}
  samples : List SensorSample := []

def FrameTurn.streams (turn : FrameTurn) : List SensorStream :=
  turn.samples.map (·.payload.stream)

/-- What the turns of a waiting leaf work on. -/
structure FrameDesk where
  sensing : Sensing
  leaf : FlightLeaf

namespace FrameDesk

/-- Every sample is applied, the leaf ticks once, the new marks are cleared. -/
def deliver (desk : FrameDesk) (turn : FrameTurn) : FrameDesk :=
  let sensing := turn.samples.foldl receiveSensor desk.sensing
  { sensing := sensing.resetNewFlags
    leaf := (desk.leaf.onTick { turn.host with sensorData := sensing.sensor }).1.leaf }

def run (desk : FrameDesk) (turns : List FrameTurn) : FrameDesk := turns.foldl deliver desk

end FrameDesk

namespace FlightRuntime

end FlightRuntime

namespace Confirmation

variable (confirmation : Confirmation) (base : DroneController)

/-- The configuration stays, and in the climb the target too, which has not timed out. -/
structure Steady (turn : FrameTurn) : Prop where
  config : turn.host.config = base.config
  target : confirmation = .altitude → turn.host.setpoint = base.setpoint
  inTime : confirmation = .altitude →
    turn.host.flightElapsed ≤ TakeoffAscendingState.ascendingTimeout

/-- What the counter has to do with a desk. -/
def reading (desk : FrameDesk) : Frames.Desk :=
  ⟨confirmation.shown base desk.sensing.sensor, desk.leaf.progress⟩

/-- The leaf waits, and a turn without messages would change nothing: the state between two
turns. -/
structure Waiting (desk : FrameDesk) : Prop where
  waits : desk.leaf.confirmation = some confirmation
  settled : Settled confirmation.counter (confirmation.reading base desk)

/-- What the samples of the turns mean to the leaf, turn by turn. -/
def bursts (sensing : Sensing) : List FrameTurn → List (List Delivery)
  | [] => []
  | turn :: turns =>
      confirmation.deliveries base sensing turn.samples ::
        bursts (turn.samples.foldl receiveSensor sensing).resetNewFlags turns

variable {confirmation base}

/-- A turn of the leaf is a turn of its counter. -/
theorem reading_deliver {desk : FrameDesk} (waits : desk.leaf.confirmation = some confirmation)
    {turn : FrameTurn} (steady : Steady confirmation base turn)
    (expected : ∀ stream ∈ turn.streams, stream ∈ frameStreams) :
    (desk.deliver turn).leaf.confirmation = some confirmation ∧
      confirmation.reading base (desk.deliver turn) =
        Frames.turn confirmation.counter (confirmation.reading base desk)
          (confirmation.deliveries base desk.sensing turn.samples) := by
  have sensed : ∀ sample ∈ turn.samples, sample.payload.stream ∈ frameStreams :=
    fun sample member => expected _ (List.mem_map_of_mem member)
  have ticked := FlightLeaf.onTick_progress
    { turn.host with sensorData := (turn.samples.foldl receiveSensor desk.sensing).sensor } waits
    steady.inTime
  refine ⟨ticked.1, congrArg₂ Frames.Desk.mk ?_ ?_⟩
  · change confirmation.shown base
      (turn.samples.foldl receiveSensor desk.sensing).sensor.resetNewFlags = _
    rw [shown_resetNewFlags, shown_foldl confirmation base _ sensed]
    rfl
  · have same : confirmation.view { turn.host with
        sensorData := (turn.samples.foldl receiveSensor desk.sensing).sensor } =
        confirmation.shown base (turn.samples.foldl receiveSensor desk.sensing).sensor := by
      change _ = confirmation.view { base with
        sensorData := (turn.samples.foldl receiveSensor desk.sensing).sensor }
      apply view_congr
      · exact steady.config
      · rfl
      · exact steady.target
    change FlightLeaf.progress (desk.leaf.onTick _).1.leaf = _
    rw [ticked.2, same, shown_foldl confirmation base _ sensed]
    rfl

/-- A run of the leaf is a run of its counter. -/
theorem reading_run (turns : List FrameTurn) {desk : FrameDesk}
    (waits : desk.leaf.confirmation = some confirmation)
    (steady : ∀ turn ∈ turns, Steady confirmation base turn)
    (expected : ∀ turn ∈ turns, ∀ stream ∈ turn.streams, stream ∈ frameStreams) :
    confirmation.reading base (desk.run turns) =
      Frames.run confirmation.counter (confirmation.reading base desk)
        (confirmation.bursts base desk.sensing turns) := by
  induction turns generalizing desk with
  | nil => rfl
  | cons turn turns step =>
      obtain ⟨waits', read⟩ := reading_deliver waits (steady turn List.mem_cons_self)
        (expected turn List.mem_cons_self)
      change confirmation.reading base ((desk.deliver turn).run turns) = _
      rw [step waits' (fun later member => steady later (List.mem_cons_of_mem _ member))
        fun later member => expected later (List.mem_cons_of_mem _ member), read]
      rfl

omit [Xgc2Math] [Libm] in
/-- How the samples are grouped does not change what they mean. -/
theorem flatten_bursts (turns : List FrameTurn) (sensing : Sensing) :
    (confirmation.bursts base sensing turns).flatten =
      confirmation.deliveries base sensing (turns.flatMap (·.samples)) := by
  induction turns generalizing sensing with
  | nil => rfl
  | cons turn turns step =>
      rw [bursts, List.flatten_cons, step, List.flatMap_cons, deliveries_append,
        deliveries_congr confirmation base (turns.flatMap (·.samples))
          (resetNewFlags_idem (turn.samples.foldl receiveSensor sensing))]

omit [Xgc2Math] [Libm] in
theorem oneOfEach_bursts {backend : TrackingBackend} {source : FeedbackSource}
    (configured : base.backend = backend) (turns : List FrameTurn) {sensing : Sensing}
    (selected : sensing.sensor.feedbackSource = source)
    (shapes : ∀ turn ∈ turns,
      OneOfEach (turn.streams.map fun stream => confirmation.role backend source stream)) :
    ∀ burst ∈ confirmation.bursts base sensing turns,
      OneOfEach (burst.map Delivery.role) := by
  induction turns generalizing sensing with
  | nil => simp [bursts]
  | cons turn turns step =>
      intro burst member
      obtain rfl | later := List.mem_cons.mp member
      · refine oneOfEach_deliveries confirmation base ?_
        have shape := shapes turn List.mem_cons_self
        rw [FrameTurn.streams, List.map_map] at shape
        rw [configured, selected]
        exact shape
      · refine step ?_ (fun later member => shapes later (List.mem_cons_of_mem _ member)) burst
          later
        exact (feedbackSource_foldl turn.samples sensing).trans selected

omit [Xgc2Math] [Libm] in
theorem length_deliveries (samples : List SensorSample) (sensing : Sensing) :
    (confirmation.deliveries base sensing samples).length = samples.length := by
  induction samples generalizing sensing with
  | nil => rfl
  | cons sample samples step => simp [deliveries, step]

omit [Xgc2Math] [Libm] in
/-- Turns of one sample each are the messages one by one. -/
theorem bursts_single (turns : List FrameTurn)
    (single : ∀ turn ∈ turns, turn.samples.length = 1) (sensing : Sensing) :
    confirmation.bursts base sensing turns =
      (confirmation.bursts base sensing turns).flatten.map ([·]) := by
  induction turns generalizing sensing with
  | nil => rfl
  | cons turn turns step =>
      have length : (confirmation.deliveries base sensing turn.samples).length = 1 :=
        (length_deliveries turn.samples sensing).trans (single turn List.mem_cons_self)
      obtain ⟨message, only⟩ := List.length_eq_one_iff.mp length
      rw [bursts, List.flatten_cons, List.map_append, only,
        ← step fun later member => single later (List.mem_cons_of_mem _ member)]
      rfl

/-- For a leaf that waits with this backend and feedback source, the way in which messages
are grouped into turns does not change how far the leaf gets: from any state between two
turns, any messages that arrive in a part of the grouping bring it as far as they do one
per turn. -/
def IgnoresGrouping (confirmation : Confirmation) (backend : TrackingBackend)
    (source : FeedbackSource) (grouping : List (List FrameStream)) : Prop :=
  ∀ (base : DroneController) (desk : FrameDesk), base.backend = backend →
    Waiting confirmation base desk → desk.sensing.sensor.feedbackSource = source →
    ∀ turns alone : List FrameTurn, (∀ turn ∈ turns, Steady confirmation base turn) →
      (∀ turn ∈ alone, Steady confirmation base turn ∧ turn.samples.length = 1) →
      turns.map FrameTurn.streams <:+: grouping.map (·.map FrameStream.stream) →
      alone.flatMap (·.samples) = turns.flatMap (·.samples) →
      (desk.run turns).leaf.progress = (desk.run alone).leaf.progress

omit [Xgc2Math] [Libm] in
theorem FrameStream.stream_mem (stream : FrameStream) : stream.stream ∈ frameStreams := by
  cases stream <;> decide

/-- A grouping that leaves each turn at most one frame, and after it at most one
acknowledgement, is ignored. -/
theorem ignoresGrouping_of_oneOfEach {backend : TrackingBackend} {source : FeedbackSource}
    {grouping : List (List FrameStream)}
    (shapes : ∀ turn ∈ grouping, OneOfEach (turn.map fun stream =>
      confirmation.role backend source stream.stream)) :
    IgnoresGrouping confirmation backend source grouping := by
  intro base desk configured waiting selected turns alone steady single grouped same
  have grouped : ∀ turn ∈ turns, ∃ streams ∈ grouping,
      turn.streams = streams.map FrameStream.stream := by
    intro turn member
    obtain ⟨streams, known, named⟩ :=
      List.mem_map.mp (grouped.subset (List.mem_map_of_mem member))
    exact ⟨streams, known, named.symm⟩
  have expected : ∀ turn ∈ turns, ∀ stream ∈ turn.streams, stream ∈ frameStreams := by
    intro turn member stream named
    obtain ⟨streams, -, all⟩ := grouped turn member
    rw [all] at named
    obtain ⟨stream, -, rfl⟩ := List.mem_map.mp named
    exact FrameStream.stream_mem stream
  have expectedAlone : ∀ turn ∈ alone, ∀ stream ∈ turn.streams, stream ∈ frameStreams := by
    intro turn member stream named
    obtain ⟨sample, carried, rfl⟩ := List.mem_map.mp named
    have carried : sample ∈ turns.flatMap (·.samples) := by
      rw [← same]
      exact List.mem_flatMap.mpr ⟨turn, member, carried⟩
    obtain ⟨turn', member', carried'⟩ := List.mem_flatMap.mp carried
    exact expected turn' member' _ (List.mem_map_of_mem carried')
  have fits : ∀ turn ∈ turns,
      OneOfEach (turn.streams.map fun stream => confirmation.role backend source stream) := by
    intro turn member
    obtain ⟨streams, known, all⟩ := grouped turn member
    rw [all, List.map_map]
    exact shapes streams known
  have together := reading_run turns waiting.waits steady expected
  rw [run_eq_alone waiting.settled _ (oneOfEach_bursts configured turns selected fits),
    flatten_bursts, ← same] at together
  have apart := reading_run alone waiting.waits (fun turn member => (single turn member).1)
    expectedAlone
  rw [bursts_single alone fun turn member => (single turn member).2, flatten_bursts] at apart
  exact congrArg Frames.Desk.progress (together.trans apart.symm)

section Divergence

/-- A frame that a leaf agrees with, or one it does not; the poses are at rest. -/
def trial (confirmation : Confirmation) (yes : Bool) : FrameStream → SensorSample
  | .fcuState =>
      { payload := .fcuState {
          connected := 1
          armed := if yes = (confirmation != .touchdown) then 1 else 0
          mode :=
            if !yes then []
            else if confirmation = .offboard then "OFFBOARD".toList
            else "ALTCTL".toList } }
  | .localPose => { payload := .localPose { position := ⟨0, 0, if yes then 0 else 10⟩ } }
  | .stateEstimate => { payload := .stateEstimate { position := ⟨0, 0, if yes then 0 else 10⟩ } }
  | .vrpnPose => { payload := .vrpnPose {} }

/-- A sensing in which every stream is live, at rest and ready to record. -/
structure Receptive (source : FeedbackSource) (sensing : Sensing) : Prop where
  unstamped : ∀ stream, (sensing.statistics.tracks stream).last = {}
  selected : sensing.sensor.feedbackSource = source
  estimate : sensing.sensor.uavStateEstimateStats.isActive = true
  localPose : sensing.sensor.localPosStats.isActive = true
  localVelocity : sensing.sensor.localVelocityStats.isActive = true
  imu : sensing.sensor.imuStats.isActive = true
  atRest : sensing.sensor.vz = 0 ∧ sensing.sensor.localVz = 0

def receptive (source : FeedbackSource) : Sensing where
  sensor := {
    feedbackSource := source
    uavStateEstimateStats := { isActive := true }
    localPosStats := { isActive := true }
    localVelocityStats := { isActive := true }
    imuStats := { isActive := true } }

omit [Xgc2Math] [Libm] in
theorem receptive_receptive (source : FeedbackSource) : Receptive source (receptive source) :=
  ⟨fun _ => rfl, rfl, rfl, rfl, rfl, rfl, rfl, rfl⟩

/-- The controller around the leaf in a trial. -/
def trialBase (backend : TrackingBackend) : DroneController where
  config := { trackingBackend := backend }

omit [Xgc2Math] [Libm] in
theorem recorded_trial {source : FeedbackSource} {sensing : Sensing}
    (ready : Receptive source sensing) (confirmation : Confirmation) (yes : Bool)
    (stream : FrameStream) :
    recorded sensing.statistics (trial confirmation yes stream) = .ok ({}, 0) := by
  have clock : time 0 = .ok {} := by decide
  have stamped : (trial confirmation yes stream).stampNs = 0 := by cases stream <;> rfl
  simp only [recorded, stamped, clock, Sensing.interval, ready.unstamped]
  rfl

omit [Xgc2Math] [Libm] in
theorem receptive_receiveSensor {source : FeedbackSource} {sensing : Sensing}
    (ready : Receptive source sensing) (confirmation : Confirmation) (yes : Bool)
    (stream : FrameStream) :
    Receptive source (receiveSensor sensing (trial confirmation yes stream)) := by
  rw [receiveSensor_eq, recorded_trial ready]
  obtain ⟨unstamped, selected, estimate, localPose, localVelocity, imu, atRest⟩ := ready
  have tracks : ∀ other, ((record sensing (trial confirmation yes stream) {} 0).statistics.tracks
      other).last = {} := by
    intro other
    change (if other = _ then Sensing.push _ {} 0 else sensing.statistics.tracks other).last = {}
    split
    · dsimp only [Sensing.push]
      split <;> rfl
    · exact unstamped other
  have stamp : Time.ofFields 0 0 = .ok {} := by decide
  cases stream with
  | fcuState => exact ⟨tracks, selected, estimate, localPose, localVelocity, imu, atRest⟩
  | localPose => exact ⟨tracks, selected, estimate, rfl, localVelocity, imu, atRest⟩
  | stateEstimate =>
      simp only [trial, written, stamp]
      exact ⟨tracks, selected, rfl, localPose, localVelocity, imu, rfl, atRest.2⟩
  | vrpnPose => exact ⟨tracks, selected, estimate, localPose, localVelocity, imu, atRest⟩

omit [Xgc2Math] [Libm] in
/-- A trial frame says what it is meant to say. -/
theorem delivery_trial {source : FeedbackSource} {sensing : Sensing}
    (ready : Receptive source sensing) (confirmation : Confirmation) (backend : TrackingBackend)
    (yes : Bool) (stream : FrameStream) :
    confirmation.delivery (trialBase backend) sensing (trial confirmation yes stream) =
      say yes (confirmation.role backend source stream.stream) := by
  have near : (0 : Double) ≤ 0.1 ∧ ¬(10 : Double) ≤ 0.1 ∧ (0 - 0 : Double).abs ≤ 0.1 ∧
      ¬(10 - 0 : Double).abs ≤ 0.1 ∧ (0 : Double).abs < 0.05 ∧ (0 : Double).abs ≤ 0.1 ∧
      (0 : Double).isFinite = true ∧ (10 : Double).isFinite = true := by decide +kernel
  have modes : boundedString [] modeCapacity = "" ∧
      boundedString ['A', 'L', 'T', 'C', 'T', 'L'] modeCapacity = "ALTCTL" ∧
      boundedString ['O', 'F', 'F', 'B', 'O', 'A', 'R', 'D'] modeCapacity = "OFFBOARD" := by
    decide
  unfold delivery
  rw [recorded_trial ready, receiveSensor_eq, recorded_trial ready]
  dsimp only
  rw [shown_copied]
  obtain ⟨unstamped, rfl, estimate, localPose, localVelocity, imu, vz, localVz⟩ := ready
  cases fused : trackingUsesFusedEstimate backend <;>
  cases source : sensing.sensor.feedbackSource <;>
  cases stream <;> cases confirmation <;> cases yes <;>
  simp [shown, view, role, poseStream, message, say, trial, trialBase, copied, written, record,
    writeEstimate, writeFcuState, writeLocalPose, Sensing.updateStats,
    Sensing.updateTrack, SensorData.updateStats,
    SensorPayload.stream, FrameStream.stream, Sensing.markReceived, DroneController.isWorldPoseNew,
    DroneController.worldZ, DroneController.worldVz, DroneController.backend,
    SensorChecks.isWorldPoseNew, SensorChecks.isControlStateNew, SensorChecks.worldZ,
    SensorChecks.worldVz, SensorChecks.readsEstimate, SensorChecks.isControlStateActive,
    SensorChecks.isFcuConnected, SensorChecks.isFcuArmed,
    LandingState.landingFeedbackActive, LandingState.velocitySettled,
    LandingState.altitudeSettled, TakeoffAscendingState.altitudeSettled,
    TakeoffAscendingState.altitudeThreshold, TakeoffAscendingState.velocityThreshold,
    LandingState.touchdownVelocityThreshold, LandingState.groundAltitude, fused, source,
    estimate, localPose, localVelocity, imu, vz, localVz, near, modes]

/-- The leaf that waits for a confirmation, at a count. -/
def waitingLeaf (frames : Nat) : Confirmation → FlightLeaf
  | altctl => .takeoffInit { altctlFrameCount := frames }
  | offboard => .takeoffOffboardRequest { confirmedOffboardFrames := frames }
  | armed => .takeoffArmRequest { confirmedArmFrames := frames }
  | altitude => .takeoffAscending { confirmedSettledFrames := frames }
  | touchdown =>
      .landing { confirmedLandedFrames := frames, worldFrame := Setpoint.coordinateFrame_default }

omit [Libm] in
theorem waitingLeaf_spec (frames : Nat) (confirmation : Confirmation) :
    (waitingLeaf frames confirmation).confirmation = some confirmation ∧
      (waitingLeaf frames confirmation).progress = .counting frames := by
  cases confirmation <;> exact ⟨rfl, rfl⟩

/-- The answer that a message gives. -/
def heard : Delivery → Bool
  | .other => true
  | .frame _ agrees => agrees
  | .acknowledgement given => given

def trials (confirmation : Confirmation) (streams : List FrameStream)
    (messages : List Delivery) : List SensorSample :=
  List.zipWith (fun stream message => trial confirmation (heard message) stream) streams messages

omit [Xgc2Math] [Libm] in
theorem deliveries_trials (confirmation : Confirmation) (backend : TrackingBackend)
    (streams : List FrameStream) {source : FeedbackSource} {sensing : Sensing}
    (ready : Receptive source sensing) {messages : List Delivery}
    (roles : messages.map Delivery.role =
      streams.map fun stream => confirmation.role backend source stream.stream)
    (live : ∀ agrees, .frame false agrees ∉ messages) :
    confirmation.deliveries (trialBase backend) sensing (trials confirmation streams messages) =
      messages := by
  induction streams generalizing sensing messages with
  | nil =>
      have none : messages = [] := by simpa using roles
      subst none
      rfl
  | cons stream streams step =>
      cases messages with
      | nil => simp at roles
      | cons message messages =>
          simp only [List.map_cons, List.cons.injEq] at roles
          have said : say (heard message)
              (confirmation.role backend source stream.stream) = message := by
            rw [← roles.1]
            cases message with
            | other => rfl
            | frame alive agrees =>
                cases alive with
                | true => rfl
                | false => exact (live agrees List.mem_cons_self).elim
            | acknowledgement given => rfl
          change _ :: _ = _
          refine congrArg₂ List.cons ?_ ?_
          · exact (delivery_trial ready confirmation backend _ stream).trans said
          · exact step (receptive_receiveSensor ready confirmation _ stream) roles.2
              fun agrees member => live agrees (List.mem_cons_of_mem _ member)

omit [Xgc2Math] [Libm] in
theorem streams_trials (confirmation : Confirmation) {streams : List FrameStream}
    {messages : List Delivery} (length : messages.length = streams.length) :
    (trials confirmation streams messages).map (·.payload.stream) =
      streams.map FrameStream.stream := by
  induction streams generalizing messages with
  | nil => rfl
  | cons stream streams step =>
      cases messages with
      | nil => simp at length
      | cons message messages =>
          refine congrArg₂ List.cons ?_ (step (by simpa using length))
          cases stream <;> rfl

omit [Xgc2Math] [Libm] in
/-- The frames needed are several where an acknowledgement is awaited. -/
theorem required_bounds (confirmation : Confirmation) :
    0 < confirmation.counter.required ∧
      (confirmation.counter.awaitsAcknowledgement = true →
        1 < confirmation.counter.required) := by
  cases confirmation <;> decide

/-- A grouping with any other turn is not ignored. -/
theorem oneOfEach_of_ignoresGrouping {backend : TrackingBackend} {source : FeedbackSource}
    {grouping : List (List FrameStream)}
    (ignored : IgnoresGrouping confirmation backend source grouping) {streams : List FrameStream}
    (known : streams ∈ grouping) :
    OneOfEach (streams.map fun stream => confirmation.role backend source stream.stream) := by
  by_contra crowded
  obtain ⟨positive, several⟩ := required_bounds confirmation
  have awaited : Role.acknowledgement ∈
      streams.map (fun stream => confirmation.role backend source stream.stream) →
      confirmation.counter.awaitsAcknowledgement = true := by
    intro member
    obtain ⟨stream, -, named⟩ := List.mem_map.mp member
    cases confirmation <;> first | rfl | (simp only [role] at named; split at named <;> cases named)
  obtain ⟨frames, below, messages, roles, live, diverges⟩ :=
    exists_diverging positive several awaited crowded
  let desk : FrameDesk := ⟨receptive source, waitingLeaf frames confirmation⟩
  let base := trialBase backend
  have ready := receptive_receptive source
  obtain ⟨waits, counting⟩ := waitingLeaf_spec frames confirmation
  have waits : desk.leaf.confirmation = some confirmation := waits
  have cleared : (confirmation.shown base (receptive source).sensor).cleared =
      confirmation.shown base (receptive source).sensor :=
    (shown_resetNewFlags confirmation base (receptive source).sensor).symm
  have lively : (confirmation.shown base (receptive source).sensor).live = true := by
    cases confirmation <;> try rfl
    cases source <;> cases backend <;> decide +kernel
  have read : confirmation.reading base desk =
      ⟨confirmation.shown base (receptive source).sensor, .counting frames⟩ :=
    congrArg (Frames.Desk.mk _) counting
  have waiting : Waiting confirmation base desk := by
    refine ⟨waits, ?_⟩
    rw [read]
    exact settled_counting cleared lively (below.imp id And.right)
  have said := deliveries_trials confirmation backend streams ready roles live
  have length : messages.length = streams.length := by
    simpa using congrArg List.length roles
  have named := streams_trials confirmation length
  let samples := trials confirmation streams messages
  let apart := samples.map fun sample => ({ host := base, samples := [sample] } : FrameTurn)
  have inTime : base.flightElapsed ≤ TakeoffAscendingState.ascendingTimeout := by
    change DroneController.flightElapsed {} ≤ _
    decide +kernel
  have steady : ∀ samples, Steady confirmation base { host := base, samples } :=
    fun samples => ⟨rfl, fun _ => rfl, fun _ => inTime⟩
  have same : apart.flatMap (·.samples) = samples := by
    simp [apart, List.flatMap_map]
  have equal := ignored base desk rfl waiting rfl [{ host := base, samples }] apart
    (fun turn member => by rw [List.mem_singleton.mp member]; exact steady samples)
    (fun turn member => by
      obtain ⟨sample, -, rfl⟩ := List.mem_map.mp member
      exact ⟨steady [sample], rfl⟩)
    (by
      obtain ⟨before, after, split⟩ := List.append_of_mem known
      refine ⟨before.map (·.map FrameStream.stream), after.map (·.map FrameStream.stream), ?_⟩
      rw [split, List.map_append, List.map_cons, List.append_assoc]
      refine congrArg _ (congrArg (· :: _) ?_)
      exact named)
    (by rw [same]; simp)
  have expected : ∀ turn : FrameTurn, (∀ sample ∈ turn.samples, sample ∈ samples) →
      ∀ stream ∈ turn.streams, stream ∈ frameStreams := by
    intro turn among stream member
    obtain ⟨sample, carried, rfl⟩ := List.mem_map.mp member
    have listed : sample.payload.stream ∈ streams.map FrameStream.stream := by
      rw [← named]
      exact List.mem_map_of_mem (f := (·.payload.stream)) (among sample carried)
    obtain ⟨stream, -, named⟩ := List.mem_map.mp listed
    rw [← named]
    exact FrameStream.stream_mem stream
  have together := (reading_deliver waits (steady samples)
    (expected { host := base, samples } fun _ => id)).2
  have separate := reading_run apart waits
    (fun turn member => by
      obtain ⟨sample, -, rfl⟩ := List.mem_map.mp member
      exact steady [sample])
    (fun turn member => expected turn fun sample carried => by
      obtain ⟨sample', listed, rfl⟩ := List.mem_map.mp member
      rw [List.mem_singleton.mp carried]
      exact listed)
  rw [bursts_single apart (fun turn member => by
      obtain ⟨sample, -, rfl⟩ := List.mem_map.mp member
      rfl), flatten_bursts, same, said, read] at separate
  rw [said, read] at together
  refine diverges _ cleared lively ?_
  have first := congrArg Frames.Desk.progress together
  have second := congrArg Frames.Desk.progress separate
  exact first.symm.trans (equal.trans second)

end Divergence

/-- Grouping is ignored exactly when no turn of it holds two frames of the stream that the
leaf counts. Landing, which also waits for the disarmed state, is indifferent only to a pose
followed by at most one such state. -/
theorem ignoresGrouping_iff (confirmation : Confirmation) (backend : TrackingBackend)
    (source : FeedbackSource) (grouping : List (List FrameStream)) :
    IgnoresGrouping confirmation backend source grouping ↔
      ∀ turn ∈ grouping,
        OneOfEach (turn.map fun stream => confirmation.role backend source stream.stream) :=
  ⟨fun ignored _ known => oneOfEach_of_ignoresGrouping ignored known,
    ignoresGrouping_of_oneOfEach⟩

end Confirmation

end Runs

section Burst

open ExactMath

/-- A flight-controller state that reports a mode. -/
def modeReport (stampNs : Int64) (mode : String) : SensorSample :=
  { stampNs, payload := .fcuState { connected := 1, mode := mode.toList } }

/-- TakeoffInit as it is entered. -/
def takeoffInitDesk : FrameDesk where
  sensing := {}
  leaf := .takeoffInit (TakeoffInitState.onEnter ⟨{}, {}⟩).leaf

/-- Two reports of ALTCTL in one turn are one frame, and a report of another mode between
two of them goes unnoticed. -/
theorem altctl_burst_miscounted :
    (takeoffInitDesk.run
        [{ samples := [modeReport 1000 "ALTCTL", modeReport 2000 "ALTCTL"] }]).leaf.progress =
      .counting 1 ∧
    (takeoffInitDesk.run
        [{ samples := [modeReport 1000 "ALTCTL"] },
          { samples := [modeReport 2000 "ALTCTL"] }]).leaf.progress = .confirmed ∧
    (takeoffInitDesk.run
        [{ samples := [modeReport 1000 "ALTCTL"] },
          { samples := [modeReport 2000 "MANUAL", modeReport 3000 "ALTCTL"] }]).leaf.progress =
      .confirmed ∧
    (takeoffInitDesk.run
        [{ samples := [modeReport 1000 "ALTCTL"] }, { samples := [modeReport 2000 "MANUAL"] },
          { samples := [modeReport 3000 "ALTCTL"] }]).leaf.progress = .counting 1 ∧
    ¬Confirmation.IgnoresGrouping .altctl .px4Local .rigidEstimate [[.fcuState, .fcuState]] := by
  refine ⟨by decide +kernel, by decide +kernel, by decide +kernel, by decide +kernel, ?_⟩
  intro ignored
  have single := Confirmation.oneOfEach_of_ignoresGrouping ignored (List.mem_singleton_self _)
  revert single
  decide

end Burst

end MultirotorController
