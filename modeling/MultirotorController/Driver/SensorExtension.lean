import MultirotorController.Driver.SupervisionTasks
import MultirotorController.Module.SensorInput
import MultirotorController.Safety.Environment

/-!
# Positions follow their streams

What the receive statistics and the samples do to the snapshot between two
updates: a position changes only after its stream was marked as new, and a mark
stays until the module clears all of them. Neither an operation that throws half
way nor the statistics are an exception.
-/

namespace MultirotorController

namespace SensorData

/-- The later snapshot has a new message where it has another position. -/
structure Extends (before after : SensorData) : Prop where
  estimate : after.uavStateEstimateStats.isNew = true ∨
    after.uavStateEstimateStats.isNew = before.uavStateEstimateStats.isNew ∧
      after.estimatedPosition = before.estimatedPosition
  localPose : after.localPosStats.isNew = true ∨
    after.localPosStats.isNew = before.localPosStats.isNew ∧
      after.localPosition = before.localPosition
  feedbackSource : after.feedbackSource = before.feedbackSource

/-- The positions are those of an earlier snapshot, unless there are new messages. -/
def Follows (before after : SensorData) : Prop :=
  (after.uavStateEstimateStats.isNew ∨ after.estimatedPosition = before.estimatedPosition) ∧
    (after.localPosStats.isNew ∨ after.localPosition = before.localPosition)

namespace Extends

variable {first second third : SensorData}

theorem refl (sensor : SensorData) : sensor.Extends sensor :=
  ⟨.inr ⟨rfl, rfl⟩, .inr ⟨rfl, rfl⟩, rfl⟩

theorem trans (earlier : first.Extends second) (later : second.Extends third) :
    first.Extends third := by
  refine ⟨?_, ?_, later.feedbackSource.trans earlier.feedbackSource⟩
  · rcases later.estimate with fresh | ⟨mark, position⟩
    · exact .inl fresh
    · rcases earlier.estimate with fresh | ⟨mark', position'⟩
      · exact .inl (mark.trans fresh)
      · exact .inr ⟨mark.trans mark', position.trans position'⟩
  · rcases later.localPose with fresh | ⟨mark, position⟩
    · exact .inl fresh
    · rcases earlier.localPose with fresh | ⟨mark', position'⟩
      · exact .inl (mark.trans fresh)
      · exact .inr ⟨mark.trans mark', position.trans position'⟩

/-- What follows a snapshot follows it through every extension. -/
theorem follows (follows : first.Follows second) (later : second.Extends third) :
    first.Follows third := by
  obtain ⟨estimate, localPose⟩ := follows
  refine ⟨?_, ?_⟩
  · rcases later.estimate with fresh | ⟨mark, position⟩
    · exact .inl fresh
    · rw [mark, position]
      exact estimate
  · rcases later.localPose with fresh | ⟨mark, position⟩
    · exact .inl fresh
    · rw [mark, position]
      exact localPose

/-- Statistics that keep the mark. -/
theorem updateStats {update : TopicStats → TopicStats} (sensor : SensorData)
    (stream : SensorStream) (kept : ∀ stats, (update stats).isNew = stats.isNew) :
    sensor.Extends (sensor.updateStats update stream) := by
  cases stream
  case estimate => exact ⟨.inr ⟨kept _, rfl⟩, .inr ⟨rfl, rfl⟩, rfl⟩
  case localPose => exact ⟨.inr ⟨rfl, rfl⟩, .inr ⟨kept _, rfl⟩, rfl⟩
  all_goals exact ⟨.inr ⟨rfl, rfl⟩, .inr ⟨rfl, rfl⟩, rfl⟩

theorem markReceived (sensor : SensorData) (stream : SensorStream) (receipt : Time) :
    sensor.Extends (sensor.updateStats (Sensing.markReceived receipt) stream) := by
  cases stream
  case estimate => exact ⟨.inl rfl, .inr ⟨rfl, rfl⟩, rfl⟩
  case localPose => exact ⟨.inr ⟨rfl, rfl⟩, .inl rfl, rfl⟩
  all_goals exact ⟨.inr ⟨rfl, rfl⟩, .inr ⟨rfl, rfl⟩, rfl⟩

open MultirotorController.Module in
/-- A payload is written after its stream was marked. -/
theorem written (sensor : SensorData) (payload : SensorPayload)
    (marked : (sensor.stats payload.stream).isNew = true) :
    sensor.Extends (written payload sensor) := by
  cases payload with
  | stateEstimate payload =>
      dsimp only [Module.written]
      split
      · exact ⟨.inl marked, .inr ⟨rfl, rfl⟩, rfl⟩
      · exact ⟨.inl marked, .inr ⟨rfl, rfl⟩, rfl⟩
  | localPose payload => exact ⟨.inr ⟨rfl, rfl⟩, .inl marked, rfl⟩
  | _ => exact ⟨.inr ⟨rfl, rfl⟩, .inr ⟨rfl, rfl⟩, rfl⟩

/-- The estimate of the hover thrust is no position. -/
theorem ingestHoverThrust (sensor : SensorData) (hoverThrust : Double) (flags : UInt32)
    (stampSec receiptSec : Double) :
    sensor.Extends (ingestHoverThrust sensor hoverThrust flags stampSec receiptSec).1 := by
  unfold MultirotorController.ingestHoverThrust
  split <;> exact ⟨.inr ⟨rfl, rfl⟩, .inr ⟨rfl, rfl⟩, rfl⟩

end Extends

/-- A snapshot with the same positions is followed whatever its marks are. -/
theorem Follows.resetNewFlags (sensor : SensorData) : sensor.Follows sensor.resetNewFlags :=
  ⟨.inr rfl, .inr rfl⟩

end SensorData

namespace Module

variable (sensing : Sensing)

/-- A sample that the module receives. -/
theorem extends_receiveSensor (sample : SensorSample) :
    sensing.sensor.Extends (receiveSensor sensing sample).sensor := by
  rw [receiveSensor_eq]
  cases recorded sensing.statistics sample with
  | error error => exact .refl _
  | ok entry =>
      obtain ⟨receipt, dt⟩ := entry
      have marked : ((record sensing sample receipt dt).sensor.stats
          sample.payload.stream).isNew = true := by
        change ((sensing.sensor.updateStats (Sensing.markReceived receipt)
          sample.payload.stream).stats sample.payload.stream).isNew = true
        cases sample.payload.stream <;> rfl
      have recorded : sensing.sensor.Extends (record sensing sample receipt dt).sensor :=
        .markReceived _ _ _
      exact recorded.trans (.written _ _ marked)

end Module

namespace Sensing

open Procedure SupervisionTask

/-- A first advance starts the statistics and goes on like any other. -/
theorem advance_unstarted [Libm] {now : Time} {sensing : Sensing}
    (unstarted : sensing.statistics.started = false) :
    (advance now).run sensing =
      (start now >>= fun _ =>
        dischargeDue now .statistics >>= fun _ => dischargeDue now .heartbeats).run sensing := by
  unfold advance
  change (if (!sensing.statistics.started) = true then _ else _ : EStateM _ _ _).run sensing = _
  rw [unstarted, Bool.not_false, if_pos rfl]
  apply run_bind_congr
  intro _ final _
  change (if final.statistics.nextStats ≤ now then _ else _ : EStateM _ _ _).run final =
    ((if final.statistics.nextStats ≤ now then discharge now .statistics else pure ()) >>=
      fun _ => dischargeDue now .heartbeats).run final
  split
  · rw [discharge, bind_assoc]
    simp only [bind_assoc]
    rfl
  · rfl

/-- An operation that keeps positions and marks. -/
abbrev Keeps (before after : Sensing) : Prop := before.sensor.Extends after.sensor

theorem keeps_updateStats (sensing : Sensing) (stream : SensorStream)
    {update : TopicStats → TopicStats} (kept : ∀ stats, (update stats).isNew = stats.isNew) :
    Keeps sensing (sensing.updateStats stream update) :=
  .updateStats sensing.sensor stream kept

theorem performs_start (now : Time) (sensing : Sensing) : Performs Keeps (start now) sensing := by
  unfold start
  apply Performs.get_bind
  apply Performs.ite
  · intro _
    exact .of_pure _
  · intro _
    apply Performs.rethrow_bind
    intro nextStats _
    apply Performs.modify_bind
    · exact .single (.refl _)
    apply Performs.rethrow_bind
    intro nextHeartbeat _
    exact .of_modify (.single (.refl _))

theorem performs_forM {action : Sensing → Sensing → Prop} {streams : List SensorStream}
    {body : SensorStream → EStateM RuntimeError Sensing Unit}
    (each : ∀ stream state, Performs action (body stream) state) (sensing : Sensing) :
    Performs action (streams.forM body) sensing := by
  induction streams generalizing sensing with
  | nil => exact .of_pure _
  | cons stream rest ih => exact .bind (each stream sensing) fun _ middle _ => ih middle

theorem performs_updateStatistics [Libm] (sensing : Sensing) :
    Performs Keeps updateStatistics sensing := by
  apply performs_forM
  intro stream state
  apply Performs.get_bind
  apply Performs.ite
  · intro _
    exact .of_pure _
  · intro _
    apply Performs.rethrow_bind
    intro duration _
    exact .of_modify (.single (keeps_updateStats state stream fun _ => rfl))

theorem performs_updateHeartbeats (now : Time) (sensing : Sensing) :
    Performs Keeps (updateHeartbeats now) sensing := by
  apply performs_forM
  intro stream state
  apply Performs.get_bind
  apply Performs.ite
  · intro _
    exact .of_pure _
  · intro _
    apply Performs.rethrow_bind
    intro elapsed _
    exact .of_modify (.single (keeps_updateStats state stream fun _ => rfl))

theorem performs_dischargeDue [Libm] (now : Time) (task : SupervisionTask) (sensing : Sensing) :
    Performs Keeps (dischargeDue now task) sensing := by
  unfold dischargeDue
  apply Performs.get_bind
  apply Performs.ite
  · intro _
    refine .bind ?_ fun _ middle _ => ?_
    · cases task with
      | statistics => exact performs_updateStatistics sensing
      | heartbeats => exact performs_updateHeartbeats now sensing
    · apply Performs.get_bind
      apply Performs.rethrow_bind
      intro next _
      exact .of_modify (.single (.refl _))
  · intro _
    exact .of_pure _

/-- Statistics and heartbeats keep positions and marks, also when they throw. -/
theorem performs_advance [Libm] (now : Time) (sensing : Sensing) :
    Performs Keeps (advance now) sensing := by
  have tasks (state : Sensing) : Performs Keeps
      (dischargeDue now .statistics >>= fun _ => dischargeDue now .heartbeats) state :=
    .bind (performs_dischargeDue now .statistics state) fun _ middle _ =>
      performs_dischargeDue now .heartbeats middle
  unfold Performs wp
  cases begun : sensing.statistics.started with
  | true =>
      rw [advance_tasks begun]
      exact tasks sensing
  | false =>
      rw [advance_unstarted begun]
      exact Performs.bind (performs_start now sensing) fun _ middle _ => tasks middle

/-- A chain of operations that keep positions and marks keeps them. -/
theorem extends_of_chain {before after : Sensing}
    (chain : Relation.ReflTransGen Keeps before after) : before.sensor.Extends after.sensor := by
  induction chain with
  | refl => exact .refl _
  | tail _ last ih => exact ih.trans last

end Sensing

end MultirotorController
