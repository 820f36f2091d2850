import MultirotorController.Driver.SensorStatistics
import MultirotorController.Common.TimeSpans

/-!
# The two tasks of the receive supervision

Statistics are computed on a grid of a tenth of a second, heartbeats on a grid of one
second. An advance discharges the tasks that are due, in this order: each does its work
once and moves its deadline to the next point of its own grid, however many points were
missed. The work itself changes no window and no deadline.
-/

namespace MultirotorController

namespace SensorData

@[simp] theorem stats_updateStats (sensor : SensorData) (update : TopicStats → TopicStats)
    (stream other : SensorStream) : (sensor.updateStats update stream).stats other =
      if other = stream then update (sensor.stats stream) else sensor.stats other := by
  cases stream <;> cases other <;> rfl

end SensorData

theorem SensorStream.mem_all (stream : SensorStream) : stream ∈ SensorStream.all := by
  cases stream <;> decide

inductive SupervisionTask where
  | statistics
  | heartbeats
deriving DecidableEq, Repr

namespace SupervisionTask

def deadline (statistics : SensorStatistics) : SupervisionTask → Time
  | .statistics => statistics.nextStats
  | .heartbeats => statistics.nextHeartbeat

/-- The distance of the grid points in nanoseconds. -/
def period : SupervisionTask → UInt64
  | .statistics => 100000000
  | .heartbeats => 1000000000

def reschedule (next : Time) (statistics : SensorStatistics) : SupervisionTask → SensorStatistics
  | .statistics => { statistics with nextStats := next }
  | .heartbeats => { statistics with nextHeartbeat := next }

def work [Libm] (now : Time) : SupervisionTask → EStateM RuntimeError Sensing Unit
  | .statistics => Sensing.updateStatistics
  | .heartbeats => Sensing.updateHeartbeats now

@[simp] theorem deadline_reschedule (next : Time) (statistics : SensorStatistics)
    (task other : SupervisionTask) : other.deadline (task.reschedule next statistics) =
      if other = task then next else other.deadline statistics := by
  cases task <;> cases other <;> rfl

@[simp] theorem tracks_reschedule (next : Time) (statistics : SensorStatistics)
    (task : SupervisionTask) : (task.reschedule next statistics).tracks = statistics.tracks := by
  cases task <;> rfl

@[simp] theorem started_reschedule (next : Time) (statistics : SensorStatistics)
    (task : SupervisionTask) : (task.reschedule next statistics).started = statistics.started := by
  cases task <;> rfl

theorem period_statistics : SupervisionTask.statistics.period.toNat = 100000000 := rfl

theorem period_heartbeats : SupervisionTask.heartbeats.period.toNat = 1000000000 := rfl

theorem period_pos (task : SupervisionTask) : 0 < task.period.toNat := by
  cases task <;> decide

theorem period_le (task : SupervisionTask) : task.period.toNat ≤ 1000000000 := by
  cases task <;> decide

/-- The work of a task, then its deadline. -/
def discharge [Libm] (now : Time) (task : SupervisionTask) :
    EStateM RuntimeError Sensing Unit := do
  task.work now
  let next ← Procedure.rethrow
    (Sensing.nextDeadline (task.deadline (← get).statistics) now task.period)
  modify fun sensing => { sensing with statistics := task.reschedule next sensing.statistics }

/-- The tasks whose deadline has come, in the order of an advance. -/
def due (now : Time) (statistics : SensorStatistics) : List SupervisionTask :=
  [.statistics, .heartbeats].filter fun task => task.deadline statistics ≤ now

theorem mem_due {now : Time} {statistics : SensorStatistics} {task : SupervisionTask} :
    task ∈ due now statistics ↔ task.deadline statistics ≤ now := by
  unfold due
  cases task <;> simp

theorem nodup_due (now : Time) (statistics : SensorStatistics) : (due now statistics).Nodup :=
  List.Pairwise.filter _ (by decide)

end SupervisionTask

namespace Sensing

open Procedure SupervisionTask

/-- The unsigned arithmetic of the jump does not wrap. -/
theorem toNat_nextDeadline {deadline now : Time} {period : UInt64} (positive : 0 < period.toNat)
    (small : period.toNat ≤ 1000000000) (due : deadline.nanos ≤ now.nanos) :
    (now.toNSec + (period - (now.toNSec - deadline.toNSec) % period)).toNat =
      now.nanos + (period.toNat - (now.nanos - deadline.nanos) % period.toNat) := by
  have bounded := now.nanos_bounded
  have elapsed : (now.toNSec - deadline.toNSec).toNat = now.nanos - deadline.nanos := by
    rw [UInt64.toNat_sub_of_le, Time.toNat_toNSec, Time.toNat_toNSec]
    rw [UInt64.le_iff_toNat_le, Time.toNat_toNSec, Time.toNat_toNSec]
    exact due
  have rest : ((now.toNSec - deadline.toNSec) % period).toNat =
      (now.nanos - deadline.nanos) % period.toNat := by
    rw [UInt64.toNat_mod, elapsed]
  have below := Nat.mod_lt (now.nanos - deadline.nanos) positive
  have remaining : (period - (now.toNSec - deadline.toNSec) % period).toNat =
      period.toNat - (now.nanos - deadline.nanos) % period.toNat := by
    rw [UInt64.toNat_sub_of_le, rest]
    rw [UInt64.le_iff_toNat_le, rest]
    exact below.le
  rw [UInt64.toNat_add, remaining, Time.toNat_toNSec]
  apply Nat.mod_eq_of_lt
  omega

/-- The next deadline is the first point of the deadline's grid after now. -/
theorem nextDeadline_ok {deadline now next : Time} {period : UInt64} (positive : 0 < period.toNat)
    (small : period.toNat ≤ 1000000000) (due : deadline.nanos ≤ now.nanos)
    (moved : nextDeadline deadline now period = .ok next) :
    next.Canonical ∧ now.nanos < next.nanos ∧ next.nanos ≤ now.nanos + period.toNat ∧
      ∃ k : ℕ, next.nanos = deadline.nanos + k * period.toNat := by
  obtain ⟨canonical, count⟩ := (Time.fromNSec_exact _).of_ok moved
  rw [toNat_nextDeadline positive small due, Nat.cast_inj] at count
  have below := Nat.mod_lt (now.nanos - deadline.nanos) positive
  have split := Nat.div_add_mod' (now.nanos - deadline.nanos) period.toNat
  refine ⟨canonical, ?_, ?_, (now.nanos - deadline.nanos) / period.toNat + 1, ?_⟩
  · omega
  · omega
  · rw [Nat.add_mul, Nat.one_mul]
    omega

/-- Only the end of the clock stops the grid. -/
theorem nextDeadline_error {deadline now : Time} {period : UInt64} {error : RuntimeError}
    (positive : 0 < period.toNat) (small : period.toNat ≤ 1000000000)
    (due : deadline.nanos ≤ now.nanos)
    (refused : nextDeadline deadline now period = .error error) :
    4294967295000000000 ≤ now.nanos := by
  by_contra early
  have count := toNat_nextDeadline positive small due
  have inRange : Time.InRange
      (now.toNSec + (period - (now.toNSec - deadline.toNSec) % period)).toNat := by
    rw [count]
    unfold Time.InRange
    omega
  obtain ⟨next, moved, -⟩ := (Time.fromNSec_exact _).1 inRange
  cases refused.symm.trans moved

/-- The work leaves the windows and the deadlines as they are. A stream it judges is active
exactly if its last receipt is at most 2.5 s old; the others stay as they were. -/
structure Worked (now : Time) (judged : SensorStream → Prop) (before after : Sensing) : Prop where
  statistics : after.statistics = before.statistics
  judgement : ∀ stream, judged stream → ∀ receipt,
    (before.statistics.tracks stream).times.getLast? = some receipt →
      ((after.sensor.stats stream).isActive = true ↔ now.nanos ≤ receipt.nanos + 2500000000)
  kept : ∀ stream, ¬judged stream ∨ (before.statistics.tracks stream).times = [] →
    (after.sensor.stats stream).isActive = (before.sensor.stats stream).isActive

/-- Two of the times a difference is taken of are more than 68 years apart. -/
def Apart (now : Time) (sensing : Sensing) : Prop :=
  ∃ stream, ∃ first ∈ now :: (sensing.statistics.tracks stream).times,
    ∃ second ∈ (sensing.statistics.tracks stream).times,
      ¬Duration.InRange ((first.nanos : Int) - second.nanos)

theorem sub_error {first second : Time} {error : RuntimeError}
    (refused : (first.sub second).map Duration.toSec = .error error) :
    ¬Duration.InRange ((first.nanos : Int) - second.nanos) := by
  intro inRange
  obtain ⟨span, subtracted, -⟩ := (Time.sub_exact first second).1 inRange
  rw [subtracted] at refused
  cases refused

/-- The two and a half seconds of the source in nanoseconds. -/
theorem elapsed_le {now receipt : Time} {elapsed : Double}
    (subtracted : (now.sub receipt).map Duration.toSec = .ok elapsed) :
    elapsed ≤ 2.5 ↔ now.nanos ≤ receipt.nanos + 2500000000 := by
  cases difference : now.sub receipt with
  | error error =>
      rw [difference] at subtracted
      cases subtracted
  | ok span =>
      rw [difference] at subtracted
      cases subtracted
      have count := (Time.sub_exact now receipt).nanos_eq difference
      have limit : (2.5 : Double) = .fin (5 / 2) := by decide +kernel
      have nanoseconds : (span.nanos : ℚ) / 1000000000 ≤ 5 / 2 ↔
          span.nanos ≤ 2500000000 := by
        rw [div_le_iff₀ (by norm_num)]
        norm_num
        norm_cast
      rw [limit, Duration.toSec_eq, Double.fin_le_fin, nanoseconds, count]
      omega

theorem updateStats_isActive (sensing : Sensing) (stream other : SensorStream)
    (update : TopicStats → TopicStats) :
    ((sensing.updateStats stream update).sensor.stats other).isActive =
      if other = stream then (update (sensing.sensor.stats stream)).isActive
      else (sensing.sensor.stats other).isActive := by
  change ((sensing.sensor.updateStats update stream).stats other).isActive = _
  rw [SensorData.stats_updateStats, apply_ite TopicStats.isActive]

theorem getLast?_push (track : Track) (receipt : Time) (dt : Double) :
    (push track receipt dt).times.getLast? = some receipt := by
  unfold push
  dsimp only
  split
  next long =>
    rw [List.getLast?_drop, if_neg (by omega), List.getLast?_append]
    rfl
  next => rw [List.getLast?_append]; rfl

theorem mem_push {track : Track} {receipt time : Time} {dt : Double}
    (member : time ∈ (push track receipt dt).times) : time ∈ track.times ∨ time = receipt := by
  unfold push at member
  dsimp only at member
  split at member
  next long =>
    have present := List.mem_of_mem_drop member
    rwa [List.mem_append, List.mem_singleton] at present
  next => rwa [List.mem_append, List.mem_singleton] at member

theorem wp_updateStatistics [Libm] (now : Time) (sensing : Sensing) :
    wp updateStatistics (fun _ final => Worked now (fun _ => False) sensing final)
      (fun _ final => Worked now (fun _ => False) sensing final ∧ Apart now sensing) sensing := by
  unfold updateStatistics
  refine wp_forM (fun _ final => Worked now (fun _ => False) sensing final)
    ⟨rfl, fun _ never => never.elim, fun _ _ => rfl⟩ ?_
  intro _ stream _ state _ worked
  simp only [wp_bind, wp_get]
  rw [worked.statistics]
  apply wp_ite_of
  · intro _
    exact worked
  intro several
  apply wp_rethrow_bind
  · intro duration _
    refine ⟨worked.statistics, fun _ never => never.elim, fun other _ => ?_⟩
    rw [updateStats_isActive]
    split
    next same =>
      subst same
      exact worked.kept other (.inl id)
    next => exact worked.kept other (.inl id)
  · intro error refused
    have filled : (sensing.statistics.tracks stream).times ≠ [] := by
      intro empty
      rw [empty] at several
      exact several (by decide)
    rw [List.getLastD_eq_getLast?, List.getLast?_eq_getLast_of_ne_nil filled, Option.getD_some,
      List.headD_eq_head?_getD, List.head?_eq_some_head filled, Option.getD_some] at refused
    exact ⟨worked, stream, _, List.mem_cons_of_mem _ (List.getLast_mem filled), _,
      List.head_mem filled, sub_error refused⟩

theorem wp_updateHeartbeats (now : Time) (sensing : Sensing) :
    wp (updateHeartbeats now) (fun _ final => Worked now (fun _ => True) sensing final)
      (fun _ final => (∃ judged, Worked now judged sensing final) ∧ Apart now sensing) sensing := by
  have begun : Worked now (· ∈ ([] : List SensorStream)) sensing sensing :=
    ⟨rfl, fun _ never => absurd never List.not_mem_nil, fun _ _ => rfl⟩
  refine wp_mono (wp_forM (fun done final => Worked now (· ∈ done) sensing final) begun ?_) ?_
    fun _ _ thrown => thrown
  · intro done stream _ state _ worked
    simp only [wp_bind, wp_get]
    rw [worked.statistics]
    apply wp_ite_of
    · intro empty
      have silent : (sensing.statistics.tracks stream).times = [] := List.isEmpty_iff.mp empty
      refine ⟨worked.statistics, fun other done' receipt last => ?_, fun other quiet => ?_⟩
      · rcases List.mem_append.mp done' with earlier | same
        · exact worked.judgement other earlier receipt last
        · rw [List.mem_singleton.mp same, silent] at last
          cases last
      · apply worked.kept other
        rcases quiet with outside | empty
        · exact .inl fun earlier => outside (List.mem_append_left _ earlier)
        · exact .inr empty
    intro filled
    have filled : (sensing.statistics.tracks stream).times ≠ [] := fun empty =>
      filled (List.isEmpty_iff.mpr empty)
    have back := List.getLast?_eq_getLast_of_ne_nil filled
    rw [List.getLastD_eq_getLast?, back, Option.getD_some]
    apply wp_rethrow_bind
    · intro elapsed subtracted
      refine ⟨worked.statistics, fun other done' receipt last => ?_, fun other quiet => ?_⟩
      · rw [updateStats_isActive]
        split
        next same =>
          subst same
          cases back.symm.trans last
          rw [decide_eq_true_iff]
          exact elapsed_le subtracted
        next differs =>
          rcases List.mem_append.mp done' with earlier | same
          · exact worked.judgement other earlier receipt last
          · exact absurd (List.mem_singleton.mp same) differs
      · rw [updateStats_isActive]
        split
        next same =>
          subst same
          rcases quiet with outside | empty
          · exact absurd (List.mem_append_right _ (List.mem_singleton_self _)) outside
          · exact absurd empty filled
        next differs =>
          apply worked.kept other
          rcases quiet with outside | empty
          · exact .inl fun earlier => outside (List.mem_append_left _ earlier)
          · exact .inr empty
    · intro error refused
      exact ⟨⟨_, worked⟩, stream, now, List.mem_cons_self, _, List.getLast_mem filled,
        sub_error refused⟩
  · intro _ final worked
    refine ⟨worked.statistics, fun stream _ => worked.judgement stream stream.mem_all, ?_⟩
    intro stream quiet
    exact worked.kept stream (quiet.imp (fun never => absurd trivial never) id)

/-- Discharges a task if its deadline has come. -/
def dischargeDue [Libm] (now : Time) (task : SupervisionTask) :
    EStateM RuntimeError Sensing Unit := do
  if task.deadline (← get).statistics ≤ now then discharge now task

theorem advance_tasks [Libm] {now : Time} {sensing : Sensing}
    (started : sensing.statistics.started = true) :
    (advance now).run sensing =
      (dischargeDue now .statistics >>= fun _ => dischargeDue now .heartbeats).run sensing := by
  unfold advance
  change (if (!sensing.statistics.started) = true then _ else _ : EStateM _ _ _).run sensing = _
  rw [started]
  change (if sensing.statistics.nextStats ≤ now then _ else _ : EStateM _ _ _).run sensing =
    ((if sensing.statistics.nextStats ≤ now then discharge now .statistics else pure ()) >>=
      fun _ => dischargeDue now .heartbeats).run sensing
  split
  · rw [discharge, bind_assoc]
    simp only [bind_assoc]
    rfl
  · rfl

/-- The work of a task with its judgement, then its deadline at the next grid point. -/
theorem wp_discharge [Libm] (now : Time) (task : SupervisionTask) (sensing : Sensing) :
    wp (discharge now task)
      (fun _ final => ∃ middle next, Worked now (fun _ => task = .heartbeats) sensing middle ∧
        nextDeadline (task.deadline sensing.statistics) now task.period = .ok next ∧
        final = { middle with statistics := task.reschedule next sensing.statistics })
      (fun _ final => (∃ judged, (∀ stream, judged stream → task = .heartbeats) ∧
          Worked now judged sensing final) ∧
        (Apart now sensing ∨
          ∃ error, nextDeadline (task.deadline sensing.statistics) now task.period =
            .error error)) sensing := by
  have worked : wp (task.work now)
      (fun _ final => Worked now (fun _ => task = .heartbeats) sensing final)
      (fun _ final => (∃ judged, (∀ stream, judged stream → task = .heartbeats) ∧
        Worked now judged sensing final) ∧ Apart now sensing) sensing := by
    cases task with
    | statistics =>
        refine wp_mono (wp_updateStatistics now sensing) ?_ ?_
        · intro _ final worked
          simpa using worked
        · rintro _ final ⟨worked, apart⟩
          exact ⟨⟨_, fun _ never => never.elim, worked⟩, apart⟩
    | heartbeats =>
        refine wp_mono (wp_updateHeartbeats now sensing) ?_ ?_
        · intro _ final worked
          simpa using worked
        · rintro _ final ⟨⟨judged, worked⟩, apart⟩
          exact ⟨⟨judged, fun _ _ => rfl, worked⟩, apart⟩
  unfold discharge
  rw [wp_bind]
  refine wp_mono worked ?_ fun _ _ thrown => ⟨thrown.1, .inl thrown.2⟩
  intro _ middle worked
  rw [wp_bind, wp_get, worked.statistics]
  apply wp_rethrow_bind
  · intro next moved
    refine ⟨middle, next, worked, moved, ?_⟩
    change ({ middle with statistics := _ } : Sensing) = _
    rw [worked.statistics]
  · intro error refused
    exact ⟨⟨_, fun _ known => known, worked⟩, .inr ⟨error, refused⟩⟩

/-- An advance discharges every task that is due, once. -/
theorem advance_run [Libm] {now : Time} {sensing : Sensing}
    (started : sensing.statistics.started = true) :
    (advance now).run sensing =
      ((due now sensing.statistics).forM (discharge now)).run sensing := by
  have second : ∀ state, state.statistics.nextHeartbeat = sensing.statistics.nextHeartbeat →
      (dischargeDue now .heartbeats).run state =
        ((if sensing.statistics.nextHeartbeat ≤ now then [SupervisionTask.heartbeats] else []).forM
          (discharge now)).run state := by
    intro state same
    change (if state.statistics.nextHeartbeat ≤ now then discharge now .heartbeats
      else pure ()).run state = _
    rw [same]
    split
    · exact congrArg (EStateM.run · state) (bind_pure (discharge now .heartbeats)).symm
    · rfl
  have listed : due now sensing.statistics =
      (if sensing.statistics.nextStats ≤ now then [SupervisionTask.statistics] else []) ++
        (if sensing.statistics.nextHeartbeat ≤ now then [SupervisionTask.heartbeats] else []) := by
    by_cases first : sensing.statistics.nextStats ≤ now <;>
      by_cases second : sensing.statistics.nextHeartbeat ≤ now <;>
        simp [due, List.filter, deadline, first, second]
  rw [advance_tasks started, listed]
  change ((if sensing.statistics.nextStats ≤ now then discharge now .statistics else pure ()) >>=
    fun _ => dischargeDue now .heartbeats).run sensing = _
  split
  · apply run_bind_congr
    intro _ final ran
    apply second
    have spec := wp_discharge now .statistics sensing
    rw [wp, ran] at spec
    obtain ⟨middle, next, -, -, rfl⟩ := spec
    rfl
  · exact second sensing rfl

end Sensing

end MultirotorController
