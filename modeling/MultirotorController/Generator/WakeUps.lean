import MultirotorController.Generator.RuntimeTurns
import MultirotorController.Lib.Run
import MultirotorController.Control.ExactMath

/-!
# The wake-ups of the reference generator

Between a turn and its wake-up there is nothing to do, and at the wake-up there
is. A gate opens at the end of its period, a reference expires just after its
end; the wake-up is just after the earliest of these times. Times are numbers
and their arithmetic is exact.
-/

namespace MultirotorController

open Trajectory

namespace Generator

/-- A rate whose period is a positive number. -/
def HasPeriod (rate : Double) : Prop := ∃ period : ℚ, 0 < period ∧ 1 / rate = .fin period

theorem hasPeriod_of_pos (rate : ℚ) (positive : 0 < rate) : HasPeriod (.fin rate) := by
  refine ⟨1 / rate, by positivity, ?_⟩
  change (if rate = 0 then _ else Double.fin (1 / rate)) = _
  rw [if_neg positive.ne']

/-- A gate that was opened at some time. -/
def Gate.Started (gate : Gate) : Prop := ∃ last : ℚ, gate = .opened (.fin last)

namespace Gate

theorem opened_started (now : ℚ) : (opened (.fin now)).Started := ⟨now, rfl⟩

/-- A started gate opens again when its period is over. -/
theorem due_opened {last period : ℚ} {rate : Double} (paced : 1 / rate = .fin period) (now : ℚ) :
    (opened (.fin last)).due (.fin now) rate =
      if last + period ≤ now then (opened (.fin now), true) else (opened (.fin last), false) := by
  have periodOver : 1 / rate ≤ Double.fin now - .fin last ↔ last + period ≤ now := by
    rw [paced, Double.fin_sub_fin, Double.fin_le_fin, le_sub_iff_add_le']
  unfold due
  by_cases open_ : last + period ≤ now
  · rw [if_pos (.inr (periodOver.mpr open_)), if_pos open_]
    rfl
  · rw [if_neg (fun again => open_ (periodOver.mp (again.resolve_left (not_not.mpr rfl)))),
      if_neg open_]

/-- Once asked, a gate opens no earlier than a period after the present time or its last one. -/
theorem due_ahead (last : ℚ) {period : ℚ} {rate : Double} (positive : 0 < period)
    (paced : 1 / rate = .fin period) (now : ℚ) :
    ∃ last', ((opened (.fin last)).due (.fin now) rate).1 = opened (.fin last') ∧
      now ≤ last' + period := by
  rw [due_opened paced]
  by_cases passed : last + period ≤ now
  · rw [if_pos passed]
    exact ⟨now, rfl, by linarith⟩
  · rw [if_neg passed]
    exact ⟨last, rfl, (not_le.mp passed).le⟩

theorem next_opened {last period : ℚ} {rate : Double} (paced : 1 / rate = .fin period)
    (now : Double) : (opened (.fin last)).next now rate = .nextAfter (.fin (last + period)) := by
  unfold next opened
  rw [if_pos rfl, paced, Double.fin_add_fin]

theorem due_started {gate : Gate} {rate : Double} (started : gate.Started)
    (paced : HasPeriod rate) (now : ℚ) : (gate.due (.fin now) rate).1.Started := by
  obtain ⟨last, rfl⟩ := started
  obtain ⟨period, positive, paced⟩ := paced
  rw [due_opened paced]
  split
  · exact opened_started now
  · exact opened_started last

end Gate

theorem ReferenceTrajectoryConfig.sanitized_rate (rate : Double) :
    HasPeriod (if ¬ rate.isFinite ∨ rate ≤ 0 then 10 else rate) := by
  split
  · exact hasPeriod_of_pos 10 (by norm_num)
  next valid =>
    obtain ⟨finite, positive⟩ := not_or.mp valid
    cases rate with
    | nan => simp [Double.isFinite] at finite
    | inf negative => simp [Double.isFinite] at finite
    | fin value =>
        exact hasPeriod_of_pos value
          (not_le.mp fun low => positive ((Double.fin_le_fin value 0).mpr low))

namespace ReferenceTrajectoryRuntime

/-- The phases that a state may carry. -/
def MachineSound : ReferenceMachine → Option StoredReference → Prop
  | .selfCheck, _ => True
  | .ready status, _ => status.Started
  | .active status active, stored => status.Started ∧ active.Started ∧ stored.isSome

theorem machineSound_ready {status : Gate} {stored : Option StoredReference}
    (started : status.Started) : MachineSound (.ready status) stored := started

theorem machineSound_active {status active : Gate} {stored : Option StoredReference}
    (started : status.Started) (published : active.Started) (present : stored.isSome = true) :
    MachineSound (.active status active) stored := ⟨started, published, present⟩

/-- What holds of the runtime between its calls. -/
structure Sound (runtime : ReferenceTrajectoryRuntime) : Prop where
  status : HasPeriod runtime.config.statusRateHz
  publish : HasPeriod runtime.config.activePublishRateHz
  timeout : runtime.config.trajectoryTimeout.isFinite = true
  machine : MachineSound runtime.machine runtime.active

theorem sound_default : Sound {} :=
  ⟨hasPeriod_of_pos 10 (by norm_num), hasPeriod_of_pos 10 (by norm_num), rfl,
    trivial⟩

theorem sound_setConfig (config : ReferenceTrajectoryConfig) : (setConfig config).Sound := by
  refine ⟨ReferenceTrajectoryConfig.sanitized_rate _, ReferenceTrajectoryConfig.sanitized_rate _,
    ?_, trivial⟩
  change (if ¬ config.trajectoryTimeout.isFinite ∨ config.trajectoryTimeout < 0 then (0.5 : Double)
    else config.trajectoryTimeout).isFinite = true
  split
  · rfl
  next valid => simpa using (not_or.mp valid).1

theorem Sound.reset {runtime : ReferenceTrajectoryRuntime} (sound : runtime.Sound) :
    runtime.reset.Sound := ⟨sound.status, sound.publish, sound.timeout, trivial⟩

/-- After a turn no request is pending and the state has its phases. -/
structure Settled (runtime : ReferenceTrajectoryRuntime) : Prop extends Sound runtime where
  idle : runtime.pending = none
  started : runtime.machine ≠ .selfCheck

theorem Sound.judged {runtime : ReferenceTrajectoryRuntime} (sound : runtime.Sound)
    (verdict : Verdict) :
    (match runtime.judged verdict with
      | .ok (after, _) => after
      | .error _ => runtime).Sound := by
  cases verdict with
  | accepted reference => exact ⟨sound.status, sound.publish, sound.timeout, sound.machine⟩
  | flagged flags => exact ⟨sound.status, sound.publish, sound.timeout, sound.machine⟩
  | thrown error => exact sound

theorem Sound.turned {runtime : ReferenceTrajectoryRuntime} (sound : runtime.Sound)
    (idle : runtime.pending = none) {machine : ReferenceMachine} (started : machine ≠ .selfCheck)
    (phases : MachineSound machine runtime.active) (now : Double)
    (effects : List ReferenceEffect) : (runtime.turned now machine effects).Settled :=
  { status := sound.status, publish := sound.publish, timeout := sound.timeout, machine := phases
    idle, started }

variable [Xgc2Math]

theorem Sound.update {runtime : ReferenceTrajectoryRuntime} (sound : runtime.Sound) (now : ℚ) :
    (runtime.update (.fin now)).Settled := by
  obtain ⟨statusPaced, publishPaced, timeout, phases⟩ := id sound
  cases pending : runtime.pending with
  | some reference =>
      rw [update_pending pending]
      have statusStarted : (runtime.statusTurn (.fin now)).1.Started := by
        unfold statusTurn
        split
        next status gate state =>
          rw [state] at phases
          exact Gate.due_started phases.1 statusPaced now
        · exact Gate.opened_started now
      have activated : (runtime.activated reference).Sound :=
        ⟨statusPaced, publishPaced, timeout, by
          unfold MachineSound at phases ⊢
          revert phases
          change MachineSound runtime.machine runtime.active →
            MachineSound runtime.machine (some reference)
          cases runtime.machine with
          | selfCheck => exact id
          | ready status => exact id
          | active status gate => exact fun phases => ⟨phases.1, phases.2.1, rfl⟩⟩
      exact activated.turned rfl ReferenceMachine.noConfusion
        (machineSound_active statusStarted (Gate.opened_started now) rfl) _ _
  | none =>
      cases state : runtime.machine with
      | selfCheck =>
          rw [update_selfCheck pending state]
          exact sound.turned pending ReferenceMachine.noConfusion
            (machineSound_ready (Gate.opened_started now)) _ _
      | ready status =>
          rw [update_ready pending state]
          rw [state] at phases
          exact sound.turned pending ReferenceMachine.noConfusion
            (machineSound_ready (Gate.due_started phases statusPaced now)) _ _
      | active status gate =>
          rw [state] at phases
          obtain ⟨statusStarted, gateStarted, stored⟩ := phases
          obtain ⟨reference, stored⟩ := Option.isSome_iff_exists.mp stored
          cases ended : runtime.activeExpired (.fin now) with
          | true =>
              rw [update_expired pending state ended]
              exact sound.turned pending ReferenceMachine.noConfusion
                (machineSound_ready (Gate.opened_started now)) _ _
          | false =>
              rw [update_active pending state stored ended]
              exact sound.turned pending ReferenceMachine.noConfusion
                (machineSound_active (Gate.due_started statusStarted statusPaced now)
                  (Gate.due_started gateStarted publishPaced now) (stored ▸ rfl)) _ _

section Deadlines

variable {runtime : ReferenceTrajectoryRuntime}

theorem nextWake_ready {last period : ℚ} (idle : runtime.pending = none)
    (state : runtime.machine = .ready (.opened (.fin last)))
    (paced : 1 / runtime.config.statusRateHz = .fin period) :
    runtime.nextWake = .nextAfter (.fin (last + period)) := by
  unfold nextWake hasPendingReference
  rw [idle, state]
  exact Gate.next_opened paced runtime.currentTimeSec

/-- A reference with a positive duration does not end infinitely early. -/
theorem endOf_ne_inf {reference : StoredReference}
    (timeout : runtime.config.trajectoryTimeout.isFinite = true)
    (finite : ¬ Xgc2Math.duration reference.evaluator ≤ 0) :
    runtime.endOf reference ≠ .inf true := by
  unfold endOf Time.toSec
  generalize Xgc2Math.duration reference.evaluator = duration at *
  cases limit : runtime.config.trajectoryTimeout with
  | nan => simp [limit, Double.isFinite] at timeout
  | inf negative => simp [limit, Double.isFinite] at timeout
  | fin timeout =>
      cases duration with
      | nan => exact Double.noConfusion
      | fin duration => exact Double.noConfusion
      | inf negative =>
          cases negative with
          | false => exact fun ends => absurd (Double.inf.inj ends) Bool.false_ne_true
          | true => exact absurd rfl finite

/-- The wake-up of Active is just after the first end of a period or of the reference. -/
theorem nextWake_active (runtime : ReferenceTrajectoryRuntime) {last last' period period' : ℚ}
    {reference : StoredReference} (idle : runtime.pending = none)
    (state : runtime.machine = .active (.opened (.fin last)) (.opened (.fin last')))
    (stored : runtime.active = some reference)
    (statusPaced : 1 / runtime.config.statusRateHz = .fin period)
    (publishPaced : 1 / runtime.config.activePublishRateHz = .fin period')
    (timeout : runtime.config.trajectoryTimeout.isFinite = true) :
    ∃ due : ℚ, runtime.nextWake = .nextAfter (.fin due) ∧ ∀ t : ℚ, due < t ↔
      (last + period < t ∨ last' + period' < t) ∨ runtime.activeExpired (.fin t) = true := by
  obtain ⟨first, isFirst⟩ := Deadline.exists_min_eq_fin (last + period)
    (.fin (last' + period')) Double.noConfusion
  have early : ∀ t : ℚ, first < t ↔ last + period < t ∨ last' + period' < t := by
    intro t
    have either := Deadline.min_lt_fin_iff (last + period) (.fin (last' + period')) t
    rw [isFirst] at either
    simpa using either
  unfold nextWake hasPendingReference activeExpiry activeExpired
  rw [idle, state, stored]
  simp only [Option.isSome_none, Bool.false_eq_true, if_false, Gate.next_opened statusPaced,
    Gate.next_opened publishPaced, Deadline.min_nextAfter, isFirst]
  by_cases endless : Xgc2Math.duration reference.evaluator ≤ 0
  · rw [if_pos endless]
    refine ⟨first, rfl, fun t => ?_⟩
    rw [if_pos endless, early t]
    simp
  · rw [if_neg endless]
    dsimp only
    obtain ⟨due, isDue⟩ := Deadline.exists_min_eq_fin first (runtime.endOf reference)
      (endOf_ne_inf timeout endless)
    refine ⟨due, by rw [Deadline.min_nextAfter, isDue], fun t => ?_⟩
    have either := Deadline.min_lt_fin_iff first (runtime.endOf reference) t
    rw [isDue, Double.fin_lt_fin, Double.fin_lt_fin, early t] at either
    rw [either, if_neg endless, decide_eq_true_iff]

end Deadlines

end ReferenceTrajectoryRuntime

def ReferenceMachine.isActive : ReferenceMachine → Bool
  | .active _ _ => true
  | _ => false

namespace ReferenceTrajectoryRuntime

variable [Xgc2Math] {runtime : ReferenceTrajectoryRuntime}

/-- A turn emits something or leaves Active, and then has its wake-up ahead. -/
def Progresses (before after : ReferenceTrajectoryRuntime) (t : Double) : Prop :=
  (after.effects ≠ [] ∨ before.machine.isActive = true ∧ after.machine.isActive = false) ∧
    after.nextWake.Later t

/-- The wake-up after entering Ready is one period away. -/
theorem later_ready {period : ℚ} (positive : 0 < period)
    (paced : 1 / runtime.config.statusRateHz = .fin period) (idle : runtime.pending = none)
    (now : ℚ) (effects : List ReferenceEffect) :
    (runtime.turned (.fin now) (.ready (.opened (.fin now))) effects).nextWake.Later
      (.fin now) := by
  have wake : (runtime.turned (.fin now) (.ready (.opened (.fin now))) effects).nextWake = _ :=
    nextWake_ready idle rfl paced
  rw [wake, Deadline.later_nextAfter, Double.fin_le_fin]
  linarith

/-- Before the wake-up a turn only moves the clock. -/
theorem Settled.quiet (settled : runtime.Settled) {t : ℚ}
    (early : .fin t < runtime.nextWake.due) :
    runtime.update (.fin t) = runtime.turned (.fin t) runtime.machine [] := by
  obtain ⟨⟨⟨period, positive, statusPaced⟩, ⟨period', positive', publishPaced⟩, timeout, phases⟩,
    idle, started⟩ := settled
  cases state : runtime.machine with
  | selfCheck => exact absurd state started
  | ready status =>
      rw [state] at phases
      obtain ⟨last, rfl⟩ := phases
      rw [nextWake_ready idle state statusPaced, Deadline.nextAfter_due, Double.fin_lt_fin] at early
      rw [update_ready idle state, Gate.due_opened statusPaced, if_neg (not_le.mpr early)]
      rfl
  | active status gate =>
      rw [state] at phases
      obtain ⟨⟨last, rfl⟩, ⟨last', rfl⟩, stored⟩ := phases
      obtain ⟨reference, stored⟩ := Option.isSome_iff_exists.mp stored
      obtain ⟨due, wake, first⟩ :=
        nextWake_active runtime idle state stored statusPaced publishPaced timeout
      rw [wake, Deadline.nextAfter_due, Double.fin_lt_fin] at early
      have ahead := (first due).not.mp (lt_irrefl due)
      rw [not_or, not_or, not_lt, not_lt] at ahead
      obtain ⟨⟨statusAhead, publishAhead⟩, _⟩ := ahead
      have running : runtime.activeExpired (.fin t) = false := by
        have running := (first t).not.mp (not_lt.mpr early.le)
        rw [not_or] at running
        simpa using running.2
      rw [update_active idle state stored running, Gate.due_opened statusPaced,
        Gate.due_opened publishPaced, if_neg (not_le.mpr (early.trans_le statusAhead)),
        if_neg (not_le.mpr (early.trans_le publishAhead))]
      rfl

/-- At the wake-up a turn has something to do, and does not wake up at the same time again. -/
theorem Settled.progress (settled : runtime.Settled) {t : ℚ}
    (reached : runtime.nextWake.Reached (.fin t)) :
    Progresses runtime (runtime.update (.fin t)) (.fin t) := by
  have next := settled.toSound.update t
  obtain ⟨⟨⟨period, positive, statusPaced⟩, ⟨period', positive', publishPaced⟩, timeout, phases⟩,
    idle, started⟩ := settled
  cases state : runtime.machine with
  | selfCheck => exact absurd state started
  | ready status =>
      rw [state] at phases
      obtain ⟨last, rfl⟩ := phases
      rw [nextWake_ready idle state statusPaced, Deadline.reached_nextAfter, Double.fin_lt_fin]
        at reached
      rw [update_ready idle state, Gate.due_opened statusPaced, if_pos reached.le]
      exact ⟨.inl (List.cons_ne_nil _ _), later_ready positive statusPaced idle t _⟩
  | active status gate =>
      rw [state] at phases
      obtain ⟨⟨last, rfl⟩, ⟨last', rfl⟩, stored⟩ := phases
      obtain ⟨reference, stored⟩ := Option.isSome_iff_exists.mp stored
      obtain ⟨due, wake, first⟩ :=
        nextWake_active runtime idle state stored statusPaced publishPaced timeout
      rw [wake, Deadline.reached_nextAfter, Double.fin_lt_fin, first t] at reached
      cases ended : runtime.activeExpired (.fin t) with
      | true =>
          rw [update_expired idle state ended]
          exact ⟨.inl (List.cons_ne_nil _ _), later_ready positive statusPaced idle t _⟩
      | false =>
          have passed := reached.resolve_right (by simp [ended])
          have turn := update_active idle state stored ended
          refine ⟨.inl ?_, ?_⟩
          · rw [turn, Gate.due_opened statusPaced, Gate.due_opened publishPaced]
            rcases passed with report | publish
            · rw [if_pos report.le]
              exact List.cons_ne_nil _ _
            · rw [if_pos publish.le]
              exact List.append_ne_nil_of_right_ne_nil _ (List.cons_ne_nil _ _)
          · obtain ⟨last₁, reported, statusAhead⟩ :=
              Gate.due_ahead last positive statusPaced t
            obtain ⟨last₂, published, publishAhead⟩ :=
              Gate.due_ahead last' positive' publishPaced t
            rw [turn, reported, published]
            obtain ⟨due', wake', first'⟩ := nextWake_active
              (runtime.turned (.fin t) (.active (.opened (.fin last₁)) (.opened (.fin last₂))) _)
              idle rfl stored statusPaced publishPaced timeout
            rw [wake', Deadline.later_nextAfter, Double.fin_le_fin, ← not_lt, first' t]
            rintro ((report | publish) | expired)
            · exact absurd report (not_lt.mpr statusAhead)
            · exact absurd publish (not_lt.mpr publishAhead)
            · exact absurd (expired.symm.trans ended) (by decide)

end ReferenceTrajectoryRuntime

/-- The calls that change a runtime, at clock values that are numbers. -/
inductive RuntimeCall where
  | setConfig (config : ReferenceTrajectoryConfig)
  | reset
  | acceptAnalytic (msg : AnalyticReference) (receiptSec : Double)
  | acceptSampled (msg : SampledReference) (receiptSec : Double)
  | update (now : ℚ)

section Reachable

variable [Libm] [Xgc2Math] [TrajectoryValidator3]

/-- A call that throws leaves the runtime as it was. -/
def call (runtime : ReferenceTrajectoryRuntime) : RuntimeCall → ReferenceTrajectoryRuntime
  | .setConfig config => .setConfig config
  | .reset => runtime.reset
  | .acceptAnalytic msg receiptSec =>
      match runtime.acceptAnalytic msg receiptSec with
      | .ok (after, _) => after
      | .error _ => runtime
  | .acceptSampled msg receiptSec =>
      match runtime.acceptSampled msg receiptSec with
      | .ok (after, _) => after
      | .error _ => runtime
  | .update now => runtime.update (.fin now)

def runtimeCalls : Machine ReferenceTrajectoryRuntime RuntimeCall Unit :=
  { step := fun runtime input => (call runtime input, ()) }

open ReferenceTrajectoryRuntime

theorem sound_call {runtime : ReferenceTrajectoryRuntime} (sound : runtime.Sound)
    (input : RuntimeCall) : (call runtime input).Sound := by
  cases input with
  | setConfig config => exact sound_setConfig config
  | reset => exact sound.reset
  | acceptAnalytic msg receiptSec =>
      rw [call, acceptAnalytic_eq]
      exact sound.judged _
  | acceptSampled msg receiptSec =>
      rw [call, acceptSampled_eq]
      exact sound.judged _
  | update now => exact (sound.update now).toSound

/-- Between a turn and the due time of its wake-up a turn changes nothing and emits nothing;
from the wake-up on a turn makes progress, and its own wake-up is later. -/
theorem wakeUps_sound {past : List (Machine.Event ReferenceTrajectoryRuntime RuntimeCall Unit)}
    {runtime : ReferenceTrajectoryRuntime}
    (run : runtimeCalls.Run (· = {}) (fun _ _ _ => True) past runtime) (now : ℚ) :
    (∀ t : ℚ, now ≤ t → .fin t < (runtime.update (.fin now)).nextWake.due →
        (runtime.update (.fin now)).update (.fin t) =
          { runtime.update (.fin now) with currentTimeSec := .fin t, effects := [] }) ∧
      ∀ t : ℚ, (runtime.update (.fin now)).nextWake.Reached (.fin t) →
        Progresses (runtime.update (.fin now)) ((runtime.update (.fin now)).update (.fin t))
          (.fin t) := by
  have sound : runtime.Sound := run.invariant_state Sound
    (by rintro _ rfl; exact sound_default) fun _ _ input sound _ => sound_call sound input
  have settled := sound.update now
  exact ⟨fun t _ early => settled.quiet early, fun t reached => settled.progress reached⟩

end Reachable

section Active

open ExactMath

/-- The status once a second, the reference four times; a reference of one second is accepted. -/
def activatingCalls : List RuntimeCall :=
  [.setConfig { statusRateHz := 1, activePublishRateHz := 4 }, .update 1,
    .acceptAnalytic { duration := 1 } 1, .update 2]

/-- The runtime two seconds after, with the reference active. -/
def activeRuntime : ReferenceTrajectoryRuntime := (runtimeCalls.replay [] {} activatingCalls).2

/-- The turn at 2.5 s publishes the reference. The reference expires after 2.7 s, before the next
publication at 2.75 s and the next status at 3 s: until then a turn does nothing, and the one at
2.8 s leaves Active. -/
theorem wakeUps_sound_active :
    (activeRuntime.update (.fin (5 / 2))).effects = [⟨.activeAnalytic, .fin (5 / 2)⟩] ∧
      (activeRuntime.update (.fin (5 / 2))).nextWake = .nextAfter (.fin (27 / 10)) ∧
      (activeRuntime.update (.fin (5 / 2))).update (.fin (26 / 10)) =
        { activeRuntime.update (.fin (5 / 2)) with
          currentTimeSec := .fin (26 / 10), effects := [] } ∧
      ReferenceTrajectoryRuntime.Progresses (activeRuntime.update (.fin (5 / 2)))
        ((activeRuntime.update (.fin (5 / 2))).update (.fin (28 / 10))) (.fin (28 / 10)) := by
  have start : runtimeCalls.Run (· = {}) (fun _ _ _ => True) [] {} := .start rfl
  have run : runtimeCalls.Run (· = {}) (fun _ _ _ => True) _ activeRuntime :=
    start.replay activatingCalls (Machine.admits_of_forall _ (fun _ _ _ => trivial) _ _ _)
  obtain ⟨quiet, progress⟩ := wakeUps_sound run (5 / 2)
  refine ⟨by decide +kernel, by decide +kernel, quiet _ (by norm_num) (by decide +kernel),
    progress _ (by decide +kernel)⟩

end Active

end Generator

end MultirotorController
