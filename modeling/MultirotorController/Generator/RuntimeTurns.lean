import MultirotorController.Generator.ReferenceTrajectoryRuntime

/-!
# What a turn of the reference generator does

A turn consumes the pending reference: it becomes the active one and is published
in the same turn. Without a pending reference the active one stays, and every
effect is the status or a publication of the active reference.
-/

namespace MultirotorController

open Trajectory

namespace Generator

/-- The gate of an output that was published at this time. -/
def Gate.opened (now : Double) : Gate := { last := now, initialized := true }

/-- The effects of a gate that was asked. -/
def emission (due : Bool) (kind : ReferenceEffectKind) (now : Double) : List ReferenceEffect :=
  if due then [⟨kind, now⟩] else []

variable [Xgc2Math] {runtime : ReferenceTrajectoryRuntime}

namespace ReferenceTrajectoryRuntime

/-- The runtime at the end of a turn, with the parts that a turn sets. -/
def turned (runtime : ReferenceTrajectoryRuntime) (now : Double) (machine : ReferenceMachine)
    (effects : List ReferenceEffect) : ReferenceTrajectoryRuntime :=
  { runtime with currentTimeSec := now, machine, effects }

/-- The runtime after it activated a reference. -/
def activated (runtime : ReferenceTrajectoryRuntime) (reference : StoredReference) :
    ReferenceTrajectoryRuntime :=
  { runtime with flags := reference.flags, active := some reference, pending := none }

/-- The status gate on entering Active, or on a new reference while Active. -/
def statusTurn (runtime : ReferenceTrajectoryRuntime) (now : Double) : Gate × Bool :=
  match runtime.machine with
  | .active status _ => status.due now runtime.config.statusRateHz
  | _ => (.opened now, true)

/-- A pending reference is activated and published whatever the state is. -/
theorem update_pending {reference : StoredReference}
    (pending : runtime.pending = some reference) (now : Double) :
    runtime.update now = (runtime.activated reference).turned now
      (.active (runtime.statusTurn now).1 (.opened now))
      (emission (runtime.statusTurn now).2 .status now ++ [⟨reference.effectKind, now⟩]) := by
  obtain ⟨config, machine, time, flags, waiting, active, effects⟩ := runtime
  subst pending
  cases machine with
  | selfCheck => rfl
  | ready status => rfl
  | active status gate =>
      simp only [update, dispatch, handleActive, hasPendingReference, activatePending, emitIf,
        statusTurn, Option.isSome_some, if_true]
      cases (status.due now config.statusRateHz).2 with
      | false => rfl
      | true => rfl

/-- The first turn without a pending reference enters Ready. -/
theorem update_selfCheck (idle : runtime.pending = none) (state : runtime.machine = .selfCheck)
    (now : Double) :
    runtime.update now = runtime.turned now (.ready (.opened now)) [⟨.status, now⟩] := by
  obtain ⟨config, machine, time, flags, waiting, active, effects⟩ := runtime
  subst idle state
  rfl

theorem update_ready {status : Gate} (idle : runtime.pending = none)
    (state : runtime.machine = .ready status) (now : Double) :
    runtime.update now = runtime.turned now
      (.ready (status.due now runtime.config.statusRateHz).1)
      (emission (status.due now runtime.config.statusRateHz).2 .status now) := by
  obtain ⟨config, machine, time, flags, waiting, active, effects⟩ := runtime
  subst idle state
  simp only [update, dispatch, handleReady, hasPendingReference, emitIf, Option.isSome_none,
    Bool.false_eq_true, if_false]
  cases (status.due now config.statusRateHz).2 with
  | false => rfl
  | true => rfl

/-- An ended reference leaves Active for Ready. -/
theorem update_expired {status gate : Gate} (idle : runtime.pending = none)
    (state : runtime.machine = .active status gate) {now : Double}
    (expired : runtime.activeExpired now = true) :
    runtime.update now = runtime.turned now (.ready (.opened now)) [⟨.status, now⟩] := by
  obtain ⟨config, machine, time, flags, waiting, active, effects⟩ := runtime
  subst idle state
  have ended : activeExpired
      { config, machine := .active status gate, currentTimeSec := now, flags, pending := none,
        active, effects := [] } now = true := expired
  simp only [update, dispatch, handleActive, hasPendingReference, Option.isSome_none,
    Bool.false_eq_true, if_false, if_pos ended]
  rfl

theorem update_active {status gate : Gate} {reference : StoredReference}
    (idle : runtime.pending = none) (state : runtime.machine = .active status gate)
    (stored : runtime.active = some reference) {now : Double}
    (running : runtime.activeExpired now = false) :
    runtime.update now = runtime.turned now
      (.active (status.due now runtime.config.statusRateHz).1
        (gate.due now runtime.config.activePublishRateHz).1)
      (emission (status.due now runtime.config.statusRateHz).2 .status now ++
        emission (gate.due now runtime.config.activePublishRateHz).2 reference.effectKind now) := by
  obtain ⟨config, machine, time, flags, waiting, active, effects⟩ := runtime
  subst idle state stored
  have goes : ¬ activeExpired
      { config, machine := .active status gate, currentTimeSec := now, flags, pending := none,
        active := some reference, effects := [] } now = true := by
    intro ended
    exact absurd (running.symm.trans ended) Bool.false_ne_true
  simp only [update, dispatch, handleActive, hasPendingReference, emitIf, Option.isSome_none,
    Bool.false_eq_true, if_false, if_neg goes]
  cases (status.due now config.statusRateHz).2 <;>
    cases (gate.due now config.activePublishRateHz).2 <;> rfl

/-- Without a pending reference a turn sets the state and the effects only. -/
theorem update_idle (idle : runtime.pending = none) (now : Double) :
    ∃ machine effects, runtime.update now = runtime.turned now machine effects := by
  cases state : runtime.machine with
  | selfCheck => exact ⟨_, _, update_selfCheck idle state now⟩
  | ready status => exact ⟨_, _, update_ready idle state now⟩
  | active status gate =>
      cases ended : runtime.activeExpired now with
      | true => exact ⟨_, _, update_expired idle state ended⟩
      | false =>
          cases stored : runtime.active with
          | none =>
              rw [activeExpired, stored] at ended
              cases ended
          | some reference => exact ⟨_, _, update_active idle state stored ended⟩

@[simp] theorem update_config (now : Double) : (runtime.update now).config = runtime.config := by
  cases pending : runtime.pending with
  | some reference =>
      rw [update_pending pending]
      rfl
  | none =>
      obtain ⟨machine, effects, turn⟩ := update_idle pending now
      rw [turn]
      rfl

@[simp] theorem update_pending_eq (now : Double) : (runtime.update now).pending = none := by
  cases pending : runtime.pending with
  | some reference =>
      rw [update_pending pending]
      rfl
  | none =>
      obtain ⟨machine, effects, turn⟩ := update_idle pending now
      rw [turn]
      exact pending

theorem update_active_eq (now : Double) :
    (runtime.update now).active = runtime.pending.or runtime.active := by
  cases pending : runtime.pending with
  | some reference =>
      rw [update_pending pending]
      rfl
  | none =>
      obtain ⟨machine, effects, turn⟩ := update_idle pending now
      rw [turn]
      rfl

end ReferenceTrajectoryRuntime

/-- What becomes of a request: it waits for activation, leaves its flags or throws. -/
inductive Verdict where
  | accepted (reference : StoredReference)
  | flagged (flags : UInt32)
  | thrown (error : RuntimeError)

namespace ReferenceTrajectoryRuntime

/-- The runtime after a request was judged. -/
def judged (runtime : ReferenceTrajectoryRuntime) :
    Verdict → Except RuntimeError (ReferenceTrajectoryRuntime × Bool)
  | .accepted reference => .ok ({ runtime with pending := some reference }, true)
  | .flagged flags => .ok ({ runtime with flags := runtime.flags ||| flags }, false)
  | .thrown error => .error error

end ReferenceTrajectoryRuntime

section Accept

variable [TrajectoryValidator3]

/-- The verdict on an analytic request depends on the configuration only. -/
def analyticVerdict [Libm] (config : ReferenceTrajectoryConfig) (msg : AnalyticReference)
    (receiptSec : Double) : Verdict :=
  match buildAnalyticEvaluator config msg.toAnalyticReference with
  | (none, flags) => .flagged flags
  | (some evaluator, flags) =>
      match Time.fromSec
          (adjustedStartTime msg.startTime.toSec receiptSec config.minLeadTime) with
      | .ok startTime => .accepted (.analytic { msg with startTime } evaluator flags)
      | .error error => .thrown error

def sampledVerdict (config : ReferenceTrajectoryConfig) (msg : SampledReference)
    (receiptSec : Double) : Verdict :=
  match buildSampledEvaluator config msg.toSampledReference with
  | (none, flags) => .flagged flags
  | (some evaluator, flags) =>
      match Time.fromSec
          (adjustedStartTime msg.startTime.toSec receiptSec config.minLeadTime) with
      | .ok startTime => .accepted (.sampled { msg with startTime } evaluator flags)
      | .error error => .thrown error

namespace ReferenceTrajectoryRuntime

theorem acceptAnalytic_eq [Libm] (runtime : ReferenceTrajectoryRuntime) (msg : AnalyticReference)
    (receiptSec : Double) : runtime.acceptAnalytic msg receiptSec =
      runtime.judged (analyticVerdict runtime.config msg receiptSec) := by
  unfold acceptAnalytic analyticVerdict
  rcases buildAnalyticEvaluator runtime.config msg.toAnalyticReference with ⟨_ | evaluator, flags⟩
  · rfl
  · dsimp only
    cases Time.fromSec (adjustedStartTime msg.startTime.toSec receiptSec
      runtime.config.minLeadTime) <;> rfl

theorem acceptSampled_eq (runtime : ReferenceTrajectoryRuntime) (msg : SampledReference)
    (receiptSec : Double) : runtime.acceptSampled msg receiptSec =
      runtime.judged (sampledVerdict runtime.config msg receiptSec) := by
  unfold acceptSampled sampledVerdict
  rcases buildSampledEvaluator runtime.config msg.toSampledReference with ⟨_ | evaluator, flags⟩
  · rfl
  · dsimp only
    cases Time.fromSec (adjustedStartTime msg.startTime.toSec receiptSec
      runtime.config.minLeadTime) <;> rfl

/-- An accepted analytic reference waits with the curve it denotes. -/
theorem acceptAnalytic_true [Libm] {msg : AnalyticReference} {receiptSec : Double}
    {after : ReferenceTrajectoryRuntime}
    (accepted : runtime.acceptAnalytic msg receiptSec = .ok (after, true)) :
    ∃ startTime flags, after = { runtime with
      pending := some (.analytic { msg with startTime }
        (analyticCurve msg.toAnalyticReference) flags) } := by
  rw [acceptAnalytic_eq, analyticVerdict, buildAnalyticEvaluator] at accepted
  split at accepted
  · cases accepted
  next evaluator flags built =>
    split at built
    · cases built
    · cases built
      split at accepted
      next startTime start =>
        cases accepted
        exact ⟨startTime, _, rfl⟩
      · cases accepted

end ReferenceTrajectoryRuntime

end Accept

end Generator

end MultirotorController
