import Mathlib.Data.List.Induction
import MultirotorController.Common.TimeSpans
import MultirotorController.Generator.ReferenceModule
import MultirotorController.Lib.Procedure

/-!
# What the requests of a step decide

A request is accepted, refused or a reset, whatever the state of the runtime is.
Of the requests of a step the last one that was not refused decides: an accepted
reference waits for the turn of the same step, and a reset leaves nothing. The
refused ones only leave flags.
-/

namespace MultirotorController

open Trajectory

namespace Generator

inductive Outcome where
  | accepted (reference : StoredReference)
  | refused (flags : UInt32)
  | reset
deriving DecidableEq, Repr

namespace Outcome

/-- What is waiting after this outcome, if it changes that. -/
def decides : Outcome → Option (Option StoredReference)
  | .accepted reference => some (some reference)
  | .refused _ => none
  | .reset => some none

end Outcome

def Verdict.outcome : Verdict → Outcome
  | .accepted reference => .accepted reference
  | .flagged flags => .refused flags
  | .thrown _ => .refused 0

section Clock

/-- A stamp of the host is before the end of the clock. -/
def OnClock (ns : Int64) : Prop := ns.toInt < 4294967296 * 1000000000

instance (ns : Int64) : Decidable (OnClock ns) := inferInstanceAs (Decidable (_ < _))

/-- The value of a stamp on the clock. -/
def seconds (ns : Int64) : Double := .fin (ns.toNatClampNeg / 1000000000)

theorem toNat_stamp (ns : Int64) :
    (UInt64.ofNat ns.toNatClampNeg).toNat = ns.toInt.toNat := by
  have clamped : ns.toNatClampNeg = ns.toInt.toNat := rfl
  have bound := ns.toInt_lt
  rw [UInt64.toNat_ofNat', clamped]
  apply Nat.mod_eq_of_lt
  omega

theorem toSeconds_ok {ns : Int64} (onClock : OnClock ns) : toSeconds ns = .ok (seconds ns) := by
  unfold OnClock at onClock
  obtain ⟨time, made, -, count⟩ := (Time.fromNSec_exact (.ofNat ns.toNatClampNeg)).1 (by
    rw [toNat_stamp]
    exact ⟨by omega, by omega⟩)
  rw [toNat_stamp] at count
  have count : time.nanos = ns.toNatClampNeg := by exact_mod_cast count
  unfold toSeconds seconds
  rw [made, ← count, ← Time.toSec_eq]
  rfl

theorem toSeconds_error {ns : Int64} (offClock : ¬ OnClock ns) :
    ∃ error, toSeconds ns = .error error := by
  unfold OnClock at offClock
  have thrown := (Time.fromNSec_exact (.ofNat ns.toNatClampNeg)).2 (by
    rw [toNat_stamp]
    rintro ⟨-, small⟩
    omega)
  refine ⟨Time.outOfRange, ?_⟩
  unfold toSeconds
  rw [thrown]
  rfl

end Clock

section Outcomes

variable [Libm] [Xgc2Math] [TrajectoryValidator3]

/-- What becomes of a message whose request was received at this stamp. -/
def received (verdict : Double → Verdict) (stampNs : Int64) : Outcome :=
  if OnClock stampNs then (verdict (seconds stampNs)).outcome else .refused 0

/-- What becomes of a request under a configuration. -/
def outcome (config : ReferenceTrajectoryConfig) : Request → Outcome
  | .analytic stampNs payload =>
      match payload.bind AnalyticPayload.toCore with
      | none => .refused 0
      | some message => received (analyticVerdict config message) stampNs
  | .sampled stampNs payload =>
      match payload.bind SampledPayload.toCore with
      | none => .refused 0
      | some message => received (sampledVerdict config message) stampNs
  | .reset _ => .reset

def outcomes (config : ReferenceTrajectoryConfig) (arrivals : Arrivals) : List Outcome :=
  (collectRequests arrivals).map (outcome config)

end Outcomes

/-- The decision of a list of outcomes is the one of the last that decides. -/
def decision (outcomes : List Outcome) : Option (Option StoredReference) :=
  outcomes.foldl (fun decided outcome => outcome.decides.or decided) none

theorem decision_concat (outcomes : List Outcome) (last : Outcome) :
    decision (outcomes ++ [last]) = last.decides.or (decision outcomes) := by
  rw [decision, List.foldl_append]
  rfl

namespace ReferenceTrajectoryRuntime

/-- The runtime after a request with this outcome. -/
def take (runtime : ReferenceTrajectoryRuntime) : Outcome → ReferenceTrajectoryRuntime
  | .accepted reference => { runtime with pending := some reference }
  | .refused flags => { runtime with flags := runtime.flags ||| flags }
  | .reset => runtime.reset

@[simp] theorem take_config (runtime : ReferenceTrajectoryRuntime) (outcome : Outcome) :
    (runtime.take outcome).config = runtime.config := by
  cases outcome <;> rfl

def takeAll (runtime : ReferenceTrajectoryRuntime) (outcomes : List Outcome) :
    ReferenceTrajectoryRuntime :=
  outcomes.foldl take runtime

theorem takeAll_concat (runtime : ReferenceTrajectoryRuntime) (outcomes : List Outcome)
    (last : Outcome) :
    runtime.takeAll (outcomes ++ [last]) = (runtime.takeAll outcomes).take last := by
  rw [takeAll, List.foldl_append]
  rfl

@[simp] theorem takeAll_config (runtime : ReferenceTrajectoryRuntime) (outcomes : List Outcome) :
    (runtime.takeAll outcomes).config = runtime.config := by
  induction outcomes using List.reverseRecOn with
  | nil => rfl
  | append_singleton outcomes last ih => rw [takeAll_concat, take_config, ih]

end ReferenceTrajectoryRuntime

open ReferenceTrajectoryRuntime

section Accept

variable [Libm] [Xgc2Math] [TrajectoryValidator3]

theorem accept_eq (runtime : ReferenceTrajectoryRuntime) (request : Request) :
    accept runtime request = (runtime.take (outcome runtime.config request),
      (outcome runtime.config request).decides.isSome) := by
  have kept : runtime = { runtime with flags := runtime.flags ||| 0 } := by
    rw [UInt32.or_zero]
  cases request with
  | analytic stampNs payload =>
      unfold accept outcome
      dsimp only
      cases payload.bind AnalyticPayload.toCore with
      | none => exact congrArg (·, false) kept
      | some message =>
          dsimp only
          unfold received
          by_cases onClock : OnClock stampNs
          · rw [toSeconds_ok onClock, if_pos onClock, Procedure.ok_bind, acceptAnalytic_eq]
            cases analyticVerdict runtime.config message (seconds stampNs) with
            | accepted reference => rfl
            | flagged flags => rfl
            | thrown error => exact congrArg (·, false) kept
          · obtain ⟨error, thrown⟩ := toSeconds_error onClock
            rw [thrown, if_neg onClock]
            exact congrArg (·, false) kept
  | sampled stampNs payload =>
      unfold accept outcome
      dsimp only
      cases payload.bind SampledPayload.toCore with
      | none => exact congrArg (·, false) kept
      | some message =>
          dsimp only
          unfold received
          by_cases onClock : OnClock stampNs
          · rw [toSeconds_ok onClock, if_pos onClock, Procedure.ok_bind, acceptSampled_eq]
            cases sampledVerdict runtime.config message (seconds stampNs) with
            | accepted reference => rfl
            | flagged flags => rfl
            | thrown error => exact congrArg (·, false) kept
          · obtain ⟨error, thrown⟩ := toSeconds_error onClock
            rw [thrown, if_neg onClock]
            exact congrArg (·, false) kept
  | reset stampNs => rfl

/-- The requests of a step, taken one after another. -/
theorem acceptAll_eq (runtime : ReferenceTrajectoryRuntime) (requests : List Request) :
    acceptAll runtime requests = (runtime.takeAll (requests.map (outcome runtime.config)),
      (decision (requests.map (outcome runtime.config))).isSome) := by
  induction requests using List.reverseRecOn with
  | nil => rfl
  | append_singleton requests last ih =>
      have earlier : acceptAll runtime (requests ++ [last]) =
          ((accept (acceptAll runtime requests).1 last).1,
            (accept (acceptAll runtime requests).1 last).2 || (acceptAll runtime requests).2) := by
        rw [acceptAll, List.foldl_append]
        rfl
      rw [earlier, ih, accept_eq, takeAll_config, List.map_append, List.map_singleton,
        takeAll_concat, decision_concat]
      cases (outcome runtime.config last).decides <;> rfl

end Accept

section Decision

variable {runtime : ReferenceTrajectoryRuntime} {outcomes : List Outcome}

/-- Without a decision only the flags may have changed. -/
theorem takeAll_of_undecided (runtime : ReferenceTrajectoryRuntime)
    (undecided : decision outcomes = none) :
    ∃ flags, runtime.takeAll outcomes = { runtime with flags } := by
  induction outcomes using List.reverseRecOn with
  | nil => exact ⟨runtime.flags, rfl⟩
  | append_singleton outcomes last ih =>
      rw [decision_concat] at undecided
      rw [takeAll_concat]
      cases last with
      | accepted reference => cases undecided
      | reset => cases undecided
      | refused flags =>
          obtain ⟨flags', taken⟩ := ih undecided
          exact ⟨flags' ||| flags, by rw [taken]; rfl⟩

theorem takeAll_pending {reference : StoredReference}
    (decided : decision outcomes = some (some reference)) :
    (runtime.takeAll outcomes).pending = some reference := by
  induction outcomes using List.reverseRecOn with
  | nil => cases decided
  | append_singleton outcomes last ih =>
      rw [decision_concat] at decided
      rw [takeAll_concat]
      cases last with
      | accepted reference' =>
          cases decided
          rfl
      | reset => cases decided
      | refused flags => exact ih decided

/-- After a reset that nothing followed there is no reference at all. -/
theorem takeAll_reset (runtime : ReferenceTrajectoryRuntime)
    (decided : decision outcomes = some none) :
    ∃ flags, runtime.takeAll outcomes = { runtime.reset with flags } := by
  induction outcomes using List.reverseRecOn with
  | nil => cases decided
  | append_singleton outcomes last ih =>
      rw [decision_concat] at decided
      rw [takeAll_concat]
      cases last with
      | accepted reference => cases decided
      | reset =>
          refine ⟨0, ?_⟩
          unfold take reset
          rw [takeAll_config]
      | refused flags =>
          obtain ⟨flags', taken⟩ := ih decided
          exact ⟨flags' ||| flags, by rw [taken]; rfl⟩

end Decision

theorem ReferenceTrajectoryRuntime.Sound.take {runtime : ReferenceTrajectoryRuntime}
    (sound : runtime.Sound) (outcome : Outcome) : (runtime.take outcome).Sound := by
  cases outcome with
  | accepted reference => exact ⟨sound.status, sound.publish, sound.timeout, sound.machine⟩
  | refused flags => exact ⟨sound.status, sound.publish, sound.timeout, sound.machine⟩
  | reset => exact sound.reset

theorem ReferenceTrajectoryRuntime.Sound.takeAll {runtime : ReferenceTrajectoryRuntime}
    (sound : runtime.Sound) (outcomes : List Outcome) : (runtime.takeAll outcomes).Sound := by
  induction outcomes using List.reverseRecOn with
  | nil => exact sound
  | append_singleton outcomes last ih =>
      rw [takeAll_concat]
      exact ih.take last

end Generator

end MultirotorController
