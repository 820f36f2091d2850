import MultirotorController.Generator.Requests

/-!
# What a step of the reference module does

A step takes its requests and turns the runtime when one of them decided or a
wake-up is due; from the end of the clock on it only drops them. What it writes
about a reference is the payload of the reference that is active then, and its
runtime keeps the invariants of the wake-ups.
-/

namespace MultirotorController

open Trajectory

namespace Generator

/-- What a publication of this reference writes, when it fits. -/
def StoredReference.payload : StoredReference → Option OutputPayload
  | .analytic message _ _ => message.toPayload.map .activeAnalytic
  | .sampled message _ _ => message.toPayload.map .activeSampled

theorem AnalyticPayload.params_le {payload : AnalyticPayload} {message : AnalyticReference}
    (core : payload.toCore = some message) : message.params.length ≤ maxParams := by
  unfold toCore at core
  split at core
  · cases core
  next fits =>
    cases core
    exact (List.length_take_le _ _).trans (not_lt.mp fits)

theorem SampledPayload.points_le {payload : SampledPayload} {message : SampledReference}
    (core : payload.toCore = some message) : message.points.length ≤ maxPoints := by
  unfold toCore at core
  split at core
  · cases core
  next fits =>
    cases core
    exact (List.length_take_le _ _).trans (not_lt.mp fits)

theorem AnalyticReference.toPayload_isSome_iff {message : AnalyticReference}
    (bounded : message.params.length ≤ maxParams) :
    message.toPayload.isSome = true ↔ message.frameId.length < frameIdSize := by
  unfold toPayload
  by_cases fits : message.frameId.length < frameIdSize
  · rw [if_neg (not_or.mpr ⟨not_lt.mpr bounded, not_le.mpr fits⟩)]
    simp [fits]
  · rw [if_pos (.inr (not_lt.mp fits))]
    simp [fits]

theorem SampledReference.toPayload_isSome_iff {message : SampledReference}
    (bounded : message.points.length ≤ maxPoints) :
    message.toPayload.isSome = true ↔ message.frameId.length < frameIdSize := by
  unfold toPayload
  by_cases fits : message.frameId.length < frameIdSize
  · rw [if_neg (not_or.mpr ⟨not_lt.mpr bounded, not_le.mpr fits⟩)]
    simp [fits]
  · rw [if_pos (.inr (not_lt.mp fits))]
    simp [fits]

def OutputPayload.isActive : OutputPayload → Bool
  | .status _ => false
  | _ => true

def Publication.isActive (publication : Publication) : Bool := publication.payload.isActive

theorem StoredReference.payload_isActive {reference : StoredReference} {payload : OutputPayload}
    (fits : reference.payload = some payload) : payload.isActive = true := by
  cases reference with
  | analytic message evaluator flags =>
      obtain ⟨_, _, rfl⟩ := Option.map_eq_some_iff.mp fits
      rfl
  | sampled message evaluator flags =>
      obtain ⟨_, _, rfl⟩ := Option.map_eq_some_iff.mp fits
      rfl

section Publish

variable {runtime : ReferenceTrajectoryRuntime} {granted : ReferenceEffectKind → Bool}

theorem publish_effectKind {reference : StoredReference}
    (stored : runtime.active = some reference) (slot : Bool) (timestamp now : Double) :
    publish runtime slot ⟨reference.effectKind, timestamp⟩ now =
      .ok (if slot then reference.payload else none) := by
  unfold publish
  rw [stored]
  cases reference <;> rfl

theorem publish_status (slot : Bool) (now : Double) :
    publish runtime slot ⟨.status, now⟩ now =
      (runtime.makeStatus now).map fun status => if slot then some (.status status) else none := by
  unfold publish
  dsimp only
  rw [ite_self]
  cases runtime.makeStatus now <;> rfl

/-- What is written about a reference is about the active one. -/
theorem payload_of_publish {slot : Bool} {effect : ReferenceEffect} {now : Double}
    {payload : OutputPayload} (written : publish runtime slot effect now = .ok (some payload))
    (active : payload.isActive = true) :
    ∃ reference, runtime.active = some reference ∧ reference.payload = some payload := by
  obtain ⟨kind, timestamp⟩ := effect
  unfold publish at written
  cases kind with
  | status =>
      dsimp only at written
      cases made : runtime.makeStatus (if 0 < timestamp then timestamp else now) with
      | error error =>
          rw [made] at written
          cases written
      | ok status =>
          rw [made] at written
          cases slot with
          | false => cases written
          | true =>
              cases written
              cases active
  | activeAnalytic =>
      cases stored : runtime.active with
      | none =>
          rw [stored] at written
          cases slot <;> cases written
      | some reference =>
          rw [stored] at written
          cases reference with
          | analytic message evaluator flags =>
              cases slot with
              | false => cases written
              | true => exact ⟨_, rfl, Except.ok.inj written⟩
          | sampled message evaluator flags => cases slot <;> cases written
  | activeSampled =>
      cases stored : runtime.active with
      | none =>
          rw [stored] at written
          cases slot <;> cases written
      | some reference =>
          rw [stored] at written
          cases reference with
          | analytic message evaluator flags => cases slot <;> cases written
          | sampled message evaluator flags =>
              cases slot with
              | false => cases written
              | true => exact ⟨_, rfl, Except.ok.inj written⟩

theorem payload_of_publishAll {nowNs : Int64} {now : Double} {effects : List ReferenceEffect}
    {publication : Publication}
    (written : publication ∈ (publishAll runtime granted nowNs now effects).1)
    (active : publication.isActive = true) :
    ∃ reference, runtime.active = some reference ∧
      reference.payload = some publication.payload := by
  induction effects with
  | nil => cases written
  | cons effect rest ih =>
      unfold publishAll at written
      split at written
      · cases written
      next now result sent =>
        rcases List.mem_append.mp written with first | later
        · obtain ⟨payload, present, rfl⟩ := List.mem_map.mp first
          rw [Option.mem_toList] at present
          cases present
          exact payload_of_publish sent active
        · exact ih later

end Publish

section Step

variable [Libm] [Xgc2Math] [TrajectoryValidator3]

/-- The outcomes of the requests that a step takes: all of them, or none off the clock. -/
def stepOutcomes (config : ReferenceTrajectoryConfig) (context : StepContext) : List Outcome :=
  if OnClock context.nowNs then outcomes config context.toArrivals else []

theorem stepOutcomes_onClock {context : StepContext} (onClock : OnClock context.nowNs)
    (config : ReferenceTrajectoryConfig) :
    stepOutcomes config context = outcomes config context.toArrivals := if_pos onClock

theorem stepOutcomes_offClock {context : StepContext} (offClock : ¬ OnClock context.nowNs)
    (config : ReferenceTrajectoryConfig) : stepOutcomes config context = [] := if_neg offClock

/-- The step turns the runtime. -/
def Turns (config : ReferenceTrajectoryConfig) (context : StepContext) : Prop :=
  OnClock context.nowNs ∧
    (context.updateDue ∨ (decision (stepOutcomes config context)).isSome)

instance (config : ReferenceTrajectoryConfig) (context : StepContext) :
    Decidable (Turns config context) := inferInstanceAs (Decidable (_ ∧ _))

/-- A step that takes a decision turns. -/
theorem turns_of_decision {config : ReferenceTrajectoryConfig} {context : StepContext}
    {decided : Option StoredReference}
    (decides : decision (stepOutcomes config context) = some decided) :
    Turns config context := by
  refine ⟨?_, .inr (decides ▸ rfl)⟩
  by_contra offClock
  rw [stepOutcomes_offClock offClock] at decides
  cases decides

namespace ReferenceModule

/-- The module after it took the requests of a step. -/
def taken (module : ReferenceModule) (context : StepContext) : ReferenceModule :=
  { module.consumeDeadline context with
    runtime := module.runtime.takeAll (stepOutcomes module.runtime.config context) }

theorem step_eq {module : ReferenceModule} (running : module.running = true)
    (context : StepContext) :
    module.step context =
      if Turns module.runtime.config context then
        (module.taken context).turn context (seconds context.nowNs)
      else (module.taken context,
        { status := if OnClock context.nowNs then .ok else .errInternal }) := by
  have same : (module.consumeDeadline context).runtime = module.runtime := by
    unfold consumeDeadline
    split <;> rfl
  unfold step
  rw [if_neg (not_not.mpr running)]
  dsimp only
  by_cases onClock : OnClock context.nowNs
  · have took := stepOutcomes_onClock onClock module.runtime.config
    unfold outcomes at took
    have taken : module.taken context = { module.consumeDeadline context with
        runtime := module.runtime.takeAll
          ((collectRequests context.toArrivals).map (outcome module.runtime.config)) } := by
      rw [taken, took]
    rw [toSeconds_ok onClock, same]
    dsimp only
    rw [acceptAll_eq, taken, if_pos onClock, ← took]
    by_cases turns : Turns module.runtime.config context
    · have due : (!context.updateDue &&
          !(decision (stepOutcomes module.runtime.config context)).isSome) = false := by
        rcases turns.2 with due | decided
        · rw [due]
          rfl
        · rw [decided, Bool.not_true, Bool.and_false]
      rw [if_pos turns, if_neg (by rw [due]; exact Bool.false_ne_true)]
    · rw [if_neg turns, if_pos]
      have idle := not_or.mp fun due => turns ⟨onClock, due⟩
      simpa using idle
  · obtain ⟨error, thrown⟩ := toSeconds_error onClock
    rw [thrown, if_neg (fun turns : Turns _ _ => onClock turns.1), if_neg onClock]
    unfold taken
    rw [stepOutcomes_offClock onClock, ← same]
    rfl

omit [Libm] [TrajectoryValidator3] in
theorem turn_runtime (module : ReferenceModule) (context : StepContext) (now : Double) :
    (module.turn context now).1.runtime = module.runtime.update now := by
  unfold turn
  dsimp only
  split <;> rfl

omit [Libm] [TrajectoryValidator3] in
theorem turn_running (module : ReferenceModule) (context : StepContext) (now : Double) :
    (module.turn context now).1.running = module.running := by
  unfold turn
  dsimp only
  split <;> rfl

omit [Libm] [TrajectoryValidator3] in
theorem turn_publications (module : ReferenceModule) (context : StepContext) (now : Double) :
    (module.turn context now).2.publications =
      (publishAll (module.runtime.update now) context.granted context.nowNs now
        (module.runtime.update now).effects).1 := by
  unfold turn
  dsimp only
  split
  next publications sent => rw [sent]
  next publications sent => rw [sent]

/-- The module between two steps of a run that a configuration started. -/
structure Between (config : ReferenceTrajectoryConfig) (module : ReferenceModule) : Prop where
  running : module.running = true
  configured : module.runtime.config = config
  idle : module.runtime.pending = none
  sound : module.runtime.Sound

omit [Libm] [TrajectoryValidator3] in
theorem between_start (config : ReferenceTrajectoryConfig) :
    Between config.sanitized (start config) :=
  ⟨rfl, rfl, rfl, ReferenceTrajectoryRuntime.sound_setConfig config⟩

theorem taken_running (module : ReferenceModule) (context : StepContext) :
    (module.taken context).running = module.running := by
  unfold taken consumeDeadline
  split <;> rfl

theorem Between.step {config : ReferenceTrajectoryConfig} {module : ReferenceModule}
    (between : Between config module) (context : StepContext) :
    Between config (module.step context).1 := by
  have configured : (module.taken context).runtime.config = config :=
    (ReferenceTrajectoryRuntime.takeAll_config _ _).trans between.configured
  have sound : (module.taken context).runtime.Sound := between.sound.takeAll _
  rw [step_eq between.running]
  by_cases turns : Turns module.runtime.config context
  · rw [if_pos turns]
    refine ⟨?_, ?_, ?_, ?_⟩
    · rw [turn_running, taken_running, between.running]
    · rw [turn_runtime, ReferenceTrajectoryRuntime.update_config, configured]
    · rw [turn_runtime, ReferenceTrajectoryRuntime.update_pending_eq]
    · rw [turn_runtime]
      exact (sound.update _).toSound
  · rw [if_neg turns]
    refine ⟨(taken_running module context).trans between.running, configured, ?_, sound⟩
    have undecided : decision (stepOutcomes module.runtime.config context) = none := by
      cases decides : decision (stepOutcomes module.runtime.config context) with
      | none => rfl
      | some decided => exact absurd (turns_of_decision decides) turns
    obtain ⟨flags, taken⟩ := takeAll_of_undecided module.runtime undecided
    exact (congrArg (·.pending) taken).trans between.idle

end ReferenceModule

end Step

end Generator

end MultirotorController
