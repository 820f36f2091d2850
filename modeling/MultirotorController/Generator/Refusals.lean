import MultirotorController.Generator.ModuleSteps
import MultirotorController.Control.ExactMath

/-!
# Refused requests do not interfere

Two runs of the reference module, one of them with further requests that are all
refused, go through the same states and write the same publications with the same
stamps. All that a refused request leaves is flag bits, which the status carries
until the next reference is activated.
-/

namespace MultirotorController

open Trajectory

namespace Generator

namespace ReferenceTrajectoryRuntime

/-- The runtime with further flags. -/
def flagged (runtime : ReferenceTrajectoryRuntime) (extra : UInt32) : ReferenceTrajectoryRuntime :=
  { runtime with flags := runtime.flags ||| extra }

/-- The second runtime is the first one, up to further flags. -/
def Related (runtime runtime' : ReferenceTrajectoryRuntime) : Prop :=
  ∃ extra, runtime' = runtime.flagged extra

theorem flagged_flagged (runtime : ReferenceTrajectoryRuntime) (a b : UInt32) :
    (runtime.flagged a).flagged b = runtime.flagged (a ||| b) := by
  unfold flagged
  rw [UInt32.or_assoc]

theorem flagged_zero (runtime : ReferenceTrajectoryRuntime) : runtime.flagged 0 = runtime := by
  unfold flagged
  rw [UInt32.or_zero]

theorem Related.refl (runtime : ReferenceTrajectoryRuntime) : Related runtime runtime :=
  ⟨0, (flagged_zero runtime).symm⟩

/-- A request has the same effect on both runtimes. -/
theorem Related.take {runtime runtime' : ReferenceTrajectoryRuntime}
    (related : Related runtime runtime') (outcome : Outcome) :
    Related (runtime.take outcome) (runtime'.take outcome) := by
  obtain ⟨extra, rfl⟩ := related
  cases outcome with
  | accepted reference => exact ⟨extra, rfl⟩
  | refused flags =>
      refine ⟨extra, ?_⟩
      change (runtime.flagged extra).flagged flags = (runtime.flagged flags).flagged extra
      rw [flagged_flagged, flagged_flagged, UInt32.or_comm]
  | reset => exact .refl _

/-- A refused request only flags. -/
theorem Related.refused {runtime runtime' : ReferenceTrajectoryRuntime}
    (related : Related runtime runtime') (flags : UInt32) :
    Related runtime (runtime'.take (.refused flags)) := by
  obtain ⟨extra, rfl⟩ := related
  exact ⟨extra ||| flags, flagged_flagged runtime extra flags⟩

variable [Xgc2Math] {runtime : ReferenceTrajectoryRuntime}

/-- The flags are those of the reference after a turn that activates one. -/
theorem update_flagged_pending {reference : StoredReference}
    (pending : runtime.pending = some reference) (extra : UInt32) (now : Double) :
    (runtime.flagged extra).update now = runtime.update now := by
  have pending' : (runtime.flagged extra).pending = some reference := pending
  rw [update_pending pending, update_pending pending']
  rfl

theorem update_flagged_idle (idle : runtime.pending = none) (extra : UInt32) (now : Double) :
    (runtime.flagged extra).update now = (runtime.update now).flagged extra := by
  have idle' : (runtime.flagged extra).pending = none := idle
  cases state : runtime.machine with
  | selfCheck =>
      rw [update_selfCheck idle state, update_selfCheck idle' state]
      rfl
  | ready status =>
      rw [update_ready idle state, update_ready idle' state]
      rfl
  | active status gate =>
      cases ended : runtime.activeExpired now with
      | true =>
          have ended' : (runtime.flagged extra).activeExpired now = true := ended
          rw [update_expired idle state ended, update_expired idle' state ended']
          rfl
      | false =>
          have ended' : (runtime.flagged extra).activeExpired now = false := ended
          cases stored : runtime.active with
          | none =>
              rw [activeExpired, stored] at ended
              cases ended
          | some reference =>
              have stored' : (runtime.flagged extra).active = some reference := stored
              rw [update_active idle state stored ended,
                update_active idle' state stored' ended']
              rfl

end ReferenceTrajectoryRuntime

open ReferenceTrajectoryRuntime

/-- Further flags of a status; the other payloads have none of the runtime's. -/
def OutputPayload.flagged (extra : UInt32) : OutputPayload → OutputPayload
  | .status report => .status { report with flags := report.flags ||| extra }
  | payload => payload

def Publication.flagged (extra : UInt32) (publication : Publication) : Publication :=
  { publication with payload := publication.payload.flagged extra }

/-- The same publication with the same stamp, up to further flags of a status. -/
def SamePublication (publication publication' : Publication) : Prop :=
  ∃ extra, publication' = publication.flagged extra

theorem SamePublication.refl (publication : Publication) :
    SamePublication publication publication := by
  obtain ⟨stampNs, payload⟩ := publication
  refine ⟨0, ?_⟩
  unfold Publication.flagged OutputPayload.flagged
  cases payload with
  | status report =>
      dsimp only
      rw [UInt32.or_zero]
  | activeAnalytic payload => rfl
  | activeSampled payload => rfl

section Publish

variable (runtime : ReferenceTrajectoryRuntime) (extra : UInt32)

theorem publish_flagged (granted : Bool) (effect : ReferenceEffect) (now : Double) :
    publish (runtime.flagged extra) granted effect now =
      (publish runtime granted effect now).map (Option.map (OutputPayload.flagged extra)) := by
  obtain ⟨config, machine, time, flags, pending, active, effects⟩ := runtime
  obtain ⟨kind, timestamp⟩ := effect
  cases kind with
  | status =>
      unfold publish ReferenceTrajectoryRuntime.makeStatus
      dsimp only
      cases Time.fromSec (if 0 < timestamp then timestamp else now) with
      | error error => rfl
      | ok stamp => cases granted <;> rfl
  | activeAnalytic =>
      rcases active with _ | ⟨message, evaluator, flags⟩ | ⟨message, evaluator, flags⟩
      · cases granted <;> rfl
      · cases granted with
        | false => rfl
        | true =>
            change Except.ok (message.toPayload.map .activeAnalytic) =
              Except.ok ((message.toPayload.map .activeAnalytic).map (OutputPayload.flagged extra))
            rw [Option.map_map]
            rfl
      · cases granted <;> rfl
  | activeSampled =>
      rcases active with _ | ⟨message, evaluator, flags⟩ | ⟨message, evaluator, flags⟩
      · cases granted <;> rfl
      · cases granted <;> rfl
      · cases granted with
        | false => rfl
        | true =>
            change Except.ok (message.toPayload.map .activeSampled) =
              Except.ok ((message.toPayload.map .activeSampled).map (OutputPayload.flagged extra))
            rw [Option.map_map]
            rfl

theorem publishAll_flagged (granted : ReferenceEffectKind → Bool) (nowNs : Int64) (now : Double)
    (effects : List ReferenceEffect) :
    publishAll (runtime.flagged extra) granted nowNs now effects =
      ((publishAll runtime granted nowNs now effects).1.map (Publication.flagged extra),
        (publishAll runtime granted nowNs now effects).2) := by
  induction effects with
  | nil => rfl
  | cons effect rest ih =>
      unfold publishAll
      dsimp only
      rw [publish_flagged, ih]
      cases publish runtime (granted effect.kind) effect now with
      | error error => rfl
      | ok written =>
          dsimp only [Except.map]
          rw [List.map_append]
          cases written <;> rfl

end Publish

namespace ReferenceModule

/-- The module with further flags in its runtime. -/
def flagged (module : ReferenceModule) (extra : UInt32) : ReferenceModule :=
  { module with runtime := module.runtime.flagged extra }

def Related (module module' : ReferenceModule) : Prop := ∃ extra, module' = module.flagged extra

theorem Related.refl (module : ReferenceModule) : Related module module := by
  refine ⟨0, ?_⟩
  unfold flagged
  rw [flagged_zero]

variable [Xgc2Math]

/-- A turn that activates a reference does not see the flags of before. -/
theorem turn_flagged_pending {module : ReferenceModule} {reference : StoredReference}
    (pending : module.runtime.pending = some reference) (extra : UInt32) (context : StepContext)
    (now : Double) : (module.flagged extra).turn context now = module.turn context now := by
  unfold turn
  have same : (module.flagged extra).runtime.update now = module.runtime.update now :=
    update_flagged_pending pending extra _
  rw [same]
  rfl

/-- How a turn ends once its effects have been published. -/
def ended (module : ReferenceModule) (published : List Publication × Bool) :
    ReferenceModule × StepOutput :=
  if published.2 then (module.armDeadline, { publications := published.1 })
  else (module, { publications := published.1, status := .errInternal })

theorem turn_eq_ended (module : ReferenceModule) (context : StepContext) (now : Double) :
    module.turn context now =
      let turned := { module with runtime := module.runtime.update now }
      turned.ended
        (publishAll turned.runtime context.granted context.nowNs now turned.runtime.effects) := by
  unfold turn ended
  dsimp only
  rcases publishAll (module.runtime.update now) context.granted context.nowNs now
    (module.runtime.update now).effects with ⟨publications, completed⟩
  cases completed <;> rfl

theorem ended_flagged (module : ReferenceModule) (extra : UInt32)
    (published : List Publication × Bool) :
    (module.flagged extra).ended (published.1.map (Publication.flagged extra), published.2) =
      ((module.ended published).1.flagged extra,
        { (module.ended published).2 with
          publications := (module.ended published).2.publications.map
            (Publication.flagged extra) }) := by
  obtain ⟨publications, completed⟩ := published
  cases completed <;> rfl

/-- A turn without a request carries the flags over. -/
theorem turn_flagged_idle {module : ReferenceModule} (idle : module.runtime.pending = none)
    (extra : UInt32) (context : StepContext) (now : Double) :
    (module.flagged extra).turn context now = ((module.turn context now).1.flagged extra,
      { (module.turn context now).2 with
        publications := (module.turn context now).2.publications.map
          (Publication.flagged extra) }) := by
  have same : (module.flagged extra).runtime.update now =
      (module.runtime.update now).flagged extra := update_flagged_idle idle extra _
  rw [turn_eq_ended, turn_eq_ended]
  dsimp only
  rw [same, publishAll_flagged]
  exact ended_flagged { module with runtime := module.runtime.update now } extra _

end ReferenceModule

section Steps

variable [Libm] [Xgc2Math] [TrajectoryValidator3]

/-- A request that is refused: of the wrong size, beyond a capacity, invalid, or with a start
that has no time. -/
def Refused (config : ReferenceTrajectoryConfig) (request : Request) : Prop :=
  ∃ flags, outcome config request = .refused flags

/-- The same step with further requests that are refused. -/
structure Refilled (config : ReferenceTrajectoryConfig) (context context' : StepContext) :
    Prop where
  nowNs : context'.nowNs = context.nowNs
  timer : context'.timer = context.timer
  wake : context'.wake = context.wake
  deadline : context'.deadline = context.deadline
  granted : context'.granted = context.granted
  analytic : context.analytic.Inserts
    (fun sample => Refused config (.analytic sample.1 sample.2)) context'.analytic
  sampled : context.sampled.Inserts
    (fun sample => Refused config (.sampled sample.1 sample.2)) context'.sampled
  reset : context'.reset = context.reset

/-- An input-only step whose requests are all refused. -/
structure RefusedOnly (config : ReferenceTrajectoryConfig) (context : StepContext) : Prop where
  inputOnly : context.updateDue = false
  refused : ∀ request ∈ collectRequests context.toArrivals, Refused config request

variable {config : ReferenceTrajectoryConfig} {context context' : StepContext}
variable {module : ReferenceModule}

/-- Stamps order the requests up to ties. -/
instance : IsTrans Request fun a b => a.stampNs ≤ b.stampNs :=
  ⟨fun _ _ _ => Int64.le_trans⟩

instance : Std.Total fun a b : Request => a.stampNs ≤ b.stampNs :=
  ⟨fun _ _ => Int64.le_total _ _⟩

theorem Refilled.requests (refilled : Refilled config context context') :
    (collectRequests context.toArrivals).Inserts (Refused config)
      (collectRequests context'.toArrivals) := by
  refine List.Inserts.insertionSort (List.Inserts.append (List.Inserts.append ?_ ?_) ?_)
  · exact List.Inserts.map
      (fun sample : Int64 × Option AnalyticPayload => Request.analytic sample.1 sample.2)
      (fun _ refused => refused) refilled.analytic
  · exact List.Inserts.map
      (fun sample : Int64 × Option SampledPayload => Request.sampled sample.1 sample.2)
      (fun _ refused => refused) refilled.sampled
  · rw [refilled.reset]
    exact .refl _

/-- Refused requests do not decide. -/
theorem decision_of_inserts {requests requests' : List Request}
    (inserted : requests.Inserts (Refused config) requests') :
    decision (requests'.map (outcome config)) = decision (requests.map (outcome config)) := by
  unfold decision
  rw [List.foldl_map, List.foldl_map]
  refine (inserted.foldl Eq ?_ ?_ rfl).symm
  · rintro decided _ request rfl
    rfl
  · rintro decided _ request ⟨flags, refused⟩ rfl
    rw [refused]
    rfl

theorem takeAll_of_inserts {requests requests' : List Request}
    (inserted : requests.Inserts (Refused config) requests')
    {runtime runtime' : ReferenceTrajectoryRuntime}
    (related : ReferenceTrajectoryRuntime.Related runtime runtime') :
    ReferenceTrajectoryRuntime.Related (runtime.takeAll (requests.map (outcome config)))
      (runtime'.takeAll (requests'.map (outcome config))) := by
  unfold takeAll
  rw [List.foldl_map, List.foldl_map]
  refine inserted.foldl ReferenceTrajectoryRuntime.Related ?_ ?_ related
  · intro runtime runtime' request related
    exact related.take _
  · rintro runtime runtime' request ⟨flags, refused⟩ related
    rw [refused]
    exact related.refused flags

theorem taken_of_inserts (configured : module.runtime.config = config) (extra : UInt32)
    (deadline : context'.deadline = context.deadline) (nowNs : context'.nowNs = context.nowNs)
    (inserted : (collectRequests context.toArrivals).Inserts (Refused config)
      (collectRequests context'.toArrivals)) :
    ∃ extra', (module.flagged extra).taken context' = (module.taken context).flagged extra' := by
  subst configured
  have rest : (module.flagged extra).consumeDeadline context' =
      (module.consumeDeadline context).flagged extra := by
    unfold ReferenceModule.consumeDeadline
    rw [deadline]
    split <;> rfl
  have related : ReferenceTrajectoryRuntime.Related
      (module.runtime.takeAll (stepOutcomes module.runtime.config context))
      ((module.flagged extra).runtime.takeAll
        (stepOutcomes (module.flagged extra).runtime.config context')) := by
    change ReferenceTrajectoryRuntime.Related _
      ((module.runtime.flagged extra).takeAll (stepOutcomes module.runtime.config context'))
    by_cases onClock : OnClock context.nowNs
    · rw [stepOutcomes_onClock onClock, stepOutcomes_onClock (nowNs ▸ onClock)]
      exact takeAll_of_inserts inserted ⟨extra, rfl⟩
    · rw [stepOutcomes_offClock onClock, stepOutcomes_offClock (nowNs ▸ onClock)]
      exact ⟨extra, rfl⟩
  obtain ⟨extra', taken⟩ := related
  refine ⟨extra', ?_⟩
  unfold ReferenceModule.taken
  rw [rest]
  exact congrArg (fun runtime : ReferenceTrajectoryRuntime =>
    ({ module.consumeDeadline context with runtime } : ReferenceModule)) taken

/-- A step reads the time and the slots of its context apart from the requests. -/
theorem turn_refilled (refilled : Refilled config context context') (module : ReferenceModule)
    (now : Double) : module.turn context' now = module.turn context now := by
  unfold ReferenceModule.turn
  rw [refilled.nowNs, refilled.granted]

theorem updateDue_refilled (refilled : Refilled config context context') :
    context'.updateDue = context.updateDue := by
  unfold StepContext.updateDue
  rw [refilled.timer, refilled.wake, refilled.deadline]

theorem decision_refilled (refilled : Refilled config context context') :
    decision (stepOutcomes config context') = decision (stepOutcomes config context) := by
  unfold stepOutcomes
  rw [refilled.nowNs]
  split
  · exact decision_of_inserts refilled.requests
  · rfl

theorem turns_refilled (refilled : Refilled config context context') :
    Turns config context' ↔ Turns config context := by
  unfold Turns
  rw [refilled.nowNs, updateDue_refilled refilled, decision_refilled refilled]

/-- What two outputs have in common. -/
def SameOutput (output output' : StepOutput) : Prop :=
  output'.status = output.status ∧
    List.Forall₂ SamePublication output.publications output'.publications

omit [Libm] [Xgc2Math] [TrajectoryValidator3] in
theorem SameOutput.refl (output : StepOutput) : SameOutput output output :=
  ⟨rfl, List.forall₂_same.mpr fun publication _ => .refl publication⟩

/-- Further refused requests in a step leave further flags, and these only until a reference is
activated. -/
theorem step_refilled (between : ReferenceModule.Between config module) (extra : UInt32)
    (refilled : Refilled config context context') :
    ReferenceModule.Related (module.step context).1 ((module.flagged extra).step context').1 ∧
      SameOutput (module.step context).2 ((module.flagged extra).step context').2 ∧
      ∀ reference, decision (stepOutcomes config context) = some (some reference) →
        (module.flagged extra).step context' = module.step context := by
  have running : (module.flagged extra).running = true := between.running
  have configured : (module.flagged extra).runtime.config = config := between.configured
  obtain ⟨extra', taken⟩ :=
    taken_of_inserts between.configured extra refilled.deadline refilled.nowNs refilled.requests
  rw [ReferenceModule.step_eq between.running, ReferenceModule.step_eq running, configured,
    between.configured, taken, turn_refilled refilled, refilled.nowNs]
  by_cases turns : Turns config context
  · rw [if_pos turns, if_pos ((turns_refilled refilled).mpr turns)]
    cases pending : (module.taken context).runtime.pending with
    | some reference =>
        rw [ReferenceModule.turn_flagged_pending pending]
        exact ⟨.refl _, .refl _, fun _ _ => rfl⟩
    | none =>
        rw [ReferenceModule.turn_flagged_idle pending]
        refine ⟨⟨extra', rfl⟩, ⟨rfl, ?_⟩, ?_⟩
        · rw [List.forall₂_map_right_iff, List.forall₂_same]
          exact fun publication _ => ⟨extra', rfl⟩
        · intro reference decided
          rw [← between.configured] at decided
          exact absurd ((takeAll_pending decided).symm.trans pending) (by simp)
  · rw [if_neg turns, if_neg (mt (turns_refilled refilled).mp turns)]
    refine ⟨⟨extra', rfl⟩, .refl _, ?_⟩
    intro reference decided
    exact absurd (turns_of_decision decided) turns

/-- A step with refused requests only leaves flags, and publishes nothing. -/
theorem step_refusedOnly (between : ReferenceModule.Between config module)
    (refused : RefusedOnly config context) (extra : UInt32) :
    ∃ extra' status, (module.flagged extra).step context = (module.flagged extra', { status }) := by
  have running : (module.flagged extra).running = true := between.running
  have configured : (module.flagged extra).runtime.config = config := between.configured
  let idle : StepContext := { nowNs := context.nowNs }
  have noDeadline : context.deadline = idle.deadline := by
    have inputOnly := refused.inputOnly
    unfold StepContext.updateDue at inputOnly
    exact (Bool.or_eq_false_iff.mp inputOnly).2
  have inserted : (collectRequests idle.toArrivals).Inserts (Refused config)
      (collectRequests context.toArrivals) := List.Inserts.of_forall refused.refused
  have undecided : decision (stepOutcomes config context) = none := by
    unfold stepOutcomes
    split
    · exact decision_of_inserts inserted
    · rfl
  obtain ⟨extra', taken⟩ := taken_of_inserts between.configured extra noDeadline rfl inserted
  have nothing : module.taken idle = module := by
    unfold ReferenceModule.taken stepOutcomes
    split <;> rfl
  refine ⟨extra', if OnClock context.nowNs then .ok else .errInternal, ?_⟩
  rw [ReferenceModule.step_eq running, configured, taken, nothing, if_neg]
  rintro ⟨-, due | decided⟩
  · exact Bool.false_ne_true (refused.inputOnly.symm.trans due)
  · rw [undecided] at decided
    cases decided

/-- Steps with refused requests added, in the steps there are and in further ones. -/
inductive Extended (config : ReferenceTrajectoryConfig) : List StepContext → List StepContext → Prop
  | nil : Extended config [] []
  | refill {contexts contexts' : List StepContext} {context context' : StepContext} :
      Refilled config context context' → Extended config contexts contexts' →
        Extended config (context :: contexts) (context' :: contexts')
  | extra {contexts contexts' : List StepContext} {context : StepContext} :
      RefusedOnly config context → Extended config contexts contexts' →
        Extended config contexts (context :: contexts')

/-- The module after a list of steps, and all that they published. -/
def runSteps (module : ReferenceModule) : List StepContext → ReferenceModule × List Publication
  | [] => (module, [])
  | context :: rest =>
      let (module, output) := module.step context
      let (module, publications) := runSteps module rest
      (module, output.publications ++ publications)

theorem runSteps_extended {contexts contexts' : List StepContext}
    (extended : Extended config contexts contexts') {module : ReferenceModule}
    (between : ReferenceModule.Between config module) (extra : UInt32) :
    ReferenceModule.Related (runSteps module contexts).1
        (runSteps (module.flagged extra) contexts').1 ∧
      List.Forall₂ SamePublication (runSteps module contexts).2
        (runSteps (module.flagged extra) contexts').2 := by
  induction extended generalizing module extra with
  | nil => exact ⟨⟨extra, rfl⟩, .nil⟩
  | refill refilled _ ih =>
      obtain ⟨⟨extra', after⟩, ⟨_, published⟩, _⟩ := step_refilled between extra refilled
      unfold runSteps
      dsimp only
      rw [after]
      obtain ⟨related, rest⟩ := ih (between.step _) extra'
      exact ⟨related, List.rel_append published rest⟩
  | @extra contexts contexts' context refused _ ih =>
      obtain ⟨extra', status, step⟩ := step_refusedOnly between refused extra
      have skipped : runSteps (module.flagged extra) (context :: contexts') =
          runSteps (module.flagged extra') contexts' := by
        rw [runSteps, step]
        rfl
      rw [skipped]
      exact ih between extra'

theorem between_runSteps {module : ReferenceModule}
    (between : ReferenceModule.Between config module) (contexts : List StepContext) :
    ReferenceModule.Between config (runSteps module contexts).1 := by
  induction contexts generalizing module with
  | nil => exact between
  | cons context rest ih => exact ih (between.step context)

/-- Refused requests change neither the state of a run nor what it publishes, but for further
flags of the status, and these only until the next reference is activated. -/
theorem refused_do_not_interfere (settings : ReferenceTrajectoryConfig)
    {contexts contexts' : List StepContext}
    (extended : Extended settings.sanitized contexts contexts') :
    ReferenceModule.Related (runSteps (.start settings) contexts).1
        (runSteps (.start settings) contexts').1 ∧
      List.Forall₂ SamePublication (runSteps (.start settings) contexts).2
        (runSteps (.start settings) contexts').2 ∧
      ∀ context context' reference rest, Refilled settings.sanitized context context' →
        decision (stepOutcomes settings.sanitized context) = some (some reference) →
        runSteps (runSteps (.start settings) contexts').1 (context' :: rest) =
          runSteps (runSteps (.start settings) contexts).1 (context :: rest) := by
  have start := ReferenceModule.between_start settings
  have unflagged : (ReferenceModule.start settings).flagged 0 = .start settings := by
    unfold ReferenceModule.flagged
    rw [flagged_zero]
  have both := runSteps_extended extended start 0
  rw [unflagged] at both
  obtain ⟨related, published⟩ := both
  refine ⟨related, published, ?_⟩
  intro context context' reference rest refilled decided
  obtain ⟨extra, after⟩ := related
  have step := (step_refilled (between_runSteps start contexts) extra refilled).2.2
    reference decided
  rw [runSteps, runSteps, after, step]

end Steps

section Witness

open ExactMath

/-- A step between wake-ups, with a sample of the wrong size. -/
def oddSample : StepContext :=
  { nowNs := 500000000, analytic := [(400000000, none)], analytic_le := one_le_analyticDepth }

/-- A step of the timer, with and without such a sample. -/
def timerStep (samples : List (Int64 × Option AnalyticPayload))
    (few : samples.length ≤ analyticDepth) : StepContext :=
  { nowNs := 1000000000, timer := true, analytic := samples, analytic_le := few }

theorem odd_samples_do_not_interfere :
    ReferenceModule.Related (runSteps (.start {}) [timerStep [] (Nat.zero_le analyticDepth)]).1
        (runSteps (.start {}) [oddSample, timerStep [(0, none)] one_le_analyticDepth]).1 ∧
      List.Forall₂ SamePublication
        (runSteps (.start {}) [timerStep [] (Nat.zero_le analyticDepth)]).2
        (runSteps (.start {}) [oddSample, timerStep [(0, none)] one_le_analyticDepth]).2 ∧
      ∀ context context' reference rest,
        Refilled (ReferenceTrajectoryConfig.sanitized {}) context context' →
        decision (stepOutcomes (ReferenceTrajectoryConfig.sanitized {}) context) =
          some (some reference) →
        runSteps (runSteps (.start {}) [oddSample, timerStep [(0, none)] one_le_analyticDepth]).1
            (context' :: rest) =
          runSteps (runSteps (.start {}) [timerStep [] (Nat.zero_le analyticDepth)]).1
            (context :: rest) :=
  refused_do_not_interfere {} (.extra
    ⟨rfl, fun request among => ⟨0, by rw [List.mem_singleton.mp among]; rfl⟩⟩
    (.refill ⟨rfl, rfl, rfl, rfl, rfl, .insert ⟨0, rfl⟩ .nil, .nil, rfl⟩ .nil))

end Witness

end Generator

end MultirotorController
