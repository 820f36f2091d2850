import MultirotorController.Common.TimeOrder
import MultirotorController.Control.ExactMath
import MultirotorController.Generator.ModuleSteps

/-!
# Which reference is active

The requests of a step are taken in the order of their stamps, and the last one
that was not refused decides. An accepted reference is active at the end of its
step, starts as it was asked for, and is published there once, provided that the
publication can be written; after a reset nothing accepted before it is ever
published again; otherwise the active reference stays until it ends. A step at the
end of the clock loses its requests, also a reset.
-/

namespace MultirotorController

open Trajectory

namespace Generator

inductive ReferenceMessage where
  | analytic (message : AnalyticReference)
  | sampled (message : SampledReference)
deriving DecidableEq, Repr

namespace ReferenceMessage

def startTime : ReferenceMessage → Time
  | .analytic message => message.startTime
  | .sampled message => message.startTime

def withStart (startTime : Time) : ReferenceMessage → ReferenceMessage
  | .analytic message => .analytic { message with startTime }
  | .sampled message => .sampled { message with startTime }

def frameId : ReferenceMessage → String
  | .analytic message => message.frameId
  | .sampled message => message.frameId

end ReferenceMessage

def StoredReference.message : StoredReference → ReferenceMessage
  | .analytic message _ _ => .analytic message
  | .sampled message _ _ => .sampled message

/-- The message of a request that carries one. -/
def Request.message? : Request → Option ReferenceMessage
  | .analytic _ payload => (payload.bind AnalyticPayload.toCore).map .analytic
  | .sampled _ payload => (payload.bind SampledPayload.toCore).map .sampled
  | .reset _ => none

/-- The start a request asks for, at least the lead time after its receipt. -/
def agreedStart (config : ReferenceTrajectoryConfig) (stampNs : Int64) (requested : Time) :
    Double :=
  let earliest := seconds stampNs + config.minLeadTime
  if requested.isZero then earliest else Double.max requested.toSec earliest

/-- The stored reference is the message of the request, with the agreed start. -/
def StartsWhenAsked (config : ReferenceTrajectoryConfig) (request : Request)
    (reference : StoredReference) : Prop :=
  ∃ message startTime, request.message? = some message ∧
    reference.message = message.withStart startTime ∧
    Time.fromSec (agreedStart config request.stampNs message.startTime) = .ok startTime

theorem toSec_le_zero_iff (t : Time) : t.toSec ≤ 0 ↔ t.isZero = true := by
  change t.toSec ≤ .fin 0 ↔ (t.sec == 0 && t.nsec == 0) = true
  rw [Time.toSec_eq, Double.fin_le_fin, Bool.and_eq_true, beq_iff_eq, beq_iff_eq,
    ← UInt32.toNat_inj, ← UInt32.toNat_inj]
  have zero : (t.nanos : ℚ) / 1000000000 ≤ 0 ↔ t.nanos = 0 := by
    constructor
    · intro low
      have low := (div_le_iff₀ (by norm_num)).mp low
      rw [zero_mul] at low
      exact_mod_cast le_antisymm low (Nat.cast_nonneg _)
    · intro none
      simp [none]
  rw [zero, Time.nanos]
  change _ ↔ t.sec.toNat = 0 ∧ t.nsec.toNat = 0
  omega

/-- The lead time of a stored configuration is not negative. -/
def ReferenceTrajectoryConfig.Leads (config : ReferenceTrajectoryConfig) : Prop :=
  Double.max 0 config.minLeadTime = config.minLeadTime

theorem ReferenceTrajectoryConfig.sanitized_leads (config : ReferenceTrajectoryConfig) :
    config.sanitized.Leads := by
  change Double.max 0 (if ¬ config.minLeadTime.isFinite ∨ config.minLeadTime < 0 then (0.2 : Double)
    else config.minLeadTime) = if ¬ config.minLeadTime.isFinite ∨ config.minLeadTime < 0 then 0.2
    else config.minLeadTime
  split
  · decide +kernel
  next valid =>
    obtain ⟨finite, nonneg⟩ := not_or.mp valid
    cases lead : config.minLeadTime with
    | nan => simp [lead, Double.isFinite] at finite
    | inf negative => simp [lead, Double.isFinite] at finite
    | fin value =>
        rw [lead] at nonneg
        have nonneg : 0 ≤ value := not_lt.mp fun low => nonneg ((Double.fin_lt_fin value 0).mpr low)
        change (if Double.fin 0 < .fin value then Double.fin value else .fin 0) = _
        by_cases positive : Double.fin 0 < .fin value
        · rw [if_pos positive]
        · rw [if_neg positive]
          rw [Double.fin_lt_fin, not_lt] at positive
          rw [le_antisymm positive nonneg]

theorem adjustedStartTime_eq {config : ReferenceTrajectoryConfig} (leads : config.Leads)
    (stampNs : Int64) (requested : Time) :
    adjustedStartTime requested.toSec (seconds stampNs) config.minLeadTime =
      agreedStart config stampNs requested := by
  unfold adjustedStartTime agreedStart
  dsimp only
  rw [leads]
  by_cases zero : requested.isZero = true
  · rw [if_pos zero, if_pos (.inr ((toSec_le_zero_iff requested).mpr zero))]
  · rw [if_neg zero, if_neg]
    rintro (infinite | none)
    · exact infinite rfl
    · exact zero ((toSec_le_zero_iff requested).mp none)

section Accepted

variable [Libm] [Xgc2Math] [TrajectoryValidator3]

omit [Libm] [Xgc2Math] [TrajectoryValidator3] in
/-- What is accepted was received on the clock. -/
theorem accepted_of_received {verdict : Double → Verdict} {stampNs : Int64}
    {reference : StoredReference} (accepted : received verdict stampNs = .accepted reference) :
    OnClock stampNs ∧ (verdict (seconds stampNs)).outcome = .accepted reference := by
  unfold received at accepted
  split at accepted
  next onClock => exact ⟨onClock, accepted⟩
  next => cases accepted

/-- An accepted request is stored with the agreed start. -/
theorem startsWhenAsked_of_accepted {config : ReferenceTrajectoryConfig} (leads : config.Leads)
    {request : Request} {reference : StoredReference}
    (accepted : outcome config request = .accepted reference) :
    StartsWhenAsked config request reference := by
  cases request with
  | analytic stampNs payload =>
      unfold outcome at accepted
      dsimp only at accepted
      cases core : payload.bind AnalyticPayload.toCore with
      | none =>
          rw [core] at accepted
          cases accepted
      | some message =>
          rw [core] at accepted
          obtain ⟨-, accepted⟩ := accepted_of_received accepted
          unfold analyticVerdict at accepted
          split at accepted
          · cases accepted
          · split at accepted
            next startTime start =>
              cases accepted
              rw [adjustedStartTime_eq leads] at start
              exact ⟨.analytic message, startTime,
                congrArg (Option.map ReferenceMessage.analytic) core, rfl, start⟩
            · cases accepted
  | sampled stampNs payload =>
      unfold outcome at accepted
      dsimp only at accepted
      cases core : payload.bind SampledPayload.toCore with
      | none =>
          rw [core] at accepted
          cases accepted
      | some message =>
          rw [core] at accepted
          obtain ⟨-, accepted⟩ := accepted_of_received accepted
          unfold sampledVerdict at accepted
          split at accepted
          · cases accepted
          · split at accepted
            next startTime start =>
              cases accepted
              rw [adjustedStartTime_eq leads] at start
              exact ⟨.sampled message, startTime,
                congrArg (Option.map ReferenceMessage.sampled) core, rfl, start⟩
            · cases accepted
  | reset stampNs => cases accepted

end Accepted

/-- What came as a payload fits a payload again, but for its frame id. -/
theorem payload_isSome_iff {config : ReferenceTrajectoryConfig} {request : Request}
    {reference : StoredReference} (asked : StartsWhenAsked config request reference) :
    reference.payload.isSome = true ↔ reference.message.frameId.length < frameIdSize := by
  obtain ⟨message, startTime, carried, stored, _⟩ := asked
  cases request with
  | reset stampNs => cases carried
  | analytic stampNs payload =>
      obtain ⟨received, core, rfl⟩ := Option.map_eq_some_iff.mp carried
      obtain ⟨payload, _, core⟩ := Option.bind_eq_some_iff.mp core
      cases reference with
      | sampled message evaluator flags => cases stored
      | analytic message evaluator flags =>
          cases stored
          change (Option.map _ _).isSome = true ↔ _
          rw [Option.isSome_map]
          exact AnalyticReference.toPayload_isSome_iff
            (show received.params.length ≤ maxParams from AnalyticPayload.params_le core)
  | sampled stampNs payload =>
      obtain ⟨received, core, rfl⟩ := Option.map_eq_some_iff.mp carried
      obtain ⟨payload, _, core⟩ := Option.bind_eq_some_iff.mp core
      cases reference with
      | analytic message evaluator flags => cases stored
      | sampled message evaluator flags =>
          cases stored
          change (Option.map _ _).isSome = true ↔ _
          rw [Option.isSome_map]
          exact SampledReference.toPayload_isSome_iff
            (show received.points.length ≤ maxPoints from SampledPayload.points_le core)

/-- A value of the clock is a time. -/
theorem fromSec_seconds {ns : Int64} (onClock : OnClock ns) :
    ∃ time, Time.fromSec (seconds ns) = .ok time := by
  have billion : (0 : ℚ) < 1000000000 := by norm_num
  have below : ns.toNatClampNeg < 4294967296 * 1000000000 := by
    have clamped : ns.toNatClampNeg = ns.toInt.toNat := rfl
    unfold OnClock at onClock
    omega
  rw [seconds, Time.fromSec_isOk_iff, le_div_iff₀ billion, zero_mul, div_lt_iff₀ billion]
  exact ⟨Nat.cast_nonneg _, by exact_mod_cast below⟩

abbrev ModuleEvent := Machine.Event ReferenceModule StepContext StepOutput

section Steps

variable [Libm] [Xgc2Math] [TrajectoryValidator3]

def moduleSteps : Machine ReferenceModule StepContext StepOutput := { step := ReferenceModule.step }

/-- The last request that a step took and did not refuse is this one. -/
def DecidedBy (config : ReferenceTrajectoryConfig) (context : StepContext) (request : Request) :
    Prop :=
  OnClock context.nowNs ∧
    ∃ earlier later, collectRequests context.toArrivals = earlier ++ request :: later ∧
      ∀ other ∈ later, ∃ flags, outcome config other = .refused flags

/-- The active reference is the last accepted one, as it was asked for, and was published once. -/
structure Activates (config : ReferenceTrajectoryConfig) (event : ModuleEvent)
    (reference : StoredReference) : Prop where
  state : event.after.runtime.machine.isActive = true
  active : event.after.runtime.active = some reference
  asked : ∃ request, DecidedBy config event.input request ∧
    outcome config request = .accepted reference ∧ StartsWhenAsked config request reference
  published : ∃ payload, reference.payload = some payload ∧
    event.output.publications.filter Publication.isActive = [⟨event.input.nowNs, payload⟩]

omit [Libm] [TrajectoryValidator3] in
/-- The active reference was over at this time. -/
def Ended (runtime : ReferenceTrajectoryRuntime) (now : Double) : Prop :=
  ∃ reference, runtime.active = some reference ∧ ¬ Xgc2Math.duration reference.evaluator ≤ 0 ∧
    runtime.endOf reference < now

/-- The active reference is the one of before, and stays active unless it was over. -/
structure Keeps (event : ModuleEvent) : Prop where
  active : event.after.runtime.active = event.before.runtime.active
  state : event.after.runtime.machine.isActive = event.before.runtime.machine.isActive ∨
    Ended event.before.runtime (seconds event.input.nowNs)

/-- What the requests of a step ask for: what the last one that was not refused decides. At the
end of the clock none is accepted, and a reset asks for nothing to be left. -/
def wanted (config : ReferenceTrajectoryConfig) (context : StepContext) :
    Option (Option StoredReference) :=
  if OnClock context.nowNs then decision (stepOutcomes config context)
  else if context.reset = [] then none
  else some none

/-- What a step publishes about references was accepted after every reset of the past. -/
def Forgets (config : ReferenceTrajectoryConfig) (past : List ModuleEvent) (event : ModuleEvent) :
    Prop :=
  ∀ newer reset older, event :: past = newer ++ reset :: older →
    wanted config reset.input = some none →
    ∀ publication ∈ event.output.publications, publication.isActive = true →
      ∃ later ∈ newer, ∃ reference,
        wanted config later.input = some (some reference) ∧
          reference.payload = some publication.payload

/-- What a step does on each decision of its requests. -/
def Answers (config : ReferenceTrajectoryConfig) (event : ModuleEvent) :
    Option (Option StoredReference) → Prop
  | some (some reference) => Activates config event reference
  | some none => event.after.runtime.active = none
  | none => Keeps event

/-- The requests of a step are answered as the last of them decides. -/
def Answered (config : ReferenceTrajectoryConfig) (past : List ModuleEvent) (event : ModuleEvent) :
    Prop :=
  Forgets config past event ∧ Answers config event (wanted config event.input)

/-- The step can do what its requests ask for: a reference that becomes active has a frame id
that fits and a slot of the host, and a reset at the end of the clock finds nothing active. -/
structure Able (config : ReferenceTrajectoryConfig) (event : ModuleEvent) : Prop where
  writes : ∀ reference, decision (stepOutcomes config event.input) = some (some reference) →
    event.input.granted reference.effectKind = true ∧
      reference.message.frameId.length < frameIdSize
  resets : ¬ OnClock event.input.nowNs → event.input.reset ≠ [] →
    event.before.runtime.active = none

omit [Libm] [Xgc2Math] [TrajectoryValidator3] in
theorem exists_decider {f : Request → Outcome} {requests : List Request}
    {reference : StoredReference} (decided : decision (requests.map f) = some (some reference)) :
    ∃ request, (∃ earlier later, requests = earlier ++ request :: later ∧
      ∀ other ∈ later, ∃ flags, f other = .refused flags) ∧ f request = .accepted reference := by
  induction requests using List.reverseRecOn with
  | nil => cases decided
  | append_singleton requests last ih =>
      rw [List.map_append, List.map_singleton, decision_concat] at decided
      cases found : f last with
      | accepted reference' =>
          rw [found] at decided
          cases decided
          exact ⟨last, ⟨requests, [], rfl, by simp⟩, found⟩
      | reset =>
          rw [found] at decided
          cases decided
      | refused flags =>
          rw [found] at decided
          obtain ⟨request, ⟨earlier, later, rfl, rest⟩, accepted⟩ := ih decided
          refine ⟨request, ⟨earlier, later ++ [last], by simp, ?_⟩, accepted⟩
          intro other among
          rcases List.mem_append.mp among with before | isLast
          · exact rest other before
          · rw [List.mem_singleton.mp isLast]
            exact ⟨flags, found⟩

omit [Libm] [Xgc2Math] [TrajectoryValidator3] in
theorem makeStatus_seconds (runtime : ReferenceTrajectoryRuntime) {nowNs : Int64}
    (onClock : OnClock nowNs) : ∃ status, runtime.makeStatus (seconds nowNs) = .ok status := by
  obtain ⟨time, made⟩ := fromSec_seconds onClock
  unfold ReferenceTrajectoryRuntime.makeStatus
  rw [made]
  exact ⟨_, rfl⟩

omit [Libm] [Xgc2Math] [TrajectoryValidator3] in
/-- What is written about the reference that a turn publishes, after its status. -/
theorem filter_publishAll {runtime : ReferenceTrajectoryRuntime} {reference : StoredReference}
    (stored : runtime.active = some reference) (granted : ReferenceEffectKind → Bool)
    {nowNs : Int64} (onClock : OnClock nowNs) (due : Bool) {payload : OutputPayload} :
    (publishAll runtime granted nowNs (seconds nowNs) (emission due .status (seconds nowNs) ++
        [⟨reference.effectKind, seconds nowNs⟩])).1.filter Publication.isActive =
        [⟨nowNs, payload⟩] ↔
      granted reference.effectKind = true ∧ reference.payload = some payload := by
  have last : (publishAll runtime granted nowNs (seconds nowNs)
      [⟨reference.effectKind, seconds nowNs⟩]).1.filter Publication.isActive =
        [⟨nowNs, payload⟩] ↔
      granted reference.effectKind = true ∧ reference.payload = some payload := by
    unfold publishAll
    dsimp only
    rw [publish_effectKind stored]
    cases granted reference.effectKind with
    | false => simp [publishAll]
    | true =>
        cases fits : reference.payload with
        | none => simp [publishAll]
        | some written =>
            have active : Publication.isActive ⟨nowNs, written⟩ = true :=
              StoredReference.payload_isActive fits
            simp [publishAll, active]
  cases due with
  | false => simpa [emission] using last
  | true =>
      obtain ⟨status, made⟩ := makeStatus_seconds runtime onClock
      have silent : Publication.isActive ⟨nowNs, .status status⟩ = false := rfl
      rw [emission, if_pos rfl, List.singleton_append, publishAll]
      dsimp only
      rw [publish_status, made]
      cases granted .status <;> simp [Except.map, silent, last]

variable {config : ReferenceTrajectoryConfig} {module : ReferenceModule} {context : StepContext}

open ReferenceModule ReferenceTrajectoryRuntime

theorem step_of_decision (between : Between config module) {decided : Option StoredReference}
    (decides : decision (stepOutcomes config context) = some decided) :
    module.step context = (module.taken context).turn context (seconds context.nowNs) := by
  rw [step_eq between.running, between.configured]
  exact if_pos (turns_of_decision decides)

/-- A step whose requests end with an accepted one activates it exactly when it can write it. -/
theorem activates_iff (between : Between config module) (leads : config.Leads)
    {reference : StoredReference}
    (decided : decision (stepOutcomes config context) = some (some reference)) :
    Activates config (moduleSteps.event module context) reference ↔
      context.granted reference.effectKind = true ∧
        reference.message.frameId.length < frameIdSize := by
  have onClock := (turns_of_decision decided).1
  have step := step_of_decision between decided
  have pending : (module.taken context).runtime.pending = some reference := by
    rw [← between.configured] at decided
    exact takeAll_pending decided
  generalize took : seconds context.nowNs = now at step
  have turn := update_pending pending now
  have after : (moduleSteps.event module context).after.runtime =
      (module.taken context).runtime.update now := by
    change (module.step context).1.runtime = _
    rw [step, turn_runtime]
  have written : (moduleSteps.event module context).output.publications =
      (publishAll ((module.taken context).runtime.update now) context.granted context.nowNs now
        ((module.taken context).runtime.update now).effects).1 := by
    change (module.step context).2.publications = _
    rw [step, turn_publications]
  have stored : ((module.taken context).runtime.update now).active = some reference := by
    rw [update_active_eq, pending]
    rfl
  rw [stepOutcomes_onClock onClock] at decided
  obtain ⟨request, decider, accepted⟩ := exists_decider decided
  have asked := startsWhenAsked_of_accepted leads accepted
  have fits := payload_isSome_iff asked
  have effects : ((module.taken context).runtime.update now).effects =
      emission ((module.taken context).runtime.statusTurn now).2 .status now ++
        [⟨reference.effectKind, now⟩] := by
    rw [turn]
    rfl
  have once : ∀ payload,
      (moduleSteps.event module context).output.publications.filter Publication.isActive =
          [⟨context.nowNs, payload⟩] ↔
        context.granted reference.effectKind = true ∧ reference.payload = some payload := by
    intro payload
    rw [written, effects, ← took]
    rw [← took] at stored
    exact filter_publishAll stored context.granted onClock _
  constructor
  · rintro ⟨_, _, _, payload, carried, published⟩
    exact ⟨((once payload).mp published).1, fits.mp (carried ▸ rfl)⟩
  · rintro ⟨granted, short⟩
    obtain ⟨payload, carried⟩ := Option.isSome_iff_exists.mp (fits.mpr short)
    exact {
      state := by
        rw [after, turn]
        rfl
      active := after ▸ stored
      asked := ⟨request, ⟨onClock, decider⟩, accepted, asked⟩
      published := ⟨payload, carried, (once payload).mpr ⟨granted, carried⟩⟩ }

/-- A step whose requests end with a reset leaves no reference. -/
theorem active_of_reset (between : Between config module)
    (decided : decision (stepOutcomes config context) = some none) :
    (module.step context).1.runtime.active = none := by
  rw [step_of_decision between decided, turn_runtime, update_active_eq]
  rw [← between.configured] at decided
  obtain ⟨flags, taken⟩ := takeAll_reset module.runtime decided
  have fresh : (module.taken context).runtime = { module.runtime.reset with flags } := taken
  rw [fresh]
  rfl

omit [Libm] [TrajectoryValidator3] in
/-- A turn without a request keeps Active unless the reference was over. -/
theorem update_isActive {runtime : ReferenceTrajectoryRuntime} (sound : runtime.Sound)
    (idle : runtime.pending = none) (now : Double) :
    (runtime.update now).machine.isActive = runtime.machine.isActive ∨ Ended runtime now := by
  cases state : runtime.machine with
  | selfCheck =>
      rw [update_selfCheck idle state]
      exact .inl rfl
  | ready status =>
      rw [update_ready idle state]
      exact .inl rfl
  | active status gate =>
      have phases := sound.machine
      rw [state] at phases
      obtain ⟨reference, stored⟩ := Option.isSome_iff_exists.mp phases.2.2
      cases ended : runtime.activeExpired now with
      | false =>
          rw [update_active idle state stored ended]
          exact .inl rfl
      | true =>
          refine .inr ⟨reference, stored, ?_⟩
          unfold activeExpired at ended
          rw [stored] at ended
          dsimp only at ended
          split at ended
          · cases ended
          next finite => exact ⟨finite, of_decide_eq_true ended⟩

/-- A step whose requests decide nothing keeps the active reference. -/
theorem keeps_of_undecided (between : Between config module)
    (undecided : decision (stepOutcomes config context) = none) :
    Keeps (moduleSteps.event module context) := by
  rw [← between.configured] at undecided
  obtain ⟨flags, kept⟩ := takeAll_of_undecided module.runtime undecided
  have taken : (module.taken context).runtime = { module.runtime with flags } := kept
  have idle : (module.taken context).runtime.pending = none := by
    rw [taken]
    exact between.idle
  have step : (module.step context).1.runtime = (module.taken context).runtime ∨
      (module.step context).1.runtime =
        (module.taken context).runtime.update (seconds context.nowNs) := by
    rw [step_eq between.running]
    split
    · exact .inr (turn_runtime _ _ _)
    · exact .inl rfl
  rcases step with still | turned
  · constructor
    · change (module.step context).1.runtime.active = _
      rw [still, taken]
      rfl
    · refine .inl ?_
      change (module.step context).1.runtime.machine.isActive = _
      rw [still, taken]
      rfl
  · constructor
    · change (module.step context).1.runtime.active = _
      rw [turned, update_active_eq, idle, taken]
      rfl
    · change (module.step context).1.runtime.machine.isActive = _ ∨ _
      rw [turned]
      have kept := update_isActive (between.sound.takeAll _) idle (seconds context.nowNs)
      change ((module.taken context).runtime.update _).machine.isActive =
        (module.taken context).runtime.machine.isActive ∨ Ended (module.taken context).runtime _
        at kept
      rw [taken] at kept ⊢
      exact kept

/-- The active reference is the last that the past asked for. -/
def latest (config : ReferenceTrajectoryConfig) (past : List ModuleEvent) :
    Option StoredReference :=
  (past.findSome? fun event => wanted config event.input).join

theorem active_step (between : Between config module) (context : StepContext) :
    (module.step context).1.runtime.active =
      (decision (stepOutcomes config context)).getD module.runtime.active := by
  cases decided : decision (stepOutcomes config context) with
  | none => exact (keeps_of_undecided between decided).active
  | some reference =>
      cases reference with
      | none => exact active_of_reset between decided
      | some reference =>
          rw [step_of_decision between decided, turn_runtime, update_active_eq]
          rw [← between.configured] at decided
          have pending : (module.taken context).runtime.pending = some reference :=
            takeAll_pending decided
          rw [pending]
          rfl

theorem latest_cons (event : ModuleEvent) (past : List ModuleEvent) :
    latest config (event :: past) =
      (wanted config event.input).getD (latest config past) := by
  unfold latest
  rw [List.findSome?_cons]
  cases wanted config event.input <;> rfl

omit [Libm] [Xgc2Math] [TrajectoryValidator3] in
theorem offClock_reset (context : StepContext) :
    OnClock context.nowNs ∨ ¬ OnClock context.nowNs ∧ context.reset = [] ∨
      ¬ OnClock context.nowNs ∧ context.reset ≠ [] := by
  by_cases onClock : OnClock context.nowNs
  · exact .inl onClock
  · exact .inr ((eq_or_ne context.reset []).imp (⟨onClock, ·⟩) (⟨onClock, ·⟩))

/-- What an able step asks for is active after it. -/
theorem active_of_wanted (between : Between config module)
    (able : Able config (moduleSteps.event module context)) :
    (module.step context).1.runtime.active =
      (wanted config context).getD module.runtime.active := by
  rw [active_step between]
  rcases offClock_reset context with onClock | ⟨offClock, nothing⟩ | ⟨offClock, reset⟩
  · rw [wanted, if_pos onClock]
  · rw [wanted, if_neg offClock, if_pos nothing, stepOutcomes_offClock offClock]
    rfl
  · rw [wanted, if_neg offClock, if_neg reset, stepOutcomes_offClock offClock]
    exact able.resets offClock reset

/-- What a step writes about a reference is the payload of the active one. -/
theorem payload_of_step (between : Between config module) {publication : Publication}
    (written : publication ∈ (module.step context).2.publications)
    (active : publication.isActive = true) :
    ∃ reference, (module.step context).1.runtime.active = some reference ∧
      reference.payload = some publication.payload := by
  rw [step_eq between.running] at written ⊢
  split at written
  next turns =>
    rw [if_pos turns]
    rw [turn_publications] at written
    rw [turn_runtime]
    exact payload_of_publishAll written active
  next => cases written

theorem forgets_of_latest {past : List ModuleEvent} {event : ModuleEvent}
    (written : ∀ publication ∈ event.output.publications, publication.isActive = true →
      ∃ reference, latest config (event :: past) = some reference ∧
        reference.payload = some publication.payload) : Forgets config past event := by
  intro newer reset older split erased publication among active
  obtain ⟨reference, isLatest, carried⟩ := written publication among active
  rw [split, latest, List.findSome?_append, List.findSome?_cons, erased] at isLatest
  cases found : newer.findSome? fun event => wanted config event.input with
  | none =>
      rw [found] at isLatest
      cases isLatest
  | some decided =>
      rw [found] at isLatest
      cases decided with
      | none => cases isLatest
      | some reference' =>
          cases isLatest
          obtain ⟨later, among, decides⟩ := List.exists_of_findSome?_eq_some found
          exact ⟨later, among, reference, decides, carried⟩

/-- The answer of a step alone, apart from what it published before. -/
theorem answers_iff (between : Between config module) (leads : config.Leads)
    (context : StepContext) :
    Answers config (moduleSteps.event module context) (wanted config context) ↔
      Able config (moduleSteps.event module context) := by
  rcases offClock_reset context with onClock | ⟨offClock, nothing⟩ | ⟨offClock, reset⟩
  · have heeded : ¬ OnClock (moduleSteps.event module context).input.nowNs →
        (moduleSteps.event module context).input.reset ≠ [] →
        (moduleSteps.event module context).before.runtime.active = none :=
      fun offClock => absurd onClock offClock
    rw [wanted, if_pos onClock]
    cases decided : decision (stepOutcomes config context) with
    | none =>
        refine iff_of_true (keeps_of_undecided between decided) ⟨?_, heeded⟩
        intro reference impossible
        exact absurd (decided.symm.trans impossible) (by simp)
    | some reference =>
        cases reference with
        | none =>
            refine iff_of_true (active_of_reset between decided) ⟨?_, heeded⟩
            intro reference impossible
            exact absurd (decided.symm.trans impossible) (by simp)
        | some reference =>
            refine (activates_iff between leads decided).trans ⟨fun writes => ⟨?_, heeded⟩, ?_⟩
            · intro other again
              cases decided.symm.trans again
              exact writes
            · exact fun able => able.writes reference decided
  · have undecided : decision (stepOutcomes config context) = none := by
      rw [stepOutcomes_offClock offClock]
      rfl
    rw [wanted, if_neg offClock, if_pos nothing]
    refine iff_of_true (keeps_of_undecided between undecided) ⟨?_, fun _ some => ?_⟩
    · intro reference impossible
      exact absurd (undecided.symm.trans impossible) (by simp)
    · exact absurd nothing some
  · have undecided : decision (stepOutcomes config context) = none := by
      rw [stepOutcomes_offClock offClock]
      rfl
    rw [wanted, if_neg offClock, if_neg reset]
    have kept : (module.step context).1.runtime.active = module.runtime.active :=
      (keeps_of_undecided between undecided).active
    constructor
    · intro forgotten
      refine ⟨?_, fun _ _ => kept.symm.trans forgotten⟩
      intro reference impossible
      exact absurd (undecided.symm.trans impossible) (by simp)
    · exact fun able => kept.trans (able.resets offClock reset)

/-- What holds between two steps of a run; the active reference is known after able steps. -/
structure Following (config : ReferenceTrajectoryConfig) (past : List ModuleEvent)
    (module : ReferenceModule) : Prop where
  between : Between config module
  active : (∀ event ∈ past, Able config event) → module.runtime.active = latest config past

theorem Following.step {past : List ModuleEvent} (following : Following config past module)
    (context : StepContext) :
    Following config (moduleSteps.event module context :: past) (module.step context).1 := by
  refine ⟨following.between.step context, fun able => ?_⟩
  obtain ⟨now, before⟩ := List.forall_mem_cons.mp able
  rw [active_of_wanted following.between now, following.active before, latest_cons]
  rfl

/-- After able steps an able step publishes only what was accepted after every reset. -/
theorem Following.forgets {past : List ModuleEvent} (following : Following config past module)
    (able : ∀ event ∈ moduleSteps.event module context :: past, Able config event) :
    Forgets config past (moduleSteps.event module context) := by
  refine forgets_of_latest fun publication written about => ?_
  obtain ⟨reference, stored, carried⟩ := payload_of_step following.between written about
  exact ⟨reference, ((following.step context).active able).symm.trans stored, carried⟩

end Steps

section Unterminated

open ExactMath

/-- A hold request whose frame id fills its array. -/
def unterminatedHold : AnalyticPayload :=
  { header := { frameId := List.replicate 32 'm' }, duration := 60, originQ := ⟨0, 0, 0, 1⟩ }

/-- One step at one second, for the request. -/
def holdStep (payload : AnalyticPayload) : StepContext :=
  { analytic := [(1000000000, some payload)], nowNs := 1000000000
    analytic_le := one_le_analyticDepth }

end Unterminated

end Generator

end MultirotorController
