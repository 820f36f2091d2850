import Mathlib.Data.List.TakeWhile
import MultirotorController.Generator.Activation

/-!
# Writing a request back

A request is decoded, stored and published again as the active reference. Two
payloads carry the same if they agree up to what stands behind the text of the
frame id and behind the used part of the arrays. The decoder takes a frame id that
fills its array, and the encoder wants a terminator; on all other requests the
encoder undoes the decoder.
-/

namespace MultirotorController

open Trajectory

namespace Module

variable {text : List Char} {capacity : Nat}

theorem boundedString_clean (text : List Char) (capacity : Nat) :
    '\x00' ∉ (boundedString text capacity).toList := by
  rw [boundedString, String.toList_ofList]
  intro terminator
  have kept := List.mem_takeWhile_imp terminator
  simp at kept

/-- The text of a full array is shorter than the array if there is a terminator. -/
theorem length_boundedString_lt_iff (sized : text.length = capacity) :
    (boundedString text capacity).length < capacity ↔ '\x00' ∈ text := by
  have whole : text.take capacity = text := by rw [← sized, List.take_length]
  rw [boundedString, whole, String.length_ofList, ← sized]
  constructor
  · intro shorter
    by_contra absent
    have all : text.takeWhile (· ≠ '\x00') = text := by
      rw [List.takeWhile_eq_self_iff]
      intro letter among
      have other : letter ≠ '\x00' := fun same => absent (same ▸ among)
      simpa using other
    rw [all] at shorter
    exact absurd shorter (lt_irrefl _)
  · intro terminator
    refine lt_of_le_of_ne (List.takeWhile_prefix _).length_le fun same => ?_
    have all := (List.takeWhile_prefix (fun letter => letter ≠ '\x00')).eq_of_length same
    have kept := (List.takeWhile_eq_self_iff.mp all) '\x00' terminator
    simp at kept

/-- A text that fits its array is read back. -/
theorem boundedString_toList {string : String} (fits : string.length ≤ capacity)
    (clean : '\x00' ∉ string.toList) : boundedString string.toList capacity = string := by
  have whole : string.toList.take capacity = string.toList :=
    List.take_of_length_le (by rwa [String.length_toList])
  have all : string.toList.takeWhile (· ≠ '\x00') = string.toList := by
    rw [List.takeWhile_eq_self_iff]
    intro letter among
    have other : letter ≠ '\x00' := fun same => clean (same ▸ among)
    simpa using other
  rw [boundedString, whole, all, String.ofList_toList]

end Module

namespace Generator

/-- The header without what its array holds behind the text. -/
def HeaderPayload.normal (header : HeaderPayload) : HeaderPayload :=
  { header with frameId := (Module.boundedString header.frameId frameIdSize).toList }

/-- The payload without what its arrays hold behind their used parts. -/
def AnalyticPayload.normal (payload : AnalyticPayload) : AnalyticPayload :=
  { payload with
    header := payload.header.normal
    params := payload.params.take payload.paramsLen.toNat }

def SampledPayload.normal (payload : SampledPayload) : SampledPayload :=
  { payload with
    header := payload.header.normal
    points := payload.points.take payload.pointsLen.toNat }

/-- The payload for another start time. -/
def AnalyticPayload.restarted (payload : AnalyticPayload) (startTime : Time) : AnalyticPayload :=
  { payload with startSec := startTime.sec, startNsec := startTime.nsec }

def SampledPayload.restarted (payload : SampledPayload) (startTime : Time) : SampledPayload :=
  { payload with startSec := startTime.sec, startNsec := startTime.nsec }

/-- The arrays of the payload have their sizes. -/
structure AnalyticPayload.Sized (payload : AnalyticPayload) : Prop where
  frameId : payload.header.frameId.length = frameIdSize
  params : payload.params.length = maxParams

structure SampledPayload.Sized (payload : SampledPayload) : Prop where
  frameId : payload.header.frameId.length = frameIdSize
  points : payload.points.length = maxPoints

def Request.Sized : Request → Prop
  | .analytic _ payload => ∀ value, payload = some value → value.Sized
  | .sampled _ payload => ∀ value, payload = some value → value.Sized
  | .reset _ => True

/-- The frame id of the request has a terminator. -/
def Request.Terminated : Request → Prop
  | .analytic _ (some payload) => '\x00' ∈ payload.header.frameId
  | .sampled _ (some payload) => '\x00' ∈ payload.header.frameId
  | _ => False

/-- The output carries what the request does, but for the start time. -/
def Request.WrittenBack : Request → OutputPayload → Prop
  | .analytic _ (some payload), .activeAnalytic written =>
      written.normal = payload.normal.restarted ⟨written.startSec, written.startNsec⟩
  | .sampled _ (some payload), .activeSampled written =>
      written.normal = payload.normal.restarted ⟨written.startSec, written.startNsec⟩
  | _, _ => False

section Codec

theorem HeaderPayload.normal_normal (header : HeaderPayload) :
    header.normal.normal = header.normal := by
  have length : (Module.boundedString header.frameId frameIdSize).length ≤ frameIdSize := by
    rw [Module.boundedString, String.length_ofList]
    exact (List.takeWhile_prefix _).length_le.trans (List.length_take_le _ _)
  unfold normal
  rw [Module.boundedString_toList length (Module.boundedString_clean _ _)]

theorem AnalyticPayload.normal_normal (payload : AnalyticPayload) :
    payload.normal.normal = payload.normal := by
  simp [normal, HeaderPayload.normal_normal, List.take_take]

theorem SampledPayload.normal_normal (payload : SampledPayload) :
    payload.normal.normal = payload.normal := by
  simp [normal, HeaderPayload.normal_normal, List.take_take]

/-- Encoding a decoded request gives its normal form, if its frame id has a terminator. -/
theorem AnalyticPayload.toPayload_of_toCore {payload : AnalyticPayload}
    {message : AnalyticReference} (sized : payload.Sized) (core : payload.toCore = some message) :
    message.toPayload =
      if '\x00' ∈ payload.header.frameId then some payload.normal else none := by
  have bounded := AnalyticPayload.params_le core
  unfold toCore at core
  split at core
  · cases core
  next fits =>
    cases core
    have used : (payload.params.take payload.paramsLen.toNat).length =
        payload.paramsLen.toNat := by
      rw [List.length_take, sized.params]
      exact min_eq_left (not_lt.mp fits)
    have text := Module.length_boundedString_lt_iff sized.frameId
    unfold AnalyticReference.toPayload
    by_cases terminated : '\x00' ∈ payload.header.frameId
    · rw [if_neg (not_or.mpr ⟨not_lt.mpr bounded, not_le.mpr (text.mpr terminated)⟩),
        if_pos terminated]
      dsimp only
      rw [used, UInt16.ofNat_toNat]
      rfl
    · rw [if_pos (.inr (not_lt.mp fun shorter => terminated (text.mp shorter))),
        if_neg terminated]

theorem SampledPayload.toPayload_of_toCore {payload : SampledPayload}
    {message : SampledReference} (sized : payload.Sized) (core : payload.toCore = some message) :
    message.toPayload =
      if '\x00' ∈ payload.header.frameId then some payload.normal else none := by
  have bounded := SampledPayload.points_le core
  unfold toCore at core
  split at core
  · cases core
  next fits =>
    cases core
    have used : (payload.points.take payload.pointsLen.toNat).length =
        payload.pointsLen.toNat := by
      rw [List.length_take, sized.points]
      exact min_eq_left (not_lt.mp fits)
    have text := Module.length_boundedString_lt_iff sized.frameId
    unfold SampledReference.toPayload
    by_cases terminated : '\x00' ∈ payload.header.frameId
    · rw [if_neg (not_or.mpr ⟨not_lt.mpr bounded, not_le.mpr (text.mpr terminated)⟩),
        if_pos terminated]
      dsimp only
      rw [used, UInt32.ofNat_toNat]
      rfl
    · rw [if_pos (.inr (not_lt.mp fun shorter => terminated (text.mp shorter))),
        if_neg terminated]

/-- Decoding what was encoded gives the message back, if its frame id is a text of the format. -/
theorem AnalyticReference.toCore_of_toPayload {message : AnalyticReference}
    {payload : AnalyticPayload} (clean : '\x00' ∉ message.frameId.toList)
    (written : message.toPayload = some payload) : payload.toCore = some message := by
  unfold toPayload at written
  split at written
  · cases written
  next fits =>
    cases written
    obtain ⟨params, frameId⟩ := not_or.mp fits
    have length : (UInt16.ofNat message.params.length).toNat = message.params.length := by
      unfold maxParams at params
      rw [UInt16.toNat_ofNat']
      exact Nat.mod_eq_of_lt (by omega)
    unfold AnalyticPayload.toCore headerPayload
    dsimp only
    rw [length, if_neg params, List.take_length,
      Module.boundedString_toList (not_le.mp frameId).le clean]

theorem SampledReference.toCore_of_toPayload {message : SampledReference}
    {payload : SampledPayload} (clean : '\x00' ∉ message.frameId.toList)
    (written : message.toPayload = some payload) : payload.toCore = some message := by
  unfold toPayload at written
  split at written
  · cases written
  next fits =>
    cases written
    obtain ⟨points, frameId⟩ := not_or.mp fits
    have length : (UInt32.ofNat message.points.length).toNat = message.points.length := by
      unfold maxPoints at points
      rw [UInt32.toNat_ofNat']
      exact Nat.mod_eq_of_lt (by omega)
    unfold SampledPayload.toCore headerPayload
    dsimp only
    rw [length, if_neg points, List.take_length,
      Module.boundedString_toList (not_le.mp frameId).le clean]

theorem AnalyticReference.toPayload_withStart (message : AnalyticReference) (startTime : Time) :
    ({ message with startTime } : AnalyticReference).toPayload =
      message.toPayload.map (·.restarted startTime) := by
  unfold toPayload
  dsimp only
  split <;> rfl

theorem SampledReference.toPayload_withStart (message : SampledReference) (startTime : Time) :
    ({ message with startTime } : SampledReference).toPayload =
      message.toPayload.map (·.restarted startTime) := by
  unfold toPayload
  dsimp only
  split <;> rfl

/-- The normal form with another start time is a normal form. -/
theorem AnalyticPayload.normal_restarted (payload : AnalyticPayload) (startTime : Time) :
    (payload.normal.restarted startTime).normal = payload.normal.restarted startTime :=
  congrArg (·.restarted startTime) payload.normal_normal

theorem SampledPayload.normal_restarted (payload : SampledPayload) (startTime : Time) :
    (payload.normal.restarted startTime).normal = payload.normal.restarted startTime :=
  congrArg (·.restarted startTime) payload.normal_normal

end Codec

section Steps

variable [Libm] [Xgc2Math] [TrajectoryValidator3]

/-- The arrays of all payloads of the step have their sizes. -/
def StepContext.Sized (context : StepContext) : Prop :=
  ∀ request ∈ context.toArrivals.requests, request.Sized

/-- An accepted request is written back as the active reference if its frame id has a terminator,
and else nothing is. -/
theorem writtenBack_iff {config : ReferenceTrajectoryConfig} (leads : config.Leads)
    {request : Request} {reference : StoredReference} (sized : request.Sized)
    (accepted : outcome config request = .accepted reference) :
    (∃ output, reference.payload = some output ∧ request.WrittenBack output) ↔
      request.Terminated := by
  obtain ⟨message, startTime, carried, stored, -⟩ := startsWhenAsked_of_accepted leads accepted
  cases request with
  | reset stampNs => cases carried
  | analytic stampNs payload =>
      obtain ⟨decoded, core, rfl⟩ := Option.map_eq_some_iff.mp carried
      obtain ⟨value, rfl, core⟩ := Option.bind_eq_some_iff.mp core
      have encoded := AnalyticPayload.toPayload_of_toCore (sized value rfl) core
      cases reference with
      | sampled => cases stored
      | analytic message evaluator flags =>
          cases stored
          change (∃ output, Option.map _ (AnalyticReference.toPayload _) = _ ∧ _) ↔ _
          rw [AnalyticReference.toPayload_withStart, encoded]
          by_cases terminated : '\x00' ∈ value.header.frameId
          · rw [if_pos terminated]
            exact iff_of_true ⟨_, rfl, value.normal_restarted startTime⟩ terminated
          · rw [if_neg terminated]
            refine iff_of_false ?_ terminated
            rintro ⟨output, written, -⟩
            cases written
  | sampled stampNs payload =>
      obtain ⟨decoded, core, rfl⟩ := Option.map_eq_some_iff.mp carried
      obtain ⟨value, rfl, core⟩ := Option.bind_eq_some_iff.mp core
      have encoded := SampledPayload.toPayload_of_toCore (sized value rfl) core
      cases reference with
      | analytic => cases stored
      | sampled message evaluator flags =>
          cases stored
          change (∃ output, Option.map _ (SampledReference.toPayload _) = _ ∧ _) ↔ _
          rw [SampledReference.toPayload_withStart, encoded]
          by_cases terminated : '\x00' ∈ value.header.frameId
          · rw [if_pos terminated]
            exact iff_of_true ⟨_, rfl, value.normal_restarted startTime⟩ terminated
          · rw [if_neg terminated]
            refine iff_of_false ?_ terminated
            rintro ⟨output, written, -⟩
            cases written

omit [Libm] [Xgc2Math] [TrajectoryValidator3] in
/-- Refused outcomes after an accepted one leave its decision. -/
theorem decision_of_refused {earlier later : List Outcome} {reference : StoredReference}
    (refused : ∀ other ∈ later, ∃ flags, other = .refused flags) :
    decision (earlier ++ .accepted reference :: later) = some (some reference) := by
  induction later using List.reverseRecOn with
  | nil => rw [decision_concat]; rfl
  | append_singleton later last ih =>
      obtain ⟨flags, rfl⟩ := refused last (List.mem_append_right _ List.mem_cons_self)
      rw [← List.cons_append, ← List.append_assoc, decision_concat]
      exact ih fun other among => refused other (List.mem_append_left _ among)

theorem decision_of_decidedBy {config : ReferenceTrajectoryConfig} {context : StepContext}
    {request : Request} {reference : StoredReference} (decides : DecidedBy config context request)
    (accepted : outcome config request = .accepted reference) :
    decision (stepOutcomes config context) = some (some reference) := by
  obtain ⟨onClock, earlier, later, collected, refused⟩ := decides
  rw [stepOutcomes_onClock onClock, outcomes, collected, List.map_append, List.map_cons, accepted]
  apply decision_of_refused
  intro other among
  obtain ⟨request, later, rfl⟩ := List.mem_map.mp among
  exact refused request later

/-- What a step makes of a request that it activates. -/
def Republishes (config : ReferenceTrajectoryConfig) (event : ModuleEvent) : Prop :=
  ∀ request reference, DecidedBy config event.input request →
    outcome config request = .accepted reference →
    event.after.runtime.active = some reference ∧
      ((∃ output, reference.payload = some output ∧ request.WrittenBack output) ↔
        request.Terminated)

/-- In every run each request that becomes the active reference can be published unchanged but
for its start, exactly if its frame id has a terminator. -/
theorem active_written_back_iff (settings : ReferenceTrajectoryConfig) {past : List ModuleEvent}
    {module : ReferenceModule}
    (run : moduleSteps.Run (· = ReferenceModule.start settings) (fun _ _ context => context.Sized)
      past module) :
    ∀ event ∈ past, Republishes settings.sanitized event := by
  refine (run.invariant_events (ReferenceModule.Between settings.sanitized) ?_ ?_).2
  · rintro _ rfl
    exact ReferenceModule.between_start settings
  · intro past module context between sized
    refine ⟨between.step context, fun request reference decides accepted => ?_⟩
    have decides : DecidedBy settings.sanitized context request := decides
    refine ⟨?_, ?_⟩
    · have active := active_step between context
      rw [decision_of_decidedBy decides accepted] at active
      exact active
    · obtain ⟨-, earlier, later, collected, -⟩ := decides
      have among : request ∈ collectRequests context.toArrivals := by
        rw [collected]
        exact List.mem_append_right _ List.mem_cons_self
      have arrived : request ∈ context.toArrivals.requests :=
        (List.perm_insertionSort _ _).mem_iff.mp among
      exact writtenBack_iff settings.sanitized_leads (sized request arrived) accepted

end Steps

section Full

open ExactMath

/-- A hold request of the size of its payload, with a frame id of `letters` characters. -/
def sizedHold (letters : Nat) : AnalyticPayload :=
  { header := { frameId := List.replicate letters 'm' ++ List.replicate (32 - letters) '\x00' }
    duration := 60
    originQ := ⟨0, 0, 0, 1⟩
    params := List.replicate 16 0 }

theorem sized_holdStep {letters : Nat} (bounded : letters ≤ 32) :
    (holdStep (sizedHold letters)).Sized := by
  intro request among
  have same : request = .analytic 1000000000 (some (sizedHold letters)) := by
    simpa [holdStep, Arrivals.requests] using among
  subst same
  rintro value ⟨⟩
  refine ⟨?_, rfl⟩
  simp only [sizedHold, List.length_append, List.length_replicate, frameIdSize]
  omega

/-- A request whose frame id fills its array is active, and has no payload. -/
theorem full_frame_id_not_written_back :
    let event := moduleSteps.event (ReferenceModule.start {}) (holdStep (sizedHold 32))
    moduleSteps.Run (· = ReferenceModule.start {}) (fun _ _ context => context.Sized)
        [event] event.after ∧
      event.after.runtime.active.map StoredReference.payload = some none :=
  ⟨.step _ (.start rfl) (sized_holdStep (by decide)), by decide +kernel⟩

/-- One letter less is written back. -/
theorem frame_id_written_back :
    Republishes (ReferenceTrajectoryConfig.sanitized {})
      (moduleSteps.event (ReferenceModule.start {}) (holdStep (sizedHold 31))) :=
  active_written_back_iff {} (.step _ (.start rfl) (sized_holdStep (by decide))) _
    List.mem_cons_self

end Full

end Generator

end MultirotorController
