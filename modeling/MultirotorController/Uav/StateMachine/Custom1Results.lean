import MultirotorController.Uav.StateMachine.Custom1Actions

/-!
# The results of an NMPC tick

Which result a tick takes as a success, and what identifies the results of a
session. Generations and sequences only grow, a stored result is never newer than
the last request, and once a tick has taken a result it takes nothing more.
-/

namespace MultirotorController

open Procedure Relation

def FlightEffect.requestSequence : FlightEffect → Option Nat
  | nmpcRequest _ sequence _ => some sequence
  | _ => none

/-- The sequence of the last request among the effects, or else an earlier one. -/
def latestRequest (effects : List FlightEffect) (earlier : Option Nat) : Option Nat :=
  (effects.filterMap FlightEffect.requestSequence).getLast?.or earlier

theorem FlightEffect.requestSequence_eq_none {effect : FlightEffect}
    (other : effect.isNmpcRequest = false) : effect.requestSequence = none := by
  cases effect <;> first | rfl | cases other

theorem latestRequest_append {effects new : List FlightEffect} {earlier : Option Nat}
    (others : ∀ effect ∈ new, effect.isNmpcRequest = false) :
    latestRequest (effects ++ new) earlier = latestRequest effects earlier := by
  have silent : new.filterMap FlightEffect.requestSequence = [] :=
    List.filterMap_eq_nil_iff.mpr fun effect member =>
      FlightEffect.requestSequence_eq_none (others effect member)
  rw [latestRequest, List.filterMap_append, silent, List.append_nil, latestRequest]

theorem latestRequest_append_other {effects : List FlightEffect} {earlier : Option Nat}
    {effect : FlightEffect} (other : effect.isNmpcRequest = false) :
    latestRequest (effects ++ [effect]) earlier = latestRequest effects earlier :=
  latestRequest_append (by simpa using other)

@[simp] theorem latestRequest_append_request (effects : List FlightEffect) (earlier : Option Nat)
    (timestamp : Double) (sequence generation : Nat) :
    latestRequest (effects ++ [.nmpcRequest timestamp sequence generation]) earlier =
      some sequence := by
  simp [latestRequest, FlightEffect.requestSequence]

namespace Custom1State

variable [Xgc2Math]

section Taken

variable (scope : Scope Custom1State) (result : NmpcSolveResult)

/-- The test of the stamp as a tick decides it; a tick whose time is no clock value takes
nothing, whether it throws or not. -/
def freshAtTick : Bool :=
  match Time.fromSec (currentTime scope) with
  | .ok now =>
      NmpcResultBuffer.isResultTimestampFresh result.stamp now
        scope.controller.config.nmpc.resultTimeout
  | .error _ => false

theorem freshAtTick_iff : freshAtTick scope result = true ↔ FreshAtTick scope result := by
  unfold freshAtTick FreshAtTick
  cases Time.fromSec (currentTime scope) <;> simp

/-- The result that a tick from this scope takes and publishes as a success. -/
def takenSuccess : Option NmpcSolveResult :=
  if scope.controller.backend = .nmpc then
    (offeredResult (reopenGeneration scope)).filter fun result =>
      result.success && freshAtTick scope result
  else none

theorem takenSuccess_eq_some {result : NmpcSolveResult}
    (taken : takenSuccess scope = some result) :
    scope.controller.backend = .nmpc ∧ offeredResult (reopenGeneration scope) = some result ∧
      result.success = true ∧ FreshAtTick scope result := by
  unfold takenSuccess at taken
  split at taken
  next nmpc =>
    obtain ⟨offered, passes⟩ := Option.filter_eq_some_iff.mp taken
    rw [Bool.and_eq_true] at passes
    exact ⟨nmpc, offered, passes.1, (freshAtTick_iff scope result).mp passes.2⟩
  next => cases taken

/-- What makes a result the one to take. -/
theorem offeredResult_eq_some {result : NmpcSolveResult}
    (offered : offeredResult scope = some result) :
    scope.controller.nmpcResultBuffer.hasResult = true ∧
      scope.controller.nmpcResultBuffer.latest = result ∧
      scope.controller.nmpcResultBuffer.activeGeneration = result.controlGeneration ∧
      scope.leaf.consumedResultSequence < result.sequence ∧
      result.controlGeneration = scope.leaf.controlGeneration ∧
      result.sequence = scope.leaf.inFlightSequence := by
  obtain ⟨newer, same⟩ := Option.filter_eq_some_iff.mp offered
  unfold NmpcResultBuffer.consumeNewerThan at newer
  split at newer
  · cases newer
  next present =>
    cases newer
    simp only [Bool.and_eq_true, decide_eq_true_eq] at same
    simp only [not_or, Bool.not_eq_true', Bool.not_eq_false, ne_eq, Decidable.not_not,
      Nat.not_le] at present
    exact ⟨present.1, rfl, present.2.2.1.symm, present.2.2.2, same⟩

/-- A result that is taken as a success was in the buffer, of the generation and the request
that the leaf waits for. -/
theorem takenSuccess_spec {result : NmpcSolveResult} (taken : takenSuccess scope = some result) :
    scope.controller.nmpcResultBuffer.hasResult = true ∧
      scope.controller.nmpcResultBuffer.latest = result ∧
      scope.controller.nmpcResultBuffer.activeGeneration = result.controlGeneration ∧
      scope.leaf.consumedResultSequence < result.sequence ∧
      result.controlGeneration = scope.leaf.controlGeneration ∧
      result.sequence = scope.leaf.inFlightSequence := by
  obtain ⟨-, offered, -⟩ := takenSuccess_eq_some scope taken
  have spec := offeredResult_eq_some _ offered
  unfold reopenGeneration at spec
  split at spec
  · exact spec
  · cases spec.1

theorem reopenGeneration_controller :
    (reopenGeneration scope).controller.attitudeRateTarget = scope.controller.attitudeRateTarget ∧
      (reopenGeneration scope).controller.flightEffects = scope.controller.flightEffects ∧
      (reopenGeneration scope).leaf.lastSuccessTime = scope.leaf.lastSuccessTime := by
  unfold reopenGeneration
  split <;> exact ⟨rfl, rfl, rfl⟩

end Taken

section Identity

variable {opened floor : Nat} {earlier : Option Nat} {genuine : NmpcSolveResult → Prop}
variable {before after scope : Scope Custom1State}

/-- What identifies the results of a session: the generations `opened` before it, a sequence
`floor` that it has consumed at least, the request `earlier` than this turn, and what is
known of every success in the buffer. -/
structure Identified (opened floor : Nat) (earlier : Option Nat)
    (genuine : NmpcSolveResult → Prop) (scope : Scope Custom1State) : Prop where
  opened : opened < scope.leaf.controlGeneration
  counted : scope.leaf.controlGeneration ≤ scope.controller.nmpcResultBuffer.generationCounter
  active : scope.controller.nmpcResultBuffer.activeGeneration = 0 ∨
    scope.controller.nmpcResultBuffer.activeGeneration = scope.leaf.controlGeneration
  bounded : scope.controller.nmpcResultBuffer.hasResult = true →
    scope.controller.nmpcResultBuffer.latest.sequence ≤
      scope.controller.nmpcResultBuffer.requestCounter
  genuine : scope.controller.nmpcResultBuffer.hasResult = true →
    scope.controller.nmpcResultBuffer.latest.success = true →
    genuine scope.controller.nmpcResultBuffer.latest
  consumed : floor ≤ scope.leaf.consumedResultSequence
  reserved : scope.leaf.consumedResultSequence ≤ scope.controller.nmpcResultBuffer.requestCounter
  inFlight : scope.leaf.inFlightSequence ≠ 0 →
    latestRequest scope.controller.flightEffects earlier = some scope.leaf.inFlightSequence

/-- Only the results, the requests and the counters of the leaf matter. -/
theorem Identified.congr {earlier' : Option Nat}
    (identified : Identified opened floor earlier genuine before)
    (results : after.controller.nmpcResultBuffer = before.controller.nmpcResultBuffer)
    (requests : latestRequest after.controller.flightEffects earlier' =
      latestRequest before.controller.flightEffects earlier)
    (generation : after.leaf.controlGeneration = before.leaf.controlGeneration)
    (inFlight : after.leaf.inFlightSequence = before.leaf.inFlightSequence)
    (consumed : after.leaf.consumedResultSequence = before.leaf.consumedResultSequence) :
    Identified opened floor earlier' genuine after := by
  constructor
  · rw [generation]
    exact identified.opened
  · rw [generation, results]
    exact identified.counted
  · rw [generation, results]
    exact identified.active
  · rw [results]
    exact identified.bounded
  · rw [results]
    exact identified.genuine
  · rw [consumed]
    exact identified.consumed
  · rw [consumed, results]
    exact identified.reserved
  · rw [inFlight, requests]
    exact identified.inFlight

theorem Identified.reopen (identified : Identified opened floor earlier genuine scope) :
    Identified opened floor earlier genuine (reopenGeneration scope) := by
  unfold reopenGeneration
  split
  · exact identified
  · constructor
    · exact Nat.lt_succ_of_le (Nat.le_trans identified.opened.le identified.counted)
    · exact Nat.le_refl _
    · exact .inr rfl
    · simp [NmpcResultBuffer.beginGeneration]
    · simp [NmpcResultBuffer.beginGeneration]
    · exact Nat.le_trans identified.consumed identified.reserved
    · exact Nat.le_refl _
    · simp

theorem Identified.take {result : NmpcSolveResult}
    (identified : Identified opened floor earlier genuine scope)
    (offered : offeredResult scope = some result) :
    Identified opened floor earlier genuine (takeResult result scope) := by
  obtain ⟨present, latest, -, newer, -⟩ := offeredResult_eq_some scope offered
  constructor
  · exact identified.opened
  · exact identified.counted
  · exact identified.active
  · exact identified.bounded
  · exact identified.genuine
  · exact Nat.le_trans identified.consumed newer.le
  · exact latest ▸ identified.bounded present
  · exact identified.inFlight

theorem Identified.dispatch (identified : Identified opened floor earlier genuine scope) :
    Identified opened floor earlier genuine (dispatchNmpcRequest scope) := by
  constructor
  · exact identified.opened
  · exact identified.counted
  · exact identified.active
  · exact fun present => Nat.le_succ_of_le (identified.bounded present)
  · exact identified.genuine
  · exact identified.consumed
  · exact Nat.le_succ_of_le identified.reserved
  · intro _
    exact latestRequest_append_request _ _ _ _ _

/-- A newly stored success has to be known. -/
theorem Identified.store (identified : Identified opened floor earlier genuine scope)
    (result : NmpcSolveResult)
    (known : result.controlGeneration = scope.leaf.controlGeneration → result.success = true →
      genuine result) :
    Identified opened floor earlier genuine { scope with
      controller := { scope.controller with
        nmpcResultBuffer := (scope.controller.nmpcResultBuffer.store result).1 } } := by
  rcases scope.controller.nmpcResultBuffer.store_cases result with
    refused | ⟨stored, generation, open_, requested⟩
  · rw [refused]
    exact identified.congr rfl rfl rfl rfl rfl
  · rw [stored]
    constructor
    · exact identified.opened
    · exact identified.counted
    · exact identified.active
    · exact fun _ => requested
    · exact fun _ => known (generation.trans (identified.active.resolve_left open_))
    · exact identified.consumed
    · exact identified.reserved
    · exact identified.inFlight

theorem Identified.invalidate (identified : Identified opened floor earlier genuine scope) :
    Identified opened floor earlier genuine { scope with
      controller := { scope.controller with
        nmpcResultBuffer := scope.controller.nmpcResultBuffer.invalidateGeneration 0 } } := by
  constructor
  · exact identified.opened
  · exact identified.counted
  · exact .inl rfl
  · simp [NmpcResultBuffer.invalidateGeneration]
  · simp [NmpcResultBuffer.invalidateGeneration]
  · exact identified.consumed
  · exact identified.reserved
  · exact identified.inFlight

/-- The generation of a session that ends is closed. -/
theorem Identified.closed (identified : Identified opened floor earlier genuine scope) :
    (scope.controller.nmpcResultBuffer.invalidateGeneration
      scope.leaf.controlGeneration).activeGeneration = 0 := by
  unfold NmpcResultBuffer.invalidateGeneration
  split
  · rfl
  next kept =>
    simp only [not_or] at kept
    exact identified.active.resolve_right fun same => kept.2 same.symm

theorem Identified.mono {genuine' : NmpcSolveResult → Prop}
    (identified : Identified opened floor earlier genuine scope)
    (weaker : ∀ result, genuine result → genuine' result) :
    Identified opened floor earlier genuine' scope :=
  { identified with
    genuine := fun present success => weaker _ (identified.genuine present success) }

/-- Entering opens a generation and forgets the requests and successes before it. -/
theorem onEnter_results (scope : Scope Custom1State) :
    (onEnter scope).controller.nmpcResultBuffer =
        scope.controller.nmpcResultBuffer.beginGeneration ∧
      (onEnter scope).leaf.controlGeneration =
        scope.controller.nmpcResultBuffer.generationCounter + 1 ∧
      (onEnter scope).leaf.consumedResultSequence =
        scope.controller.nmpcResultBuffer.requestCounter ∧
      (onEnter scope).leaf.inFlightSequence = 0 ∧ (onEnter scope).leaf.lastSuccessTime = 0 := by
  dsimp only [onEnter]
  repeat' split
  all_goals exact ⟨rfl, rfl, rfl, rfl, rfl⟩

/-- A session that was just entered is identified, whatever it may call genuine. -/
theorem Identified.of_onEnter {controller : DroneController}
    (results : controller.nmpcResultBuffer = (onEnter scope).controller.nmpcResultBuffer) :
    Identified scope.controller.nmpcResultBuffer.generationCounter 0 earlier genuine
      ⟨controller, (onEnter scope).leaf⟩ := by
  obtain ⟨begun, generation, consumed, inFlight, -⟩ := onEnter_results scope
  have results := results.trans begun
  constructor
  · change _ < (onEnter scope).leaf.controlGeneration
    omega
  · rw [results, generation]
    exact Nat.le_refl _
  · rw [results, generation]
    exact .inr rfl
  · simp [results, NmpcResultBuffer.beginGeneration]
  · simp [results, NmpcResultBuffer.beginGeneration]
  · exact Nat.zero_le _
  · rw [results, consumed]
    exact Nat.le_refl _
  · exact fun busy => (busy inFlight).elim

/-- Every action of a tick keeps the session identified. -/
theorem Custom1Action.keepsIdentified (action : Custom1Action before after)
    (identified : Identified opened floor earlier genuine before) :
    Identified opened floor earlier genuine after := by
  cases action with
  | note timer kept =>
      exact identified.congr rfl rfl kept.controlGeneration kept.inFlightSequence
        kept.consumedResultSequence
  | publish origin =>
      exact identified.congr rfl (latestRequest_append_other rfl) rfl rfl rfl
  | finish => exact identified.congr rfl rfl rfl rfl rfl
  | buffer samples => exact identified.congr rfl rfl rfl rfl rfl
  | reopen => exact identified.reopen
  | take offered => exact identified.take offered
  | succeed offered fresh success =>
      exact (identified.take offered).congr rfl (latestRequest_append_other rfl) rfl rfl rfl
  | repeatTarget recent =>
      exact identified.congr rfl (latestRequest_append_other rfl) rfl rfl rfl
  | dispatch cached idle => exact identified.dispatch
  | track target dfbc reference kept =>
      exact identified.congr rfl (latestRequest_append_other rfl) kept.controlGeneration
        kept.inFlightSequence kept.consumedResultSequence

theorem Acts.keepsIdentified (acts : Acts before after)
    (identified : Identified opened floor earlier genuine before) :
    Identified opened floor earlier genuine after := by
  induction acts with
  | refl => exact identified
  | tail _ action ih => exact action.keepsIdentified ih

/-- Generations are only ever opened. -/
theorem Custom1Action.generationCounter_le (action : Custom1Action before after) :
    before.controller.nmpcResultBuffer.generationCounter ≤
      after.controller.nmpcResultBuffer.generationCounter := by
  cases action with
  | reopen =>
      unfold reopenGeneration
      split
      · exact Nat.le_refl _
      · exact Nat.le_succ _
  | _ => exact Nat.le_refl _

theorem Acts.generationCounter_le (acts : Acts before after) :
    before.controller.nmpcResultBuffer.generationCounter ≤
      after.controller.nmpcResultBuffer.generationCounter := by
  induction acts with
  | refl => exact Nat.le_refl _
  | tail _ action ih => exact ih.trans action.generationCounter_le

end Identity

section Settled

variable {before after scope : Scope Custom1State} {result : NmpcSolveResult}

theorem offeredResult_congr
    (results : after.controller.nmpcResultBuffer = before.controller.nmpcResultBuffer)
    (generation : after.leaf.controlGeneration = before.leaf.controlGeneration)
    (inFlight : after.leaf.inFlightSequence = before.leaf.inFlightSequence)
    (consumed : after.leaf.consumedResultSequence = before.leaf.consumedResultSequence) :
    offeredResult after = offeredResult before := by
  simp only [offeredResult, results, generation, inFlight, consumed]

/-- A result is taken once. -/
theorem offeredResult_takeResult (offered : offeredResult scope = some result) :
    offeredResult (takeResult result scope) = none := by
  obtain ⟨-, rfl, -⟩ := offeredResult_eq_some scope offered
  have nothing : scope.controller.nmpcResultBuffer.consumeNewerThan
      scope.controller.nmpcResultBuffer.latest.sequence = none := by
    simp [NmpcResultBuffer.consumeNewerThan]
  simp [offeredResult, takeResult, nothing]

/-- The rest of the tick has no result to take. -/
structure Settled (scope : Scope Custom1State) : Prop where
  offered : offeredResult scope = none
  bounded : scope.controller.nmpcResultBuffer.hasResult = true →
    scope.controller.nmpcResultBuffer.latest.sequence ≤
      scope.controller.nmpcResultBuffer.requestCounter

theorem Settled.congr (settled : Settled before)
    (results : after.controller.nmpcResultBuffer = before.controller.nmpcResultBuffer)
    (generation : after.leaf.controlGeneration = before.leaf.controlGeneration)
    (inFlight : after.leaf.inFlightSequence = before.leaf.inFlightSequence)
    (consumed : after.leaf.consumedResultSequence = before.leaf.consumedResultSequence) :
    Settled after := by
  refine ⟨?_, ?_⟩
  · rw [offeredResult_congr results generation inFlight consumed]
    exact settled.offered
  · rw [results]
    exact settled.bounded

theorem Settled.reopen (settled : Settled scope) : Settled (reopenGeneration scope) := by
  unfold reopenGeneration
  split
  · exact settled
  · refine ⟨?_, ?_⟩
    · simp [offeredResult, NmpcResultBuffer.consumeNewerThan, NmpcResultBuffer.beginGeneration]
    · simp [NmpcResultBuffer.beginGeneration]

/-- The new request is newer than every result that is there. -/
theorem Settled.dispatch (settled : Settled scope) : Settled (dispatchNmpcRequest scope) := by
  refine ⟨?_, fun present => Nat.le_succ_of_le (settled.bounded present)⟩
  cases offered : offeredResult (dispatchNmpcRequest scope) with
  | none => rfl
  | some result =>
      obtain ⟨present, latest, -, -, -, inFlight⟩ := offeredResult_eq_some _ offered
      have bounded := settled.bounded present
      change scope.controller.nmpcResultBuffer.latest = result at latest
      change result.sequence = scope.controller.nmpcResultBuffer.requestCounter + 1 at inFlight
      rw [latest, inFlight] at bounded
      omega

/-- From here on the tick can only repeat the target that it found. -/
structure Repeats (before after : Scope Custom1State) : Prop where
  settled : Settled after
  target : after.controller.attitudeRateTarget = before.controller.attitudeRateTarget
  lastSuccessTime : after.leaf.lastSuccessTime = before.leaf.lastSuccessTime
  attitudes : ∀ effect ∈ after.controller.flightEffects, effect.isAttitude →
    effect ∈ before.controller.flightEffects ∨ mayRepeatTarget before = true

theorem Repeats.of_effects (settled : Settled after)
    (target : after.controller.attitudeRateTarget = before.controller.attitudeRateTarget)
    (lastSuccessTime : after.leaf.lastSuccessTime = before.leaf.lastSuccessTime)
    {effects : List FlightEffect} (others : ∀ effect ∈ effects, effect.isAttitude = false)
    (appended : after.controller.flightEffects = before.controller.flightEffects ++ effects) :
    Repeats before after := by
  refine ⟨settled, target, lastSuccessTime, ?_⟩
  intro effect member attitude
  rw [appended] at member
  rcases List.mem_append.mp member with old | fresh
  · exact .inl old
  · rw [others effect fresh] at attitude
    cases attitude

theorem Custom1Action.repeats (action : Custom1Action before after)
    (nmpc : before.controller.backend = .nmpc) (settled : Settled before) :
    Repeats before after := by
  cases action with
  | note timer kept =>
      exact .of_effects (settled.congr rfl kept.controlGeneration
        kept.inFlightSequence kept.consumedResultSequence) rfl (kept.lastSuccessTime nmpc)
        (by simp) (List.append_nil _).symm
  | publish origin =>
      exact .of_effects (settled.congr rfl rfl rfl rfl) rfl rfl (by simp [FlightEffect.isAttitude])
        rfl
  | finish =>
      exact .of_effects (settled.congr rfl rfl rfl rfl) rfl rfl (by simp) (List.append_nil _).symm
  | buffer samples =>
      exact .of_effects (settled.congr rfl rfl rfl rfl) rfl rfl (by simp) (List.append_nil _).symm
  | reopen =>
      obtain ⟨target, effects, lastSuccessTime⟩ := reopenGeneration_controller before
      exact .of_effects settled.reopen target lastSuccessTime (by simp)
        (effects.trans (List.append_nil _).symm)
  | take offered => cases settled.offered.symm.trans offered
  | succeed offered fresh success => cases settled.offered.symm.trans offered
  | repeatTarget recent =>
      exact ⟨settled.congr rfl rfl rfl rfl, rfl, rfl, fun _ _ _ => .inr recent⟩
  | dispatch cached idle =>
      exact .of_effects settled.dispatch rfl rfl (by simp [FlightEffect.isAttitude]) rfl
  | track target dfbc reference kept => cases nmpc.symm.trans dfbc

theorem Repeats.refl (settled : Settled scope) : Repeats scope scope :=
  .of_effects settled rfl rfl (by simp) (List.append_nil _).symm

/-- Nothing that a tick does changes whether the target may be repeated, as long as it takes
no success. -/
theorem Acts.repeats (acts : Acts before after) (nmpc : before.controller.backend = .nmpc)
    (settled : Settled before) : Repeats before after := by
  induction acts with
  | refl => exact .refl settled
  | @tail middle last earlier action ih =>
      have step := action.repeats ((Acts.backend earlier).trans nmpc) ih.settled
      refine ⟨step.settled, step.target.trans ih.target,
        step.lastSuccessTime.trans ih.lastSuccessTime, ?_⟩
      intro effect member attitude
      rcases step.attitudes effect member attitude with old | recent
      · exact ih.attitudes effect old attitude
      · refine .inr ?_
        have emits := Acts.emits earlier
        unfold mayRepeatTarget currentTime at recent ⊢
        rw [ih.lastSuccessTime, emits.config, emits.currentTime] at recent
        exact recent

/-- Where a tick stands once it has taken what there was to take. -/
structure Consumed (before middle : Scope Custom1State) : Prop where
  acts : Acts before middle
  settled : Settled middle
  success : ∀ result, takenSuccess before = some result →
    middle = consumeSuccess result (takeResult result (reopenGeneration before))
  kept : takenSuccess before = none →
    middle.controller.attitudeRateTarget = before.controller.attitudeRateTarget ∧
      middle.controller.flightEffects = before.controller.flightEffects ∧
      middle.leaf.lastSuccessTime = before.leaf.lastSuccessTime

/-- A result that failed, or that is stale, is not taken as a success. -/
theorem takenSuccess_eq_none (offered : offeredResult (reopenGeneration scope) = some result)
    (refused : result.success = true → ¬FreshAtTick scope result) : takenSuccess scope = none := by
  by_contra some_
  obtain ⟨other, taken⟩ := Option.ne_none_iff_exists'.mp some_
  obtain ⟨-, same, success, fresh⟩ := takenSuccess_eq_some scope taken
  cases offered.symm.trans same
  exact refused success fresh

theorem freshAtTick_reopenGeneration :
    FreshAtTick (reopenGeneration scope) result ↔ FreshAtTick scope result := by
  unfold reopenGeneration
  split <;> rfl

theorem reopenGeneration_bounded (bounded : scope.controller.nmpcResultBuffer.hasResult = true →
      scope.controller.nmpcResultBuffer.latest.sequence ≤
        scope.controller.nmpcResultBuffer.requestCounter) :
    (reopenGeneration scope).controller.nmpcResultBuffer.hasResult = true →
      (reopenGeneration scope).controller.nmpcResultBuffer.latest.sequence ≤
        (reopenGeneration scope).controller.nmpcResultBuffer.requestCounter := by
  unfold reopenGeneration
  split
  · exact bounded
  · simp [NmpcResultBuffer.beginGeneration]

/-- Taking a result without success changes neither the target nor the outputs. -/
theorem Consumed.of_failure (offered : offeredResult (reopenGeneration scope) = some result)
    (bounded : scope.controller.nmpcResultBuffer.hasResult = true →
      scope.controller.nmpcResultBuffer.latest.sequence ≤
        scope.controller.nmpcResultBuffer.requestCounter)
    (refused : result.success = true → ¬FreshAtTick scope result) :
    Consumed scope (takeResult result (reopenGeneration scope)) where
  acts := .tail (.single (.reopen scope)) (.take offered)
  settled := ⟨offeredResult_takeResult offered, reopenGeneration_bounded bounded⟩
  success := by
    intro other taken
    cases (takenSuccess_eq_none offered refused).symm.trans taken
  kept := fun _ => reopenGeneration_controller scope

theorem Consumed.of_success (nmpc : scope.controller.backend = .nmpc)
    (offered : offeredResult (reopenGeneration scope) = some result)
    (bounded : scope.controller.nmpcResultBuffer.hasResult = true →
      scope.controller.nmpcResultBuffer.latest.sequence ≤
        scope.controller.nmpcResultBuffer.requestCounter)
    (success : result.success = true) (fresh : FreshAtTick scope result) :
    Consumed scope (consumeSuccess result (takeResult result (reopenGeneration scope))) := by
  have taken : takenSuccess scope = some result := by
    rw [takenSuccess, if_pos nmpc, offered, Option.filter_some, success,
      (freshAtTick_iff scope result).mpr fresh]
    rfl
  constructor
  · exact .tail (.single (.reopen scope))
      (.succeed offered (freshAtTick_reopenGeneration.mpr fresh) success)
  · have settled : Settled (takeResult result (reopenGeneration scope)) :=
      ⟨offeredResult_takeResult offered, reopenGeneration_bounded bounded⟩
    exact settled.congr rfl rfl rfl rfl
  · intro other same
    cases taken.symm.trans same
    rfl
  · intro none_
    cases taken.symm.trans none_

variable (scope)

/-- The consumption of a tick, and what it may do after it, when it throws as well. -/
theorem wp_consumeNmpcResult (nmpc : scope.controller.backend = .nmpc)
    (bounded : scope.controller.nmpcResultBuffer.hasResult = true →
      scope.controller.nmpcResultBuffer.latest.sequence ≤
        scope.controller.nmpcResultBuffer.requestCounter) :
    wp consumeNmpcResult (fun _ final => ∃ middle, Consumed scope middle ∧ Acts middle final)
      (fun _ final => ∃ middle, Consumed scope middle ∧ Acts middle final)
      (reopenGeneration scope) := by
  rw [consumeNmpcResult, wp_bind, wp_get]
  cases offered : offeredResult (reopenGeneration scope) with
  | none =>
      refine ⟨reopenGeneration scope, ⟨.single (.reopen scope), ?_, ?_, ?_⟩, .refl⟩
      · exact ⟨offered, reopenGeneration_bounded bounded⟩
      · intro result taken
        obtain ⟨-, same, -⟩ := takenSuccess_eq_some scope taken
        cases offered.symm.trans same
      · exact fun _ => reopenGeneration_controller scope
  | some result =>
      simp only [wp_bind, wp_modify]
      refine wp_resultIsFresh (takeResult result (reopenGeneration scope)) ?_ ?_
      · intro fresh decides
        have decides : fresh = true ↔ FreshAtTick scope result :=
          decides.trans freshAtTick_reopenGeneration
        cases fresh with
        | false =>
            refine ⟨_, .of_failure offered bounded ?_, .refl⟩
            exact fun _ isFresh => by cases decides.mpr isFresh
        | true =>
            have isFresh := decides.mp rfl
            simp only [if_true]
            split
            next success =>
              exact ⟨_, .of_success nmpc offered bounded success isFresh, .refl⟩
            next failed =>
              have taken : Consumed scope (takeResult result (reopenGeneration scope)) :=
                .of_failure offered bounded fun success => (failed success).elim
              exact wp_mono (acting_consumeFailure _ result) (fun _ _ later => ⟨_, taken, later⟩)
                fun _ _ later => ⟨_, taken, later⟩
      · intro error stale
        refine ⟨_, .of_failure offered bounded fun _ isFresh => ?_, .refl⟩
        exact stale (freshAtTick_reopenGeneration.mpr isFresh)

/-- A tick under NMPC takes what there is to take, and then only acts. -/
theorem nmpc_onTick [Libm] (nmpc : scope.controller.backend = .nmpc)
    (bounded : scope.controller.nmpcResultBuffer.hasResult = true →
      scope.controller.nmpcResultBuffer.latest.sequence ≤
        scope.controller.nmpcResultBuffer.requestCounter) :
    wp onTick (fun _ final => ∃ middle, Consumed scope middle ∧ Acts middle final)
      (fun _ final => ∃ middle, Consumed scope middle ∧ Acts middle final) scope := by
  rw [onTick, wp_bind, wp_get]
  simp only [nmpc, handleNmpcEventMode, wp_bind, wp_modify]
  refine wp_mono (wp_consumeNmpcResult scope nmpc bounded) ?_ fun _ _ taken => taken
  rintro _ final ⟨middle, consumed, acts⟩
  exact wp_mono (acting_superviseRequests final)
    (fun _ _ later => ⟨middle, consumed, acts.trans later⟩)
    fun _ _ later => ⟨middle, consumed, acts.trans later⟩

end Settled

section Outcome

variable {opened floor : Nat} {earlier : Option Nat} {genuine : NmpcSolveResult → Prop}
variable {before middle final scope : Scope Custom1State}

/-- What a tick makes of the results. -/
structure TickOutcome (before final : Scope Custom1State) : Prop where
  acts : Acts before final
  success : ∀ result, takenSuccess before = some result →
    final.controller.attitudeRateTarget = result.target ∧
      final.leaf.lastSuccessTime = currentTime before ∧
      .attitude (currentTime before) ∈ final.controller.flightEffects ∧
      result.sequence ≤ final.leaf.consumedResultSequence
  kept : before.controller.backend = .nmpc → takenSuccess before = none →
    final.controller.attitudeRateTarget = before.controller.attitudeRateTarget ∧
      final.leaf.lastSuccessTime = before.leaf.lastSuccessTime ∧
      ∀ effect ∈ final.controller.flightEffects, effect.isAttitude →
        effect ∈ before.controller.flightEffects ∨ mayRepeatTarget before = true

theorem currentTime_reopenGeneration :
    currentTime (reopenGeneration scope) = currentTime scope := by
  unfold reopenGeneration
  split <;> rfl

/-- The floor of a session rises to whatever it has consumed. -/
theorem Identified.raise (identified : Identified opened floor earlier genuine scope) :
    Identified opened scope.leaf.consumedResultSequence earlier genuine scope :=
  { identified with consumed := Nat.le_refl _ }

theorem Identified.lower (identified : Identified opened floor earlier genuine scope) :
    Identified opened 0 earlier genuine scope :=
  { identified with consumed := Nat.zero_le _ }

theorem Consumed.outcome (nmpc : before.controller.backend = .nmpc)
    (identified : Identified opened floor earlier genuine before)
    (consumed : Consumed before middle) (acts : Acts middle final) : TickOutcome before final := by
  have repeats := acts.repeats ((Acts.backend consumed.acts).trans nmpc) consumed.settled
  have after := Acts.keepsIdentified acts
    (Acts.keepsIdentified consumed.acts identified).raise
  refine ⟨consumed.acts.trans acts, ?_, ?_⟩
  · intro result taken
    have same := consumed.success result taken
    have published : .attitude (currentTime before) ∈ middle.controller.flightEffects := by
      rw [same, ← currentTime_reopenGeneration]
      exact List.mem_append_right _ (List.mem_singleton.mpr rfl)
    refine ⟨?_, ?_, (Acts.emits acts).mem_effects published, ?_⟩
    · rw [repeats.target, same]
      rfl
    · rw [repeats.lastSuccessTime, same, ← currentTime_reopenGeneration]
      rfl
    · have floor := after.consumed
      rw [same] at floor
      exact floor
  · intro _ nothing
    obtain ⟨target, effects, lastSuccessTime⟩ := consumed.kept nothing
    refine ⟨repeats.target.trans target, repeats.lastSuccessTime.trans lastSuccessTime, ?_⟩
    intro effect member attitude
    rcases repeats.attitudes effect member attitude with old | recent
    · rw [effects] at old
      exact .inl old
    · refine .inr ?_
      have emits := Acts.emits consumed.acts
      unfold mayRepeatTarget currentTime at recent ⊢
      rw [lastSuccessTime, emits.config, emits.currentTime] at recent
      exact recent

/-- The outcome of a tick, for every backend. -/
theorem wp_onTick [Libm] (identified : Identified opened floor earlier genuine scope) :
    wp onTick (fun _ => TickOutcome scope) (fun _ => TickOutcome scope) scope := by
  by_cases nmpc : scope.controller.backend = .nmpc
  · have consumes : ∀ final, (∃ middle, Consumed scope middle ∧ Acts middle final) →
        TickOutcome scope final := by
      rintro final ⟨middle, consumed, acts⟩
      exact consumed.outcome nmpc identified acts
    exact wp_mono (nmpc_onTick scope nmpc identified.bounded) (fun _ => consumes)
      fun _ => consumes
  · have only : ∀ final, Acts scope final → TickOutcome scope final := by
      intro final acts
      refine ⟨acts, ?_, fun same => (nmpc same).elim⟩
      intro result taken
      exact (nmpc (takenSuccess_eq_some scope taken).1).elim
    exact wp_mono (acting_onTick scope) (fun _ => only) fun _ => only

end Outcome

end Custom1State

end MultirotorController
