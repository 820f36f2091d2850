import MultirotorController.Uav.StateMachine.Custom1Segments

/-!
# What a tick decides about the planner's segment

The backends that follow planner segments at their header times decide alike. They
enter their strategy if they can, promote the pending segment and lift the active
one to the present time. A segment that lifts and passes the gate is effective; on
an effective segment the law runs when its strategy has entered and an output is
due. Everything else is a hover, a hold or nothing, and `Decided` lists it.
-/

namespace MultirotorController

open Procedure

/-- The configured backend lifts planner segments at their header times and gates them. -/
def ControllerConfig.followsSegments (config : ControllerConfig) : Bool :=
  config.stageTimed && config.trackingBackend != .pvaSmc

namespace Custom1State

variable [Libm] [Xgc2Math]

section Decision

variable (scope : Scope Custom1State) (now : Time)

/-- The strategy is entered, if it can be, before anything else. -/
def entering : Scope Custom1State :=
  match scope.controller.backend with
  | .smc => enterSmcStrategy scope
  | .dfbc => enterDfbcStrategy now scope
  | _ => scope

/-- The scope in which the tick decides: the strategy is entered and the segment promoted. -/
def deciding : Scope Custom1State :=
  { entering scope now with
    controller := { (entering scope now).controller with
      mpcTrajectoryBuffer := promotedBuffer (entering scope now) now } }

def segment : MpcTrajectoryState := scope.controller.mpcTrajectoryBuffer.active

def lift : Except RuntimeError EffectiveSegmentLift :=
  let config := scope.controller.config
  liftForBackend (segment scope) now config.planningPeriod config.localTypeMask
    config.enableYawControl config.trackingBackend config.px4LocalLift

/-- The active segment lifts to the present time and passes the gate. -/
def effective : Bool :=
  match lift scope now with
  | .ok lifted => lifted.success && mayTakeSetpoint scope (segment scope)
  | .error _ => false

/-- PX4_LOCAL has no strategy to enter. -/
def strategyEntered : Bool :=
  scope.controller.backend == .px4Local || scope.leaf.syncStrategyEntered

/-- An output is due; PX4_LOCAL publishes at the rate of every other setpoint. -/
def outputDue : Bool :=
  match scope.controller.backend with
  | .smc => shouldRunSynchronousStrategy scope scope.controller.config.nmpc.controlPeriod
  | .dfbc => shouldRunSynchronousStrategy scope scope.leaf.dfbcStrategy.period
  | _ => shouldPublish scope

def smcUpdate (lifted : Setpoint) :
    SmcAccelerationStrategy × Except RuntimeError TrackingStrategyResult :=
  (scope.leaf.smcStrategy.configure scope.controller.config).update
    { sensor := scope.controller.sensorData
      reference := {
        position := ⟨lifted.x, lifted.y, lifted.z⟩
        velocity := ⟨lifted.vx, lifted.vy, lifted.vz⟩
        acceleration := ⟨lifted.ax, lifted.ay, lifted.az⟩ }
      now
      stamp := (segment scope).planningTime
      typeMask := lifted.typeMask }

def dfbcUpdate (lifted : Setpoint) :
    DfbcAttitudeRateStrategy × Except RuntimeError TrackingStrategyResult :=
  scope.leaf.dfbcStrategy.update
    { sensor := scope.controller.sensorData, reference := streamedReference lifted, now }

/-- What the law of the backend makes of a lifted segment; PX4_LOCAL passes it on. -/
def answer (lifted : Setpoint) : Except RuntimeError TrackingStrategyResult :=
  match scope.controller.backend with
  | .smc => (smcUpdate scope now lifted).2
  | .dfbc => (dfbcUpdate scope now lifted).2
  | _ => .ok { success := true, outputKind := .localSetpoint, localSetpoint := lifted }

/-- The sliding-mode handler insists on a setpoint. -/
def accepts (result : TrackingStrategyResult) : Bool :=
  result.success && (scope.controller.backend != .smc || result.outputKind == .localSetpoint)

/-- The tracking output of the tick, if it has one. -/
def trackingOutput : Option TrackingStrategyResult :=
  if effective scope now && strategyEntered scope && outputDue scope then
    match lift scope now with
    | .ok lifted => (answer scope now lifted.setpoint).toOption.filter (accepts scope)
    | .error _ => none
  else none

/-- The geometric law commands an attitude, the other backends a setpoint. -/
def publishOutput (result : TrackingStrategyResult) : Scope Custom1State :=
  if scope.controller.backend = .dfbc then
    publishAttitude { scope with
      controller := { scope.controller with attitudeRateTarget := result.attitudeRateTarget } }
  else publishSetpoint scope result.localSetpoint

/-- Two leaves agree on the pose, the gate and the hold of their session. -/
structure SameSession (first second : Custom1State) : Prop where
  hoverX : first.hoverX = second.hoverX
  hoverY : first.hoverY = second.hoverY
  hoverZ : first.hoverZ = second.hoverZ
  armed : first.trackingArmed = second.trackingArmed
  held : first.trackingPositionHeld = second.trackingPositionHeld
  frozen : first.trackingFrozenHover = second.trackingFrozenHover

/-- The leaf keeps the pose that its session began at, and its gate opens for an effective
segment only. -/
structure KeepsSession (leaf : Custom1State) : Prop where
  hoverX : leaf.hoverX = scope.leaf.hoverX
  hoverY : leaf.hoverY = scope.leaf.hoverY
  hoverZ : leaf.hoverZ = scope.leaf.hoverZ
  armed : leaf.trackingArmed = true →
    scope.leaf.trackingArmed = true ∨ effective scope now = true

/-- The leaf neither begins nor ends a hold. -/
structure KeepsHold (leaf : Custom1State) : Prop extends KeepsSession scope now leaf where
  held : leaf.trackingPositionHeld = scope.leaf.trackingPositionHeld
  frozen : leaf.trackingFrozenHover = scope.leaf.trackingFrozenHover

/-- An effective segment finds the strategy not entered. -/
def unanswered : Bool := effective scope now && !strategyEntered scope

/-- How a tick that has decided in this scope ends, whether it returns or throws. -/
inductive Decided : Scope Custom1State → Prop
  | silent {leaf : Custom1State} : KeepsHold scope now leaf → trackingOutput scope now = none →
      Decided ⟨scope.controller, leaf⟩
  /-- Without a strategy a held position is given up for the measured one. -/
  | hovered {leaf : Custom1State} : KeepsHold scope now leaf → trackingOutput scope now = none →
      (scope.controller.backend ≠ .px4Local → scope.leaf.trackingPositionHeld = true →
        unanswered scope now = true) →
      Decided (publishSetpoint ⟨scope.controller, leaf⟩ (measurementHoverSetpoint scope.controller))
  | held {leaf : Custom1State} : KeepsSession scope now leaf → trackingOutput scope now = none →
      unanswered scope now = false → leaf.trackingPositionHeld = true →
      leaf.trackingFrozenHover =
        (if scope.leaf.trackingPositionHeld then scope.leaf.trackingFrozenHover
          else measurementHoverSetpoint scope.controller) →
      Decided (publishSetpoint ⟨scope.controller, leaf⟩ leaf.trackingFrozenHover)
  | tracked {leaf : Custom1State} {result : TrackingStrategyResult} : KeepsSession scope now leaf →
      trackingOutput scope now = some result →
      (scope.controller.backend ≠ .px4Local → leaf.trackingPositionHeld = false) →
      Decided (publishOutput ⟨scope.controller, leaf⟩ result)

end Decision

section Rules

variable {scope : Scope Custom1State} {now : Time}

namespace KeepsHold

variable {leaf : Custom1State}

omit [Libm] in
/-- A leaf that differs in nothing that matters here. -/
theorem same (armed : leaf.trackingArmed = scope.leaf.trackingArmed := by rfl)
    (held : leaf.trackingPositionHeld = scope.leaf.trackingPositionHeld := by rfl)
    (frozen : leaf.trackingFrozenHover = scope.leaf.trackingFrozenHover := by rfl)
    (hoverX : leaf.hoverX = scope.leaf.hoverX := by rfl)
    (hoverY : leaf.hoverY = scope.leaf.hoverY := by rfl)
    (hoverZ : leaf.hoverZ = scope.leaf.hoverZ := by rfl) : KeepsHold scope now leaf :=
  ⟨⟨hoverX, hoverY, hoverZ, fun isArmed => .inl (armed.symm.trans isArmed)⟩, held, frozen⟩

omit [Libm] in
/-- The gate opens for an effective segment. -/
theorem arms (ready : effective scope now = true)
    (held : leaf.trackingPositionHeld = scope.leaf.trackingPositionHeld := by rfl)
    (frozen : leaf.trackingFrozenHover = scope.leaf.trackingFrozenHover := by rfl)
    (hoverX : leaf.hoverX = scope.leaf.hoverX := by rfl)
    (hoverY : leaf.hoverY = scope.leaf.hoverY := by rfl)
    (hoverZ : leaf.hoverZ = scope.leaf.hoverZ := by rfl) : KeepsHold scope now leaf :=
  ⟨⟨hoverX, hoverY, hoverZ, fun _ => .inr ready⟩, held, frozen⟩

omit [Libm] in
/-- The gate closes. -/
theorem disarms (armed : leaf.trackingArmed = false)
    (held : leaf.trackingPositionHeld = scope.leaf.trackingPositionHeld := by rfl)
    (frozen : leaf.trackingFrozenHover = scope.leaf.trackingFrozenHover := by rfl)
    (hoverX : leaf.hoverX = scope.leaf.hoverX := by rfl)
    (hoverY : leaf.hoverY = scope.leaf.hoverY := by rfl)
    (hoverZ : leaf.hoverZ = scope.leaf.hoverZ := by rfl) : KeepsHold scope now leaf :=
  ⟨⟨hoverX, hoverY, hoverZ, fun isArmed => by simp [armed] at isArmed⟩, held, frozen⟩

end KeepsHold

/-- Without a tracking output a hover is published, if one is due. -/
theorem decided_hoverIfDue {leaf : Custom1State} (kept : KeepsHold scope now leaf)
    (output : trackingOutput scope now = none)
    (released : scope.controller.backend ≠ .px4Local → scope.leaf.trackingPositionHeld = true →
      unanswered scope now = true) :
    Decided scope now (publishCurrentHoverIfDue ⟨scope.controller, leaf⟩) := by
  unfold publishCurrentHoverIfDue
  split
  · exact .hovered kept output released
  · exact .silent kept output

theorem decided_hold {leaf : Custom1State} (kept : KeepsHold scope now leaf)
    (output : trackingOutput scope now = none) (answered : unanswered scope now = false) :
    Decided scope now (holdTrackingPosition ⟨scope.controller, leaf⟩) := by
  unfold holdTrackingPosition
  dsimp only
  obtain ⟨pose, held, frozen⟩ := kept
  split
  next already =>
    refine .held pose output answered already ?_
    rw [← held, if_pos already, frozen]
  next before =>
    refine .held ⟨pose.hoverX, pose.hoverY, pose.hoverZ, pose.armed⟩ output answered rfl ?_
    rw [← held, if_neg before]

theorem decided_trackedSetpoint {leaf : Custom1State} {result : TrackingStrategyResult}
    (elsewhere : scope.controller.backend ≠ .dfbc) (kept : KeepsSession scope now leaf)
    (output : trackingOutput scope now = some result)
    (released : scope.controller.backend ≠ .px4Local → leaf.trackingPositionHeld = false) :
    Decided scope now (publishSetpoint ⟨scope.controller, leaf⟩ result.localSetpoint) := by
  have tracked := Decided.tracked kept output released
  rw [publishOutput, if_neg elsewhere] at tracked
  exact tracked

theorem decided_trackedAttitude {leaf : Custom1State} {result : TrackingStrategyResult}
    (dfbc : scope.controller.backend = .dfbc) (kept : KeepsSession scope now leaf)
    (output : trackingOutput scope now = some result)
    (released : leaf.trackingPositionHeld = false) :
    Decided scope now (publishAttitude ⟨{ scope.controller with
      attitudeRateTarget := result.attitudeRateTarget }, leaf⟩) := by
  have tracked := Decided.tracked kept output fun _ => released
  rw [publishOutput, if_pos dfbc] at tracked
  exact tracked

/-- A segment that is not effective has no output, and nothing is unanswered. -/
theorem trackingOutput_of_ineffective (refused : effective scope now = false) :
    trackingOutput scope now = none ∧ unanswered scope now = false := by
  simp [trackingOutput, unanswered, refused]

omit [Libm] in
theorem effective_of_error {error : RuntimeError} (thrown : lift scope now = .error error) :
    effective scope now = false := by
  simp [effective, thrown]

omit [Libm] in
/-- The handlers test for a segment that is not effective. -/
theorem effective_of_refused {lifted : EffectiveSegmentLift} (found : lift scope now = .ok lifted)
    (refused : (!lifted.success || !mayTakeSetpoint scope (segment scope)) = true) :
    effective scope now = false := by
  rw [← Bool.not_and, Bool.not_eq_true'] at refused
  rw [effective, found]
  exact refused

omit [Libm] in
theorem effective_of_passed {lifted : EffectiveSegmentLift} (found : lift scope now = .ok lifted)
    (passed : ¬ (!lifted.success || !mayTakeSetpoint scope (segment scope)) = true) :
    effective scope now = true := by
  rw [← Bool.not_and, Bool.not_eq_true', Bool.not_eq_false] at passed
  rw [effective, found]
  exact passed

/-- Before the strategy has entered and an output is due there is none. -/
theorem trackingOutput_of_idle
    (idle : (!strategyEntered scope || !outputDue scope) = true) :
    trackingOutput scope now = none := by
  rw [← Bool.not_and, Bool.not_eq_true'] at idle
  simp [trackingOutput, Bool.and_assoc, idle]

omit [Libm] in
theorem of_effective (ready : effective scope now = true) :
    ∃ lifted, lift scope now = .ok lifted ∧ lifted.success = true ∧
      mayTakeSetpoint scope (segment scope) = true := by
  unfold effective at ready
  split at ready
  next lifted found =>
    obtain ⟨success, gate⟩ := Bool.and_eq_true_iff.mp ready
    exact ⟨lifted, found, success, gate⟩
  · cases ready

/-- A tracking output is the law's answer to an effective segment. -/
theorem of_trackingOutput {result : TrackingStrategyResult}
    (output : trackingOutput scope now = some result) :
    ∃ lifted, lift scope now = .ok lifted ∧ lifted.success = true ∧
      mayTakeSetpoint scope (segment scope) = true ∧
      answer scope now lifted.setpoint = .ok result ∧ accepts scope result = true := by
  unfold trackingOutput at output
  split at output
  next runs =>
    simp only [Bool.and_eq_true] at runs
    obtain ⟨lifted, found, success, gate⟩ := of_effective runs.1.1
    split at output
    next other again =>
      cases found.symm.trans again
      obtain ⟨answered, accepted⟩ := Option.filter_eq_some_iff.mp output
      refine ⟨lifted, found, success, gate, ?_, accepted⟩
      cases answers : answer scope now lifted.setpoint with
      | error error =>
          rw [answers] at answered
          cases answered
      | ok value =>
          rw [answers] at answered
          cases answered
          rfl
    · cases output
  · cases output

omit [Libm] in
theorem strategyEntered_eq (elsewhere : scope.controller.backend ≠ .px4Local) :
    strategyEntered scope = scope.leaf.syncStrategyEntered := by
  simp [strategyEntered, elsewhere]

/-- On an effective segment, the strategy entered and an output due, the law decides. -/
theorem trackingOutput_of_lift {lifted : EffectiveSegmentLift} (found : lift scope now = .ok lifted)
    (ready : effective scope now = true) (entered : strategyEntered scope = true)
    (due : outputDue scope = true) :
    trackingOutput scope now =
      (answer scope now lifted.setpoint).toOption.filter (accepts scope) := by
  simp [trackingOutput, found, ready, entered, due]

end Rules

section Handlers

variable (scope : Scope Custom1State) {now : Time}

/-- What the sliding-mode handler does once the law is to run. -/
theorem decided_runSmcStrategy {lifted : EffectiveSegmentLift}
    (smc : scope.controller.backend = .smc) (found : lift scope now = .ok lifted)
    (ready : effective scope now = true) (entered : strategyEntered scope = true)
    (due : outputDue scope = true) :
    wp (runSmcStrategy now (segment scope) lifted.setpoint) (fun _ => Decided scope now)
      (fun _ => Decided scope now) (setTrackingArmed scope true) := by
  have answered : unanswered scope now = false := by simp [unanswered, entered]
  have output := trackingOutput_of_lift found ready entered due
  have law : answer scope now lifted.setpoint = (smcUpdate scope now lifted.setpoint).2 := by
    simp only [answer, smc]
  have accepting (result : TrackingStrategyResult) :
      accepts scope result = (result.success && result.outputKind == .localSetpoint) := by
    simp [accepts, smc]
  have elsewhere : scope.controller.backend ≠ .dfbc := by simp [smc]
  rw [law] at output
  rw [runSmcStrategy, wp_bind, wp_get, wp_bind, wp_modify]
  refine wp_rethrow_bind (fun result updated => wp_ite_of (fun failed => ?_) fun succeeded => ?_)
    fun error thrown => ?_
  · have updated : (smcUpdate scope now lifted.setpoint).2 = .ok result := updated
    rw [wp_modify]
    refine decided_hold (.arms ready) ?_ answered
    have rejected : accepts scope result = false := by
      rw [accepting]
      by_contra both
      simp_all
    rw [output, updated]
    simp [Except.toOption, Option.filter, rejected]
  · have updated : (smcUpdate scope now lifted.setpoint).2 = .ok result := updated
    rw [wp_modify]
    have accepted : trackingOutput scope now = some result := by
      rw [output, updated]
      simpa [Except.toOption, accepting, Option.filter] using succeeded
    exact decided_trackedSetpoint elsewhere ⟨rfl, rfl, rfl, fun _ => .inr ready⟩ accepted
      fun _ => rfl
  · have thrown : (smcUpdate scope now lifted.setpoint).2 = .error error := thrown
    refine .silent (.arms ready) ?_
    rw [output, thrown]
    rfl

/-- Outside the effective window the sliding-mode handler holds or hovers. -/
theorem decided_smcWithoutReference (refused : effective scope now = false) :
    Decided scope now (smcWithoutReference scope) := by
  obtain ⟨output, answered⟩ := trackingOutput_of_ineffective refused
  unfold smcWithoutReference
  split
  · exact decided_hold .same output answered
  split
  next held =>
    split
    · exact .held ⟨rfl, rfl, rfl, .inl⟩ output answered held (by rw [if_pos held])
    · exact .silent .same output
  next free =>
    exact decided_hoverIfDue .same output fun _ held => (free held).elim

variable {scope} in
omit [Libm] in
theorem wp_clockTime_bind {α : Type} {next : Time → Custom1M α}
    {returns : α → Scope Custom1State → Prop} {throws : RuntimeError → Scope Custom1State → Prop}
    (clock : Time.fromSec (currentTime scope) = .ok now)
    (rest : wp (next now) returns throws scope) :
    wp (clockTime >>= next) returns throws scope := by
  simp only [clockTime, wp_bind, wp_get, wp_rethrow, clock]
  exact rest

variable {scope} in
omit [Libm] in
theorem wp_promote_bind {α : Type} {backend : TrackingBackend} {next : Bool → Custom1M α}
    {returns : α → Scope Custom1State → Prop} {throws : RuntimeError → Scope Custom1State → Prop}
    (configured : scope.controller.backend = backend)
    (rest : ∀ switched, wp (next switched) returns throws { scope with
      controller := { scope.controller with mpcTrajectoryBuffer := promotedBuffer scope now } }) :
    wp (promote now backend >>= next) returns throws scope := by
  subst configured
  simp only [promote, wp_bind, wp_get, wp_set, wp_pure]
  exact rest _

omit [Libm] in
/-- Entering the strategy changes the leaf alone. -/
theorem entering_controller (now : Time) : (entering scope now).controller = scope.controller := by
  unfold entering
  split
  · unfold enterSmcStrategy
    split <;> rfl
  · unfold enterDfbcStrategy
    dsimp only
    split <;> rfl
  · rfl

omit [Libm] in
theorem entering_sameSession (now : Time) : SameSession (entering scope now).leaf scope.leaf := by
  unfold entering
  split
  · unfold enterSmcStrategy
    split <;> exact ⟨rfl, rfl, rfl, rfl, rfl, rfl⟩
  · unfold enterDfbcStrategy
    dsimp only
    split <;> exact ⟨rfl, rfl, rfl, rfl, rfl, rfl⟩
  · exact ⟨rfl, rfl, rfl, rfl, rfl, rfl⟩

omit [Libm] in
theorem deciding_backend (now : Time) :
    (deciding scope now).controller.backend = scope.controller.backend := by
  change (entering scope now).controller.backend = _
  rw [entering_controller]

omit [Libm] in
/-- The yaw option does not reach the lift of the sliding-mode backend. -/
theorem lift_smc (smc : scope.controller.backend = .smc) :
    lift scope now = liftForBackend (segment scope) now scope.controller.config.planningPeriod
      scope.controller.config.localTypeMask false .smc scope.controller.config.px4LocalLift := by
  have backend : scope.controller.config.trackingBackend = .smc := smc
  rw [lift, backend]
  rfl

theorem decided_handleSmcMode (smc : scope.controller.backend = .smc)
    (clock : Time.fromSec (currentTime scope) = .ok now) :
    wp handleSmcMode (fun _ => Decided (deciding scope now) now)
      (fun _ => Decided (deciding scope now) now) scope := by
  have enters : enterSmcStrategy scope = entering scope now := by simp only [entering, smc]
  have entered : (enterSmcStrategy scope).controller.backend = .smc := by
    rw [enters, entering_controller]
    exact smc
  have smc := (deciding_backend scope now).trans smc
  refine wp_clockTime_bind clock ?_
  rw [wp_bind, wp_modify]
  refine wp_promote_bind entered fun _ => ?_
  rw [enters]
  change wp _ _ _ (deciding scope now)
  generalize deciding scope now = scope at smc ⊢
  rw [wp_bind, wp_get]
  refine wp_rethrow_bind (fun lifted found => wp_ite_of (fun refused => ?_) fun passed => ?_)
    fun error thrown => ?_
  · have found : lift scope now = .ok lifted := (lift_smc scope smc).trans found
    exact decided_smcWithoutReference scope (effective_of_refused found refused)
  · have found : lift scope now = .ok lifted := (lift_smc scope smc).trans found
    have ready := effective_of_passed found passed
    have entered : strategyEntered scope = scope.leaf.syncStrategyEntered :=
      strategyEntered_eq (by simp [smc])
    have due : outputDue scope =
        shouldRunSynchronousStrategy scope scope.controller.config.nmpc.controlPeriod := by
      simp only [outputDue, smc]
    rw [wp_bind, wp_modify, wp_bind, wp_get]
    refine wp_ite_of (fun idle => ?_) fun runs => ?_
    · have idle : (!strategyEntered scope || !outputDue scope) = true := by
        rw [entered, due]
        exact idle
      have output : trackingOutput scope now = none := trackingOutput_of_idle idle
      rw [wp_modify]
      split
      · exact .silent (.arms ready) output
      next absent =>
        have absent : strategyEntered scope = false := by
          rw [entered]
          exact Bool.eq_false_iff.mpr absent
        refine decided_hoverIfDue (.arms ready) output fun _ _ => ?_
        simp [unanswered, ready, absent]
    · have runs : ¬ (!strategyEntered scope || !outputDue scope) = true := by
        rw [entered, due]
        exact runs
      rw [← Bool.not_and, Bool.not_eq_true', Bool.not_eq_false, Bool.and_eq_true] at runs
      exact decided_runSmcStrategy scope smc found ready runs.1 runs.2
  · have thrown : lift scope now = .error error := (lift_smc scope smc).trans thrown
    exact .silent .same
      (trackingOutput_of_ineffective (effective_of_error thrown)).1

/-- What the geometric handler does with an effective segment once the law is to run. -/
theorem decided_runDfbcStrategy {lifted : EffectiveSegmentLift}
    (dfbc : scope.controller.backend = .dfbc) (found : lift scope now = .ok lifted)
    (ready : effective scope now = true) (due : outputDue scope = true) :
    wp (runDfbcStrategy now true (streamedReference lifted.setpoint)) (fun _ => Decided scope now)
      (fun _ => Decided scope now) (setTrackingArmed scope true) := by
  have entered : strategyEntered scope = scope.leaf.syncStrategyEntered :=
    strategyEntered_eq (by simp [dfbc])
  have accepting (result : TrackingStrategyResult) : accepts scope result = result.success := by
    simp [accepts, dfbc]
  rw [runDfbcStrategy, wp_bind, wp_get]
  refine wp_ite_of (fun absent => ?_) fun present => ?_
  · have absent : strategyEntered scope = false := by
      have absent : (!scope.leaf.syncStrategyEntered) = true := absent
      rw [entered]
      simpa using absent
    rw [wp_modify]
    refine .hovered (.arms ready) (trackingOutput_of_idle (by simp [absent]))
      fun _ _ => ?_
    simp [unanswered, ready, absent]
  have present : strategyEntered scope = true := by
    have present : ¬ (!scope.leaf.syncStrategyEntered) = true := present
    rw [entered]
    simpa using present
  have answered : unanswered scope now = false := by simp [unanswered, present]
  have output := trackingOutput_of_lift found ready present due
  have law : answer scope now lifted.setpoint = (dfbcUpdate scope now lifted.setpoint).2 := by
    simp only [answer, dfbc]
  rw [law] at output
  rw [wp_bind, wp_modify]
  refine wp_rethrow_bind (fun result updated => wp_ite_of (fun failed => ?_) fun succeeded => ?_)
    fun error thrown => ?_
  · have updated : (dfbcUpdate scope now lifted.setpoint).2 = .ok result := updated
    rw [wp_bind, wp_modify]
    refine decided_hold (.arms ready) ?_ answered
    have rejected : accepts scope result = false := by simpa [accepting] using failed
    rw [output, updated]
    simp [Except.toOption, Option.filter, rejected]
  · have updated : (dfbcUpdate scope now lifted.setpoint).2 = .ok result := updated
    have accepted : trackingOutput scope now = some result := by
      rw [output, updated]
      simpa [Except.toOption, accepting, Option.filter] using succeeded
    rw [wp_modify]
    exact decided_trackedAttitude dfbc ⟨rfl, rfl, rfl, fun _ => .inr ready⟩ accepted rfl
  · have thrown : (dfbcUpdate scope now lifted.setpoint).2 = .error error := thrown
    refine .silent (.arms ready) ?_
    rw [output, thrown]
    rfl

omit [Libm] in
theorem lift_dfbc (dfbc : scope.controller.backend = .dfbc) :
    lift scope now = liftForBackend (segment scope) now scope.controller.config.planningPeriod
      scope.controller.config.localTypeMask scope.controller.config.enableYawControl .dfbc
      scope.controller.config.px4LocalLift := by
  have backend : scope.controller.config.trackingBackend = .dfbc := dfbc
  rw [lift, backend]

/-- Without an effective segment the geometric handler holds or hovers. -/
theorem decided_streamingHold (refused : effective scope now = false) :
    Decided scope now
      (if scope.leaf.trackingArmed || scope.leaf.trackingPositionHeld then
        if shouldPublish scope then holdTrackingPosition scope else scope
      else publishCurrentHoverIfDue scope) := by
  obtain ⟨output, answered⟩ := trackingOutput_of_ineffective refused
  split
  · split
    · exact decided_hold .same output answered
    · exact .silent .same output
  next free =>
    refine decided_hoverIfDue .same output fun _ held => ?_
    simp [held] at free

/-- The geometric handler, from the scope that has entered its strategy. -/
theorem decided_followStreamedReference (dfbc : scope.controller.backend = .dfbc) :
    let promoted : Scope Custom1State := { scope with
      controller := { scope.controller with mpcTrajectoryBuffer := promotedBuffer scope now } }
    wp (followStreamedReference now) (fun _ => Decided promoted now)
      (fun _ => Decided promoted now) scope := by
  intro promoted
  have configured : promoted.controller.backend = .dfbc := dfbc
  rw [followStreamedReference, wp_bind, streamingReference]
  refine wp_promote_bind dfbc fun _ => ?_
  change wp _ _ _ promoted
  generalize promoted = scope at configured ⊢
  rw [wp_bind, wp_get]
  refine wp_rethrow_bind (fun lifted found => wp_ite_of (fun refused => ?_) fun passed => ?_)
    fun error thrown => ?_
  · have found : lift scope now = .ok lifted := (lift_dfbc scope configured).trans found
    rw [wp_bind, wp_modify, wp_pure, wp_pure]
    exact decided_streamingHold scope (effective_of_refused found refused)
  · have found : lift scope now = .ok lifted := (lift_dfbc scope configured).trans found
    have ready := effective_of_passed found passed
    have due : outputDue scope =
        shouldRunSynchronousStrategy scope scope.leaf.dfbcStrategy.period := by
      simp only [outputDue, configured]
    rw [wp_bind, wp_modify, wp_pure, wp_bind, wp_get]
    refine wp_ite_of (fun runs => ?_) fun early => ?_
    · exact decided_runDfbcStrategy scope configured found ready (due.trans runs)
    · have early : outputDue scope = false := due.trans (Bool.eq_false_iff.mpr early)
      exact .silent (.arms ready) (trackingOutput_of_idle (by simp [early]))
  · have thrown : lift scope now = .error error := (lift_dfbc scope configured).trans thrown
    exact .silent .same
      (trackingOutput_of_ineffective (effective_of_error thrown)).1

theorem decided_handleSynchronousAttitudeRateMode (dfbc : scope.controller.backend = .dfbc)
    (streamed : scope.controller.config.dfbc.referenceSource = .plannerSetpoint)
    (clock : Time.fromSec (currentTime scope) = .ok now) :
    wp handleSynchronousAttitudeRateMode (fun _ => Decided (deciding scope now) now)
      (fun _ => Decided (deciding scope now) now) scope := by
  have enters : enterDfbcStrategy now scope = entering scope now := by simp only [entering, dfbc]
  have controller := entering_controller scope now
  refine wp_clockTime_bind clock ?_
  rw [wp_bind, wp_modify, wp_bind, wp_get, enters]
  refine wp_ite_of (fun _ => ?_) fun cached => ?_
  · refine decided_followStreamedReference (entering scope now) ?_
    rw [controller]
    exact dfbc
  · rw [controller] at cached
    exact (cached streamed).elim

theorem decided_handlePx4LocalPassThrough (px4Local : scope.controller.backend = .px4Local)
    (clock : Time.fromSec (currentTime scope) = .ok now) :
    wp handlePx4LocalPassThrough (fun _ => Decided (deciding scope now) now)
      (fun _ => Decided (deciding scope now) now) scope := by
  have enters : scope = entering scope now := by simp only [entering, px4Local]
  have configured := (deciding_backend scope now).trans px4Local
  refine wp_clockTime_bind clock (wp_promote_bind px4Local fun _ => ?_)
  have same : { scope with
      controller := { scope.controller with mpcTrajectoryBuffer := promotedBuffer scope now } } =
      deciding scope now := by
    rw [deciding, ← enters]
  rw [same]
  generalize deciding scope now = scope at configured ⊢
  have config : scope.controller.config.trackingBackend = .px4Local := configured
  have lifts : lift scope now = liftForBackend (segment scope) now
      scope.controller.config.planningPeriod scope.controller.config.localTypeMask
      scope.controller.config.enableYawControl .px4Local scope.controller.config.px4LocalLift := by
    rw [lift, config]
  rw [wp_bind, wp_get]
  refine wp_rethrow_bind (fun lifted found => wp_ite_of (fun refused => ?_) fun may =>
    wp_ite_of (fun unlifted => ?_) fun succeeded => ?_) fun error thrown => ?_
  · have found : lift scope now = .ok lifted := lifts.trans found
    rw [wp_modify]
    refine decided_hoverIfDue (.disarms rfl) (trackingOutput_of_ineffective
      (effective_of_refused found ?_)).1 fun elsewhere => (elsewhere configured).elim
    exact Bool.or_eq_true_iff.mpr (.inr refused)
  · have found : lift scope now = .ok lifted := lifts.trans found
    rw [wp_modify]
    refine decided_hoverIfDue .same (trackingOutput_of_ineffective
      (effective_of_refused found ?_)).1 fun elsewhere => (elsewhere configured).elim
    exact Bool.or_eq_true_iff.mpr (.inl unlifted)
  · have found : lift scope now = .ok lifted := lifts.trans found
    have ready : effective scope now = true := by
      refine effective_of_passed found fun refused => ?_
      exact (Bool.or_eq_true_iff.mp refused).elim succeeded may
    have due : outputDue scope = shouldPublish scope := by simp only [outputDue, configured]
    have entered : strategyEntered scope = true := by simp [strategyEntered, configured]
    rw [wp_modify]
    dsimp only
    split
    next publishes =>
      have output := trackingOutput_of_lift found ready entered (due.trans publishes)
      simp only [answer, configured] at output
      have passed : trackingOutput scope now = some {
          success := true, outputKind := .localSetpoint, localSetpoint := lifted.setpoint } := by
        rw [output]
        simp [Except.toOption, Option.filter, accepts, configured]
      have kept : KeepsSession scope now (setTrackingArmed scope true).leaf :=
        ⟨rfl, rfl, rfl, fun _ => .inr ready⟩
      exact decided_trackedSetpoint (by simp [configured]) kept passed
        fun elsewhere => (elsewhere configured).elim
    next waits =>
      have idle : outputDue scope = false := due.trans (Bool.eq_false_iff.mpr waits)
      exact .silent (.arms ready) (trackingOutput_of_idle (by simp [idle]))
  · have thrown : lift scope now = .error error := lifts.trans thrown
    exact .silent .same
      (trackingOutput_of_ineffective (effective_of_error thrown)).1

/-- The tick of a backend that follows segments decides, or finds no clock value and changes
nothing. -/
def TickDecided (after : Scope Custom1State) : Prop :=
  (∃ now, Time.fromSec (currentTime scope) = .ok now ∧ Decided (deciding scope now) now after) ∨
    (∃ error, Time.fromSec (currentTime scope) = .error error) ∧ after = scope

variable {scope} in
theorem tickDecided_of_handler {next : Time → Custom1M Unit}
    (decided : ∀ now, Time.fromSec (currentTime scope) = .ok now →
      wp (clockTime >>= next) (fun _ => Decided (deciding scope now) now)
        (fun _ => Decided (deciding scope now) now) scope) :
    wp (clockTime >>= next) (fun _ => TickDecided scope) (fun _ => TickDecided scope) scope := by
  cases clock : Time.fromSec (currentTime scope) with
  | error error =>
      simp only [clockTime, wp_bind, wp_get, wp_rethrow, clock]
      exact .inr ⟨⟨error, clock⟩, rfl⟩
  | ok now =>
      exact wp_mono (decided now clock) (fun _ _ ends => .inl ⟨now, clock, ends⟩)
        fun _ _ ends => .inl ⟨now, clock, ends⟩

theorem decided_onTick (follows : scope.controller.config.followsSegments = true) :
    wp onTick (fun _ => TickDecided scope) (fun _ => TickDecided scope) scope := by
  obtain ⟨timed, notPvaSmc⟩ := Bool.and_eq_true_iff.mp follows
  obtain ⟨planned, -⟩ := Bool.and_eq_true_iff.mp timed
  rw [onTick, wp_bind, wp_get]
  cases backend : scope.controller.backend with
  | nmpc =>
      have backend : scope.controller.config.trackingBackend = .nmpc := backend
      simp [usesPlannerSetpoint, backend] at planned
  | dfbc =>
      have streamed : scope.controller.config.dfbc.referenceSource = .plannerSetpoint := by
        have backend : scope.controller.config.trackingBackend = .dfbc := backend
        simpa [usesPlannerSetpoint, backend] using planned
      exact tickDecided_of_handler fun now clock =>
        decided_handleSynchronousAttitudeRateMode scope backend streamed clock
  | smc => exact tickDecided_of_handler fun now clock => decided_handleSmcMode scope backend clock
  | pvaSmc =>
      have backend : scope.controller.config.trackingBackend = .pvaSmc := backend
      simp [backend] at notPvaSmc
  | px4Local =>
      exact tickDecided_of_handler fun now clock =>
        decided_handlePx4LocalPassThrough scope backend clock

end Handlers

end Custom1State

end MultirotorController
