import MultirotorController.Safety.HeldPosition
import MultirotorController.Safety.LandPriority

/-!
# The take-over gate

The first tracking output of a session should follow a segment near the pose at
which the session began. The gate that sees to it opens when a segment near that
pose becomes effective, whether or not the update then puts anything out, and it
stays open. Where no update opens it before it can put anything out, the first output
takes over near the pose, and only then may a segment recede.
-/

namespace MultirotorController

open Custom1State

section Law

variable [Libm] [Xgc2Math]

/-- The world pose measured in the update that entered Custom1, as long as every update of the
session follows planner segments. -/
def sessionPose : List FlightEvent → Option Vec3
  | [] => none
  | event :: past =>
      let controller := (event.before.prepare event.input).controller
      if event.before.flightState = .custom1 then
        if controller.config.followsSegments then sessionPose past else none
      else if event.after.flightState = .custom1 then
        some ⟨controller.worldX, controller.worldY, controller.worldZ⟩
      else none

/-- The session has had a tracking output. -/
def hasTracked : List FlightEvent → Bool
  | [] => false
  | event :: past =>
      decide (event.before.flightState = .custom1) &&
        ((segmentOutput event).isSome || hasTracked past)

/-- The active segment of the update lies within the tolerances of a pose. -/
def segmentNear (event : FlightEvent) (pose : Vec3) : Bool :=
  let params := (updateConfig event).nmpc
  passThroughPlanMatchesHover (tickedRuntime event).controller.mpcTrajectoryBuffer.active
    pose.x pose.y pose.z params.planHoverXyTol params.planHoverZTol

/-- The session has had a tracking output that followed a segment near the pose. -/
def hasTakenOver (pose : Vec3) : List FlightEvent → Bool
  | [] => false
  | event :: past =>
      decide (event.before.flightState = .custom1) &&
        ((segmentOutput event).isSome && segmentNear event pose || hasTakenOver pose past)

/-- The law of the backend has an output for the lifted segment. -/
def lawYields (scope : Scope Custom1State) (now : Time) : Bool :=
  match lift scope now with
  | .ok lifted => (answer scope now lifted.setpoint).toOption.any (accepts scope)
  | .error _ => false

/-- The update finds the gate shut and an effective segment that opens it, while the strategy has
not entered, no output is due, or the law has none. -/
def opensEarly (event : FlightEvent) : Bool :=
  (decision event).any fun decided =>
    !decided.1.leaf.trackingArmed && effective decided.1 decided.2 &&
      !(strategyEntered decided.1 && outputDue decided.1 && lawYields decided.1 decided.2)

/-- No update opens the gate before it can put out a tracking output. -/
def opensInTime : FlightRestriction := fun _ runtime turn =>
  opensEarly (flightMachine.event runtime turn) = false

instance : ∀ past runtime turn, Decidable (opensInTime past runtime turn) :=
  fun _ _ _ => inferInstanceAs (Decidable (_ = false))

/-- The update has a tracking output, in a session that began at the pose. -/
structure SessionOutput (older : List FlightEvent) (event : FlightEvent) (pose : Vec3) : Prop where
  session : sessionPose older = some pose
  custom1 : event.before.flightState = .custom1
  follows : (updateConfig event).followsSegments = true
  output : (segmentOutput event).isSome = true

/-- The first output of a session follows a segment near its pose, and a segment away from it is
followed only after such an output. -/
structure TakesOverNear (older : List FlightEvent) (event : FlightEvent) : Prop where
  first : ∀ pose, SessionOutput older event pose → hasTracked older = false →
    segmentNear event pose = true
  later : ∀ pose, SessionOutput older event pose → segmentNear event pose = false →
    hasTakenOver pose older = true

/-- The leaf remembers where its session began, and its gate was opened by an output near it. -/
def RemembersSession (past : List FlightEvent) (runtime : FlightRuntime) : Prop :=
  ∀ pose, sessionPose past = some pose → ∀ leaf, runtime.leaf = .custom1 leaf →
    pose = ⟨leaf.hoverX, leaf.hoverY, leaf.hoverZ⟩ ∧
      (leaf.trackingArmed = true → hasTakenOver pose past = true)

/-- What has taken over has tracked. -/
theorem hasTracked_of_hasTakenOver {pose : Vec3} {past : List FlightEvent}
    (taken : hasTakenOver pose past = true) : hasTracked past = true := by
  induction past with
  | nil => cases taken
  | cons event past ih =>
      simp only [hasTakenOver, Bool.and_eq_true, Bool.or_eq_true] at taken
      simp only [hasTracked, Bool.and_eq_true, Bool.or_eq_true]
      exact ⟨taken.1, taken.2.imp And.left ih⟩

/-- On an effective segment there is an output where nothing stands against it. -/
theorem trackingOutput_of_lawYields {scope : Scope Custom1State} {now : Time}
    (ready : effective scope now = true)
    (able : (strategyEntered scope && outputDue scope && lawYields scope now) = true) :
    (trackingOutput scope now).isSome = true := by
  simp only [Bool.and_eq_true] at able
  obtain ⟨⟨entered, due⟩, yields⟩ := able
  cases found : lift scope now with
  | error error => simp [lawYields, found] at yields
  | ok lifted =>
      rw [trackingOutput_of_lift found ready entered due]
      rw [lawYields, found] at yields
      rw [Option.isSome_filter]
      exact yields

end Law

section Steps

variable [Libm] [Xgc2Math] {runtime : FlightRuntime} {turn : Turn}

theorem Custom1State.Decided.keepsSession {scope ticked : Scope Custom1State} {now : Time}
    (decided : Decided scope now ticked) : KeepsSession scope now ticked.leaf := by
  cases decided with
  | silent kept => exact kept.toKeepsSession
  | hovered kept => exact ⟨kept.hoverX, kept.hoverY, kept.hoverZ, kept.armed⟩
  | held kept => exact ⟨kept.hoverX, kept.hoverY, kept.hoverZ, kept.armed⟩
  | tracked kept =>
      unfold publishOutput
      split <;> exact ⟨kept.hoverX, kept.hoverY, kept.hoverZ, kept.armed⟩

omit [Libm] in
theorem onEnter_session (scope : Scope Custom1State) :
    (onEnter scope).leaf.hoverX = scope.controller.worldX ∧
      (onEnter scope).leaf.hoverY = scope.controller.worldY ∧
      (onEnter scope).leaf.hoverZ = scope.controller.worldZ ∧
      (onEnter scope).leaf.trackingArmed = false := by
  dsimp only [onEnter]
  repeat' split
  all_goals exact ⟨rfl, rfl, rfl, rfl⟩

omit [Libm] [Xgc2Math] in
theorem worldPose_congr {first second : DroneController} (config : first.config = second.config)
    (sensorData : first.sensorData = second.sensorData) :
    first.worldX = second.worldX ∧ first.worldY = second.worldY ∧
      first.worldZ = second.worldZ := by
  simp only [DroneController.worldX, DroneController.worldY, DroneController.worldZ,
    DroneController.backend, config, sensorData, and_self]

/-- A session begins at the measured pose, with the gate shut. -/
theorem session_of_entered {leaf : Custom1State} (elsewhere : runtime.flightState ≠ .custom1)
    (entered : (runtime.turn turn).1.leaf = .custom1 leaf) :
    leaf.hoverX = (runtime.prepare turn).controller.worldX ∧
      leaf.hoverY = (runtime.prepare turn).controller.worldY ∧
      leaf.hoverZ = (runtime.prepare turn).controller.worldZ ∧ leaf.trackingArmed = false := by
  have prepared : (runtime.prepare turn).flightState ≠ .custom1 := by
    rw [FlightRuntime.prepare_flightState]
    exact elsewhere
  obtain ⟨again, completed⟩ := (runtime.prepare turn).update_ok turn.now prepared
  have after : (runtime.turn turn).1 =
      FlightRuntime.afterTick _ ((runtime.prepare turn).ticked turn.now) :=
    FlightRuntime.afterTick_of_update completed
  have circumstances := (runtime.prepare turn).ticked_emits turn.now
  have state := (runtime.prepare turn).ticked_flightState turn.now
  rw [after, FlightRuntime.afterTick_leaf] at entered
  generalize (runtime.prepare turn).ticked turn.now = ticked at entered circumstances state
  have tickedElsewhere : ticked.flightState ≠ .custom1 := state.trans_ne prepared
  have arrived : (ticked.applyChoice ticked.choose).flightState = .custom1 := by
    rw [FlightRuntime.flightState, entered]
    rfl
  cases chosen : ticked.choose with
  | none =>
      rw [chosen] at arrived
      have stays := FlightRuntime.foldl_dispatchCommand_flightState ticked ticked.commands
      exact (tickedElsewhere (stays.symm.trans arrived)).elim
  | some choice =>
      rw [chosen] at entered
      by_cases tracking : choice.target = .custom1
      · obtain ⟨target, signal, command⟩ := choice
        cases tracking
        have exits := ticked.leave_emits ⟨.custom1, signal, command⟩
        have pose := onEnter_session ⟨FlightRuntime.leave ⟨.custom1, signal, command⟩ ticked,
          { frozenFrame := Setpoint.coordinateFrame_default }⟩
        obtain ⟨x, y, z⟩ := worldPose_congr (exits.config.trans circumstances.config)
          (exits.sensorData.trans circumstances.sensorData)
        rw [← FlightLeaf.custom1.inj entered]
        exact ⟨pose.1.trans x, pose.2.1.trans y, pose.2.2.1.trans z, pose.2.2.2⟩
      · have stays : (ticked.transition choice).flightState = choice.target :=
          ticked.transition_flightState choice
        rw [chosen] at arrived
        exact (tracking (stays.symm.trans arrived)).elim

/-- The segment of an effective update is near the pose of its session, unless the gate is open. -/
theorem segmentNear_of_mayTakeSetpoint {scope ticked : Scope Custom1State} {now : Time}
    {start : Custom1State} (tick : SegmentTick (flightMachine.event runtime turn) scope now ticked)
    (same : SameSession scope.leaf start)
    (passes : mayTakeSetpoint scope (segment scope) = true) :
    start.trackingArmed = true ∨ segmentNear (flightMachine.event runtime turn)
      ⟨start.hoverX, start.hoverY, start.hoverZ⟩ = true := by
  by_cases armed : scope.leaf.trackingArmed = true
  · exact .inl (same.armed.symm.trans armed)
  · refine .inr ?_
    unfold mayTakeSetpoint passThroughMayTakeSetpoint at passes
    dsimp only at passes
    split at passes
    · cases passes
    · rw [tick.config, same.hoverX, same.hoverY, same.hoverZ] at passes
      rw [segmentNear, tick.controller, tick.decided.mpcTrajectoryBuffer]
      exact passes

/-- What an update of the session leaves in its leaf. -/
theorem session_of_ticked {past : List FlightEvent} {start leaf : Custom1State}
    (inTime : opensInTime past runtime turn)
    (custom1 : runtime.flightState = .custom1)
    (follows : (updateConfig (flightMachine.event runtime turn)).followsSegments = true)
    (tracking : runtime.leaf = .custom1 start)
    (ticked : (tickedRuntime (flightMachine.event runtime turn)).leaf = .custom1 leaf)
    (reason : start.trackingArmed = true →
      hasTakenOver ⟨start.hoverX, start.hoverY, start.hoverZ⟩ past = true) :
    leaf.hoverX = start.hoverX ∧ leaf.hoverY = start.hoverY ∧ leaf.hoverZ = start.hoverZ ∧
      (leaf.trackingArmed = true →
        hasTakenOver ⟨start.hoverX, start.hoverY, start.hoverZ⟩
          (flightMachine.event runtime turn :: past) = true) := by
  have before : (flightMachine.event runtime turn).before.flightState = .custom1 := custom1
  simp only [hasTakenOver, before, decide_true, Bool.true_and, Bool.or_eq_true, Bool.and_eq_true]
  cases decides : decision (flightMachine.event runtime turn) with
  | none =>
      rw [(silent_of_no_decision custom1 follows decides).2, tracking] at ticked
      cases ticked
      exact ⟨rfl, rfl, rfl, fun armed => .inr (reason armed)⟩
  | some decided =>
      obtain ⟨scope, now⟩ := decided
      obtain ⟨after, tick⟩ := segmentTick_of_decision decides
      rw [tick.leaf] at ticked
      cases ticked
      obtain ⟨again, began, same⟩ := tick.began
      cases FlightLeaf.custom1.inj (tracking.symm.trans began)
      have kept := tick.decided.keepsSession
      refine ⟨kept.hoverX.trans same.hoverX, kept.hoverY.trans same.hoverY,
        kept.hoverZ.trans same.hoverZ, fun armed => ?_⟩
      by_cases open_ : start.trackingArmed = true
      · exact .inr (reason open_)
      · -- the gate was shut, so that this update opens it, and has an output
        have shut : scope.leaf.trackingArmed = false := by
          rw [same.armed]
          exact Bool.eq_false_of_not_eq_true open_
        have ready : effective scope now = true :=
          (kept.armed armed).resolve_left (by rw [shut]; decide)
        obtain ⟨lifted, -, -, passes⟩ := of_effective ready
        have able : (strategyEntered scope && outputDue scope && lawYields scope now) = true := by
          have early : opensEarly (flightMachine.event runtime turn) = false := inTime
          simpa [opensEarly, decides, shut, ready] using early
        refine .inl ⟨?_, (segmentNear_of_mayTakeSetpoint tick same passes).resolve_left open_⟩
        rw [segmentOutput, decides]
        exact trackingOutput_of_lawYields ready able

theorem remembersSession_turn {past : List FlightEvent} (remembers : RemembersSession past runtime)
    (inTime : opensInTime past runtime turn) :
    RemembersSession (flightMachine.event runtime turn :: past) (runtime.turn turn).1 := by
  intro pose began leaf tracking
  rw [sessionPose] at began
  split at began
  next custom1 =>
    have custom1 : runtime.flightState = .custom1 := custom1
    split at began
    next follows =>
      obtain ⟨start, before⟩ : ∃ start, runtime.leaf = .custom1 start := by
        cases before : runtime.leaf with
        | custom1 start => exact ⟨start, rfl⟩
        | _ =>
            rw [FlightRuntime.flightState, before] at custom1
            cases custom1
      obtain ⟨rfl, reason⟩ := remembers pose began start before
      obtain ⟨x, y, z, armed⟩ := session_of_ticked inTime custom1 follows before
        (tickedRuntime_leaf custom1 tracking) reason
      refine ⟨?_, armed⟩
      rw [x, y, z]
    · cases began
  next elsewhere =>
    have elsewhere : runtime.flightState ≠ .custom1 := elsewhere
    split at began
    · obtain ⟨x, y, z, shut⟩ := session_of_entered elsewhere tracking
      rw [x, y, z, shut]
      exact ⟨(Option.some.inj began).symm, fun armed => by cases armed⟩
    · cases began

/-- An output of a session follows a segment near its pose, unless one near it came before. -/
theorem near_of_sessionOutput {past : List FlightEvent} {pose : Vec3}
    (remembers : RemembersSession past runtime)
    (output : SessionOutput past (flightMachine.event runtime turn) pose) :
    hasTakenOver pose past = true ∨
      segmentNear (flightMachine.event runtime turn) pose = true := by
  have answered := output.output
  cases decides : decision (flightMachine.event runtime turn) with
  | none => simp [segmentOutput, decides] at answered
  | some decided =>
      obtain ⟨scope, now⟩ := decided
      obtain ⟨after, tick⟩ := segmentTick_of_decision decides
      obtain ⟨start, began, same⟩ := tick.began
      obtain ⟨rfl, reason⟩ := remembers pose output.session start began
      have answered : (trackingOutput scope now).isSome = true := by
        simpa [segmentOutput, decides] using answered
      obtain ⟨result, tracked⟩ := Option.isSome_iff_exists.mp answered
      obtain ⟨-, -, -, passes, -⟩ := of_trackingOutput tracked
      exact (segmentNear_of_mayTakeSetpoint tick same passes).imp_left reason

end Steps

/-- In every run whose updates open the gate in time, a session takes over near the pose that it
began at, and follows a segment away from it only afterwards. -/
theorem take_over_gate [Libm] [Xgc2Math] {past : List FlightEvent} {runtime : FlightRuntime}
    (run : flightMachine.Run FlightRuntime.Started opensInTime past runtime) :
    ∀ event older, event :: older <:+ past → TakesOverNear older event := by
  refine run.invariant_history RemembersSession ?_ ?_
  · intro runtime _ pose began
    cases began
  · intro past runtime turn _ remembers inTime
    refine ⟨remembersSession_turn remembers inTime, fun pose output untracked => ?_,
      fun pose output away => ?_⟩
    · refine (near_of_sessionOutput remembers output).resolve_left fun taken => ?_
      exact absurd (untracked.symm.trans (hasTracked_of_hasTakenOver taken)) (by decide)
    · refine (near_of_sessionOutput remembers output).resolve_right fun near => ?_
      exact absurd (away.symm.trans near) (by decide)

section Recede

open ExactMath

/-- The velocity of the autopilot has not come in yet. -/
def blindSensor : SensorData := { armedSensor with localVelocityStats := {} }

/-- A segment at the origin opens the gate while the sliding-mode strategy waits for sensors. -/
def openedTurns : List Turn :=
  hoverTurns ++
    [{ inputs := [.command .track], sensor := blindSensor, now := ⟨7, 0⟩ },
      { inputs := [.plannerSetpoint (plannedAt 8 8)], sensor := blindSensor, now := ⟨8, 0⟩ }]

/-- A segment at some distance along `x`, with all sensors. -/
def recedingTurn (second : UInt32) (distance : Double) : Turn :=
  { inputs := [.plannerSetpoint
      { plannedAt second second with position := ⟨distance, 0, 0⟩ }]
    sensor := armedSensor
    now := ⟨second, 0⟩ }

/-- The first output of the session follows a segment five metres away. -/
theorem take_over_receded :
    let opened := flightMachine.replay [] (FlightRuntime.initial.setConfig aheadConfig) openedTurns
    let event := flightMachine.event opened.2 (recedingTurn 9 5)
    flightMachine.Run FlightRuntime.Started anyEnvironment (event :: opened.1) event.after ∧
      SessionOutput opened.1 event {} ∧ hasTracked opened.1 = false ∧
      segmentNear event {} = false := by
  intro opened event
  have start : flightMachine.Run FlightRuntime.Started anyEnvironment []
      (FlightRuntime.initial.setConfig aheadConfig) := .start ⟨aheadConfig, rfl⟩
  have run := (start.replay openedTurns (by decide +kernel)).extend (recedingTurn 9 5) trivial
  refine ⟨run, ⟨?_, ?_, ?_, ?_⟩, ?_, ?_⟩ <;> decide +kernel

/-- The first output follows a segment at the tolerance, and the second one five metres away. -/
theorem take_over_near :
    let tracked := flightMachine.replay [] (FlightRuntime.initial.setConfig aheadConfig)
      trackedTurns
    let first := flightMachine.event tracked.2 (recedingTurn 9 1)
    let second := flightMachine.event first.after (recedingTurn 10 5)
    (SessionOutput tracked.1 first {} ∧ segmentNear first {} = true) ∧
      SessionOutput (first :: tracked.1) second {} ∧ segmentNear second {} = false ∧
        hasTakenOver {} (first :: tracked.1) = true := by
  intro tracked first second
  have start : flightMachine.Run FlightRuntime.Started opensInTime []
      (FlightRuntime.initial.setConfig aheadConfig) := .start ⟨aheadConfig, rfl⟩
  have run := ((start.replay trackedTurns (by decide +kernel)).extend (recedingTurn 9 1)
    (by decide +kernel)).extend (recedingTurn 10 5) (by decide +kernel)
  have takesOver := take_over_gate run
  have output : SessionOutput tracked.1 first {} := by
    refine ⟨?_, ?_, ?_, ?_⟩ <;> decide +kernel
  have recedes : SessionOutput (first :: tracked.1) second {} := by
    refine ⟨?_, ?_, ?_, ?_⟩ <;> decide +kernel
  have away : segmentNear second {} = false := by decide +kernel
  exact ⟨⟨output, (takesOver first tracked.1 (List.suffix_cons _ _)).first {} output
    (by decide +kernel)⟩, recedes, away,
    (takesOver second (first :: tracked.1) List.suffix_rfl).later {} recedes away⟩

end Recede

end MultirotorController
