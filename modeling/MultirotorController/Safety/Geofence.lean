import MultirotorController.Control.ExactMath
import MultirotorController.Safety.Environment

/-!
# The geofence in flight

The monitor reports the crossing of the bounds and latches on which side the
latest pose was. A report that falls in SelfCheck or Landing is dropped, Ready
does not look at the latch when it takes off, and a pose that cannot be compared
counts as inside. Runs that avoid these two openings keep the fence: in flight
the latest accepted pose is inside.
-/

namespace MultirotorController

open DroneController

/-- In the closed box; a NaN coordinate is not. -/
def WorldControlBounds.inside (bounds : WorldControlBounds) (x y z : Double) : Bool :=
  bounds.xMin ≤ x && x ≤ bounds.xMax && bounds.yMin ≤ y && y ≤ bounds.yMax &&
    bounds.zMin ≤ z && z ≤ bounds.zMax

theorem WorldControlBounds.not_outside_of_inside {bounds : WorldControlBounds} {x y z : Double}
    (inside : bounds.inside x y z = true) : bounds.outside x y z = false := by
  simp only [WorldControlBounds.inside, Bool.and_eq_true, decide_eq_true_eq] at inside
  obtain ⟨⟨⟨⟨⟨left, right⟩, near⟩, far⟩, bottom⟩, top⟩ := inside
  simp [WorldControlBounds.outside, Double.not_lt_of_le left, Double.not_lt_of_le right,
    Double.not_lt_of_le near, Double.not_lt_of_le far, Double.not_lt_of_le bottom,
    Double.not_lt_of_le top]

section Law

variable [Xgc2Math] (bounds : WorldControlBounds)

def poseInside (controller : DroneController) : Bool :=
  bounds.inside controller.worldX controller.worldY controller.worldZ

def poseOutside (controller : DroneController) : Bool :=
  bounds.outside controller.worldX controller.worldY controller.worldZ

/-- The newest pose that a run has accepted, in the update that accepted it. -/
def latestPose (past : List FlightEvent) : Option DroneController :=
  (past.find? (·.after.controller.isWorldPoseNew)).map (·.after.controller)

def latestPoseInside (past : List FlightEvent) : Bool := (latestPose past).all (poseInside bounds)

def latestPoseOutside (past : List FlightEvent) : Bool :=
  (latestPose past).any (poseOutside bounds)

/-- The geofence law of one update. -/
structure FenceKept (past : List FlightEvent) (event : FlightEvent) : Prop where
  freshPose : event.after.controller.isWorldPoseNew →
    poseInside bounds event.after.controller = false → event.after.flightState.isFlying = false
  entry : event.after.flightState.isFlying →
    event.after.flightState ≠ event.before.flightState → latestPoseInside bounds (event :: past)

variable [Libm]

/-- Ready takes off in this turn: the command is there, and nothing that Ready looks at
speaks against it. -/
def FlightRuntime.admitsTakeoff (runtime : FlightRuntime) (turn : Turn) : Bool :=
  let prepared := runtime.prepare turn
  let commands := prepared.pendingCommands.take 64
  let monitored := runtime.monitored turn
  runtime.flightState = .ready && commands.contains .takeoff && !commands.contains .land &&
    !prepared.controller.isAirborne && monitored.leaf.positionDistance.available &&
    !monitored.leaf.positionDistance.exceeded && !monitored.controller.signals.any (·.isSafety)

/-- The two openings are avoided: in flight a new pose can be compared with the bounds, and
a takeoff is admitted only with the latest pose inside. -/
def fenceHeeded : FlightRestriction := fun past runtime turn =>
  let controller := (runtime.prepare turn).controller
  (runtime.flightState.isFlying → controller.isWorldPoseNew →
    poseInside bounds controller ∨ poseOutside bounds controller) ∧
  (runtime.admitsTakeoff turn →
    (if controller.isWorldPoseNew then poseInside bounds controller
      else latestPoseInside bounds past) = true)

instance (past : List FlightEvent) (runtime : FlightRuntime) (turn : Turn) :
    Decidable (fenceHeeded bounds past runtime turn) := inferInstanceAs (Decidable (_ ∧ _))

/-- The latch knows the side of the latest pose, and in flight that is the inside unless a
report is still waiting. -/
structure Fenced (past : List FlightEvent) (runtime : FlightRuntime) : Prop where
  latch : runtime.health.safetyState.geofenceViolated = latestPoseOutside bounds past
  flight : runtime.flightState.isFlying →
    (∃ signal ∈ runtime.pending, signal.isSafety) ∨ latestPoseInside bounds past

end Law

section History

variable [Xgc2Math] {bounds : WorldControlBounds} {past : List FlightEvent} {event : FlightEvent}

theorem latestPoseInside_cons :
    latestPoseInside bounds (event :: past) =
      if event.after.controller.isWorldPoseNew then poseInside bounds event.after.controller
      else latestPoseInside bounds past := by
  unfold latestPoseInside latestPose
  cases fresh : event.after.controller.isWorldPoseNew <;> simp [fresh]

theorem latestPoseOutside_cons :
    latestPoseOutside bounds (event :: past) =
      if event.after.controller.isWorldPoseNew then poseOutside bounds event.after.controller
      else latestPoseOutside bounds past := by
  unfold latestPoseOutside latestPose
  cases fresh : event.after.controller.isWorldPoseNew <;> simp [fresh]

theorem latestPose_not_outside (inside : latestPoseInside bounds past) :
    latestPoseOutside bounds past = false := by
  unfold latestPoseInside at inside
  unfold latestPoseOutside
  cases newest : latestPose past with
  | none => rfl
  | some pose =>
      rw [newest] at inside
      exact WorldControlBounds.not_outside_of_inside inside

/-- In flight or on entering it, the law says that the latest pose is inside. -/
theorem fenceKept_of_inside (inside : event.after.flightState.isFlying →
    latestPoseInside bounds (event :: past)) : FenceKept bounds past event := by
  refine ⟨fun fresh away => ?_, fun flying _ => inside flying⟩
  by_contra flying
  have here := inside (eq_true_of_ne_false flying)
  rw [latestPoseInside_cons, if_pos fresh, away] at here
  cases here

end History

namespace FlightRuntime

variable [Libm] [Xgc2Math] {bounds : WorldControlBounds} {past : List FlightEvent}
variable {runtime : FlightRuntime} {turn : Turn}

variable (bounds runtime turn) in
/-- The pose of a turn is the pose of its snapshot. -/
theorem turn_pose :
    (runtime.turn turn).1.controller.isWorldPoseNew =
        (runtime.prepare turn).controller.isWorldPoseNew ∧
      poseInside bounds (runtime.turn turn).1.controller =
        poseInside bounds (runtime.prepare turn).controller ∧
      poseOutside bounds (runtime.turn turn).1.controller =
        poseOutside bounds (runtime.prepare turn).controller := by
  obtain ⟨config, sensorData, -⟩ := (runtime.prepare turn).update_circumstances turn.now
  change (runtime.turn turn).1.controller.config = _ at config
  change (runtime.turn turn).1.controller.sensorData = _ at sensorData
  simp only [isWorldPoseNew, poseInside, poseOutside, worldX, worldY, worldZ, backend, config,
    sensorData, and_self]

/-- The latch after a turn. -/
theorem turn_geofenceViolated (kept : keepsBounds bounds past runtime turn)
    (latch : runtime.health.safetyState.geofenceViolated = latestPoseOutside bounds past) :
    (runtime.turn turn).1.health.safetyState.geofenceViolated =
      latestPoseOutside bounds (flightMachine.event runtime turn :: past) := by
  obtain ⟨config, -⟩ := (runtime.prepare turn).update_circumstances turn.now
  change (runtime.turn turn).1.controller.config = _ at config
  have kept : (runtime.turn turn).1.controller.config.controlBounds = some bounds := by
    rw [config]
    exact kept
  rw [turn_safetyState, latestPoseOutside_cons]
  dsimp only [HealthMonitorState.nextSafety, HealthMonitorState.geofenceViolation]
  rw [kept, latch]
  rfl

/-- A calm turn in flight whose pose can be compared finds it inside. -/
theorem inside_of_calm (kept : keepsBounds bounds past runtime turn)
    (heeded : fenceHeeded bounds past runtime turn) (fenced : Fenced bounds past runtime)
    (flying : runtime.flightState.isFlying)
    (calm : ((runtime.prepare turn).ticked turn.now).Calm) :
    latestPoseInside bounds (flightMachine.event runtime turn :: past) := by
  have inside : latestPoseInside bounds past := by
    refine (fenced.flight flying).resolve_left ?_
    rintro ⟨signal, waits, safety⟩
    rw [not_safety_pending_of_calm calm waits] at safety
    cases safety
  obtain ⟨isNew, isInside, -⟩ := turn_pose bounds runtime turn
  rw [latestPoseInside_cons]
  change if (runtime.turn turn).1.controller.isWorldPoseNew then
    poseInside bounds (runtime.turn turn).1.controller else _
  rw [isNew, isInside]
  split
  next fresh =>
    refine (heeded.1 flying fresh).resolve_right fun outside => ?_
    have was := fenced.latch.trans (latestPose_not_outside inside)
    have unviolated := geofence_of_calm calm was fresh
    unfold HealthMonitorState.geofenceViolation at unviolated
    rw [kept] at unviolated
    exact nomatch unviolated.symm.trans outside
  next => exact inside

/-- A turn that takes off was admitted by everything that Ready looks at. -/
theorem admitsTakeoff_of_transition (ready : runtime.flightState = .ready) {target : FlightState}
    (flying : target.isFlying)
    (step : ((runtime.prepare turn).ticked turn.now).Transition .ready target) :
    runtime.admitsTakeoff turn := by
  have commands := (runtime.prepare turn).ticked_commands turn.now
  have health : ((runtime.prepare turn).ticked turn.now).health = (runtime.monitored turn).leaf :=
    (runtime.prepare turn).ticked_health turn.now
  have airborne : ((runtime.prepare turn).ticked turn.now).controller.isAirborne =
      (runtime.prepare turn).controller.isAirborne :=
    ((runtime.prepare turn).ticked_emits turn.now).isAirborne
  cases step with
  | takenOff calm onwards requested available near grounded =>
      have quiet : (runtime.monitored turn).controller.signals.any (·.isSafety) = false := by
        simpa using fun signal reported => not_safety_of_calm calm reported
      rw [airborne] at grounded
      rw [health] at available near
      rw [hasCommand, commands] at onwards requested
      simp only [admitsTakeoff, ready, onwards, requested, available, near, quiet]
      simpa using grounded
  | preempted => cases flying
  | unready => cases flying
  | disarmed _ _ requesting => simp at requesting
  | advanced _ _ taking => cases taking

/-- A completed turn that ends in flight leaves the latest pose inside. -/
theorem inside_of_turn (kept : keepsBounds bounds past runtime turn)
    (heeded : fenceHeeded bounds past runtime turn) (fenced : Fenced bounds past runtime)
    {again : Bool} (completed : (runtime.turn turn).2 = .ok again)
    (flying : (runtime.turn turn).1.flightState.isFlying) :
    latestPoseInside bounds (flightMachine.event runtime turn :: past) := by
  have watched := FlightState.isWatched_of_isFlying flying
  rcases watched_of_turn completed watched with began | ⟨ready, -⟩
  · obtain ⟨calm, -⟩ := calm_of_turn completed began (.inl watched)
    cases airborne : runtime.flightState.isFlying with
    | true => exact inside_of_calm kept heeded fenced airborne calm
    | false =>
        have source : runtime.flightState = .ready := by
          simpa [FlightState.isWatched, airborne] using began
        have admitted : runtime.admitsTakeoff turn := by
          rcases transition_of_turn completed with ⟨-, stays⟩ | step
          · rw [stays, airborne] at flying
            cases flying
          · exact admitsTakeoff_of_transition source flying (source ▸ step)
        obtain ⟨isNew, isInside, -⟩ := turn_pose bounds runtime turn
        rw [latestPoseInside_cons]
        change if (runtime.turn turn).1.controller.isWorldPoseNew then
          poseInside bounds (runtime.turn turn).1.controller else _
        rw [isNew, isInside]
        exact heeded.2 admitted
  · rw [ready] at flying
    cases flying

theorem fenced_turn (kept : keepsBounds bounds past runtime turn)
    (heeded : fenceHeeded bounds past runtime turn) (fenced : Fenced bounds past runtime) :
    Fenced bounds (flightMachine.event runtime turn :: past) (runtime.turn turn).1 := by
  refine ⟨turn_geofenceViolated kept fenced.latch, fun flying => ?_⟩
  rcases runtime.turn_cases turn with ⟨again, completed⟩ | ⟨custom1, -, calm | reported⟩
  · exact .inr (inside_of_turn kept heeded fenced completed flying)
  · exact .inr (inside_of_calm kept heeded fenced (by rw [custom1]; rfl) calm)
  · exact .inl reported

theorem fenced_started (started : runtime.Started) : Fenced bounds [] runtime := by
  obtain ⟨config, rfl⟩ := started
  exact ⟨rfl, nofun⟩

end FlightRuntime

section Box

open ExactMath

/-- A geofence of two metres around the origin. -/
def boxBounds : WorldControlBounds := ⟨-1, 1, -1, 1, 0, 2⟩

def boxConfig : ControllerConfig :=
  { safety := { worldBoundary := some { controlBounds := some boxBounds } } }

/-- Ready to fly at a distance from the origin. -/
def displacedSensor (x : Double) : SensorData := { readySensor with localX := x, vrpnX := x }

end Box

end MultirotorController
