import MultirotorController.Generator.PayloadRoundTrip
import MultirotorController.Safety.ModuleTargets

/-!
# Requested references

On entering Custom1 the controller asks the generator for a reference by writing a
list of numbers. The generator reads the message back as it was made, and builds
from the numbers the curve that the configuration describes: it begins at the
estimate of the turn, and no number falls back to a default of the generator.
-/

namespace MultirotorController

open Reference Trajectory

section Made

variable [Libm] [Xgc2Math]

open ReferenceActivation Procedure

/-- The curve that a configuration describes, for a vehicle with this estimate. -/
def ReferenceParams.curve (params : ReferenceParams) (sensor : SensorData) : Curve :=
  let start := startPosition sensor params
  let originYaw := Generator.yawFromQuaternion (unitOrientation sensor)
  let cruise := Double.max 0 (params.duration - Double.max 0 params.entryDuration)
  if UInt16.ofInt params.analyticType = analyticTorusKnot then
    let torus := { Xgc2Math.defaults.torusKnot with
      flags := 0
      duration := params.duration
      origin := ⟨start.x, start.y, start.z - 4 * params.torusScale.abs⟩
      omega := params.torusOmega
      scale := params.torusScale.abs
      yaw := originYaw }
    if 0 < params.entryDuration then
      .torusKnotEntry { Xgc2Math.defaults.torusKnotEntry with
        flags := 0
        duration := params.duration
        start, originYaw
        entryDuration := params.entryDuration
        torus := { torus with duration := cruise } }
    else .torusKnot torus
  else
    .circleEntry { Xgc2Math.defaults.circleEntry with
      flags := 0
      duration := params.duration
      origin := start
      originYaw
      entryDuration := params.entryDuration
      circle := { Xgc2Math.defaults.circleEntry.circle with
        flags := 0
        duration := cruise
        centerX := start.x
        centerY := start.y
        radius := params.radius
        lineSpeed := params.lineSpeed
        height := params.height
        zAmplitude := params.zAmplitude
        zFrequency := params.zFrequency } }

/-- The numbers of a configuration that has been read. -/
structure ReferenceParams.Sanitized (params : ReferenceParams) : Prop where
  duration : params.duration.isFinite = true ∧ 0 < params.duration
  radius : params.radius.isFinite = true
  lineSpeed : params.lineSpeed.isFinite = true
  height : params.height.isFinite = true
  zAmplitude : params.zAmplitude.isFinite = true
  zFrequency : params.zFrequency.isFinite = true
  entryDuration : params.entryDuration.isFinite = true
  torusOmega : params.torusOmega.isFinite = true
  torusScale : params.torusScale.isFinite = true

omit [Libm] [Xgc2Math] in
theorem ReferenceParams.sanitized_sanitize (raw : ReferenceParams) : raw.sanitize.Sanitized := by
  have above (value default_ : Double) (sound : default_.isFinite = true ∧ 0 < default_) :
      (value.above 0 default_).isFinite = true ∧ 0 < value.above 0 default_ :=
    Double.above_spec sound rfl
  have nonnegative (value default_ : Double) (sound : default_.isFinite = true ∧ ¬default_ < 0) :
      (value.nonnegativeOr default_).isFinite = true := (Double.nonnegativeOr_spec sound).1
  constructor
  · exact above _ _ (by decide +kernel)
  · exact (above _ _ (by decide +kernel)).1
  · exact nonnegative _ _ (by decide +kernel)
  · exact (above _ _ (by decide +kernel)).1
  · exact nonnegative _ _ (by decide +kernel)
  · exact (above _ _ (by decide +kernel)).1
  · exact nonnegative _ _ (by decide +kernel)
  · exact (above _ _ (by decide +kernel)).1
  · exact (above _ _ (by decide +kernel)).1

/-- What a request tells of the estimate and the configuration, whatever its numbers and times. -/
structure Describes (params : ReferenceParams) (sensor : SensorData)
    (request : AnalyticReference) : Prop where
  curve : (request.analyticType, request.params) = curveParams sensor params
  flags : request.flags = 0
  duration : request.duration = params.duration
  origin : request.origin = ⟨startPosition sensor params, unitOrientation sensor⟩

omit [Xgc2Math] in
theorem describes_make {stamp : Double} {sensor : SensorData} {params : ReferenceParams}
    {before after : ReferenceActivation} {request : AnalyticReference}
    (made : (make stamp sensor params).run before = .ok request after) :
    Describes params sensor request := by
  have specified : wp (make stamp sensor params) (fun request _ => Describes params sensor request)
      (fun _ _ => True) before := by
    unfold make
    apply wp_rethrow_bind
    · intro header _
      rw [wp_bind, wp_modify, wp_bind, wp_get]
      apply wp_rethrow_bind
      · intro startTime _
        exact ⟨rfl, rfl, rfl, rfl⟩
      · exact fun _ _ => trivial
    · exact fun _ _ => trivial
  have described := returned_of_wp specified made
  exact described

omit [Libm] [Xgc2Math] in
theorem isFinite_finiteOr {value fallback : Double} (finite : fallback.isFinite = true) :
    (finiteOr value fallback).isFinite = true := by
  unfold finiteOr
  split
  next number => exact number
  · exact finite

omit [Libm] [Xgc2Math] in
/-- A parameter that is a number does not fall back. -/
theorem paramAt_of_getElem {msg : AnalyticReference} {index : Nat} {value : Double}
    (there : msg.params[index]? = some value) (finite : value.isFinite = true)
    (fallback : Double) : msg.paramAt index fallback = value := by
  unfold AnalyticReference.paramAt
  rw [there]
  exact if_pos finite

/-- A message of the torus knot's type is read as one. -/
theorem analyticCurve_torusKnot {msg : AnalyticReference}
    (type : msg.analyticType = analyticTorusKnot) (positive : 0 < msg.duration) :
    Generator.analyticCurve msg = ActiveTrajectoryCache.torusKnotCurve msg true msg.duration
      (Generator.yawFromQuaternion msg.origin.orientation) := by
  unfold Generator.analyticCurve
  simp [type, positive, analyticTorusKnot, analyticHold, analyticCircle, analyticHeightCircle,
    analyticFigureEight, analyticLine, analyticLemniscate, analyticHelixYz, analyticHelixXy]

/-- A message of the type of a circle with entry is read as one. -/
theorem analyticCurve_circleEntry {msg : AnalyticReference}
    (type : msg.analyticType = analyticCircleEntry) (positive : 0 < msg.duration) :
    Generator.analyticCurve msg = .circleEntry { Xgc2Math.defaults.circleEntry with
      flags := msg.flags
      duration := msg.duration
      origin := msg.origin.position
      originYaw := Generator.yawFromQuaternion msg.origin.orientation
      entryDuration := msg.paramAt 5 5
      circle := { Xgc2Math.defaults.circleEntry.circle with
        flags := msg.flags
        duration := Double.max 0 (msg.duration - Double.max 0 (msg.paramAt 5 5))
        centerX := msg.paramAt 6 0
        centerY := msg.paramAt 7 0
        radius := msg.paramAt 0 3
        lineSpeed := msg.paramAt 1 3
        height := msg.paramAt 2 3
        zAmplitude := msg.paramAt 3 1
        zFrequency := msg.paramAt 4 0.5 } } := by
  unfold Generator.analyticCurve
  simp [type, positive, analyticTorusKnot, analyticHold, analyticCircle, analyticHeightCircle,
    analyticFigureEight, analyticLine, analyticLemniscate, analyticHelixYz, analyticHelixXy,
    analyticCircleEntry]

/-- The generator reads the configured curve out of a request. -/
theorem analyticCurve_of_describes {params : ReferenceParams} {sensor : SensorData}
    {request : AnalyticReference} (sanitized : params.Sanitized)
    (describes : Describes params sensor request) :
    Generator.analyticCurve request = params.curve sensor := by
  obtain ⟨curve, flags, duration, origin⟩ := describes
  have positive : 0 < request.duration := duration ▸ sanitized.duration.2
  have x : (startPosition sensor params).x.isFinite = true := isFinite_finiteOr rfl
  have y : (startPosition sensor params).y.isFinite = true := isFinite_finiteOr rfl
  have z : (startPosition sensor params).z.isFinite = true := isFinite_finiteOr sanitized.height
  unfold curveParams at curve
  dsimp only at curve
  unfold ReferenceParams.curve
  dsimp only
  split at curve
  next torus =>
    have type : request.analyticType = analyticTorusKnot := congrArg Prod.fst curve
    have numbers : request.params = [params.torusOmega, params.torusScale.abs,
      params.entryDuration, (startPosition sensor params).x, (startPosition sensor params).y,
      (startPosition sensor params).z - 4 * params.torusScale.abs] := congrArg Prod.snd curve
    have scale : params.torusScale.abs.isFinite = true := by
      have number := sanitized.torusScale
      generalize params.torusScale = value at number
      cases value with
      | fin _ => rfl
      | _ => cases number
    have depth : ((startPosition sensor params).z - 4 * params.torusScale.abs).isFinite = true := by
      rw [Double.isFinite_sub, Double.isFinite_mul]
      exact ⟨z, rfl, scale⟩
    have number (index : Nat) (fallback : Double) {value : Double}
        (finite : value.isFinite = true) (there : request.params[index]? = some value) :
        request.paramAt index fallback = value := paramAt_of_getElem there finite fallback
    rw [if_pos torus, analyticCurve_torusKnot type positive]
    unfold ActiveTrajectoryCache.torusKnotCurve
    have length : 6 ≤ request.params.length := by
      rw [numbers]
      exact le_rfl
    dsimp only
    rw [if_pos length, number 0 0.3 sanitized.torusOmega (by rw [numbers]; rfl),
      number 1 0.3 scale (by rw [numbers]; rfl),
      number 2 0 sanitized.entryDuration (by rw [numbers]; rfl),
      number 3 _ x (by rw [numbers]; rfl), number 4 _ y (by rw [numbers]; rfl),
      number 5 _ depth (by rw [numbers]; rfl), flags, duration, origin]
    rfl
  next circle =>
    have type : request.analyticType = analyticCircleEntry := congrArg Prod.fst curve
    have numbers : request.params = [params.radius, params.lineSpeed, params.height,
      params.zAmplitude, params.zFrequency, params.entryDuration, finiteOr sensor.x 0,
      finiteOr sensor.y 0] := congrArg Prod.snd curve
    have number (index : Nat) (fallback : Double) {value : Double}
        (finite : value.isFinite = true) (there : request.params[index]? = some value) :
        request.paramAt index fallback = value := paramAt_of_getElem there finite fallback
    rw [if_neg circle, analyticCurve_circleEntry type positive,
      number 0 3 sanitized.radius (by rw [numbers]; rfl),
      number 1 3 sanitized.lineSpeed (by rw [numbers]; rfl),
      number 2 3 sanitized.height (by rw [numbers]; rfl),
      number 3 1 sanitized.zAmplitude (by rw [numbers]; rfl),
      number 4 0.5 sanitized.zFrequency (by rw [numbers]; rfl),
      number 5 5 sanitized.entryDuration (by rw [numbers]; rfl),
      number 6 0 x (by rw [numbers]; rfl), number 7 0 y (by rw [numbers]; rfl), flags, duration,
      origin]

end Made

namespace Module

section Requests

variable [Libm] [Xgc2Math] {readers : ConfigReaders} {past : List ModuleEvent}
variable {module : ControllerModule}

omit [Libm] [Xgc2Math] in
/-- The generator reads what the controller writes. -/
theorem toCore_of_analyticToPayload {request : AnalyticReference}
    {payload : Generator.AnalyticPayload} {frameId : String} (clean : '\x00' ∉ frameId.toList)
    (written : analyticToPayload request frameId = some payload) :
    payload.toCore = some { toAnalyticReference := request, seq := 0, frameId } := by
  have same : analyticToPayload request frameId = Generator.AnalyticReference.toPayload
      { toAnalyticReference := request, seq := 0, frameId } := rfl
  exact Generator.AnalyticReference.toCore_of_toPayload clean (same.symm.trans written)

/-- In every run of the module, a reference request that reaches the host is read back by the
generator as a reference in the map frame, and denotes the curve that the configuration in force
describes for the estimate of the turn. -/
theorem requested_reference_configured
    (run : (controllerMachine readers).Run ControllerModule.Constructed anyHost past module) :
    ∀ event older, event :: older <:+ past → ∀ payload,
      .refRequest payload ∈ event.output.written →
      (∃ raw : ReferenceParams, event.before.config.reference = raw.sanitize) →
      ∃ runtime message, event.after.runtime = some runtime ∧ payload.toCore = some message ∧
        message.frameId = "map" ∧
        Generator.analyticCurve message.toAnalyticReference =
          event.before.config.reference.curve runtime.runtime.controller.sensorData := by
  intro event older suffix payload written read
  obtain ⟨nmpcPast, turn, explained⟩ := explained_of_run run event older suffix
    (List.ne_nil_of_mem written)
  obtain ⟨_, _, _, -, -, -, -, shows⟩ := explained
  obtain ⟨now, context, effect, emitted, publishes, runtime, buffer, held, left⟩ :=
    effect_of_written shows written
  have sanitized : event.before.config.reference.Sanitized := by
    obtain ⟨raw, same⟩ := read
    rw [same]
    exact raw.sanitized_sanitize
  cases publishes with
  | referenceActivation timestamp made fits =>
      have described := analyticCurve_of_describes sanitized (describes_make made)
      refine ⟨runtime, _, held, toCore_of_analyticToPayload (by decide +kernel) fits, rfl, ?_⟩
      rw [left]
      exact described

end Requests

section Tracking

open ExactMath

/-- The torus knot of the defaults, from the origin. -/
def knotRequest : Generator.AnalyticPayload :=
  { header := { stampSec := 11, frameId := "map".toList }
    requestId := 1
    trajectoryId := 1
    revision := 1
    startSec := 11
    startNsec := 200000000
    analyticType := 9
    paramsLen := 6
    duration := 60
    originQ := { w := 1 }
    params := [0.3, 2, 5, 0, 0, -8] }

/-- The request of the step that enters Custom1. -/
theorem requested_reference_configured_tracking :
    ∃ event ∈ solverAnswered.1, ∃ runtime message,
      .refRequest knotRequest ∈ event.output.written ∧
        event.after.runtime = some runtime ∧ knotRequest.toCore = some message ∧
        message.frameId = "map" ∧
        Generator.analyticCurve message.toAnalyticReference =
          event.before.config.reference.curve runtime.runtime.controller.sensorData := by
  have start : (controllerMachine defaultReaders).Run ControllerModule.Constructed anyHost []
      beforeTracking := .start ⟨_, rfl⟩
  have run : (controllerMachine defaultReaders).Run ControllerModule.Constructed anyHost
      solverAnswered.1 solverAnswered.2 := start.replay trackingInputs
    (Machine.admits_of_forall _ (fun _ _ _ => trivial) _ _ _)
  have requested : ∃ event ∈ solverAnswered.1, .refRequest knotRequest ∈ event.output.written ∧
      event.before.config.reference = ({} : ReferenceParams).sanitize := by decide +kernel
  obtain ⟨event, member, written, reference⟩ := requested
  obtain ⟨newer, older, split⟩ := List.append_of_mem member
  obtain ⟨runtime, message, facts⟩ := requested_reference_configured run event older
    ⟨newer, split.symm⟩ knotRequest written ⟨_, reference⟩
  exact ⟨event, member, runtime, message, written, facts⟩

end Tracking

end Module

end MultirotorController
