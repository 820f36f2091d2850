import MultirotorController.Lib.Binary64
import MultirotorController.Nmpc.UavNmpcSolver

/-!
# The predictive tracking backend

The backend turns a request into a solver problem: it checks the inputs, locks the
thrust bounds to the first hover thrust of a session, limits the yaw of the
references, remembers its last command and maps the solution to an attitude-rate
target. The debug data and the texts of the log are left out; the throttle of the
log subtracts two times, so a computation may throw after its solve.
-/

namespace MultirotorController

open Control

structure UavNmpcTrackingBackend where
  config : ControllerConfig := {}
  solver : UavNmpcSolver := {}
  entered : Bool := false
  inputBoundsLocked : Bool := false
  initialHoverThrust : Double := 0
  effectiveSpecificThrustMin : Double := 0
  effectiveSpecificThrustMax : Double := 0
  thrustActualInitialized : Bool := false
  thrustActualEstimate : Double := 0
  lastCommandedSpecificThrustInitialized : Bool := false
  lastCommandedSpecificThrust : Double := 0
  lastCommandedBodyRateInitialized : Bool := false
  lastCommandedBodyRate : Vec3 := {}
  lastControlTime : Time := {}
  lastLogTime : Time := {}
deriving DecidableEq, Repr

namespace UavNmpcTrackingBackend

def kMaxYawReferenceErrorRad : Double := 0.01
def kThrustTimeConstant : Double := 0.15

section References

variable [Libm]

def yawFromStateVector (x0 : Se3StateVector) : Double :=
  let q := x0.attitude
  if !q.allFinite then 0 else quaternionToYaw q.x q.y q.z q.w

variable [Eigen]

def setReferenceYaw (reference : Se3Reference) (yaw : Double) : Se3Reference :=
  let bodyZ := reference.state.attitude.toRotationMatrix.col2
  { reference with
    state := { reference.state with
      attitude := (Eigen.quaternion (NmpcMath.rotationFromBodyZ bodyZ yaw)).normalize } }

/-- The rate of a reference leads to the next one; the last keeps the rate before it. -/
def referenceBodyRates (references : List Se3Reference) (stageDt : Double) : List Vec3 :=
  let rates := List.zipWith (fun current next : Se3Reference =>
    NmpcMath.bodyRateFromRotationDelta current.state.attitude next.state.attitude stageDt)
    references references.tail
  rates ++ [rates.getLastD {}]

def recomputeReferenceBodyRates (references : List Se3Reference) (stageDt : Double) :
    List Se3Reference :=
  let bodyRates :=
    if references.length < 2 || !stageDt.isFinite || decide (stageDt ≤ 1e-9) then
      references.map fun _ => {}
    else referenceBodyRates references stageDt
  List.zipWith (fun (reference : Se3Reference) bodyRate =>
    { reference with
      state := { reference.state with bodyRate }
      angularAcceleration := {} }) references bodyRates

def holdCurrentYaw (references : List Se3Reference) (yaw stageDt : Double) : List Se3Reference :=
  recomputeReferenceBodyRates (references.map (setReferenceYaw · yaw)) stageDt

def limitedYaw (reference : Se3Reference) (currentYaw : Double) : Double :=
  let q := reference.state.attitude
  let yawError := NmpcMath.normalizeAngle (quaternionToYaw q.x q.y q.z q.w - currentYaw)
  NmpcMath.normalizeAngle (currentYaw + Double.max (-kMaxYawReferenceErrorRad)
    (Double.min kMaxYawReferenceErrorRad yawError))

def limitYawAuthority (references : List Se3Reference) (currentYaw stageDt : Double) :
    List Se3Reference :=
  recomputeReferenceBodyRates
    (references.map fun reference => setReferenceYaw reference (limitedYaw reference currentYaw))
    stageDt

end References

variable (backend : UavNmpcTrackingBackend)

def configure (config : ControllerConfig) : UavNmpcTrackingBackend := { backend with config }

def exit : UavNmpcTrackingBackend := { backend with entered := false }

section Enter

variable [Libm] [Acados]

/-- A session begins without any memory of an earlier one. -/
def enter : UavNmpcTrackingBackend × Bool :=
  let (solver, weighted) := backend.solver.configureAngularAccelerationWeights
    backend.config.nmpc.angularAccelerationWeight
  if !weighted then ({ backend with solver, entered := false }, false)
  else
    let (solver, initialized) := solver.initializeSolver
    if !initialized then ({ backend with solver, entered := false }, false)
    else
      ({ config := backend.config
         solver := solver.resetWarmStart
         entered := true
         thrustActualEstimate := backend.config.nmpc.gravity
         lastCommandedSpecificThrust := backend.config.nmpc.gravity }, true)

end Enter

section Admission

variable [Libm] [Acados] [Se3Packing]

omit [Acados] in
def feedbackState (sensor : SensorData) : Option Se3StateVector :=
  match readControlFeedback sensor .nmpc with
  | none => none
  | some state =>
      let x0 : Se3StateVector := {
        position := state.position
        velocity := state.velocity
        attitude := Se3Packing.quaternionToVectorWxyz state.attitude
        bodyRate := state.bodyRate }
      if x0.allFinite then some x0 else none

omit [Libm] [Acados] [Se3Packing] in
def hoverThrustReady (sensor : SensorData) (now : Time) : Bool :=
  let params := backend.config.nmpc
  let age := now.toSec - sensor.hoverThrustEstimateStamp
  params.hoverThrustEnabled && sensor.hoverThrustEstimateAvailable &&
    sensor.hoverThrustEstimate.isFinite &&
    !decide (sensor.hoverThrustEstimate < params.minHoverThrust) &&
    !decide (params.maxHoverThrust < sensor.hoverThrustEstimate) &&
    sensor.hoverThrustEstimateStamp.isFinite &&
    age.isFinite && decide (-0.05 ≤ age) && decide (age ≤ params.hoverThrustTimeout)

omit [Libm] [Acados] [Se3Packing] in
/-- The thrust bounds for a hover thrust, if there are any. -/
def specificThrustBounds (hoverThrust : Double) : Option (Double × Double) :=
  let params := backend.config.nmpc
  if !hoverThrust.isFinite || decide (hoverThrust ≤ 1e-6) || decide (params.gravity ≤ 1e-6) then
    none
  else if decide (params.normalizedThrustMin < 0) ||
      decide (params.normalizedThrustMax ≤ params.normalizedThrustMin) ||
      decide (1 < params.normalizedThrustMax) then none
  else
    some (params.gravity * params.normalizedThrustMin / hoverThrust,
      params.gravity * params.normalizedThrustMax / hoverThrust)

omit [Libm] [Se3Packing] in
/-- The first hover thrust of a session fixes its thrust bounds. -/
def lockInputBounds (hoverThrust : Double) : UavNmpcTrackingBackend × Bool :=
  if backend.inputBoundsLocked then (backend, true)
  else
    match backend.specificThrustBounds hoverThrust with
    | none => (backend, false)
    | some (least, greatest) =>
        let params := backend.config.nmpc
        let (solver, configured) := backend.solver.configureInputBounds least greatest
          params.maxRollPitchBodyRate params.maxYawBodyRate params.maxRollPitchAngularAcceleration
          params.maxYawAngularAcceleration
        if !configured then
          ({ backend with
             solver
             initialHoverThrust := 0
             effectiveSpecificThrustMin := 0
             effectiveSpecificThrustMax := 0 }, false)
        else
          ({ backend with
             solver
             initialHoverThrust := hoverThrust
             effectiveSpecificThrustMin := least
             effectiveSpecificThrustMax := greatest
             inputBoundsLocked := true }, true)

/-- The measured state, if the request can be computed at all. -/
def accepts (sensor : SensorData) (references : List Se3Reference) (now : Time) :
    UavNmpcTrackingBackend × Option Se3StateVector :=
  if !backend.entered || decide (references.length < UavNmpcSolver.horizonSteps + 2) then
    (backend, none)
  else
    match feedbackState sensor with
    | none => (backend, none)
    | some x0 =>
        if !backend.hoverThrustReady sensor now then (backend, none)
        else
          let (backend, locked) := backend.lockInputBounds sensor.hoverThrustEstimate
          (backend, if locked then some x0 else none)

end Admission

section Memory

/-- The thrust of a reference, or gravity where it has none. -/
def referenceThrust (reference : Se3Reference) : Double :=
  let thrust := reference.bodyZSpecificForce
  if !thrust.isFinite || decide (thrust ≤ 0) then backend.config.nmpc.gravity else thrust

def ensureThrustActualEstimate (reference : Se3Reference) : UavNmpcTrackingBackend :=
  if backend.thrustActualInitialized && backend.thrustActualEstimate.isFinite then backend
  else { backend with
    thrustActualEstimate := backend.referenceThrust reference
    thrustActualInitialized := true }

/-- The estimate follows the commands, and may overflow on the way between two of them. -/
def updateThrustActualEstimate [LibmExp] (commanded : Double) : UavNmpcTrackingBackend :=
  if !commanded.isFinite then backend
  else if !backend.thrustActualInitialized || !backend.thrustActualEstimate.isFinite then
    { backend with thrustActualEstimate := commanded, thrustActualInitialized := true }
  else
    let dt := Double.max 0 backend.config.nmpc.controlPeriod
    let response := (1 - LibmExp.exp (-dt / kThrustTimeConstant).rounded).rounded
    let change := (response * (commanded - backend.thrustActualEstimate).rounded).rounded
    { backend with thrustActualEstimate := (backend.thrustActualEstimate + change).rounded }

def ensureLastCommandedSpecificThrust (reference : Se3Reference) : UavNmpcTrackingBackend :=
  if backend.lastCommandedSpecificThrustInitialized &&
      backend.lastCommandedSpecificThrust.isFinite then backend
  else { backend with
    lastCommandedSpecificThrust := backend.referenceThrust reference
    lastCommandedSpecificThrustInitialized := true }

def updateLastCommandedSpecificThrust (commanded : Double) : UavNmpcTrackingBackend :=
  if !commanded.isFinite then backend
  else { backend with
    lastCommandedSpecificThrust := commanded
    lastCommandedSpecificThrustInitialized := true }

def bodyRateCommand (bodyRate : Vec3) : Vec3 :=
  NmpcMath.bodyRateCommandFromPredictedBodyRate bodyRate
    backend.config.nmpc.maxRollPitchBodyRate backend.config.nmpc.maxYawBodyRate

def ensureLastCommandedBodyRate (reference : Se3Reference) : UavNmpcTrackingBackend :=
  if backend.lastCommandedBodyRateInitialized && backend.lastCommandedBodyRate.allFinite then
    backend
  else
    let bodyRate := reference.state.bodyRate
    { backend with
      lastCommandedBodyRate :=
        backend.bodyRateCommand (if bodyRate.allFinite then bodyRate else {})
      lastCommandedBodyRateInitialized := true }

def updateLastCommandedBodyRate (bodyRate : Vec3) : UavNmpcTrackingBackend :=
  if !bodyRate.allFinite then backend
  else { backend with
    lastCommandedBodyRate := bodyRate
    lastCommandedBodyRateInitialized := true }

def mapSpecificThrustToNormalized (specificThrust hoverThrust : Double) : Double :=
  let params := backend.config.nmpc
  if !specificThrust.isFinite || decide (params.gravity ≤ 1e-6) then 0
  else if !hoverThrust.isFinite || decide (hoverThrust < params.minHoverThrust) ||
      decide (params.maxHoverThrust < hoverThrust) then 0
  else NmpcMath.clamp (hoverThrust * (specificThrust / params.gravity)) params.normalizedThrustMin
    params.normalizedThrustMax

/-- What the next solve is told about the commands before it. -/
def ensureMemory (reference : Se3Reference) : UavNmpcTrackingBackend :=
  ((backend.ensureThrustActualEstimate reference).ensureLastCommandedSpecificThrust
    reference).ensureLastCommandedBodyRate reference

end Memory

section Compute

variable [Libm] [Eigen] [LibmExp] [Acados] [Se3Packing]

omit [LibmExp] [Acados] [Se3Packing] in
/-- The references of a request, with the yaw held or limited around the present one. -/
def trackingReferences (x0 : Se3StateVector) (references : List Se3Reference) :
    List Se3Reference :=
  let stageDt := backend.config.nmpc.predictionHorizon / .fin UavNmpcSolver.horizonSteps
  let currentYaw := yawFromStateVector x0
  if !backend.config.enableYawControl then holdCurrentYaw references currentYaw stageDt
  else limitYawAuthority references currentYaw stageDt

omit [Libm] [Eigen] [Acados] [Se3Packing] in
/-- The target of a solution, which is remembered as the last command. -/
def command (u : Se3ControlVector) : UavNmpcTrackingBackend × AttitudeRateTarget :=
  let bodyRate := backend.bodyRateCommand u.axes
  let target : AttitudeRateTarget := {
    bodyRateX := bodyRate.x
    bodyRateY := bodyRate.y
    bodyRateZ := bodyRate.z
    thrust := backend.mapSpecificThrustToNormalized u.thrust backend.initialHoverThrust }
  (((backend.updateLastCommandedSpecificThrust u.thrust).updateLastCommandedBodyRate
    bodyRate).updateThrustActualEstimate u.thrust, target)

omit [Libm] [Eigen] [LibmExp] [Acados] [Se3Packing] in
/-- Whether the timing log is due. -/
def logs (now : Time) : Except RuntimeError Bool :=
  let params := backend.config.nmpc
  if !params.enableTimingLog then .ok false
  else if backend.lastLogTime.isZero then .ok true
  else (now.sub backend.lastLogTime).map fun age => decide (params.logPeriod ≤ age.toSec)

omit [Libm] [Eigen] [LibmExp] [Acados] [Se3Packing] in
/-- The log after a solve; the computation returns unless the throttle throws. -/
def finish (now : Time) (target : Option AttitudeRateTarget) :
    UavNmpcTrackingBackend × Except RuntimeError (Option AttitudeRateTarget) :=
  match backend.logs now with
  | .error error => (backend, .error error)
  | .ok logs =>
      let backend := if logs then { backend with lastLogTime := now } else backend
      ({ backend with lastControlTime := now }, .ok target)

omit [LibmExp] [Acados] [Se3Packing] in
/-- What the solver is asked for an admitted request. -/
def question (x0 : Se3StateVector) (references : List Se3Reference) :
    UavNmpcTrackingBackend × List Se3Reference :=
  let references := backend.trackingReferences x0 references
  (backend.ensureMemory (references.headD {}), references)

/-- The solve, and the command of a usable solution. -/
def ask (x0 : Se3StateVector) (references : List Se3Reference) (now : Time) :
    UavNmpcTrackingBackend × Except RuntimeError (Option AttitudeRateTarget) :=
  let (solver, success) := backend.solver.solve x0 backend.thrustActualEstimate
    backend.lastCommandedSpecificThrust backend.lastCommandedBodyRate references
  let backend := { backend with solver }
  if success then
    let (backend, target) := backend.command solver.optimalControl
    backend.finish now (some target)
  else backend.finish now none

/-- The target, unless the request is not admitted or has no usable solution. -/
def compute (sensor : SensorData) (references : List Se3Reference) (now : Time) :
    UavNmpcTrackingBackend × Except RuntimeError (Option AttitudeRateTarget) :=
  match backend.accepts sensor references now with
  | (backend, none) => (backend, .ok none)
  | (backend, some x0) =>
      let (backend, references) := backend.question x0 references
      backend.ask x0 references now

end Compute

end UavNmpcTrackingBackend

end MultirotorController
