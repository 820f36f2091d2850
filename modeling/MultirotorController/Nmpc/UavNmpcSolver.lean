import MultirotorController.Nmpc.NmpcMathUtils
import MultirotorController.Uav.StateMachine.Custom1

/-!
# The wrapper of the generated solver

The wrapper keeps the bounds, the weights, the guesses and the last solution, and
writes them to a capsule of the solver library before it asks for a solve. What a
solve returns depends on what the capsule was last given. Timing, and the parts of
the solution that only diagnostics read, are left out.
-/

namespace MultirotorController

open Control

structure Se3StateVector where
  position : Vec3 := {}
  velocity : Vec3 := {}
  /-- Stored with the real part first. -/
  attitude : Quaternion := {}
  bodyRate : Vec3 := {}
deriving DecidableEq, Repr

structure UavNmpcStateVector extends Se3StateVector where
  thrustActual : Double := 0
deriving DecidableEq, Repr

/-- A thrust with one value for each axis: an input, or a bound on inputs or path constraints. -/
structure Se3ControlVector where
  thrust : Double := 0
  axes : Vec3 := {}
deriving DecidableEq, Repr

def Quaternion.allFinite (q : Quaternion) : Bool :=
  q.x.isFinite && q.y.isFinite && q.z.isFinite && q.w.isFinite

def Se3StateVector.allFinite (x : Se3StateVector) : Bool :=
  x.position.allFinite && x.velocity.allFinite && x.attitude.allFinite && x.bodyRate.allFinite

def UavNmpcStateVector.allFinite (x : UavNmpcStateVector) : Bool :=
  x.toSe3StateVector.allFinite && x.thrustActual.isFinite

def Se3ControlVector.allFinite (u : Se3ControlVector) : Bool :=
  u.thrust.isFinite && u.axes.allFinite

structure RuntimeBounds where
  inputLower : Se3ControlVector
  inputUpper : Se3ControlVector
  pathLower : Se3ControlVector
  pathUpper : Se3ControlVector
deriving DecidableEq, Repr

/-- The parameters of one stage. -/
structure StageParameters where
  state : UavNmpcStateVector
  input : Se3ControlVector
  lastCommandedSpecificThrust : Double
  lastCommandedBodyRate : Vec3
  sqrtWeights : Vec3
deriving DecidableEq, Repr

/-- What a solve may depend on. The guesses and the solution share their memory. -/
structure Capsule where
  bounds : RuntimeBounds
  initialState : UavNmpcStateVector := {}
  parameters : List StageParameters := []
  x : List UavNmpcStateVector := []
  u : List Se3ControlVector := []
deriving DecidableEq, Repr

/-- The solver library. Its setters refuse or take a value whatever was set before. -/
class Acados where
  /-- Whether a capsule can be created. -/
  create : Bool
  /-- A capsule as it is created. -/
  created : Capsule
  setBounds : RuntimeBounds → Bool
  setInitialState : UavNmpcStateVector → Bool
  /-- The status, and the states and inputs of the solution. -/
  solve : Capsule → Int × List UavNmpcStateVector × List Se3ControlVector

/-- The packing functions of the control library. -/
class Se3Packing where
  packState : Se3State → Se3StateVector
  quaternionToVectorWxyz : Quaternion → Quaternion

structure UavNmpcSolver where
  capsule : Option Capsule := none
  initialized : Bool := false
  haveWarmStart : Bool := false
  solverStatus : Int := -1
  xGuess : List UavNmpcStateVector := List.replicate (UavNmpcSolver.horizonSteps + 1) {}
  uGuess : List Se3ControlVector := List.replicate UavNmpcSolver.horizonSteps {}
  bounds : RuntimeBounds := {
    inputLower := ⟨5.0, ⟨-3.4906585, -3.4906585, -0.8726646⟩⟩
    inputUpper := ⟨20.373, ⟨3.4906585, 3.4906585, 0.8726646⟩⟩
    pathLower := ⟨0.7071067811865476, ⟨-15.0, -15.0, -2.0⟩⟩
    pathUpper := ⟨1.0e3, ⟨15.0, 15.0, 2.0⟩⟩ }
  angularAccelerationSqrtWeights : Vec3 := ⟨0.2, 0.2, 1.5⟩
  optimalControl : Se3ControlVector := {}
deriving DecidableEq, Repr

namespace UavNmpcSolver

def kNonFiniteSolution : Int := -1001

def packBodyRateInputReference (reference : Se3Reference) : Se3ControlVector :=
  ⟨reference.bodyZSpecificForce, reference.state.bodyRate⟩

def packInternalState (state : Se3StateVector) (thrustActual : Double) : UavNmpcStateVector :=
  { state with thrustActual }

def clampInput (value low high : Double) : Double :=
  NmpcMath.stdClamp (if value.isFinite then value else 0) low high

variable (solver : UavNmpcSolver)

def clampInputGuess (input : Se3ControlVector) : Se3ControlVector :=
  let low := solver.bounds.inputLower
  let high := solver.bounds.inputUpper
  ⟨clampInput input.thrust low.thrust high.thrust,
    ⟨clampInput input.axes.x low.axes.x high.axes.x,
      clampInput input.axes.y low.axes.y high.axes.y,
      clampInput input.axes.z low.axes.z high.axes.z⟩⟩

def resetWarmStart : UavNmpcSolver :=
  { solver with
    haveWarmStart := false
    xGuess := List.replicate (horizonSteps + 1) {
      attitude := { w := 1 }
      thrustActual := 9.8066 }
    uGuess := List.replicate horizonSteps (solver.clampInputGuess { thrust := 9.8066 }) }

/-- Weights that are not positive numbers are refused and change nothing. -/
def configureAngularAccelerationWeights [Libm] (weights : Vec3) : UavNmpcSolver × Bool :=
  if !weights.allFinite || decide (weights.x ≤ 0) || decide (weights.y ≤ 0) ||
      decide (weights.z ≤ 0) then (solver, false)
  else
    (resetWarmStart { solver with
      angularAccelerationSqrtWeights :=
        ⟨Libm.sqrt weights.x, Libm.sqrt weights.y, Libm.sqrt weights.z⟩ }, true)

/-- Changes what the capsule holds, if there is one. -/
def withCapsule (change : Capsule → Capsule) : UavNmpcSolver :=
  { solver with capsule := solver.capsule.map change }

variable [Acados]

/-- The bounds are written to every stage. -/
def applyRuntimeBounds : UavNmpcSolver × Bool :=
  match solver.capsule with
  | none => (solver, false)
  | some capsule =>
      ({ solver with capsule := some { capsule with bounds := solver.bounds } },
        Acados.setBounds solver.bounds)

def cleanup : UavNmpcSolver := { solver with capsule := none, initialized := false }

/-- Creates the capsule unless there is one. -/
def initializeSolver : UavNmpcSolver × Bool :=
  if solver.initialized then (solver, true)
  else if !Acados.create then (solver.cleanup, false)
  else
    let solver := { solver with capsule := some Acados.created, initialized := true }
    let (solver, applied) := solver.applyRuntimeBounds
    if !applied then (solver.cleanup, false) else (solver.resetWarmStart, true)

/-- Bounds that are no interval are refused and change nothing. -/
def configureInputBounds (specificThrustMin specificThrustMax maxRollPitchBodyRate maxYawBodyRate
    maxRollPitchAngularAcceleration maxYawAngularAcceleration : Double) : UavNmpcSolver × Bool :=
  if !specificThrustMin.isFinite || !specificThrustMax.isFinite ||
      decide (specificThrustMin < 0) || decide (specificThrustMax ≤ specificThrustMin) then
    (solver, false)
  else if !maxRollPitchBodyRate.isFinite || decide (maxRollPitchBodyRate ≤ 0) ||
      !maxYawBodyRate.isFinite || decide (maxYawBodyRate ≤ 0) then (solver, false)
  else if !maxRollPitchAngularAcceleration.isFinite ||
      decide (maxRollPitchAngularAcceleration ≤ 0) ||
      !maxYawAngularAcceleration.isFinite || decide (maxYawAngularAcceleration ≤ 0) then
    (solver, false)
  else
    -- The tilt constraint, the first of the path, keeps its bounds.
    let solver := { solver with
      bounds := {
        inputLower := ⟨specificThrustMin,
          ⟨-maxRollPitchBodyRate, -maxRollPitchBodyRate, -maxYawBodyRate⟩⟩
        inputUpper := ⟨specificThrustMax,
          ⟨maxRollPitchBodyRate, maxRollPitchBodyRate, maxYawBodyRate⟩⟩
        pathLower := { solver.bounds.pathLower with
          axes := ⟨-maxRollPitchAngularAcceleration, -maxRollPitchAngularAcceleration,
            -maxYawAngularAcceleration⟩ }
        pathUpper := { solver.bounds.pathUpper with
          axes := ⟨maxRollPitchAngularAcceleration, maxRollPitchAngularAcceleration,
            maxYawAngularAcceleration⟩ } } }
    if solver.capsule.isSome then solver.applyRuntimeBounds else (solver, true)

variable [Se3Packing]

omit [Acados] in
def packInternalReference (reference : Se3Reference) : UavNmpcStateVector :=
  packInternalState (Se3Packing.packState reference.state) reference.bodyZSpecificForce

omit [Acados] in
def stageParameters (lastCommandedSpecificThrust : Double) (lastCommandedBodyRate : Vec3)
    (reference : Se3Reference) : StageParameters :=
  { state := packInternalReference reference
    input := packBodyRateInputReference reference
    lastCommandedSpecificThrust
    lastCommandedBodyRate
    sqrtWeights := solver.angularAccelerationSqrtWeights }

omit [Acados] in
/-- Without a warm start the guesses are the references; the first state is the measured one. -/
def setGuesses (x0 : UavNmpcStateVector) (references : List Se3Reference) : UavNmpcSolver :=
  let solver :=
    if solver.haveWarmStart then solver
    else { solver with
      xGuess := (references.take (horizonSteps + 1)).map packInternalReference
      uGuess := (references.take horizonSteps).map fun reference =>
        solver.clampInputGuess (packBodyRateInputReference reference) }
  let solver := { solver with xGuess := x0 :: solver.xGuess.tail }
  solver.withCapsule fun capsule => { capsule with x := solver.xGuess, u := solver.uGuess }

/-- Everything before the solve; false when the solve does not take place. The parameters of a
stage are always taken. -/
def load (x0 : Se3StateVector) (thrustActual lastCommandedSpecificThrust : Double)
    (lastCommandedBodyRate : Vec3) (references : List Se3Reference) : UavNmpcSolver × Bool :=
  let (solver, initialized) := solver.initializeSolver
  if !initialized then (solver, false)
  else if references.length ≠ horizonSteps + 2 then (solver, false)
  else if !x0.allFinite || !thrustActual.isFinite || !lastCommandedSpecificThrust.isFinite ||
      !lastCommandedBodyRate.allFinite then (solver, false)
  else
    let initialState := packInternalState x0 thrustActual
    let solver := solver.withCapsule fun capsule => { capsule with initialState }
    if !Acados.setInitialState initialState then (solver, false)
    else
      let parameters := (references.take (horizonSteps + 1)).map
        (solver.stageParameters lastCommandedSpecificThrust lastCommandedBodyRate)
      let solver := solver.withCapsule fun capsule => { capsule with parameters }
      (solver.setGuesses initialState references, true)

omit [Se3Packing] in
/-- The solve, and the check of what it returned; false unless the solution can be used. -/
def runSolver (capsule : Capsule) : UavNmpcSolver × Bool :=
  let (solverStatus, x, u) := Acados.solve capsule
  let solver := { solver with solverStatus, capsule := some { capsule with x, u } }
  if solverStatus ≠ 0 then (solver, false)
  else
    let solver := { solver with optimalControl := u.headD {} }
    if !x.all UavNmpcStateVector.allFinite || !u.all Se3ControlVector.allFinite then
      (resetWarmStart { solver with solverStatus := kNonFiniteSolution }, false)
    else ({ solver with xGuess := x, uGuess := u, haveWarmStart := true }, true)

def solve (x0 : Se3StateVector) (thrustActual lastCommandedSpecificThrust : Double)
    (lastCommandedBodyRate : Vec3) (references : List Se3Reference) : UavNmpcSolver × Bool :=
  let (solver, loaded) := solver.load x0 thrustActual lastCommandedSpecificThrust
    lastCommandedBodyRate references
  match loaded, solver.capsule with
  | true, some capsule => solver.runSolver capsule
  | _, _ => (solver, false)

end UavNmpcSolver

end MultirotorController
