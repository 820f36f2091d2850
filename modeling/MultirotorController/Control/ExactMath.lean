import MultirotorController.Control.Xgc2Math

/-!
# A library to evaluate with

Concrete functions for runs on fixed inputs. The elementary functions are exact at
the arguments such runs use: squares of rationals, and zero for the trigonometric
ones. The only curve that can be evaluated is the constant one, and the laws
return zero commands.
-/

namespace MultirotorController

namespace ExactMath

open Trajectory Control

/-- The root of a square, else the root rounded down to nine decimals. -/
def sqrt : Double → Double
  | .fin q =>
      if q < 0 then .nan
      else if q.num.natAbs.sqrt ^ 2 = q.num.natAbs ∧ q.den.sqrt ^ 2 = q.den then
        .fin (q.num.natAbs.sqrt / q.den.sqrt)
      else .fin ((q * 10 ^ 18).floor.natAbs.sqrt / 10 ^ 9)
  | .inf false => .inf false
  | _ => .nan

scoped instance : Libm where
  sqrt := sqrt
  hypot x y z := sqrt (x * x + y * y + z * z)
  sin x := x
  cos x := 1 - x * x / 2
  atan x := x
  atan2 y x := y / x

def hold : HoldCurveParameters3 := ⟨0, 60, {}, 0⟩
def circle : CircleCurveParameters3 := ⟨0, 60, 0, 0, 1, 1, 1, 0, 0⟩
def helix : HelixCurveParameters3 := ⟨0, 60, {}, 1, 1, 1⟩
def torusKnot : TorusKnotCurveParameters3 := ⟨0, 60, {}, 1, 1, 0⟩

scoped instance : Xgc2Math where
  flag := ⟨1, 2, 4, 8⟩
  defaults := {
    hold, circle
    circleEntry := ⟨0, 60, {}, 0, 5, circle⟩
    figureEight := ⟨0, 60, {}, 1, 1, 1⟩
    line := ⟨0, 60, {}, {}, {}, {}⟩
    lemniscate := ⟨0, 60, {}, 1, 1, 1⟩
    helixYz := helix
    helixXy := helix
    torusKnot
    torusKnotEntry := ⟨0, 60, {}, 0, 5, torusKnot⟩ }
  duration
    | .hold params => params.duration
    | _ => 0
  evaluate
    | .hold params, _ => some { position := params.position, yaw := params.yaw }
    | _, _ => none
  validate _ _ := 0
  setSamples samples := !samples.isEmpty
  map gravity _ flat := {
    position := flat.position, velocity := flat.velocity, specificThrust := gravity }
  DfbcGeometricController := Unit
  dfbcController := ()
  dfbcConfigure controller _ := controller
  dfbcReset controller := controller
  dfbcCompute controller _ := (controller, { success := true, specificThrust := 9.8066 })
  computeSmcTracking _ _ _ _ _ _ := { success := true }
  sign x := if 0 < x then 1 else if x < 0 then -1 else 0
  signBeta x _ := x

scoped instance : TrajectoryValidator3 := ⟨{}, fun _ _ _ => 0, rfl⟩

end ExactMath

end MultirotorController
