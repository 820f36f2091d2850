import MultirotorController.Control.TrajectoryLifter
import MultirotorController.Control.Xgc2Math

/-!
# Rotations of the predictive controller

Vectors, matrices by columns and the helpers that turn references. Singular values,
the angle and axis of a rotation and the quaternion of a rotation matrix come from
the linear-algebra library and are parameters, like the exponential function.
-/

namespace MultirotorController

class LibmExp where
  exp : Double → Double

structure Mat3 where
  col0 : Vec3
  col1 : Vec3
  col2 : Vec3
deriving DecidableEq, Repr

/-- The decompositions of the linear-algebra library. -/
class Eigen where
  /-- The matrices `U` and `V` of a singular value decomposition. -/
  jacobiSvd : Mat3 → Mat3 × Mat3
  /-- The angle and the axis of a rotation. -/
  angleAxis : Mat3 → Double × Vec3
  quaternion : Mat3 → Quaternion

namespace Vec3

def unitX : Vec3 := ⟨1, 0, 0⟩
def unitY : Vec3 := ⟨0, 1, 0⟩
def unitZ : Vec3 := ⟨0, 0, 1⟩

def scale (factor : Double) (v : Vec3) : Vec3 := ⟨factor * v.x, factor * v.y, factor * v.z⟩

def dividedBy (v : Vec3) (divisor : Double) : Vec3 := ⟨v.x / divisor, v.y / divisor, v.z / divisor⟩

def dot (v w : Vec3) : Double := v.x * w.x + v.y * w.y + v.z * w.z

def cross (v w : Vec3) : Vec3 :=
  ⟨v.y * w.z - v.z * w.y, v.z * w.x - v.x * w.z, v.x * w.y - v.y * w.x⟩

def norm [Libm] (v : Vec3) : Double := Libm.sqrt (v.dot v)

end Vec3

namespace Mat3

/-- The matrix applied to a vector. -/
def apply (m : Mat3) (v : Vec3) : Vec3 :=
  ⟨m.col0.x * v.x + m.col1.x * v.y + m.col2.x * v.z,
    m.col0.y * v.x + m.col1.y * v.y + m.col2.y * v.z,
    m.col0.z * v.x + m.col1.z * v.y + m.col2.z * v.z⟩

def mul (m n : Mat3) : Mat3 := ⟨m.apply n.col0, m.apply n.col1, m.apply n.col2⟩

def transpose (m : Mat3) : Mat3 :=
  ⟨⟨m.col0.x, m.col1.x, m.col2.x⟩, ⟨m.col0.y, m.col1.y, m.col2.y⟩,
    ⟨m.col0.z, m.col1.z, m.col2.z⟩⟩

def determinant (m : Mat3) : Double := m.col0.dot (m.col1.cross m.col2)

end Mat3

namespace Quaternion

def squaredNorm (q : Quaternion) : Double := q.x * q.x + q.y * q.y + q.z * q.z + q.w * q.w

def norm [Libm] (q : Quaternion) : Double := Libm.sqrt q.squaredNorm

/-- The null quaternion is left alone. -/
def normalize [Libm] (q : Quaternion) : Quaternion :=
  if 0 < q.squaredNorm then ⟨q.x / q.norm, q.y / q.norm, q.z / q.norm, q.w / q.norm⟩ else q

def toRotationMatrix (q : Quaternion) : Mat3 :=
  let tx := 2 * q.x
  let ty := 2 * q.y
  let tz := 2 * q.z
  ⟨⟨1 - (ty * q.y + tz * q.z), ty * q.x + tz * q.w, tz * q.x - ty * q.w⟩,
    ⟨ty * q.x - tz * q.w, 1 - (tx * q.x + tz * q.z), tz * q.y + tx * q.w⟩,
    ⟨tz * q.x + ty * q.w, tz * q.y - tx * q.w, 1 - (tx * q.x + ty * q.y)⟩⟩

end Quaternion

namespace NmpcMath

def clamp (value minValue maxValue : Double) : Double :=
  Double.max minValue (Double.min maxValue value)

/-- `std::clamp` -/
def stdClamp (value low high : Double) : Double :=
  if value < low then low else if high < value then high else value

/-- Whole turns are taken off until the angle is in range. An infinite angle, which no number of
turns brings into range, is left alone. -/
def normalizeAngle : Double → Double
  | .fin angle =>
      let turn : ℚ := 2 * 3.141592653589793
      if 3.141592653589793 < angle then .fin (angle - turn * ⌈(angle - turn / 2) / turn⌉)
      else if angle < -3.141592653589793 then .fin (angle + turn * ⌈(-angle - turn / 2) / turn⌉)
      else .fin angle
  | angle => angle

variable [Libm]

def normalizeVector (value fallback : Vec3) : Vec3 :=
  let norm := value.norm
  if !norm.isFinite || decide (norm < 1e-9) then fallback else value.dividedBy norm

def rotationFromBodyZ (bodyZ : Vec3) (yaw : Double) : Mat3 :=
  let zB := normalizeVector bodyZ .unitZ
  let heading : Vec3 := ⟨Libm.cos yaw, Libm.sin yaw, 0⟩
  let yB := zB.cross heading
  let yB := if yB.norm < 1e-8 then zB.cross .unitY else yB
  let yB := normalizeVector yB .unitY
  let xB := normalizeVector (yB.cross zB) .unitX
  ⟨xB, yB, zB⟩

variable [Eigen]

omit [Libm] in
def projectRotation (value : Mat3) : Mat3 :=
  let (u, v) := Eigen.jacobiSvd value
  let projected := u.mul v.transpose
  if projected.determinant < 0 then
    ({ u with col2 := u.col2.scale (-1) } : Mat3).mul v.transpose
  else projected

omit [Libm] in
def rotationLog (rotation : Mat3) : Vec3 :=
  let (angle, axis) := Eigen.angleAxis (projectRotation rotation)
  if !angle.isFinite || decide (angle.abs < 1e-12) || !axis.allFinite then {}
  else axis.scale angle

def bodyRateFromRotationDelta (current next : Quaternion) (dt : Double) : Vec3 :=
  if !dt.isFinite || decide (dt ≤ 1e-9) then {}
  else if !current.norm.isFinite || decide (current.norm < 1e-9) ||
      !next.norm.isFinite || decide (next.norm < 1e-9) then {}
  else
    let delta := current.normalize.toRotationMatrix.transpose.mul next.normalize.toRotationMatrix
    (rotationLog delta).dividedBy dt

omit [Libm] [Eigen] in
/-- A rate limit that is not a positive number limits nothing. -/
def bodyRateCommandFromPredictedBodyRate (predictedBodyRate : Vec3)
    (maxRollPitchBodyRate maxYawBodyRate : Double) : Vec3 :=
  let rate := predictedBodyRate
  let rate :=
    if maxRollPitchBodyRate.isFinite && decide (0 < maxRollPitchBodyRate) then
      { rate with
        x := clamp rate.x (-maxRollPitchBodyRate) maxRollPitchBodyRate
        y := clamp rate.y (-maxRollPitchBodyRate) maxRollPitchBodyRate }
    else rate
  if maxYawBodyRate.isFinite && decide (0 < maxYawBodyRate) then
    { rate with z := clamp rate.z (-maxYawBodyRate) maxYawBodyRate }
  else rate

end NmpcMath

end MultirotorController
