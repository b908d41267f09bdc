import SceneForge.Geometry.Mat4

set_option autoImplicit false

/-!
# Rotations as quaternions

## Main definitions

* `SceneForge.Quat` — a quaternion by components, the scalar part last.
* `SceneForge.Quat.rotation` — the rotation matrix of a unit quaternion.
* `SceneForge.Quat.toMat4` — the rotation matrix of any quaternion, normalised first.
* `SceneForge.Mat4.ofTRS` — shift after rotation after scale.
-/

namespace SceneForge

/-- A quaternion `x i + y j + z k + w`. -/
structure Quat (α : Type) where
  /-- Coefficient of `i`. -/
  x : α
  /-- Coefficient of `j`. -/
  y : α
  /-- Coefficient of `k`. -/
  z : α
  /-- Scalar part. -/
  w : α
deriving DecidableEq, Inhabited

namespace Quat

variable {α : Type}

/-- The components in order, the scalar part last. -/
def toList (q : Quat α) : List α := [q.x, q.y, q.z, q.w]

/-- The quaternion of no rotation. -/
def identity [OfNat α 0] [OfNat α 1] : Quat α := ⟨0, 0, 0, 1⟩

/-- The rotation about a unit axis by an angle in radians. -/
def ofAxisAngle [Mul α] [Div α] [OfNat α 2] [Analytic α] (axis : Vec3 α) (angle : α) : Quat α :=
  let half := angle / 2
  let s := Analytic.sin half
  ⟨axis.x * s, axis.y * s, axis.z * s, Analytic.cos half⟩

/-- The matrix of a unit quaternion. -/
def rotation [Add α] [Sub α] [Mul α] [OfNat α 0] [OfNat α 1] [OfNat α 2] (q : Quat α) : Mat4 α :=
  let xx := q.x * q.x
  let xy := q.x * q.y
  let xz := q.x * q.z
  let xw := q.x * q.w
  let yy := q.y * q.y
  let yz := q.y * q.z
  let yw := q.y * q.w
  let zz := q.z * q.z
  let zw := q.z * q.w
  ⟨⟨1 - 2 * (yy + zz), 2 * (xy + zw), 2 * (xz - yw), 0⟩,
    ⟨2 * (xy - zw), 1 - 2 * (xx + zz), 2 * (yz + xw), 0⟩,
    ⟨2 * (xz + yw), 2 * (yz - xw), 1 - 2 * (xx + yy), 0⟩,
    ⟨0, 0, 0, 1⟩⟩

section Normalize

variable [Add α] [Mul α] [Div α] [OfNat α 0] [OfNat α 1] [OfScientific α] [Analytic α]
variable [Comparable α]

/-- The length of a quaternion. -/
def length (q : Quat α) : α :=
  Analytic.sqrt (q.x * q.x + q.y * q.y + q.z * q.z + q.w * q.w)

/-- The quaternion scaled to length one; one that is nearly zero stands for no rotation. -/
def normalize (q : Quat α) : Quat α :=
  let l := q.length
  if Comparable.less l 0.0001 then identity
  else
    let r := 1 / l
    ⟨q.x * r, q.y * r, q.z * r, q.w * r⟩

/-- The rotation matrix of a quaternion of any length. -/
def toMat4 [Sub α] [OfNat α 2] (q : Quat α) : Mat4 α := q.normalize.rotation

end Normalize

end Quat

/-- Shift after rotation after scale. -/
def Mat4.ofTRS {α : Type} [Add α] [Sub α] [Mul α] [Div α] [OfNat α 0] [OfNat α 1] [OfNat α 2]
    [OfScientific α] [Analytic α] [Comparable α] (t : Vec3 α) (q : Quat α) (s : Vec3 α) : Mat4 α :=
  Mat4.shifting t * q.toMat4 * Mat4.scaling s

end SceneForge
