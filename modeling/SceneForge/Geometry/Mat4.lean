import SceneForge.Geometry.Vec3

set_option autoImplicit false

/-!
# Four-by-four matrices

A matrix is kept as its four columns. Points and directions are columns on the right, so the
product `m * n` applies `n` first.

## Main definitions

* `SceneForge.Mat4` — a matrix by columns, with `mul`, `transpose`, `inverse`.
* `SceneForge.Mat4.transformPoint`, `SceneForge.Mat4.transformDirection` — the action on points
  (with the shift, and a division by the fourth coordinate) and on directions.
* `SceneForge.Mat4.normalMatrix` — the matrix that carries surface normals.
* `SceneForge.Mat4.det3` — the determinant of the linear part; a negative value means that the
  transform reflects.
-/

namespace SceneForge

/-- A four-by-four matrix by columns. -/
structure Mat4 (α : Type) where
  /-- First column. -/
  c0 : Vec4 α
  /-- Second column. -/
  c1 : Vec4 α
  /-- Third column. -/
  c2 : Vec4 α
  /-- Fourth column: the shift, in an affine matrix. -/
  c3 : Vec4 α
deriving DecidableEq, Inhabited

namespace Mat4

variable {α : Type}

/-- The sixteen entries, column by column. -/
def toList (m : Mat4 α) : List α := m.c0.toList ++ m.c1.toList ++ m.c2.toList ++ m.c3.toList

/-- The matrix with every entry `a`. -/
def fill (a : α) : Mat4 α := ⟨.fill a, .fill a, .fill a, .fill a⟩

section Constants

variable [OfNat α 0] [OfNat α 1]

/-- The identity matrix. -/
def identity : Mat4 α := ⟨⟨1, 0, 0, 0⟩, ⟨0, 1, 0, 0⟩, ⟨0, 0, 1, 0⟩, ⟨0, 0, 0, 1⟩⟩

/-- The shift by `t`. -/
def shifting (t : Vec3 α) : Mat4 α :=
  ⟨⟨1, 0, 0, 0⟩, ⟨0, 1, 0, 0⟩, ⟨0, 0, 1, 0⟩, ⟨t.x, t.y, t.z, 1⟩⟩

/-- The scaling by the components of `s`. -/
def scaling (s : Vec3 α) : Mat4 α :=
  ⟨⟨s.x, 0, 0, 0⟩, ⟨0, s.y, 0, 0⟩, ⟨0, 0, s.z, 0⟩, ⟨0, 0, 0, 1⟩⟩

/-- Whether every entry is numerically that of the identity. -/
def isIdentity [Comparable α] (m : Mat4 α) : Bool :=
  (m.toList.zip (identity : Mat4 α).toList).all fun p => Comparable.same p.1 p.2

end Constants

/-- The matrix applied to a column. -/
def mulVec [Add α] [Mul α] (m : Mat4 α) (v : Vec4 α) : Vec4 α :=
  ⟨m.c0.x * v.x + m.c1.x * v.y + m.c2.x * v.z + m.c3.x * v.w,
    m.c0.y * v.x + m.c1.y * v.y + m.c2.y * v.z + m.c3.y * v.w,
    m.c0.z * v.x + m.c1.z * v.y + m.c2.z * v.z + m.c3.z * v.w,
    m.c0.w * v.x + m.c1.w * v.y + m.c2.w * v.z + m.c3.w * v.w⟩

/-- The product: column by column, the left factor applied to the right one. -/
instance [Add α] [Mul α] : Mul (Mat4 α) :=
  ⟨fun m n => ⟨m.mulVec n.c0, m.mulVec n.c1, m.mulVec n.c2, m.mulVec n.c3⟩⟩

/-- Rows and columns exchanged. -/
def transpose (m : Mat4 α) : Mat4 α :=
  ⟨⟨m.c0.x, m.c1.x, m.c2.x, m.c3.x⟩, ⟨m.c0.y, m.c1.y, m.c2.y, m.c3.y⟩,
    ⟨m.c0.z, m.c1.z, m.c2.z, m.c3.z⟩, ⟨m.c0.w, m.c1.w, m.c2.w, m.c3.w⟩⟩

/-! ## Action on points and directions -/

/-- The image of a point. The fourth coordinate is divided out unless it is zero or one. -/
def transformPoint [Add α] [Mul α] [Div α] [OfNat α 0] [OfNat α 1] [Comparable α]
    (m : Mat4 α) (p : Vec3 α) : Vec3 α :=
  let x := m.c0.x * p.x + m.c1.x * p.y + m.c2.x * p.z + m.c3.x
  let y := m.c0.y * p.x + m.c1.y * p.y + m.c2.y * p.z + m.c3.y
  let z := m.c0.z * p.x + m.c1.z * p.y + m.c2.z * p.z + m.c3.z
  let w := m.c0.w * p.x + m.c1.w * p.y + m.c2.w * p.z + m.c3.w
  if Comparable.same w 0 || Comparable.same w 1 then ⟨x, y, z⟩ else ⟨x / w, y / w, z / w⟩

/-- The image of a direction: the linear part only. -/
def transformDirection [Add α] [Mul α] (m : Mat4 α) (d : Vec3 α) : Vec3 α :=
  ⟨m.c0.x * d.x + m.c1.x * d.y + m.c2.x * d.z,
    m.c0.y * d.x + m.c1.y * d.y + m.c2.y * d.z,
    m.c0.z * d.x + m.c1.z * d.y + m.c2.z * d.z⟩

/-- The determinant of the linear part. -/
def det3 [Add α] [Sub α] [Mul α] (m : Mat4 α) : α :=
  m.c0.x * (m.c1.y * m.c2.z - m.c2.y * m.c1.z) - m.c1.x * (m.c0.y * m.c2.z - m.c2.y * m.c0.z)
    + m.c2.x * (m.c0.y * m.c1.z - m.c1.y * m.c0.z)

/-! ## Inverse -/

section Inverse

variable [Add α] [Sub α] [Mul α] [Neg α]

/-- A column without its first row. -/
def dropX (v : Vec4 α) : Vec3 α := ⟨v.y, v.z, v.w⟩

/-- A column without its second row. -/
def dropY (v : Vec4 α) : Vec3 α := ⟨v.x, v.z, v.w⟩

/-- A column without its third row. -/
def dropZ (v : Vec4 α) : Vec3 α := ⟨v.x, v.y, v.w⟩

/-- A column without its fourth row. -/
def dropW (v : Vec4 α) : Vec3 α := ⟨v.x, v.y, v.z⟩

/-- The adjugate: the transposed matrix of cofactors. -/
def adjugate (m : Mat4 α) : Mat4 α :=
  let row (d : Vec4 α → Vec3 α) (plus minus : Vec3 α → Vec3 α → Vec3 α → α) : Vec4 α :=
    ⟨plus (d m.c1) (d m.c2) (d m.c3), minus (d m.c0) (d m.c2) (d m.c3),
      plus (d m.c0) (d m.c1) (d m.c3), minus (d m.c0) (d m.c1) (d m.c2)⟩
  ⟨row dropX Vec3.triple Vec3.tripleNeg, row dropY Vec3.tripleNeg Vec3.triple,
    row dropZ Vec3.triple Vec3.tripleNeg, row dropW Vec3.tripleNeg Vec3.triple⟩

/-- The determinant, by expansion along the first row with the cofactors of the adjugate. -/
def det (m : Mat4 α) : α :=
  let a := m.adjugate.c0
  m.c0.x * a.x + m.c1.x * a.y + m.c2.x * a.z + m.c3.x * a.w

/-- Every entry multiplied by `k`. -/
def scaleBy (m : Mat4 α) (k : α) : Mat4 α :=
  let col (v : Vec4 α) : Vec4 α := ⟨v.x * k, v.y * k, v.z * k, v.w * k⟩
  ⟨col m.c0, col m.c1, col m.c2, col m.c3⟩

variable [Div α] [OfNat α 0] [OfNat α 1] [Comparable α]

/-- The inverse; a singular matrix gives the identity. -/
def inverse (m : Mat4 α) : Mat4 α :=
  let d := m.det
  if Comparable.same d 0 then identity else m.adjugate.scaleBy (1 / d)

/-- The inverse transpose of the linear part, as an affine matrix without shift. It carries
normals through any invertible transform, non-uniform scale included. -/
def normalMatrix (m : Mat4 α) : Mat4 α :=
  let n := m.inverse.transpose
  ⟨{ n.c0 with w := 0 }, { n.c1 with w := 0 }, { n.c2 with w := 0 }, ⟨0, 0, 0, 1⟩⟩

end Inverse

end Mat4

end SceneForge
