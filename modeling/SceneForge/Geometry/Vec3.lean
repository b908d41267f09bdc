import SceneForge.Number.Single

set_option autoImplicit false

/-!
# Vectors

Vectors of two, three and four components over an arbitrary scalar. The formulas are written once
and read twice: over binary32 words they are what a run computes, one rounding per operation from
left to right; over a field they are the identities of linear algebra.

## Main definitions

* `SceneForge.Vec2`, `SceneForge.Vec3`, `SceneForge.Vec4` — vectors by component.
* `SceneForge.Vec3.cross`, `SceneForge.Vec3.dot`, `SceneForge.Vec3.normalize`.
* `SceneForge.Vec3.triple`, `SceneForge.Vec3.tripleNeg` — the determinant of three columns and its
  opposite, each as a signed sum of six products.
-/

namespace SceneForge

/-- A vector of two components. -/
structure Vec2 (α : Type) where
  /-- First component. -/
  x : α
  /-- Second component. -/
  y : α
deriving DecidableEq, Inhabited

/-- A vector of three components. -/
structure Vec3 (α : Type) where
  /-- First component. -/
  x : α
  /-- Second component. -/
  y : α
  /-- Third component. -/
  z : α
deriving DecidableEq, Inhabited

/-- A vector of four components. -/
structure Vec4 (α : Type) where
  /-- First component. -/
  x : α
  /-- Second component. -/
  y : α
  /-- Third component. -/
  z : α
  /-- Fourth component. -/
  w : α
deriving DecidableEq, Inhabited

namespace Vec2

/-- The components in order. -/
def toList {α : Type} (v : Vec2 α) : List α := [v.x, v.y]

/-- The vector without extent. -/
def zero {α : Type} [OfNat α 0] : Vec2 α := ⟨0, 0⟩

/-- A function of every component. -/
def map {α β : Type} (f : α → β) (v : Vec2 α) : Vec2 β := ⟨f v.x, f v.y⟩

end Vec2

namespace Vec4

/-- The components in order. -/
def toList {α : Type} (v : Vec4 α) : List α := [v.x, v.y, v.z, v.w]

/-- The vector of four equal components. -/
def fill {α : Type} (a : α) : Vec4 α := ⟨a, a, a, a⟩

/-- A function of every component. -/
def map {α β : Type} (f : α → β) (v : Vec4 α) : Vec4 β := ⟨f v.x, f v.y, f v.z, f v.w⟩

end Vec4

namespace Vec3

variable {α : Type}

/-- The components in order. -/
def toList (v : Vec3 α) : List α := [v.x, v.y, v.z]

/-- The vector of three equal components. -/
def fill (a : α) : Vec3 α := ⟨a, a, a⟩

/-- The vector without extent. -/
def zero [OfNat α 0] : Vec3 α := ⟨0, 0, 0⟩

/-- A function of every component. -/
def map {β : Type} (f : α → β) (v : Vec3 α) : Vec3 β := ⟨f v.x, f v.y, f v.z⟩

instance [Sub α] : Sub (Vec3 α) := ⟨fun v u => ⟨v.x - u.x, v.y - u.y, v.z - u.z⟩⟩

/-- The componentwise sum. -/
instance [Add α] : Add (Vec3 α) := ⟨fun v u => ⟨v.x + u.x, v.y + u.y, v.z + u.z⟩⟩

/-- The inner product. -/
def dot [Add α] [Mul α] (v u : Vec3 α) : α := v.x * u.x + v.y * u.y + v.z * u.z

/-- The cross product. -/
def cross [Sub α] [Mul α] (v u : Vec3 α) : Vec3 α :=
  ⟨v.y * u.z - v.z * u.y, v.z * u.x - v.x * u.z, v.x * u.y - v.y * u.x⟩

/-- The Euclidean length. -/
def length [Add α] [Mul α] [Analytic α] (v : Vec3 α) : α := Analytic.sqrt (v.dot v)

/-- The vector scaled to length one; a vector of length zero becomes the zero vector. -/
def normalize [Add α] [Mul α] [Div α] [OfNat α 0] [Analytic α] [Comparable α]
    (v : Vec3 α) : Vec3 α :=
  let l := v.length
  if Comparable.same l 0 then zero else ⟨v.x / l, v.y / l, v.z / l⟩

/-- The determinant of three columns. -/
def triple [Add α] [Sub α] [Mul α] (a b c : Vec3 α) : α :=
  a.x * b.y * c.z - a.x * b.z * c.y - b.x * a.y * c.z
    + b.x * a.z * c.y + c.x * a.y * b.z - c.x * a.z * b.y

/-- The opposite of the determinant of three columns, summed in the same order. The sum is
written out, not negated: a vanishing sum of words is `+0` either way. -/
def tripleNeg [Add α] [Sub α] [Mul α] [Neg α] (a b c : Vec3 α) : α :=
  -a.x * b.y * c.z + a.x * b.z * c.y + b.x * a.y * c.z
    - b.x * a.z * c.y - c.x * a.y * b.z + c.x * a.z * b.y

end Vec3

end SceneForge
