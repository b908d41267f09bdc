import SceneForge.Document.Basic

set_option autoImplicit false

/-!
# Merged meshes

The geometry of a whole scene as one list of vertices, one list of vertex numbers and the groups
that the numbers fall into.

## Main definitions

* `SceneForge.Vertex`, `SceneForge.Group`, `SceneForge.Bounds`, `SceneForge.Mesh`.
* `SceneForge.Bounds.extend` — the smallest box that also holds a point.
-/

namespace SceneForge

/-- A vertex. Joints and weights are zero in static meshes. -/
structure Vertex where
  /-- Position. -/
  position : Vec3 Single := .zero
  /-- Normal. -/
  normal : Vec3 Single := .zero
  /-- Texture coordinate. -/
  texCoord : Vec2 Single := .zero
  /-- Joint numbers. -/
  joints : Vec4 UInt16 := .fill 0
  /-- Joint weights. -/
  weights : Vec4 Single := .fill 0
deriving DecidableEq, Inhabited

/-- A range of vertex numbers with one material. -/
structure Group where
  /-- Name, as bytes: a mesh file does not promise text. -/
  name : Bytes := []
  /-- Material. -/
  material : Ref := none
  /-- Position of the first vertex number. -/
  firstIndex : Int := 0
  /-- How many vertex numbers there are. -/
  indexCount : Int := 0
deriving DecidableEq, Inhabited

/-- An axis-aligned box. -/
structure Bounds where
  /-- Least coordinates. -/
  min : Vec3 Single := .zero
  /-- Greatest coordinates. -/
  max : Vec3 Single := .zero
deriving DecidableEq, Inhabited

namespace Bounds

/-- The lesser of two numbers; the first if they do not compare. -/
def lesser (a b : Single) : Single := if b.lt a then b else a

/-- The greater of two numbers; the first if they do not compare. -/
def greater (a b : Single) : Single := if a.lt b then b else a

/-- The box stretched to a point. -/
def extend (b : Bounds) (p : Vec3 Single) : Bounds :=
  ⟨⟨lesser b.min.x p.x, lesser b.min.y p.y, lesser b.min.z p.z⟩,
    ⟨greater b.max.x p.x, greater b.max.y p.y, greater b.max.z p.z⟩⟩

end Bounds

/-- A merged mesh. -/
structure Mesh where
  /-- Vertices. -/
  vertices : List Vertex := []
  /-- Vertex numbers, three per triangle. -/
  indices : List UInt32 := []
  /-- Groups. -/
  groups : List Group := []
  /-- The box around all vertices. -/
  bounds : Bounds := {}
  /-- Whether the vertices carry joints and weights. -/
  skinned : Bool := false
deriving DecidableEq, Inhabited

/-- How many triangles a mesh has. -/
def Mesh.triangleCount (m : Mesh) : Nat := m.indices.length / 3

end SceneForge
