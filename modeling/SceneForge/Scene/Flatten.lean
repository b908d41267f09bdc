import SceneForge.Scene.Basic

set_option autoImplicit false

/-!
# Flattening

A scene is flattened by visiting its nodes depth first, a node before its children, and putting one
block of geometry after the other for every triangle primitive that is met.

## Main definitions

* `SceneForge.Scene.preorder`, `SceneForge.Scene.visits` — the visited nodes, in order.
* `SceneForge.Scene.Block` — the geometry of one primitive at one visit.
* `SceneForge.Mesh.add` — a mesh with a block put at its end.
* `SceneForge.Scene.flatten` — the merged mesh; a scene can be flattened once.
-/

namespace SceneForge

namespace Scene

/-- The geometry of one primitive at one visit. -/
structure Block where
  /-- Name of the mesh. -/
  name : String
  /-- Material. -/
  material : Ref
  /-- Vertices in world space. -/
  vertices : List Vertex
  /-- Vertex numbers within the block, in the winding that faces outwards. -/
  indices : List UInt32
deriving DecidableEq, Inhabited

end Scene

/-- A mesh with a block put at its end. -/
def Mesh.add (m : Mesh) (b : Scene.Block) : Mesh :=
  let base := m.vertices.length.toUInt32
  { m with
    vertices := m.vertices ++ b.vertices
    indices := m.indices ++ b.indices.map (base + ·)
    groups := m.groups ++ [⟨utf8 b.name, b.material, m.indices.length, b.indices.length⟩]
    bounds := b.vertices.foldl (fun box v => box.extend v.position) m.bounds }

namespace Scene

/-! ## Order of visits -/

/-- A node and everything below it, a node before its children. The fuel bounds the depth. -/
def preorder (nodes : List Node) : Nat → Int → Option (List Int)
  | 0, _ => none
  | fuel + 1, i => do
    let node ← at? nodes i
    let below ← node.children.mapM (preorder nodes fuel)
    return i :: below.flatten

/-- The visited nodes, in order; a node that several paths lead to is visited once per path. -/
def visits (s : Scene) : Option (List Int) := do
  return (← s.roots.mapM (preorder s.nodes (s.nodes.length + 1))).flatten

/-! ## Geometry of a primitive -/

/-- The triangles of a list of vertex numbers; a rest of one or two is dropped. -/
def triangles : List UInt32 → List (UInt32 × UInt32 × UInt32)
  | a :: b :: c :: rest => (a, b, c) :: triangles rest
  | _ => []

/-- The vertex numbers of a primitive: those given, or the vertices in order. -/
def numbers (p : Document.Primitive) : List UInt32 :=
  p.indices.getD ((List.range p.positions.length).map Nat.toUInt32)

/-- The normal of a triangle is added to the sums at its corners. -/
def addFace (points sums : Array (Vec3 Single)) :
    UInt32 × UInt32 × UInt32 → Option (Array (Vec3 Single))
  | (a, b, c) => do
    let p0 ← points[a.toNat]?
    let p1 ← points[b.toNat]?
    let p2 ← points[c.toNat]?
    let n := (p1 - p0).cross (p2 - p0)
    return [a, b, c].foldl (fun sums i => sums.modify i.toNat (· + n)) sums

/-- The normals of the faces around each vertex, summed and normalised. -/
def faceNormals (positions : List (Vec3 Single)) (ts : List (UInt32 × UInt32 × UInt32)) :
    Option (List (Vec3 Single)) := do
  let points := positions.toArray
  let sums ← ts.foldlM (addFace points) (Array.replicate points.size Vec3.zero)
  return sums.toList.map Vec3.normalize

/-- The normals of a primitive: its own if there is one per vertex, derived ones if asked for. -/
def normalsOf (flags : Flags) (p : Document.Primitive) : Option (Option (List (Vec3 Single))) :=
  if p.normals.length = p.positions.length then some (some p.normals)
  else if flags.calcNormals then (faceNormals p.positions (triangles (numbers p))).map some
  else some none

/-- A vertex of a primitive in world space. Joints are shifted to where the skin starts in the
skeleton, if the node has a skin and the primitive has both streams at this vertex. -/
def vertexOf (flags : Flags) (world normalMatrix : Mat4 Single) (jointBase : Option Nat)
    (p : Document.Primitive) (normals : Option (List (Vec3 Single))) (k : Nat)
    (pos : Vec3 Single) : Vertex :=
  let normal := match normals.bind (·[k]?) with
    | some n => (normalMatrix.transformDirection n).normalize
    | none => .zero
  let texCoord := match p.texCoords[k]? with
    | some t => if flags.flipUVs then ⟨t.x, 1 - t.y⟩ else t
    | none => .zero
  let plain : Vertex := { position := world.transformPoint pos, normal, texCoord }
  match jointBase, p.joints[k]?, p.weights[k]? with
  | some base, some j, some weights =>
    let shift := base.toUInt16
    { plain with joints := ⟨shift + j.x, shift + j.y, shift + j.z, shift + j.w⟩, weights }
  | _, _, _ => plain

/-- The block of a primitive at a node. In a reflecting node the winding is reversed. -/
def blockOf (flags : Flags) (node : Node) (jointBase : Option Nat) (name : String)
    (p : Document.Primitive) : Option Block := do
  let normals ← normalsOf flags p
  let normalMatrix := node.world.normalMatrix
  let reflected := node.world.det3.lt 0
  return {
    name, material := p.material
    vertices := p.positions.zipIdx.map fun (pos, k) =>
      vertexOf flags node.world normalMatrix jointBase p normals k pos
    indices := (triangles (numbers p)).flatMap fun (a, b, c) =>
      if reflected then [a, c, b] else [a, b, c] }

/-- Whether a primitive contributes a block. -/
def isDrawn (p : Document.Primitive) : Bool := p.triangles && !p.positions.isEmpty

/-- The blocks of one visit. -/
def blocksAt (s : Scene) (doc : Document) (i : Int) : Option (List Block) := do
  let node ← at? s.nodes i
  match node.mesh with
  | none => return []
  | some m =>
    let shape ← at? doc.meshes m
    let jointBase ← match node.skin with
      | some k => if s.mode = .character then (at? (skinBases doc) k).map some else some none
      | none => some none
    (shape.primitives.filter isDrawn).mapM (blockOf s.flags node jointBase shape.name)

/-- The blocks of all visits, in order. -/
def blocks (s : Scene) (doc : Document) : Option (List Block) := do
  return (← (← s.visits).mapM (blocksAt s doc)).flatten

/-! ## The merged mesh -/

/-- The mesh before the first block: its box is inside out. -/
def emptyMesh (mode : Mode) : Mesh :=
  { bounds := ⟨.fill 1e10, .fill (-1e10)⟩, skinned := mode = .character }

/-- A mesh without vertices has a box without extent. -/
def settle (m : Mesh) : Mesh := if m.vertices.isEmpty then { m with bounds := {} } else m

/-- The merged mesh of a scene. -/
def merge (s : Scene) (doc : Document) : Option Mesh := do
  return settle ((← s.blocks doc).foldl Mesh.add (emptyMesh s.mode))

/-- The scene is flattened. The scene is returned in any case: a failed attempt counts too. -/
def flatten (s : Scene) : Except Failure Mesh × Scene :=
  match s.doc with
  | none => (.error ⟨.notSetUp, []⟩, s)
  | some doc =>
    if s.flattened then (.error ⟨.alreadyFlattened, []⟩, s)
    else
      match s.merge doc with
      | none => (.error outOfRange, { s with flattened := true })
      | some m => (.ok m, { s with flattened := true, mesh := some m })

end Scene

end SceneForge
