import Mathlib.Algebra.Order.Group.Nat
import Mathlib.Algebra.Order.BigOperators.Group.List
import SceneForge.Proofs.Scene.Traversal

set_option autoImplicit false

/-!
# What a merged mesh is

The merged mesh of a scene, said without accumulation: the triangle primitives that are met along
the depth-first walk are drawn one after the other, each as a piece with its own vertices and
corners; corners count vertices from the start of the mesh. All vertex numbers are natural numbers
here, so nothing wraps around.

## Main definitions

* `SceneForge.Document.Draw`, `SceneForge.Document.drawsAt` — the primitives drawn at a visit.
* `SceneForge.Document.Primitive.vertexAt`, `SceneForge.Document.Primitive.winding` — the vertices
  and corners of a primitive.
* `SceneForge.Scene.Piece`, `SceneForge.Document.Draw.piece` — what is drawn.
* `SceneForge.Mesh.Merges` — a mesh is made of pieces.

## Main results

* `SceneForge.Scene.Drawable.faceNormals_spec` — derived normals, vertex by vertex.
* `SceneForge.Scene.Drawable.exists_blockOf` — the block of a primitive is its piece.
* `SceneForge.Scene.settle_foldl_add_merges` — blocks put one after the other merge.
* `SceneForge.Scene.flatten_merges` — the mesh of a valid document.
-/

namespace SceneForge

namespace Document

/-! ## Primitives -/

namespace Primitive

/-- The vertex numbers of a primitive: those given, or all vertices in order. -/
def corners (p : Primitive) : List Nat :=
  match p.indices with
  | some is => is.map (·.toNat)
  | none => List.range p.positions.length

/-- The vertex number at a corner. -/
def corner (p : Primitive) (t : Nat) : Nat := p.corners.getD t 0

/-- How many whole triangles there are; a rest of one or two corners is dropped. -/
def faceCount (p : Primitive) : Nat := p.corners.length / 3

/-- The position of a vertex. -/
def point (p : Primitive) (i : Nat) : Vec3 Single := p.positions.getD i .zero

/-- The three vertex numbers of a triangle. -/
def face (p : Primitive) (t : Nat) : List Nat :=
  [p.corner (3 * t), p.corner (3 * t + 1), p.corner (3 * t + 2)]

/-- The normal of a triangle, as long as twice its area. -/
def faceNormal (p : Primitive) (t : Nat) : Vec3 Single :=
  let p0 := p.point (p.corner (3 * t))
  let p1 := p.point (p.corner (3 * t + 1))
  let p2 := p.point (p.corner (3 * t + 2))
  (p1 - p0).cross (p2 - p0)

/-- The normals of all triangles around a vertex added up in order, each once for every corner that
the triangle has there. -/
def normalSum (p : Primitive) (k : Nat) : Vec3 Single :=
  ((List.range p.faceCount).flatMap fun t =>
    List.replicate ((p.face t).count k) (p.faceNormal t)).foldl (· + ·) .zero

/-- The normal of a vertex: its own if every vertex has one, a derived one if that is asked for. -/
def normalAt (p : Primitive) (flags : Flags) (k : Nat) : Option (Vec3 Single) :=
  if p.normals.length = p.positions.length then p.normals[k]?
  else if flags.calcNormals then some (p.normalSum k).normalize
  else none

/-- Joints and weights of a vertex, if the node is skinned and both streams reach it. -/
def bindingAt (p : Primitive) (jointBase : Option Nat) (k : Nat) :
    Option (Vec4 UInt16 × Vec4 Single) := do
  let base ← jointBase
  let j ← p.joints[k]?
  let w ← p.weights[k]?
  return (⟨base.toUInt16 + j.x, base.toUInt16 + j.y, base.toUInt16 + j.z, base.toUInt16 + j.w⟩, w)

/-- A vertex of a primitive in world space. -/
def vertexAt (p : Primitive) (flags : Flags) (world : Mat4 Single) (jointBase : Option Nat)
    (k : Nat) : Vertex where
  position := world.transformPoint (p.point k)
  normal := match p.normalAt flags k with
    | some n => (world.normalMatrix.transformDirection n).normalize
    | none => .zero
  texCoord := match p.texCoords[k]? with
    | some t => ⟨t.x, if flags.flipUVs then 1 - t.y else t.y⟩
    | none => .zero
  joints := ((p.bindingAt jointBase k).map (·.1)).getD (.fill 0)
  weights := ((p.bindingAt jointBase k).map (·.2)).getD (.fill 0)

/-- The corner with which a corner of a mirrored triangle changes places. -/
def mirror (t : Nat) : Nat := if t % 3 = 1 then t + 1 else if t % 3 = 2 then t - 1 else t

/-- The vertex numbers of all whole triangles, in the winding that faces outwards. -/
def winding (p : Primitive) (mirrored : Bool) : List Nat :=
  (List.range (3 * p.faceCount)).map fun t => p.corner (if mirrored then mirror t else t)

end Primitive

/-! ## Drawing -/

/-- A primitive that is drawn at a visit of a node. -/
structure Draw where
  /-- Number of the node. -/
  number : Int
  /-- The node. -/
  node : Node
  /-- The mesh of the node. -/
  shape : Shape
  /-- The primitive. -/
  primitive : Primitive

/-- The primitives drawn at a visit: of the mesh of the node, in order, those that are triangles and
have positions. -/
def drawsAt (d : Document) (i : Int) : List Draw :=
  match at? d.nodes i with
  | none => []
  | some n =>
    match n.mesh.bind (at? d.meshes) with
    | none => []
    | some shape =>
      (shape.primitives.filter fun p => p.triangles ∧ p.positions.length ≠ 0).map fun p =>
        ⟨i, n, shape, p⟩

/-- Where the skin of a node starts in the skeleton; only characters have one. -/
def jointBase (d : Document) (mode : Mode) (n : Node) : Option Nat :=
  if mode = .character then
    n.skin.map fun k => ((d.skins.take k.toNat).map (·.joints.length)).sum
  else none

end Document

namespace Scene

/-- What is drawn of a primitive at a visit. -/
structure Piece where
  /-- Name of the mesh. -/
  name : String
  /-- Material. -/
  material : Ref
  /-- Vertices in world space. -/
  vertices : List Vertex
  /-- Vertex numbers within the piece, three per triangle. -/
  corners : List Nat

/-- The vertex numbers of pieces, counted from the start of the mesh. -/
def rebased (base : Nat) : List Piece → List Nat
  | [] => []
  | p :: ps => p.corners.map (base + ·) ++ rebased (base + p.vertices.length) ps

/-- The groups of pieces, one for each. -/
def groupsFrom (first : Nat) : List Piece → List Group
  | [] => []
  | p :: ps =>
    ⟨utf8 p.name, p.material, first, p.corners.length⟩ :: groupsFrom (first + p.corners.length) ps

end Scene

/-- What is drawn of a primitive at a visit, the world transform of the node being given. -/
def Document.Draw.piece (b : Document.Draw) (d : Document) (settings : Settings)
    (world : Mat4 Single) : Scene.Piece where
  name := b.shape.name
  material := b.primitive.material
  vertices := (List.range b.primitive.positions.length).map
    (b.primitive.vertexAt settings.flags world (d.jointBase settings.mode b.node))
  corners := b.primitive.winding (world.det3.lt 0)

/-- A mesh is made of pieces, one after the other. -/
structure Mesh.Merges (m : Mesh) (mode : Mode) (ps : List Scene.Piece) : Prop where
  /-- The vertices are those of all pieces. -/
  vertices : m.vertices = ps.flatMap (·.vertices)
  /-- The vertex numbers are those of all pieces, counted from the start of the mesh. -/
  indices : m.indices.map (·.toNat) = Scene.rebased 0 ps
  /-- There is one group for each piece. -/
  groups : m.groups = Scene.groupsFrom 0 ps
  /-- The box is that of the positions, and without extent if there are none. -/
  bounds : m.bounds = if m.vertices = [] then {} else
    m.vertices.foldl (fun box v => box.extend v.position) ⟨.fill 1e10, .fill (-1e10)⟩
  /-- Characters are skinned. -/
  skinned : m.skinned = decide (mode = .character)

namespace Scene

open Document.Primitive (mirror)

/-! ## Triangles -/

/-- The first three numbers, and the others moved by three. -/
lemma range_add_three (n : Nat) :
    List.range (n + 3) = 0 :: 1 :: 2 :: (List.range n).map (· + 3) := by
  simp [List.range_succ_eq_map, Function.comp_def]

/-- Corners change places within their triangle. -/
lemma mirror_add_three (t : Nat) : mirror (t + 3) = mirror t + 3 := by
  unfold mirror
  rw [Nat.add_mod_right]
  split_ifs <;> omega

/-- One or two corners are no triangle. -/
lemma length_div_three_of_short {xs : List UInt32}
    (h : ∀ a b c rest, xs = a :: b :: c :: rest → False) : xs.length / 3 = 0 := by
  rcases xs with _ | ⟨a, _ | ⟨b, _ | ⟨c, rest⟩⟩⟩
  · rfl
  · simp
  · simp
  · exact (h a b c rest rfl).elim

/-- The triangles of a list by their corners. -/
lemma triangles_eq_map (xs : List UInt32) :
    triangles xs = (List.range (xs.length / 3)).map fun t =>
      (xs.getD (3 * t) 0, xs.getD (3 * t + 1) 0, xs.getD (3 * t + 2) 0) := by
  fun_induction triangles xs with
  | case1 a b c rest ih =>
    have hlen : (a :: b :: c :: rest).length / 3 = rest.length / 3 + 1 := by
      simp only [List.length_cons]
      omega
    rw [hlen, List.range_succ_eq_map, ih]
    simp [Nat.mul_add, Function.comp_def]
  | case2 xs h => simp [length_div_three_of_short h]

/-- The corners of all triangles, one by one. -/
lemma flatMap_triangles (mirrored : Bool) (xs : List UInt32) :
    (triangles xs).flatMap (fun (a, b, c) => if mirrored then [a, c, b] else [a, b, c]) =
      (List.range (3 * (xs.length / 3))).map fun t =>
        xs.getD (if mirrored then mirror t else t) 0 := by
  fun_induction triangles xs with
  | case1 a b c rest ih =>
    have hlen : 3 * ((a :: b :: c :: rest).length / 3) = 3 * (rest.length / 3) + 3 := by
      simp only [List.length_cons]
      omega
    have hshift : ∀ t, (a :: b :: c :: rest).getD (if mirrored then mirror (t + 3) else t + 3) 0 =
        rest.getD (if mirrored then mirror t else t) 0 := by
      intro t
      cases mirrored <;> simp [mirror_add_three]
    rw [hlen, range_add_three, List.flatMap_cons, ih]
    simp only [List.map_cons, List.map_map, Function.comp_def, hshift]
    cases mirrored <;> rfl
  | case2 xs h => simp [length_div_three_of_short h]

/-! ## Vertex numbers -/

variable {p : Document.Primitive}

/-- A primitive draws vertices that it has, and few enough to be numbered. -/
structure Drawable (p : Document.Primitive) : Prop where
  /-- Given vertex numbers are those of vertices. -/
  given : ∀ k ∈ p.indices.getD [], k.toNat < p.positions.length
  /-- The vertices can be numbered. -/
  count : p.positions.length ≤ 2 ^ 32

/-- The vertex numbers of a primitive, as natural numbers. -/
lemma Drawable.toNat_numbers (hp : Drawable p) : (numbers p).map (·.toNat) = p.corners := by
  unfold numbers Document.Primitive.corners
  cases p.indices with
  | some is => rfl
  | none =>
    refine List.ext_getElem (by simp) fun k h₁ h₂ => ?_
    have hk : k < 2 ^ 32 := by
      have := hp.count
      simp at h₁
      omega
    simpa using Nat.mod_eq_of_lt hk

/-- There is a number for every corner. -/
lemma Drawable.length_numbers (hp : Drawable p) : (numbers p).length = p.corners.length := by
  rw [← hp.toNat_numbers, List.length_map]

/-- The vertex number at a corner, as a natural number. -/
lemma Drawable.toNat_getD (hp : Drawable p) (t : Nat) :
    ((numbers p).getD t 0).toNat = p.corner t := by
  rw [Document.Primitive.corner, ← hp.toNat_numbers]
  simp only [List.getD_eq_getElem?_getD, List.getElem?_map]
  cases (numbers p)[t]? <;> rfl

/-- Every corner is at a vertex. -/
lemma Drawable.corner_lt (hp : Drawable p) {t : Nat} (ht : t < p.corners.length) :
    p.corner t < p.positions.length := by
  have hmem : p.corner t ∈ p.corners := by
    simp [Document.Primitive.corner, List.getD_eq_getElem?_getD, ht]
  generalize p.corner t = c at hmem
  unfold Document.Primitive.corners at hmem
  cases hi : p.indices with
  | some is =>
    rw [hi] at hmem
    obtain ⟨k, hk, rfl⟩ := List.mem_map.mp hmem
    exact hp.given k (by simp [hi, hk])
  | none =>
    rw [hi] at hmem
    simpa using hmem

/-- The winding of a primitive, as the numbers of its triangles. -/
lemma Drawable.toNat_winding (hp : Drawable p) (mirrored : Bool) :
    ((triangles (numbers p)).flatMap fun (a, b, c) =>
      if mirrored then [a, c, b] else [a, b, c]).map (·.toNat) = p.winding mirrored := by
  rw [flatMap_triangles, hp.length_numbers, List.map_map]
  exact List.map_congr_left fun t _ => hp.toNat_getD _

/-- Every corner of the winding is at a vertex. -/
lemma Drawable.winding_lt (hp : Drawable p) (mirrored : Bool) :
    ∀ c ∈ p.winding mirrored, c < p.positions.length := by
  intro c hc
  obtain ⟨t, ht, rfl⟩ := List.mem_map.mp hc
  have ht' : t < 3 * (p.corners.length / 3) := by
    simpa [Document.Primitive.faceCount] using ht
  refine hp.corner_lt ?_
  unfold mirror
  split_ifs <;> omega

/-! ## Derived normals -/

/-- What is added to every listed entry is added to each as often as it is listed. -/
lemma getElem?_foldl_modify (n : Vec3 Single) (k : Nat) (is : List UInt32) :
    ∀ sums : Array (Vec3 Single),
      (is.foldl (fun sums i => sums.modify i.toNat (· + n)) sums)[k]? =
        sums[k]?.map fun s => (List.replicate ((is.map (·.toNat)).count k) n).foldl (· + ·) s := by
  induction is with
  | nil => simp
  | cons i is ih =>
    intro sums
    rw [List.foldl_cons, ih, Array.getElem?_modify, List.map_cons, List.count_cons]
    by_cases hik : i.toNat = k
    · simp [hik, Function.comp_def, List.replicate_succ]
    · simp [hik]

/-- A triangle adds its normal once for every corner that it has at a vertex. -/
lemma Drawable.exists_addFace (hp : Drawable p) {t : Nat} (ht : t < p.faceCount)
    (sums : Array (Vec3 Single)) :
    ∃ sums', addFace p.positions.toArray sums ((numbers p).getD (3 * t) 0,
        (numbers p).getD (3 * t + 1) 0, (numbers p).getD (3 * t + 2) 0) = some sums' ∧
      ∀ k, sums'[k]? = sums[k]?.map fun s =>
        (List.replicate ((p.face t).count k) (p.faceNormal t)).foldl (· + ·) s := by
  have hlt : ∀ j < 3, p.corner (3 * t + j) < p.positions.length := by
    intro j hj
    unfold Document.Primitive.faceCount at ht
    exact hp.corner_lt (by omega)
  have hpoint : ∀ j < 3, p.positions.toArray[p.corner (3 * t + j)]? =
      some (p.point (p.corner (3 * t + j))) := by
    intro j hj
    simp [Document.Primitive.point, List.getD_eq_getElem?_getD, hlt j hj]
  have h0 := hpoint 0 (by omega)
  have h1 := hpoint 1 (by omega)
  have h2 := hpoint 2 (by omega)
  rw [Nat.add_zero] at h0
  refine ⟨_, by simp only [addFace, hp.toNat_getD, h0, h1, h2]; rfl, fun k => ?_⟩
  rw [getElem?_foldl_modify]
  simp only [List.map_cons, List.map_nil, hp.toNat_getD]
  rfl

/-- One triangle after the other adds its normal at its corners. -/
lemma Drawable.exists_foldlM_addFace (hp : Drawable p) :
    ∀ (ts : List Nat) (sums : Array (Vec3 Single)), (∀ t ∈ ts, t < p.faceCount) →
      ∃ sums', (ts.map fun t => ((numbers p).getD (3 * t) 0, (numbers p).getD (3 * t + 1) 0,
          (numbers p).getD (3 * t + 2) 0)).foldlM (addFace p.positions.toArray) sums = some sums' ∧
        ∀ k, sums'[k]? = sums[k]?.map fun s => (ts.flatMap fun t =>
          List.replicate ((p.face t).count k) (p.faceNormal t)).foldl (· + ·) s := by
  intro ts
  induction ts with
  | nil => exact fun sums _ => ⟨sums, rfl, by simp⟩
  | cons t ts ih =>
    intro sums hts
    obtain ⟨sums₁, h₁, hsums₁⟩ := hp.exists_addFace (hts t (by simp)) sums
    obtain ⟨sums₂, h₂, hsums₂⟩ := ih sums₁ fun u hu => hts u (by simp [hu])
    refine ⟨sums₂, by rw [List.map_cons, List.foldlM_cons, h₁]; exact h₂, fun k => ?_⟩
    rw [hsums₂, hsums₁, Option.map_map]
    simp only [List.flatMap_cons, List.foldl_append, Function.comp_def]

/-- **Derived normals, vertex by vertex**: each is the sum of the normals of the triangles around
the vertex, normalised. -/
lemma Drawable.faceNormals_spec (hp : Drawable p) :
    ∃ ns, faceNormals p.positions (triangles (numbers p)) = some ns ∧
      ∀ k < p.positions.length, ns[k]? = some (p.normalSum k).normalize := by
  obtain ⟨sums, h, hsums⟩ := hp.exists_foldlM_addFace (List.range p.faceCount)
    (Array.replicate p.positions.length .zero) (by simp)
  refine ⟨sums.toList.map Vec3.normalize, ?_, fun k hk => ?_⟩
  · rw [faceNormals, triangles_eq_map, hp.length_numbers]
    simp only [List.size_toArray]
    rw [← Document.Primitive.faceCount, h]
    rfl
  · have hk' := hsums k
    rw [Array.getElem?_replicate, if_pos hk, Option.map_some] at hk'
    simp only [List.getElem?_map, Array.getElem?_toList, hk']
    rfl

/-! ## Pieces -/

/-- What a block shows: the same with vertex numbers as natural numbers. -/
def Piece.ofBlock (b : Block) : Piece := ⟨b.name, b.material, b.vertices, b.indices.map (·.toNat)⟩

/-- The normals of a primitive, vertex by vertex. -/
lemma Drawable.exists_normalsOf (hp : Drawable p) (flags : Flags) :
    ∃ ns, normalsOf flags p = some ns ∧
      ∀ k < p.positions.length, ns.bind (·[k]?) = p.normalAt flags k := by
  unfold normalsOf Document.Primitive.normalAt
  split_ifs with hown hcalc
  · exact ⟨some p.normals, rfl, fun k _ => rfl⟩
  · obtain ⟨ns, h, hns⟩ := hp.faceNormals_spec
    exact ⟨some ns, by rw [h]; rfl, fun k hk => hns k hk⟩
  · exact ⟨none, rfl, fun k _ => rfl⟩

/-- The vertex that is emitted for a position. -/
lemma vertexOf_eq {flags : Flags} {world : Mat4 Single} {base : Option Nat}
    {ns : Option (List (Vec3 Single))} {k : Nat} {pos : Vec3 Single}
    (hns : ns.bind (·[k]?) = p.normalAt flags k) (hpos : p.positions[k]? = some pos) :
    vertexOf flags world world.normalMatrix base p ns k pos = p.vertexAt flags world base k := by
  have hpoint : p.point k = pos := by
    simp [Document.Primitive.point, List.getD_eq_getElem?_getD, hpos]
  unfold vertexOf Document.Primitive.vertexAt Document.Primitive.bindingAt
  rw [hns, hpoint]
  cases p.texCoords[k]? <;> cases base <;> cases p.joints[k]? <;> cases p.weights[k]? <;>
    cases flags.flipUVs <;> rfl

/-- **The block of a primitive** is what is drawn of it. -/
lemma Drawable.exists_blockOf (hp : Drawable p) (flags : Flags) (node : Node) (base : Option Nat)
    (name : String) :
    ∃ b, blockOf flags node base name p = some b ∧ Piece.ofBlock b =
      ⟨name, p.material, (List.range p.positions.length).map (p.vertexAt flags node.world base),
        p.winding (node.world.det3.lt 0)⟩ := by
  obtain ⟨ns, h, hns⟩ := hp.exists_normalsOf flags
  refine ⟨_, by simp only [blockOf, h]; rfl, ?_⟩
  simp only [Piece.ofBlock, hp.toNat_winding, Piece.mk.injEq, true_and, and_true]
  refine List.ext_getElem (by simp) fun k h₁ h₂ => ?_
  have hk : k < p.positions.length := by simpa using h₂
  simp only [List.getElem_map, List.getElem_zipIdx, List.getElem_range, Nat.zero_add]
  exact vertexOf_eq (hns k hk) (List.getElem?_eq_getElem hk)

/-- The skins start one after the other. -/
lemma foldl_skinBases (skins : List Document.Skin) :
    ∀ (bases : List Nat) (n : Nat),
      (skins.foldl (fun (bases, n) skin => (bases ++ [n], n + skin.joints.length)) (bases, n)).1 =
        bases ++ (List.range skins.length).map fun i =>
          n + ((skins.take i).map (·.joints.length)).sum := by
  induction skins with
  | nil => simp
  | cons skin skins ih =>
    intro bases n
    rw [List.foldl_cons, ih, List.length_cons, List.range_succ_eq_map]
    simp [Function.comp_def, Nat.add_assoc]

/-- A skin starts after the joints of all skins before it. -/
lemma at?_skinBases {d : Document} {k : Int} (hk : 0 ≤ k ∧ k < d.skins.length) :
    at? (skinBases d) k = some ((d.skins.take k.toNat).map (·.joints.length)).sum := by
  obtain ⟨k, rfl⟩ := Int.eq_ofNat_of_zero_le hk.1
  have hlt : k < d.skins.length := by omega
  rw [at?_natCast, skinBases, foldl_skinBases]
  simp [hlt]

/-! ## Visits -/

variable {d : Document} {s : Scene} {settings : Settings}

/-- A primitive is drawn if it is made of triangles and has positions. -/
lemma isDrawn_eq (q : Document.Primitive) :
    isDrawn q = decide (q.triangles ∧ q.positions.length ≠ 0) := by
  rw [Bool.eq_iff_iff]
  simp [isDrawn]

/-- What is drawn at a visit of a wired document draws vertices that it has. -/
lemma drawable_of_mem_drawsAt (hw : d.Wired) {i : Int} {b : Document.Draw} (hb : b ∈ d.drawsAt i)
    (hcount : b.primitive.positions.length ≤ 2 ^ 32) : Drawable b.primitive := by
  unfold Document.drawsAt at hb
  split at hb
  · simp at hb
  · split at hb
    · simp at hb
    · rename_i n _ shape hshape
      obtain ⟨q, hq, rfl⟩ := List.mem_map.mp hb
      obtain ⟨m, -, hm⟩ := Option.bind_eq_some_iff.mp hshape
      exact ⟨(hw.primitives shape (mem_of_at?_eq_some hm) q (List.mem_of_mem_filter hq)).2, hcount⟩

/-- The primitives drawn at a visit of a node with a mesh. -/
lemma drawsAt_of_mesh {i m : Int} {n : Document.Node} {shape : Document.Shape}
    (hn : at? d.nodes i = some n) (hm : n.mesh = some m) (hshape : at? d.meshes m = some shape) :
    d.drawsAt i = (shape.primitives.filter isDrawn).map fun q => ⟨i, n, shape, q⟩ := by
  simp only [Document.drawsAt, hn, hm, Option.bind_some, hshape]
  congr 1
  exact List.filter_congr fun q _ => (isDrawn_eq q).symm

/-- **The blocks of a visit** are what is drawn there.

**Proof sketch.** A node without a mesh draws nothing. Otherwise all references of the node lead
somewhere, so the mesh is found, and so is the base of the skin's joints. Each primitive that is
drawn is well formed, hence gives a block with the piece it stands for (`exists_blockOf`), and the
blocks are those of the primitives in order (`exists_mapM`). -/
lemma Prepared.exists_blocksAt (hp : s.Prepared d settings) (hw : d.Wired) {i : Int}
    {n : Document.Node} (hn : at? d.nodes i = some n)
    (hsize : ∀ b ∈ d.drawsAt i, b.primitive.positions.length ≤ 2 ^ 32) :
    ∃ bs, blocksAt s d i = some bs ∧ bs.map Piece.ofBlock =
      (d.drawsAt i).map fun b => b.piece d settings (s.worldOf b.number) := by
  obtain ⟨parent, hnode⟩ := hp.at?_nodes hn
  have hmem := mem_of_at?_eq_some hn
  cases hm : n.mesh with
  | none => exact ⟨[], by simp [blocksAt, hnode, hm], by simp [Document.drawsAt, hn, hm]⟩
  | some m =>
    obtain ⟨shape, hshape⟩ := Option.isSome_iff_exists.mp
      (isSome_at?_iff.mpr ((hw.nodes n hmem).1 m hm))
    have hdraws := drawsAt_of_mesh hn hm hshape
    have hblock : ∀ q ∈ shape.primitives.filter isDrawn, ∃ b,
        blockOf s.flags ⟨n.name, parent, n.children, s.worldOf i, n.mesh, n.skin⟩
          (d.jointBase settings.mode n) shape.name q = some b ∧
        Piece.ofBlock b = Document.Draw.piece ⟨i, n, shape, q⟩ d settings (s.worldOf i) := by
      intro q hq
      have hmem' : (⟨i, n, shape, q⟩ : Document.Draw) ∈ d.drawsAt i := by
        rw [hdraws]
        exact List.mem_map.mpr ⟨q, hq, rfl⟩
      have hdraw : Drawable q := drawable_of_mem_drawsAt hw hmem' (hsize _ hmem')
      obtain ⟨b, hb, hpiece⟩ := hdraw.exists_blockOf s.flags
        ⟨n.name, parent, n.children, s.worldOf i, n.mesh, n.skin⟩ (d.jointBase settings.mode n)
        shape.name
      exact ⟨b, hb, by rw [hpiece, hp.flags]; rfl⟩
    obtain ⟨bs, hbs, hpieces⟩ := exists_mapM hblock
    refine ⟨bs, ?_, ?_⟩
    · rw [hm] at hnode hbs
      simp only [blocksAt, hnode, Option.bind_eq_bind, Option.bind_some, hshape]
      simp only [Document.jointBase] at hbs
      cases hk : n.skin with
      | none => simpa [hk] using hbs
      | some k =>
        have hbase := at?_skinBases ((hw.nodes n hmem).2.1 k hk)
        rw [← hp.mode] at hbs
        by_cases hmode : s.mode = .character
        · simpa [hk, hmode, hbase] using hbs
        · simpa [hk, hmode] using hbs
    · rw [hpieces, hdraws, List.map_map]
      rfl

/-- **The blocks of all visits** are what is drawn along the walk. -/
lemma Prepared.exists_blocks (hp : s.Prepared d settings) (hw : d.Wired) {vs : List Int}
    (hvs : s.visits = some vs) (hwalk : d.Preorder d.roots vs)
    (hsize : ∀ b ∈ vs.flatMap d.drawsAt, b.primitive.positions.length ≤ 2 ^ 32) :
    ∃ bs, s.blocks d = some bs ∧ bs.map Piece.ofBlock =
      (vs.flatMap d.drawsAt).map fun b => b.piece d settings (s.worldOf b.number) := by
  have hat : ∀ i ∈ vs, ∃ bs, blocksAt s d i = some bs ∧ bs.map Piece.ofBlock =
      (d.drawsAt i).map fun b => b.piece d settings (s.worldOf b.number) := by
    intro i hi
    obtain ⟨n, hn⟩ := hwalk.exists_node i hi
    exact hp.exists_blocksAt hw hn fun b hb => hsize b (List.mem_flatMap.mpr ⟨i, hi, hb⟩)
  obtain ⟨bss, hbss, hpieces⟩ := exists_mapM hat
  refine ⟨bss.flatten, by simp [blocks, hvs, hbss], ?_⟩
  rw [List.map_flatten, hpieces, List.map_flatMap]
  rfl

/-! ## Merging -/

/-- The vertices of blocks stand one after the other. -/
lemma foldl_add_vertices (bs : List Block) (m : Mesh) :
    (bs.foldl Mesh.add m).vertices = m.vertices ++ bs.flatMap (·.vertices) := by
  induction bs generalizing m with
  | nil => simp
  | cons b bs ih => simp [ih, Mesh.add]

/-- Vertex numbers of a block are moved behind the vertices that are there, without wrapping around
as long as all of them can be numbered. -/
lemma toNat_add_of_lt {base k : Nat} {i : UInt32} (hi : i.toNat < k) (hk : base + k ≤ 2 ^ 32) :
    (base.toUInt32 + i).toNat = base + i.toNat := by
  have hsum : base + i.toNat < 2 ^ 32 := by omega
  rw [UInt32.toNat_add, Nat.toUInt32_eq, UInt32.toNat_ofNat', Nat.mod_add_mod,
    Nat.mod_eq_of_lt hsum]

/-- The vertex numbers of blocks are counted from the start of the mesh. -/
lemma foldl_add_indices (bs : List Block) (m : Mesh)
    (hcorner : ∀ b ∈ bs, ∀ i ∈ b.indices, i.toNat < b.vertices.length)
    (hsize : m.vertices.length + (bs.map (·.vertices.length)).sum ≤ 2 ^ 32) :
    (bs.foldl Mesh.add m).indices.map (·.toNat) =
      m.indices.map (·.toNat) ++ rebased m.vertices.length (bs.map Piece.ofBlock) := by
  induction bs generalizing m with
  | nil => simp [rebased]
  | cons b bs ih =>
    rw [List.map_cons, List.sum_cons] at hsize
    have hmoved : ∀ i ∈ b.indices,
        (m.vertices.length.toUInt32 + i).toNat = m.vertices.length + i.toNat := fun i hi =>
      toNat_add_of_lt (hcorner b (by simp) i hi) (by omega)
    rw [List.foldl_cons, ih (m.add b) (fun c hc => hcorner c (by simp [hc]))
      (by simp only [Mesh.add, List.length_append]; omega)]
    simp only [Mesh.add, List.map_append, List.map_map, List.map_cons, rebased, Piece.ofBlock,
      List.length_append, List.append_assoc]
    congr 2
    exact List.map_congr_left hmoved

/-- There is one group for each block. -/
lemma foldl_add_groups (bs : List Block) (m : Mesh) :
    (bs.foldl Mesh.add m).groups =
      m.groups ++ groupsFrom m.indices.length (bs.map Piece.ofBlock) := by
  induction bs generalizing m with
  | nil => simp [groupsFrom]
  | cons b bs ih => simp [ih, Mesh.add, groupsFrom, Piece.ofBlock]

/-- The box grows by the positions of all blocks. -/
lemma foldl_add_bounds (bs : List Block) (m : Mesh) :
    (bs.foldl Mesh.add m).bounds =
      (bs.flatMap (·.vertices)).foldl (fun box v => box.extend v.position) m.bounds := by
  induction bs generalizing m with
  | nil => rfl
  | cons b bs ih => simp [ih, Mesh.add, List.foldl_append]

/-- Adding blocks does not change whether a mesh is skinned. -/
lemma foldl_add_skinned (bs : List Block) (m : Mesh) :
    (bs.foldl Mesh.add m).skinned = m.skinned := by
  induction bs generalizing m with
  | nil => rfl
  | cons b bs ih => simp [ih, Mesh.add]

/-- **Blocks put one after the other merge** into the mesh of their pieces. -/
lemma settle_foldl_add_merges (bs : List Block) (mode : Mode)
    (hcorner : ∀ p ∈ bs.map Piece.ofBlock, ∀ c ∈ p.corners, c < p.vertices.length)
    (hsize : ((bs.map Piece.ofBlock).map (·.vertices.length)).sum ≤ 2 ^ 32) :
    (settle (bs.foldl Mesh.add (emptyMesh mode))).Merges mode (bs.map Piece.ofBlock) := by
  have hlt : ∀ b ∈ bs, ∀ i ∈ b.indices, i.toNat < b.vertices.length := fun b hb i hi =>
    hcorner (.ofBlock b) (List.mem_map_of_mem hb) i.toNat (List.mem_map_of_mem hi)
  rw [List.map_map] at hsize
  have hvertices := foldl_add_vertices bs (emptyMesh mode)
  have hindices := foldl_add_indices bs (emptyMesh mode) hlt ((Nat.zero_add _).trans_le hsize)
  have hgroups := foldl_add_groups bs (emptyMesh mode)
  have hbounds := foldl_add_bounds bs (emptyMesh mode)
  have hskinned := foldl_add_skinned bs (emptyMesh mode)
  generalize bs.foldl Mesh.add (emptyMesh mode) = m at *
  have hpieces : (bs.map Piece.ofBlock).flatMap (·.vertices) = bs.flatMap (·.vertices) := by
    rw [List.flatMap_map]
    rfl
  have hsettled : settle m = { m with bounds := if m.vertices = [] then {} else m.bounds } := by
    simp only [settle, List.isEmpty_iff]
    split_ifs <;> rfl
  rw [hsettled]
  refine ⟨hvertices.trans hpieces.symm, hindices, hgroups, ?_, hskinned⟩
  rw [hbounds, hvertices]
  rfl

/-- **Flattening merges what is drawn along the walk.** A valid document is set up and flattened at
any positive scale, as long as the vertices that are drawn can be numbered; the walk from the roots
is unique, and the mesh is made of what is drawn at its visits.

**Proof sketch.** In a valid document every look-up succeeds, so the visits are the walk
(`Prepared.exists_visits`) and the block of every visited primitive is its piece
(`Prepared.exists_blocks`). The blocks are put one after the other: vertices, groups and box follow
by induction over the blocks, and vertex numbers do not wrap around since every corner is at a
vertex of its own piece (`Drawable.winding_lt`). -/
theorem flatten_merges (s : Scene) (d : Document) (settings : Settings)
    (hvalid : d.validate = .ok ()) (hscale : Single.lt 0 settings.scale)
    (hsize : ∀ vs, d.Preorder d.roots vs →
      ((vs.flatMap d.drawsAt).map (·.primitive.positions.length)).sum ≤ 2 ^ 32) :
    ∃ scene mesh visits, s.setup d settings = .ok scene ∧ scene.flatten.1 = .ok mesh ∧
      (∀ vs, d.Preorder d.roots vs ↔ vs = visits) ∧
      mesh.Merges settings.mode ((visits.flatMap d.drawsAt).map fun b =>
        b.piece d settings (scene.worldOf b.number)) := by
  have hw : d.Wired := (Document.validate_eq_ok_iff_wired.mp hvalid).1
  obtain ⟨scene, hsetup, hp⟩ := exists_setup s hw hscale
  obtain ⟨visits, hvisits, hwalk⟩ := hp.exists_visits hw
  have htotal := hsize visits hwalk
  have hcount : ∀ b ∈ visits.flatMap d.drawsAt, b.primitive.positions.length ≤ 2 ^ 32 := by
    intro b hb
    exact (List.le_sum_of_mem (List.mem_map_of_mem hb)).trans htotal
  obtain ⟨bs, hbs, hpieces⟩ := hp.exists_blocks hw hvisits hwalk hcount
  have hcorner : ∀ p ∈ (visits.flatMap d.drawsAt).map fun b =>
      b.piece d settings (scene.worldOf b.number), ∀ c ∈ p.corners, c < p.vertices.length := by
    intro p hmem c hc
    obtain ⟨b, hb, rfl⟩ := List.mem_map.mp hmem
    obtain ⟨i, -, hi⟩ := List.mem_flatMap.mp hb
    have hdraw := drawable_of_mem_drawsAt hw hi (hcount b hb)
    simpa [Document.Draw.piece] using hdraw.winding_lt _ c hc
  have hpositions : (((visits.flatMap d.drawsAt).map fun b =>
      b.piece d settings (scene.worldOf b.number)).map (·.vertices.length)).sum ≤ 2 ^ 32 := by
    simpa [Document.Draw.piece, Function.comp_def] using htotal
  refine ⟨scene, settle (bs.foldl Mesh.add (emptyMesh scene.mode)), visits, hsetup, ?_, ?_, ?_⟩
  · simp [flatten, hp.doc, hp.fresh, merge, hbs]
  · exact fun vs => ⟨fun h => h.unique hwalk, fun h => h ▸ hwalk⟩
  · rw [← hpieces] at hcorner hpositions ⊢
    rw [← hp.mode]
    exact settle_foldl_add_merges bs scene.mode hcorner hpositions

/-- A document in which a child is listed twice and another is mirrored. Of the three primitives
only the first is drawn, and the last of its vertex numbers belongs to no triangle. -/
def foldedPanel : Document where
  nodes := [{ children := [1, 1, 2] }, { mesh := some 0 },
    { mesh := some 0, skin := some 0, placement := { scale := ⟨-1, 1, 1⟩ } }]
  meshes := [{ name := "panel", primitives := [
    { positions := [.zero, ⟨1, 0, 0⟩, ⟨0, 1, 0⟩], indices := some [0, 1, 2, 0] },
    { positions := [.zero, ⟨1, 0, 0⟩], triangles := false }, {}] }]
  skins := [{ joints := [1] }]
  scenes := [{ nodes := [0] }]

/-- The panel is drawn once for every visit, and mirrored at the last of them. -/
theorem flatten_merges_foldedPanel :
    foldedPanel.validate = .ok () ∧ Single.lt 0 1 ∧
      ∃ scene mesh, (({} : Scene).setup foldedPanel {} = .ok scene ∧ scene.flatten.1 = .ok mesh) ∧
        mesh.Merges .static (([0, 1, 1, 2].flatMap foldedPanel.drawsAt).map fun b =>
          b.piece foldedPanel {} (scene.worldOf b.number)) := by
  have hvalid : foldedPanel.validate = .ok () := rfl
  have hscale : Single.lt 0 1 := by decide +kernel
  have hwalk : foldedPanel.Preorder foldedPanel.roots [0, 1, 1, 2] := by
    have hmirrored : foldedPanel.Preorder [2] _ := .cons rfl .nil .nil
    have hsecond : foldedPanel.Preorder [1, 2] _ := .cons rfl .nil hmirrored
    have hbelow : foldedPanel.Preorder [1, 1, 2] _ := .cons rfl .nil hsecond
    have hroot : foldedPanel.Preorder [0] _ := .cons rfl hbelow .nil
    exact hroot
  have hsize : ∀ vs, foldedPanel.Preorder foldedPanel.roots vs →
      ((vs.flatMap foldedPanel.drawsAt).map (·.primitive.positions.length)).sum ≤ 2 ^ 32 := by
    intro vs hvs
    rw [hvs.unique hwalk]
    decide
  obtain ⟨scene, mesh, visits, hsetup, hflatten, hunique, hmerges⟩ :=
    flatten_merges {} foldedPanel {} hvalid hscale hsize
  rw [← (hunique _).mp hwalk] at hmerges
  exact ⟨hvalid, hscale, scene, mesh, ⟨hsetup, hflatten⟩, hmerges⟩

end Scene

end SceneForge
