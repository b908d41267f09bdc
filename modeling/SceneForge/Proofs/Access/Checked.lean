import SceneForge.Model.Generate
import SceneForge.Proofs.Scene.Reference

set_option autoImplicit false

/-!
# Checked access

An export looks up nodes, meshes, skins, textures, images, materials and vertices by number, and
mostly trusts that they are there. Here every such access is made with a check: a checked function
gives nothing as soon as one access is out of range, or if it does not come to an end. What an
unchecked function looks at before an access, a checked one looks at too, and no more.

## Main definitions

* `SceneForge.set?`, `SceneForge.slice?`, `SceneForge.setAll?` — sequences.
* `SceneForge.Document.roots?`, `SceneForge.Document.imageData?` — documents.
* `SceneForge.Scene.setup?`, `SceneForge.Scene.flatten?` — scenes.
* `SceneForge.Surface.build?`, `SceneForge.Model.ofScene?` — surfaces and models.

## Main results

* `SceneForge.setAll?_eq_some` — what remains if entries in range are replaced.
-/

namespace SceneForge

/-! ## Checked access to sequences -/

section Sequences

variable {α β : Type} {xs : List α}

/-- The sequence with the entry at an index replaced, if the index lies in the sequence. -/
def set? (xs : List α) (i : Int) (a : α) : Option (List α) :=
  (at? xs i).map fun _ => xs.set i.toNat a

/-- The part of a sequence from one position up to another, if both lie in it in this order. -/
def slice? (xs : List α) (start stop : Int) : Option (List α) :=
  if 0 ≤ start ∧ start ≤ stop ∧ stop ≤ xs.length then
    some ((xs.drop start.toNat).take (stop - start).toNat)
  else none

/-- Entries are replaced one after the other. -/
def setAll? (xs : List α) (updates : List (Int × α)) : Option (List α) :=
  updates.foldlM (fun xs u => set? xs u.1 u.2) xs

/-- The last value that is given for an index. -/
def lastFor (updates : List (Int × α)) (i : Int) (a : α) : α :=
  updates.foldl (fun last u => if u.1 = i then u.2 else last) a

/-- An entry in range can be replaced. -/
lemma set?_eq_some {i : Int} (hi : 0 ≤ i ∧ i < xs.length) (a : α) :
    set? xs i a = some (xs.set i.toNat a) := by
  obtain ⟨b, hb⟩ := Option.isSome_iff_exists.mp (isSome_at?_iff.mpr hi)
  simp [set?, hb]

/-- **Entries in range can be replaced**, and the last value for each index is what remains. -/
lemma setAll?_eq_some (updates : List (Int × α)) :
    ∀ xs : List α, (∀ u ∈ updates, 0 ≤ u.1 ∧ u.1 < xs.length) →
      setAll? xs updates = some (xs.mapIdx fun k a => lastFor updates k a) := by
  induction updates with
  | nil =>
    intro xs _
    have hid : xs.mapIdx (fun k a => lastFor [] k a) = xs := List.ext_getElem? fun k => by
      simp [lastFor]
    rw [hid]
    rfl
  | cons u updates ih =>
    intro xs h
    obtain ⟨hu, hrest⟩ := List.forall_mem_cons.mp h
    have hset : setAll? xs (u :: updates) = setAll? (xs.set u.1.toNat u.2) updates := by
      rw [setAll?, List.foldlM_cons, set?_eq_some hu]
      rfl
    rw [hset, ih _ (by simpa using hrest)]
    congr 1
    refine List.ext_getElem? fun k => ?_
    rw [List.getElem?_mapIdx, List.getElem?_mapIdx, List.getElem?_set]
    obtain ⟨j, hj⟩ := Int.eq_ofNat_of_zero_le hu.1
    by_cases hk : j = k
    · subst hk
      have hlt : j < xs.length := by omega
      simp [hj, hlt, lastFor]
    · simp [hj, hk, lastFor]

/-- A partial map depends on the entries of the list only. -/
lemma mapM_congr {f g : α → Option β} {xs : List α} (h : ∀ a ∈ xs, f a = g a) :
    xs.mapM f = xs.mapM g := by
  induction xs with
  | nil => rfl
  | cons a xs ih =>
    obtain ⟨ha, hxs⟩ := List.forall_mem_cons.mp h
    rw [List.mapM_cons, List.mapM_cons, ha, ih hxs]

/-- Two partial maps that give the same on every entry of a list give the same on the list. -/
lemma exists_mapM_mapM {f g : α → Option β} {P : β → Prop} {xs : List α}
    (h : ∀ a ∈ xs, ∃ b, (f a = some b ∧ g a = some b) ∧ P b) :
    ∃ bs, xs.mapM f = some bs ∧ xs.mapM g = some bs ∧ ∀ b ∈ bs, P b := by
  induction xs with
  | nil => exact ⟨[], rfl, rfl, by simp⟩
  | cons a xs ih =>
    obtain ⟨⟨b, ⟨hf, hg⟩, hb⟩, hxs⟩ := List.forall_mem_cons.mp h
    obtain ⟨bs, hfs, hgs, hbs⟩ := ih hxs
    exact ⟨b :: bs, by simp [hf, hfs], by simp [hg, hgs], List.forall_mem_cons.mpr ⟨hb, hbs⟩⟩

/-- A loop depends on what its steps do as long as what they need is kept. -/
lemma foldlM_congr {f g : β → α → Option β} {P : β → Prop} {xs : List α}
    (h : ∀ a ∈ xs, ∀ b, P b → f b a = g b a ∧ ∀ b', g b a = some b' → P b') :
    ∀ b, P b → xs.foldlM f b = xs.foldlM g b := by
  induction xs with
  | nil => exact fun _ _ => rfl
  | cons a xs ih =>
    intro b hb
    obtain ⟨ha, hxs⟩ := List.forall_mem_cons.mp h
    obtain ⟨heq, hkeep⟩ := ha b hb
    rw [List.foldlM_cons, List.foldlM_cons, heq]
    cases hg : g b a with
    | none => rfl
    | some b' => exact ih hxs b' (hkeep b' hg)

end Sequences

/-! ## Documents -/

namespace Document

/-- For every node whether it is somebody's child; children that are no nodes are skipped. -/
def haveParent? (d : Document) : Option (List Bool) :=
  setAll? (List.replicate d.nodes.length false)
    (((d.nodes.flatMap (·.children)).filter (inRange · d.nodes.length)).map (·, true))

/-- The nodes that are nobody's child. -/
def orphans? (d : Document) : Option (List Int) := do
  let marks ← d.haveParent?
  return (marks.zipIdx.filter fun p => !p.1).map fun p => (p.2 : Int)

/-- The nodes from which the document is traversed. Only the upper end of the default scene is
looked at before the access. -/
def roots? (d : Document) : Option (List Int) :=
  let first := match d.scenes with
    | s :: _ => some s.nodes
    | [] => d.orphans?
  match d.defaultScene with
  | none => first
  | some i => if i < d.scenes.length then (at? d.scenes i).map (·.nodes) else first

/-- The bytes of a view. -/
def viewData? (d : Document) (i : Int) : Option (Except Failure Bytes) :=
  let here := "buffer view " ++ toString i
  if !inRange i d.views.length then some (.error (badReference here))
  else do
    let v ← at? d.views i
    if !inRange v.buffer.toInt d.buffers.length then
      return .error (badReference (here ++ ": buffer " ++ toString v.buffer.toInt))
    else
      let b ← at? d.buffers v.buffer.toInt
      let stop := v.offset + v.length
      if v.offset < 0 || v.length < 0 || stop.toInt > b.data.length then
        return .error (badReference (here ++ ": range [" ++ toString v.offset.toInt ++ ":" ++
          toString stop.toInt ++ "] of " ++ toString b.data.length ++ " bytes"))
      else return .ok (← slice? b.data v.offset.toInt stop.toInt)

/-- The bytes of an embedded image. -/
def imageData? (d : Document) (i : Int) : Option (Except Failure Bytes) :=
  if !inRange i d.images.length then some (.error (badReference ("image " ++ toString i)))
  else do
    let image ← at? d.images i
    if !image.data.isEmpty then return .ok image.data
    else
      match image.view with
      | none => return .error ⟨.externalImage, ["image " ++ toString i ++ " (" ++ image.uri ++ ")"]⟩
      | some v => d.viewData? v

end Document

/-! ## Scenes -/

namespace Scene

/-- The children of all nodes in order, each with the node that lists it. -/
def links (doc : Document) : List (Int × Ref) :=
  doc.nodes.zipIdx.flatMap fun (n, i) => n.children.map (·, some (i : Int))

/-- The parents of all nodes. -/
def parents? (doc : Document) : Option (List Ref) :=
  setAll? (List.replicate doc.nodes.length none) (links doc)

/-- The world transforms with those of a node and everything below it set. -/
def place? (nodes : List Document.Node) :
    Nat → Mat4 Single → List (Mat4 Single) → Int → Option (List (Mat4 Single))
  | 0, _, _, _ => none
  | fuel + 1, parent, worlds, i => do
    let node ← at? nodes i
    let world := parent * node.local
    let worlds ← set? worlds i world
    node.children.foldlM (place? nodes fuel world) worlds

/-- World transforms of all nodes. -/
def worlds? (doc : Document) (roots : List Int) (scale : Single) : Option (List (Mat4 Single)) :=
  let n := doc.nodes.length
  roots.foldlM (place? doc.nodes (n + 1) (Mat4.scaling (.fill scale))) (List.replicate n (.fill 0))

/-- The nodes of a scene, all data about them being given. -/
def assemble (doc : Document) (parents : List Ref) (worlds : List (Mat4 Single)) : List Node :=
  (doc.nodes.zip (parents.zip worlds)).map fun (n, parent, world) =>
    ⟨n.name, parent, n.children, world, n.mesh, n.skin⟩

/-- The joints of one skin, the parents of all nodes being given. -/
def skinJoints? (doc : Document) (parents : List Ref) (base : Nat) (skin : Document.Skin) :
    Option (List Joint) :=
  skin.joints.mapM fun node => do
    let n ← at? doc.nodes node
    let above ← at? parents node
    let parent := above.bind fun p =>
      skin.joints.zipIdx.foldl
        (fun last q => if q.1 = p then some ((base + q.2 : Nat) : Int) else last) none
    return ⟨n.name, node, parent⟩

/-- The joints of all skins, in order. -/
def skeletonOf? (doc : Document) (parents : List Ref) : Option (List Joint) :=
  doc.skins.foldlM (fun joints skin => do
    return joints ++ (← skinJoints? doc parents joints.length skin)) []

/-- The scene of a document. -/
def setup? (s : Scene) (doc : Document) (settings : Settings) : Option (Except Failure Scene) :=
  let scale := settings.scale
  if scale.lt 0 || scale.same 0 then some (.error ⟨.invalidScale, ["got " ++ scale.text]⟩)
  else do
    let roots ← doc.roots?
    let parents ← parents? doc
    let worlds ← worlds? doc roots scale
    let skeleton ← if settings.mode = .character then skeletonOf? doc parents else some []
    return .ok { name := s.name, category := s.category, nodes := assemble doc parents worlds,
                 roots, skeleton, flags := settings.flags, mode := settings.mode, scale,
                 doc := some doc }

/-- The position of the first joint of each skin. -/
def skinBases? (doc : Document) : Option (List Nat) := do
  let (bases, _) ← doc.skins.zipIdx.foldlM (fun (bases, n) (skin, i) => do
    return (← set? bases i n, n + skin.joints.length)) (List.replicate doc.skins.length 0, 0)
  return bases

/-- The triangles of a list of vertex numbers; a rest of one or two is dropped. -/
def triangles? (xs : List UInt32) : Option (List (UInt32 × UInt32 × UInt32)) :=
  (List.range (xs.length / 3)).mapM fun t => do
    return (← xs[3 * t]?, ← xs[3 * t + 1]?, ← xs[3 * t + 2]?)

/-- The normal of a triangle is added to the sums at its corners. -/
def addFace? (points sums : Array (Vec3 Single)) :
    UInt32 × UInt32 × UInt32 → Option (Array (Vec3 Single))
  | (a, b, c) => do
    let p0 ← points[a.toNat]?
    let p1 ← points[b.toNat]?
    let p2 ← points[c.toNat]?
    let n := (p1 - p0).cross (p2 - p0)
    [a, b, c].foldlM (fun sums i => sums[i.toNat]?.map fun _ => sums.modify i.toNat (· + n)) sums

/-- The normals of the faces around each vertex, summed and normalised. -/
def faceNormals? (positions : List (Vec3 Single)) (ts : List (UInt32 × UInt32 × UInt32)) :
    Option (List (Vec3 Single)) := do
  let points := positions.toArray
  let sums ← ts.foldlM (addFace? points) (Array.replicate points.size Vec3.zero)
  return sums.toList.map Vec3.normalize

/-- The normals of a primitive. -/
def normalsOf? (flags : Flags) (p : Document.Primitive) (ts : List (UInt32 × UInt32 × UInt32)) :
    Option (Option (List (Vec3 Single))) :=
  if p.normals.length = p.positions.length then some (some p.normals)
  else if flags.calcNormals then (faceNormals? p.positions ts).map some
  else some none

/-- The normal of a vertex in world space. If there are normals there has to be one for the
vertex. -/
def normalAt? (normalMatrix : Mat4 Single) (normals : Option (List (Vec3 Single))) (k : Nat) :
    Option (Vec3 Single) :=
  match normals with
  | some ns => ns[k]?.map fun n => (normalMatrix.transformDirection n).normalize
  | none => some .zero

/-- The texture coordinates of a vertex, read as far as they go. -/
def texCoordAt? (flags : Flags) (p : Document.Primitive) (k : Nat) : Option (Vec2 Single) :=
  if k < p.texCoords.length then
    p.texCoords[k]?.map fun t => if flags.flipUVs then ⟨t.x, 1 - t.y⟩ else t
  else some .zero

/-- A vertex of a primitive in world space. Joints and weights are read as far as both go. -/
def vertexOf? (flags : Flags) (world normalMatrix : Mat4 Single) (jointBase : Option Nat)
    (p : Document.Primitive) (normals : Option (List (Vec3 Single))) (k : Nat)
    (pos : Vec3 Single) : Option Vertex := do
  let normal ← normalAt? normalMatrix normals k
  let texCoord ← texCoordAt? flags p k
  let plain : Vertex := { position := world.transformPoint pos, normal, texCoord }
  match jointBase with
  | none => return plain
  | some base =>
    if k < p.joints.length ∧ k < p.weights.length then
      let j ← p.joints[k]?
      let weights ← p.weights[k]?
      let shift := base.toUInt16
      return { plain with joints := ⟨shift + j.x, shift + j.y, shift + j.z, shift + j.w⟩, weights }
    else return plain

/-- The block of a primitive at a node. -/
def blockOf? (flags : Flags) (node : Node) (jointBase : Option Nat) (name : String)
    (p : Document.Primitive) : Option Block := do
  let ts ← triangles? (numbers p)
  let normals ← normalsOf? flags p ts
  let vertices ← p.positions.zipIdx.mapM fun (pos, k) =>
    vertexOf? flags node.world node.world.normalMatrix jointBase p normals k pos
  return {
    name, material := p.material, vertices
    indices := ts.flatMap fun (a, b, c) =>
      if node.world.det3.lt 0 then [a, c, b] else [a, b, c] }

/-- Where the skin of a node starts in the skeleton, the positions of the skins being given. -/
def jointBase? (s : Scene) (bases : List Nat) (skin : Ref) : Option (Option Nat) :=
  match skin with
  | some k => if s.mode = .character then (at? bases k).map some else some none
  | none => some none

/-- The blocks of one visit, the positions of the skins being given. -/
def blocksAt? (s : Scene) (doc : Document) (bases : List Nat) (i : Int) : Option (List Block) := do
  let node ← at? s.nodes i
  match node.mesh with
  | none => return []
  | some m =>
    let shape ← at? doc.meshes m
    let jointBase ← jointBase? s bases node.skin
    (shape.primitives.filter isDrawn).mapM (blockOf? s.flags node jointBase shape.name)

/-- The merged mesh of a scene. -/
def merge? (s : Scene) (doc : Document) : Option Mesh := do
  let bases ← skinBases? doc
  let blocks ← (← s.visits).mapM (blocksAt? s doc bases)
  return settle (blocks.flatten.foldl Mesh.add (emptyMesh s.mode))

/-- The scene is flattened. -/
def flatten? (s : Scene) : Option (Except Failure Mesh × Scene) :=
  match s.doc with
  | none => some (.error ⟨.notSetUp, []⟩, s)
  | some doc =>
    if s.flattened then some (.error ⟨.alreadyFlattened, []⟩, s)
    else (s.merge? doc).map fun m => (.ok m, { s with flattened := true, mesh := some m })

end Scene

/-! ## Surfaces and models -/

namespace Surface

/-- The texture of a slot. Only the upper ends of references are looked at before an access. -/
def slotTexture? (doc : Document) (id : AssetId) (slot : Ref) (fallback : String) :
    Option (Except Failure String) :=
  match slot with
  | none => some (.ok fallback)
  | some t =>
    let here := "texture " ++ toString t
    if t ≥ doc.textures.length then some (.error ⟨.invalidReference, [here]⟩)
    else do
      let texture ← at? doc.textures t
      match texture.source with
      | none => return .error ⟨.unresolvedReference, [here ++ " has no source image"]⟩
      | some i =>
        if i ≥ doc.images.length then
          return .error ⟨.invalidReference, [here ++ ": image " ++ toString i]⟩
        else
          let image ← at? doc.images i
          if image.embedded then return .ok (id.textureRef i)
          else return .error ⟨.unresolvedReference,
            [here ++ ": image " ++ toString i ++ " (" ++ image.uri ++ ")"]⟩

/-- The surface of a material. -/
def ofMaterial? (doc : Document) (id : AssetId) (name template : String) (m : Document.Material) :
    ExceptT Failure Option Surface := do
  let textures ← (slots m).mapM fun (param, slot, fallback) => do
    let ref ← ExceptT.mk ((slotTexture? doc id slot fallback).map
      (inContext ("material " ++ Text.quote name ++ " " ++ param)))
    return Binding.mk param (.texture ref)
  return { name, template, bindings := textures ++ [
    ⟨"baseColorFactor", .vec4 m.baseColorFactor⟩,
    ⟨"metallicFactor", .scalar m.metallicFactor⟩,
    ⟨"roughnessFactor", .scalar m.roughnessFactor⟩] }

/-- The surfaces of numbered materials, after those with the given names. -/
def buildFrom? (doc : Document) (id : AssetId) (template : String) (seen : List String) :
    List Nat → ExceptT Failure Option (List Surface)
  | [] => return []
  | i :: rest => do
    let m ← ExceptT.lift doc.materials[i]?
    let name := Document.materialName i m
    match seen.findIdx? (· == name) with
    | some first => throw ⟨.duplicateMaterial, [Text.quote name ++ " used by materials " ++
        toString first ++ " and " ++ toString i]⟩
    | none =>
      let s ← ofMaterial? doc id name template m
      return s :: (← buildFrom? doc id template (seen ++ [name]) rest)

/-- The surfaces of all materials of a document. -/
def build? (doc : Document) (id : AssetId) (template : String) :
    Option (Except Failure (List Surface)) :=
  (buildFrom? doc id template [] (List.range doc.materials.length)).run

end Surface

namespace Model

/-- The surface of a group. Only the upper end of the material is looked at before the access. -/
def surfaceOf? (doc : Option Document) (id : AssetId) (material : Ref) : Option String :=
  match doc, material with
  | some doc, some i =>
    if i < doc.materials.length then
      (at? doc.materials i).map fun m => id.surfaceRef (Document.materialName i.toNat m)
    else some ""
  | _, _ => some ""

/-- The model of a scene. -/
def ofScene? (s : Scene) (id : AssetId) (mesh : Mesh) (flags : Flags) (mode : Mode) :
    Option Model := do
  let parts ← mesh.groups.mapM fun g => do
    return { name := Text.Utf8.decodeLossy g.name, surface := ← surfaceOf? s.doc id g.material
             firstIndex := g.firstIndex, indexCount := g.indexCount }
  return { ofScene s id mesh flags mode with parts }

end Model

end SceneForge
