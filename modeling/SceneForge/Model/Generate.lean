import SceneForge.Mesh.Codec
import SceneForge.Model.Basic
import SceneForge.Scene.Basic
import SceneForge.Surface.Build

set_option autoImplicit false

/-!
# Models of a scene

The last step of an export: the model and the physics model of a scene whose mesh has been merged.

## Main definitions

* `SceneForge.Model.ofScene` — the model of a scene.
* `SceneForge.Mesh.collision` — the mesh that collides.
* `SceneForge.Scene.generateModels` — the files of both models.
-/

namespace SceneForge

/-- The surface of a group, if it has a material of the document. -/
def Model.surfaceOf (doc : Option Document) (id : AssetId) (material : Ref) : String :=
  match doc, material with
  | some doc, some i =>
    match at? doc.materials i with
    | some m => id.surfaceRef (Document.materialName i.toNat m)
    | none => ""
  | _, _ => ""

/-- The model of a scene. Only characters have joints. -/
def Model.ofScene (s : Scene) (id : AssetId) (mesh : Mesh) (flags : Flags) (mode : Mode) : Model where
  name := id.name
  category := id.category
  mode := mode
  flags := flags.names
  scale := s.scale
  mesh := id.mesh
  bounds := mesh.bounds
  parts := mesh.groups.map fun g =>
    { name := Text.Utf8.decodeLossy g.name, surface := surfaceOf s.doc id g.material
      firstIndex := g.firstIndex, indexCount := g.indexCount }
  joints := if mode = .character then s.skeleton.map fun j => ⟨j.name, j.parent.getD (-1)⟩ else []

/-- The mesh that collides: positions only, in one group. -/
def Mesh.collision (m : Mesh) : Mesh where
  vertices := m.vertices.map fun v => { position := v.position }
  indices := m.indices
  groups := [{ name := utf8 "physics", indexCount := m.indices.length }]
  bounds := m.bounds

/-- The physics description next to the source of an asset. -/
def Job.physicsOf (id : AssetId) (base : String) : Job Physics := do
  let uri := base ++ id.name ++ ".physics"
  if ← look (·.fileExists uri) then
    let data ← readAll uri
    ofExcept (Physics.parse uri data)
  else return {}

/-- The physics model of an asset. A mesh that collides is written before it. -/
def PhysicsModel.make (id : AssetId) (platform : Platform) (mesh : Mesh) (p : Physics) :
    Job PhysicsModel := do
  let m : PhysicsModel := { name := id.name, collider := p.collider, mass := p.mass }
  match p.collider with
  | "box" => return { m with bounds := some mesh.bounds }
  | "mesh" =>
    MeshFile.save id.physicsMesh mesh.collision platform
    return { m with mesh := id.physicsMesh }
  | _ => return m

/-- The models of a scene are written; the base path has to be that of the asset. -/
def Scene.generateModels (s : Scene) (id : AssetId) (platform : Platform) (base : String)
    (flags : Flags) (mode : Mode) : Job Unit := do
  if base != id.basePath then
    Job.fail ⟨.basePath, [base ++ " for " ++ id.text]⟩
  match s.mesh with
  | none => Job.fail ⟨.noMesh, []⟩
  | some mesh =>
    let physics ← Job.physicsOf id base
    Job.writeAll id.model (utf8 (Model.ofScene s id mesh flags mode).render)
    let pm ← PhysicsModel.make id platform mesh physics
    Job.writeAll id.physicsModel (utf8 pm.render)

end SceneForge
