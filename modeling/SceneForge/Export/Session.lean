import SceneForge.Freshness
import SceneForge.Gltf.Load
import SceneForge.Model.Generate
import SceneForge.Scene.Flatten
import SceneForge.Surface.Build
import SceneForge.Texture.Extract

set_option autoImplicit false

/-!
# Export sessions

A session exports one asset at a time, in two phases. Starting an export makes textures, surfaces
and the merged mesh and leaves a pending export behind; ending it makes the models. Whatever fails,
the session is open again and ready for the next asset.

## Main definitions

* `SceneForge.Workshop` — the parts that do the work of an export.
* `SceneForge.SessionState` — what a session is doing.
* `SceneForge.Pending`, `SceneForge.Session` — an export between its phases, and sessions.
* `SceneForge.Session.acquire`, `SceneForge.Session.close` — the life of a session.
* `SceneForge.Session.start`, `SceneForge.Session.finish` — the phases of an export.
-/

namespace SceneForge

/-- The parts that do the work of an export. -/
structure Workshop where
  /-- The document at a location. -/
  load : String → Job Document
  /-- A picture file becomes a texture. -/
  convert : Texture.Converter
  /-- A mesh is written. -/
  saveMesh : String → Mesh → Platform → Job Unit
  /-- The models of a scene are written. -/
  generate : Scene → AssetId → Platform → String → Flags → Mode → Job Unit

/-- The usual parts, with tools for textures. -/
def Workshop.standard (tools : Texture.Tools) : Workshop where
  load := Document.load
  convert := Texture.convert tools
  saveMesh := MeshFile.save
  generate := Scene.generateModels

/-- What the first phase of an export made. -/
structure Stats where
  /-- Textures. -/
  textures : Nat := 0
  /-- Surfaces. -/
  surfaces : Nat := 0
  /-- Vertices of the merged mesh. -/
  vertices : Nat := 0
  /-- Triangles of the merged mesh. -/
  triangles : Nat := 0
deriving DecidableEq, Inhabited

/-- What a session is doing. -/
inductive SessionState where
  /-- It holds nothing. -/
  | closed
  /-- It is ready for an export. -/
  | isOpen
  /-- The first phase of an export is running. -/
  | exporting
  /-- The first phase is done and the models are not made yet. -/
  | awaitingFinalize
deriving DecidableEq, Inhabited

namespace SessionState

/-- Every state, in a fixed order. -/
def all : List SessionState := [closed, isOpen, exporting, awaitingFinalize]

/-- The name of a state. -/
def name : SessionState → String
  | closed => "closed"
  | isOpen => "open"
  | exporting => "exporting"
  | awaitingFinalize => "awaiting-finalize"

end SessionState

/-- An export between its two phases. -/
structure Pending where
  /-- The session that started it. -/
  owner : Nat
  /-- Its number among the exports of that session. -/
  serial : Nat
  /-- The asset. -/
  id : AssetId
  /-- The settings it was started with. -/
  settings : Settings
  /-- What the first phase made. -/
  stats : Stats
deriving DecidableEq, Inhabited

/-- A session. -/
structure Session where
  /-- Which session it is. -/
  owner : Nat := 0
  /-- The platform of the meshes it writes. -/
  platform : Platform
  /-- Whether assets are exported that are up to date. -/
  force : Bool := false
  /-- What it is doing. -/
  state : SessionState := .closed
  /-- The scene that exports are put together in. -/
  scene : Option Scene := none
  /-- The document of the current export. -/
  doc : Option Document := none
  /-- The export that waits for its second phase. -/
  pending : Option Pending := none
  /-- How many exports it has started successfully. -/
  serial : Nat := 0

/-! ## Stages -/

namespace Stage

/-- A count, or the failure that came with it. -/
def settle (r : Nat × Option Failure) : Job Nat :=
  match r with
  | (_, some f) => Job.fail f
  | (n, none) => return n

/-- The textures of a document are made. -/
def textures (w : Workshop) (doc : Document) (id : AssetId) : Job Nat := do
  let n ← settle (← Texture.extract w.convert doc id.textureDir)
  Job.measure (·.addTextures n)
  return n

/-- The template of the surfaces in a mode. -/
def template : Mode → String
  | .character => Surface.skinnedTemplate
  | .static => Surface.staticTemplate

/-- The surfaces of a document are written; without materials nothing happens. -/
def surfaces (doc : Document) (id : AssetId) (mode : Mode) : Job Nat := do
  if doc.materials.isEmpty then return 0
  let n ← settle (← Surface.generate doc id (template mode))
  Job.measure (·.addSurfaces n)
  return n

/-- The merged mesh of a document. -/
def merge (scene : Scene) (doc : Document) (settings : Settings) : Except Failure Mesh × Scene :=
  match scene.setup doc settings with
  | .error f => (.error f, scene)
  | .ok scene => scene.flatten

/-- The merged mesh of a document is written. -/
def mesh (w : Workshop) (platform : Platform) (id : AssetId) (r : Except Failure Mesh) :
    Job Mesh := do
  let m ← Job.ofExcept r
  w.saveMesh id.mesh m platform
  Job.measure (·.mesh m.triangleCount)
  return m

/-- All stages of the first phase: what they made, and the scene they leave. The scene is only
touched once textures and surfaces are there. -/
def all (w : Workshop) (platform : Platform) (scene : Scene) (doc : Document) (id : AssetId)
    (settings : Settings) : Job (Except Failure Stats × Scene) := do
  let first ← Job.attempt do
    let textures ← Job.within "textures stage" (textures w doc id)
    let surfaces ← Job.within "surfaces stage" (surfaces doc id settings.mode)
    return (textures, surfaces)
  match first with
  | .error f => return (.error f, scene)
  | .ok (textures, surfaces) =>
    let (merged, scene) := merge scene doc settings
    let last ← Job.attempt (Job.within "mesh stage" (mesh w platform id merged))
    return (last.map fun m =>
      { textures, surfaces, vertices := m.vertices.length, triangles := m.triangleCount }, scene)

end Stage

/-! ## Life cycle -/

namespace Session

/-- The failure of a call that does not fit the state of a session. -/
def misplaced (call : String) (s : Session) : Failure :=
  ⟨.invalidState, [call ++ " while " ++ s.state.name]⟩

/-- A closed session is opened with a fresh scene. -/
def acquire (s : Session) : Except Failure Unit × Session :=
  if s.state ≠ .closed then (.error (misplaced "open" s), s)
  else (.ok (), { s with state := .isOpen, scene := some {} })

/-- An open session is closed. -/
def close (s : Session) : Except Failure Unit × Session :=
  if s.state ≠ .isOpen then (.error (misplaced "close" s), s)
  else (.ok (), { s with state := .closed, scene := none })

/-- The session without document and pending export, open for the next asset. -/
def release (s : Session) : Session := { s with state := .isOpen, doc := none, pending := none }

/-! ## Phases -/

/-- The document of an asset is loaded and goes through all stages. -/
def run (w : Workshop) (s : Session) (id : AssetId) (settings : Settings) :
    Job (Except Failure Stats × Session) := do
  match ← Job.attempt (w.load id.source) with
  | .error f => return (.error ⟨.sourceParse, [id.source, f.message]⟩, s)
  | .ok doc =>
    let scene : Scene := { s.scene.getD {} with name := id.name, category := id.category }
    let (r, scene) ← Stage.all w s.platform scene doc id settings
    return (r, { s with doc := some doc, scene := some scene })

/-- The first phase of an export. An asset that is up to date is not touched. -/
def start (w : Workshop) (s : Session) (path : String) (settings : Settings) :
    Job (Except Failure Pending × Session) := do
  if s.state ≠ .isOpen then return (.error (misplaced "start export" s), s)
  else
    match settings.validate with
    | .error f => return (.error f, s)
    | .ok _ =>
      if !s.force && !(← Job.look (·.needsExport path)) then return (.error ⟨.upToDate, []⟩, s)
      else
        let id := AssetId.ofPath path
        let (r, s) ← run w { s with state := .exporting } id settings
        match r with
        | .error f =>
          Job.notice .warn "export failed"
          return (.error f, s.release)
        | .ok stats =>
          let p : Pending := { owner := s.owner, serial := s.serial, id, settings, stats }
          return (.ok p, { s with
            state := .awaitingFinalize, pending := some p, serial := s.serial + 1 })

/-- The second phase of an export, which has to be the one that the session waits for. -/
def finish (w : Workshop) (s : Session) (p? : Option Pending) :
    Job (Except Failure Unit × Session) := do
  if s.state ≠ .awaitingFinalize then return (.error (misplaced "end export" s), s)
  else
    match p? with
    | none => return (.error foreign, s)
    | some p =>
      if s.pending ≠ some p ∨ p.owner ≠ s.owner then return (.error foreign, s)
      else
        let r ← Job.attempt (w.generate (s.scene.getD {}) p.id s.platform p.id.basePath
          p.settings.flags p.settings.mode)
        match r with
        | .ok _ => return (.ok (), s.release)
        | .error f =>
          Job.notice .warn "model generation failed"
          return (.error (f.within "generating models"), s.release)
where
  /-- The failure of ending an export that the session does not wait for. -/
  foreign : Failure := ⟨.invalidState, ["end export with a foreign pending export"]⟩

end Session

end SceneForge
