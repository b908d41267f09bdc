import SceneForge.Export.Session
import SceneForge.Proofs.Depot.Evolution

set_option autoImplicit false

/-!
# The footprint of an export

Which events an export can cause, phase by phase. The first phase acts below the texture directory
and the surface directory of the asset and in workspaces, and writes the mesh; the second one writes
the models and the mesh that collides. Everything else about a depot evolves only by these events,
whatever fails.

How an export is put together from its parts is gone through once, for any relation between states
of a depot that one step after the other keeps.

## Main definitions

* `SceneForge.Event.Below`, `SceneForge.Event.InWorkspace` — where an event takes place.
* `SceneForge.AssetId.First`, `SceneForge.AssetId.Last` — the events of the two phases.
* `SceneForge.AssetId.Footprint` — the events of an export as far as it came.
* `SceneForge.Workshop.Confined` — the parts of an export keep to their places.

## Main results

* `SceneForge.Session.start_steps`, `SceneForge.Session.finish_steps` — what the parts of an export
  keep to, the phases do.
* `SceneForge.Texture.extract_evolves`, `SceneForge.Surface.generate_evolves`,
  `SceneForge.Scene.generateModels_evolves` — the parts of an export.
* `SceneForge.Session.start_evolves`, `SceneForge.Session.finish_evolves` — the phases.
-/

namespace SceneForge

open Job (Evolves Steps)
open Depot (Lawful)

/-! ## Places -/

namespace Event

/-- The location of an event. -/
def uri : Event → String
  | mkdir uri => uri
  | rmdir uri => uri
  | create uri => uri

/-- An event takes place at a directory or below it. -/
inductive Below (dir : String) (e : Event) : Prop where
  /-- At the directory itself. -/
  | here (h : e.uri = dir)
  /-- At a name in the directory. -/
  | inside (rest : String) (h : e.uri = dir ++ "/" ++ rest)

/-- An event takes place in a workspace. -/
def InWorkspace (e : Event) : Prop := ∃ name, e.Below (Texture.workspaceRoot ++ "/" ++ name)

end Event

/-- The phases of an export. -/
inductive Phase where
  /-- Textures, surfaces and the mesh are made. -/
  | first
  /-- The models are made. -/
  | second
deriving DecidableEq

namespace AssetId

/-- What the first phase of an export can do. -/
inductive First (id : AssetId) (e : Event) : Prop where
  /-- It renews the textures. -/
  | texture (h : e.Below id.textureDir)
  /-- It converts textures in workspaces. -/
  | workspace (h : e.InWorkspace)
  /-- It renews the surfaces. -/
  | surface (h : e.Below id.surfaceDir)
  /-- It writes the mesh. -/
  | mesh (h : e = .create id.mesh)

/-- What the second phase of an export can do. -/
inductive Last (id : AssetId) (e : Event) : Prop where
  /-- It writes the model. -/
  | model (h : e = .create id.model)
  /-- It writes the mesh that collides. -/
  | physicsMesh (h : e = .create id.physicsMesh)
  /-- It writes the physics model. -/
  | physicsModel (h : e = .create id.physicsModel)

/-- What an export that came as far as a phase can have done. -/
def Footprint (id : AssetId) : Phase → Event → Prop
  | .first, e => id.First e
  | .second, e => id.First e ∨ id.Last e

end AssetId

/-! ## Textures -/

namespace Texture

section Steps

variable {R : Depot → Depot → Prop} [Lawful R]

/-- Converting a picture writes a scratch file and the texture. -/
lemma convert_steps {source scratchDir targetDir : String} (t : Tools)
    (hscratch : ∀ format data, Steps R (Job.writeAll
      (scratchDir ++ "/" ++ stem source ++ "_out." ++ extensionFor format) data))
    (htarget : ∀ format data, Steps R (Job.writeAll
      (targetDir ++ "/" ++ stem source ++ "." ++ extensionFor format) data)) :
    Steps R (convert t source scratchDir targetDir) := by
  refine Steps.mapFailure ?_ _
  refine (Job.readAll_steps source).bind fun data => ?_
  refine (Job.ofExcept_steps _).bind fun texture => ?_
  refine (hscratch _ _).bind fun _ => ?_
  exact (Job.readAll_steps _).bind fun written => htarget _ _

/-- What happens in the workspace of an image: it is made, the picture is written and converted. -/
lemma convertIn_steps {c : Converter} {i : Nat} {type : ImageType} {workspace dir : String}
    (hmkdir : Steps R (Job.createDirectory workspace))
    (hpicture : ∀ data, Steps R (Job.writeAll
      (workspace ++ "/" ++ toString i ++ "." ++ type.ext) data))
    (hconvert : Steps R (c (workspace ++ "/" ++ toString i ++ "." ++ type.ext) workspace dir))
    (data : Bytes) : Steps R (convertIn c i type data workspace dir) := by
  refine (hmkdir.mapFailure _).bind fun _ => ?_
  exact (hpicture data).bind fun _ => hconvert.mapFailure _

/-- Extracting an image takes a scratch name, and works in that workspace and removes it. -/
lemma extractImage_steps {c : Converter} {doc : Document} {dir : String} {i : Nat} {type : ImageType}
    (hconvert : ∀ name data,
      Steps R (convertIn c i type data (workspaceRoot ++ "/" ++ name) dir))
    (hdrop : ∀ name, Steps R (Job.deleteDirectory (workspaceRoot ++ "/" ++ name))) :
    Steps R (extractImage c doc dir i type) := by
  refine (Job.ofExcept_steps _).bind fun data => ?_
  refine Job.nextScratch_steps.bind fun name => ?_
  exact (hconvert name data).thenAlways ((hdrop name).orWarn _)

/-- Extracting images means extracting one after the other. -/
lemma extractAll_steps {c : Converter} {doc : Document} {dir : String}
    (himage : ∀ i type, Steps R (extractImage c doc dir i type))
    (images : List (Document.Image × Nat)) :
    ∀ count, Steps R (extractAll c doc dir count images) := by
  induction images with
  | nil => exact fun count => Job.pure_steps _
  | cons image images ih =>
    intro count
    unfold extractAll
    split_ifs
    · exact ih count
    · refine (himage _ _).attempt.bind fun r => ?_
      cases r with
      | ok a => exact ih (count + 1)
      | error f => exact Job.pure_steps _

/-- Extracting textures renews their directory and extracts the images. -/
lemma extract_steps {c : Converter} {doc : Document} {dir : String}
    (hpurge : ∀ warning, Steps R (Job.purgeDirectory dir warning))
    (hmkdir : Steps R (Job.createDirectory dir))
    (himage : ∀ i type, Steps R (extractImage c doc dir i type)) :
    Steps R (extract c doc dir) := by
  refine (hpurge _).bind fun _ => ?_
  split_ifs
  · exact Job.pure_steps _
  · exact (hmkdir.orWarn _).bind fun _ => extractAll_steps himage _ 0

end Steps

/-- Converting a picture writes to the scratch directory and the target directory. -/
lemma convert_evolves (t : Tools) (source scratchDir targetDir : String) :
    Evolves (fun e => e.Below scratchDir ∨ e.Below targetDir)
      (convert t source scratchDir targetDir) := by
  have hscratch (rest : String) : (Event.create (scratchDir ++ "/" ++ rest)).Below scratchDir :=
    .inside rest rfl
  have htarget (rest : String) : (Event.create (targetDir ++ "/" ++ rest)).Below targetDir :=
    .inside rest rfl
  refine convert_steps t (fun format data => ?_) fun format data => ?_
  · simp only [String.append_assoc] at hscratch ⊢
    exact Job.writeAll_evolves (Or.inl (hscratch _))
  · simp only [String.append_assoc] at htarget ⊢
    exact Job.writeAll_evolves (Or.inr (htarget _))

section Extract

variable {c : Converter} (hc : ∀ source scratchDir targetDir,
  Evolves (fun e => e.Below scratchDir ∨ e.Below targetDir) (c source scratchDir targetDir))

include hc

/-- What happens in the workspace of an image stays there or goes to the target directory. -/
lemma convertIn_evolves (i : Nat) (type : ImageType) (data : Bytes) (workspace dir : String) :
    Evolves (fun e => e.Below workspace ∨ e.Below dir) (convertIn c i type data workspace dir) := by
  have hfile :
      (Event.create (workspace ++ "/" ++ toString i ++ "." ++ type.ext)).Below workspace := by
    refine .inside (toString i ++ ("." ++ type.ext)) ?_
    simp [Event.uri, String.append_assoc]
  exact convertIn_steps (Job.createDirectory_evolves (Or.inl (.here rfl)))
    (fun data => Job.writeAll_evolves (Or.inl hfile)) (hc _ workspace dir) data

/-- Extracting an image takes place in a workspace and the target directory. -/
lemma extractImage_evolves (doc : Document) (dir : String) (i : Nat) (type : ImageType) :
    Evolves (fun e => e.Below dir ∨ e.InWorkspace) (extractImage c doc dir i type) := by
  refine extractImage_steps (fun name data => ?_) fun name => ?_
  · refine (convertIn_evolves hc i type data _ dir).mono ?_
    rintro e (h | h)
    · exact Or.inr ⟨name, h⟩
    · exact Or.inl h
  · exact Job.deleteDirectory_evolves (Or.inr ⟨name, .here rfl⟩)

/-- **Extracting textures** takes place in workspaces and the texture directory. -/
lemma extract_evolves (doc : Document) (dir : String) :
    Evolves (fun e => e.Below dir ∨ e.InWorkspace) (extract c doc dir) :=
  extract_steps (fun _ => Job.purgeDirectory_evolves (Or.inl (.here rfl)))
    (Job.createDirectory_evolves (Or.inl (.here rfl))) (extractImage_evolves hc doc dir)

end Extract

end Texture

/-! ## Surfaces -/

namespace Surface

section Steps

variable {R : Depot → Depot → Prop} [Lawful R] {id : AssetId}

/-- Saving a surface writes its file. -/
lemma save_steps {uri : String} (h : ∀ data, Steps R (Job.writeAll uri data)) (s : Surface) :
    Steps R (save uri s) := ((Job.ofExcept_steps _).within _).bind fun _ => h _

/-- Writing surfaces means writing one after the other. -/
lemma saveAll_steps (surfaces : List Surface)
    (hwrite : ∀ s ∈ surfaces, ∀ data, Steps R (Job.writeAll (id.surfacePath s.name) data)) :
    ∀ count, Steps R (saveAll id count surfaces) := by
  induction surfaces with
  | nil => exact fun count => Job.pure_steps _
  | cons s surfaces ih =>
    intro count
    obtain ⟨hfirst, hrest⟩ := List.forall_mem_cons.mp hwrite
    refine (save_steps hfirst s).attempt.bind fun r => ?_
    cases r with
    | ok a => exact ih hrest (count + 1)
    | error f => exact Job.pure_steps _

/-- Generating surfaces renews their directory and writes those of materials. -/
lemma generate_steps {doc : Document} {template : String}
    (hpurge : ∀ warning, Steps R (Job.purgeDirectory id.surfaceDir warning))
    (hmkdir : Steps R (Job.createDirectory id.surfaceDir))
    (hwrite : ∀ surfaces, build doc id template = .ok surfaces → ∀ s ∈ surfaces, ∀ data,
      Steps R (Job.writeAll (id.surfacePath s.name) data)) :
    Steps R (generate doc id template) := by
  unfold generate
  split_ifs
  · exact Job.pure_steps _
  cases hbuild : build doc id template with
  | error f => exact Job.pure_steps _
  | ok surfaces =>
    refine Steps.bind ?_ fun _ => saveAll_steps surfaces (hwrite surfaces hbuild) 0
    exact (hpurge _).bind fun _ => hmkdir.orWarn _

end Steps

/-- Emptying a directory and making it again takes place there. -/
lemma renewDirectory_evolves (dir : String) :
    Evolves (fun e => e.Below dir) (renewDirectory dir) := by
  refine (Job.purgeDirectory_evolves (.here rfl)).bind fun _ => ?_
  exact (Job.createDirectory_evolves (.here rfl)).orWarn _

/-- A surface is written to its file. -/
lemma save_evolves (uri : String) (s : Surface) : Evolves (fun e => e = .create uri) (save uri s) :=
  save_steps (R := Depot.Evolves fun e => e = .create uri) (fun _ => Job.writeAll_evolves rfl) s

/-- **Generating surfaces** takes place in the surface directory. -/
lemma generate_evolves (doc : Document) (id : AssetId) (template : String) :
    Evolves (fun e => e.Below id.surfaceDir) (generate doc id template) := by
  refine generate_steps (fun _ => Job.purgeDirectory_evolves (.here rfl))
    (Job.createDirectory_evolves (.here rfl)) fun surfaces _ s _ data => ?_
  refine Job.writeAll_evolves (.inside (s.name ++ ".sur") ?_)
  simp [Event.uri, AssetId.surfacePath, AssetId.surfaceRef, String.append_assoc]

end Surface

/-! ## Meshes and models -/

section Steps

variable {R : Depot → Depot → Prop} [Lawful R]

/-- Saving a mesh writes its file. -/
lemma MeshFile.save_steps {uri : String} (h : ∀ data, Steps R (Job.writeAll uri data)) (m : Mesh)
    (p : Platform) : Steps R (MeshFile.save uri m p) :=
  (Job.ofExcept_steps _).bind fun _ => h _

/-- Reading the physics description is no step. -/
lemma Job.physicsOf_steps (id : AssetId) (base : String) : Steps R (Job.physicsOf id base) := by
  refine (Job.look_steps _).bind fun there => ?_
  split_ifs
  · exact (Job.readAll_steps _).bind fun data => Job.ofExcept_steps _
  · exact Job.pure_steps _

/-- The physics model only needs a mesh that collides. -/
lemma PhysicsModel.make_steps {id : AssetId}
    (hmesh : ∀ data, Steps R (Job.writeAll id.physicsMesh data)) (platform : Platform) (mesh : Mesh)
    (p : Physics) : Steps R (PhysicsModel.make id platform mesh p) := by
  unfold PhysicsModel.make
  simp only
  split
  · exact Job.pure_steps _
  · exact (MeshFile.save_steps hmesh _ _).bind fun _ => Job.pure_steps _
  · exact Job.pure_steps _

/-- Generating models writes the models and the mesh that collides. -/
lemma Scene.generateModels_steps {id : AssetId}
    (hmodel : ∀ data, Steps R (Job.writeAll id.model data))
    (hmesh : ∀ data, Steps R (Job.writeAll id.physicsMesh data))
    (hphysics : ∀ data, Steps R (Job.writeAll id.physicsModel data)) (s : Scene)
    (platform : Platform) (base : String) (flags : Flags) (mode : Mode) :
    Steps R (s.generateModels id platform base flags mode) := by
  have hmodels : ∀ mesh : Mesh, Steps R (do
      let physics ← Job.physicsOf id base
      Job.writeAll id.model (utf8 (Model.ofScene s id mesh flags mode).render)
      let pm ← PhysicsModel.make id platform mesh physics
      Job.writeAll id.physicsModel (utf8 pm.render)) := by
    intro mesh
    refine (Job.physicsOf_steps id base).bind fun physics => ?_
    refine (hmodel _).bind fun _ => ?_
    exact (PhysicsModel.make_steps hmesh platform mesh physics).bind fun pm => hphysics _
  unfold Scene.generateModels
  split_ifs
  · exact (Job.fail_steps _).bind fun _ => by
      cases s.mesh with
      | none => exact Job.fail_steps _
      | some mesh => exact hmodels mesh
  · cases s.mesh with
    | none => exact Job.fail_steps _
    | some mesh => exact hmodels mesh

end Steps

/-- A mesh is written to its file. -/
lemma MeshFile.save_evolves (uri : String) (m : Mesh) (p : Platform) :
    Evolves (fun e => e = .create uri) (MeshFile.save uri m p) :=
  MeshFile.save_steps (R := Depot.Evolves fun e => e = .create uri)
    (fun _ => Job.writeAll_evolves rfl) m p

/-- Reading the physics description is no event. -/
lemma Job.physicsOf_evolves {S : Event → Prop} (id : AssetId) (base : String) :
    Evolves S (Job.physicsOf id base) := Job.physicsOf_steps id base

/-- The physics model only needs a mesh that collides. -/
lemma PhysicsModel.make_evolves (id : AssetId) (platform : Platform) (mesh : Mesh) (p : Physics) :
    Evolves id.Last (PhysicsModel.make id platform mesh p) :=
  PhysicsModel.make_steps (fun _ => Job.writeAll_evolves (.physicsMesh rfl)) platform mesh p

/-- **Generating models** writes the models and the mesh that collides. -/
lemma Scene.generateModels_evolves (s : Scene) (id : AssetId) (platform : Platform) (base : String)
    (flags : Flags) (mode : Mode) :
    Evolves id.Last (s.generateModels id platform base flags mode) :=
  Scene.generateModels_steps (fun _ => Job.writeAll_evolves (.model rfl))
    (fun _ => Job.writeAll_evolves (.physicsMesh rfl))
    (fun _ => Job.writeAll_evolves (.physicsModel rfl)) s platform base flags mode

/-! ## Documents -/

section Documents

variable {R : Depot → Depot → Prop} [Lawful R]

namespace Gltf

/-- Reading a file next to a document is no step. -/
lemma readBeside_steps (dir name : String) : Steps R (readBeside dir name) := by
  unfold readBeside
  split_ifs
  · exact Job.fail_steps _
  · exact (Job.readAll_steps _).mapFailure _

/-- Fetching a buffer is no step. -/
lemma fetchBuffer_steps (dir : String) (v : Json.Value) : Steps R (fetchBuffer dir v) := by
  unfold fetchBuffer
  simp only
  split_ifs
  · exact Job.fail_steps _
  · exact Job.fail_steps _
  · exact Job.ofExcept_steps _
  · exact Job.fail_steps _
  · split
    · exact Job.pure_steps _
    · exact (readBeside_steps _ _).bind fun _ => Job.pure_steps _

/-- Fetching all buffers is no step. -/
lemma fetchBuffers_steps (dir : String) (rest : Option Bytes) (vs : List Json.Value) :
    Steps R (fetchBuffers dir rest vs) := by
  have hall := Steps.mapM (R := R) (fetchBuffer_steps dir)
  unfold fetchBuffers
  split
  · exact (Job.ofExcept_steps _).bind fun _ => (hall _).bind fun _ => Job.pure_steps _
  · exact hall _

/-- Reading a document is no step. -/
lemma decode_steps (dir : String) (data : Bytes) : Steps R (decode dir data) := by
  refine (Job.ofExcept_steps _).bind fun parts => ?_
  refine (Job.ofExcept_steps _).bind fun v => ?_
  refine (fetchBuffers_steps dir parts.rest _).bind fun buffers => ?_
  refine (Job.ofExcept_steps _).bind fun doc => ?_
  exact (Job.ofExcept_steps _).bind fun _ => Job.pure_steps _

end Gltf

/-- **Loading a document** is no step. -/
lemma Document.load_steps (uri : String) : Steps R (Document.load uri) :=
  ((Job.readAll_steps uri).mapFailure _).bind fun data =>
    (Gltf.decode_steps _ data).mapFailure _

end Documents

/-- Loading a document is no event. -/
lemma Document.load_evolves {S : Event → Prop} (uri : String) : Evolves S (Document.load uri) :=
  Document.load_steps uri

/-! ## Phases -/

section Steps

variable {R : Depot → Depot → Prop} [Lawful R] {w : Workshop}

namespace Stage

/-- Settling a count is no step. -/
lemma settle_steps (r : Nat × Option Failure) : Steps R (settle r) := by
  rcases r with ⟨n, _ | f⟩
  · exact Job.pure_steps _
  · exact Job.fail_steps _

variable {doc : Document} {id : AssetId}

/-- The stage of textures extracts them. -/
lemma textures_steps (h : Steps R (Texture.extract w.convert doc id.textureDir)) :
    Steps R (textures w doc id) := by
  refine h.bind fun r => (settle_steps r).bind fun n => ?_
  exact (Job.measure_steps fun m => m.tallies_addTextures _).bind fun _ => Job.pure_steps _

/-- The stage of surfaces generates them. -/
lemma surfaces_steps {mode : Mode} (h : Steps R (Surface.generate doc id (template mode))) :
    Steps R (surfaces doc id mode) := by
  unfold surfaces
  split_ifs
  · exact Job.pure_steps _
  · refine h.bind fun r => (settle_steps r).bind fun n => ?_
    exact (Job.measure_steps fun m => m.tallies_addSurfaces _).bind fun _ => Job.pure_steps _

/-- The stage of the mesh writes it. -/
lemma mesh_steps {platform : Platform} (h : ∀ m, Steps R (w.saveMesh id.mesh m platform))
    (r : Except Failure Mesh) : Steps R (mesh w platform id r) := by
  refine (Job.ofExcept_steps r).bind fun m => ?_
  refine (h m).bind fun _ => ?_
  exact (Job.measure_steps fun m => m.tallies_mesh _).bind fun _ => Job.pure_steps _

/-- All stages of the first phase: textures, surfaces and the mesh. -/
lemma all_steps {platform : Platform} {settings : Settings}
    (htextures : Steps R (textures w doc id)) (hsurfaces : Steps R (surfaces doc id settings.mode))
    (hmesh : ∀ r, Steps R (mesh w platform id r)) (scene : Scene) :
    Steps R (all w platform scene doc id settings) := by
  have hfirst : Steps R (do
      let textures ← Job.within "textures stage" (textures w doc id)
      let surfaces ← Job.within "surfaces stage" (surfaces doc id settings.mode)
      return (textures, surfaces)) :=
    (htextures.within _).bind fun _ => (hsurfaces.within _).bind fun _ => Job.pure_steps _
  refine hfirst.attempt.bind fun first => ?_
  rcases first with f | ⟨t, n⟩
  · exact Job.pure_steps _
  · exact ((hmesh _).within _).attempt.bind fun _ => Job.pure_steps _

end Stage

namespace Session

/-- Running the first phase loads the document and goes through all stages. -/
lemma run_steps {s : Session} {id : AssetId} {settings : Settings}
    (hload : Steps R (w.load id.source))
    (hall : ∀ scene doc, Steps R (Stage.all w s.platform scene doc id settings)) :
    Steps R (run w s id settings) := by
  refine hload.attempt.bind fun r => ?_
  cases r with
  | error f => exact Job.pure_steps _
  | ok doc => exact (hall _ doc).bind fun _ => Job.pure_steps _

/-- **The first phase** of an export keeps to what loading and all stages keep to. -/
lemma start_steps {s : Session} {path : String} {settings : Settings}
    (hload : Steps R (w.load (AssetId.ofPath path).source))
    (hall : ∀ scene doc,
      Steps R (Stage.all w s.platform scene doc (AssetId.ofPath path) settings)) :
    Steps R (s.start w path settings) := by
  unfold start
  split_ifs
  · exact Job.pure_steps _
  cases settings.validate with
  | error f => exact Job.pure_steps _
  | ok _ =>
    refine (Job.look_steps _).bind fun stale => ?_
    split_ifs
    · exact Job.pure_steps _
    refine (run_steps (s := { s with state := .exporting }) hload hall).bind fun r => ?_
    rcases r with ⟨f | stats, s'⟩
    · exact (Job.notice_steps _ _).bind fun _ => Job.pure_steps _
    · exact Job.pure_steps _

/-- **The second phase** of an export keeps to what generating models keeps to. -/
lemma finish_steps {s : Session} {p : Pending}
    (hgenerate : ∀ scene, Steps R (w.generate scene p.id s.platform p.id.basePath
      p.settings.flags p.settings.mode)) :
    Steps R (s.finish w (some p)) := by
  unfold finish
  split_ifs
  · exact Job.pure_steps _
  simp only
  split_ifs
  · exact Job.pure_steps _
  · refine (hgenerate _).attempt.bind fun r => ?_
    cases r with
    | ok a => exact Job.pure_steps _
    | error f => exact (Job.notice_steps _ _).bind fun _ => Job.pure_steps _

end Session

end Steps

/-- A workshop whose parts keep to their places. -/
structure Workshop.Confined (w : Workshop) : Prop where
  /-- Loading only reads. -/
  load : ∀ uri, Evolves (fun _ => False) (w.load uri)
  /-- Converting writes to the scratch directory and the target directory. -/
  convert : ∀ source scratchDir targetDir,
    Evolves (fun e => e.Below scratchDir ∨ e.Below targetDir)
      (w.convert source scratchDir targetDir)
  /-- A mesh is written to its file. -/
  saveMesh : ∀ uri m p, Evolves (fun e => e = .create uri) (w.saveMesh uri m p)
  /-- Generating models writes the models and the mesh that collides. -/
  generate : ∀ s (id : AssetId) p base flags mode,
    Evolves id.Last (w.generate s id p base flags mode)

/-- The parts of the usual workshop keep to their places. -/
lemma Workshop.standard_confined (tools : Texture.Tools) : (Workshop.standard tools).Confined :=
  ⟨Document.load_evolves, Texture.convert_evolves tools, MeshFile.save_evolves,
    Scene.generateModels_evolves⟩

namespace Stage

variable {w : Workshop}

/-- Settling a count is no event. -/
lemma settle_evolves {S : Event → Prop} (r : Nat × Option Failure) : Evolves S (settle r) :=
  settle_steps r

/-- The stage of textures. -/
lemma textures_evolves (hw : w.Confined) (doc : Document) (id : AssetId) :
    Evolves id.First (textures w doc id) := by
  have hextract : Evolves id.First (Texture.extract w.convert doc id.textureDir) := by
    refine (Texture.extract_evolves hw.convert doc id.textureDir).mono ?_
    rintro e (h | h)
    · exact .texture h
    · exact .workspace h
  exact textures_steps hextract

/-- The stage of surfaces. -/
lemma surfaces_evolves (doc : Document) (id : AssetId) (mode : Mode) :
    Evolves id.First (surfaces doc id mode) :=
  surfaces_steps ((Surface.generate_evolves doc id _).mono fun _ h => .surface h)

/-- The stage of the mesh. -/
lemma mesh_evolves (hw : w.Confined) (platform : Platform) (id : AssetId)
    (r : Except Failure Mesh) : Evolves id.First (mesh w platform id r) :=
  mesh_steps (fun m => (hw.saveMesh _ m platform).mono fun _ h => .mesh h) r

/-- All stages of the first phase. -/
lemma all_evolves (hw : w.Confined) (platform : Platform) (scene : Scene) (doc : Document)
    (id : AssetId) (settings : Settings) :
    Evolves id.First (all w platform scene doc id settings) :=
  all_steps (textures_evolves hw doc id) (surfaces_evolves doc id settings.mode)
    (mesh_evolves hw platform id) scene

end Stage

namespace Session

variable {w : Workshop}

/-- **The first phase** of an export, whatever fails. -/
lemma start_evolves (hw : w.Confined) (s : Session) (path : String) (settings : Settings) :
    Evolves (AssetId.ofPath path).First (s.start w path settings) :=
  start_steps ((hw.load _).mono fun _ h => h.elim) fun scene doc =>
    Stage.all_evolves hw _ scene doc _ settings

/-- An export that was started is one of the asset at the path. -/
lemma id_of_start {s s' : Session} {path : String} {settings : Settings} {d d' : Depot}
    {p : Pending} (h : (s.start w path settings).run d = (.ok (.ok p, s'), d')) :
    p.id = AssetId.ofPath path := by
  unfold start at h
  split_ifs at h
  · cases h
  cases hv : settings.validate with
  | error f =>
    rw [hv] at h
    cases h
  | ok _ =>
    simp only [hv] at h
    obtain ⟨stale, d₁, -, h⟩ := Job.exists_of_bind_run h
    split_ifs at h
    · cases h
    obtain ⟨⟨r, s₁⟩, d₂, -, h⟩ := Job.exists_of_bind_run h
    cases r with
    | error f =>
      obtain ⟨_, d₃, -, h⟩ := Job.exists_of_bind_run h
      cases h
    | ok stats =>
      cases h
      rfl

/-- **The second phase** of an export, whatever fails. -/
lemma finish_evolves (hw : w.Confined) (s : Session) (p : Pending) :
    Evolves p.id.Last (s.finish w (some p)) :=
  finish_steps fun scene => hw.generate scene p.id _ _ _ _

end Session

end SceneForge
