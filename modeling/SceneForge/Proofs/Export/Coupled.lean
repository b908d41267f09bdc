import SceneForge.Proofs.Asset.Sources
import SceneForge.Proofs.Depot.Coupling
import SceneForge.Proofs.Export.Artifacts
import SceneForge.Proofs.Export.Lifecycle

set_option autoImplicit false

/-!
# Exports on depots that look alike

An export looks at its source and at what is next to it, and at the places that it writes itself. If
a window shows all of these, the export cannot tell depots apart that look alike in it, with one
exception: whether anything has to be done at all depends on times. So the first phase has to find
the same answer to that on both depots.

## Main results

* `SceneForge.Texture.extract_coupled`, `SceneForge.Surface.generate_coupled`,
  `SceneForge.Scene.generateModels_coupled`, `SceneForge.Document.load_coupled` — the parts of an
  export.
* `SceneForge.Session.start_coupled`, `SceneForge.Session.finish_coupled` — the phases.
-/

namespace SceneForge

open Job (Coupled)
open Depot (Alike)

variable {v : Window}

/-! ## Textures -/

namespace Texture

/-- Converting a picture reads it and writes a scratch file and the texture. -/
lemma convert_coupled {source scratchDir targetDir : String} (t : Tools) (hsource : v.Shows source)
    (hscratch : ∀ format,
      v.Shows (scratchDir ++ "/" ++ stem source ++ "_out." ++ extensionFor format))
    (htarget : ∀ format,
      v.Shows (targetDir ++ "/" ++ stem source ++ "." ++ extensionFor format)) :
    Coupled v (convert t source scratchDir targetDir) := by
  refine Coupled.mapFailure ?_ _
  refine (Job.readAll_coupled hsource).bind fun data => ?_
  refine (Job.ofExcept_coupled _).bind fun texture => ?_
  refine (Job.writeAll_coupled (hscratch _) _).bind fun _ => ?_
  exact (Job.readAll_coupled (hscratch _)).bind fun written => Job.writeAll_coupled (htarget _) _

/-- A directory of which a window shows every file with an ordinary name. -/
structure Open (v : Window) (dir : String) : Prop where
  /-- The directory itself. -/
  here : v.Shows dir
  /-- What is in it. -/
  inside : ∀ name : String, Path.Ordinary name.toList → v.Shows (dir ++ "/" ++ name)

/-- **What happens in the workspace of an image.** -/
lemma convertIn_coupled {ws dir : String} (hws : Open v ws) (hdir : Open v dir) (t : Tools) (i : Nat)
    (type : ImageType) (data : Bytes) : Coupled v (convertIn (convert t) i type data ws dir) := by
  have hpicture : v.Shows (ws ++ "/" ++ toString i ++ "." ++ type.ext) := by
    have h := hws.inside _ (ordinary_fileName i (ext_mem type))
    simpa only [fileName, String.append_assoc] using h
  refine ((Job.createDirectory_coupled hws.here).mapFailure _).bind fun _ => ?_
  refine (Job.writeAll_coupled hpicture data).bind fun _ => Coupled.mapFailure ?_ _
  refine convert_coupled t hpicture (fun format => ?_) fun format => ?_
  · rw [stem_picture]
    have h := hws.inside _ (ordinary_scratch i (extensionFor_mem format))
    simpa only [String.append_assoc] using h
  · rw [stem_picture]
    have h := hdir.inside _ (ordinary_fileName i (extensionFor_mem format))
    simpa only [fileName, String.append_assoc] using h

/-- **Extracting an image** takes the next scratch name. -/
lemma extractImage_coupled {dir : String} (hws : ∀ n, Open v (workspaceRoot ++ "/" ++ v.scratch n))
    (hdir : Open v dir) (t : Tools) (doc : Document) (i : Nat) (type : ImageType) :
    Coupled v (extractImage (convert t) doc dir i type) := by
  refine (Job.ofExcept_coupled _).bind fun data d e h => ?_
  -- both depots come up with the same name, and it is one that the window shows
  have hname : (Job.nextScratch.run d).1 = .ok (v.scratch d.scratchUsed) ∧
      (Job.nextScratch.run e).1 = .ok (v.scratch d.scratchUsed) := by
    show Except.ok (d.world.scratch d.scratchUsed) = _ ∧
      Except.ok (e.world.scratch e.scratchUsed) = _
    rw [h.world, h.scratchUsed, h.scratch]
    exact ⟨rfl, rfl⟩
  have hafter : Alike v (Job.nextScratch.run d).2 (Job.nextScratch.run e).2 :=
    ⟨h.assigns, h.world, h.scratch, h.steady, congrArg (· + 1) h.scratchUsed, h.tree⟩
  rw [Job.run_bind_of_ok (Prod.ext hname.1 rfl), Job.run_bind_of_ok (Prod.ext hname.2 rfl)]
  have hwork := (convertIn_coupled (hws d.scratchUsed) hdir t i type data).thenAlways
    ((Job.deleteDirectory_coupled (workspaceRoot ++ "/" ++ v.scratch d.scratchUsed)).orWarn
      "cannot delete texture workspace")
  exact hwork _ _ hafter

/-- Extracting images means extracting one after the other. -/
lemma extractAll_coupled {c : Converter} {doc : Document} {dir : String}
    (himage : ∀ i type, Coupled v (extractImage c doc dir i type))
    (images : List (Document.Image × Nat)) :
    ∀ count, Coupled v (extractAll c doc dir count images) := by
  induction images with
  | nil => exact fun count => Job.pure_coupled _
  | cons image images ih =>
    intro count
    unfold extractAll
    split_ifs
    · exact ih count
    · refine (himage _ _).attempt.bind fun r => ?_
      cases r with
      | ok a => exact ih (count + 1)
      | error f => exact Job.pure_coupled _

/-- **Extracting textures.** -/
lemma extract_coupled {dir : String} (hws : ∀ n, Open v (workspaceRoot ++ "/" ++ v.scratch n))
    (hdir : Open v dir) (t : Tools) (doc : Document) : Coupled v (extract (convert t) doc dir) := by
  refine (Job.purgeDirectory_coupled hdir.here _).bind fun _ => ?_
  split_ifs
  · exact Job.pure_coupled _
  · refine ((Job.createDirectory_coupled hdir.here).orWarn _).bind fun _ => ?_
    exact extractAll_coupled (extractImage_coupled hws hdir t doc) _ 0

end Texture

open Texture (Open)

/-! ## Surfaces -/

namespace Surface

variable {id : AssetId}

/-- Writing surfaces means writing one after the other. -/
lemma saveAll_coupled (surfaces : List Surface)
    (hshows : ∀ s ∈ surfaces, v.Shows (id.surfacePath s.name)) :
    ∀ count, Coupled v (saveAll id count surfaces) := by
  induction surfaces with
  | nil => exact fun count => Job.pure_coupled _
  | cons s surfaces ih =>
    intro count
    obtain ⟨hfirst, hrest⟩ := List.forall_mem_cons.mp hshows
    have hsave : Coupled v (save (id.surfacePath s.name) s) :=
      ((Job.ofExcept_coupled _).within _).bind fun _ => Job.writeAll_coupled hfirst _
    refine hsave.attempt.bind fun r => ?_
    cases r with
    | ok a => exact ih hrest (count + 1)
    | error f => exact Job.pure_coupled _

/-- **Generating surfaces.** -/
lemma generate_coupled (hdir : Open v id.surfaceDir) (doc : Document) (template : String) :
    Coupled v (generate doc id template) := by
  unfold generate
  split_ifs
  · exact Job.pure_coupled _
  cases hbuild : build doc id template with
  | error f => exact Job.pure_coupled _
  | ok surfaces =>
    have hrenew : Coupled v (renewDirectory id.surfaceDir) :=
      (Job.purgeDirectory_coupled hdir.here _).bind fun _ =>
        (Job.createDirectory_coupled hdir.here).orWarn _
    refine hrenew.bind fun _ => saveAll_coupled surfaces (fun s hs => ?_) 0
    have h := hdir.inside _ (ordinary_of_build hbuild s hs)
    simpa only [fileName, AssetId.surfacePath, AssetId.surfaceRef, String.append_assoc] using h

end Surface

/-! ## Meshes and models -/

/-- Saving a mesh. -/
lemma MeshFile.save_coupled {uri : String} (huri : v.Shows uri) (m : Mesh) (p : Platform) :
    Coupled v (MeshFile.save uri m p) :=
  (Job.ofExcept_coupled _).bind fun _ => Job.writeAll_coupled huri _

/-- **Generating models** of an asset looks at its physics description. -/
lemma Scene.generateModels_coupled {id : AssetId} (hphysics : v.Shows id.physics)
    (hmodel : v.Shows id.model) (hmesh : v.Shows id.physicsMesh)
    (hphysicsModel : v.Shows id.physicsModel) (s : Scene) (platform : Platform) (flags : Flags)
    (mode : Mode) : Coupled v (s.generateModels id platform id.basePath flags mode) := by
  have hread : Coupled v (Job.physicsOf id id.basePath) := by
    have huri : v.Shows (id.basePath ++ id.name ++ ".physics") := by
      simpa only [AssetId.basePath, AssetId.physics, AssetId.located, String.append_assoc]
        using hphysics
    refine (Job.look_coupled fun d e h => h.fileExists_eq huri).bind fun there => ?_
    split_ifs
    · exact (Job.readAll_coupled huri).bind fun data => Job.ofExcept_coupled _
    · exact Job.pure_coupled _
  have hmake : ∀ mesh p, Coupled v (PhysicsModel.make id platform mesh p) := by
    intro mesh p
    unfold PhysicsModel.make
    simp only
    split
    · exact Job.pure_coupled _
    · exact (MeshFile.save_coupled hmesh _ _).bind fun _ => Job.pure_coupled _
    · exact Job.pure_coupled _
  unfold generateModels
  rw [if_neg (by simp)]
  cases s.mesh with
  | none => exact Job.fail_coupled _
  | some mesh =>
    refine hread.bind fun physics => ?_
    refine (Job.writeAll_coupled hmodel _).bind fun _ => ?_
    exact (hmake mesh physics).bind fun pm => Job.writeAll_coupled hphysicsModel _

/-! ## Documents -/

namespace Gltf

/-- Fetching a buffer reads a file next to the document. -/
lemma fetchBuffer_coupled {dir : String}
    (hbeside : ∀ name, Referable name → v.Shows (inDirectory dir name)) (value : Json.Value) :
    Coupled v (fetchBuffer dir value) := by
  unfold fetchBuffer
  simp only
  split_ifs
  · exact Job.fail_coupled _
  · exact Job.fail_coupled _
  · exact Job.ofExcept_coupled _
  · exact Job.fail_coupled _
  · split
    · exact Job.pure_coupled _
    · rename_i name hname
      refine Coupled.bind ?_ fun _ => Job.pure_coupled _
      unfold readBeside
      split_ifs with hfile
      · exact Job.fail_coupled _
      · exact (Job.readAll_coupled
          (hbeside name ⟨by simpa using hfile, noBackslash_fileFor hname⟩)).mapFailure _

/-- Fetching all buffers. -/
lemma fetchBuffers_coupled {dir : String}
    (hbeside : ∀ name, Referable name → v.Shows (inDirectory dir name)) (rest : Option Bytes)
    (values : List Json.Value) : Coupled v (fetchBuffers dir rest values) := by
  have hall := Coupled.mapM (fetchBuffer_coupled hbeside)
  unfold fetchBuffers
  split
  · exact (Job.ofExcept_coupled _).bind fun _ => (hall _).bind fun _ => Job.pure_coupled _
  · exact hall _

end Gltf

/-- **Loading a document** reads its source and files next to it. -/
lemma Document.load_coupled {uri : String} (huri : v.Shows uri)
    (hbeside : ∀ name, Gltf.Referable name → v.Shows (Gltf.inDirectory (Gltf.directoryOf uri) name)) :
    Coupled v (Document.load uri) := by
  refine ((Job.readAll_coupled huri).mapFailure _).bind fun data => Coupled.mapFailure ?_ _
  refine (Job.ofExcept_coupled _).bind fun parts => ?_
  refine (Job.ofExcept_coupled _).bind fun value => ?_
  refine (Gltf.fetchBuffers_coupled hbeside parts.rest _).bind fun buffers => ?_
  refine (Job.ofExcept_coupled _).bind fun doc => ?_
  exact (Job.ofExcept_coupled _).bind fun _ => Job.pure_coupled _

/-! ## Phases -/

/-- A window shows everything that an export of an asset looks at. -/
structure AssetId.Shown (id : AssetId) (v : Window) : Prop where
  /-- The source. -/
  source : v.Shows id.source
  /-- What is next to the source. -/
  beside : ∀ name, Gltf.Referable name →
    v.Shows (Gltf.inDirectory (Gltf.directoryOf id.source) name)
  /-- The physics description. -/
  physics : v.Shows id.physics
  /-- Workspaces. -/
  workspaces : ∀ n, Open v (Texture.workspaceRoot ++ "/" ++ v.scratch n)
  /-- The directory of textures. -/
  textures : Open v id.textureDir
  /-- The directory of surfaces. -/
  surfaces : Open v id.surfaceDir
  /-- The mesh. -/
  mesh : v.Shows id.mesh
  /-- The collision mesh. -/
  physicsMesh : v.Shows id.physicsMesh
  /-- The model. -/
  model : v.Shows id.model
  /-- The physics model. -/
  physicsModel : v.Shows id.physicsModel

namespace Stage

variable {id : AssetId}

/-- A count, or the failure that came with it. -/
lemma settle_coupled (r : Nat × Option Failure) : Coupled v (settle r) := by
  obtain ⟨n, _ | f⟩ := r
  · exact Job.pure_coupled _
  · exact Job.fail_coupled _

/-- **All stages** of the first phase. -/
lemma all_coupled (h : id.Shown v) (tools : Texture.Tools) (platform : Platform) (scene : Scene)
    (doc : Document) (settings : Settings) :
    Coupled v (all (.standard tools) platform scene doc id settings) := by
  have htextures : Coupled v (textures (.standard tools) doc id) :=
    (Texture.extract_coupled h.workspaces h.textures tools doc).bind fun r =>
      (settle_coupled r).bind fun _ => (Job.measure_coupled _).bind fun _ => Job.pure_coupled _
  have hsurfaces : Coupled v (surfaces doc id settings.mode) := by
    unfold surfaces
    split_ifs
    · exact Job.pure_coupled _
    · exact (Surface.generate_coupled h.surfaces doc _).bind fun r =>
        (settle_coupled r).bind fun _ => (Job.measure_coupled _).bind fun _ => Job.pure_coupled _
  have hmesh : ∀ r, Coupled v (mesh (.standard tools) platform id r) := fun r =>
    (Job.ofExcept_coupled r).bind fun m => (MeshFile.save_coupled h.mesh m platform).bind fun _ =>
      (Job.measure_coupled _).bind fun _ => Job.pure_coupled _
  have hfirst : Coupled v (do
      let textures ← Job.within "textures stage" (textures (.standard tools) doc id)
      let surfaces ← Job.within "surfaces stage" (surfaces doc id settings.mode)
      return (textures, surfaces)) :=
    (htextures.within _).bind fun _ => (hsurfaces.within _).bind fun _ => Job.pure_coupled _
  refine hfirst.attempt.bind fun first => ?_
  rcases first with f | ⟨t, n⟩
  · exact Job.pure_coupled _
  · exact ((hmesh _).within _).attempt.bind fun _ => Job.pure_coupled _

end Stage

namespace Session

variable {tools : Texture.Tools}

/-- The document of an asset goes through all stages. -/
lemma run_coupled {id : AssetId} (h : id.Shown v) (s : Session) (settings : Settings) :
    Coupled v (run (.standard tools) s id settings) := by
  refine (Document.load_coupled h.source h.beside).attempt.bind fun r => ?_
  cases r with
  | error f => exact Job.pure_coupled _
  | ok doc =>
    exact (Stage.all_coupled h tools s.platform _ doc settings).bind fun _ => Job.pure_coupled _

/-- **The first phase** of an export gives the same on depots that look alike, if both agree on
whether there is something to do. -/
lemma start_coupled {path : String} (h : (AssetId.ofPath path).Shown v) (s : Session)
    (settings : Settings) {d e : Depot} (hde : Alike v d e)
    (hneeds : d.needsExport path = e.needsExport path) :
    ((s.start (.standard tools) path settings).run d).1 =
        ((s.start (.standard tools) path settings).run e).1 ∧
      Alike v ((s.start (.standard tools) path settings).run d).2
        ((s.start (.standard tools) path settings).run e).2 := by
  unfold start
  split_ifs
  · exact ⟨rfl, hde⟩
  cases settings.validate with
  | error f => exact ⟨rfl, hde⟩
  | ok _ =>
    simp only
    rw [Job.run_bind_of_ok (Job.run_look _ d), Job.run_bind_of_ok (Job.run_look _ e), hneeds]
    split_ifs
    · exact ⟨rfl, hde⟩
    · refine Job.coupled_bind_run (run_coupled h _ settings d e hde) fun r d' e' hde' => ?_
      obtain ⟨f | stats, s'⟩ := r
      · exact ((Job.notice_coupled _ _).bind fun _ => Job.pure_coupled _) d' e' hde'
      · exact ⟨rfl, hde'⟩

/-- **The second phase** of an export. -/
lemma finish_coupled {p : Pending} (h : p.id.Shown v) (s : Session) :
    Coupled v (s.finish (.standard tools) (some p)) := by
  unfold finish
  split_ifs
  · exact Job.pure_coupled _
  simp only
  split_ifs
  · exact Job.pure_coupled _
  · have hgenerate := Scene.generateModels_coupled h.physics h.model h.physicsMesh h.physicsModel
      (s.scene.getD {}) s.platform p.settings.flags p.settings.mode
    refine hgenerate.attempt.bind fun r => ?_
    cases r with
    | ok a => exact Job.pure_coupled _
    | error f => exact (Job.notice_coupled _ _).bind fun _ => Job.pure_coupled _

end Session

end SceneForge
