import SceneForge.Proofs.Asset.Recovery
import SceneForge.Proofs.Export.Artifacts
import SceneForge.Proofs.Export.Success
import SceneForge.Proofs.Scene.Merged

set_option autoImplicit false

/-!
# The course of an export

An export that succeeds from its first phase to its second one leads through a few depots: the
document is loaded, textures, surfaces and the mesh are written, then the model and what belongs to
its physics. Everything takes place at sites that are named by the asset, so each of these files is
still there at the end.

## Main definitions

* `SceneForge.Course` — a finished export, step by step.

## Main results

* `SceneForge.Session.exists_course` — both phases of an export that succeeds make a course.
* `SceneForge.Course.holds_mesh`, `SceneForge.Course.holds_model`,
  `SceneForge.Course.holds_surface`, `SceneForge.Course.holds_texture` — what is there at the end.
* `SceneForge.Course.exists_journal` — which surfaces were written.
-/

namespace SceneForge

open Event (Among)

/-- The course of a finished export of a document from one depot to another: the depots between its
steps, and what led from each of them to the next. -/
structure Course (tools : Texture.Tools) (id : AssetId) (platform : Platform) (mode : Mode)
    (doc : Document) (mesh : Mesh) (model : Model) (d d' : Depot) where
  /-- The depot after the document was loaded. -/
  loaded : Depot
  /-- The depot after the textures were written. -/
  textured : Depot
  /-- The depot after the surfaces were written. -/
  surfaced : Depot
  /-- The depot after the mesh was written. -/
  meshed : Depot
  /-- The depot after the second phase has read the physics description. -/
  described : Depot
  /-- The depot after the model was written. -/
  modelled : Depot
  /-- The bytes of the mesh file. -/
  data : Bytes
  /-- Loading changes nothing. -/
  load : d.Evolves (fun _ => False) loaded
  /-- The textures were written. -/
  textures : ∃ n, (Stage.textures (.standard tools) doc id).run loaded = (.ok n, textured)
  /-- The surfaces were written. -/
  surfaces : ∃ n, (Stage.surfaces doc id mode).run textured = (.ok n, surfaced)
  /-- The mesh was encoded. -/
  encode : MeshFile.encode mesh platform = .ok data
  /-- The mesh was written. -/
  saveMesh : (Job.writeAll id.mesh data).run surfaced = (.ok (), meshed)
  /-- Between the phases, and when the physics description is read, nothing changes. -/
  describe : meshed.Evolves (fun _ => False) described
  /-- The model was written. -/
  saveModel : (Job.writeAll id.model (utf8 model.render)).run described = (.ok (), modelled)
  /-- What followed belongs to physics. -/
  physics : modelled.Evolves
    (fun e => e = .create id.physicsMesh ∨ e = .create id.physicsModel) d'

/-- The physics model only needs a mesh that collides. -/
lemma PhysicsModel.make_creates (id : AssetId) (platform : Platform) (mesh : Mesh) (p : Physics) :
    Job.Evolves (fun e => e = .create id.physicsMesh) (PhysicsModel.make id platform mesh p) := by
  unfold PhysicsModel.make
  simp only
  split
  · exact Job.pure_evolves _
  · exact (MeshFile.save_evolves _ _ _).bind fun _ => Job.pure_evolves _
  · exact Job.pure_evolves _

/-- A mesh that was merged comes from a scene that was set up, and that keeps it. -/
lemma Stage.exists_of_merge {scene scene' : Scene} {doc : Document} {settings : Settings} {m : Mesh}
    (h : merge scene doc settings = (.ok m, scene')) :
    ∃ ready, scene.setup doc settings = .ok ready ∧ ready.flatten.1 = .ok m ∧
      scene' = { ready with flattened := true, mesh := some m } := by
  unfold merge at h
  cases hsetup : scene.setup doc settings with
  | error f =>
    rw [hsetup] at h
    cases h
  | ok ready =>
    simp only [hsetup] at h
    refine ⟨ready, rfl, by rw [h], ?_⟩
    unfold Scene.flatten at h
    cases hdoc : ready.doc with
    | none =>
      rw [hdoc] at h
      cases h
    | some doc' =>
      simp only [hdoc] at h
      split_ifs at h
      · cases h
      · cases hmerge : ready.merge doc' with
        | none =>
          rw [hmerge] at h
          cases h
        | some m' =>
          rw [hmerge] at h
          obtain ⟨hm, hscene⟩ := Prod.mk.inj h
          cases hm
          exact hscene.symm

/-- **Both phases of an export that succeeds make a course.** The mesh is that of the document, and
the model is that of the scene that was flattened.

**Proof sketch.** Both phases are taken apart into their steps (`exists_of_start`,
`Stage.exists_of_all`, `generate_of_finish`, `Scene.exists_of_generateModels`). The document is the
one that is loaded from the depot, the mesh of the second phase is the one the scene kept from the
first, and the depots in between evolve by the events of the steps left out. -/
lemma Session.exists_course {tools : Texture.Tools} {s s₁ s₂ : Session} {settings : Settings}
    {p : Pending} {d d₁ d₂ : Depot} {id : AssetId} {doc : Document} (hid : id.Ordinary)
    (hload : ((Document.load id.source).run d).1 = .ok doc)
    (hstart : (s.start (.standard tools) id.source settings).run d = (.ok (.ok p, s₁), d₁))
    (hfinish : (s₁.finish (.standard tools) (some p)).run d₁ = (.ok (.ok (), s₂), d₂)) :
    ∃ scene ready mesh, Scene.setup scene doc settings = .ok ready ∧ ready.flatten.1 = .ok mesh ∧
      settings.validate = .ok () ∧ Nonempty (Course tools id s.platform settings.mode doc mesh
        (Model.ofScene ready id mesh settings.flags settings.mode) d d₂) := by
  obtain ⟨hpid, hsettings, hvalid, doc', scene, stats, d₀, hloaded, hall, hscene, hplatform⟩ :=
    exists_of_start hstart
  rw [hid.spelled.ofPath_source] at hpid hloaded hall
  have hdoc : doc' = doc := by
    have hfirst : ((Document.load id.source).run d).1 = .ok doc' := congrArg Prod.fst hloaded
    rw [hload] at hfirst
    exact (Except.ok.inj hfirst).symm
  subst hdoc
  obtain ⟨n, k, mesh, dt, ds, htextures, hsurfaces, hmerge, hmesh⟩ := Stage.exists_of_all hall
  obtain ⟨-, dm, hsave, rfl⟩ := Stage.exists_of_mesh hmesh
  obtain ⟨data, dm', hgiven, hwrite⟩ := Job.exists_of_bind_run hsave
  obtain ⟨hencode, rfl⟩ := Job.run_ofExcept_eq_ok_iff.mp hgiven
  have hgenerate := generate_of_finish hfinish
  rw [hscene, hpid, hsettings, hplatform] at hgenerate
  obtain ⟨mesh', physics, pm, e₀, e₁, e₂, hmesh', hphysics, hmodel, hmake, hlast⟩ :=
    Scene.exists_of_generateModels hgenerate
  obtain ⟨ready, hsetup, hflatten, hkept⟩ := Stage.exists_of_merge hmerge
  have hsame : mesh' = mesh := by
    rw [hkept] at hmesh'
    exact (Option.some.inj hmesh').symm
  subst hsame
  have hmodels : Model.ofScene ready id mesh' settings.flags settings.mode =
      Model.ofScene scene id mesh' settings.flags settings.mode := by
    rw [hkept]
    rfl
  refine ⟨_, ready, mesh', hsetup, hflatten, hvalid, ⟨⟨d₀, dt, ds, dm, e₀, e₁, data, ?_,
    ⟨n, htextures⟩, ⟨k, hsurfaces⟩, hencode, hwrite, ?_, ?_, ?_⟩⟩⟩
  · exact (Document.load_evolves id.source).of_run hloaded
  · have hmeasured : dm.Evolves (fun _ => False)
        { dm with measures := dm.measures.mesh mesh'.triangleCount } := .of_same rfl rfl rfl rfl
    exact hmeasured.trans ((Job.physicsOf_evolves id _).of_run hphysics)
  · rw [hmodels]
    exact hmodel
  · exact (((PhysicsModel.make_creates id _ mesh' physics).of_run hmake).mono fun e => Or.inl).trans
      ((Job.writeAll_evolves (Or.inr rfl)).of_run hlast)

namespace Course

variable {tools : Texture.Tools} {id : AssetId} {platform : Platform} {mode : Mode}
  {doc : Document} {mesh : Mesh} {model : Model} {d d' : Depot}
  (c : Course tools id platform mode doc mesh model d d')

/-! ## Steps -/

include c

/-- The mesh is written at its site. -/
lemma evolves_meshed (hid : id.Ordinary) :
    c.surfaced.Evolves (Among (· = id.site .mesh ".mesh")) c.meshed := by
  refine (Job.writeAll_evolves ?_).of_run c.saveMesh
  exact ⟨_, rfl, hid.site .mesh (by decide), (AssetId.site_uri id .mesh ".mesh").symm⟩

/-- The second phase takes place at its sites. -/
lemma evolves_finished (hid : id.Ordinary) : c.meshed.Evolves (Among id.LastSite) d' := by
  have hmodel : c.described.Evolves id.Last c.modelled :=
    (Job.writeAll_evolves (.model rfl)).of_run c.saveModel
  have hphysics : c.modelled.Evolves id.Last d' := by
    refine c.physics.mono ?_
    rintro e (he | he)
    · exact .physicsMesh he
    · exact .physicsModel he
  have hread : c.meshed.Evolves id.Last c.described := c.describe.mono fun e he => he.elim
  exact (hread.trans (hmodel.trans hphysics)).mono fun e he => he.among hid

/-- Nothing that follows the surfaces takes place among textures or surfaces. -/
lemma evolves_surfaced (hid : id.Ordinary) :
    c.surfaced.Evolves (Among fun s => s.area ≠ .texture ∧ s.area ≠ .surface) d' := by
  refine ((c.evolves_meshed hid).mono fun e he => he.mono ?_).trans
    ((c.evolves_finished hid).mono fun e he => he.mono ?_)
  · rintro s rfl
    simp
  · rintro s (rfl | rfl | rfl) <;> simp

/-- Nothing that follows the textures takes place among textures. -/
lemma evolves_textured (hid : id.Ordinary) :
    c.textured.Evolves (Among (·.area ≠ .texture)) d' := by
  obtain ⟨n, hsurfaces⟩ := c.surfaces
  refine Depot.Evolves.trans ((Stage.surfaces_touches.of_run hsurfaces).mono fun e he =>
    (he.among hid).mono fun s hs => ?_) ((c.evolves_surfaced hid).mono fun e he =>
    he.mono fun s hs => hs.1)
  rw [hs]
  decide

/-- The textures are written among textures and in scratch space. -/
lemma evolves_loaded (hscratch : d.world.ScratchOrdinary) (hid : id.Ordinary) :
    c.loaded.Evolves (Among fun s => s.area = .texture ∨ s.area = .temp) c.textured := by
  obtain ⟨n, htextures⟩ := c.textures
  have hevolves : c.loaded.Evolves (Among fun s => s.area = .texture ∨ s.area = .temp)
      ((Stage.textures (.standard tools) doc id).run c.loaded).2 :=
    Stage.textures_among (c.load.world ▸ hscratch) hid
  rw [htextures] at hevolves
  exact hevolves

/-- Areas stay where they are throughout the first phase. -/
lemma assigns_eq : c.textured.assigns = d.assigns ∧ c.surfaced.assigns = d.assigns ∧
    c.meshed.assigns = d.assigns := by
  obtain ⟨n, htextures⟩ := c.textures
  obtain ⟨k, hsurfaces⟩ := c.surfaces
  have htextured : c.textured.assigns = d.assigns :=
    ((Stage.textures_evolves (Workshop.standard_confined tools) doc id).of_run
      htextures).assigns.trans c.load.assigns
  have hsurfaced : c.surfaced.assigns = d.assigns :=
    (Stage.surfaces_touches.of_run hsurfaces).assigns.trans htextured
  have hmeshed : c.meshed.assigns = d.assigns :=
    ((Job.writeAll_evolves (S := fun _ => True) trivial).of_run c.saveMesh).assigns.trans hsurfaced
  exact ⟨htextured, hsurfaced, hmeshed⟩

/-- The areas of a project root lie below one location if an export could be finished there. -/
lemma exists_rooted {root : String} (hroot : d.assigns = .below root) (hid : id.Ordinary) :
    ∃ top, d.assigns.Rooted top := by
  obtain ⟨path, loc, hpath, hloc, -⟩ :=
    Depot.exists_of_stat?_eq_some (Job.stat?_of_writeAll c.saveMesh).1
  have hmesh : id.mesh = (id.site .mesh ".mesh").uri := (AssetId.site_uri _ _ _).symm
  rw [c.assigns_eq.2.2, hroot, hmesh] at hpath
  rw [hroot]
  exact Assigns.rooted_of_resolve (hid.site .mesh (by decide)) hpath hloc

/-! ## What is there at the end -/

section Files

variable {top : Location} (htop : d.assigns.Rooted top) (hid : id.Ordinary)

include htop hid

/-- **The mesh file is there.** -/
lemma holds_mesh : d'.Holds id.mesh c.data := by
  have hmesh : id.mesh = (id.site .mesh ".mesh").uri := (AssetId.site_uri _ _ _).symm
  have hwritten := Depot.holds_of_writeAll c.saveMesh
  rw [hmesh] at hwritten ⊢
  refine hwritten.of_apart (c.evolves_finished hid) (c.assigns_eq.2.2 ▸ htop)
    (hid.site .mesh (by decide)) ?_
  rintro s (rfl | rfl | rfl)
  · exact Or.inl (by simp)
  · exact AssetId.site_apart (by decide)
  · exact Or.inl (by simp)

/-- **The model file is there.** -/
lemma holds_model : d'.Holds id.model (utf8 model.render) := by
  have hmodel : id.model = (id.site .model ".model").uri := (AssetId.site_uri _ _ _).symm
  have hwritten := Depot.holds_of_writeAll c.saveModel
  have hassigns : c.modelled.assigns = d.assigns :=
    ((Job.writeAll_evolves (S := fun _ => True) trivial).of_run c.saveModel).assigns.trans
      (c.describe.assigns.trans c.assigns_eq.2.2)
  have hphysics : c.modelled.Evolves (Among (·.area ≠ .model)) d' := by
    refine c.physics.mono ?_
    rintro e (rfl | rfl)
    · exact ⟨id.site .mesh "_ph.mesh", by simp, hid.site .mesh (by decide),
        (AssetId.site_uri _ _ _).symm⟩
    · exact ⟨id.site .physics ".physmodel", by simp, hid.site .physics (by decide),
        (AssetId.site_uri _ _ _).symm⟩
  rw [hmodel] at hwritten ⊢
  exact hwritten.of_apart hphysics (hassigns ▸ htop) (hid.site .model (by decide))
    fun s hs => Or.inl hs

/-- **The surface of every material is there.** -/
lemma holds_surface {k : Nat} {m : Document.Material} (hk : doc.materials[k]? = some m) :
    ∃ s text, Surface.ofMaterial doc id (Document.materialName k m) (Stage.template mode) m = .ok s ∧
      s.render = .ok text ∧ d'.Holds (id.surfacePath (Document.materialName k m)) (utf8 text) := by
  obtain ⟨n, hsurfaces⟩ := c.surfaces
  obtain ⟨s, text, hs, htext, hwritten⟩ :=
    Stage.holds_of_surfaces (c.assigns_eq.1 ▸ htop) hid hsurfaces hk
  refine ⟨s, text, hs, htext, ?_⟩
  rw [Surface.surfacePath_eq_uri hid] at hwritten ⊢
  exact hwritten.of_apart (c.evolves_surfaced hid) (c.assigns_eq.2.1 ▸ htop)
    ((hid.dir .surface).child (Surface.ordinary_fileName k m)) fun x hx => Or.inl hx.2

/-- **The texture of every embedded image is there.** -/
lemma holds_texture (hscratch : d.world.ScratchOrdinary) {k : Nat} {image : Document.Image}
    (hk : doc.images[k]? = some image) (hembedded : image.embedded = true) :
    ∃ ext ∈ Texture.extensions, ∃ bytes, d'.Holds (id.textureRef k ++ "." ++ ext) bytes := by
  obtain ⟨n, htextures⟩ := c.textures
  obtain ⟨ext, hext, bytes, hwritten⟩ := Stage.holdsTexture_of_textures (c.load.assigns ▸ htop)
    (c.load.world ▸ hscratch) hid htextures hk hembedded
  have huri : (id.textureSite.child (Texture.fileName k ext)).uri =
      id.textureRef k ++ "." ++ ext := by
    rw [Texture.uri_fileName (t := id.textureSite) (hid.dir .texture), ← AssetId.textureDir_eq_uri]
    rfl
  refine ⟨ext, hext, bytes, ?_⟩
  rw [← huri]
  exact hwritten.of_apart (c.evolves_textured hid) (c.assigns_eq.1 ▸ htop)
    ((hid.dir .texture).child (Texture.ordinary_fileName k hext)) fun x hx => Or.inl hx

end Files

/-- **The surfaces that were written** are those of materials. -/
lemma exists_journal (hscratch : d.world.ScratchOrdinary) (hid : id.Ordinary) :
    ∃ events, d'.journal = d.journal ++ events ∧
      ∀ uri, Event.create uri ∈ events → (Event.create uri).Below id.surfaceDir →
        ∃ k m, doc.materials[k]? = some m ∧ uri = id.surfacePath (Document.materialName k m) := by
  obtain ⟨n, hsurfaces⟩ := c.surfaces
  have hevolves : d.Evolves
      (fun e => e.Among (·.area ≠ .surface) ∨ Surface.Touches doc id e) d' := by
    refine (c.load.mono fun e he => he.elim).trans (Depot.Evolves.trans
      ((c.evolves_loaded hscratch hid).mono fun e he => Or.inl (he.mono ?_)) (Depot.Evolves.trans
      ((Stage.surfaces_touches.of_run hsurfaces).mono fun e he => Or.inr he)
      ((c.evolves_surfaced hid).mono fun e he => Or.inl (he.mono fun s hs => hs.2))))
    rintro s (hs | hs) <;> rw [hs] <;> decide
  obtain ⟨events, hevents, hkind⟩ := hevolves.journal
  refine ⟨events, hevents, fun uri hmem hbelow => ?_⟩
  rcases hkind _ hmem with ⟨s, hs, -, heq⟩ | htouches
  · exact absurd (AssetId.area_of_below heq hbelow) hs
  · cases htouches with
    | write hk => exact ⟨_, _, hk, rfl⟩

end Course

end SceneForge
