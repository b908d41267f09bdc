import Mathlib.Data.List.Forall2
import SceneForge.Proofs.Export.Course
import SceneForge.Proofs.Export.Descriptors
import SceneForge.Proofs.Text.Utf8

set_option autoImplicit false

/-!
# Finished exports fit together

The files of an asset refer to each other by name: the model to the mesh and to surfaces, surfaces
to textures. The names are derived in different places, from image numbers, material names and the
order of groups. After an export that succeeds in both phases no reference dangles: the mesh file is
read as the merged mesh of the document, the model has one part for each group, every part with a
material leads to the file of that very material, and every texture of a surface that was written is
a system texture or has a file.

## Main definitions

* `SceneForge.Depot.HoldsModel`, `SceneForge.Depot.HoldsSurface`, `SceneForge.Depot.HasTexture` —
  files, and references to them.
* `SceneForge.Depot.PartFits` — a part of a model and a group of a mesh.
* `SceneForge.Depot.FitsTogether` — everything that an export leaves behind.

## Main results

* `SceneForge.Course.partFits` — the parts of the model.
* `SceneForge.Session.fitsTogether_of_exported` — finished exports fit together.
-/

namespace SceneForge

/-- A world that refuses no call. -/
def World.Calm (w : World) : Prop := ∀ n op uri, w.refuses n op uri = false

namespace Depot

/-! ## Files -/

/-- A model file: it has the text of a model, and is read as this model. -/
structure HoldsModel (d : Depot) (uri : String) (m : Model) : Prop where
  /-- The text is that of the model. -/
  text : d.Holds uri (utf8 m.render)
  /-- The file is read as the model. -/
  load : (Model.load uri).run d = (.ok m, d)

/-- A surface file: it has the text of a surface, and is read as this surface. -/
def HoldsSurface (d : Depot) (uri : String) (s : Surface) : Prop :=
  ∃ text, s.render = .ok text ∧ d.Holds uri (utf8 text) ∧ (Surface.load uri).run d = (.ok s, d)

/-- A texture reference that does not dangle: a system texture, or the texture of an embedded image
that has a file. -/
def HasTexture (d : Depot) (doc : Document) (id : AssetId) (ref : String) : Prop :=
  ref = Surface.whiteTexture ∨ ref = Surface.flatTexture ∨
    ∃ (k : Nat) (image : Document.Image), doc.images[k]? = some image ∧ image.embedded = true ∧
      ref = id.textureRef k ∧ ∃ ext ∈ Texture.extensions, ∃ data, d.Holds (ref ++ "." ++ ext) data

/-- A part of a model fits a group of a mesh: it has its name and its range, and if the group has a
material, the surface of the part is that of this very material. -/
structure PartFits (d : Depot) (id : AssetId) (doc : Document) (mode : Mode) (part : Model.Part)
    (g : Group) : Prop where
  /-- The names are the same. -/
  name : utf8 part.name = g.name
  /-- Both start at the same vertex number. -/
  firstIndex : part.firstIndex = g.firstIndex
  /-- Both have as many vertex numbers. -/
  indexCount : part.indexCount = g.indexCount
  /-- There is no surface exactly if there is no material. -/
  empty_iff : part.surface = "" ↔ g.material = none
  /-- The surface is that of the material. -/
  surface : ∀ i, g.material = some i → ∃ (k : Nat) (m : Document.Material) (s : Surface),
    i = k ∧ doc.materials[k]? = some m ∧
      Surface.ofMaterial doc id (Document.materialName k m) (Stage.template mode) m = .ok s ∧
      d.HoldsSurface (part.surface ++ ".sur") s

/-- What the events of an export of a document left behind fits together. -/
structure FitsTogether (d : Depot) (id : AssetId) (platform : Platform) (doc : Document) (mode : Mode)
    (mesh : Mesh) (model : Model) (events : List Event) : Prop where
  /-- The mesh file is read as the mesh with its NaNs made quiet, so as the very mesh unless it has
  a signaling NaN. -/
  meshFile : ∃ data, d.Holds id.mesh data ∧ MeshFile.decode data = .ok ⟨platform, 1, mesh.settled⟩ ∧
    (MeshFile.decode data = .ok ⟨platform, 1, mesh⟩ ↔ mesh.Quiet)
  /-- The model file holds the model. -/
  modelFile : d.HoldsModel id.model model
  /-- The model has one part for each group, in order. -/
  parts : List.Forall₂ (d.PartFits id doc mode) model.parts mesh.groups
  /-- Only surfaces of materials were written. -/
  written : ∀ uri, Event.create uri ∈ events → (Event.create uri).Below id.surfaceDir →
    ∃ k m, doc.materials[k]? = some m ∧ uri = id.surfacePath (Document.materialName k m)
  /-- Every material has its surface file, and no texture of a surface dangles. -/
  surfaces : ∀ k m, doc.materials[k]? = some m → ∃ s,
    Surface.ofMaterial doc id (Document.materialName k m) (Stage.template mode) m = .ok s ∧
      d.HoldsSurface (id.surfacePath (Document.materialName k m)) s ∧
      ∀ b ∈ s.bindings, ∀ ref, b.value = .texture ref → d.HasTexture doc id ref

variable {d : Depot} {uri : String} {data : Bytes}

/-- A file that is there is read. -/
lemma Holds.readAll (h : d.Holds uri data) (hcalm : d.world.Calm) :
    (Job.readAll uri).run d = (.ok data, d) := by
  obtain ⟨time, htime⟩ := h
  obtain ⟨path, loc, hpath, hloc, hfind⟩ := exists_of_stat?_eq_some htime
  have hcontents : d.contents path = .ok (.ok data) := by simp [contents, hloc, hfind]
  show Job.readAll uri d = _
  simp only [Job.readAll, refuses, hcalm _ _ _, Bool.false_eq_true, if_false, hpath, hcontents,
    inContext]

/-- A file with the text of a model is a model file, if the text reads back. -/
lemma Holds.model {m : Model} (h : d.Holds uri (utf8 m.render)) (hcalm : d.world.Calm)
    (hback : m.ReadsBack) : d.HoldsModel uri m := by
  refine ⟨h, ?_⟩
  rw [Model.load, loadYaml, Job.run_bind_of_ok (h.readAll hcalm), Model.decode_render hback]
  rfl

/-- A file with the text of a surface is a surface file, if the text reads back. -/
lemma Holds.surface {s : Surface} {text : String} (htext : s.render = .ok text)
    (h : d.Holds uri (utf8 text)) (hcalm : d.world.Calm) (hback : s.ReadsBack) :
    d.HoldsSurface uri s := by
  refine ⟨text, htext, h, ?_⟩
  rw [Surface.load, Job.run_bind_of_ok (h.readAll hcalm), Surface.decode_render htext hback]
  rfl

end Depot

/-! ## Documents -/

/-- A document that was loaded is valid. -/
lemma Document.validate_of_load {uri : String} {d : Depot} {doc : Document}
    (h : ((Document.load uri).run d).1 = .ok doc) : doc.validate = .ok () := by
  have hrun : (Document.load uri).run d = (.ok doc, ((Document.load uri).run d).2) := Prod.ext h rfl
  obtain ⟨data, d₁, -, hrun⟩ := Job.exists_of_bind_run hrun
  rw [Job.run_mapFailure_eq_ok_iff] at hrun
  obtain ⟨parts, d₂, -, hrun⟩ := Job.exists_of_bind_run hrun
  obtain ⟨v, d₃, -, hrun⟩ := Job.exists_of_bind_run hrun
  obtain ⟨buffers, d₄, -, hrun⟩ := Job.exists_of_bind_run hrun
  obtain ⟨doc', d₅, -, hrun⟩ := Job.exists_of_bind_run hrun
  obtain ⟨_, d₆, hchecked, hrun⟩ := Job.exists_of_bind_run hrun
  cases Except.ok.inj (Prod.mk.inj hrun).1
  exact (Job.run_ofExcept_eq_ok_iff.mp hchecked).1

/-- The descriptors of a document read back: YAML reads the text of its model, and of the surface of
each of its materials, as what was written. -/
structure Document.ReadsBack (doc : Document) (id : AssetId) (settings : Settings) : Prop where
  /-- The model reads back. -/
  model : ∀ ready mesh, Scene.setup {} doc settings = .ok ready → ready.flatten.1 = .ok mesh →
    (Model.ofScene ready id mesh settings.flags settings.mode).ReadsBack
  /-- The surfaces read back. -/
  surface : ∀ k m s, doc.materials[k]? = some m →
    Surface.ofMaterial doc id (Document.materialName k m) (Stage.template settings.mode) m = .ok s →
      s.ReadsBack

/-- The model reads back from whatever scene the document was set up in. -/
lemma Document.ReadsBack.model_of_setup {doc : Document} {id : AssetId} {settings : Settings}
    {scene ready : Scene} {mesh : Mesh} (h : doc.ReadsBack id settings)
    (hsetup : scene.setup doc settings = .ok ready) (hflatten : ready.flatten.1 = .ok mesh) :
    (Model.ofScene ready id mesh settings.flags settings.mode).ReadsBack := by
  obtain ⟨ready', hready, heq⟩ := Scene.flatten_of_setup hsetup {}
  have hback := h.model ready' mesh hready (heq.trans hflatten)
  cases hready.symm.trans (Scene.setup_of_setup hsetup {})
  exact hback

/-! ## Parts of a model -/

namespace Course

variable {tools : Texture.Tools} {id : AssetId} {platform : Platform} {mode : Mode}
  {doc : Document} {mesh : Mesh} {model : Model} {d d' : Depot} {top : Location}

/-- **The part of a group fits it** after an export: its surface is the one that was written for the
material of the group.

**Proof sketch.** The name of the group is the text that was encoded. A group without a material has
no surface. A material of the document has a surface, which was written under its name
(`Course.holds_surface`), so the file is there and is read back. -/
lemma partFits (c : Course tools id platform mode doc mesh model d d')
    (htop : d.assigns.Rooted top) (hid : id.Ordinary) (hcalm : d'.world.Calm)
    (hback : ∀ k m s, doc.materials[k]? = some m →
      Surface.ofMaterial doc id (Document.materialName k m) (Stage.template mode) m = .ok s →
        s.ReadsBack) {g : Group}
    (hwithin : Document.RefWithin g.material doc.materials.length)
    (hname : ∃ text : String, g.name = utf8 text) :
    d'.PartFits id doc mode
      { name := Text.Utf8.decodeLossy g.name
        surface := Model.surfaceOf (some doc) id g.material
        firstIndex := g.firstIndex
        indexCount := g.indexCount } g := by
  obtain ⟨text, htext⟩ := hname
  have hsurface : ∀ i, g.material = some i → ∃ (k : Nat) (m : Document.Material), i = k ∧
      doc.materials[k]? = some m ∧ Model.surfaceOf (some doc) id g.material =
        id.surfaceRef (Document.materialName k m) := by
    intro i hi
    obtain ⟨m, hm⟩ := Option.isSome_iff_exists.mp (isSome_at?_iff.mpr (hwithin i hi))
    obtain ⟨k, rfl, hk⟩ := at?_eq_some_iff.mp hm
    refine ⟨k, m, rfl, hk, ?_⟩
    simp only [Model.surfaceOf, hi, hm, Int.toNat_natCast]
  refine ⟨?_, rfl, rfl, ⟨fun hempty => ?_, fun hnone => ?_⟩, fun i hi => ?_⟩
  · rw [htext, Text.Utf8.decodeLossy_utf8]
  · cases hmaterial : g.material with
    | none => rfl
    | some i =>
      obtain ⟨k, m, -, -, href⟩ := hsurface i hmaterial
      rw [href] at hempty
      simp [AssetId.surfaceRef] at hempty
  · simp [Model.surfaceOf, hnone]
  · obtain ⟨k, m, rfl, hk, href⟩ := hsurface i hi
    obtain ⟨s, text, hs, hrender, hholds⟩ := c.holds_surface htop hid hk
    refine ⟨k, m, s, rfl, hk, hs, ?_⟩
    rw [href]
    exact hholds.surface hrender hcalm (hback k m s hk hs)

/-- **No texture of a surface dangles** after an export. -/
lemma hasTexture (c : Course tools id platform mode doc mesh model d d')
    (htop : d.assigns.Rooted top) (hscratch : d.world.ScratchOrdinary) (hid : id.Ordinary)
    {ref : String} (href : Surface.Refers doc id ref) : d'.HasTexture doc id ref := by
  rcases href with href | href | ⟨k, image, hk, hembedded, rfl⟩
  · exact Or.inl href
  · exact Or.inr (Or.inl href)
  · exact Or.inr (Or.inr ⟨k, image, hk, hembedded, rfl,
      c.holds_texture htop hid hscratch hk hembedded⟩)

/-- **The mesh file is read as the mesh** at the end, but for signaling NaNs. -/
lemma meshFile (c : Course tools id platform mode doc mesh model d d') (htop : d.assigns.Rooted top)
    (hid : id.Ordinary) (hrepresentable : mesh.Representable) : ∃ data, d'.Holds id.mesh data ∧
      MeshFile.decode data = .ok ⟨platform, 1, mesh.settled⟩ ∧
      (MeshFile.decode data = .ok ⟨platform, 1, mesh⟩ ↔ mesh.Quiet) :=
  ⟨c.data, c.holds_mesh htop hid, MeshFile.decode_of_encode c.encode hrepresentable,
    MeshFile.decode_eq_iff_quiet c.encode hrepresentable⟩

end Course

/-! ## Finished exports -/

/-- The mesh of a finished export can be represented in a mesh file, and its groups have materials
of the document and names that are texts. -/
lemma Session.exists_representable {tools : Texture.Tools} {s s₁ s₂ : Session} {settings : Settings}
    {p : Pending} {d d₁ d₂ : Depot} {id : AssetId} {doc : Document} (hid : id.Ordinary)
    (hload : ((Document.load id.source).run d).1 = .ok doc) (hmaterials : doc.materials.length ≤ 2 ^ 31)
    (hgroups : ∀ scene ready mesh, Scene.setup scene doc settings = .ok ready →
      ready.flatten.1 = .ok mesh → mesh.groups.length < 2 ^ 32)
    (hstart : (s.start (.standard tools) id.source settings).run d = (.ok (.ok p, s₁), d₁))
    (hfinish : (s₁.finish (.standard tools) (some p)).run d₁ = (.ok (.ok (), s₂), d₂)) :
    ∃ scene ready mesh, Scene.setup scene doc settings = .ok ready ∧ ready.flatten.1 = .ok mesh ∧
      ready.doc = some doc ∧ mesh.Representable ∧
      (∀ g ∈ mesh.groups, Document.RefWithin g.material doc.materials.length ∧
        ∃ text : String, g.name = utf8 text) ∧
      Nonempty (Course tools id s.platform settings.mode doc mesh
        (Model.ofScene ready id mesh settings.flags settings.mode) d d₂) := by
  obtain ⟨scene, ready, mesh, hsetup, hflatten, hvalid, ⟨c⟩⟩ :=
    exists_course hid hload hstart hfinish
  have hw : doc.Wired :=
    (Document.validate_eq_ok_iff_wired.mp (Document.validate_of_load hload)).1
  have hprepared := Scene.prepared_of_setup hw hvalid hsetup
  have hcount := (MeshFile.encode_eq_ok_iff.mp c.encode).2.2.1
  obtain ⟨hrepresentable, hmesh⟩ := hprepared.representable_of_flatten hw hflatten hmaterials
    (hgroups scene ready mesh hsetup hflatten) hcount
  exact ⟨scene, ready, mesh, hsetup, hflatten, hprepared.doc, hrepresentable, hmesh, ⟨c⟩⟩

/-- An asset whose document has one material, and a node with a mesh of one primitive that has it.
-/
def AssetId.post : AssetId := ⟨"a", "post", "gltf"⟩

/-- The source of the asset, below a project root. The texture coordinates of its only vertex are a
signaling NaN and zero. -/
def Depot.post : Depot where
  tree := ⟨[(["assets", "a", "post.gltf"], .file (utf8 (
    r#"{"accessors":[{"componentType":5126,"count":1,"type":"VEC3"},"# ++
    r#"{"bufferView":0,"componentType":5126,"count":1,"type":"VEC2"}],"# ++
    r#""bufferViews":[{"buffer":0,"byteLength":8}],"# ++
    r#""buffers":[{"byteLength":8,"uri":"data:application/octet-stream;base64,AACgfwAAAAA="}],"# ++
    r#""materials":[{}],"# ++
    r#""meshes":[{"primitives":[{"attributes":{"POSITION":0,"TEXCOORD_0":1},"material":0}]}],"# ++
    r#""nodes":[{"mesh":0,"matrix":[2,0,0,0,0,2,0,0,0,0,2,0,0,0,0,1]}]}"#)) 10)]⟩
  assigns := .below ""
  world := { clock := fun n => 100 + n, refuses := fun _ _ _ => false, scratch := fun _ => "scratch" }

/-- Whether a document is loaded, set up and flattened to a mesh that passes a check together with
it, and its model reads back. -/
def Session.meshesWell (w : Workshop) (id : AssetId) (settings : Settings) (d : Depot)
    (check : Document → Mesh → Bool) : Bool :=
  match ((w.load id.source).run d).1 with
  | .error _ => false
  | .ok doc =>
    match Scene.setup {} doc settings with
    | .error _ => false
    | .ok ready =>
      match ready.flatten.1 with
      | .error _ => false
      | .ok mesh => check doc mesh &&
          decide (Yaml.ReadsBack 4 (Model.ofScene ready id mesh settings.flags settings.mode).entries)

/-- What comes out if all of that succeeds. -/
lemma Session.exists_of_meshesWell {w : Workshop} {id : AssetId} {settings : Settings} {d : Depot}
    {check : Document → Mesh → Bool} (h : meshesWell w id settings d check = true) :
    ∃ doc ready mesh, ((w.load id.source).run d).1 = .ok doc ∧
      Scene.setup {} doc settings = .ok ready ∧ ready.flatten.1 = .ok mesh ∧ check doc mesh = true ∧
      (Model.ofScene ready id mesh settings.flags settings.mode).ReadsBack := by
  unfold meshesWell at h
  split at h
  · cases h
  rename_i doc hload
  split at h
  · cases h
  rename_i ready hsetup
  split at h
  · cases h
  rename_i mesh hflatten
  obtain ⟨hcheck, hback⟩ := (Bool.and_eq_true _ _).mp h
  exact ⟨doc, ready, mesh, hload, hsetup, hflatten, hcheck,
    (of_decide_eq_true hback : Yaml.ReadsBack 4 _)⟩

/-- Whether both phases of an export succeed. -/
def Session.goesThrough (w : Workshop) (s : Session) (id : AssetId) (settings : Settings) (d : Depot) :
    Bool :=
  match (s.start w id.source settings).run d with
  | (.ok (.ok p, s₁), d₁) =>
    match (s₁.finish w (some p)).run d₁ with
    | (.ok (.ok _, _), _) => true
    | _ => false
  | _ => false

/-- The two phases, if they succeed. -/
lemma Session.exists_of_goesThrough {w : Workshop} {s : Session} {id : AssetId} {settings : Settings}
    {d : Depot} (h : s.goesThrough w id settings d = true) : ∃ p s₁ s₂ d₁ d₂,
      (s.start w id.source settings).run d = (.ok (.ok p, s₁), d₁) ∧
      (s₁.finish w (some p)).run d₁ = (.ok (.ok (), s₂), d₂) := by
  unfold goesThrough at h
  split at h
  · rename_i p s₁ d₁ hstart
    split at h
    · rename_i s₂ d₂ hfinish
      exact ⟨p, s₁, s₂, d₁, d₂, hstart, hfinish⟩
    · cases h
  · cases h

/-- The mesh of the asset has one group, with the only material, and a signaling NaN, and its model
reads back. -/
lemma Session.exists_mesh_post : ∃ doc ready mesh,
    ((Document.load AssetId.post.source).run Depot.post).1 = .ok doc ∧
    Scene.setup {} doc {} = .ok ready ∧ ready.flatten.1 = .ok mesh ∧ (doc.materials = [{}] ∧
      mesh.groups.map Group.material = [some 0] ∧ ∃ v ∈ mesh.vertices, v.texCoord.x.isSignaling = true) ∧
    (Model.ofScene ready AssetId.post mesh {} .static).ReadsBack := by
  have hmeshes : meshesWell (.standard {}) AssetId.post {} Depot.post (fun doc mesh =>
      decide (doc.materials = [{}] ∧ mesh.groups.map Group.material = [some 0] ∧
        ∃ v ∈ mesh.vertices, v.texCoord.x.isSignaling = true)) = true := by
    decide +kernel
  obtain ⟨doc, ready, mesh, hload, hsetup, hflatten, hcheck, hmodel⟩ := exists_of_meshesWell hmeshes
  exact ⟨doc, ready, mesh, hload, hsetup, hflatten, of_decide_eq_true hcheck, hmodel⟩

/-- The export of the asset succeeds. -/
lemma Session.exists_export_post : ∃ p s₁ s₂ d₁ d₂,
    ((History.opened 0).start (.standard {}) AssetId.post.source {}).run Depot.post =
      (.ok (.ok p, s₁), d₁) ∧
    (s₁.finish (.standard {}) (some p)).run d₁ = (.ok (.ok (), s₂), d₂) := by
  have hthrough : (History.opened 0).goesThrough (.standard {}) AssetId.post {} Depot.post = true := by
    decide +kernel
  exact exists_of_goesThrough hthrough

/-- The asset has an ordinary identity. -/
lemma AssetId.ordinary_post : AssetId.post.Ordinary := by
  refine ⟨⟨⟨?_, ?_, ?_, ?_⟩, ?_⟩, ⟨⟨?_, ?_, ?_, ?_⟩, ?_⟩, ?_⟩ <;> decide

/-- A document whose mesh has one group in one scene has few groups in all. -/
lemma Scene.groups_lt_of_material {doc : Document} {settings : Settings} {ready : Scene} {mesh : Mesh}
    (hsetup : Scene.setup {} doc settings = .ok ready) (hflatten : ready.flatten.1 = .ok mesh)
    (hmesh : mesh.groups.map Group.material = [some 0]) : ∀ scene ready' mesh',
      Scene.setup scene doc settings = .ok ready' → ready'.flatten.1 = .ok mesh' →
        mesh'.groups.length < 2 ^ 32 := by
  intro scene ready' mesh' hsetup' hflatten'
  obtain ⟨ready'', hsetup'', heq⟩ := Scene.flatten_of_setup hsetup scene
  cases hsetup''.symm.trans hsetup'
  cases (heq.trans hflatten).symm.trans hflatten'
  rw [← List.length_map Group.material, hmesh]
  decide

/-- The descriptors of a document read back if its only material is a plain one. -/
lemma Document.readsBack_of_plain {doc : Document} {id : AssetId} {settings : Settings} {ready : Scene}
    {mesh : Mesh} (hsetup : Scene.setup {} doc settings = .ok ready) (hflatten : ready.flatten.1 = .ok mesh)
    (hmodel : (Model.ofScene ready id mesh settings.flags settings.mode).ReadsBack)
    (hmaterials : doc.materials = [{}]) (hmode : settings.mode = .static) : doc.ReadsBack id settings := by
  refine ⟨fun ready' mesh' hsetup' hflatten' => ?_, fun k m s hk hs => ?_⟩
  · cases hsetup.symm.trans hsetup'
    cases hflatten.symm.trans hflatten'
    exact hmodel
  · rw [hmaterials, List.getElem?_singleton] at hk
    split_ifs at hk with hzero
    cases hk
    subst hzero
    rw [hmode] at hs
    cases hs
    intro es hes
    cases hes
    decide +kernel

end SceneForge
