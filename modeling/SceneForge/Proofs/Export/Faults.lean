import SceneForge.Proofs.Asset.Premises
import SceneForge.Proofs.Export.Batch
import SceneForge.Proofs.Export.Course
import SceneForge.Proofs.Export.Plan
import SceneForge.Proofs.Export.Refusals

set_option autoImplicit false

/-!
# Whose fault a failed export is

A failure is counted as one of the source, or as trouble with files, or as a wrong use of the
program. On a calm depot with nothing of the wrong kind in the way, no source can make an export
fail as trouble with files: documents are checked before they are used, and every trouble in making
something of them is turned into a failure of the source. There is one exception. A mesh that does
not fit the format of mesh files, such as one with a very long name, is the fault of its source, and
is counted as trouble with files.

## Main definitions

* `SceneForge.AssetId.Premises.plan` — the plan of an export.
* `SceneForge.Depot.Unobstructed` — nothing of the wrong kind is in the way of an export.
* `SceneForge.Depot.Oversized` — the mesh of an asset does not fit the format of mesh files.
* `SceneForge.Depot.Blames` — why an export may fail.

## Main results

* `SceneForge.Stage.all_planned`, `SceneForge.Scene.generateModels_planned` — both phases of an
  export fail for causes that lie in the source.
* `SceneForge.Batch.fault_of_source` — what a failed export is counted as.
-/

namespace SceneForge

open Job (Abides Steps)
open Depot (Follows Preserves)
open Texture (workspaceRoot)

/-! ## The plan of an export -/

namespace AssetId.Premises

variable {a : Assigns} {id : AssetId} (g : Premises a id) {N : String → Prop} {k : Artifact}
  {l : Location} {n : String}

/-- **The plan of an export** that draws scratch names of some kind: files are meant for the meshes,
the models and the insides of workspaces, directories for everything above and for surfaces. The
directory of textures is not planned: what goes wrong there is a failed conversion. -/
def plan (N : String → Prop) : Plan where
  directories l := (∃ k, k.isDirectory = false ∧ l <+: g.place k ∧ l ≠ g.place k) ∨
    l <+: g.place .surfaces ∨ ∃ n, N n ∧ l <+: g.bench n
  files l := (∃ k, k.isDirectory = false ∧ l = g.place k) ∨
    ∃ n, N n ∧ g.bench n <+: l ∧ l ≠ g.bench n
  apart := by
    rintro l (⟨k, hk, hle, hne⟩ | hle | ⟨n, -, hle⟩) (⟨k', hk', rfl⟩ | ⟨m, -, hbelow, hne'⟩)
    · exact hne (g.level k' k hle)
    · exact g.branch k m _ (List.prefix_refl _) (hbelow.trans hle)
    · exact g.apart k' .surfaces hk' rfl (g.level _ _ hle)
    · exact g.branch .surfaces m _ (List.prefix_refl _) (hbelow.trans hle)
    · exact g.branch k' n _ hle (List.prefix_refl _)
    · have heq := g.bench_level m n (hbelow.trans hle)
      exact hne' ((heq ▸ hle).eq_of_length_le hbelow.length_le)

/-- Meshes and models are planned. -/
lemma provides_place (hk : k.isDirectory = false) : (g.plan N).Provides (g.place k) :=
  ⟨Or.inl ⟨k, hk, rfl⟩, fun _ hle hne => Or.inl ⟨k, hk, hle, hne⟩⟩

/-- Workspaces are planned. -/
lemma directories_bench (hn : N n) (hle : l <+: g.bench n) : (g.plan N).directories l :=
  Or.inr (Or.inr ⟨n, hn, hle⟩)

/-- The directory of surfaces is planned. -/
lemma directories_surfaces (hle : l <+: g.place .surfaces) : (g.plan N).directories l :=
  Or.inr (Or.inl hle)

/-- What lies above a name in a directory is the directory or lies above it. -/
lemma prefix_of_above {dir : Location} {name : String} (hle : l <+: dir ++ [name])
    (hne : l ≠ dir ++ [name]) : l <+: dir := (List.prefix_concat_iff.mp hle).resolve_left hne

/-- Files in workspaces are planned. -/
lemma provides_bench (hn : N n) (name : String) : (g.plan N).Provides (g.bench n ++ [name]) :=
  ⟨Or.inr ⟨n, hn, List.prefix_append _ _, by simp⟩,
    fun _ hle hne => g.directories_bench hn (prefix_of_above hle hne)⟩

/-- No file is planned on the way to a directory of the asset. -/
lemma not_files_of_prefix (hk : k.isDirectory = true) (hle : l <+: g.place k) :
    ¬ (g.plan N).files l := by
  rintro (⟨k', hk', rfl⟩ | ⟨n, -, hbelow, -⟩)
  · exact g.apart k' k hk' hk (g.level _ _ hle)
  · exact g.branch k n _ (List.prefix_refl _) (hbelow.trans hle)

/-- No directory is planned in a directory of the asset. -/
lemma eq_of_directories (hk : k.isDirectory = true) (hl : (g.plan N).directories l)
    (hle : g.place k <+: l) : l = g.place k := by
  rcases hl with ⟨k', hk', hle', hne⟩ | hle' | ⟨n, -, hle'⟩
  · exact absurd (g.level _ _ (hle.trans hle')).symm (g.apart k' k hk' hk)
  · have heq := g.level _ _ (hle.trans hle')
    exact (heq ▸ hle').eq_of_length_le hle.length_le
  · exact absurd hle' fun h => g.branch k n _ (hle.trans h) (List.prefix_refl _)

/-- Textures may be written. -/
lemma admits_texture (name : String) : (g.plan N).Admits (g.place .textures ++ [name]) where
  here hdir := by
    have heq := g.eq_of_directories rfl hdir (List.prefix_append _ _)
    simp at heq
  above _ hle hne := g.not_files_of_prefix rfl (prefix_of_above hle hne)

/-- The plan once the directory of surfaces is renewed. -/
def surfacePlan (N : String → Prop) : Plan :=
  (g.plan N).fill (g.place .surfaces) fun _ => g.eq_of_directories rfl

/-- Surfaces are planned once their directory is renewed. -/
lemma provides_surface (name : String) :
    (g.surfacePlan N).Provides (g.place .surfaces ++ [name]) :=
  ⟨Or.inr ⟨List.prefix_append _ _, by simp⟩,
    fun _ hle hne => g.directories_surfaces (prefix_of_above hle hne)⟩

end AssetId.Premises

/-! ## Stages -/

/-- The names that a depot will give to workspaces. -/
def Depot.Drawn (d : Depot) (name : String) : Prop := ∃ n ≥ d.scratchUsed, name = d.world.scratch n

/-- A cause that is counted as one of the source. -/
def Cause.OfSource (c : Cause) : Prop :=
  c.kind = .parse ∨ c.kind = .conversion ∨ c.kind = .unresolvedReference

/-- Whether a cause is counted as one of the source can be found out. -/
instance Cause.decidableOfSource (c : Cause) : Decidable c.OfSource :=
  inferInstanceAs (Decidable (_ ∨ _ ∨ _))

section Stages

/- An export on premises of its own that starts from a calm depot, and keeps to its plan. -/
variable {d₀ : Depot} {id : AssetId} (g : id.Premises d₀.assigns) {S : Cause → Prop}
  (hS : ∀ c, c.OfSource → S c) (hcalm : d₀.world.Calm) (hordinary : d₀.world.ScratchOrdinary)

/-- The next scratch name is one of those to be drawn. -/
lemma Job.nextScratch_planned :
    Abides (Follows (g.plan d₀.Drawn) d₀) S d₀.Drawn Job.nextScratch := by
  refine .of_steps Job.nextScratch_steps fun d hd => ?_
  exact ⟨d.scratchUsed, hd.scratchUsed, by rw [hd.world]⟩

include hordinary in
/-- Names to be drawn are ordinary. -/
lemma Depot.Drawn.ordinary {name : String} (h : d₀.Drawn name) : Path.Ordinary name.toList := by
  obtain ⟨n, -, rfl⟩ := h
  exact hordinary n

include hS hcalm hordinary in
/-- **Textures**: whatever goes wrong is a failed conversion. -/
lemma Texture.extract_planned (tools : Texture.Tools) (doc : Document) :
    Abides (Follows (g.plan d₀.Drawn) d₀) S (Texture.Tallied S)
      (Texture.extract (Texture.convert tools) doc id.textureDir) := by
  have hwrite : ∀ name, d₀.Drawn name → ∀ file data, Path.Ordinary file.toList →
      Abides (Follows (g.plan d₀.Drawn) d₀) S (fun _ => True)
        (Job.writeAll (workspaceRoot ++ "/" ++ name ++ "/" ++ file) data) :=
    fun name hname file data hfile => Job.writeAll_planned hcalm
      ((g.opens_bench name (hname.ordinary hordinary)).inside file hfile)
      (g.provides_bench hname file) data
  refine Texture.extract_abides (N := d₀.Drawn) (hS _ (by decide)) (Job.nextScratch_planned g)
    (fun name hname => ?_) (fun name hname i type data => ?_) (fun name hname i type => ?_)
    (fun name _ => Job.deleteDirectory_follows _) (Job.deleteDirectory_follows _) ?_ doc
  · exact Job.createDirectory_planned hcalm (g.opens_bench name (hname.ordinary hordinary)).here
      fun l => g.directories_bench hname
  · have hfile := hwrite name hname _ data (ordinary_fileName i (ext_mem type))
    simpa only [fileName, String.append_assoc] using hfile
  · refine Texture.convert_steps tools (fun format data => ?_) fun format data => ?_
    · have hfile := hwrite name hname _ data (ordinary_scratch i (extensionFor_mem format))
      rw [Texture.stem_picture]
      simpa only [String.append_assoc] using hfile.steps
    · have hfile : Steps (Preserves (Follows (g.plan d₀.Drawn) d₀)) (Job.writeAll
          (id.textureDir ++ "/" ++ Texture.fileName i (Texture.extensionFor format)) data) :=
        Job.writeAll_follows (fun loc hloc => ((g.opens .textures).inside _
          (ordinary_fileName i (extensionFor_mem format))).unique hloc ▸ g.admits_texture _) data
      rw [Texture.stem_picture]
      simpa only [Texture.fileName, String.append_assoc] using hfile
  · refine Job.createDirectory_follows fun loc hloc l hle => ?_
    rw [← (g.opens .textures).here.unique hloc] at hle
    exact g.not_files_of_prefix rfl hle

include hS hcalm in
/-- **Surfaces**: in a wired document only textures that are not embedded and names that are used
twice are in the way. -/
lemma Surface.generate_planned {doc : Document} (hwired : doc.Wired) (template : String) :
    Abides (Follows (g.plan d₀.Drawn) d₀) S (Texture.Tallied S) (Surface.generate doc id template) := by
  have hdir := g.opens .surfaces
  refine Surface.generate_abides (J := Follows (g.surfacePlan d₀.Drawn) d₀) (fun d hd => ?_)
    (Surface.build_excused (hS _ (by decide)) (fun _ => hwired) (hS _ (by decide)) id template)
    (fun d hd => ?_) fun ss hss s hs data => ?_
  · exact ⟨hd.assigns, hd.world, hd.scratchUsed, hd.grounded, hd.directories,
      fun l hl => hd.files l (Or.inl hl)⟩
  · refine Surface.renewDirectory_follows hcalm hdir.here ?_
      (fun l hle => g.directories_surfaces hle) _ hd
    intro hnil
    exact g.branch .surfaces "" _ (hnil ▸ List.nil_prefix) (List.prefix_refl _)
  · have hfile := Job.writeAll_planned (S := S) (p := g.surfacePlan d₀.Drawn) hcalm
      (hdir.inside _ (Surface.ordinary_of_build hss s hs)) (g.provides_surface _) data
    simpa only [Surface.fileName, AssetId.artifact, AssetId.surfacePath, AssetId.surfaceRef,
      String.append_assoc] using hfile

include hcalm in
/-- **Meshes**: only one that does not fit the format cannot be written. -/
lemma MeshFile.save_planned {k : Artifact} (hk : k.isDirectory = false) {m : Mesh} {platform : Platform}
    (hplatform : platform.isKnown) (hlarge : ¬ m.Storable → S .meshTooLarge) :
    Abides (Follows (g.plan d₀.Drawn) d₀) S (fun _ => True)
      (MeshFile.save (id.artifact k) m platform) :=
  MeshFile.save_abides (MeshFile.encode_excused (fun h => absurd hplatform h) hlarge)
    fun data => Job.writeAll_planned hcalm (g.opens k).here (g.provides_place hk) data

/-- The merged mesh of a document, whatever scene it is set up in. -/
def Document.Merges (doc : Document) (settings : Settings) (m : Mesh) : Prop :=
  ∀ scene : Scene, ∃ scene', Stage.merge scene doc settings = (.ok m, scene')

/-- There is one merged mesh. -/
lemma Document.Merges.unique {doc : Document} {settings : Settings} {m m' : Mesh} {scene scene' : Scene}
    (h : doc.Merges settings m) (h' : Stage.merge scene doc settings = (.ok m', scene')) : m' = m := by
  obtain ⟨scene'', hmerge⟩ := h scene
  exact Except.ok.inj (congrArg Prod.fst (h'.symm.trans hmerge))

/-- **A wired document has a merged mesh** for all valid settings. -/
lemma Document.Wired.exists_merges {doc : Document} (hwired : doc.Wired) {settings : Settings}
    (hvalid : settings.validate = .ok ()) : ∃ m, doc.Merges settings m := by
  have hscale := settings.validate_excused (S := fun _ => True) trivial
  rw [hvalid] at hscale
  obtain ⟨ready, hsetup, hp⟩ := Scene.exists_setup {} hwired hscale
  obtain ⟨m, -, hflatten, -⟩ := hp.exists_flatten? hwired
  refine ⟨m, fun scene => ?_⟩
  obtain ⟨ready', hsetup', hflatten'⟩ := Scene.flatten_of_setup hsetup scene
  refine ⟨ready'.flatten.2, ?_⟩
  rw [Stage.merge, hsetup']
  exact Prod.ext (hflatten'.trans (by rw [hflatten])) rfl

include hS hcalm hordinary in
/-- **The first phase of an export** fails for causes that lie in the source. -/
lemma Stage.all_planned {platform : Platform} {doc : Document} {settings : Settings} {m : Mesh}
    (hplatform : platform.isKnown) (hwired : doc.Wired) (hmerges : doc.Merges settings m)
    (hlarge : ¬ m.Storable → S .meshTooLarge) (tools : Texture.Tools) (scene : Scene) :
    Abides (Follows (g.plan d₀.Drawn) d₀) (fun _ => False) (fun r => Excused.Any S r.1)
      (Stage.all (.standard tools) platform scene doc id settings) := by
  refine Stage.all_abides
    (Stage.textures_abides (Texture.extract_planned g hS hcalm hordinary tools doc))
    (Stage.surfaces_abides (Surface.generate_planned g hS hcalm hwired _)) ?_
  obtain ⟨scene', hmerge⟩ := hmerges scene
  rw [hmerge]
  refine Stage.mesh_abides (Q := (· = m)) (r := .ok m) rfl ?_
  rintro _ rfl
  exact MeshFile.save_planned g hcalm (k := .mesh) rfl hplatform hlarge

/-- The mesh that collides fits the format of mesh files as well. -/
lemma Mesh.Storable.collision {m : Mesh} (h : m.Storable) : m.collision.Storable where
  vertices := by simpa [Mesh.collision] using h.vertices
  indices := h.indices
  names := by
    intro g hg
    rw [List.mem_singleton.mp hg]
    show (utf8 "physics").length ≤ 0xffff
    decide

include hS hcalm in
/-- **The second phase of an export** fails for causes that lie in the source. -/
lemma Scene.generateModels_planned {platform : Platform} {scene : Scene} {m : Mesh}
    (hplatform : platform.isKnown) (hmesh : scene.mesh = some m)
    (hlarge : ¬ m.Storable → S .meshTooLarge) (flags : Flags) (mode : Mode) :
    Abides (Follows (g.plan d₀.Drawn) d₀) S (fun _ => True)
      (scene.generateModels id platform id.basePath flags mode) := by
  refine Scene.generateModels_abides (fun h => absurd rfl h) (fun h => ?_)
    (Job.physicsOf_abides (hS _ (by decide)) fun d hd hthere => ?_)
    (fun data => Job.writeAll_planned hcalm (g.opens .model).here (g.provides_place rfl) data)
    (fun m' hm' => ?_)
    (fun data => Job.writeAll_planned hcalm (g.opens .physicsModel).here (g.provides_place rfl) data)
    flags mode
  · cases hmesh.symm.trans h
  · obtain ⟨data, hread⟩ := Job.readAll_of_fileExists (hd.world ▸ hcalm) hthere
    rw [hread]
    exact trivial
  · obtain rfl := Option.some.inj (hmesh.symm.trans hm')
    exact MeshFile.save_planned g hcalm (k := .physicsMesh) rfl hplatform fun h =>
      hlarge (mt Mesh.Storable.collision h)

end Stages

/-! ## Exports -/

namespace Depot

/-- **Nothing of the wrong kind is in the way** of an export: no file is where a directory is
needed, and no directory where a file is to be written. The directory of textures may be blocked:
then conversions fail. -/
structure Unobstructed (d : Depot) (id : AssetId) : Prop where
  /-- No file is above an artifact. -/
  above : ∀ k ≠ .textures, ∀ loc, d.assigns.Leads (id.artifact k) loc →
    ∀ l, l <+: loc → l ≠ loc → ¬ d.tree.holdsFile l
  /-- No directory is in the place of a file. -/
  files : ∀ k, k.isDirectory = false → ∀ loc, d.assigns.Leads (id.artifact k) loc →
    ¬ d.tree.holdsDir loc
  /-- No file is in the place of the directory of surfaces. -/
  surfaces : ∀ loc, d.assigns.Leads id.surfaceDir loc → ¬ d.tree.holdsFile loc
  /-- No file is above a workspace. -/
  workspaces : ∀ name, d.Drawn name → ∀ loc, d.assigns.Leads (workspaceRoot ++ "/" ++ name) loc →
    ∀ l, l <+: loc → l ≠ loc → ¬ d.tree.holdsFile l

/-- The mesh of an asset does not fit the format of mesh files. -/
def Oversized (d : Depot) (defaults : Settings) (id : AssetId) : Prop :=
  ∃ settings doc m, ((Job.settingsFor defaults id).run d).1 = .ok settings ∧
    ((Document.load id.source).run d).1 = .ok doc ∧ doc.Merges settings m ∧ ¬ m.Storable

/-- Why an export of an asset may fail: there is nothing to do, it lies in the source, or its mesh
does not fit the format of mesh files. -/
def Blames (d : Depot) (defaults : Settings) (id : AssetId) (c : Cause) : Prop :=
  c = .upToDate ∨ c.OfSource ∨ c = .meshTooLarge ∧ d.Oversized defaults id

/-- Causes that lie in the source. -/
lemma blames_of_ofSource {d : Depot} {defaults : Settings} {id : AssetId} (c : Cause)
    (h : c.OfSource) : d.Blames defaults id c := Or.inr (Or.inl h)

/-- **A depot with nothing in the way follows the plan** of an export. -/
lemma Unobstructed.follows {d : Depot} {id : AssetId} (h : d.Unobstructed id) (hfresh : d.FreshScratch)
    (hgrounded : d.tree.Grounded) (g : id.Premises d.assigns) : Follows (g.plan d.Drawn) d d := by
  have hmissing : ∀ name, d.Drawn name → d.tree.find? (g.bench name) = none := by
    intro name hname
    have hleads := (g.opens_bench name (hname.ordinary hfresh.ordinary)).here
    obtain ⟨n, hn, rfl⟩ := hname
    exact hfresh.missing n hn _ hleads
  refine ⟨rfl, rfl, Nat.le_refl _, hgrounded, ?_, ?_⟩
  · rintro l (⟨k, hk, hle, hne⟩ | hle | ⟨name, hname, hle⟩)
    · refine h.above k ?_ _ (g.opens k).here l hle hne
      rintro rfl
      cases hk
    · by_cases heq : l = g.place .surfaces
      · exact heq ▸ h.surfaces _ (g.opens .surfaces).here
      · exact h.above .surfaces (by decide) _ (g.opens .surfaces).here l hle heq
    · by_cases heq : l = g.bench name
      · intro hfile
        obtain ⟨data, time, hfile⟩ := Tree.holdsFile_iff.mp hfile
        cases hfile.symm.trans (heq ▸ hmissing name hname)
      · exact h.workspaces name hname _
          (g.opens_bench name (hname.ordinary hfresh.ordinary)).here l hle heq
  · rintro l (⟨k, hk, rfl⟩ | ⟨name, hname, hle, -⟩)
    · exact h.files k hk _ (g.opens k).here
    · intro hdir
      obtain ⟨time, hdir⟩ := Tree.holdsDir_iff.mp hdir
      have hsome := hgrounded _ l hle (by rw [hdir]; rfl)
      rw [hmissing name hname] at hsome
      cases hsome

end Depot

namespace Session

variable {tools : Texture.Tools} {s s' : Session} {path : String} {settings : Settings}
  {d d₁ d' : Depot} {doc : Document}

/-- A document that was loaded is wired, and its asset has premises. -/
lemma exists_premises_of_load {root : String} (hroot : d.assigns = .below root)
    (h : (Document.load (AssetId.ofPath path).source).run d = (.ok doc, d₁)) :
    Nonempty ((AssetId.ofPath path).Premises d.assigns) ∧ doc.Wired := by
  have hvalid : doc.validate = .ok () := Document.validate_of_load (by rw [h])
  obtain ⟨loc, hloc⟩ : ∃ loc, d.assigns.Leads (AssetId.ofPath path).source loc := by
    by_contra hnone
    obtain ⟨f, hf⟩ := Document.load_of_missing fun loc hloc => absurd ⟨loc, hloc⟩ hnone
    cases h.symm.trans hf
  rw [hroot] at hloc ⊢
  exact ⟨AssetId.exists_premises root path hloc, (Document.validate_eq_ok_iff_wired.mp hvalid).1⟩

section

/- A calm depot below a project root with nothing in the way, and an open session. -/
variable {root : String} {defaults : Settings} (hroot : d.assigns = .below root)
  (hfresh : d.FreshScratch) (hgrounded : d.tree.Grounded)
  (hfree : d.Unobstructed (AssetId.ofPath path))
  (hsettings : ((Job.settingsFor defaults (AssetId.ofPath path)).run d).1 = .ok settings)

include hroot hfresh hgrounded hfree hsettings in
/-- Once the document is loaded there is a plan for the export. -/
lemma exists_plan_of_load
    (hload : (Document.load (AssetId.ofPath path).source).run d = (.ok doc, d₁))
    (hvalid : settings.validate = .ok ()) :
    ∃ (g : (AssetId.ofPath path).Premises d.assigns) (m : Mesh), doc.Wired ∧ doc.Merges settings m ∧
      (¬ m.Storable → d.Blames defaults (AssetId.ofPath path) .meshTooLarge) ∧
      Follows (g.plan d.Drawn) d d₁ := by
  obtain ⟨⟨g⟩, hwired⟩ := exists_premises_of_load hroot hload
  obtain ⟨m, hmerges⟩ := hwired.exists_merges hvalid
  refine ⟨g, m, hwired, hmerges, fun hlarge => ?_, ?_⟩
  · exact Or.inr (Or.inr ⟨rfl, settings, doc, m, hsettings, by rw [hload], hmerges, hlarge⟩)
  · have hsteps := Document.load_steps (R := Preserves (Follows (g.plan d.Drawn) d))
      (AssetId.ofPath path).source d (hfree.follows hfresh hgrounded g)
    rwa [hload] at hsteps

variable (hcalm : d.world.Calm) (hplatform : s.platform.isKnown)

include hroot hfresh hgrounded hfree hsettings hcalm hplatform

/-- **The first phase of an export** fails for causes that lie in the source, or because of its
mesh. -/
lemma blames_of_start (hopen : s.state = .isOpen) {f : Failure}
    (h : (s.start (.standard tools) path settings).run d = (.ok (.error f, s'), d')) :
    d.Blames defaults (AssetId.ofPath path) f.cause := by
  cases starts_of_start h with
  | misplaced state => exact absurd hopen state
  | invalid state bad =>
    rw [Settings.cause_of_validate bad]
    exact Or.inr (Or.inl (by decide))
  | current state good => exact Or.inl rfl
  | unread state good load =>
    refine Or.inr (Or.inl ?_)
    show Cause.sourceParse.OfSource
    decide
  | broken state good load stages =>
    obtain ⟨g, m, hwired, hmerges, hlarge, hd⟩ :=
      exists_plan_of_load hroot hfresh hgrounded hfree hsettings load good
    have hall := Stage.all_planned g Depot.blames_of_ofSource hcalm hfresh.ordinary hplatform hwired
      hmerges hlarge tools (s.sceneFor path)
    exact (hall.of_run hd stages).2

/-- **The second phase of an export** fails for causes that lie in the source, or because of its
mesh. -/
lemma blames_of_finish {s₁ : Session} {p : Pending} {f : Failure}
    (hstart : (s.start (.standard tools) path settings).run d = (.ok (.ok p, s₁), d₁))
    (hfinish : (s₁.finish (.standard tools) (some p)).run d₁ = (.ok (.error f, s'), d')) :
    d.Blames defaults (AssetId.ofPath path) f.cause := by
  cases starts_of_start hstart with
  | @started stats doc scene _ dl _ state good load stages pending =>
    obtain ⟨g, m, hwired, hmerges, hlarge, hd⟩ :=
      exists_plan_of_load hroot hfresh hgrounded hfree hsettings load good
    have hall := Stage.all_planned g Depot.blames_of_ofSource hcalm hfresh.ordinary hplatform hwired
      hmerges hlarge tools (s.sceneFor path)
    have hmesh : scene.mesh = some m := by
      obtain ⟨_, _, m', _, _, -, -, hmerge, -⟩ := Stage.exists_of_all stages
      obtain ⟨ready, -, -, hready⟩ := Stage.exists_of_merge hmerge
      rw [hready, hmerges.unique hmerge]
    have hmodels := Scene.generateModels_planned g Depot.blames_of_ofSource hcalm hplatform hmesh hlarge
      settings.flags settings.mode
    subst pending
    obtain ⟨f', d₂, hgenerate, hsame⟩ := generate_of_finish_error rfl rfl rfl hfinish
    simp only [Workshop.standard, Option.getD_some] at hgenerate
    rw [hsame]
    exact (hmodels.of_run (hall.of_run hd stages).1 hgenerate).2

end

/-- An export that was started has a mesh that fits the format of mesh files. -/
lemma storable_of_start {p : Pending} {m : Mesh}
    (hstart : (s.start (.standard tools) path settings).run d = (.ok (.ok p, s'), d'))
    (hload : ((Document.load (AssetId.ofPath path).source).run d).1 = .ok doc)
    (hmerges : doc.Merges settings m) : m.Storable := by
  cases starts_of_start hstart with
  | @started stats doc' scene _ dl _ state good load stages pending =>
    have hsame : doc' = doc := by
      have hload' : ((Document.load (AssetId.ofPath path).source).run d).1 = .ok doc' :=
        congrArg Prod.fst load
      exact Except.ok.inj (hload'.symm.trans hload)
    obtain ⟨_, _, m', _, d₂, -, -, hmerge, hmesh⟩ := Stage.exists_of_all stages
    obtain ⟨-, dm, hsave, -⟩ := Stage.exists_of_mesh hmesh
    obtain ⟨data, dm', hgiven, -⟩ := Job.exists_of_bind_run hsave
    obtain ⟨hencode, -⟩ := Job.run_ofExcept_eq_ok_iff.mp hgiven
    obtain ⟨-, hvertices, hindices, hnames, -⟩ := MeshFile.encode_eq_ok_iff.mp hencode
    subst hsame
    rw [← hmerges.unique hmerge]
    exact ⟨hvertices, hindices, hnames⟩

end Session

namespace Batch

variable {s s' : Session} {path root : String} {d d' : Depot}

/-- **An export of an asset** fails for causes that lie in the source, or because of its mesh; if it
succeeds, the mesh fits the format of mesh files.

**Proof sketch.** Looking up the settings leaves the depot as it is, and then the phases follow each
other as in the batch. A failure of the first or second phase is blamed by `Session.blames_of_start`
and `Session.blames_of_finish`; if both succeed, the mesh was written, so it is not too large
(`Session.storable_of_start`). -/
lemma exportAsset_blames (tools : Texture.Tools) (defaults : Settings) (patterns : List String)
    (hopen : s.state = .isOpen) (hplatform : s.platform.isKnown) (hroot : d.assigns = .below root)
    (hcalm : d.world.Calm) (hfresh : d.FreshScratch) (hgrounded : d.tree.Grounded)
    (hfree : d.Unobstructed (AssetId.ofPath path)) {r : Except Failure Unit}
    (h : ((standard tools defaults patterns).exportAsset s path (AssetId.ofPath path)).run d =
      (.ok (r, s'), d')) :
    Excused (d.Blames defaults (AssetId.ofPath path))
      (fun _ => ¬ d.Oversized defaults (AssetId.ofPath path)) r := by
  -- settings are only looked up, so that the depot is still the same
  have hlookup : Abides (· = d) (d.Blames defaults (AssetId.ofPath path)) (fun _ => True)
      (Job.settingsFor defaults (AssetId.ofPath path)) := by
    refine Job.settingsFor_abides (Depot.blames_of_ofSource _ (by decide)) ?_ defaults
    rintro _ rfl hthere
    obtain ⟨data, hread⟩ := Job.readAll_of_fileExists hcalm hthere
    rw [hread]
    exact trivial
  obtain ⟨⟨res, d₁⟩, hrun⟩ : ∃ x, (Job.settingsFor defaults (AssetId.ofPath path)).run d = x :=
    ⟨_, rfl⟩
  obtain ⟨rfl, hres⟩ := hlookup.of_run rfl hrun
  have hgiven : ((standard tools defaults patterns).settings (AssetId.ofPath path)).run d₁ =
      (res, d₁) := hrun
  simp only [exportAsset, Job.run_bind, Job.run_attempt, hgiven] at h
  cases res with
  | error f =>
    cases h
    exact hres
  | ok settings =>
    have hsettings : ((Job.settingsFor defaults (AssetId.ofPath path)).run d₁).1 = .ok settings := by
      rw [hrun]
    obtain ⟨r₁, s₁, d₂, hstart, -⟩ := Session.exists_starts (.standard tools) s path settings d₁
    have hstarted : (s.start (standard tools defaults patterns).workshop path settings).run d₁ =
        (.ok (r₁, s₁), d₂) := hstart
    simp only [Job.run_bind, hstarted] at h
    cases r₁ with
    | error f =>
      cases h
      exact Session.blames_of_start hroot hfresh hgrounded hfree hsettings hcalm hplatform hopen hstart
    | ok p =>
      cases r with
      | error f =>
        exact Session.blames_of_finish hroot hfresh hgrounded hfree hsettings hcalm hplatform hstart h
      | ok a =>
        rintro ⟨settings', doc, m, hsettings', hload, hmerges, hlarge⟩
        obtain rfl := Except.ok.inj (hsettings.symm.trans hsettings')
        exact hlarge (Session.storable_of_start hstart hload hmerges)

/-- **What a failed export is counted as.** On a calm depot below a project root, with scratch names
that were never used and nothing of the wrong kind in the way, every export on an open session has a
result. If it failed, it is counted as a failure of the source, of a conversion, or of a reference
that cannot be resolved, whatever the source document, the attributes, the physics description and
the path are. The only exception is an asset whose mesh does not fit the format of mesh files: it is
never exported, and is counted as trouble with files.

**Proof sketch.** A depot with nothing in the way follows the plan of the export, which all stages
  keep to (`Stage.all_planned`, `Scene.generateModels_planned`): so no call that the plan provides
  for fails, and the others are made by converters, whose failures are failed conversions. A
  document that was loaded is wired, so that no reference in it leads nowhere and its meshes can be
  merged. What remains are causes that lie in the source, and the counters of the format of meshes.
  -/
theorem fault_of_source (tools : Texture.Tools) (defaults : Settings) (patterns : List String)
    (s : Session) (path root : String) (d : Depot) (hopen : s.state = .isOpen)
    (hplatform : s.platform.isKnown) (hroot : d.assigns = .below root) (hcalm : d.world.Calm)
    (hfresh : d.FreshScratch) (hgrounded : d.tree.Grounded)
    (hfree : d.Unobstructed (AssetId.ofPath path)) :
    ∃ result s' d',
      ((standard tools defaults patterns).exportFile s path).run d = (.ok (result, s'), d') ∧
      (result.status = .failed → result.kind = .parse ∨ result.kind = .conversion ∨
        result.kind = .unresolvedReference ∨
        result.kind = .io ∧ d.Oversized defaults (AssetId.ofPath path)) ∧
      (d.Oversized defaults (AssetId.ofPath path) → result.status ≠ .exported) := by
  obtain ⟨result, s', -, d', hrun, -, -⟩ := exportFile_agree (standard tools defaults patterns)
    (⟨hopen, hopen, rfl, rfl⟩ : Alike s s) path d
  obtain ⟨r, elapsed, d₁, hasset, rfl, -⟩ := exists_of_exportFile hopen hrun
  have hblames := exportAsset_blames tools defaults patterns hopen hplatform hroot hcalm hfresh
    hgrounded hfree hasset
  refine ⟨_, s', d', hrun, fun hfailed => ?_, fun hlarge hexported => ?_⟩
  · cases r with
    | ok a => cases hfailed
    | error f =>
      by_cases hcurrent : f.cause = .upToDate
      · simp [ExportResult.ofOutcome, hcurrent] at hfailed
      have hkind : (ExportResult.ofOutcome (AssetId.ofPath path) elapsed (.error f)).kind =
          f.cause.kind := by
        simp [ExportResult.ofOutcome, ExportResult.kind, hcurrent, Failure.kind]
      rw [hkind]
      rcases hblames.resolve_left hcurrent with hsource | ⟨hmesh, hlarge⟩
      · rcases hsource with hparse | hconversion | hreference
        · exact Or.inl hparse
        · exact Or.inr (Or.inl hconversion)
        · exact Or.inr (Or.inr (Or.inl hreference))
      · rw [hmesh]
        exact Or.inr (Or.inr (Or.inr ⟨rfl, hlarge⟩))
  · cases r with
    | ok a => exact hblames hlarge
    | error f =>
      unfold ExportResult.ofOutcome at hexported
      simp only at hexported
      split_ifs at hexported

/-- A depot with one document, and nothing else. -/
def exhibit (data : Bytes) : Depot where
  tree := ⟨[(["assets"], .dir 10), (["assets", "a"], .dir 10),
    (["assets", "a", "poster.gltf"], .file data 10)]⟩
  assigns := .below ""
  world := { clock := fun n => 100 + n, refuses := fun _ _ _ => false, scratch := fun _ => "scratch" }

/-- A depot with a document whose material has a texture that is not embedded. -/
def gallery : Depot := exhibit (utf8 (
  r#"{"images":[{"uri":"print.png"}],"textures":[{"source":0}],"# ++
  r#""materials":[{"normalTexture":{"index":0}}]}"#))

section

variable {data : Bytes}

/-- Only sources are exhibited. -/
lemma find?_exhibit {branch : String} (h : branch ≠ "assets") (rest : Location) :
    (exhibit data).tree.find? (branch :: rest) = none := by
  simp [exhibit, Tree.find?, Ne.symm h]

/-- No file is above anything but sources. -/
lemma not_holdsFile_exhibit {branch : String} (h : branch ≠ "assets") {rest l : Location}
    (hle : l <+: branch :: rest) : ¬ (exhibit data).tree.holdsFile l := by
  intro hfile
  obtain ⟨data, time, hfile⟩ := Tree.holdsFile_iff.mp hfile
  cases l with
  | nil => cases hfile
  | cons x l =>
    obtain ⟨rfl, -⟩ := List.cons_prefix_cons.mp hle
    cases hfile.symm.trans (find?_exhibit h l)

/-- The artifacts of the poster are on the branch of exports. -/
lemma leads_poster (k : Artifact) : ∃ rest, (Assigns.below "").Leads
    ((AssetId.ofPath "a/poster.gltf").artifact k) ("export" :: rest) := by
  cases k
  case textures => exact ⟨["textures", "a", "poster_gltf"], by decide⟩
  case surfaces => exact ⟨["surfaces", "a", "poster_gltf"], by decide⟩
  case mesh => exact ⟨["meshes", "a", "poster.mesh"], by decide⟩
  case physicsMesh => exact ⟨["meshes", "a", "poster_ph.mesh"], by decide⟩
  case model => exact ⟨["models", "a", "poster.model"], by decide⟩
  case physicsModel => exact ⟨["physics", "a", "poster.physmodel"], by decide⟩

/-- Workspaces are on a branch of their own. -/
lemma leads_workspace : (Assigns.below "").Leads (workspaceRoot ++ "/" ++ "scratch")
    ["temp", "textureconverter", "scratch"] := by
  decide

/-- Nothing is in the way of the poster. -/
lemma unobstructed_exhibit : (exhibit data).Unobstructed (AssetId.ofPath "a/poster.gltf") where
  above k _ loc hloc l hle _ := by
    obtain ⟨rest, hrest⟩ := leads_poster k
    rw [hloc.unique hrest] at hle
    exact not_holdsFile_exhibit (by decide) hle
  files k _ loc hloc hdir := by
    obtain ⟨rest, hrest⟩ := leads_poster k
    obtain ⟨time, hdir⟩ := Tree.holdsDir_iff.mp hdir
    rw [hloc.unique hrest, find?_exhibit (by decide)] at hdir
    cases hdir
  surfaces loc hloc := by
    obtain ⟨rest, hrest⟩ := leads_poster .surfaces
    rw [hloc.unique hrest]
    exact not_holdsFile_exhibit (by decide) (List.prefix_refl _)
  workspaces name hname loc hloc l hle _ := by
    obtain ⟨n, -, rfl⟩ := hname
    rw [hloc.unique leads_workspace] at hle
    exact not_holdsFile_exhibit (by decide) hle

/-- Scratch names were never used. -/
lemma freshScratch_exhibit : (exhibit data).FreshScratch where
  ordinary n := by
    show Path.Ordinary "scratch".toList
    decide
  missing n _ loc hloc := by
    rw [hloc.unique leads_workspace]
    exact find?_exhibit (by decide) _

/-- Everything lies in directories. -/
lemma grounded_exhibit : (exhibit data).tree.Grounded := of_decide_eq_true rfl

end

/-- The poster cannot be exported, and that is the fault of its source. -/
theorem fault_of_source_gallery : ∃ result s' d',
    ((standard {} {} []).exportFile (History.opened 0) "a/poster.gltf").run gallery =
      (.ok (result, s'), d') ∧ result.status = .failed ∧ result.kind = .unresolvedReference ∧
    (result.kind = .parse ∨ result.kind = .conversion ∨ result.kind = .unresolvedReference ∨
      result.kind = .io ∧ gallery.Oversized {} (AssetId.ofPath "a/poster.gltf")) := by
  obtain ⟨result, s', d', hrun, hfault, -⟩ := fault_of_source {} {} [] (History.opened 0)
    "a/poster.gltf" "" gallery rfl (by decide) rfl (fun _ _ _ => rfl) freshScratch_exhibit
    grounded_exhibit unobstructed_exhibit
  have hended : (((standard {} {} []).exportFile (History.opened 0) "a/poster.gltf").run
      gallery).1.toOption.map (fun x => (x.1.status, x.1.kind)) =
        some (.failed, .unresolvedReference) := by decide +kernel
  rw [hrun] at hended
  obtain ⟨hstatus, hkind⟩ := Prod.mk.inj (Option.some.inj hended)
  exact ⟨result, s', d', hrun, hstatus, hkind, hfault hstatus⟩

end Batch

end SceneForge
