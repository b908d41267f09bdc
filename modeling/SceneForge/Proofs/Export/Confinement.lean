import SceneForge.Proofs.Depot.Anchors
import SceneForge.Proofs.Export.Artifacts
import SceneForge.Proofs.Export.Independence

set_option autoImplicit false

/-!
# What an export leaves alone

An export renews two directories, writes four files, and works in workspaces that it names itself.
All of their locations follow from the path of the source; the names in them are numbers, names of
materials and scratch names. Whatever the path, the document and the failures are, nothing else is
changed, except that directories are made on the way. Below a project root the sources are never in
reach.

## Main definitions

* `SceneForge.AssetId.zone` — where an export writes, apart from workspaces.
* `SceneForge.Depot.workspaces`, `SceneForge.Zone.upTo` — the workspaces between two states.
* `SceneForge.Depot.FreshScratch` — scratch names lead to places that are not taken.
* `SceneForge.Depot.Spares` — everything outside a zone and the workspaces is kept.

## Main results

* `SceneForge.Texture.extract_spares`, `SceneForge.Surface.generate_spares` — the parts of an
  export.
* `SceneForge.Assigns.exists_branches` — sources, artifacts and workspaces are apart.
* `SceneForge.Session.start_spares`, `SceneForge.Session.complete_spares` — exports.
* `SceneForge.Session.export_keeps_elsewhere` — what an export leaves alone.
-/

namespace SceneForge

open Job (Steps)
open Depot (Keeps)

/-! ## Workspaces -/

namespace Texture

/-- The location text of a workspace has its name behind the name of the root. -/
lemma workspace_eq_uri (name : String) :
    workspaceRoot ++ "/" ++ name = Area.temp.uri "textureconverter" [name] := by
  rw [← String.toList_inj]
  simp [Area.uri, Area.tag, workspaceRoot, Path.join]

/-- Workspaces with ordinary names are anchored. -/
lemma anchored_workspace {name : String} (h : Path.Ordinary name.toList) :
    Anchored (workspaceRoot ++ "/" ++ name) := by
  rw [workspace_eq_uri]
  exact Area.temp.anchored_uri _ h

end Texture

namespace Depot

/-- The workspaces whose names were taken between two states of a depot. -/
def workspaces (d d' : Depot) : List String :=
  (List.range' d.scratchUsed (d'.scratchUsed - d.scratchUsed)).map fun n =>
    Texture.workspaceRoot ++ "/" ++ d.world.scratch n

/-- Names are taken in order. -/
lemma mem_workspaces {d d' : Depot} {uri : String} : uri ∈ d.workspaces d' ↔
    ∃ n, d.scratchUsed ≤ n ∧ n < d'.scratchUsed ∧
      uri = Texture.workspaceRoot ++ "/" ++ d.world.scratch n := by
  simp only [workspaces, List.mem_map, List.mem_range'_1]
  constructor
  · rintro ⟨n, ⟨hle, hlt⟩, rfl⟩
    exact ⟨n, hle, by omega, rfl⟩
  · rintro ⟨n, hle, hlt, rfl⟩
    exact ⟨n, ⟨hle, by omega⟩, rfl⟩

/-- Scratch names were never used: they are ordinary, and where the next ones lead nothing is there
yet. -/
structure FreshScratch (d : Depot) : Prop where
  /-- Scratch names are ordinary. -/
  ordinary : d.world.ScratchOrdinary
  /-- Workspaces do not exist before their names are taken. -/
  missing : ∀ n ≥ d.scratchUsed, ∀ loc,
    d.assigns.Leads (Texture.workspaceRoot ++ "/" ++ d.world.scratch n) loc →
      d.tree.find? loc = none

end Depot

/-- The zone with the workspaces between two states of a depot. -/
def Zone.upTo (z : Zone) (d d' : Depot) : Zone := z.addScratch (d.workspaces d')

namespace Depot

/-- Everything outside a zone and the workspaces that were made is kept, if scratch names are
ordinary. -/
def Spares (z : Zone) (d d' : Depot) : Prop := d.world.ScratchOrdinary → Keeps (z.upTo d d') d d'

variable {z : Zone} {d d' d'' : Depot}

/-- An action that keeps to a zone spares everything else. -/
lemma Keeps.spares (h : Keeps z d d') : Spares z d d' := by
  intro _
  have hnil : z.addScratch [] = z := by simp [Zone.addScratch]
  exact Keeps.addScratch (hnil.symm ▸ h) (List.nil_subset _)

/-- **Sparing composes**: the workspaces of both steps are workspaces of the whole. -/
instance lawful_spares : Lawful (Spares z) where
  quiet htree hassigns hworld hjournal hscratch htallies :=
    Keeps.spares (Lawful.quiet htree hassigns hworld hjournal hscratch htallies)
  trans := by
    intro d d' d'' h h' hordinary
    have hfirst := h hordinary
    have hlast := h' (hfirst.world ▸ hordinary)
    refine (hfirst.addScratch fun uri hmem => ?_).trans (hlast.addScratch fun uri hmem => ?_)
    · obtain ⟨n, hle, hlt, rfl⟩ := mem_workspaces.mp hmem
      exact mem_workspaces.mpr ⟨n, hle, hlt.trans_le hlast.scratchUsed, rfl⟩
    · obtain ⟨n, hle, hlt, rfl⟩ := mem_workspaces.mp hmem
      exact mem_workspaces.mpr ⟨n, hfirst.scratchUsed.trans hle, hlt, by rw [hfirst.world]⟩

end Depot

open Depot (Spares)

/-- An action that keeps to a zone spares everything else. -/
lemma Job.Steps.spares {α : Type} {z : Zone} {job : Job α} (h : Steps (Keeps z) job) :
    Steps (Spares z) job := h.mono fun _ _ => Keeps.spares

/-! ## Textures -/

namespace Texture

variable {t : Tools} {z : Zone} {doc : Document} {dir : String}

/-- **Converting the picture of an image** writes to its workspace and to the directory of
textures. -/
lemma convert_keeps {ws : String} (hws : Anchored ws) (hmem : ws ∈ z.scratch) (hdir : Anchored dir)
    (hdir' : dir ∈ z.renewed) (i : Nat) (type : ImageType) :
    Steps (Keeps z) (convert t (ws ++ "/" ++ toString i ++ "." ++ type.ext) ws dir) := by
  refine convert_steps t (fun format => ?_) fun format => ?_
  · rw [stem_picture]
    refine hws.writeAll_keeps (Or.inr hmem) (ordinary_scratch i (extensionFor_mem format)) ?_
    simp only [String.append_assoc]
  · rw [stem_picture]
    refine hdir.writeAll_keeps (Or.inl hdir') (ordinary_fileName i (extensionFor_mem format)) ?_
    simp only [fileName, String.append_assoc]

/-- The picture of an image is written to its workspace. -/
lemma writePicture_keeps {ws : String} (hws : Anchored ws) (hmem : ws ∈ z.scratch) (i : Nat)
    (type : ImageType) (data : Bytes) :
    Steps (Keeps z) (Job.writeAll (ws ++ "/" ++ toString i ++ "." ++ type.ext) data) := by
  refine hws.writeAll_keeps (Or.inr hmem) (ordinary_fileName i (ext_mem type)) ?_ data
  simp only [fileName, String.append_assoc]

/-- **What happens in the workspace of an image** stays there, apart from what the converter does.
-/
lemma convertIn_keeps {c : Converter} {ws : String} (hws : Anchored ws) (hmem : ws ∈ z.scratch)
    {i : Nat} {type : ImageType}
    (hconvert : Steps (Keeps z) (c (ws ++ "/" ++ toString i ++ "." ++ type.ext) ws dir))
    (data : Bytes) : Steps (Keeps z) (convertIn c i type data ws dir) :=
  convertIn_steps (Job.createDirectory_keeps (Or.inr hmem)) (writePicture_keeps hws hmem i type)
    hconvert data

/-- **Extracting an image** takes a scratch name and works in that workspace. -/
lemma extractImage_spares (hdir : Anchored dir) (hdir' : dir ∈ z.renewed) (i : Nat)
    (type : ImageType) : Steps (Spares z) (extractImage (convert t) doc dir i type) := by
  intro d
  refine Job.steps_bind_run (Job.ofExcept_steps _ d) fun data d₁ hdata hscratch => ?_
  obtain ⟨-, rfl⟩ := Job.run_ofExcept_eq_ok_iff.mp hdata
  let ws := workspaceRoot ++ "/" ++ d.world.scratch d.scratchUsed
  let taken : Depot := { d with scratchUsed := d.scratchUsed + 1 }
  have hws : Anchored ws := anchored_workspace (hscratch _)
  have hmem : ws ∈ (z.addScratch [ws]).scratch := by simp [Zone.addScratch]
  have hwork : Steps (Keeps (z.addScratch [ws])) (Job.thenAlways
      (convertIn (convert t) i type data ws dir) (dropWorkspace ws)) :=
    (convertIn_keeps hws hmem (convert_keeps hws hmem hdir hdir' i type) data).thenAlways
      ((Job.deleteDirectory_keeps hmem).orWarn _)
  have htaken : Keeps (z.addScratch [ws]) d taken :=
    Depot.Lawful.quiet rfl rfl rfl rfl (Nat.le_succ _) rfl
  refine (htaken.trans (hwork taken)).addScratch fun uri huri => ?_
  obtain rfl := List.mem_singleton.mp huri
  exact Depot.mem_workspaces.mpr ⟨_, Nat.le_refl _, (hwork taken).scratchUsed, rfl⟩

/-- **Extracting textures** renews their directory. -/
lemma extract_spares (hdir : Anchored dir) (hdir' : dir ∈ z.renewed) :
    Steps (Spares z) (extract (convert t) doc dir) :=
  extract_steps (fun warning => (Job.purgeDirectory_keeps hdir' warning).spares)
    (Job.createDirectory_keeps (Or.inl hdir')).spares (extractImage_spares hdir hdir')

end Texture

/-! ## Surfaces -/

/-- **Generating surfaces** renews their directory. -/
lemma Surface.generate_spares {z : Zone} {doc : Document} {id : AssetId} {template : String}
    (hdir : Anchored id.surfaceDir) (hdir' : id.surfaceDir ∈ z.renewed) :
    Steps (Spares z) (generate doc id template) := by
  refine generate_steps (fun warning => (Job.purgeDirectory_keeps hdir' warning).spares)
    (Job.createDirectory_keeps (Or.inl hdir')).spares fun surfaces hbuild s hs data => ?_
  refine (hdir.writeAll_keeps (Or.inl hdir') (ordinary_of_build hbuild s hs) ?_ data).spares
  simp only [fileName, AssetId.surfacePath, AssetId.surfaceRef, String.append_assoc]

/-! ## Exports -/

namespace AssetId

/-- Where an export of an asset writes, apart from workspaces: it renews the directories of textures
and surfaces, and writes meshes and models. -/
def zone (id : AssetId) : Zone where
  renewed := [id.textureDir, id.surfaceDir]
  written := [id.mesh, id.physicsMesh, id.model, id.physicsModel]

/-- The directories of the asset of a path are anchored, whatever the path is. -/
lemma anchored_ofPath (path : String) (area : Area) :
    Anchored ((ofPath path).located area ("_" ++ (ofPath path).ext)) := by
  obtain ⟨v, name, -, hname, hlocated⟩ := exists_located_ofPath path
  rw [hlocated]
  refine area.anchored_uri v ?_
  rw [String.toList_append]
  refine Path.ordinary_append hname ?_ ⟨'_', by simp, by decide⟩
  simp [noSeparator_ext_ofPath path]

/-- The location texts of an export are those of the asset and those of workspaces. -/
lemma mem_uris_upTo {id : AssetId} {d d' : Depot} {uri : String} :
    uri ∈ (id.zone.upTo d d').uris ↔
      (uri ∈ id.zone.renewed ∨ uri ∈ id.zone.written) ∨ uri ∈ d.workspaces d' := by
  simp only [Zone.uris, Zone.upTo, Zone.addScratch, zone, List.mem_append, List.nil_append]
  tauto

/-- Everything that an export writes, apart from workspaces, is located in an area for exports. -/
lemma exists_located_of_mem_zone {id : AssetId} {uri : String}
    (hext : '/' ∉ id.ext.toList ∧ '\\' ∉ id.ext.toList)
    (h : uri ∈ id.zone.renewed ∨ uri ∈ id.zone.written) : ∃ (area : Area) (ending : String),
      uri = id.located area ending ∧ area.place.dropLast = ["export"] ∧
        ('/' ∉ ending.toList ∧ '\\' ∉ ending.toList) ∧ ∃ c ∈ ending.toList, c ≠ '.' := by
  have hdir : ('/' ∉ ("_" ++ id.ext).toList ∧ '\\' ∉ ("_" ++ id.ext).toList) ∧
      ∃ c ∈ ("_" ++ id.ext).toList, c ≠ '.' := ⟨by simp [hext], '_', by simp, by decide⟩
  simp only [zone, List.mem_cons, List.not_mem_nil, or_false] at h
  rcases h with (rfl | rfl) | rfl | rfl | rfl | rfl
  · exact ⟨.texture, _, rfl, rfl, hdir⟩
  · exact ⟨.surface, _, rfl, rfl, hdir⟩
  · exact ⟨.mesh, _, rfl, rfl, by decide, 'm', by decide, by decide⟩
  · exact ⟨.mesh, _, rfl, rfl, by decide, 'm', by decide, by decide⟩
  · exact ⟨.model, _, rfl, rfl, by decide, 'm', by decide, by decide⟩
  · exact ⟨.physics, _, rfl, rfl, by decide, 'm', by decide, by decide⟩

end AssetId

/-- **The branches of a project root**: sources lie on one, what exports write on another, and
workspaces on a third. -/
lemma Assigns.exists_branches (root : String) : ∃ top : Location,
    (∀ src, (below root).Leads "src:" src → src = top ++ ["assets"]) ∧
    (∀ path uri l, uri ∈ (AssetId.ofPath path).zone.renewed ∨
      uri ∈ (AssetId.ofPath path).zone.written → (below root).Leads uri l →
        top ++ ["export"] <+: l) ∧
    ∀ name l, Path.Ordinary name.toList →
      (below root).Leads (Texture.workspaceRoot ++ "/" ++ name) l → top ++ ["temp"] <+: l := by
  obtain ⟨top, htop, hareas⟩ := exists_root root
  refine ⟨top, htop, fun path uri l huri hl => ?_, fun name l hname hl => ?_⟩
  · obtain ⟨area, ending, rfl, hplace, hending⟩ := AssetId.exists_located_of_mem_zone
      (AssetId.noSeparator_ext_ofPath path) huri
    obtain ⟨v, name, hv, hname, hlocated⟩ := AssetId.exists_located_ofPath path
    rw [hlocated] at hl
    have hlast : OrdinaryNames [name ++ ending] := by
      refine ⟨by simp, List.forall_mem_singleton.mpr ?_⟩
      rw [String.toList_append]
      exact Path.ordinary_append hname hending.1 hending.2
    exact hplace ▸ (hareas area v _ l hlast hl).1 ⟨_, AssetId.category_ofPath path, hv⟩
  · rw [Texture.workspace_eq_uri] at hl
    have hlast : OrdinaryNames [name] := ⟨by simp, List.forall_mem_singleton.mpr hname⟩
    have hworkspaces : Path.Ordinary "textureconverter".toList :=
      ⟨⟨by decide, by decide, by decide, by decide⟩, by decide⟩
    exact (hareas .temp _ _ l hlast hl).2 hworkspaces

/-- Nothing is on two branches. -/
lemma Location.branch_unique {top loc : Location} {b b' : String} (h : top ++ [b] <+: loc)
    (h' : top ++ [b'] <+: loc) : b = b' := by
  have heq := (List.prefix_of_prefix_length_le h h' (by simp)).eq_of_length (by simp)
  simpa using heq

/-- Locations on different branches are apart. -/
lemma Location.apart_of_branches {top loc loc' : Location} {b b' : String}
    (h : top ++ [b] <+: loc) (h' : top ++ [b'] <+: loc') (hne : b ≠ b') :
    ¬ loc <+: loc' ∧ ¬ loc' <+: loc :=
  ⟨fun hle => hne (branch_unique (h.trans hle) h'), fun hle => hne (branch_unique h (h'.trans hle))⟩

/-- **Sources are out of reach** of exports below a project root, whatever the path is. -/
lemma Depot.misses_source {d : Depot} (hscratch : d.world.ScratchOrdinary) {root : String}
    (hroot : d.assigns = .below root) {src loc : Location} (hsrc : d.assigns.Leads "src:" src)
    (hloc : src <+: loc) (path : String) (d' : Depot) :
    ((AssetId.ofPath path).zone.upTo d d').Misses d.assigns loc := by
  obtain ⟨top, htop, hzone, hworkspace⟩ := Assigns.exists_branches root
  rw [hroot] at hsrc ⊢
  obtain rfl := htop src hsrc
  intro uri huri l hl
  obtain ⟨branch, hne, hbranch⟩ : ∃ branch, branch ≠ "assets" ∧ top ++ [branch] <+: l := by
    rcases AssetId.mem_uris_upTo.mp huri with huri | huri
    · exact ⟨"export", by decide, hzone path uri l huri hl⟩
    · obtain ⟨n, -, -, rfl⟩ := Depot.mem_workspaces.mp huri
      exact ⟨"temp", by decide, hworkspace _ l (hscratch n) hl⟩
  exact Location.apart_of_branches hbranch hloc hne

namespace Session

variable {tools : Texture.Tools} {s : Session} {path : String} {settings : Settings}

/-- **The first phase** of an export, whatever fails. -/
lemma start_spares :
    Steps (Spares (AssetId.ofPath path).zone) (s.start (.standard tools) path settings) := by
  refine start_steps (Document.load_steps _) fun scene doc => ?_
  refine Stage.all_steps (Stage.textures_steps ?_) (Stage.surfaces_steps ?_)
    (Stage.mesh_steps fun m => ?_) scene
  · exact Texture.extract_spares (AssetId.anchored_ofPath path .texture) (by simp [AssetId.zone])
  · exact Surface.generate_spares (AssetId.anchored_ofPath path .surface) (by simp [AssetId.zone])
  · exact MeshFile.save_steps
      (fun data => (Job.writeAll_keeps_of_mem (by simp [AssetId.zone]) data).spares) m s.platform

/-- **The second phase** of an export, whatever fails. -/
lemma finish_spares (p : Pending) :
    Steps (Spares p.id.zone) (s.finish (.standard tools) (some p)) := by
  refine finish_steps fun scene => Scene.generateModels_steps (fun data => ?_) (fun data => ?_)
    (fun data => ?_) scene s.platform _ _ _
  all_goals exact (Job.writeAll_keeps_of_mem (by simp [AssetId.zone]) data).spares

/-- **Both phases** of an export, whatever fails. -/
lemma complete_spares :
    Steps (Spares (AssetId.ofPath path).zone) (s.complete (.standard tools) path settings) := by
  intro d
  refine Job.steps_bind_run (start_spares d) fun r d₁ hstart => ?_
  obtain ⟨f | p, s₁⟩ := r
  · exact Job.pure_steps _ d₁
  · rw [← id_of_start hstart]
    exact (finish_spares p).bind (fun _ => Job.pure_steps _) d₁

/-- **What an export leaves alone.** On any depot, with any path and settings and whatever fails, an
export of the usual workshop, in its first phase or in both, changes files only inside the
directories of textures and surfaces of the asset, at its meshes and models, and inside the
workspaces that it made: every other file keeps its contents and its time, and there is no new one.
Other directories stay, and new ones lie on the way to these places. Below a project root nothing in
the directory of sources changes. All that is asked of the world is that it comes up with scratch
names that were never used.

**Proof sketch.** Every call of an export keeps to a zone (`start_spares`, `complete_spares`), since
names in its directories lead to what lies in them (`AssetId.anchored_ofPath`); what is in the place
of a workspace could only be removed, and nothing is there. The locations of the asset go up at most
one directory, so sources are out of reach (`Depot.misses_source`). -/
theorem export_keeps_elsewhere (tools : Texture.Tools) (s : Session) (path : String)
    (settings : Settings) (d d' : Depot) (hfresh : d.FreshScratch)
    (hexport : d' = ((s.start (.standard tools) path settings).run d).2 ∨
      d' = ((s.complete (.standard tools) path settings).run d).2) :
    (∀ loc, ¬ ((AssetId.ofPath path).zone.upTo d d').Files d.assigns loc → ∀ data time,
      d'.tree.find? loc = some (.file data time) ↔ d.tree.find? loc = some (.file data time)) ∧
    Depot.Keeps ((AssetId.ofPath path).zone.upTo d d') d d' ∧
    ∀ root src, d.assigns = .below root → d.assigns.Leads "src:" src → ∀ loc, src <+: loc →
      d'.tree.find? loc = d.tree.find? loc := by
  have hkeeps : Keeps ((AssetId.ofPath path).zone.upTo d d') d d' := by
    rcases hexport with rfl | rfl
    · exact start_spares d hfresh.ordinary
    · exact complete_spares d hfresh.ordinary
  refine ⟨fun loc hloc => hkeeps.find?_file_iff hloc ?_, hkeeps,
    fun root src hroot hsrc loc hle => ?_⟩
  · rintro ⟨uri, hmem, hleads⟩
    obtain ⟨n, hle, -, rfl⟩ := Depot.mem_workspaces.mp hmem
    exact hfresh.missing n hle loc hleads
  · exact hkeeps.find?_eq_of_misses (Depot.misses_source hfresh.ordinary hroot hsrc hle path d')

end Session

/-- A project with a document, a texture from an earlier export, and a texture that belongs to no
asset. -/
def Depot.shelf : Depot where
  tree := ⟨[(["assets", "a", "box.gltf"], .file (utf8 "\x7b\x7d") 10),
    (["export", "textures", "a", "box_gltf"], .dir 20),
    (["export", "textures", "a", "box_gltf", "0.png"], .file [1] 20),
    (["export", "textures", "a", "logo.png"], .file [2] 20)]⟩
  assigns := .below ""
  world := { clock := fun n => 100 + n, refuses := fun _ _ _ => false, scratch := fun _ => "scratch" }

/-- The first phase removes the texture from the earlier export. The other one stays, and so does
the document. -/
theorem Session.export_keeps_elsewhere_shelf : ∃ d' : Depot,
    d' = (((History.opened 0).start (.standard {}) "a\\box.gltf" {}).run Depot.shelf).2 ∧
    d'.tree.find? ["export", "textures", "a", "box_gltf", "0.png"] = none ∧
    d'.tree.find? ["export", "textures", "a", "logo.png"] = some (.file [2] 20) ∧
    ∀ loc, ["assets"] <+: loc → d'.tree.find? loc = Depot.shelf.tree.find? loc := by
  have hscratch : Path.Ordinary "scratch".toList := by
    refine ⟨⟨?_, ?_, ?_, ?_⟩, ?_⟩ <;> decide
  have hworkspace : Depot.shelf.assigns.Leads (Texture.workspaceRoot ++ "/scratch")
      ["temp", "textureconverter", "scratch"] := by decide +kernel
  have hfresh : Depot.shelf.FreshScratch :=
    ⟨fun _ => hscratch, fun _ _ loc hloc => by
      rw [hloc.unique hworkspace]
      decide +kernel⟩
  obtain ⟨d', hd'⟩ : ∃ d' : Depot,
      d' = (((History.opened 0).start (.standard {}) "a\\box.gltf" {}).run Depot.shelf).2 :=
    ⟨_, rfl⟩
  have hrun : d'.tree.find? ["export", "textures", "a", "box_gltf", "0.png"] = none ∧
      d'.scratchUsed = 0 := by
    rw [hd']
    decide +kernel
  obtain ⟨hfiles, -, hsource⟩ := export_keeps_elsewhere {} (History.opened 0) "a\\box.gltf" {}
    Depot.shelf d' hfresh (Or.inl hd')
  refine ⟨d', hd', hrun.1, ?_, hsource "" ["assets"] rfl (by decide +kernel)⟩
  refine (hfiles _ ?_ _ _).mpr (by decide +kernel)
  rw [Zone.upTo, Depot.workspaces, hrun.2]
  decide +kernel

end SceneForge
