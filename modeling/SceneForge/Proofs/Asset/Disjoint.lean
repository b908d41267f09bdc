import SceneForge.Proofs.Asset.Bounds
import SceneForge.Proofs.Export.Confinement

set_option autoImplicit false

/-!
# Artifacts that two assets share

The location of an artifact is put together from the area, the category, the name of the asset and
an ending, and nothing marks where the name stops and the ending begins. So two assets of one
category may have an artifact in common: the collision mesh of one can be the mesh of the other, and
two names with their extensions can be spelled alike. This is the only way: all other artifacts of
different assets are apart, and an export of one asset leaves alone what another one does not share
with it.

## Main definitions

* `SceneForge.AssetId.Single`, `SceneForge.AssetId.Named` — assets whose parts are single names.
* `SceneForge.AssetId.Shares` — an artifact of one asset is one of another.
* `SceneForge.Assigns.Reaches` — a location text leads to what another one leads to, or above it.

## Main results

* `SceneForge.AssetId.reaches_iff` — locations meet only where all their parts agree.
* `SceneForge.AssetId.Named.misses` — artifacts that are not shared are on branches of their own.
* `SceneForge.AssetId.reaches_iff_shares` — what two assets share, and what an export leaves alone.
-/

namespace SceneForge

namespace Assigns

/-- A location text resolves to the same path as another one, or to an ancestor of it. -/
def Reaches (a : Assigns) (uri uri' : String) : Prop :=
  ∃ path path', a.resolve uri = .ok path ∧ a.resolve uri' = .ok path' ∧
    Path.split path.toList <+: Path.split path'.toList

/-- Whether one location text reaches another can be found out. -/
instance decidableReaches (a : Assigns) (uri uri' : String) : Decidable (a.Reaches uri uri') :=
  match h : a.resolve uri, h' : a.resolve uri' with
  | .ok path, .ok path' => decidable_of_iff
      (Path.split path.toList <+: Path.split path'.toList) (by simp [Reaches, h, h'])
  | .error _, _ => isFalse (by simp [Reaches, h])
  | .ok _, .error _ => isFalse (by simp [Reaches, h'])

end Assigns

namespace AssetId

open Assigns (below)

/-- Category and name are single names. -/
structure Single (id : AssetId) : Prop where
  /-- The category is an ordinary element. -/
  category : Path.Ordinary id.category.toList
  /-- The name is an ordinary element. -/
  name : Path.Ordinary id.name.toList

/-- Category and name are single names, and the extension has no separators. -/
structure Named (id : AssetId) : Prop extends Single id where
  /-- The extension has no separators. -/
  ext : '/' ∉ id.ext.toList ∧ '\\' ∉ id.ext.toList

/-- An artifact of one asset is one of another asset of the same category. -/
inductive Shares (a b : AssetId) : Artifact → Artifact → Prop where
  /-- Names and extensions of the sources are spelled alike. -/
  | textures (category : a.category = b.category)
      (glued : a.name ++ "_" ++ a.ext = b.name ++ "_" ++ b.ext) : Shares a b .textures .textures
  /-- Names and extensions of the sources are spelled alike. -/
  | surfaces (category : a.category = b.category)
      (glued : a.name ++ "_" ++ a.ext = b.name ++ "_" ++ b.ext) : Shares a b .surfaces .surfaces
  /-- The mesh of one is the collision mesh of the other. -/
  | mesh (category : a.category = b.category) (name : a.name = b.name ++ "_ph") :
      Shares a b .mesh .physicsMesh
  /-- The collision mesh of one is the mesh of the other. -/
  | physicsMesh (category : a.category = b.category) (name : b.name = a.name ++ "_ph") :
      Shares a b .physicsMesh .mesh

variable {a b : AssetId} {k l : Artifact}

/-! ## Sites of artifacts -/

/-- The site of an artifact. -/
def artifactSite (id : AssetId) (k : Artifact) : Site := id.site k.area (k.ending id.ext)

/-- The location text of an artifact. -/
lemma artifactSite_uri (id : AssetId) (k : Artifact) : (id.artifactSite k).uri = id.artifact k := by
  rw [artifactSite, site_uri, artifact_eq_located]

/-- Artifacts of an asset with single names are at ordinary sites. -/
lemma Named.artifactSite (h : a.Named) (k : Artifact) : (a.artifactSite k).Ordinary where
  ne_nil := by simp [AssetId.artifactSite, site]
  names := by
    have hname := h.name.append (k.noSeparator_ending h.ext).1
    rw [← String.toList_append] at hname
    exact List.forall_mem_cons.mpr ⟨h.category, List.forall_mem_singleton.mpr hname⟩

/-- All artifacts lie at the same depth. -/
lemma length_place_artifact (k l : Artifact) : k.area.place.length = l.area.place.length := by
  cases k <;> cases l <;> rfl

/-- **Locations meet only where all their parts agree**, below any project root. -/
lemma reaches_iff (ha : a.Named) (hb : b.Named) (root : String) (k l : Artifact) :
    (below root).Reaches (a.artifact k) (b.artifact l) ↔
      k.area = l.area ∧ a.category = b.category ∧
        a.name ++ k.ending a.ext = b.name ++ l.ending b.ext := by
  obtain ⟨top, htop⟩ := Assigns.exists_resolve_below root
  obtain ⟨path, hpath, hsplit, -⟩ := htop _ (ha.artifactSite k)
  obtain ⟨path', hpath', hsplit', -⟩ := htop _ (hb.artifactSite l)
  rw [artifactSite_uri] at hpath hpath'
  have hreaches : (below root).Reaches (a.artifact k) (b.artifact l) ↔
      Path.split path.toList <+: Path.split path'.toList := by simp [Assigns.Reaches, hpath, hpath']
  rw [hreaches, hsplit, hsplit', List.prefix_append_right_inj]
  have hlen := length_place_artifact k l
  constructor
  · intro hle
    have heq := hle.eq_of_length (by simp [artifactSite, site, hlen])
    have hparts := (List.map_inj_right fun _ _ => String.toList_inj.mp).mp heq
    obtain ⟨hplace, hnames⟩ := List.append_inj hparts hlen
    have hlast : a.category = b.category ∧ a.name ++ k.ending a.ext = b.name ++ l.ending b.ext := by
      simpa [artifactSite, site] using hnames
    exact ⟨Area.eq_of_place (hplace ▸ List.prefix_refl _), hlast⟩
  · rintro ⟨harea, hcategory, hname⟩
    simp [artifactSite, site, harea, hcategory, hname]

/-- **Different assets share** an artifact exactly if all parts of the two locations agree.

**Proof sketch.** Forwards by the definition. Backwards, artifacts of the same area have the same
kind, or they are a mesh and a collision mesh. Those of the same kind have the same ending, which
cancels, against the difference of the names; only the directories have endings of their own. A mesh
and a collision mesh leave names that differ by what the collision mesh adds. -/
lemma shares_iff (hne : a.category ≠ b.category ∨ a.name ≠ b.name) :
    a.Shares b k l ↔ k.area = l.area ∧ a.category = b.category ∧
      a.name ++ k.ending a.ext = b.name ++ l.ending b.ext := by
  constructor
  · rintro (⟨hcategory, hglued⟩ | ⟨hcategory, hglued⟩ | ⟨hcategory, hname⟩ | ⟨hcategory, hname⟩)
    · exact ⟨rfl, hcategory, by simpa [Artifact.ending, String.append_assoc] using hglued⟩
    · exact ⟨rfl, hcategory, by simpa [Artifact.ending, String.append_assoc] using hglued⟩
    · exact ⟨rfl, hcategory, by simp [Artifact.ending, hname, String.append_assoc]⟩
    · exact ⟨rfl, hcategory, by simp [Artifact.ending, hname, String.append_assoc]⟩
  · rintro ⟨harea, hcategory, hname⟩
    have hnames : a.name ≠ b.name := hne.resolve_left (not_not_intro hcategory)
    have hchars : a.name.toList ++ (k.ending a.ext).toList =
        b.name.toList ++ (l.ending b.ext).toList := by
      simpa using congrArg String.toList hname
    -- the same ending on both sides leaves the same names
    have hcancel : ∀ e : List Char, a.name.toList ++ e ≠ b.name.toList ++ e := fun e he =>
      hnames (String.toList_inj.mp (List.append_cancel_right he))
    have hending : "_ph.mesh".toList = "_ph".toList ++ ".mesh".toList := by decide
    cases k <;> cases l <;> simp only [Artifact.area, reduceCtorEq] at harea
    case textures.textures =>
      exact .textures hcategory (by simpa [Artifact.ending, String.append_assoc] using hname)
    case surfaces.surfaces =>
      exact .surfaces hcategory (by simpa [Artifact.ending, String.append_assoc] using hname)
    case mesh.physicsMesh =>
      have hph : a.name.toList ++ ".mesh".toList =
          (b.name.toList ++ "_ph".toList) ++ ".mesh".toList := by
        rw [List.append_assoc, ← hending]
        exact hchars
      refine .mesh hcategory (String.toList_inj.mp ?_)
      rw [String.toList_append]
      exact List.append_cancel_right hph
    case physicsMesh.mesh =>
      have hph : (a.name.toList ++ "_ph".toList) ++ ".mesh".toList =
          b.name.toList ++ ".mesh".toList := by
        rw [List.append_assoc, ← hending]
        exact hchars
      refine .physicsMesh hcategory (String.toList_inj.mp ?_)
      rw [String.toList_append]
      exact (List.append_cancel_right hph).symm
    all_goals exact absurd hchars (hcancel _)

/-! ## What an export of another asset leaves alone -/

/-- Artifacts that are not shared are at sites that are apart. -/
lemma apart_artifactSite (h : ¬ (k.area = l.area ∧ a.category = b.category ∧
    a.name ++ k.ending a.ext = b.name ++ l.ending b.ext)) :
    (a.artifactSite k).Apart (b.artifactSite l) := by
  by_cases harea : k.area = l.area
  · refine Site.apart_of_length rfl fun hnames => h ⟨harea, ?_⟩
    simpa [artifactSite, site] using hnames
  · exact Or.inl harea

/-- Everything in the zone of an asset is an artifact. -/
lemma exists_artifact_of_mem_zone {uri : String} (h : uri ∈ a.zone.renewed ∨ uri ∈ a.zone.written) :
    ∃ k, uri = a.artifact k := by
  simp only [zone, List.mem_cons, List.not_mem_nil, or_false] at h
  rcases h with (rfl | rfl) | rfl | rfl | rfl | rfl
  exacts [⟨.textures, rfl⟩, ⟨.surfaces, rfl⟩, ⟨.mesh, rfl⟩, ⟨.physicsMesh, rfl⟩, ⟨.model, rfl⟩,
    ⟨.physicsModel, rfl⟩]

/-- **Artifacts that are not shared** are on branches of their own.

**Proof sketch.** All locations are those of sites, and the site of an artifact is known from where
the artifact leads. What the export of the one asset changes is at one of its artifacts or at a
workspace, each apart from the artifact of the other, and places that are apart are not above each
other. -/
lemma Named.misses (ha : a.Named) (hb : b.Named) {root : String} {d d' : Depot}
    (hroot : d.assigns = below root) (hscratch : d.world.ScratchOrdinary)
    (hapart : ∀ k, (a.artifactSite k).Apart (b.artifactSite l)) {place loc : Location}
    (hat : d.assigns.Leads (b.artifact l) place) (hloc : place <+: loc) :
    (a.zone.upTo d d').Misses d.assigns loc := by
  rw [hroot] at hat ⊢
  obtain ⟨path, hpath, hlocate⟩ := hat
  rw [← artifactSite_uri] at hpath
  obtain ⟨top, htop⟩ := Assigns.rooted_of_resolve (hb.artifactSite l) hpath hlocate
  have hlocation : ∀ {t : Site} {l' : Location}, t.Ordinary → (below root).Leads t.uri l' →
      l' = t.location top := by
    rintro t l' ht ⟨p, hp, hl'⟩
    obtain ⟨p', hp', hl''⟩ := htop t ht
    cases hp.symm.trans hp'
    exact Option.some.inj (hl'.symm.trans hl'')
  obtain rfl := hlocation (hb.artifactSite l) ⟨path, hpath, hlocate⟩
  intro uri huri l' hl'
  -- whatever is written is at a site that is apart from the artifact
  obtain ⟨t, ht, htapart, rfl⟩ : ∃ t : Site, t.Ordinary ∧ t.Apart (b.artifactSite l) ∧
      uri = t.uri := by
    rcases mem_uris_upTo.mp huri with huri | huri
    · obtain ⟨k, rfl⟩ := exists_artifact_of_mem_zone huri
      exact ⟨_, ha.artifactSite k, hapart k, (artifactSite_uri a k).symm⟩
    · obtain ⟨n, -, -, rfl⟩ := Depot.mem_workspaces.mp huri
      refine ⟨Texture.workspace (d.world.scratch n), Texture.workspace_ordinary (hscratch n),
        Or.inl ?_, (Texture.workspace_uri _).symm⟩
      show Area.temp ≠ l.area
      cases l <;> decide
  obtain rfl := hlocation ht hl'
  have hbelow := htapart.not_above top
  have habove := htapart.symm.not_above top
  refine ⟨fun hle => ?_, fun hle => habove (hloc.trans hle)⟩
  exact (List.prefix_or_prefix_of_prefix hle hloc).elim hbelow habove

/-- **What two assets share.** For all different assets whose categories and names are single names
and whose extensions have no separators, below every project root: a location that an export of one
writes or removes is a location of the other, or an ancestor of one, exactly if both have the same
category, and it is the mesh of one and the collision mesh of the other with names that differ by
`_ph`, or it is the directory of textures or of surfaces of both and names with extensions are
spelled alike. An artifact that is not shared in this way, and everything in it, is the same after
each phase of an export of the other asset, whatever fails.

**Proof sketch.** All artifacts lie at one depth, so one location reaches another only if area,
  category and last name agree (`reaches_iff`); going through the kinds of artifacts leaves the
  cases above (`shares_iff`). Otherwise the two are on different branches, and an export changes
  only what is on branches of its zone (`Named.misses`, `Session.complete_spares`). -/
theorem reaches_iff_shares (a b : AssetId) (ha : a.Named) (hb : b.Named)
    (hne : a.category ≠ b.category ∨ a.name ≠ b.name) (root : String) :
    (∀ k l, (below root).Reaches (a.artifact k) (b.artifact l) ↔ a.Shares b k l) ∧
    ∀ l, (∀ k, ¬ a.Shares b k l) →
      ∀ (tools : Texture.Tools) (s : Session) (path : String) (settings : Settings) (d d' : Depot),
        ofPath path = a → d.assigns = below root → d.world.ScratchOrdinary →
        (d' = ((s.start (.standard tools) path settings).run d).2 ∨
          d' = ((s.complete (.standard tools) path settings).run d).2) →
        ∀ place loc, d.assigns.Leads (b.artifact l) place → place <+: loc →
          d'.tree.find? loc = d.tree.find? loc := by
  refine ⟨fun k l => (reaches_iff ha hb root k l).trans (shares_iff hne).symm, ?_⟩
  intro l hshares tools s path settings d d' hpath hroot hscratch hexport place loc hat hloc
  have hkeeps : Depot.Keeps (a.zone.upTo d d') d d' := by
    rw [← hpath]
    rcases hexport with rfl | rfl
    · exact Session.start_spares d hscratch
    · exact Session.complete_spares d hscratch
  have hapart : ∀ k, (a.artifactSite k).Apart (b.artifactSite l) := fun k =>
    apart_artifactSite fun hsame => hshares k ((shares_iff hne).mpr hsame)
  exact hkeeps.find?_eq_of_misses (ha.misses hb hroot hscratch hapart hat hloc)

end AssetId

/-- A project with textures from earlier exports of two assets whose names differ by `_ph`. -/
def Depot.twins : Depot where
  tree := ⟨[(["assets", "a", "box.gltf"], .file (utf8 "\x7b\x7d") 10),
    (["export", "textures", "a", "box_gltf", "0.png"], .file [1] 20),
    (["export", "textures", "a", "box_gltf"], .dir 20),
    (["export", "textures", "a", "box_ph_gltf", "0.png"], .file [2] 20)]⟩
  assigns := .below ""
  world := { clock := fun n => 100 + n, refuses := fun _ _ _ => false, scratch := fun _ => "scratch" }

/-- The collision mesh of one is the mesh of the other. The first phase for one removes its texture
from the earlier export and leaves that of the other alone. -/
theorem AssetId.reaches_iff_shares_twins : ∃ d' : Depot,
    d' = (((History.opened 0).start (.standard {}) "a\\box.gltf" {}).run Depot.twins).2 ∧
    (Assigns.below "").Reaches (⟨"a", "box", "gltf"⟩ : AssetId).physicsMesh
      (⟨"a", "box_ph", "gltf"⟩ : AssetId).mesh ∧
    d'.tree.find? ["export", "textures", "a", "box_gltf", "0.png"] = none ∧
    d'.tree.find? ["export", "textures", "a", "box_ph_gltf", "0.png"] = some (.file [2] 20) := by
  have hscratch : Path.Ordinary "scratch".toList := by decide
  obtain ⟨hreaches, hkept⟩ := reaches_iff_shares ⟨"a", "box", "gltf"⟩ ⟨"a", "box_ph", "gltf"⟩
    ⟨⟨by decide, by decide⟩, by decide⟩ ⟨⟨by decide, by decide⟩, by decide⟩ (by decide) ""
  refine ⟨_, rfl, (hreaches .physicsMesh .mesh).mpr (.physicsMesh rfl rfl), by decide +kernel, ?_⟩
  have htextures : ∀ k, ¬ Shares ⟨"a", "box", "gltf"⟩ ⟨"a", "box_ph", "gltf"⟩ k .textures := by
    rintro k ⟨-, hglued⟩
    exact absurd hglued (by decide)
  refine (hkept .textures htextures {} (History.opened 0) "a\\box.gltf" {} Depot.twins _
    (by decide +kernel) rfl (fun _ => hscratch) (Or.inl rfl)
    ["export", "textures", "a", "box_ph_gltf"] _ (by decide +kernel) (by decide)).trans ?_
  decide +kernel

/-- **Artifacts of different assets are not always apart**, though categories and names are single
names: a collision mesh is a mesh, names with extensions are spelled alike, or an extension with a
separator leads to the directory above. -/
theorem AssetId.not_apart_of_single :
    (∀ id ∈ ([⟨"props", "box", "gltf"⟩, ⟨"props", "box_ph", "gltf"⟩, ⟨"props", "box_old", "gltf"⟩,
      ⟨"props", "box", "old_gltf"⟩, ⟨"props", "box", "/.."⟩] : List AssetId), id.Single) ∧
    (Assigns.below "proj").Reaches (⟨"props", "box", "gltf"⟩ : AssetId).physicsMesh
      (⟨"props", "box_ph", "gltf"⟩ : AssetId).mesh ∧
    (Assigns.below "proj").Reaches (⟨"props", "box_old", "gltf"⟩ : AssetId).textureDir
      (⟨"props", "box", "old_gltf"⟩ : AssetId).textureDir ∧
    (Assigns.below "proj").Reaches (⟨"props", "box", "/.."⟩ : AssetId).textureDir
      (⟨"props", "box_ph", "gltf"⟩ : AssetId).textureDir := by
  refine ⟨?_, by decide +kernel, by decide +kernel, by decide +kernel⟩
  simp only [List.forall_mem_cons, List.not_mem_nil, false_imp_iff, implies_true, and_true]
  refine ⟨?_, ?_, ?_, ?_, ?_⟩ <;> exact ⟨by decide, by decide⟩

end SceneForge
