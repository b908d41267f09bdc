import SceneForge.Proofs.Depot.Anchors
import SceneForge.Proofs.Surface.Build

set_option autoImplicit false

/-!
# How far artifacts stray from their directories

An export writes six artifacts, each in an area of its own choice. Below a project root every area
has a directory, and the category of the asset says where in relation to it the artifact lies: with
no category or an ordinary one it lies below the directory, and with the parent directory as
category it lies next to it. Since a category is one of these, this is all that can happen, whatever
path the asset was made from.

## Main definitions

* `SceneForge.Artifact`, `SceneForge.AssetId.artifact` — what an export writes.
* `SceneForge.Path.Below`, `SceneForge.Path.Beside` — where a path lies in relation to a directory.
* `SceneForge.Assigns.Inside`, `SceneForge.Assigns.NextTo` — the same for a location text and the
  directory of an area.

## Main results

* `SceneForge.Assigns.exists_split_uri` — the elements of a location behind a category.
* `SceneForge.AssetId.inside_iff_category_ne_parent` — which artifacts lie below their directories.
-/

namespace SceneForge

/-! ## Artifacts -/

/-- What an export writes: two directories and four files. -/
inductive Artifact where
  /-- The directory of textures. -/
  | textures
  /-- The directory of surfaces. -/
  | surfaces
  /-- The mesh. -/
  | mesh
  /-- The collision mesh. -/
  | physicsMesh
  /-- The model. -/
  | model
  /-- The physics model. -/
  | physicsModel
deriving DecidableEq

/-- The area of an artifact. -/
def Artifact.area : Artifact → Area
  | textures => .texture
  | surfaces => .surface
  | mesh => .mesh
  | physicsMesh => .mesh
  | model => .model
  | physicsModel => .physics

/-- What follows the name of the asset in an artifact, for an extension of the source. -/
def Artifact.ending (ext : String) : Artifact → String
  | textures => "_" ++ ext
  | surfaces => "_" ++ ext
  | mesh => ".mesh"
  | physicsMesh => "_ph.mesh"
  | model => ".model"
  | physicsModel => ".physmodel"

/-- The location text of an artifact. -/
def AssetId.artifact (id : AssetId) : Artifact → String
  | .textures => id.textureDir
  | .surfaces => id.surfaceDir
  | .mesh => id.mesh
  | .physicsMesh => id.physicsMesh
  | .model => id.model
  | .physicsModel => id.physicsModel

/-- Artifacts are located like everything else of an asset. -/
lemma AssetId.artifact_eq_located (id : AssetId) (k : Artifact) :
    id.artifact k = id.located k.area (k.ending id.ext) := by
  cases k <;> rfl

/-- The end of an artifact has no separator, and some character other than a dot. -/
lemma Artifact.noSeparator_ending {ext : String} (hext : '/' ∉ ext.toList ∧ '\\' ∉ ext.toList)
    (k : Artifact) : ('/' ∉ (k.ending ext).toList ∧ '\\' ∉ (k.ending ext).toList) ∧
      ∃ c ∈ (k.ending ext).toList, c ≠ '.' := by
  have hdir : ('/' ∉ ("_" ++ ext).toList ∧ '\\' ∉ ("_" ++ ext).toList) ∧
      ∃ c ∈ ("_" ++ ext).toList, c ≠ '.' := ⟨by simp [hext], '_', by simp, by decide⟩
  cases k
  case textures => exact hdir
  case surfaces => exact hdir
  all_goals exact ⟨by simp [ending], 'm', by simp [ending], by decide⟩

/-! ## Below a directory and next to it -/

namespace Path

/-- A path lies strictly below a directory: its elements are those of the directory and more. -/
def Below (dir path : String) : Prop :=
  ∃ rest, rest ≠ [] ∧ (∀ p ∈ rest, Plain p) ∧ split path.toList = split dir.toList ++ rest

/-- A path lies next to a directory, in the same directory as it. -/
def Beside (dir path : String) : Prop :=
  ∃ p, Plain p ∧ split path.toList = (split dir.toList).dropLast ++ [p]

/-- What lies next to a directory is not below it. -/
lemma Beside.not_below {dir path : String} (h : Beside dir path) : ¬ Below dir path := by
  rintro ⟨rest, hrest, -, hbelow⟩
  obtain ⟨p, -, hbeside⟩ := h
  have hlen := congrArg List.length (hbeside.symm.trans hbelow)
  have hdir := List.length_pos_iff.mpr (split_ne_nil dir.toList)
  have hpos := List.length_pos_iff.mpr hrest
  simp only [List.length_append, List.length_dropLast, List.length_singleton] at hlen
  omega

end Path

namespace Assigns

open SceneForge.Path (Part Tidy Plain Ordinary split join push dotDot)

/-- A location text leads strictly below the directory of an area. -/
def Inside (a : Assigns) (area : Area) (uri : String) : Prop :=
  ∃ dir path, a.find? area.tag = some dir ∧ a.resolve uri = .ok path ∧ Path.Below dir path

/-- A location text leads next to the directory of an area. -/
def NextTo (a : Assigns) (area : Area) (uri : String) : Prop :=
  ∃ dir path, a.find? area.tag = some dir ∧ a.resolve uri = .ok path ∧ Path.Beside dir path

/-- Nothing is both below a directory and next to it. -/
lemma NextTo.not_inside {a : Assigns} {area : Area} {uri : String} (h : a.NextTo area uri) :
    ¬ a.Inside area uri := by
  rintro ⟨dir, path, hdir, hpath, hbelow⟩
  obtain ⟨dir', path', hdir', hpath', hbeside⟩ := h
  cases hdir.symm.trans hdir'
  cases hpath.symm.trans hpath'
  exact hbeside.not_below hbelow

/-- **The elements of a location behind a category**, below any project root: those of the directory
of the area, the category after cleaning, and the names. -/
lemma exists_split_uri (root : String) (area : Area) {v : String} {c : Part}
    (hc : c = [] ∨ c = dotDot ∨ Ordinary c) (hv : v.toList = c ∨ v.toList = c ++ ['/']) :
    ∃ ds : List Part, Tidy ds ∧ ds ≠ [] ∧ (∃ p, ds.getLast? = some p ∧ Plain p ∧ '_' ∉ p) ∧
      (below root).find? area.tag = some (String.ofList (join ds)) ∧
      ∀ names, OrdinaryNames names → ∃ path, (below root).resolve (area.uri v names) = .ok path ∧
        split path.toList = (push false ds.reverse c).reverse ++ names.map String.toList := by
  obtain ⟨top, htop⟩ := exists_find?_below root
  obtain ⟨hfind, htidy, hback⟩ := htop area
  obtain ⟨place, last, hplace, hlast⟩ : ∃ place last, area.place = place ++ [last] ∧
      '_' ∉ last.toList := by
    cases area
    case source => exact ⟨[], "assets", rfl, by decide⟩
    case temp => exact ⟨[], "temp", rfl, by decide⟩
    all_goals exact ⟨["export"], _, rfl, by decide⟩
  have hmem : last ∈ area.place := by simp [hplace]
  have hordinary : Ordinary last.toList := ordinary_of_mem_place hmem
  have hne : top ++ area.place.map String.toList ≠ [] := by simp [hplace]
  have hslash := Path.noSlash_of_shallow hc
  have hshallow : Path.Shallow v.toList := ⟨c, hc, hv⟩
  refine ⟨top ++ area.place.map String.toList, htidy, hne,
    ⟨last.toList, by simp [hplace], hordinary.toPlain, hlast⟩, hfind, fun names hnames => ?_⟩
  have hrs := Path.ordinary_of_mem_map hnames.2
  have hresolve := resolve_uri_of_tidy hnames hfind htidy hback hne hshallow.noBackslash
  rw [Path.cleanParts_element htidy hne hslash hv] at hresolve
  refine ⟨_, hresolve, ?_⟩
  rw [String.toList_ofList, Path.split_join (fun p hp => ?_) (by simp [hnames.1])]
  rcases List.mem_append.mp hp with hp | hp
  · have hstack : Tidy (push false (top ++ area.place.map String.toList).reverse c).reverse :=
      Tidy.push (by rwa [List.reverse_reverse]) hslash false
    exact (hstack.of_mem hp).2.2
  · exact (hrs p hp).noSlash

variable {root : String} {area : Area} {v : String} {c : Part} {names : List String}

/-- A missing or ordinary category leads below the directory of the area. -/
lemma inside_uri (hc : c = [] ∨ Ordinary c) (hv : v.toList = c ∨ v.toList = c ++ ['/'])
    (hnames : OrdinaryNames names) : (below root).Inside area (area.uri v names) := by
  have hcases : c = [] ∨ c = dotDot ∨ Ordinary c := hc.imp_right Or.inr
  obtain ⟨ds, htidy, hne, -, hfind, hall⟩ := exists_split_uri root area hcases hv
  obtain ⟨path, hpath, hsplit⟩ := hall names hnames
  have hrs := Path.ordinary_of_mem_map hnames.2
  have hds : split (join ds) = ds := Path.split_join (fun p hp => (htidy.of_mem hp).2.2) hne
  refine ⟨_, path, hfind, hpath, ?_⟩
  rw [Path.Below, String.toList_ofList, hds, hsplit]
  rcases hc with rfl | hc
  · refine ⟨names.map String.toList, by simpa using hnames.1, fun p hp => (hrs p hp).toPlain, ?_⟩
    simp [push]
  · refine ⟨c :: names.map String.toList, by simp, ?_, ?_⟩
    · exact List.forall_mem_cons.mpr ⟨hc.toPlain, fun p hp => (hrs p hp).toPlain⟩
    · rw [Path.push_plain hc.toPlain]
      simp

/-- The parent directory as category takes the last element of the directory back. -/
lemma exists_split_parent (root : String) (area : Area)
    (hv : v.toList = dotDot ∨ v.toList = dotDot ++ ['/']) :
    ∃ (ds : List Part) (last : Part), Plain last ∧ '_' ∉ last ∧
      (below root).find? area.tag = some (String.ofList (join (ds ++ [last]))) ∧
      split (join (ds ++ [last])) = ds ++ [last] ∧
      ∀ names, OrdinaryNames names → ∃ path, (below root).resolve (area.uri v names) = .ok path ∧
        split path.toList = ds ++ names.map String.toList := by
  obtain ⟨ds, htidy, hne, ⟨last, hlast, hplain, hscore⟩, hfind, hall⟩ :=
    exists_split_uri root area (Or.inr (Or.inl rfl)) hv
  obtain ⟨es, rfl⟩ := List.getLast?_eq_some_iff.mp hlast
  have hup : push false (es ++ [last]).reverse dotDot = es.reverse := by
    rw [List.reverse_append, List.reverse_singleton, List.singleton_append]
    exact if_neg hplain.ne_dotDot
  refine ⟨es, last, hplain, hscore, hfind,
    Path.split_join (fun p hp => (htidy.of_mem hp).2.2) hne, fun names hnames => ?_⟩
  obtain ⟨path, hpath, hsplit⟩ := hall names hnames
  rw [hup, List.reverse_reverse] at hsplit
  exact ⟨path, hpath, hsplit⟩

/-- A name behind the parent directory lies next to the directory of the area. -/
lemma nextTo_uri (hv : v.toList = dotDot ∨ v.toList = dotDot ++ ['/']) {name : String}
    (hname : Ordinary name.toList) : (below root).NextTo area (area.uri v [name]) := by
  obtain ⟨ds, last, -, -, hfind, hds, hall⟩ := exists_split_parent root area hv
  obtain ⟨path, hpath, hsplit⟩ := hall [name] ⟨by simp, by simpa using hname⟩
  refine ⟨_, path, hfind, hpath, name.toList, hname.toPlain, ?_⟩
  rw [String.toList_ofList, hds, List.dropLast_concat, hsplit]
  rfl

/-- What lies in a directory behind the parent directory is not below the directory of the area if
the names of the two differ. -/
lemma not_inside_uri (hv : v.toList = dotDot ∨ v.toList = dotDot ++ ['/']) {dir file : String}
    (hdir : '_' ∈ dir.toList) (hnames : OrdinaryNames [dir, file]) :
    ¬ (below root).Inside area (area.uri v [dir, file]) := by
  obtain ⟨ds, last, -, hlast, hfind, hds, hall⟩ := exists_split_parent root area hv
  obtain ⟨path, hpath, hsplit⟩ := hall _ hnames
  rintro ⟨dir', path', hfind', hpath', rest, -, -, hbelow⟩
  cases hfind.symm.trans hfind'
  cases hpath.symm.trans hpath'
  rw [hsplit, String.toList_ofList, hds, List.append_assoc, List.append_cancel_left_eq] at hbelow
  have heq : dir.toList = last := by simpa using congrArg List.head? hbelow
  exact hlast (heq ▸ hdir)

end Assigns

/-! ## Assets of paths -/

namespace AssetId

open Assigns (below)

/-- The artifacts of the asset of a path are ordinary names behind the category. -/
lemma exists_artifact_ofPath (path : String) : ∃ v name : String,
    (v.toList = (ofPath path).category.toList ∨
      v.toList = (ofPath path).category.toList ++ ['/']) ∧
    ∀ k : Artifact, Path.Ordinary (name ++ k.ending (ofPath path).ext).toList ∧
      (ofPath path).artifact k = k.area.uri v [name ++ k.ending (ofPath path).ext] := by
  obtain ⟨v, name, hv, hname, hlocated⟩ := exists_located_ofPath path
  refine ⟨v, name, hv, fun k => ⟨?_, by rw [artifact_eq_located, hlocated]⟩⟩
  obtain ⟨hending, hlast⟩ := k.noSeparator_ending (noSeparator_ext_ofPath path)
  rw [String.toList_append]
  exact Path.ordinary_append hname hending hlast

/-- **Which artifacts lie below their directories.** For every path and every project root: an
artifact of the asset of the path lies strictly below the directory of its area exactly if the
category of the asset is not the parent directory, and otherwise next to it, where it is not asked
for. The surface files of all materials behave in the same way.

**Proof sketch.** The category of a path is missing, the parent directory or an ordinary name
  (`category_ofPath`), and the name behind it is ordinary with any of the endings
  (`exists_artifact_ofPath`). So cleaning the path of an artifact adds elements to the directory of
  the area (`Assigns.inside_uri`), or takes its last element back first (`Assigns.nextTo_uri`). -/
theorem inside_iff_category_ne_parent (root path : String) :
    (∀ k : Artifact,
      ((below root).Inside k.area ((ofPath path).artifact k) ↔ (ofPath path).category ≠ "..") ∧
      ((below root).NextTo k.area ((ofPath path).artifact k) ↔ (ofPath path).category = "..")) ∧
    ∀ (i : Nat) (m : Document.Material),
      (below root).Inside .surface ((ofPath path).surfacePath (Document.materialName i m)) ↔
        (ofPath path).category ≠ ".." := by
  obtain ⟨v, name, hv, hartifact⟩ := exists_artifact_ofPath path
  have hcases := category_ofPath path
  have hparent : (ofPath path).category = ".." ↔
      (ofPath path).category.toList = Path.dotDot := String.toList_inj.symm
  have hsurface : ∀ (i : Nat) (m : Document.Material), OrdinaryNames
      [name ++ Artifact.surfaces.ending (ofPath path).ext, Document.materialName i m ++ ".sur"] ∧
      (ofPath path).surfacePath (Document.materialName i m) = Area.surface.uri v
        [name ++ Artifact.surfaces.ending (ofPath path).ext, Document.materialName i m ++ ".sur"] := by
    intro i m
    refine ⟨⟨by simp, ?_⟩, ?_⟩
    · have hfile : Path.Ordinary (Document.materialName i m ++ ".sur").toList := by
        rw [String.toList_append]
        exact Path.ordinary_append (Document.noSeparator_materialName i m) (by decide)
          ⟨'s', by decide, by decide⟩
      exact List.forall_mem_cons.mpr
        ⟨(hartifact .surfaces).1, List.forall_mem_singleton.mpr hfile⟩
    · have hdir : (ofPath path).surfaceDir = _ := (hartifact .surfaces).2
      rw [surfacePath, surfaceRef, hdir, ← String.toList_inj]
      simp [Area.uri, Artifact.area, Path.join]
  by_cases hup : (ofPath path).category = ".."
  · rw [hparent.mp hup] at hv
    have hnext : ∀ k : Artifact, (below root).NextTo k.area ((ofPath path).artifact k) := fun k =>
      (hartifact k).2 ▸ Assigns.nextTo_uri hv (hartifact k).1
    refine ⟨fun k => ⟨iff_of_false (hnext k).not_inside (not_not_intro hup),
      iff_of_true (hnext k) hup⟩, fun i m => iff_of_false ?_ (not_not_intro hup)⟩
    rw [(hsurface i m).2]
    exact Assigns.not_inside_uri hv (by simp [Artifact.ending]) (hsurface i m).1
  · have hbelow : (ofPath path).category.toList = [] ∨
        Path.Ordinary (ofPath path).category.toList :=
      hcases.imp_right fun h => h.resolve_left fun heq => hup (hparent.mpr heq)
    have hinside : ∀ k : Artifact, (below root).Inside k.area ((ofPath path).artifact k) := fun k =>
      (hartifact k).2 ▸ Assigns.inside_uri hbelow hv ⟨by simp, by simpa using (hartifact k).1⟩
    refine ⟨fun k => ⟨iff_of_true (hinside k) hup,
      iff_of_false (fun h => h.not_inside (hinside k)) hup⟩, fun i m => iff_of_true ?_ hup⟩
    rw [(hsurface i m).2]
    exact Assigns.inside_uri hbelow hv (hsurface i m).1

example : (ofPath "src:../crate.gltf").category = ".." ∧
    (below "proj").resolve (ofPath "src:../crate.gltf").model = .ok "proj/export/crate.model" := by
  decide +kernel

end AssetId

end SceneForge
