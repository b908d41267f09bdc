import SceneForge.Proofs.Depot.Separators
import SceneForge.Proofs.Export.Confinement
import SceneForge.Proofs.Export.Contents

set_option autoImplicit false

/-!
# Workspaces

Every image is converted in a workspace of its own, which is removed again whatever happened in it.
Below a project root, directories of textures and scratch space are on different branches, and
workspaces with different names are apart. So a converter that keeps to the workspace and to the
directory of textures cannot leave anything in a workspace, if the world lets workspaces go.

## Main definitions

* `SceneForge.Texture.Home` — directories for the textures of an asset.
* `SceneForge.Texture.Confined` — converters that keep to their workspace and their target.
* `SceneForge.World.FreesWorkspaces` — worlds that let workspaces go.
* `SceneForge.Depot.Swept` — whatever is in a workspace was there before.

## Main results

* `SceneForge.Texture.exists_places` — where textures and workspaces are.
* `SceneForge.Texture.confined_convert` — the usual converter is confined.
* `SceneForge.Texture.extract_sweeps` — extracting textures leaves no workspace behind.
-/

namespace SceneForge

open Depot (Keeps Lawful)
open Job (Steps)

namespace Texture

/-! ## Places -/

/-- A directory for the textures of an asset, such as `tex:props/chair_gltf`: an ordinary name
behind a text that does not go up, or at most one directory. -/
def Home (dir : String) : Prop :=
  ∃ v last : String, (Path.Forward v ∨ Path.Shallow v.toList) ∧ Path.Ordinary last.toList ∧
    dir = Area.texture.uri v [last]

/-- The directory for the textures of the asset of a path is one, whatever the path is. -/
lemma home_ofPath (path : String) : Home (AssetId.ofPath path).textureDir := by
  obtain ⟨v, name, hv, hname, hlocated⟩ := AssetId.exists_located_ofPath path
  refine ⟨v, name ++ ("_" ++ (AssetId.ofPath path).ext),
    Or.inr ⟨_, AssetId.category_ofPath path, hv⟩, ?_, hlocated .texture _⟩
  rw [String.toList_append]
  refine Path.ordinary_append hname ?_ ⟨'_', by simp, by decide⟩
  simp [AssetId.noSeparator_ext_ofPath path]

/-- Names in such a directory lie in it. -/
lemma Home.anchored {dir : String} (h : Home dir) : Anchored dir := by
  obtain ⟨v, last, -, hlast, rfl⟩ := h
  exact Area.texture.anchored_uri v hlast

/-- Files in such a directory lie where it is. -/
lemma Home.leads_child {a : Assigns} {dir name : String} {loc : Location} (h : Home dir)
    (hleads : a.Leads dir loc) (hname : Path.Ordinary name.toList) :
    a.Leads (dir ++ "/" ++ name) (loc ++ [name]) := by
  obtain ⟨v, last, -, -, rfl⟩ := h
  have htext : Area.texture.uri v [last] =
      Area.texture.tag ++ ":" ++ (v ++ "/" ++ String.ofList (Path.join [last.toList])) := by
    simp [Area.uri, String.append_assoc]
  rw [htext] at hleads ⊢
  exact hleads.child Area.texture.isTag hname

/-- Elements in front of names. -/
lemma map_ofList_append (top : List Path.Part) (names : List String) :
    (top ++ names.map String.toList).map String.ofList = top.map String.ofList ++ names := by
  simp [Function.comp_def, String.ofList_toList]

/-- **Directories for textures** lie on the branch of exports. -/
lemma Home.branch {a : Assigns} {top : List Path.Part} {dir : String} {loc : Location}
    (hfind : a.find? Area.texture.tag =
      some (String.ofList (Path.join (top ++ Area.texture.place.map String.toList))))
    (htidy : Path.Tidy (top ++ Area.texture.place.map String.toList))
    (hback : ∀ p ∈ top ++ Area.texture.place.map String.toList, '\\' ∉ p) (h : Home dir)
    (hleads : a.Leads dir loc) : top.map String.ofList ++ ["export"] <+: loc := by
  obtain ⟨v, last, hv, hlast, rfl⟩ := h
  have hne : top ++ Area.texture.place.map String.toList ≠ [] := by simp [Area.place]
  rcases hv with hv | hv
  · have htext : Area.texture.uri v [last] =
        Area.texture.tag ++ ":" ++ (v ++ "/" ++ String.ofList (Path.join [last.toList])) := by
      simp [Area.uri, String.append_assoc]
    rw [← Path.text_of_ne_nil hne] at hfind
    rw [htext, Assigns.leads_tagged_iff Area.texture.isTag hfind] at hleads
    obtain ⟨-, rfl⟩ := hleads
    rw [Path.reach_below _ v (by simpa using hlast) (by simp), List.map_append]
    have hbelow := (hv.prefix_reach htidy hback).map String.ofList
    rw [map_ofList_append] at hbelow
    exact ((List.prefix_append_right_inj _).mpr ⟨["textures"], rfl⟩).trans
      (hbelow.trans (List.prefix_append _ _))
  · have hplace : top ++ Area.texture.place.map String.toList =
        (top ++ ["export"].map String.toList) ++ ["textures".toList] := by simp [Area.place]
    rw [hleads.of_tidy ⟨by simp, by simpa using hlast⟩ hfind htidy hback hne hv.noBackslash, hplace]
    have hbelow := (hv.prefix_cleanParts (hplace ▸ htidy) (by decide)).map String.ofList
    rw [map_ofList_append] at hbelow
    exact hbelow.trans (List.prefix_append _ _)

/-- **Below a project root**, textures are on the branch of exports, and workspaces are in scratch
space, on a branch of its own. -/
lemma exists_places (root : String) : ∃ top : Location,
    (∀ dir loc, Home dir → (Assigns.below root).Leads dir loc → top ++ ["export"] <+: loc) ∧
    (∀ loc, (Assigns.below root).Leads "temp:" loc → loc = top ++ ["temp"]) ∧
    ∀ name loc, Path.Ordinary name.toList →
      (Assigns.below root).Leads (workspaceRoot ++ "/" ++ name) loc →
        loc = top ++ ["temp", "textureconverter", name] := by
  obtain ⟨top, htop⟩ := Assigns.exists_find?_below root
  obtain ⟨hfind, htidy, hback⟩ := htop .temp
  rw [← Path.text_of_ne_nil (by simp [Area.place])] at hfind
  refine ⟨top.map String.ofList, fun dir loc hhome hleads => ?_, fun loc hleads => ?_,
    fun name loc hname hleads => ?_⟩
  · exact hhome.branch (htop .texture).1 (htop .texture).2.1 (htop .texture).2.2 hleads
  · have htext : "temp:" = Area.temp.tag ++ ":" ++ "" := by decide
    rw [htext, Assigns.leads_tagged_iff Area.temp.isTag hfind, Path.reach_empty htidy hback,
      map_ofList_append] at hleads
    exact hleads.2
  · have hnames : ∀ r ∈ ["textureconverter", name].map String.toList, Path.Ordinary r :=
      List.forall_mem_cons.mpr ⟨⟨⟨by decide, by decide, by decide, by decide⟩, by decide⟩,
        List.forall_mem_singleton.mpr hname⟩
    have htext : workspaceRoot ++ "/" ++ name = Area.temp.tag ++ ":" ++
        String.ofList (Path.join (["textureconverter", name].map String.toList)) := by
      rw [← String.toList_inj]
      simp [workspaceRoot, Area.tag, Path.join]
    rw [htext, Assigns.leads_tagged_iff Area.temp.isTag hfind, Path.reach_join _ hnames (by simp),
      Path.reach_empty htidy hback, List.append_assoc, ← List.map_append, map_ofList_append] at hleads
    exact hleads.2

section Places

variable {root dir name : String} {loc : Location}

/-- **Workspaces miss the textures** of an asset. -/
lemma misses_home (hhome : Home dir) (hleads : (Assigns.below root).Leads dir loc)
    (hname : Path.Ordinary name.toList) :
    ({ scratch := [workspaceRoot ++ "/" ++ name] } : Zone).Misses (.below root) loc := by
  obtain ⟨top, hexport, -, hworkspace⟩ := exists_places root
  intro uri hmem l hl
  obtain rfl : uri = workspaceRoot ++ "/" ++ name := by simpa [Zone.uris] using hmem
  have hbranch : top ++ ["temp"] <+: l := by
    rw [hworkspace name l hname hl]
    exact (List.prefix_append_right_inj _).mpr ⟨["textureconverter", name], rfl⟩
  exact Location.apart_of_branches hbranch (hexport dir loc hhome hleads) (by decide)

/-- **Textures miss scratch space.** -/
lemma misses_temp (hhome : Home dir) (hleads : (Assigns.below root).Leads "temp:" loc) :
    ({ renewed := [dir] } : Zone).Misses (.below root) loc := by
  obtain ⟨top, hexport, htemp, -⟩ := exists_places root
  intro uri hmem l hl
  obtain rfl : uri = dir := by simpa [Zone.uris] using hmem
  obtain rfl := htemp loc hleads
  exact Location.apart_of_branches (hexport uri l hhome hl) (List.prefix_refl _) (by decide)

/-- **Textures and other workspaces miss a workspace.** -/
lemma misses_workspace {z : Zone} (hhome : Home dir) (hname : Path.Ordinary name.toList)
    (hleads : (Assigns.below root).Leads (workspaceRoot ++ "/" ++ name) loc)
    (hz : ∀ uri ∈ z.uris, uri = dir ∨ ∃ name', Path.Ordinary name'.toList ∧ name' ≠ name ∧
      uri = workspaceRoot ++ "/" ++ name') : z.Misses (.below root) loc := by
  obtain ⟨top, hexport, -, hworkspace⟩ := exists_places root
  obtain rfl := hworkspace name loc hname hleads
  intro uri hmem l hl
  rcases hz uri hmem with rfl | ⟨name', hname', hne, rfl⟩
  · exact Location.apart_of_branches (hexport uri l hhome hl)
      ((List.prefix_append_right_inj _).mpr ⟨["textureconverter", name], rfl⟩) (by decide)
  · rw [hworkspace name' l hname' hl]
    have hlast : ∀ n : String, top ++ ["temp", "textureconverter"] ++ [n] <+:
        top ++ ["temp", "textureconverter", n] := fun n => by simp
    exact Location.apart_of_branches (hlast name') (hlast name) hne

end Places

/-! ## Converters -/

/-- **A converter that keeps to its workspace and its target**: whatever it does with the picture of
an image, and whether it fails or not, everything outside these directories is kept. -/
def Confined (c : Converter) : Prop :=
  ∀ (i : Nat) (type : ImageType) (ws dir : String), Anchored ws → Anchored dir →
    Steps (Keeps { renewed := [dir], scratch := [ws] })
      (c (ws ++ "/" ++ toString i ++ "." ++ type.ext) ws dir)

/-- The usual converter is confined. -/
lemma confined_convert (t : Tools) : Confined (convert t) := fun i type _ _ hws hdir =>
  convert_keeps hws (by simp) hdir (by simp) i type

end Texture

/-- A world that lets workspaces go: removing one never fails. -/
def World.FreesWorkspaces (w : World) : Prop :=
  ∀ n k, w.refuses n .deleteDirectory (Texture.workspaceRoot ++ "/" ++ w.scratch k) = false

/-! ## Nothing is left behind -/

namespace Depot

/-- **Workspaces were swept**: whatever is there and below was there before. -/
structure Swept (d d' : Depot) : Prop where
  /-- Areas stay where they are. -/
  assigns : d'.assigns = d.assigns
  /-- The world is the same. -/
  world : d'.world = d.world
  /-- There is nothing new in the place of a workspace or below. -/
  gone : ∀ name loc l, Path.Ordinary name.toList →
    d.assigns.Leads (Texture.workspaceRoot ++ "/" ++ name) loc → loc <+: l →
      d'.tree.find? l = none ∨ d'.tree.find? l = d.tree.find? l

/-- Below a project root, workspaces were swept if their names are ordinary and the world lets them
go. -/
def Sweeps (root : String) (d d' : Depot) : Prop :=
  d.assigns = .below root → d.world.ScratchOrdinary → d.world.FreesWorkspaces → Swept d d'

variable {root dir : String} {d d' : Depot}

/-- **Sweeping composes**, and nothing has to happen. -/
instance lawful_sweeps : Lawful (Sweeps root) where
  quiet htree hassigns hworld _ _ _ _ _ _ :=
    ⟨hassigns, hworld, fun _ _ _ _ _ _ => Or.inr (by rw [htree])⟩
  trans := by
    intro d d' d'' h h' hroot hscratch hfrees
    have hfirst := h hroot hscratch hfrees
    have hlast := h' (hfirst.assigns.trans hroot) (hfirst.world ▸ hscratch) (hfirst.world ▸ hfrees)
    refine ⟨hlast.assigns.trans hfirst.assigns, hlast.world.trans hfirst.world,
      fun name loc l hname hleads hle => ?_⟩
    rcases hlast.gone name loc l hname (hfirst.assigns ▸ hleads) hle with hgone | hsame
    · exact Or.inl hgone
    · rw [hsame]
      exact hfirst.gone name loc l hname hleads hle

/-- An action that keeps to a directory of textures leaves workspaces as they are. -/
lemma Keeps.sweeps (hhome : Texture.Home dir) (h : Keeps { renewed := [dir] } d d') :
    Sweeps root d d' := by
  intro hroot _ _
  refine ⟨h.assigns, h.world, fun name loc l hname hleads hle => Or.inr ?_⟩
  rw [hroot] at hleads
  have hmiss := Texture.misses_workspace (z := { renewed := [dir] }) hhome hname hleads
    fun uri hmem => Or.inl (by simpa [Zone.uris] using hmem)
  exact h.find?_eq_of_misses (hroot ▸ hmiss.below hle)

end Depot

namespace Texture

open Depot (Sweeps)

variable {root dir : String} {c : Converter} {doc : Document}

/-- What is left when a workspace was removed. -/
lemma tree_of_dropWorkspace {ws : String} {d : Depot} {loc : Location}
    (hallowed : d.refuses .deleteDirectory ws = false) (hleads : d.assigns.Leads ws loc) :
    ((dropWorkspace ws).run d).2.tree = d.tree.erase loc := by
  rw [dropWorkspace, Job.orWarn, Job.run_bind_of_ok
    (Job.run_attempt_eq_ok_iff.mpr (Job.deleteDirectory_allowed hallowed hleads))]
  rfl

/-- **Extracting an image** leaves nothing behind in workspaces. What the converter does stays in
the workspace and in the directory of textures; the one is removed, and the other one is elsewhere.

**Proof sketch.** Everything the image does stays in the zone of the directory and of the workspace
it was given. At and below that workspace everything is removed again, since the world lets it be
removed; the locations of other workspaces are missed by the zone (`misses_workspace`). -/
lemma extractImage_sweeps (hc : Confined c) (hhome : Home dir) (i : Nat) (type : ImageType) :
    Steps (Sweeps root) (extractImage c doc dir i type) := by
  intro d
  refine Job.steps_bind_run (Job.ofExcept_steps _ d) fun data d₁ hdata => ?_
  obtain ⟨-, rfl⟩ := Job.run_ofExcept_eq_ok_iff.mp hdata
  intro hroot hscratch hfrees
  let name := d.world.scratch d.scratchUsed
  let ws := workspaceRoot ++ "/" ++ name
  let z : Zone := { renewed := [dir], scratch := [ws] }
  let taken : Depot := { d with scratchUsed := d.scratchUsed + 1 }
  have hws : Anchored ws := anchored_workspace (hscratch _)
  have hconvert : Steps (Keeps z) (convertIn c i type data ws dir) :=
    convertIn_keeps hws (List.mem_singleton_self ws) (hc i type ws dir hws hhome.anchored) data
  have hdrop : Steps (Keeps z) (dropWorkspace ws) :=
    (Job.deleteDirectory_keeps (List.mem_singleton_self ws)).orWarn _
  show Depot.Swept d ((dropWorkspace ws).run ((convertIn c i type data ws dir).run taken).2).2
  have htaken : Keeps z d taken := Lawful.quiet rfl rfl rfl rfl (Nat.le_succ _) rfl
  have hworked := htaken.trans (hconvert taken)
  generalize ((convertIn c i type data ws dir).run taken).2 = worked at hworked ⊢
  have hkeeps := hworked.trans (hdrop worked)
  refine ⟨hkeeps.assigns, hkeeps.world, fun name' loc l hname' hleads hle => ?_⟩
  by_cases heq : name' = name
  · -- the workspace of the image itself
    subst heq
    have hallowed : worked.refuses .deleteDirectory ws = false := by
      rw [Depot.refuses, hworked.world]
      exact hfrees _ _
    rw [tree_of_dropWorkspace hallowed (hworked.assigns ▸ hleads), Tree.find?_erase]
    by_cases hnil : l = []
    · exact Or.inr (by rw [hnil, if_neg (by simp), Tree.find?_nil, Tree.find?_nil])
    · exact Or.inl (if_pos ⟨hle, hnil⟩)
  · have hz : ∀ uri ∈ z.uris, uri = dir ∨ ∃ name'', Path.Ordinary name''.toList ∧ name'' ≠ name' ∧
        uri = workspaceRoot ++ "/" ++ name'' := fun uri hmem => by
      have hmem : uri = dir ∨ uri = ws := by simpa [Zone.uris, z] using hmem
      exact hmem.imp_right fun huri => ⟨name, hscratch _, Ne.symm heq, huri⟩
    have hmiss := misses_workspace hhome hname' (hroot ▸ hleads) hz
    exact Or.inr (hkeeps.find?_eq_of_misses (hroot ▸ hmiss.below hle))

/-- **Extracting textures** leaves nothing behind in workspaces, whatever the converter does in its
directories and whatever else fails. -/
lemma extract_sweeps (hc : Confined c) (hhome : Home dir) :
    Steps (Sweeps root) (extract c doc dir) :=
  extract_steps (fun warning d => (Job.purgeDirectory_keeps (by simp) warning d).sweeps hhome)
    (fun d => (Job.createDirectory_keeps (by simp) d).sweeps hhome) (extractImage_sweeps hc hhome)

end Texture

end SceneForge
