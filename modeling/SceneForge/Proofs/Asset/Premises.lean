import SceneForge.Proofs.Asset.Bounds
import SceneForge.Proofs.Asset.Sources
import SceneForge.Proofs.Export.Confinement

set_option autoImplicit false

/-!
# The premises of an asset

Below a project root, the artifacts of an asset are side by side: none of them is above another, and
files and directories among them are told apart by their endings. Workspaces are on a branch of
their own. All this holds for every path, whatever its category is, as soon as the project is not
outside of the tree; and then no source could be read.

## Main definitions

* `SceneForge.Area.room` — the directory of an area behind a category.
* `SceneForge.Assigns.Opens` — a location text leads somewhere, and names in it below.
* `SceneForge.AssetId.Premises` — where the artifacts of an asset and workspaces are.

## Main results

* `SceneForge.Assigns.exists_opens` — where texts lead below a project root.
* `SceneForge.AssetId.exists_premises` — assets whose sources lead somewhere have premises.
-/

namespace SceneForge

/-! ## Where texts lead -/

/-- The directory of an area behind a category, seen from a project root. -/
def Area.room (area : Area) (c : Path.Part) : Location :=
  if c = [] then area.place
  else if c = Path.dotDot then area.place.dropLast
  else area.place ++ [String.ofList c]

namespace Assigns

open SceneForge.Path (Part Tidy Ordinary dotDot join push split)

/-- A location text leads to a location, and names in it to the locations below. -/
structure Opens (a : Assigns) (dir : String) (loc : Location) : Prop where
  /-- The text itself. -/
  here : a.Leads dir loc
  /-- Names in it. -/
  inside : ∀ name, Ordinary name.toList → a.Leads (dir ++ "/" ++ name) (loc ++ [name])

/-- A category behind the elements of an area. -/
lemma map_push_place (top : List Part) (area : Area) {c : Part}
    (hc : c = [] ∨ c = dotDot ∨ Ordinary c) :
    (push false (top ++ area.place.map String.toList).reverse c).reverse.map String.ofList =
      top.map String.ofList ++ area.room c := by
  have hback : ∀ names : List String, (names.map String.toList).map String.ofList = names := by
    simp [Function.comp_def, String.ofList_toList]
  rcases hc with rfl | rfl | hc
  · simp [push, Area.room, Function.comp_def, String.ofList_toList]
  · have hne : area.place ≠ [] := by cases area <;> simp [Area.place]
    have hlast := (ordinary_of_mem_place (List.getLast_mem hne)).ne_dotDot
    have hstack : (top ++ area.place.map String.toList).reverse =
        (area.place.getLast hne).toList :: (top ++ area.place.dropLast.map String.toList).reverse := by
      conv_lhs => rw [← List.dropLast_concat_getLast hne]
      simp
    have hpush : push false (top ++ area.place.map String.toList).reverse dotDot =
        (top ++ area.place.dropLast.map String.toList).reverse := by
      rw [hstack]
      exact if_neg hlast
    have hroom : area.room dotDot = area.place.dropLast := rfl
    rw [hpush, hroom, List.reverse_reverse, List.map_append, hback]
  · have hroom : area.room c = area.place ++ [String.ofList c] := by
      rw [Area.room, if_neg hc.ne_nil, if_neg hc.ne_dotDot]
    rw [Path.push_plain hc.toPlain, hroom]
    simp [Function.comp_def, String.ofList_toList]

/-- The directory of an area behind a category goes down. -/
lemma ordinary_of_mem_room {area : Area} {c : Part} (hc : c = [] ∨ c = dotDot ∨ Ordinary c)
    {n : String} (h : n ∈ area.room c) : Ordinary n.toList := by
  unfold Area.room at h
  split_ifs at h with hnil hup
  · exact ordinary_of_mem_place h
  · exact ordinary_of_mem_place (List.mem_of_mem_dropLast h)
  · rcases List.mem_append.mp h with h | h
    · exact ordinary_of_mem_place h
    · rw [List.mem_singleton.mp h, String.toList_ofList]
      exact (hc.resolve_left hnil).resolve_left hup

/-- **Where texts lead below a project root.** Nothing leads into a project outside of the tree; and
else names behind a category lead to the directory of their area.

**Proof sketch.** The elements of the root are resolved apart from what follows
(`exists_find?_below`). A location that leads somewhere has no parent left in its elements, hence
none in those of the root. If there is none, the category only adds or removes one element behind
the place of its area, which gives the room of the category, and ordinary names are added to that as
they are. -/
lemma exists_opens (root : String) : ∃ top : List Part,
    (∀ (area : Area) (v : String) (loc : Location), '\\' ∉ v.toList →
      (below root).Leads (area.tag ++ ":" ++ v) loc → dotDot ∉ top) ∧
    (dotDot ∉ top → ∀ (area : Area) (c : Part) (v name : String),
      (c = [] ∨ c = dotDot ∨ Ordinary c) → (v.toList = c ∨ v.toList = c ++ ['/']) →
      Ordinary name.toList → (below root).Opens (area.uri v [name])
        (top.map String.ofList ++ area.room c ++ [name])) := by
  obtain ⟨top, htop⟩ := exists_find?_below root
  have hne : ∀ area : Area, top ++ area.place.map String.toList ≠ [] := fun area => by
    cases area <;> simp [Area.place]
  refine ⟨top, fun area v loc hv h hmem => ?_, fun hin area c v name hc hv hname => ?_⟩
  · obtain ⟨hfind, htidy, hback⟩ := htop area
    refine ((leads_behind_iff loc hfind htidy hback (hne area) hv).mp h).1 ?_
    rw [List.mem_reverse]
    exact Path.dotDot_mem_foldl_push (by simp [hmem]) false _
  · obtain ⟨hfind, htidy, hback⟩ := htop area
    have hslash := Path.noSlash_of_shallow hc
    have hshallow : Path.Shallow v.toList := ⟨c, hc, hv⟩
    have hstack : Tidy (push false (top ++ area.place.map String.toList).reverse c).reverse :=
      Tidy.push (by rwa [List.reverse_reverse]) hslash false
    have hinside : dotDot ∉ (push false (top ++ area.place.map String.toList).reverse c).reverse := by
      intro hmem
      have hmem' := List.mem_map_of_mem (f := String.ofList) hmem
      rw [map_push_place top area hc] at hmem'
      rcases List.mem_append.mp hmem' with htop' | hroom
      · obtain ⟨p, hp, heq⟩ := List.mem_map.mp htop'
        exact hin (String.ofList_injective heq ▸ hp)
      · exact (ordinary_of_mem_room hc hroom).ne_dotDot String.toList_ofList
    have hleads : ∀ names, OrdinaryNames names → (below root).Leads (area.uri v names)
        (top.map String.ofList ++ area.room c ++ names) := by
      intro names hnames
      have hrs := Path.ordinary_of_mem_map hnames.2
      have hresolve := resolve_uri_of_tidy hnames hfind htidy hback (hne area) hshallow.noBackslash
      rw [Path.cleanParts_element htidy (hne area) hslash hv] at hresolve
      refine ⟨_, hresolve, ?_⟩
      rw [Depot.locate_join (hstack.append fun r hr => (hrs r hr).toPlain) (by simp [hnames.1]),
        if_neg ?_, List.map_append, map_push_place top area hc]
      · simp [Function.comp_def, String.ofList_toList]
      · exact fun hmem => (List.mem_append.mp hmem).elim hinside fun hmem =>
          absurd rfl (hrs _ hmem).ne_dotDot
    refine ⟨hleads [name] ⟨by simp, by simpa using hname⟩, fun file hfile => ?_⟩
    have huri : area.uri v [name] ++ "/" ++ file = area.uri v [name, file] := by
      rw [← String.toList_inj]
      simp [Area.uri, Path.join]
    rw [huri, List.append_assoc]
    exact hleads [name, file] ⟨by simp, by simpa using ⟨hname, hfile⟩⟩

end Assigns

/-! ## Premises -/

/-- Whether an artifact is a directory. -/
def Artifact.isDirectory : Artifact → Bool
  | textures | surfaces => true
  | mesh | physicsMesh | model | physicsModel => false

namespace AssetId

/-- Where the artifacts of an asset and workspaces are. -/
structure Premises (a : Assigns) (id : AssetId) where
  /-- The locations of artifacts. -/
  place : Artifact → Location
  /-- The locations of workspaces by their names. -/
  bench : String → Location
  /-- Artifacts are where their texts lead. -/
  opens : ∀ k, a.Opens (id.artifact k) (place k)
  /-- Workspaces are where their texts lead. -/
  opens_bench : ∀ name : String, Path.Ordinary name.toList →
    a.Opens (Texture.workspaceRoot ++ "/" ++ name) (bench name)
  /-- No artifact is above another. -/
  level : ∀ k l, place k <+: place l → place k = place l
  /-- No workspace is above another. -/
  bench_level : ∀ m n, bench m <+: bench n → bench m = bench n
  /-- No file is in the place of a directory. -/
  apart : ∀ k l, k.isDirectory = false → l.isDirectory = true → place k ≠ place l
  /-- Artifacts and workspaces are on different branches. -/
  branch : ∀ k name loc, place k <+: loc → ¬ bench name <+: loc

/-- The extension of the asset of a path has no dots. -/
lemma noDot_ext_ofPath (path : String) : '.' ∉ (ofPath path).ext.toList := by
  obtain ⟨cs, hext⟩ : ∃ cs, (ofPath path).ext = String.ofList ((Path.extChars cs).drop 1) :=
    ⟨_, rfl⟩
  rw [hext, String.toList_ofList, Path.extChars]
  split_ifs
  · intro hmem
    have hlast := List.mem_takeWhile_imp (List.mem_reverse.mp hmem)
    simp at hlast
  · exact List.not_mem_nil

/-- The artifacts that are files are those with a dot in their endings. -/
lemma dot_mem_ending_iff {ext : String} (hext : '.' ∉ ext.toList) (k : Artifact) :
    '.' ∈ (k.ending ext).toList ↔ k.isDirectory = false := by
  cases k <;> simp [Artifact.ending, Artifact.isDirectory, hext]

/-- The directories of artifacts are on the branch of exports, and as deep as each other. -/
lemma exists_room_artifact (c : Path.Part) : ∃ n, ∀ k : Artifact, ∃ rest : Location,
    k.area.room c = "export" :: rest ∧ rest.length = n := by
  have hplace : ∀ k : Artifact, ∃ name, k.area.place = ["export", name] := by
    intro k
    cases k <;> exact ⟨_, rfl⟩
  unfold Area.room
  split_ifs
  · refine ⟨1, fun k => ?_⟩
    obtain ⟨name, h⟩ := hplace k
    exact ⟨[name], h, rfl⟩
  · refine ⟨0, fun k => ?_⟩
    obtain ⟨name, h⟩ := hplace k
    exact ⟨[], by rw [h]; rfl, rfl⟩
  · refine ⟨2, fun k => ?_⟩
    obtain ⟨name, h⟩ := hplace k
    exact ⟨[name, String.ofList c], by rw [h]; rfl, rfl⟩

/-- **Every asset whose source leads somewhere has premises**, whatever its path and the project
root are.

**Proof sketch.** The category of a path is missing, the parent directory or an ordinary name
  (`category_ofPath`), so that all artifacts are in directories on the branch of exports that are
  equally deep (`exists_room_artifact`). Their names differ in the ending if one is a file and the
  other is not, since the extension of a path has no dot. -/
lemma exists_premises (root path : String) {loc : Location}
    (h : (Assigns.below root).Leads (ofPath path).source loc) :
    Nonempty (Premises (Assigns.below root) (ofPath path)) := by
  obtain ⟨top, hinside, hopens⟩ := Assigns.exists_opens root
  obtain ⟨v, name, hv, hname, hlocated⟩ := exists_located_ofPath path
  have hc := category_ofPath path
  have hext := noSeparator_ext_ofPath path
  have hin : Path.dotDot ∉ top := by
    have hshallow : Path.Shallow v.toList := ⟨_, hc, hv⟩
    refine hinside .source (v ++ "/" ++ (name ++ ("." ++ (ofPath path).ext))) loc ?_ ?_
    · simp [hshallow.noBackslash, hname.2, hext.2]
    · rw [source, hlocated] at h
      simpa [Area.uri, Path.join, String.append_assoc] using h
  obtain ⟨n, hroom⟩ := exists_room_artifact (ofPath path).category.toList
  have hbench : Area.temp.room "textureconverter".toList = ["temp", "textureconverter"] := by decide
  have hlast : ∀ {xs ys : Location} {x y : String}, xs ++ [x] = ys ++ [y] → x = y := fun heq => by
    simpa using (List.append_inj' heq rfl).2
  refine ⟨{
    place := fun k => top.map String.ofList ++ k.area.room (ofPath path).category.toList ++
      [name ++ k.ending (ofPath path).ext]
    bench := fun w => top.map String.ofList ++ ["temp", "textureconverter"] ++ [w]
    opens := fun k => ?_
    opens_bench := fun w hw => ?_
    level := fun k l hle => hle.eq_of_length ?_
    bench_level := fun m n hle => hle.eq_of_length (by simp)
    apart := fun k l hk hl heq => ?_
    branch := fun k w loc hplace hbranch => ?_ }⟩
  · obtain ⟨hending, hlast⟩ := k.noSeparator_ending hext
    rw [artifact_eq_located, hlocated]
    refine hopens hin k.area _ v _ hc hv ?_
    rw [String.toList_append]
    exact Path.ordinary_append hname hending hlast
  · rw [Texture.workspace_eq_uri, ← hbench]
    exact hopens hin .temp _ "textureconverter" w (Or.inr (Or.inr (by decide))) (Or.inl rfl) hw
  · obtain ⟨rest, hk, hklen⟩ := hroom k
    obtain ⟨rest', hl, hllen⟩ := hroom l
    simp [hk, hl, hklen, hllen]
  · have hending : k.ending (ofPath path).ext = l.ending (ofPath path).ext := by
      simpa using hlast heq
    have hdot := (dot_mem_ending_iff (noDot_ext_ofPath path) k).mpr hk
    rw [hending, dot_mem_ending_iff (noDot_ext_ofPath path), hl] at hdot
    cases hdot
  · obtain ⟨rest, hk, -⟩ := hroom k
    have hexport : top.map String.ofList ++ ["export"] <+: loc :=
      List.IsPrefix.trans ⟨rest ++ [name ++ k.ending (ofPath path).ext], by simp [hk]⟩ hplace
    have htemp : top.map String.ofList ++ ["temp"] <+: loc :=
      List.IsPrefix.trans ⟨["textureconverter", w], by simp⟩ hbranch
    exact absurd (Location.branch_unique hexport htemp) (by decide)

end AssetId

end SceneForge
