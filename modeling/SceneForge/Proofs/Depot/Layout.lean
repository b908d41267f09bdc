import SceneForge.Depot.Basic
import SceneForge.Proofs.Path.Names

set_option autoImplicit false

/-!
# Where things lie in a project

All areas lie below one project root, each in a directory of its own. A place in an area is given by
names; if these are ordinary, the place is found exactly below the directory of its area. Two places
on different branches have locations of which neither lies below the other.

## Main definitions

* `SceneForge.Site` — a place in an area, with its location text.
* `SceneForge.Site.Apart` — two places on different branches.
* `SceneForge.Assigns.Rooted` — all areas lie below one location.

## Main results

* `SceneForge.Depot.locate_dir` — a file lies in the directory of its path.
* `SceneForge.Assigns.rooted_of_resolve` — the areas of a project root lie below one location.
* `SceneForge.Site.Apart.not_above` — sites on different branches.
-/

namespace SceneForge

/-! ## Locations of paths -/

namespace Depot

open SceneForge.Path

variable {ps : List Part}

/-- A tidy path has its elements as location, unless it leaves the tree. -/
lemma locate_join (h : Tidy ps) (hne : ps ≠ []) :
    locate (String.ofList (join ps)) =
      if dotDot ∈ ps then none else some (ps.map String.ofList) := by
  have hsplit : split (join ps) = ps := split_join (fun p hp => (h.of_mem hp).2.2) hne
  have hdot : String.ofList (join ps) ≠ "." := by
    intro heq
    have hchars : join ps = ['.'] := by simpa using congrArg String.toList heq
    have hparts : ps = [dot] := by rw [← hsplit, hchars]; rfl
    exact (h.of_mem (p := dot) (by simp [hparts])).2.1 rfl
  have hany : ((ps.map String.ofList).any fun p => p = ".." ∨ p = "." ∨ p = "") =
      decide (dotDot ∈ ps) := by
    rw [Bool.eq_iff_iff, List.any_eq_true, decide_eq_true_eq]
    constructor
    · rintro ⟨x, hx, hx'⟩
      obtain ⟨p, hp, rfl⟩ := List.mem_map.mp hx
      obtain ⟨hnil, hdot', -⟩ := h.of_mem hp
      have heq : ∀ q : Part, String.ofList p = String.ofList q → p = q := fun q hq => by
        simpa using congrArg String.toList hq
      rcases of_decide_eq_true hx' with hx' | hx' | hx'
      · exact heq dotDot hx' ▸ hp
      · exact absurd (heq dot hx') hdot'
      · exact absurd (heq [] hx') hnil
    · intro hmem
      exact ⟨"..", List.mem_map.mpr ⟨dotDot, hmem, rfl⟩, by decide⟩
  simp only [locate, String.toList_ofList, hsplit, if_neg hdot, hany, decide_eq_true_eq]

/-- A path with a location is the top directory or made of plain elements. -/
lemma exists_of_locate {path : String} {loc : Location} (h : locate path = some loc) :
    path = "." ∧ loc = [] ∨ ∃ ps, ps ≠ [] ∧ (∀ p ∈ ps, Plain p) ∧
      path = String.ofList (join ps) ∧ loc = ps.map String.ofList := by
  unfold locate at h
  simp only at h
  split_ifs at h with hdot hany
  · exact Or.inl ⟨hdot, (Option.some.inj h).symm⟩
  · refine Or.inr ⟨split path.toList, split_ne_nil _, fun p hp => ?_, ?_, (Option.some.inj h).symm⟩
    · have hnone : ¬ (String.ofList p = ".." ∨ String.ofList p = "." ∨ String.ofList p = "") :=
        fun hp' => hany (List.any_eq_true.mpr
          ⟨String.ofList p, List.mem_map.mpr ⟨p, hp, rfl⟩, decide_eq_true hp'⟩)
      rw [not_or, not_or] at hnone
      obtain ⟨hparent, hself, hnil⟩ := hnone
      exact ⟨fun heq => hnil (by rw [heq]), fun heq => hself (by rw [heq]; rfl),
        fun heq => hparent (by rw [heq]; rfl), noSlash_of_mem_split hp⟩
    · rw [join_split, String.ofList_toList]

/-- **A file lies in the directory of its path.** -/
lemma locate_dir {path : String} {loc : Location} (h : locate path = some loc) :
    locate (dir path) = some loc.dropLast := by
  rcases exists_of_locate h with ⟨rfl, rfl⟩ | ⟨ps, hne, hplain, rfl, rfl⟩
  · rfl
  · obtain ⟨qs, p, rfl⟩ : ∃ qs p, ps = qs ++ [p] :=
      ⟨ps.dropLast, ps.getLast hne, (List.dropLast_concat_getLast hne).symm⟩
    obtain ⟨hqs, hp⟩ := List.forall_mem_append.mp hplain
    rw [dir, String.toList_ofList, dirChars_join (tidy_of_plain hqs) (hp p (by simp)).noSlash]
    by_cases hnil : qs = []
    · subst hnil
      rfl
    · have hparents : dotDot ∉ qs := fun hmem => (hqs dotDot hmem).ne_dotDot rfl
      rw [text_of_ne_nil hnil, locate_join (tidy_of_plain hqs) hnil, if_neg hparents]
      simp

end Depot

/-! ## Sites -/

/-- A place in an area. -/
structure Site where
  /-- The area. -/
  area : Area
  /-- The names that lead to the place, outermost first. -/
  names : List String
deriving DecidableEq

namespace Site

/-- The location text of a site. -/
def uri (s : Site) : String :=
  s.area.tag ++ ":" ++ String.ofList (Path.join (s.names.map String.toList))

/-- A site whose names are ordinary elements. -/
structure Ordinary (s : Site) : Prop where
  /-- There is a name. -/
  ne_nil : s.names ≠ []
  /-- Every name is an ordinary element. -/
  names : ∀ n ∈ s.names, Path.Ordinary n.toList

/-- Two sites on different branches: neither lies below the other. -/
def Apart (s t : Site) : Prop := s.area ≠ t.area ∨ ¬ s.names <+: t.names ∧ ¬ t.names <+: s.names

/-- Sites at the same depth are apart if they differ. -/
lemma apart_of_length {s t : Site} (hlen : s.names.length = t.names.length)
    (hne : s.names ≠ t.names) : s.Apart t :=
  Or.inr ⟨fun h => hne (h.eq_of_length hlen), fun h => hne (h.eq_of_length hlen.symm).symm⟩

/-- The location of a site below a project root. -/
def location (top : Location) (s : Site) : Location := top ++ (s.area.place ++ s.names)

end Site

/-- Different areas lie on different branches. -/
lemma Area.eq_of_place {a b : Area} (h : a.place <+: b.place) : a = b := by
  revert h
  cases a <;> cases b <;> decide

/-- Sites that are apart have locations on different branches. -/
lemma Site.Apart.not_above {s t : Site} (h : s.Apart t) (top : Location) :
    ¬ s.location top <+: t.location top := by
  intro hle
  rw [location, location, List.prefix_append_right_inj] at hle
  have harea : s.area = t.area := by
    rcases List.prefix_or_prefix_of_prefix ((List.prefix_append _ _).trans hle)
      (List.prefix_append t.area.place t.names) with h | h
    · exact Area.eq_of_place h
    · exact (Area.eq_of_place h).symm
  rcases h with h | h
  · exact h harea
  · rw [harea, List.prefix_append_right_inj] at hle
    exact h.1 hle

/-- Being apart does not depend on the order. -/
lemma Site.Apart.symm {s t : Site} (h : s.Apart t) : t.Apart s := by
  rcases h with h | ⟨h, h'⟩
  · exact Or.inl h.symm
  · exact Or.inr ⟨h', h⟩

/-! ## Project roots -/

namespace Assigns

/-- All areas lie below one location: ordinary sites are found exactly there. -/
def Rooted (a : Assigns) (top : Location) : Prop :=
  ∀ s : Site, s.Ordinary → ∃ path, a.resolve s.uri = .ok path ∧
    Depot.locate path = some (s.location top)

/-- A tag that was bound just now has its directory, and other tags have those from before. -/
lemma find?_bind (a : Assigns) (tag dir tag' : String) :
    (a.bind tag dir).find? tag' = if tag' = tag then some (Path.norm dir) else a.find? tag' := by
  unfold bind find?
  by_cases h : tag' = tag
  · simp [h]
  · rw [List.find?_cons_of_neg (by simpa using Ne.symm h), if_neg h, List.find?_filter]
    congr 2
    funext b
    by_cases hb : b.1 = tag'
    · simp [hb, h]
    · simp [hb]

/-- Every area has its directory below a project root. -/
lemma find?_below (root : String) (area : Area) :
    (below root).find? area.tag = some (Path.norm (Path.joinAll (root :: area.place))) := by
  simp only [below, ofList, layout, Area.all, List.map_cons, List.map_nil, List.foldl_cons,
    List.foldl_nil, find?_bind]
  cases area <;> rfl

/-- The names of an area are ordinary. -/
lemma ordinary_of_mem_place {area : Area} {n : String} (h : n ∈ area.place) :
    Path.Ordinary n.toList := by
  have hplain : ∀ cs ∈ ["assets", "export", "models", "physics", "meshes", "anims", "textures",
      "surfaces", "temp"].map String.toList,
      cs ≠ [] ∧ cs ≠ Path.dot ∧ cs ≠ Path.dotDot ∧ '/' ∉ cs ∧ '\\' ∉ cs := by decide
  have hmem : n.toList ∈ ["assets", "export", "models", "physics", "meshes", "anims", "textures",
      "surfaces", "temp"].map String.toList :=
    List.mem_map_of_mem (by cases area <;> simp [Area.place] at h ⊢ <;> tauto)
  obtain ⟨hnil, hdot, hparent, hslash, hback⟩ := hplain _ hmem
  exact ⟨⟨hnil, hdot, hparent, hslash⟩, hback⟩

/-- The tag of an area is found again in the location text of a site. -/
lemma cutColon_uri (s : Site) : Path.cutColon s.uri.toList =
    some (s.area.tag.toList, Path.join (s.names.map String.toList)) := by
  have hchars : s.uri.toList =
      s.area.tag.toList ++ ':' :: Path.join (s.names.map String.toList) := by simp [Site.uri]
  have hcolon : ':' ∉ s.area.tag.toList := by cases s.area <;> decide
  rw [hchars, Path.cutColon_append hcolon]

/-- **Ordinary sites below a project root** lie exactly below the directories of their areas, or
nowhere if the root leaves the tree.

**Proof sketch.** The elements of the root, cleaned, come first (`Path.exists_top`); the place of
the area and the names of the site are ordinary, so that cleaning leaves them behind those as they
are (`Path.norm_joinAll_below`). A parent can only be among the elements of the root. -/
lemma exists_resolve_below (root : String) : ∃ top : List Path.Part,
    ∀ s : Site, s.Ordinary → ∃ path, (below root).resolve s.uri = .ok path ∧
      Path.split path.toList = top ++ (s.area.place ++ s.names).map String.toList ∧
      Depot.locate path = if Path.dotDot ∈ top then none
        else some (s.location (top.map String.ofList)) := by
  obtain ⟨top, htidy, hback, htop⟩ := Path.exists_top root
  refine ⟨top, fun s hs => ?_⟩
  have hplace : ∀ n ∈ s.area.place, Path.Ordinary n.toList := fun n hn => ordinary_of_mem_place hn
  have hplace' : s.area.place ≠ [] := by cases s.area <;> simp [Area.place]
  have hslash : '/' ∉ s.area.tag.toList := by cases s.area <;> decide
  let ds := top ++ s.area.place.map String.toList
  let rs := s.names.map String.toList
  have hrs : ∀ r ∈ rs, Path.Ordinary r := Path.ordinary_of_mem_map hs.names
  have hrs' : rs ≠ [] := by simpa [rs] using hs.ne_nil
  have hplace'' := Path.ordinary_of_mem_map hplace
  have hds : Path.Tidy ds := htidy.append fun p hp => (hplace'' p hp).toPlain
  have hds' : ∀ p ∈ ds, '\\' ∉ p :=
    List.forall_mem_append.mpr ⟨hback, fun p hp => (hplace'' p hp).noBackslash⟩
  have hne : ds ≠ [] := by simp [ds, hplace']
  have hparent : Path.dotDot ∈ ds ++ rs ↔ Path.dotDot ∈ top := by
    simp only [ds, List.mem_append]
    refine ⟨?_, fun h => Or.inl (Or.inl h)⟩
    rintro ((h | h) | h)
    · exact h
    · exact absurd rfl (hplace'' _ h).ne_dotDot
    · exact absurd rfl (hrs _ h).ne_dotDot
  have htidy' : Path.Tidy (ds ++ rs) := hds.append fun r hr => (hrs r hr).toPlain
  refine ⟨String.ofList (Path.join (ds ++ rs)), ?_, ?_, ?_⟩
  · simp only [resolve, cutColon_uri, if_neg hslash, String.ofList_toList, find?_below,
      htop _ hplace hplace']
    rw [Path.norm_joinAll_below hds hds' hne hrs hrs']
  · rw [String.toList_ofList, Path.split_join (fun p hp => (htidy'.of_mem hp).2.2) (by simp [hne])]
    simp [ds, rs]
  · rw [Depot.locate_join htidy' (by simp [hne])]
    simp only [hparent]
    congr 2
    simp [ds, rs, Site.location, Function.comp_def, String.ofList_toList]

/-- **The areas of a project root lie below one location** as soon as one ordinary site can be
located at all. -/
lemma rooted_of_resolve {root path : String} {s : Site} (hs : s.Ordinary) {loc : Location}
    (hpath : (below root).resolve s.uri = .ok path) (hloc : Depot.locate path = some loc) :
    ∃ top, (below root).Rooted top := by
  obtain ⟨top, htop⟩ := exists_resolve_below root
  refine ⟨top.map String.ofList, fun t ht => ?_⟩
  obtain ⟨path', hpath', -, hloc'⟩ := htop s hs
  rw [hpath] at hpath'
  cases hpath'
  have hnone : Path.dotDot ∉ top := fun h => by
    rw [hloc, if_pos h] at hloc'
    cases hloc'
  obtain ⟨path'', hpath'', -, hloc''⟩ := htop t ht
  exact ⟨path'', hpath'', by rw [hloc'', if_neg hnone]⟩

end Assigns

end SceneForge
