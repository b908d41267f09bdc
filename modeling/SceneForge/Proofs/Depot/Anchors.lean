import SceneForge.Proofs.Depot.Confinement

set_option autoImplicit false

/-!
# Names below a location text

Location texts are put together from the tag of an area, some text and ordinary names. Whatever the
text is, cleaning the path does not reach the names: they lead below one place that depends on tag
and text alone. So a name in a directory leads to what lies in that directory. The text in the
locations of an asset is made from the path of its source and goes up at most one directory, so
below a project root all locations keep to where the directory of their area is.

## Main definitions

* `SceneForge.Path.Shallow` — a text that goes up at most one directory.
* `SceneForge.Area.uri` — the location text of names behind some text.
* `SceneForge.Anchored` — a location text whose names lie in the directory that it leads to.

## Main results

* `SceneForge.Assigns.exists_top_uri` — names lead below one place.
* `SceneForge.Area.anchored_uri` — directories with ordinary names are anchored.
* `SceneForge.Anchored.writeAll_keeps` — files in such directories.
* `SceneForge.AssetId.category_ofPath`, `SceneForge.AssetId.exists_located_ofPath` — the locations
  of the asset of any path.
* `SceneForge.Assigns.exists_root` — where locations lead below a project root.
-/

namespace SceneForge

/-! ## Cleaning behind some text -/

namespace Path

variable {p : Part} {ps ds rs : List Part}

/-- Tidy elements go up or are plain. -/
lemma Tidy.dotDot_or_plain (h : Tidy ps) (hp : p ∈ ps) : p = dotDot ∨ Plain p := by
  obtain ⟨n, qs, rfl, hqs⟩ := h
  rcases List.mem_append.mp hp with hp | hp
  · exact Or.inl (List.eq_of_mem_replicate hp)
  · exact Or.inr (hqs p hp)

/-- **Some text in front of ordinary names** is cleaned by itself. -/
lemma exists_top_through (dir v : String) : ∃ top, Tidy top ∧
    ∀ rs : List Part, (∀ r ∈ rs, Ordinary r) → rs ≠ [] →
      norm (joinAll [dir, v ++ "/" ++ String.ofList (join rs)]) =
        String.ofList (join (top ++ rs)) := by
  obtain ⟨cs, hcs⟩ : ∃ cs, ∀ rs : List Part,
      joinAll [dir, v ++ "/" ++ String.ofList (join rs)] =
        String.ofList (cleanChars (cs ++ '/' :: join rs)) := by
    have hrest : ∀ rs : List Part, v ++ "/" ++ String.ofList (join rs) ≠ "" := by
      intro rs h
      have hchars := congrArg String.toList h
      simp at hchars
    by_cases hdir : dir = ""
    · exact ⟨v.toList, fun rs => by simp [joinAll, hdir, hrest rs, join]⟩
    · exact ⟨dir.toList ++ '/' :: v.toList, fun rs => by simp [joinAll, hdir, hrest rs, join]⟩
  obtain ⟨lead, hlead, hall⟩ := exists_lead cs
  obtain ⟨top, htidy, -, htop⟩ := exists_top_of_lead hlead
  refine ⟨top, htidy, fun rs hrs hne => ?_⟩
  have hplain : ∀ r ∈ rs, Plain r := fun r hr => (hrs r hr).toPlain
  rw [hcs, hall rs hplain hne, norm, String.toList_ofList, htop rs hrs hne]

/-- The elements in front of a text and those of the text are cleaned in order. -/
lemma cleanParts_through (hds : Tidy ds) (hne : ds ≠ []) (v : List Char) :
    cleanParts (join ds ++ '/' :: v ++ ['/']) =
      ((split v).foldl (push false) ds.reverse).reverse := by
  have hrooted : isRooted (join ds ++ '/' :: v ++ ['/']) = false := by
    rw [List.append_assoc]
    exact hds.isRooted_join _ hne
  have hsplit : split (join ds ++ '/' :: v ++ ['/']) = ds ++ (split v ++ [[]]) := by
    rw [List.append_assoc, List.cons_append, split_append_slash, split_append_slash,
      split_join (fun q hq => (hds.of_mem hq).2.2) hne]
    rfl
  have hpush : ∀ stack : List Part, push false stack [] = stack := fun _ => rfl
  rw [cleanParts, hrooted, hsplit, List.foldl_append, hds.foldl_push, List.foldl_append]
  simp [hpush]

/-- A text that goes up at most one directory: nothing, the parent directory or an ordinary name,
with or without a slash behind it. -/
def Shallow (v : List Char) : Prop :=
  ∃ p, (p = [] ∨ p = dotDot ∨ Ordinary p) ∧ (v = p ∨ v = p ++ ['/'])

/-- A text that goes up at most one directory has no backslash. -/
lemma Shallow.noBackslash {v : List Char} (h : Shallow v) : '\\' ∉ v := by
  obtain ⟨p, hp, hv⟩ := h
  have hback : '\\' ∉ p := by
    rcases hp with rfl | rfl | hp
    · decide
    · decide
    · exact hp.noBackslash
  rcases hv with rfl | rfl <;> simp [hback]

/-- One element behind a tidy directory, with or without a slash behind it. -/
lemma cleanParts_element {v : List Char} (hds : Tidy ds) (hne : ds ≠ []) (hp : '/' ∉ p)
    (hv : v = p ∨ v = p ++ ['/']) :
    cleanParts (join ds ++ '/' :: v ++ ['/']) = (push false ds.reverse p).reverse := by
  rw [cleanParts_through hds hne]
  rcases hv with rfl | rfl
  · rw [split_of_noSlash hp]
    rfl
  · rw [split_append_slash, split_of_noSlash hp]
    rfl

/-- An element that may stand in a text that goes up at most one directory has no slash. -/
lemma noSlash_of_shallow (hp : p = [] ∨ p = dotDot ∨ Ordinary p) : '/' ∉ p := by
  rcases hp with rfl | rfl | hp
  · decide
  · decide
  · exact hp.noSlash

/-- A text that goes up at most one directory stays below the directory in front of the last. -/
lemma Shallow.prefix_cleanParts {v : List Char} {q : Part} (h : Shallow v) (hds : Tidy (ds ++ [q]))
    (hq : q ≠ dotDot) : ds <+: cleanParts (join (ds ++ [q]) ++ '/' :: v ++ ['/']) := by
  obtain ⟨p, hp, hv⟩ := h
  have hstack : (ds ++ [q]).reverse = q :: ds.reverse := by simp
  rw [cleanParts_element hds (by simp) (noSlash_of_shallow hp) hv, hstack]
  rcases hp with rfl | rfl | hp
  · exact ⟨[q], by simp [push]⟩
  · have hup : push false (q :: ds.reverse) dotDot = ds.reverse := if_neg hq
    rw [hup]
    exact ⟨[], by simp⟩
  · rw [push_plain hp.toPlain]
    exact ⟨[q, p], by simp⟩

/-- An ordinary name stays below the directory in front. -/
lemma Ordinary.prefix_cleanParts {v : List Char} (h : Ordinary v) (hds : Tidy ds) (hne : ds ≠ []) :
    ds <+: cleanParts (join ds ++ '/' :: v ++ ['/']) := by
  rw [cleanParts_through hds hne, split_of_noSlash h.noSlash, List.foldl_cons, List.foldl_nil,
    push_plain h.toPlain]
  exact ⟨[v], by simp⟩

/-- **Names behind a tidy directory and some text** lie behind what is cleaned of both. -/
lemma norm_joinAll_through (hds : Tidy ds) (hback : ∀ p ∈ ds, '\\' ∉ p) (hne : ds ≠ [])
    {v : List Char} (hv : '\\' ∉ v) (hrs : ∀ r ∈ rs, Ordinary r) (hrs' : rs ≠ []) :
    norm (joinAll [String.ofList (join ds), String.ofList (v ++ '/' :: join rs)]) =
      String.ofList (join (cleanParts (join ds ++ '/' :: v ++ ['/']) ++ rs)) := by
  have hplain : ∀ r ∈ rs, Plain r := fun r hr => (hrs r hr).toPlain
  have htop := tidy_cleanParts (join ds ++ '/' :: v ++ ['/'])
  have hback' : ∀ p ∈ cleanParts (join ds ++ '/' :: v ++ ['/']) ++ rs, '\\' ∉ p := by
    refine List.forall_mem_append.mpr ⟨fun p hp hmem => ?_, fun r hr => (hrs r hr).noBackslash⟩
    have hmem' := subset_of_mem_split (mem_split_of_mem_cleanParts hp) hmem
    simp [hv, noBackslash_join hback] at hmem'
  have hdir : String.ofList (join ds) ≠ "" := by
    simpa using join_ne_nil (fun p hp => (hds.of_mem hp).1) hne
  have hrooted : isRooted (join ds ++ '/' :: (v ++ '/' :: join rs)) = false :=
    hds.isRooted_join _ hne
  have happend : join ds ++ '/' :: (v ++ '/' :: join rs) =
      join ds ++ '/' :: v ++ '/' :: join rs := by simp
  have hclean : joinAll [String.ofList (join ds), String.ofList (v ++ '/' :: join rs)] =
      String.ofList (join (cleanParts (join ds ++ '/' :: v ++ ['/']) ++ rs)) := by
    have hfilter : [String.ofList (join ds), String.ofList (v ++ '/' :: join rs)].filter (· ≠ "") =
        [String.ofList (join ds), String.ofList (v ++ '/' :: join rs)] := by
      simp [hdir]
    simp only [joinAll, hfilter, List.map_cons, List.map_nil, String.toList_ofList, join]
    rw [cleanChars_of_not_rooted hrooted, happend, cleanParts_below _ hplain hrs',
      text_of_ne_nil (by simp [hrs'])]
  rw [hclean, norm, String.toList_ofList,
    normChars_join (htop.append hplain) hback' (by simp [hrs'])]

/-- A tidy directory with nothing behind it. -/
lemma norm_joinAll_nil (hds : Tidy ds) (hback : ∀ p ∈ ds, '\\' ∉ p) (hne : ds ≠ []) :
    norm (joinAll [String.ofList (join ds), String.ofList []]) = String.ofList (join ds) := by
  have hdir : String.ofList (join ds) ≠ "" := by
    simpa using join_ne_nil (fun p hp => (hds.of_mem hp).1) hne
  have hclean : joinAll [String.ofList (join ds), String.ofList []] = String.ofList (join ds) := by
    simp [joinAll, hdir, join, cleanChars_join hds hne]
  rw [hclean, norm, String.toList_ofList, normChars_join hds hback hne]

end Path

/-! ## Location texts -/

/-- Names that are ordinary elements, at least one. -/
def OrdinaryNames (names : List String) : Prop :=
  names ≠ [] ∧ ∀ n ∈ names, Path.Ordinary n.toList

/-- The location text of names behind some text. -/
def Area.uri (area : Area) (v : String) (names : List String) : String :=
  area.tag ++ ":" ++ v ++ "/" ++ String.ofList (Path.join (names.map String.toList))

namespace Assigns

variable {a : Assigns} {area : Area} {v : String} {names : List String}

/-- The path of names behind some text. -/
lemma resolve_uri_eq_ok_iff {path : String} : a.resolve (area.uri v names) = .ok path ↔
    ∃ dir, a.find? area.tag = some dir ∧ path = Path.norm (Path.joinAll
      [dir, v ++ "/" ++ String.ofList (Path.join (names.map String.toList))]) := by
  have hchars : (area.uri v names).toList = area.tag.toList ++ ':' ::
      (v ++ "/" ++ String.ofList (Path.join (names.map String.toList))).toList := by
    simp [Area.uri]
  have hcolon : ':' ∉ area.tag.toList ∧ '/' ∉ area.tag.toList := by cases area <;> decide
  simp only [resolve, hchars, Path.cutColon_append hcolon.1, if_neg hcolon.2, String.ofList_toList]
  cases a.find? area.tag with
  | none => simp
  | some dir => simp [eq_comm]

/-- **Names behind some text lead below one place**, or nowhere if that place is not in the tree. -/
lemma exists_top_uri (a : Assigns) (area : Area) (v : String) :
    (∀ names, OrdinaryNames names → ∀ loc, ¬ a.Leads (area.uri v names) loc) ∨
      ∃ top : Location, ∀ names, OrdinaryNames names → ∀ loc,
        a.Leads (area.uri v names) loc ↔ loc = top ++ names := by
  cases hdir : a.find? area.tag with
  | none =>
    refine Or.inl ?_
    rintro names - loc ⟨path, hpath, -⟩
    obtain ⟨dir, hdir', -⟩ := resolve_uri_eq_ok_iff.mp hpath
    cases hdir.symm.trans hdir'
  | some dir =>
    obtain ⟨top, htidy, htop⟩ := Path.exists_top_through dir v
    have hleads : ∀ names, OrdinaryNames names → ∀ loc, a.Leads (area.uri v names) loc ↔
        Path.dotDot ∉ top ∧ loc = top.map String.ofList ++ names := by
      rintro names ⟨hne, hnames⟩ loc
      have hordinary := Path.ordinary_of_mem_map hnames
      have hparent : Path.dotDot ∈ top ++ names.map String.toList ↔ Path.dotDot ∈ top := by
        rw [List.mem_append, or_iff_left]
        exact fun hmem => absurd rfl (hordinary _ hmem).ne_dotDot
      have hmap : (top ++ names.map String.toList).map String.ofList =
          top.map String.ofList ++ names := by simp [Function.comp_def, String.ofList_toList]
      simp only [Leads, resolve_uri_eq_ok_iff, hdir, Option.some.injEq, exists_eq_left',
        exists_eq_left, htop _ hordinary (by simpa using hne), Depot.locate_join
          (htidy.append fun r hr => (hordinary r hr).toPlain) (by simp [hne]), hparent, hmap]
      by_cases hmem : Path.dotDot ∈ top
      · simp [hmem]
      · simp [hmem, eq_comm]
    by_cases hparent : Path.dotDot ∈ top
    · exact Or.inl fun names hnames loc h => ((hleads names hnames loc).mp h).1 hparent
    · refine Or.inr ⟨top.map String.ofList, fun names hnames loc => ?_⟩
      rw [hleads names hnames, and_iff_right hparent]

end Assigns

/-- A location text whose names lie in the directory that it leads to. -/
def Anchored (dir : String) : Prop :=
  ∀ (a : Assigns) (name : String) (loc : Location), Path.Ordinary name.toList →
    a.Leads (dir ++ "/" ++ name) loc → ∃ l, a.Leads dir l ∧ loc = l ++ [name]

/-- **Directories with ordinary names are anchored**, whatever stands in front. -/
lemma Area.anchored_uri (area : Area) (v : String) {last : String}
    (hlast : Path.Ordinary last.toList) : Anchored (area.uri v [last]) := by
  intro a name loc hname hleads
  have huri : area.uri v [last] ++ "/" ++ name = area.uri v [last, name] := by
    rw [← String.toList_inj]
    simp [Area.uri, Path.join]
  rw [huri] at hleads
  have hone : OrdinaryNames [last] := ⟨by simp, by simpa using hlast⟩
  have htwo : OrdinaryNames [last, name] := ⟨by simp, by simpa using ⟨hlast, hname⟩⟩
  rcases a.exists_top_uri area v with h | ⟨top, htop⟩
  · exact absurd hleads (h _ htwo loc)
  · refine ⟨top ++ [last], (htop _ hone _).mpr rfl, ?_⟩
    rw [(htop _ htwo loc).mp hleads]
    simp

/-- **Writing a file with an ordinary name in a directory of a zone** keeps to the zone. -/
lemma Anchored.writeAll_keeps {z : Zone} {dir name uri : String} (hdir : Anchored dir)
    (hmem : dir ∈ z.renewed ∨ dir ∈ z.scratch) (hname : Path.Ordinary name.toList)
    (huri : uri = dir ++ "/" ++ name) (data : Bytes) :
    Job.Steps (Depot.Keeps z) (Job.writeAll uri data) := by
  refine Job.writeAll_keeps (fun a loc hleads => ?_) data
  rw [huri] at hleads
  obtain ⟨l, hl, rfl⟩ := hdir a name loc hname hleads
  exact .inside hmem hl (List.prefix_append l [name]) (by simp)

/-! ## Locations of assets -/

namespace Path

variable {cs : List Char} {ps : List Part}

/-- The last element of a path is a separator, or has none and consists of what the path has. -/
lemma baseChars_cases (cs : List Char) :
    baseChars cs = ['/'] ∨ '/' ∉ baseChars cs ∧ ∀ c ∈ baseChars cs, c ∈ cs ∨ c = '.' := by
  unfold baseChars
  simp only
  split_ifs with hnil htrimmed
  · exact Or.inr ⟨by decide, fun c hc => Or.inr (by simpa [dot] using hc)⟩
  · exact Or.inl rfl
  · refine Or.inr ⟨fun hmem => ?_, fun c hc => Or.inl ?_⟩
    · have h := List.mem_takeWhile_imp (List.mem_reverse.mp hmem)
      simp at h
    · have h := (List.takeWhile_subset _) (List.mem_reverse.mp hc)
      rw [List.reverse_reverse] at h
      exact (List.dropWhile_suffix _).subset h |> List.mem_reverse.mp

/-- The last of clean elements is the last element of their spelling. -/
lemma baseChars_join {p : Part} (hne : p ≠ []) (hp : '/' ∉ p) {lead : List Char}
    (hlead : lead = [] ∨ ∃ es, lead = es ++ ['/']) (ps : List Part) :
    baseChars (lead ++ join (ps ++ [p])) = p := by
  by_cases hps : ps = []
  · subst hps
    rcases hlead with rfl | ⟨es, rfl⟩
    · exact baseChars_of_noSlash hne hp
    · have happend : es ++ ['/'] ++ join ([] ++ [p]) = es ++ '/' :: p := by simp [join]
      rw [happend, baseChars_append es hne hp]
  · have happend : lead ++ join (ps ++ [p]) = (lead ++ join ps) ++ '/' :: p := by
      rw [join_append hps (by simp)]
      simp [join]
    rw [happend, baseChars_append _ hne hp]

/-- An extension has no separator, and consists of what the path has. -/
lemma of_mem_extChars {c : Char} (h : c ∈ extChars cs) : c ≠ '/' ∧ (c ∈ cs ∨ c = '.') := by
  unfold extChars at h
  simp only at h
  split_ifs at h
  · rcases List.mem_cons.mp h with rfl | h
    · exact ⟨by decide, Or.inr rfl⟩
    · have hafter := List.mem_reverse.mp
        ((List.takeWhile_subset _) (List.mem_reverse.mp h))
      have hrev := List.mem_reverse.mp hafter
      exact ⟨by simpa using List.mem_takeWhile_imp hrev,
        Or.inl (List.mem_reverse.mp ((List.takeWhile_subset _) hrev))⟩
  · cases h

/-- **The directory of a path** is named by an ordinary element, or leaves the tree. -/
lemma baseChars_dirChars (hback : '\\' ∉ cs) (hdot : dirChars cs ≠ dot)
    (hroot : dirChars cs ≠ ['/']) :
    baseChars (dirChars cs) = dotDot ∨ Ordinary (baseChars (dirChars cs)) := by
  have hupto : uptoSlash cs ⊆ cs := fun c hc =>
    List.mem_reverse.mp ((List.dropWhile_suffix _).subset (List.mem_reverse.mp hc))
  have htidy := tidy_cleanParts (uptoSlash cs)
  have hmem : ∀ p ∈ cleanParts (uptoSlash cs), '\\' ∉ p := fun p hp hmem =>
    hback (hupto (subset_of_mem_split (mem_split_of_mem_cleanParts hp) hmem))
  obtain ⟨lead, hlead, hdir⟩ : ∃ lead, (lead = [] ∨ ∃ es, lead = es ++ ['/']) ∧
      (cleanParts (uptoSlash cs) ≠ [] →
        dirChars cs = lead ++ join (cleanParts (uptoSlash cs))) := by
    cases hrooted : isRooted (uptoSlash cs) with
    | true => exact ⟨['/'], Or.inr ⟨[], rfl⟩, fun _ => by simp [dirChars, cleanChars, hrooted]⟩
    | false =>
      refine ⟨[], Or.inl rfl, fun hne => ?_⟩
      rw [dirChars, cleanChars_of_not_rooted hrooted, text_of_ne_nil hne, List.nil_append]
  rcases List.eq_nil_or_concat (cleanParts (uptoSlash cs)) with hnil | ⟨qs, p, hps⟩
  · simp only [dirChars, cleanChars, hnil, join] at hdot hroot
    split_ifs at hdot hroot
    · exact absurd rfl hroot
    · exact absurd rfl hdot
  · rw [List.concat_eq_append] at hps
    have hp : p ∈ cleanParts (uptoSlash cs) := by simp [hps]
    obtain ⟨hne, -, hslash⟩ := htidy.of_mem hp
    rw [hdir (by simp [hps]), hps, baseChars_join hne hslash hlead]
    exact (htidy.dotDot_or_plain hp).imp_right fun h => ⟨h, hmem p hp⟩

end Path

namespace AssetId

/-- **The category of a path** is missing, leaves the tree, or is an ordinary name. -/
lemma category_ofPath (path : String) : (ofPath path).category.toList = [] ∨
    (ofPath path).category.toList = Path.dotDot ∨ Path.Ordinary (ofPath path).category.toList := by
  obtain ⟨cs, hback, hcategory⟩ : ∃ cs, '\\' ∉ cs ∧ (ofPath path).category.toList =
      if Path.dirChars cs = Path.dot ∨ Path.dirChars cs = ['/'] then []
      else Path.baseChars (Path.dirChars cs) :=
    ⟨_, Path.noBackslash_slashed _, String.toList_ofList⟩
  rw [hcategory]
  split_ifs with hdir
  · exact Or.inl rfl
  · obtain ⟨hdot, hroot⟩ := not_or.mp hdir
    exact Or.inr (Path.baseChars_dirChars hback hdot hroot)

/-- **Locations of the asset of a path** have an ordinary name behind the category, whatever the
path is. -/
lemma exists_located_ofPath (path : String) : ∃ v name : String,
    (v.toList = (ofPath path).category.toList ∨
      v.toList = (ofPath path).category.toList ++ ['/']) ∧
    ('/' ∉ name.toList ∧ '\\' ∉ name.toList) ∧ ∀ (area : Area) (ending : String),
      (ofPath path).located area ending = area.uri v [name ++ ending] := by
  obtain ⟨cs, hback, hname⟩ : ∃ cs, '\\' ∉ cs ∧ (ofPath path).name =
      String.ofList (Path.dropEnding (Path.baseChars cs) (Path.extChars (Path.baseChars cs))) :=
    ⟨_, Path.noBackslash_slashed _, rfl⟩
  rcases Path.baseChars_cases cs with hfile | ⟨hslash, hchars⟩
  · -- the name is a separator: it joins the text in front
    refine ⟨(ofPath path).category ++ "/", "", Or.inr (by simp), by decide, fun area ending => ?_⟩
    have hslash : Path.dropEnding ['/'] (Path.extChars ['/']) = ['/'] := by decide
    rw [hfile, hslash] at hname
    rw [← String.toList_inj]
    simp [located, Area.uri, Path.join, hname]
  · have hsub : Path.dropEnding (Path.baseChars cs) (Path.extChars (Path.baseChars cs)) ⊆
        Path.baseChars cs := by
      unfold Path.dropEnding
      split_ifs
      · exact List.take_subset _ _
      · exact List.Subset.refl _
    refine ⟨(ofPath path).category, (ofPath path).name, Or.inl rfl, ?_, fun area ending => ?_⟩
    · rw [hname, String.toList_ofList]
      refine ⟨fun hmem => hslash (hsub hmem), fun hmem => ?_⟩
      rcases hchars _ (hsub hmem) with hmem | heq
      · exact hback hmem
      · cases heq
    · rw [← String.toList_inj]
      simp [located, Area.uri, Path.join]

/-- The extension of the asset of a path has no separators. -/
lemma noSeparator_ext_ofPath (path : String) :
    '/' ∉ (ofPath path).ext.toList ∧ '\\' ∉ (ofPath path).ext.toList := by
  obtain ⟨cs, hback, hext⟩ : ∃ cs, '\\' ∉ cs ∧
      (ofPath path).ext = String.ofList ((Path.extChars (Path.baseChars cs)).drop 1) :=
    ⟨_, Path.noBackslash_slashed _, rfl⟩
  have hmem : ∀ c ∈ (ofPath path).ext.toList, c ≠ '/' ∧ (c ∈ Path.baseChars cs ∨ c = '.') := by
    intro c hc
    rw [hext, String.toList_ofList] at hc
    exact Path.of_mem_extChars (List.drop_subset _ _ hc)
  refine ⟨fun h => (hmem _ h).1 rfl, fun h => ?_⟩
  rcases (hmem _ h).2 with h | h
  · rcases Path.baseChars_cases cs with hfile | ⟨-, hchars⟩
    · rw [hfile] at h
      simp at h
    · rcases hchars _ h with h | h
      · exact hback h
      · cases h
  · cases h

end AssetId

/-! ## Project roots -/

namespace Assigns

open SceneForge.Path (Tidy Ordinary cleanParts dotDot join)

/-- The path of names behind some text, below tidy elements. -/
lemma resolve_uri_of_tidy {a : Assigns} {area : Area} {v : String} {names : List String}
    {ds : List Path.Part} (hnames : OrdinaryNames names)
    (hdir : a.find? area.tag = some (String.ofList (join ds))) (hds : Tidy ds)
    (hback : ∀ p ∈ ds, '\\' ∉ p) (hne : ds ≠ []) (hv : '\\' ∉ v.toList) :
    a.resolve (area.uri v names) = .ok (String.ofList
      (join (cleanParts (join ds ++ '/' :: v.toList ++ ['/']) ++ names.map String.toList))) := by
  have hrs := Path.ordinary_of_mem_map hnames.2
  have hrs' : names.map String.toList ≠ [] := by simpa using hnames.1
  have htext : v ++ "/" ++ String.ofList (join (names.map String.toList)) =
      String.ofList (v.toList ++ '/' :: join (names.map String.toList)) := by
    rw [← String.toList_inj]
    simp
  refine resolve_uri_eq_ok_iff.mpr ⟨_, hdir, ?_⟩
  rw [htext, Path.norm_joinAll_through hds hback hne hv hrs hrs']

/-- Where names behind some text lead, below tidy elements. -/
lemma Leads.of_tidy {a : Assigns} {area : Area} {v : String} {names : List String} {loc : Location}
    {ds : List Path.Part} (h : a.Leads (area.uri v names) loc) (hnames : OrdinaryNames names)
    (hdir : a.find? area.tag = some (String.ofList (join ds))) (hds : Tidy ds)
    (hback : ∀ p ∈ ds, '\\' ∉ p) (hne : ds ≠ []) (hv : '\\' ∉ v.toList) :
    loc = (cleanParts (join ds ++ '/' :: v.toList ++ ['/'])).map String.ofList ++ names := by
  obtain ⟨path, hpath, hloc⟩ := h
  rw [resolve_uri_of_tidy hnames hdir hds hback hne hv, Except.ok.injEq] at hpath
  have hrs := Path.ordinary_of_mem_map hnames.2
  rw [← hpath, Depot.locate_join ((Path.tidy_cleanParts _).append fun r hr => (hrs r hr).toPlain)
    (by simp [hnames.1])] at hloc
  split_ifs at hloc
  rw [← Option.some.inj hloc]
  simp [Function.comp_def, String.ofList_toList]

/-- **The directories of a project root** are spelled by tidy elements, and those of their areas. -/
lemma exists_find?_below (root : String) : ∃ top : List Path.Part, ∀ area : Area,
    (below root).find? area.tag =
      some (String.ofList (join (top ++ area.place.map String.toList))) ∧
    Tidy (top ++ area.place.map String.toList) ∧
    (∀ p ∈ top ++ area.place.map String.toList, '\\' ∉ p) := by
  obtain ⟨top, htidy, hback, htop⟩ := Path.exists_top root
  refine ⟨top, fun area => ?_⟩
  have hplace : area.place ≠ [] := by cases area <;> simp [Area.place]
  have hnames : ∀ n ∈ area.place, Ordinary n.toList := fun n hn => ordinary_of_mem_place hn
  have hordinary := Path.ordinary_of_mem_map hnames
  refine ⟨by rw [find?_below, htop _ hnames hplace], ?_, ?_⟩
  · exact htidy.append fun p hp => (hordinary p hp).toPlain
  · exact List.forall_mem_append.mpr ⟨hback, fun p hp => (hordinary p hp).noBackslash⟩

/-- **Where locations lead below a project root**: sources to one directory, and names behind a text
that goes up at most one directory to where the directory of their area is.

**Proof sketch.** The directories of the areas are the elements of the root followed by the place of
the area (`exists_find?_below`). Sources have nothing behind that. A text with at most one parent
removes at most the last element of the place, and an ordinary name removes nothing
(`prefix_cleanParts`). -/
lemma exists_root (root : String) : ∃ top : Location,
    (∀ src, (below root).Leads "src:" src → src = top ++ Area.source.place) ∧
    ∀ (area : Area) (v : String) (names : List String) (loc : Location), OrdinaryNames names →
      (below root).Leads (area.uri v names) loc →
        (Path.Shallow v.toList → top ++ area.place.dropLast <+: loc) ∧
        (Ordinary v.toList → top ++ area.place <+: loc) := by
  obtain ⟨top, htop⟩ := exists_find?_below root
  have hplace : ∀ area : Area, area.place ≠ [] := fun area => by cases area <;> simp [Area.place]
  have hfind := fun area => (htop area).1
  have hds := fun area => (htop area).2.1
  have hds' := fun area => (htop area).2.2
  have hne : ∀ area : Area, top ++ area.place.map String.toList ≠ [] := fun area => by
    simp [hplace area]
  have hmap : ∀ names : List String, (top ++ names.map String.toList).map String.ofList =
      top.map String.ofList ++ names := fun names => by
    simp [Function.comp_def, String.ofList_toList]
  refine ⟨top.map String.ofList, ?_, fun area v names loc hnames h => ⟨fun hv => ?_, fun hv => ?_⟩⟩
  · rintro src ⟨path, hpath, hloc⟩
    have hcut : Path.cutColon "src:".toList = some (Area.source.tag.toList, []) := by decide
    have hslash : '/' ∉ Area.source.tag.toList := by decide
    simp only [resolve, hcut, if_neg hslash, String.ofList_toList, hfind] at hpath
    rw [Path.norm_joinAll_nil (hds _) (hds' _) (hne _)] at hpath
    rw [← Except.ok.inj hpath, Depot.locate_join (hds _) (hne _)] at hloc
    split_ifs at hloc
    rw [← Option.some.inj hloc, hmap]
  · have hlast : top ++ area.place.map String.toList =
        (top ++ area.place.dropLast.map String.toList) ++
          [(area.place.getLast (hplace area)).toList] := by
      conv_lhs => rw [← List.dropLast_concat_getLast (hplace area)]
      simp
    have hbelow := hv.prefix_cleanParts (hlast ▸ hds area)
      (ordinary_of_mem_place (List.getLast_mem (hplace area))).ne_dotDot
    rw [h.of_tidy hnames (hfind area) (hds area) (hds' area) (hne area) hv.noBackslash, ← hmap,
      hlast]
    exact (hbelow.map _).trans (List.prefix_append _ _)
  · rw [h.of_tidy hnames (hfind area) (hds area) (hds' area) (hne area) hv.noBackslash, ← hmap]
    exact ((hv.prefix_cleanParts (hds area) (hne area)).map _).trans (List.prefix_append _ _)

end Assigns

end SceneForge
