import SceneForge.Proofs.Depot.Listing
import SceneForge.Proofs.Depot.Reach

set_option autoImplicit false

/-!
# Listed files and exported files

A batch lists the files of a category and exports them by their paths. The export does not open the
path it is given: it takes the path apart into category, name and extension, and puts the location
of the source together from these. Both lead to the same file if the category is one directory and
the name has a dot. Otherwise they do not: of a nested category only the last directory is kept, and
a name without an extension gets a dot. A backslash in a name counts as a separator, so that not
even the listed path leads to the file.

## Main definitions

* `SceneForge.Tree.Named` — names are not those of a directory itself or of its parent.
* `SceneForge.AssetId.respelled` — a file name that was taken apart and put together.

## Main results

* `SceneForge.Batch.source_of_listed` — when the source of an export is the file that was listed.
-/

namespace SceneForge

/-! ## Locations of sources -/

namespace Assigns

open SceneForge.Path (dotDot reach)

variable {a : Assigns} {dir : String}

/-- The area of a source is what stands in front of the colon. -/
lemma cutColon_src (v : String) :
    Path.cutColon ("src:" ++ v).toList = some ("src".toList, v.toList) :=
  cutColon_tagged Area.source.isTag v

/-- Two texts in the area of sources have the same path if they lead to the same elements. -/
lemma resolve_src_inj (hdir : a.find? "src" = some dir) (v w : String) :
    a.resolve ("src:" ++ v) = a.resolve ("src:" ++ w) ↔ reach dir v = reach dir w :=
  resolve_tagged_inj Area.source.isTag hdir v w

/-- Where a text in the area of sources leads. -/
lemma leads_src_iff (hdir : a.find? "src" = some dir) (v : String) (loc : Location) :
    a.Leads ("src:" ++ v) loc ↔
      dotDot ∉ reach dir v ∧ loc = (reach dir v).map String.ofList :=
  leads_tagged_iff Area.source.isTag hdir v loc

/-- The area of sources is assigned if something in it leads anywhere. -/
lemma exists_dir_of_leads_src {v : String} {loc : Location} (h : a.Leads ("src:" ++ v) loc) :
    ∃ dir, a.find? "src" = some dir :=
  exists_dir_of_leads Area.source.isTag h

/-- No name that a text in the area of sources leads to has a backslash. -/
lemma noBackslash_of_leads {v : String} {loc : Location} (h : a.Leads ("src:" ++ v) loc) :
    ∀ n ∈ loc, '\\' ∉ n.toList := by
  obtain ⟨dir, hdir⟩ := exists_dir_of_leads_src h
  obtain ⟨-, rfl⟩ := (leads_src_iff hdir v loc).mp h
  intro n hn
  obtain ⟨p, hp, rfl⟩ := List.mem_map.mp hn
  rw [String.toList_ofList]
  exact Path.noBackslash_reach hp

end Assigns

/-! ## Paths taken apart and put together -/

namespace AssetId

/-- A file name that was taken apart and put together: without a dot, it gets one. -/
def respelled (n : String) : String := if '.' ∈ n.toList then n else n ++ "."

/-- A name is spelled as it was exactly if it has a dot. -/
lemma respelled_eq_self_iff (n : String) : respelled n = n ↔ '.' ∈ n.toList := by
  unfold respelled
  split_ifs with h
  · simp [h]
  · refine ⟨fun heq => ?_, fun hdot => absurd hdot h⟩
    have hchars := congrArg (fun s => s.toList.length) heq
    simp at hchars

/-- A name that was put together is ordinary if it was so before. -/
lemma ordinary_respelled {n : String} (hn : Path.Ordinary n.toList) :
    Path.Ordinary (respelled n).toList := by
  unfold respelled
  split_ifs
  · exact hn
  · rw [String.toList_append]
    exact hn.append (by decide)

/-- The name of a file without its extension, a dot and the extension. -/
lemma dropEnding_extChars {n : List Char} (hn : '/' ∉ n) :
    Path.dropEnding n (Path.extChars n) ++ '.' :: (Path.extChars n).drop 1 =
      if '.' ∈ n then n else n ++ ['.'] := by
  by_cases hdot : '.' ∈ n
  · -- the extension starts at the last dot
    obtain ⟨bs, as, hsplit, hlast⟩ := List.eq_append_cons_of_mem (List.mem_reverse.mpr hdot)
    have hn' : n = as.reverse ++ '.' :: bs.reverse := by
      rw [← List.reverse_reverse n, hsplit]
      simp
    have hext : Path.extChars n = '.' :: bs.reverse :=
      Path.extChars_of_afterSlash ((Path.afterSlash_of_noSlash hn).trans hn') (by simpa using hlast)
    rw [if_pos hdot, hext, List.drop_one, List.tail_cons]
    conv_lhs => rw [hn', Path.dropEnding_append]
    exact hn'.symm
  · have hext : Path.extChars n = [] := by
      simp [Path.extChars, Path.afterSlash_of_noSlash hn, hdot]
    simp [hext, hdot, Path.dropEnding]

/-- What stands behind the colon of a listed path, with slashes only. -/
lemma slashed_listed (category : String) {n : String} (hn : Path.Ordinary n.toList) :
    Path.slashed (category ++ "/" ++ n).toList =
      Path.slashed category.toList ++ '/' :: n.toList := by
  have hback := Path.slashed_eq_self hn.noBackslash
  rw [String.toList_append, String.toList_append, Path.slashed_append, Path.slashed_append, hback]
  simp [Path.slashed]

/-- **The source of a listed path**: the category is taken from the path, the name is spelled anew.
-/
lemma source_ofPath_listed (category : String) {n : String} (hn : Path.Ordinary n.toList) :
    (ofPath ("src:" ++ (category ++ "/" ++ n))).source =
      "src:" ++ ((ofPath ("src:" ++ (category ++ "/" ++ n))).category ++ "/" ++ respelled n) := by
  have hfile : Path.baseChars (Path.slashed (category ++ "/" ++ n).toList) = n.toList := by
    rw [slashed_listed category hn, Path.baseChars_append _ hn.ne_nil hn.noSlash]
  have hname : (ofPath ("src:" ++ (category ++ "/" ++ n))).name =
      String.ofList (Path.dropEnding n.toList (Path.extChars n.toList)) := by
    simp only [ofPath, Assigns.cutColon_src, hfile]
  have hext : (ofPath ("src:" ++ (category ++ "/" ++ n))).ext =
      String.ofList ((Path.extChars n.toList).drop 1) := by
    simp only [ofPath, Assigns.cutColon_src, hfile]
  have hrespelled := dropEnding_extChars hn.noSlash
  rw [source, located, hname, hext, ← String.toList_inj]
  unfold respelled
  split_ifs with hdot
  · simpa [hdot, Area.tag] using hrespelled
  · simpa [hdot, Area.tag] using hrespelled

/-- The category of a listed path is the last of the directories.

**Proof sketch.** Listed elements are ordinary, so that the path has the directories as its
directory part. Without directories that is the top directory, which is no category; otherwise it is
cleaned already, and its base is the last element. -/
lemma category_ofPath_listed {es : List String} (hes : ∀ e ∈ es, Path.Ordinary e.toList) {n : String}
    (hn : Path.Ordinary n.toList) :
    (ofPath ("src:" ++ (String.ofList (Path.join (es.map String.toList)) ++ "/" ++ n))).category =
      es.getLast?.getD "" := by
  have hes' := Path.ordinary_of_mem_map hes
  have hback : Path.slashed (Path.join (es.map String.toList)) = Path.join (es.map String.toList) :=
    Path.slashed_eq_self (Path.noBackslash_join fun p hp => (hes' p hp).noBackslash)
  simp only [ofPath, Assigns.cutColon_src, slashed_listed _ hn, String.toList_ofList, hback]
  rcases List.eq_nil_or_concat es with rfl | ⟨front, last, rfl⟩
  · have hdir : Path.dirChars ('/' :: n.toList) = ['/'] := by
      rw [Path.dirChars]
      have hupto := Path.uptoSlash_append [] hn.noSlash
      rw [List.nil_append] at hupto
      rw [hupto]
      decide
    simp [Path.join, hdir]
  · rw [List.concat_eq_append] at hes' ⊢
    have hplain : ∀ p ∈ (front ++ [last]).map String.toList, Path.Plain p :=
      fun p hp => (hes' p hp).toPlain
    have htidy := Path.tidy_of_plain hplain
    have hne : (front ++ [last]).map String.toList ≠ [] := by simp
    have hdir : Path.dirChars (Path.join ((front ++ [last]).map String.toList) ++ '/' :: n.toList) =
        Path.join ((front ++ [last]).map String.toList) := by
      have hjoin := Path.dirChars_join htidy hn.noSlash
      rwa [Path.join_append hne (by simp), Path.text_of_ne_nil hne] at hjoin
    have hplace : ¬ (Path.join ((front ++ [last]).map String.toList) = Path.dot ∨
        Path.join ((front ++ [last]).map String.toList) = ['/']) := by
      have hclean := Path.cleanParts_join htidy hne
      rintro (h | h) <;> rw [h] at hclean <;> exact hne hclean.symm
    have hlast : Path.baseChars (Path.join ((front ++ [last]).map String.toList)) = last.toList := by
      have hordinary := hes' last.toList (by simp)
      simpa using Path.baseChars_join hordinary.ne_nil hordinary.noSlash (Or.inl rfl)
        (front.map String.toList)
    rw [hdir, if_neg hplace, hlast]
    simp

end AssetId

/-! ## Listed and exported -/

/-- No name in a tree is that of a directory itself or of its parent. -/
def Tree.Named (t : Tree) : Prop := ∀ x ∈ t.entries, ∀ n ∈ x.1, n ≠ "." ∧ n ≠ ".."

/-- Whether names are names can be found out. -/
instance Tree.decidableNamed (t : Tree) : Decidable t.Named :=
  inferInstanceAs (Decidable (∀ x ∈ t.entries, ∀ n ∈ x.1, n ≠ "." ∧ n ≠ ".."))

/-- A name in a tree that has no backslash is ordinary. -/
lemma Tree.ordinary_of_find? {t : Tree} (hsound : t.Sound) (hnamed : t.Named) {loc : Location}
    {n : String} {e : Entry} (h : t.find? (loc ++ [n]) = some e) (hback : '\\' ∉ n.toList) :
    Path.Ordinary n.toList := by
  have hmem := (hsound.find?_eq_some_iff (by simp)).mp h
  obtain ⟨hne, hslash⟩ := hsound.names _ hmem n (by simp)
  obtain ⟨hdot, hup⟩ := hnamed _ hmem n (by simp)
  have hspelled : ∀ text : String, n ≠ text → n.toList ≠ text.toList :=
    fun text h heq => h (String.toList_inj.mp heq)
  exact ⟨⟨hne, hspelled "." hdot, hspelled ".." hup, hslash⟩, hback⟩

/-- The path that a file of a category is listed by. -/
def Batch.listing (category n : String) : String := "src:" ++ category ++ "/" ++ n

/-- A listed path is a text in the area of sources. -/
lemma Batch.listing_eq (category n : String) :
    Batch.listing category n = "src:" ++ (category ++ "/" ++ n) := by
  simp only [Batch.listing, String.append_assoc]

namespace Assigns

variable {a : Assigns} {dir category n : String} {loc : Location}

/-- What a name behind a category leads to. -/
lemma reach_listed (dir category : String) (hn : Path.Ordinary n.toList) :
    Path.reach dir (category ++ "/" ++ n) = Path.reach dir category ++ [n.toList] := by
  have h := Path.reach_below dir category (List.forall_mem_singleton.mpr hn) (by simp)
  simpa [Path.join] using h

/-- Texts in the area of sources have the same path if they lead to the same place. -/
lemma resolve_eq_of_leads {v w : String} (hv : a.Leads ("src:" ++ v) loc)
    (hw : a.Leads ("src:" ++ w) loc) : a.resolve ("src:" ++ v) = a.resolve ("src:" ++ w) := by
  obtain ⟨dir, hdir⟩ := exists_dir_of_leads_src hv
  obtain ⟨-, hloc⟩ := (leads_src_iff hdir v loc).mp hv
  obtain ⟨-, hloc'⟩ := (leads_src_iff hdir w loc).mp hw
  rw [resolve_src_inj hdir]
  exact List.map_injective_iff.mpr (fun p q => String.ofList_inj.mp) (hloc.symm.trans hloc')

/-- A listed path leads to the file that was listed. -/
lemma leads_listing (hloc : a.Leads ("src:" ++ category) loc) (hn : Path.Ordinary n.toList) :
    a.Leads (Batch.listing category n) (loc ++ [n]) := by
  obtain ⟨dir, hdir⟩ := exists_dir_of_leads_src hloc
  obtain ⟨hup, rfl⟩ := (leads_src_iff hdir category loc).mp hloc
  rw [Batch.listing_eq, leads_src_iff hdir, reach_listed dir category hn]
  have hne : Path.dotDot ≠ n.toList := fun h => hn.ne_dotDot h.symm
  simp [hup, hne]

/-- **The source of a listed path has the path itself** exactly if the name has a dot and the
category of the path leads where the directory does. -/
lemma resolve_source_eq_iff (hloc : a.Leads ("src:" ++ category) loc) (hn : Path.Ordinary n.toList) :
    a.resolve (AssetId.ofPath (Batch.listing category n)).source =
        a.resolve (Batch.listing category n) ↔
      '.' ∈ n.toList ∧ a.resolve ("src:" ++ (AssetId.ofPath (Batch.listing category n)).category) =
        a.resolve ("src:" ++ category) := by
  obtain ⟨dir, hdir⟩ := exists_dir_of_leads_src hloc
  rw [Batch.listing_eq, AssetId.source_ofPath_listed category hn, resolve_src_inj hdir,
    resolve_src_inj hdir, reach_listed dir _ (AssetId.ordinary_respelled hn),
    reach_listed dir category hn]
  constructor
  · intro h
    obtain ⟨hplace, hname⟩ := List.append_inj' h rfl
    simp only [List.cons.injEq, and_true, String.toList_inj, AssetId.respelled_eq_self_iff] at hname
    exact ⟨hname, hplace⟩
  · rintro ⟨hdot, hplace⟩
    rw [hplace, (AssetId.respelled_eq_self_iff n).mpr hdot]

/-- The source of a listed path leads to the file that was listed exactly if it has the path itself.
-/
lemma leads_source_iff (hloc : a.Leads ("src:" ++ category) loc) (hn : Path.Ordinary n.toList) :
    a.Leads (AssetId.ofPath (Batch.listing category n)).source (loc ++ [n]) ↔
      a.resolve (AssetId.ofPath (Batch.listing category n)).source =
        a.resolve (Batch.listing category n) := by
  have hlisted := leads_listing hloc hn
  constructor
  · intro h
    rw [Batch.listing_eq] at h hlisted ⊢
    rw [AssetId.source_ofPath_listed category hn] at h ⊢
    exact resolve_eq_of_leads h hlisted
  · intro h
    rwa [Leads, h]

/-- The category of a listed path leads where the directory does only if it is not nested. -/
lemma resolve_category_eq_iff (hloc : a.Leads ("src:" ++ category) loc) {es : List String}
    (hes : ∀ e ∈ es, Path.Ordinary e.toList)
    (hcategory : category = String.ofList (Path.join (es.map String.toList)))
    (hn : Path.Ordinary n.toList) :
    a.resolve ("src:" ++ (AssetId.ofPath (Batch.listing category n)).category) =
      a.resolve ("src:" ++ category) ↔ es.length ≤ 1 := by
  obtain ⟨dir, hdir⟩ := exists_dir_of_leads_src hloc
  have hreach : ∀ es : List String, (∀ e ∈ es, Path.Ordinary e.toList) →
      Path.reach dir (String.ofList (Path.join (es.map String.toList))) =
        Path.reach dir "" ++ es.map String.toList := by
    intro es hes
    by_cases hne : es = []
    · simp [hne, Path.join]
    · exact Path.reach_join dir (Path.ordinary_of_mem_map hes) (by simpa using hne)
  rw [Batch.listing_eq, hcategory, AssetId.category_ofPath_listed hes hn, resolve_src_inj hdir]
  rcases List.eq_nil_or_concat es with rfl | ⟨front, last, rfl⟩
  · simp [Path.join]
  · rw [List.concat_eq_append] at hes ⊢
    have hlast := hreach [last] (List.forall_mem_singleton.mpr (hes last (by simp)))
    simp only [List.map_cons, List.map_nil, Path.join, String.ofList_toList] at hlast
    rw [hreach _ hes, List.getLast?_append_cons, List.getLast?_singleton, Option.getD_some, hlast,
      List.append_cancel_left_eq, List.map_append, List.map_cons, List.map_nil, List.length_append,
      List.length_singleton]
    refine ⟨fun h => ?_, fun h => ?_⟩
    · have hlength := congrArg List.length h
      simp only [List.length_singleton, List.length_append, List.length_map] at hlength
      omega
    · have hfront : front = [] := List.length_eq_zero_iff.mp (by omega)
      simp [hfront]

end Assigns

namespace Batch

/-- **When the source of an export is the file that was listed.** The paths that a category is
listed by are those of files `n` in the directory of the category. For each of them:

* the path leads to the file exactly if the name has no backslash;
* the source of the asset at the path is that file exactly if the name has no backslash but a dot,
  and the category of the asset leads to the directory that was listed;
* without a backslash, path and source have the same path in the depot exactly if the name has a dot
  and the category of the asset leads to the directory that was listed;
* of a category that is spelled by ordinary names, the category of the asset does so exactly if
  there is at most one name: a nested category is exported from another directory, if at all.

**Proof sketch.** Both locations are the name behind a directory, so they are compared element by
  element (`reach_below`). Taking a file name apart and putting it together changes it exactly if it
  has no dot, and of the directories in front of it the last one remains. -/
theorem source_of_listed (b : Batch) (category : String) (d d' : Depot) (paths : List String)
    (hsound : d.tree.Sound) (hnamed : d.tree.Named)
    (h : (b.sources category).run d = (.ok paths, d')) :
    ∃ (loc : Location) (names : List String), d.assigns.Leads ("src:" ++ category) loc ∧
      paths = names.map (listing category) ∧
      ∀ n ∈ names, (∃ data time, d.tree.find? (loc ++ [n]) = some (.file data time)) ∧
        (d.assigns.Leads (listing category n) (loc ++ [n]) ↔ '\\' ∉ n.toList) ∧
        (d.assigns.Leads (AssetId.ofPath (listing category n)).source (loc ++ [n]) ↔
          '\\' ∉ n.toList ∧ '.' ∈ n.toList ∧
            d.assigns.resolve ("src:" ++ (AssetId.ofPath (listing category n)).category) =
              d.assigns.resolve ("src:" ++ category)) ∧
        ('\\' ∉ n.toList → (d.assigns.resolve (AssetId.ofPath (listing category n)).source =
            d.assigns.resolve (listing category n) ↔ '.' ∈ n.toList ∧
              d.assigns.resolve ("src:" ++ (AssetId.ofPath (listing category n)).category) =
                d.assigns.resolve ("src:" ++ category))) ∧
        ∀ es : List String, (∀ e ∈ es, Path.Ordinary e.toList) →
          category = String.ofList (Path.join (es.map String.toList)) → '\\' ∉ n.toList →
          (d.assigns.resolve ("src:" ++ (AssetId.ofPath (listing category n)).category) =
            d.assigns.resolve ("src:" ++ category) ↔ es.length ≤ 1) := by
  obtain ⟨-, loc, names, hloc, hpaths, -, hnames⟩ := exists_names_of_sources hsound h
  refine ⟨loc, names, hloc, hpaths, fun n hn => ?_⟩
  obtain ⟨⟨data, time, hfile⟩, -⟩ := (hnames n).mp hn
  have hordinary : '\\' ∉ n.toList → Path.Ordinary n.toList :=
    Tree.ordinary_of_find? hsound hnamed hfile
  have hback : ∀ v, d.assigns.Leads ("src:" ++ v) (loc ++ [n]) → '\\' ∉ n.toList :=
    fun v hv => Assigns.noBackslash_of_leads hv n (by simp)
  have hsource : ∃ v, (AssetId.ofPath (listing category n)).source = "src:" ++ v :=
    ⟨_, by simp only [AssetId.source, AssetId.located, Area.tag, String.append_assoc]; rfl⟩
  refine ⟨⟨data, time, hfile⟩, ⟨fun hleads => ?_, fun hn => ?_⟩, ⟨fun hleads => ?_, fun hn => ?_⟩,
    fun hn => Assigns.resolve_source_eq_iff hloc (hordinary hn),
    fun es hes hcategory hn => Assigns.resolve_category_eq_iff hloc hes hcategory (hordinary hn)⟩
  · rw [listing_eq] at hleads
    exact hback _ hleads
  · exact Assigns.leads_listing hloc (hordinary hn)
  · obtain ⟨v, hv⟩ := hsource
    have hn : '\\' ∉ n.toList := hback v (hv ▸ hleads)
    have hsame := (Assigns.leads_source_iff hloc (hordinary hn)).mp hleads
    exact ⟨hn, (Assigns.resolve_source_eq_iff hloc (hordinary hn)).mp hsame⟩
  · have hsame := (Assigns.resolve_source_eq_iff hloc (hordinary hn.1)).mpr hn.2
    exact (Assigns.leads_source_iff hloc (hordinary hn.1)).mpr hsame

/-- A depot with a chair in a category of a category. -/
def attic : Depot where
  tree := ⟨[(["src"], .dir 1), (["src", "props"], .dir 1), (["src", "props", "sets"], .dir 1),
    (["src", "props", "sets", "chair.gltf"], .file (utf8 "{}") 1)]⟩
  assigns := ⟨[("src", "src")]⟩
  world := { clock := fun n => n, refuses := fun _ _ _ => false, scratch := fun _ => "scratch" }

/-- A batch that takes every file for a source. -/
def everything : Batch := { workshop := .standard {}, defaults := {}, patterns := ["*"] }

/-- The chair is listed. -/
lemma sources_attic :
    (everything.sources "props/sets").run attic = (.ok ["src:props/sets/chair.gltf"], attic) := by
  have hleads : attic.assigns.Leads "src:props/sets" ["src", "props", "sets"] :=
    ⟨"src/props/sets", by decide +kernel, by decide +kernel⟩
  have hdir : attic.tree.find? ["src", "props", "sets"] = some (.dir 1) := by decide +kernel
  have hmatches : Pattern.Matches "*" "chair.gltf" := by decide +kernel
  have hfiles : ((attic.tree.children ["src", "props", "sets"]).filter fun e => !e.2.isDir).map (·.1) =
      ["chair.gltf"] := by
    rw [Tree.children, Tree.byName, List.mergeSort_of_pairwise (by decide +kernel)]
    decide +kernel
  have hlist : (Job.listFiles "src:props/sets" "*").run attic = (.ok ["chair.gltf"], attic) := by
    rw [Job.listFiles_run rfl hleads hdir (by decide +kernel), hfiles]
    simp [hmatches]
  have hfound : (everything.effectivePatterns.mapM fun p =>
      Job.within "listing src:props/sets" (Job.listFiles "src:props/sets" p)).run attic =
        (.ok [["chair.gltf"]], attic) := by
    show (["*"].mapM fun p =>
      Job.within "listing src:props/sets" (Job.listFiles "src:props/sets" p)).run attic = _
    simp only [List.mapM_cons, List.mapM_nil,
      Job.run_bind_of_ok (Job.run_within_eq_ok_iff.mpr hlist), pure_bind]
    rfl
  have hnames : [["chair.gltf"]].flatten.eraseDups.mergeSort (fun a b => !decide (b < a)) =
      ["chair.gltf"] := by
    have hdups : [["chair.gltf"]].flatten.eraseDups = ["chair.gltf"] := by decide +kernel
    rw [hdups, List.mergeSort_of_pairwise (by decide +kernel)]
  refine (Job.run_bind_of_ok hfound _).trans (congrArg (fun names => (Except.ok names, attic)) ?_)
  simp only [hnames]
  decide +kernel

/-- The chair is listed in a nested category, and its path leads to it, but the source of its export
is another file. -/
theorem source_of_listed_attic : ∃ loc : Location,
    (everything.sources "props/sets").run attic = (.ok ["src:props/sets/chair.gltf"], attic) ∧
    attic.assigns.Leads "src:props/sets/chair.gltf" loc ∧ (attic.tree.find? loc).isSome ∧
    ¬ attic.assigns.Leads (AssetId.ofPath "src:props/sets/chair.gltf").source loc := by
  have hsound : attic.tree.Sound := ⟨by decide, by decide⟩
  obtain ⟨loc, names, -, hpaths, hnames⟩ := source_of_listed everything "props/sets" attic attic _
    hsound (by decide) sources_attic
  obtain ⟨n, rfl, hlisting⟩ := List.map_eq_singleton_iff.mp hpaths.symm
  obtain rfl : n = "chair.gltf" := by
    have hchars := congrArg String.toList hlisting
    simp only [listing, String.toList_append] at hchars
    exact String.toList_inj.mp (List.append_cancel_left hchars)
  obtain ⟨⟨data, time, hfile⟩, hpath, hsource, -, hnested⟩ :=
    hnames "chair.gltf" (List.mem_singleton.mpr rfl)
  have hdepth := hnested ["props", "sets"] (by decide) (by decide) (by decide)
  refine ⟨loc ++ ["chair.gltf"], sources_attic, hpath.mpr (by decide), by rw [hfile]; rfl, fun h => ?_⟩
  exact absurd (hdepth.mp (hsource.mp h).2.2) (by decide)

end Batch

end SceneForge
