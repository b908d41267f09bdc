import SceneForge.Proofs.Depot.Reach

set_option autoImplicit false

/-!
# Assets found again by their paths

A path is taken apart into category, name and extension by several rules: a tag is cut off,
backslashes are replaced, the directory is cleaned, and the last dot divides the file name. An asset
whose parts are single pieces is found again by all of them together, in the location text of its
source as well as at the end of any longer path, whatever the spelling of the separators is.

## Main definitions

* `SceneForge.Path.Respells` — two texts that differ in the spelling of separators only.
* `SceneForge.Path.untagged` — a path without its tag.
* `SceneForge.AssetId.Spelled` — assets whose parts are single pieces.

## Main results

* `SceneForge.AssetId.ofPath_of_untagged` — the asset of a path whose file name has a dot.
* `SceneForge.AssetId.ofPath_recovers` — assets are found again by their paths.
-/

namespace SceneForge

/-! ## Tags and separators -/

namespace Path

variable {p : Part} {cs ds : List Char}

/-- Two texts that differ in the spelling of separators only: each of them is a slash or a
backslash. -/
def Respells (s t : String) : Prop := slashed s.toList = slashed t.toList

/-- A path without the tag up to its first colon. -/
def untagged (cs : List Char) : List Char :=
  match cutColon cs with
  | some (_, rest) => rest
  | none => cs

/-- A colon stays where it is when separators are replaced. -/
lemma mem_slashed_colon : ':' ∈ slashed cs ↔ ':' ∈ cs := by
  unfold slashed
  rw [List.mem_map]
  refine ⟨fun ⟨c, hc, heq⟩ => ?_, fun h => ⟨':', h, by decide⟩⟩
  split_ifs at heq with hback
  · cases heq
  · rwa [← heq]

/-- Without a colon there is no tag. -/
lemma untagged_of_noColon (h : ':' ∉ cs) : untagged cs = cs := by
  rw [untagged, cutColon, if_neg h]

/-- What stands behind the first colon. -/
lemma untagged_append (h : ':' ∉ cs) (ds : List Char) : untagged (cs ++ ':' :: ds) = ds := by
  rw [untagged, cutColon_append h]

/-- Cutting off a tag and replacing separators can be done in any order. -/
lemma untagged_slashed (cs : List Char) : untagged (slashed cs) = slashed (untagged cs) := by
  by_cases hcolon : ':' ∈ cs
  · obtain ⟨as, bs, rfl, has⟩ := List.eq_append_cons_of_mem hcolon
    have hcut : slashed (as ++ ':' :: bs) = slashed as ++ ':' :: slashed bs := by
      rw [slashed_append]
      rfl
    rw [untagged_append has, hcut, untagged_append (mem_slashed_colon.not.mpr has)]
  · rw [untagged_of_noColon hcolon, untagged_of_noColon (mem_slashed_colon.not.mpr hcolon)]

/-- The category of a directory: its last element, if it has one. -/
def categoryOf (dir : List Char) : List Char :=
  if dir = dot ∨ dir = ['/'] then [] else baseChars dir

/-- A slash at the end does not change the shortest spelling. -/
lemma cleanChars_append_slash (hne : cs ≠ []) : cleanChars (cs ++ ['/']) = cleanChars cs := by
  rw [cleanChars, cleanChars, cleanParts_append_slash hne, isRooted_append hne]

/-- A single element other than the directory itself is the category of its own directory. -/
lemma categoryOf_element (hslash : '/' ∉ p) (hdot : p ≠ dot) :
    categoryOf (cleanChars (p ++ ['/'])) = p := by
  by_cases hnil : p = []
  · subst hnil
    decide
  by_cases hup : p = dotDot
  · subst hup
    decide
  have hplain : Plain p := ⟨hnil, hdot, hup, hslash⟩
  have htidy : Tidy [p] := tidy_of_plain (List.forall_mem_singleton.mpr hplain)
  have hclean : cleanChars (p ++ ['/']) = p := by
    rw [cleanChars_append_slash hnil]
    exact cleanChars_join htidy (by simp)
  have hroot : p ≠ ['/'] := fun heq => hslash (by simp [heq])
  rw [hclean, categoryOf, if_neg (not_or.mpr ⟨hdot, hroot⟩), baseChars_of_noSlash hnil hslash]

/-- **A plain element at the end of a directory** is its category, whatever stands in front. -/
lemma categoryOf_behind (cs : List Char) (hp : Plain p) :
    categoryOf (cleanChars (cs ++ '/' :: p ++ ['/'])) = p := by
  obtain ⟨lead, hlead, hall⟩ := exists_lead cs
  have hclean : cleanChars (cs ++ '/' :: p ++ ['/']) = lead ++ join ([] ++ [p]) := by
    rw [cleanChars_append_slash (by simp)]
    exact hall [p] (List.forall_mem_singleton.mpr hp) (by simp)
  -- the spelling ends in the element, so it is neither the directory itself nor the root
  have hbase : baseChars (lead ++ join ([] ++ [p])) = p := baseChars_join hp.ne_nil hp.noSlash hlead []
  have hdot : lead ++ join ([] ++ [p]) ≠ dot := fun heq => by
    rw [heq] at hbase
    exact hp.ne_dot (hbase.symm.trans (by decide))
  have hroot : lead ++ join ([] ++ [p]) ≠ ['/'] := fun heq => by
    rw [heq] at hbase
    have hslash : '/' ∈ p := by
      rw [← hbase]
      decide
    exact hp.noSlash hslash
  rw [hclean, categoryOf, if_neg (not_or.mpr ⟨hdot, hroot⟩), hbase]

end Path

/-! ## Assets -/

namespace AssetId

open SceneForge.Path (slashed untagged categoryOf cleanChars)

/-- An asset whose parts are single pieces of a path: none has a separator, the extension has no
dot, and the category does not name the directory itself. Any part may be missing. -/
structure Spelled (id : AssetId) : Prop where
  /-- The category is one element. -/
  category : '/' ∉ id.category.toList ∧ '\\' ∉ id.category.toList
  /-- The category is not the directory itself. -/
  ne_dot : id.category ≠ "."
  /-- The name is part of one element. -/
  name : '/' ∉ id.name.toList ∧ '\\' ∉ id.name.toList
  /-- The extension is one piece behind the last dot. -/
  ext : '/' ∉ id.ext.toList ∧ '\\' ∉ id.ext.toList ∧ '.' ∉ id.ext.toList

/-- The parts of an ordinary asset are single pieces. -/
lemma Ordinary.spelled {id : AssetId} (h : id.Ordinary) : id.Spelled where
  category := ⟨h.category.noSlash, h.category.noBackslash⟩
  ne_dot heq := h.category.ne_dot (by rw [heq]; rfl)
  name := ⟨h.name.noSlash, h.name.noBackslash⟩
  ext := h.ext

/-- The file name of the source of an asset. -/
def file (id : AssetId) : String := id.name ++ "." ++ id.ext

variable {id : AssetId} {path : String}

/-- The file name of a source has no separator. -/
lemma Spelled.noSeparator_file (h : id.Spelled) :
    '/' ∉ id.file.toList ∧ '\\' ∉ id.file.toList := by
  simp [file, h.name, h.ext]

/-- **The asset of a path**, from what stands in front of the last slash and behind it. -/
lemma ofPath_of_untagged (h : id.Spelled) {v : List Char}
    (hpath : slashed (untagged path.toList) = v ++ '/' :: id.file.toList) :
    ofPath path =
      ⟨String.ofList (categoryOf (cleanChars (v ++ ['/']))), id.name, id.ext⟩ := by
  have hslash : '/' ∉ id.file.toList := h.noSeparator_file.1
  have hchars : id.file.toList = id.name.toList ++ '.' :: id.ext.toList := by simp [file]
  have hne : id.file.toList ≠ [] := by simp [hchars]
  have hext : Path.extChars id.file.toList = '.' :: id.ext.toList :=
    Path.extChars_of_afterSlash ((Path.afterSlash_of_noSlash hslash).trans hchars) h.ext.2.2
  have hname : Path.dropEnding id.file.toList ('.' :: id.ext.toList) = id.name.toList := by
    rw [hchars, Path.dropEnding_append]
  have hdir : Path.dirChars (v ++ '/' :: id.file.toList) = cleanChars (v ++ ['/']) := by
    rw [Path.dirChars, Path.uptoSlash_append v hslash]
  show AssetId.mk
      (String.ofList (categoryOf (Path.dirChars (slashed (untagged path.toList)))))
      (String.ofList (Path.dropEnding (Path.baseChars (slashed (untagged path.toList)))
        (Path.extChars (Path.baseChars (slashed (untagged path.toList))))))
      (String.ofList ((Path.extChars
        (Path.baseChars (slashed (untagged path.toList)))).drop 1)) = _
  rw [hpath, hdir, Path.baseChars_append v hne hslash, hext, hname, List.drop_one, List.tail_cons,
    String.ofList_toList, String.ofList_toList]

/-- The source of an asset gives the asset back. -/
lemma Spelled.ofPath_source (h : id.Spelled) : ofPath id.source = id := by
  have hchars : id.source.toList = "src".toList ++ ':' ::
      (id.category.toList ++ '/' :: id.file.toList) := by
    simp [source, located, Area.tag, file]
  have hrest : slashed (untagged id.source.toList) = id.category.toList ++ '/' :: id.file.toList := by
    rw [hchars, Path.untagged_append (by decide)]
    refine Path.slashed_eq_self ?_
    simp [h.category.2, h.noSeparator_file.2]
  have hdot : id.category.toList ≠ Path.dot := fun heq => h.ne_dot (String.toList_inj.mp heq)
  rw [ofPath_of_untagged h hrest, Path.categoryOf_element h.category.1 hdot, String.ofList_toList]

/-- A longer path gives the asset at its end back, if its first colon is in front of the asset. -/
lemma Spelled.ofPath_behind (h : id.Spelled) (hcategory : Path.Plain id.category.toList) {d : String}
    (hcolon : ':' ∈ d.toList ∨ ':' ∉ path.toList)
    (hpath : Path.Respells path (d ++ "/" ++ id.category ++ "/" ++ id.file)) : ofPath path = id := by
  have htail : slashed ('/' :: (id.category.toList ++ '/' :: id.file.toList)) =
      '/' :: (id.category.toList ++ '/' :: id.file.toList) := by
    refine Path.slashed_eq_self ?_
    simp [h.category.2, h.noSeparator_file.2]
  have hslashed : slashed path.toList =
      slashed d.toList ++ '/' :: (id.category.toList ++ '/' :: id.file.toList) := by
    rw [hpath, ← htail, ← Path.slashed_append]
    simp
  obtain ⟨v, hv⟩ : ∃ v, slashed (untagged path.toList) =
      v ++ '/' :: id.category.toList ++ '/' :: id.file.toList := by
    rw [← Path.untagged_slashed, hslashed]
    rcases hcolon with hd | hnone
    · obtain ⟨as, bs, hsplit, has⟩ := List.eq_append_cons_of_mem (Path.mem_slashed_colon.mpr hd)
      refine ⟨bs, ?_⟩
      rw [hsplit, List.append_assoc, List.cons_append, Path.untagged_append has]
      simp
    · have hnone' : ':' ∉ slashed path.toList := Path.mem_slashed_colon.not.mpr hnone
      rw [hslashed] at hnone'
      refine ⟨slashed d.toList, ?_⟩
      rw [Path.untagged_of_noColon hnone']
      simp
  rw [ofPath_of_untagged h hv, Path.categoryOf_behind v hcategory, String.ofList_toList]

/-- **Assets are found again by their paths.** For every asset whose category, name and extension
have no separator, whose extension has no dot and whose category is not `.`, also with missing
parts: the location text of its source gives the asset back. If the category moreover names
something, so does every path that ends in category and file name, whatever directory stands in
front and however its separators are spelled, as long as the first colon, if there is any, is in
that directory.

**Proof sketch.** Behind the tag, and with slashes only, such a path is some text, a slash and the
  file name, so the last dot divides name and extension (`ofPath_of_untagged`). Cleaning the text in
  front keeps a category that stands alone (`Path.categoryOf_element`), and one that names something
  behind any text (`Path.categoryOf_behind`). -/
theorem ofPath_recovers (id : AssetId) (h : id.Spelled) :
    ofPath id.source = id ∧
      (id.category ≠ "" → id.category ≠ ".." → ∀ d path : String,
        Path.Respells path (d ++ "/" ++ id.category ++ "/" ++ id.name ++ "." ++ id.ext) →
        (':' ∈ d.toList ∨ ':' ∉ path.toList) → ofPath path = id) := by
  refine ⟨h.ofPath_source, fun hnil hup d path hpath hcolon => ?_⟩
  have hplain : Path.Plain id.category.toList := {
    ne_nil := by simpa using hnil
    ne_dot := fun heq => h.ne_dot (String.toList_inj.mp heq)
    ne_dotDot := fun heq => hup (String.toList_inj.mp heq)
    noSlash := h.category.1 }
  refine h.ofPath_behind hplain hcolon ?_
  simpa only [file, String.append_assoc] using hpath

/-- An asset with dots in its name, at the end of a path with both separators and a parent in it. -/
theorem ofPath_recovers_mixedSpelling :
    (⟨"props", "old.chair", "gltf"⟩ : AssetId).Spelled ∧
      ofPath "src:props/old.chair.gltf" = ⟨"props", "old.chair", "gltf"⟩ ∧
      Path.Respells "C:\\art/..\\props\\old.chair.gltf"
        ("C:/art\\.." ++ "/" ++ "props" ++ "/" ++ "old.chair" ++ "." ++ "gltf") ∧
      ofPath "C:\\art/..\\props\\old.chair.gltf" = ⟨"props", "old.chair", "gltf"⟩ := by
  have hspelled : (⟨"props", "old.chair", "gltf"⟩ : AssetId).Spelled :=
    ⟨by decide, by decide, by decide, by decide⟩
  have hrespells : Path.Respells "C:\\art/..\\props\\old.chair.gltf"
      ("C:/art\\.." ++ "/" ++ "props" ++ "/" ++ "old.chair" ++ "." ++ "gltf") := by
    unfold Path.Respells
    decide
  obtain ⟨hsource, hbehind⟩ := ofPath_recovers _ hspelled
  exact ⟨hspelled, hsource, hrespells,
    hbehind (by decide) (by decide) "C:/art\\.." _ hrespells (Or.inl (by decide))⟩

end AssetId

end SceneForge
