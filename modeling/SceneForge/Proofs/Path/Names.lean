import Mathlib.Data.List.TakeWhile
import SceneForge.Asset.Id
import SceneForge.Proofs.Path.Normal
import SceneForge.Texture.Convert

set_option autoImplicit false

/-!
# Names at the end of a path

What follows the last slash of a path is its last element, and what follows the last dot of that is
its extension.

## Main definitions

* `SceneForge.AssetId.Ordinary` — the assets whose locations are ordinary paths.

## Main results

* `SceneForge.Path.baseChars_append`, `SceneForge.Path.dirChars_join`,
  `SceneForge.Path.extChars_append` — last element, directory and extension.
* `SceneForge.Texture.stem_append` — the name of a picture file.
-/

namespace SceneForge

namespace Path

variable {p : Part} {ps : List Part} {cs es : List Char}

/-- Everything in front of a character that is not met is taken. -/
lemma takeWhile_ne_append {c : Char} (h : c ∉ es) (ds : List Char) :
    (es ++ c :: ds).takeWhile (· ≠ c) = es := by
  rw [List.takeWhile_append_of_pos]
  · simp
  · intro a ha
    simpa using fun heq : a = c => h (heq ▸ ha)

/-- Everything in front of a character that is not met is dropped. -/
lemma dropWhile_ne_append {c : Char} (h : c ∉ es) (ds : List Char) :
    (es ++ c :: ds).dropWhile (· ≠ c) = c :: ds := by
  rw [List.dropWhile_append_of_pos]
  · simp
  · intro a ha
    simpa using fun heq : a = c => h (heq ▸ ha)

/-- What follows the last slash. -/
lemma afterSlash_append (cs : List Char) (hp : '/' ∉ p) : afterSlash (cs ++ '/' :: p) = p := by
  have hrev : (cs ++ '/' :: p).reverse = p.reverse ++ '/' :: cs.reverse := by simp
  rw [afterSlash, hrev, takeWhile_ne_append (by simpa using hp), List.reverse_reverse]

/-- Everything up to the last slash. -/
lemma uptoSlash_append (cs : List Char) (hp : '/' ∉ p) :
    uptoSlash (cs ++ '/' :: p) = cs ++ ['/'] := by
  have hrev : (cs ++ '/' :: p).reverse = p.reverse ++ '/' :: cs.reverse := by simp
  rw [uptoSlash, hrev, dropWhile_ne_append (by simpa using hp)]
  simp

/-- A text without slash is its own last element. -/
lemma afterSlash_of_noSlash (hp : '/' ∉ p) : afterSlash p = p := by
  have hall : p.reverse.takeWhile (· ≠ '/') = p.reverse :=
    List.takeWhile_eq_self_iff.mpr fun a ha => by
      simpa using fun heq : a = '/' => hp (List.mem_reverse.mp (heq ▸ ha))
  rw [afterSlash, hall, List.reverse_reverse]

/-- A text without slash has nothing up to the last one. -/
lemma uptoSlash_of_noSlash (hp : '/' ∉ p) : uptoSlash p = [] := by
  have hnone : p.reverse.dropWhile (· ≠ '/') = [] :=
    List.dropWhile_eq_nil_iff.mpr fun a ha => by
      simpa using fun heq : a = '/' => hp (List.mem_reverse.mp (heq ▸ ha))
  rw [uptoSlash, hnone, List.reverse_nil]

/-- A path that does not end in a slash keeps its end. -/
lemma baseChars_of_last (hne : p ≠ []) (hp : '/' ∉ p) (cs : List Char) :
    baseChars (cs ++ p) = afterSlash (cs ++ p) := by
  obtain ⟨c, hc⟩ : ∃ c, p.getLast? = some c :=
    ⟨_, List.getLast?_eq_some_getLast hne⟩
  obtain ⟨ds, rfl⟩ := List.getLast?_eq_some_iff.mp hc
  have hne' : c ≠ '/' := fun h => hp (by simp [h])
  simp [baseChars, hne']

/-- The last element. -/
lemma baseChars_append (cs : List Char) (hne : p ≠ []) (hp : '/' ∉ p) :
    baseChars (cs ++ '/' :: p) = p := by
  have happend : cs ++ '/' :: p = (cs ++ ['/']) ++ p := by simp
  rw [happend, baseChars_of_last hne hp, ← happend, afterSlash_append cs hp]

/-- A text without slash is its own last element, trailing slashes or not. -/
lemma baseChars_of_noSlash (hne : p ≠ []) (hp : '/' ∉ p) : baseChars p = p := by
  have h := baseChars_of_last hne hp []
  rwa [List.nil_append, afterSlash_of_noSlash hp] at h

/-- **The directory** of tidy elements is spelled by those in front. -/
lemma dirChars_join (hps : Tidy ps) (hp : '/' ∉ p) : dirChars (join (ps ++ [p])) = text ps := by
  by_cases hnil : ps = []
  · subst hnil
    show cleanChars (uptoSlash p) = dot
    rw [uptoSlash_of_noSlash hp]
    rfl
  · have hrooted : isRooted (join ps ++ ['/']) = false := hps.isRooted_join _ hnil
    have hpush : ∀ stack : List Part, push false stack [] = stack := fun _ => rfl
    have hparts : cleanParts (join ps ++ ['/']) = ps := by
      rw [cleanParts, hrooted, split_append_slash,
        split_join (fun q hq => (hps.of_mem hq).2.2) hnil, List.foldl_append, hps.foldl_push]
      simp [split, hpush]
    rw [join_append hnil (by simp)]
    show cleanChars (uptoSlash (join ps ++ '/' :: p)) = _
    rw [uptoSlash_append _ hp, cleanChars_of_not_rooted hrooted, hparts]

/-- **The extension** of a path whose last element has one. -/
lemma extChars_of_afterSlash {name : List Char} (h : afterSlash cs = name ++ '.' :: es)
    (hes : '.' ∉ es) : extChars cs = '.' :: es := by
  have hrev : (name ++ '.' :: es).reverse = es.reverse ++ '.' :: name.reverse := by simp
  have hmem : '.' ∈ name ++ '.' :: es := by simp
  simp only [extChars, h, if_pos hmem]
  rw [hrev, takeWhile_ne_append (by simpa using hes), List.reverse_reverse]

/-- An ending that is there is dropped. -/
lemma dropEnding_append (cs es : List Char) : dropEnding (cs ++ es) es = cs := by
  simp [dropEnding]

/-- An ordinary name with something behind it is ordinary. -/
lemma Ordinary.append (h : Ordinary p) (hes : '/' ∉ es ∧ '\\' ∉ es) : Ordinary (p ++ es) := by
  obtain ⟨c, cs, rfl⟩ := List.exists_cons_of_ne_nil h.ne_nil
  refine { ne_nil := by simp, ne_dot := ?_, ne_dotDot := ?_, noSlash := ?_, noBackslash := ?_ }
  · intro heq
    obtain ⟨rfl, hcs⟩ := List.cons.inj heq
    exact h.ne_dot (by simp [dot, (List.append_eq_nil_iff.mp hcs).1])
  · intro heq
    obtain ⟨rfl, hcs⟩ := List.cons.inj heq
    rcases List.append_eq_singleton_iff.mp hcs with ⟨hnil, -⟩ | ⟨hdot, -⟩
    · exact h.ne_dot (by simp [dot, hnil])
    · exact h.ne_dotDot (by simp [dotDot, hdot])
  · rw [List.mem_append, not_or]
    exact ⟨h.noSlash, hes.1⟩
  · rw [List.mem_append, not_or]
    exact ⟨h.noBackslash, hes.2⟩

/-- A name with something behind it that has a character other than a dot is ordinary. -/
lemma ordinary_append {name ending : List Char} (hname : '/' ∉ name ∧ '\\' ∉ name)
    (hending : '/' ∉ ending ∧ '\\' ∉ ending) (hlast : ∃ c ∈ ending, c ≠ '.') :
    Ordinary (name ++ ending) := by
  obtain ⟨c, hc, hne⟩ := hlast
  have hmem : c ∈ name ++ ending := List.mem_append_right _ hc
  refine { ne_nil := ?_, ne_dot := ?_, ne_dotDot := ?_, noSlash := ?_, noBackslash := ?_ }
  · exact List.ne_nil_of_mem hmem
  · intro heq
    rw [heq] at hmem
    simp [dot, hne] at hmem
  · intro heq
    rw [heq] at hmem
    simp [dotDot, hne] at hmem
  · simp [hname.1, hending.1]
  · simp [hname.2, hending.2]

end Path

/-! ## Assets -/

/-- An asset whose locations are ordinary paths: category and name are ordinary elements, and the
extension is one piece behind the last dot. -/
structure AssetId.Ordinary (id : AssetId) : Prop where
  /-- The category is an ordinary element. -/
  category : Path.Ordinary id.category.toList
  /-- The name is an ordinary element. -/
  name : Path.Ordinary id.name.toList
  /-- The extension has no separator. -/
  ext : '/' ∉ id.ext.toList ∧ '\\' ∉ id.ext.toList ∧ '.' ∉ id.ext.toList

/-- What stands in front of the first colon, and what stands behind it. -/
lemma Path.cutColon_append {tag : List Char} (h : ':' ∉ tag) (rest : List Char) :
    Path.cutColon (tag ++ ':' :: rest) = some (tag, rest) := by
  have hmem : ':' ∈ tag ++ ':' :: rest := by simp
  rw [Path.cutColon, if_pos hmem, Path.takeWhile_ne_append h, Path.dropWhile_ne_append h]
  rfl

/-! ## Picture files -/

/-- The last element of a path in a directory. -/
lemma Path.noSlash_file {name ext : String} (hname : '/' ∉ name.toList) (hext : '/' ∉ ext.toList) :
    '/' ∉ name.toList ++ '.' :: ext.toList := by
  simp [hname, hext]

/-- The characters of the path of a picture file. -/
lemma Path.toList_file (dir name ext : String) : (dir ++ "/" ++ name ++ "." ++ ext).toList =
    dir.toList ++ '/' :: (name.toList ++ '.' :: ext.toList) := by
  simp

/-- The extension of a picture file. -/
lemma Path.extChars_file (dir name ext : String) (hname : '/' ∉ name.toList)
    (hext : '/' ∉ ext.toList ∧ '.' ∉ ext.toList) :
    Path.extChars (dir.toList ++ '/' :: (name.toList ++ '.' :: ext.toList)) = '.' :: ext.toList :=
  Path.extChars_of_afterSlash (Path.afterSlash_append _ (Path.noSlash_file hname hext.1)) hext.2

/-- The name of a picture file without its extension. -/
lemma Texture.stem_append (dir name ext : String) (hname : '/' ∉ name.toList)
    (hext : '/' ∉ ext.toList ∧ '.' ∉ ext.toList) :
    Texture.stem (dir ++ "/" ++ name ++ "." ++ ext) = name := by
  rw [Texture.stem, Path.toList_file, Path.baseChars_append _ (by simp)
    (Path.noSlash_file hname hext.1), Path.extChars_file dir name ext hname hext,
    Path.dropEnding_append]
  exact String.ofList_toList

end SceneForge
