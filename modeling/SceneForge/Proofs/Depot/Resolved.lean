import SceneForge.Proofs.Depot.Separators

set_option autoImplicit false

/-!
# Resolved paths

Whatever a location text looks like, its path comes out in one spelling: slashes only, not rooted,
and either a dot or parents followed by plain elements. The paths with that spelling are exactly
those that are left as they are when they are spelled once more. Behind a tag, a text without `..`
does not leave the directory that the tag is assigned to.

## Main definitions

* `SceneForge.Path.Normal` — paths in the spelling used inside a depot.
* `SceneForge.Path.Within` — a directory, and what lies below it.

## Main results

* `SceneForge.Path.normal_norm`, `SceneForge.Path.norm_eq_self_iff` — the spelling is normal, and
  normal paths are spelled that way already.
* `SceneForge.Assigns.normal_of_resolve` — resolved paths are normal and stay within their
  directory.
-/

namespace SceneForge

namespace Path

variable {ps : List Part} {path : String}

/-! ## The spelling inside a depot -/

/-- A path in the spelling used inside a depot: it is not empty, has slashes only, is not rooted,
and is the dot or consists of parents and then of plain elements. -/
structure Normal (path : String) : Prop where
  /-- It is not empty. -/
  ne_empty : path ≠ ""
  /-- There are slashes only. -/
  noBackslash : '\\' ∉ path.toList
  /-- It does not start at the root. -/
  notRooted : path.toList.head? ≠ some '/'
  /-- It is the dot, or its elements are clean. -/
  tidy : path = "." ∨ Tidy (split path.toList)

/-- The spelling of elements without backslashes has none to replace. -/
lemma slashed_text (hback : ∀ p ∈ ps, '\\' ∉ p) : slashed (text ps) = text ps := by
  unfold text
  split_ifs with hnil
  · rfl
  · exact slashed_eq_self (noBackslash_join hback)

/-- The spelling of clean elements is in normal form. -/
lemma Tidy.normal_text (h : Tidy ps) (hback : ∀ p ∈ ps, '\\' ∉ p) :
    Normal (String.ofList (text ps)) := by
  by_cases hnil : ps = []
  · subst hnil
    exact ⟨by decide, by decide, by decide, Or.inl rfl⟩
  have hslash : ∀ p ∈ ps, '/' ∉ p := fun p hp => (h.of_mem hp).2.2
  have hrooted := h.isRooted_text
  rw [text_of_ne_nil hnil] at hrooted ⊢
  refine ⟨?_, ?_, ?_, Or.inr ?_⟩
  · simpa using join_ne_nil (fun p hp => (h.of_mem hp).1) hnil
  · rw [String.toList_ofList]
    exact noBackslash_join hback
  · rw [String.toList_ofList]
    intro hhead
    obtain ⟨es, hes⟩ := List.head?_eq_some_iff.mp hhead
    rw [hes] at hrooted
    cases hrooted
  · rwa [String.toList_ofList, split_join hslash hnil]

/-- A path in normal form is the spelling of clean elements. -/
lemma Normal.exists_text (h : Normal path) :
    ∃ ps, Tidy ps ∧ (∀ p ∈ ps, '\\' ∉ p) ∧ path = String.ofList (text ps) := by
  rcases h.tidy with rfl | htidy
  · exact ⟨[], tidy_of_plain (by simp), by simp, rfl⟩
  · refine ⟨split path.toList, htidy, fun p hp hmem => ?_, ?_⟩
    · exact h.noBackslash (subset_of_mem_split hp hmem)
    · rw [text_of_ne_nil (split_ne_nil _), join_split, String.ofList_toList]

/-- **Every path is spelled in normal form.** -/
lemma normal_norm (path : String) : Normal (norm path) := by
  rw [norm, normChars_eq_text]
  refine (tidy_cleanParts _).normal_text fun p hp hmem => ?_
  exact noBackslash_slashed _ (subset_of_mem_split (mem_split_of_mem_cleanParts hp) hmem)

/-- **Paths in normal form are spelled that way already**, and no others are. -/
lemma norm_eq_self_iff : norm path = path ↔ Normal path := by
  refine ⟨fun h => h ▸ normal_norm path, fun h => ?_⟩
  obtain ⟨ps, htidy, hback, rfl⟩ := h.exists_text
  rw [norm, String.toList_ofList, normChars_eq_text, slashed_text hback, cleanParts_text htidy]

/-! ## Directories and what lies below -/

/-- A path is a directory itself or lies below it; everything lies below the dot. -/
def Within (dir path : String) : Prop :=
  dir = "." ∨ path = dir ∨ ∃ rest, path = dir ++ "/" ++ rest

/-- A path whose elements start with those of a directory lies within it. -/
lemma within_text (ds qs : List Part) :
    Within (String.ofList (text ds)) (String.ofList (text (ds ++ qs))) := by
  by_cases hds : ds = []
  · subst hds
    exact Or.inl rfl
  by_cases hqs : qs = []
  · subst hqs
    rw [List.append_nil]
    exact Or.inr (Or.inl rfl)
  · refine Or.inr (Or.inr ⟨String.ofList (join qs), ?_⟩)
    rw [text_of_ne_nil hds, text_of_ne_nil (by simp [hds]), join_append hds hqs, ← String.toList_inj]
    simp

/-- The spelling of clean elements goes up exactly if one of them does. -/
lemma Tidy.forward_text_iff (h : Tidy ps) (hback : ∀ p ∈ ps, '\\' ∉ p) :
    Forward (String.ofList (text ps)) ↔ dotDot ∉ ps := by
  rw [Forward, String.toList_ofList, slashed_text hback]
  by_cases hnil : ps = []
  · subst hnil
    decide
  · rw [text_of_ne_nil hnil, split_join (fun p hp => (h.of_mem hp).2.2) hnil]

end Path

/-! ## Location texts -/

namespace Assigns

open SceneForge.Path (IsTag Normal Within Forward)

/-- **Resolved paths are normal.** Whatever directories are assigned, the path of a location text is
in normal form, so spelling it once more does not change it. If the directory of a tag does not go
up, and neither does the text behind the tag, then the path lies within the directory and does not
go up.

**Proof sketch.** Every path that is resolved has been spelled for the depot. Behind a tag, what the
  text leads to is the directory followed by elements that are no parents, and a path is the
  spelling of what it leads to. -/
theorem normal_of_resolve (bs : List (String × String)) (uri path : String)
    (h : (ofList bs).resolve uri = .ok path) :
    Normal path ∧ Path.norm path = path ∧
      ∀ tag v dir, IsTag tag → uri = tag ++ ":" ++ v → (ofList bs).find? tag = some dir →
        Forward dir → Forward v → Within dir path ∧ Forward path := by
  obtain ⟨p, rfl⟩ := exists_norm_of_resolve h
  have hnormal := Path.normal_norm p
  refine ⟨hnormal, Path.norm_eq_self_iff.mpr hnormal, fun tag v dir htag huri hdir hup hv => ?_⟩
  obtain ⟨ds, hds, hback, rfl⟩ := exists_text_of_ofList bs hdir
  obtain ⟨qs, hqs, hreach⟩ := hv.exists_reach hds hback
  rw [huri, resolve_tagged htag hdir, Except.ok.injEq] at h
  have htidy := Path.tidy_reach (String.ofList (Path.text ds)) v
  have hback' : ∀ q ∈ Path.reach (String.ofList (Path.text ds)) v, '\\' ∉ q :=
    fun q hq => Path.noBackslash_reach hq
  rw [← h, htidy.forward_text_iff hback', hreach]
  refine ⟨Path.within_text ds qs, fun hmem => ?_⟩
  rcases List.mem_append.mp hmem with hmem | hmem
  · exact (hds.forward_text_iff hback).mp hup hmem
  · exact hqs hmem

/-- A tangled text behind a tangled directory, and a text that climbs above it. -/
theorem normal_of_resolve_tangled :
    (ofList [("src", "\\proj/.\\assets//")]).resolve "src:.\\props//sets\\./chair.mesh" =
        .ok "proj/assets/props/sets/chair.mesh" ∧
      IsTag "src" ∧ (ofList [("src", "\\proj/.\\assets//")]).find? "src" = some "proj/assets" ∧
      Forward "proj/assets" ∧ Forward ".\\props//sets\\./chair.mesh" ∧
      Within "proj/assets" "proj/assets/props/sets/chair.mesh" ∧
      (ofList [("src", "\\proj/.\\assets//")]).resolve "src:props/../../..\\../chair.mesh" =
        .ok "../chair.mesh" ∧
      Normal "../chair.mesh" := by
  have hpath : (ofList [("src", "\\proj/.\\assets//")]).resolve "src:.\\props//sets\\./chair.mesh" =
      .ok "proj/assets/props/sets/chair.mesh" := by decide
  have htag : IsTag "src" := by decide
  have hdir : (ofList [("src", "\\proj/.\\assets//")]).find? "src" = some "proj/assets" := by decide
  have hup : Forward "proj/assets" := by decide
  have hv : Forward ".\\props//sets\\./chair.mesh" := by decide
  have hclimbs : (ofList [("src", "\\proj/.\\assets//")]).resolve "src:props/../../..\\../chair.mesh" =
      .ok "../chair.mesh" := by decide
  exact ⟨hpath, htag, hdir, hup, hv,
    ((normal_of_resolve _ _ _ hpath).2.2 "src" _ _ htag (by decide) hdir hup hv).1, hclimbs,
    (normal_of_resolve _ _ _ hclimbs).1⟩

end Assigns

end SceneForge
