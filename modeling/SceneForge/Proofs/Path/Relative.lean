import Mathlib.Data.List.DropRight
import SceneForge.Proofs.Path.Normal

set_option autoImplicit false

/-!
# Where a relative path leads

A path that is not rooted leads somewhere from every directory. It climbs as often as its shortest
spelling begins with a parent, and then descends to plain elements; so two directories that agree
after climbing are the same for it. Directories are given here by their elements seen from the root,
where nothing is above the root.

## Main definitions

* `SceneForge.Path.follow` — where a path leads from a directory.
* `SceneForge.Path.climb`, `SceneForge.Path.descent` — how often a path climbs, and what it descends
  to.

## Main results

* `SceneForge.Path.foldl_push_cleaned` — cleaning a path first does not change where it leads.
* `SceneForge.Path.follow_eq` — a path climbs and then descends.
* `SceneForge.Path.follow_append_slash` — one path behind the other.
-/

namespace SceneForge.Path

variable {p : Part} {ps qs stack : List Part} {cs ds : List Char}

/-- The elements that a path leads to from a directory with the given elements, both seen from the
root. -/
def follow (ps : List Part) (cs : List Char) : List Part :=
  ((split cs).foldl (push true) ps.reverse).reverse

/-- How often the shortest spelling of a path climbs. -/
def climb (cs : List Char) : Nat := (cleanParts cs).count dotDot

/-- What the shortest spelling of a path descends to, once it has climbed. -/
def descent (cs : List Char) : List Part := (cleanParts cs).drop (climb cs)

/-! ## Cleaning first -/

/-- One more element of a path that was cleaned so far. -/
lemma foldl_push_push (h : Tidy stack.reverse) (p : Part) (bottom : List Part) :
    (push false stack p).reverse.foldl (push true) bottom =
      push true (stack.reverse.foldl (push true) bottom) p := by
  by_cases hnone : p = [] ∨ p = dot
  · rw [push_none hnone, push_none hnone]
  by_cases hup : p = dotDot
  · subst hup
    cases stack with
    | nil => rfl
    | cons top rest =>
      by_cases htop : top = dotDot
      · subst htop
        rw [push_dotDot_dotDot, List.reverse_cons, List.foldl_append]
        rfl
      · -- the element that is taken back is one that the bottom would have kept
        obtain ⟨hnil, hdot, -⟩ := h.of_mem (p := top) (by simp)
        rw [push_dotDot_name htop, List.reverse_cons, List.foldl_append, List.foldl_cons,
          List.foldl_nil, push_name (not_or.mpr ⟨hnil, hdot⟩) htop, push_dotDot_name htop]
  · rw [push_name hnone hup, List.reverse_cons, List.foldl_append]
    rfl

/-- **Cleaning a path first** does not change where it leads. -/
lemma foldl_push_cleaned (hqs : ∀ q ∈ qs, '/' ∉ q) (h : Tidy stack.reverse) (bottom : List Part) :
    (qs.foldl (push false) stack).reverse.foldl (push true) bottom =
      qs.foldl (push true) (stack.reverse.foldl (push true) bottom) := by
  induction qs generalizing stack with
  | nil => rfl
  | cons q qs ih =>
    obtain ⟨hq, hqs⟩ := List.forall_mem_cons.mp hqs
    rw [List.foldl_cons, ih hqs (h.push hq false), foldl_push_push h, List.foldl_cons]

/-- A path that is not rooted leads where its shortest spelling leads. -/
lemma follow_of_cleanParts (h : isRooted cs = false) (ps : List Part) :
    follow ps cs = ((cleanParts cs).foldl (push true) ps.reverse).reverse := by
  have hqs : ∀ q ∈ split cs, '/' ∉ q := fun _ hq => noSlash_of_mem_split hq
  have hempty : Tidy ([] : List Part).reverse := tidy_of_plain (by simp)
  rw [follow, cleanParts, h, foldl_push_cleaned hqs hempty]
  rfl

/-- A path that is not rooted leads where it leads cleaned. -/
lemma follow_cleanChars (h : isRooted cs = false) (ps : List Part) :
    follow ps (cleanChars cs) = follow ps cs := by
  have htidy := tidy_cleanParts cs
  rw [follow_of_cleanParts h, cleanChars_of_not_rooted h, text]
  split_ifs with hnil
  · rw [hnil]
    simp [follow, split, dot, push]
  · rw [follow, split_join (fun q hq => (htidy.of_mem hq).2.2) hnil]

/-! ## Climbing and descending -/

/-- Above the root there is only the root. -/
lemma foldl_push_climbing (n : Nat) (h : dotDot ∉ stack) :
    (List.replicate n dotDot).foldl (push true) stack = stack.drop n := by
  induction n generalizing stack with
  | zero => rfl
  | succ n ih =>
    rw [List.replicate_succ, List.foldl_cons]
    cases stack with
    | nil =>
      have hroot : push true [] dotDot = [] := rfl
      rw [hroot, ih h, List.drop_nil, List.drop_nil]
    | cons top rest =>
      obtain ⟨htop, hrest⟩ := not_or.mp (mt List.mem_cons.mpr h)
      rw [push_dotDot_name (Ne.symm htop), ih hrest, List.drop_succ_cons]

/-- The shortest spelling climbs, and then descends to plain elements. -/
lemma cleanParts_eq (cs : List Char) :
    cleanParts cs = List.replicate (climb cs) dotDot ++ descent cs ∧ ∀ q ∈ descent cs, Plain q := by
  obtain ⟨n, qs, hcs, hqs⟩ := tidy_cleanParts cs
  have hnone : qs.count dotDot = 0 :=
    List.count_eq_zero.mpr fun hmem => (hqs _ hmem).ne_dotDot rfl
  have hclimb : climb cs = n := by
    rw [climb, hcs, List.count_append, List.count_replicate_self, hnone, Nat.add_zero]
  have hdescent : descent cs = qs := by
    rw [descent, hclimb, hcs, List.drop_left' List.length_replicate]
  rw [hclimb, hdescent]
  exact ⟨hcs, hqs⟩

/-- **A path climbs and then descends.** -/
theorem follow_eq (hps : dotDot ∉ ps) (h : isRooted cs = false) :
    follow ps cs = ps.rdrop (climb cs) ++ descent cs := by
  obtain ⟨hcs, hplain⟩ := cleanParts_eq cs
  rw [follow_of_cleanParts h, hcs, List.foldl_append,
    foldl_push_climbing _ (mt List.mem_reverse.mp hps), foldl_push_plain hplain,
    List.reverse_append, List.reverse_reverse, ← List.rdrop_eq_reverse_drop_reverse]

/-! ## From one directory to another -/

/-- The path that names the directory itself. -/
lemma follow_dot (ps : List Part) : follow ps dot = ps := by
  simp [follow, dot, split, push]

/-- The empty path names the directory itself. -/
lemma follow_nil (ps : List Part) : follow ps [] = ps := by
  simp [follow, split, push]

/-- One path behind the other leads from where the first one leads. -/
lemma follow_append_slash (ps : List Part) (cs ds : List Char) :
    follow ps (cs ++ '/' :: ds) = follow (follow ps cs) ds := by
  simp [follow, split_append_slash]

/-- The elements of a rooted path are followed from the root. -/
lemma cleanParts_of_rooted (h : isRooted cs = true) : cleanParts cs = follow [] cs := by
  rw [cleanParts, follow, h]
  rfl

/-- Seen from the root, nothing leads above it. -/
lemma dotDot_notMem_foldl_push (h : dotDot ∉ stack) (qs : List Part) :
    dotDot ∉ qs.foldl (push true) stack := by
  induction qs generalizing stack with
  | nil => exact h
  | cons q qs ih =>
    refine ih fun hmem => ?_
    rcases mem_push hmem with hmem | rfl
    · exact h hmem
    · cases stack with
      | nil => cases hmem
      | cons top rest =>
        obtain ⟨htop, hrest⟩ := not_or.mp (mt List.mem_cons.mpr h)
        rw [push_dotDot_name (Ne.symm htop)] at hmem
        exact hrest hmem

/-- What is below the root is named by plain elements, wherever a path leads. -/
lemma plain_follow (h : ∀ p ∈ ps, Plain p) (cs : List Char) : ∀ p ∈ follow ps cs, Plain p := by
  have hnone : dotDot ∉ ps.reverse := fun hmem => (h _ (List.mem_reverse.mp hmem)).ne_dotDot rfl
  have htidy : Tidy (follow ps cs) := tidy_foldl_push (fun _ hq => noSlash_of_mem_split hq) true
    (by rw [List.reverse_reverse]; exact tidy_of_plain h)
  intro p hp
  obtain ⟨hnil, hdot, hslash⟩ := htidy.of_mem hp
  refine ⟨hnil, hdot, ?_, hslash⟩
  rintro rfl
  exact dotDot_notMem_foldl_push hnone _ (List.mem_reverse.mp hp)

/-- The shortest spelling of a rooted path. -/
lemma cleanChars_of_rooted (h : isRooted cs = true) : cleanChars cs = '/' :: join (follow [] cs) := by
  rw [cleanChars, cleanParts_of_rooted h]
  simp [h]

/-- Plain elements below the root are followed to themselves. -/
lemma follow_root_join (h : ∀ p ∈ ps, Plain p) : follow [] ('/' :: join ps) = ps := by
  have hrooted : isRooted ('/' :: join ps) = true := rfl
  rw [← cleanParts_of_rooted hrooted]
  by_cases hnil : ps = []
  · subst hnil
    rfl
  · exact cleanParts_below [] h hnil

/-- A rooted path is where it is cleaned. -/
lemma follow_cleanChars_of_rooted (h : isRooted cs = true) :
    follow [] (cleanChars cs) = follow [] cs := by
  rw [cleanChars_of_rooted h, follow_root_join (plain_follow (by simp) cs)]

/-! ## Spellings that are not empty -/

/-- The shortest spelling of a path is not empty. -/
lemma cleanChars_ne_nil (cs : List Char) : cleanChars cs ≠ [] := by
  cases hrooted : isRooted cs with
  | true =>
    rw [cleanChars_of_rooted hrooted]
    exact List.cons_ne_nil _ _
  | false =>
    rw [cleanChars_of_not_rooted hrooted]
    exact (tidy_cleanParts cs).text_ne_nil

/-- The directory of a path is not empty. -/
lemma dir_ne_empty (path : String) : dir path ≠ "" := by
  simpa [dir, dirChars] using cleanChars_ne_nil (uptoSlash path.toList)

end SceneForge.Path
