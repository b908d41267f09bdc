import Mathlib.Tactic.Common
import SceneForge.Path.Basic

set_option autoImplicit false

/-!
# Paths in normal form

The shortest spelling of a path consists of parents and then of plain elements. Such elements are
found again in the path that they are joined to, and cleaning does not change them. So what is put
below a clean directory lies exactly there.

## Main definitions

* `SceneForge.Path.Plain` — an element that names something.
* `SceneForge.Path.Tidy` — the elements of a clean path.
* `SceneForge.Path.text` — the spelling of clean elements.

## Main results

* `SceneForge.Path.split_join` — elements are found again.
* `SceneForge.Path.tidy_cleanParts`, `SceneForge.Path.cleanParts_join` — cleaning tidies, and keeps
  what is tidy.
* `SceneForge.Path.normChars_eq_text` — the spelling inside a depot.
* `SceneForge.Path.cleanParts_below` — plain elements behind anything stay where they are.
* `SceneForge.Path.foldl_push_append` — elements that do not go up are cleaned by themselves.
-/

namespace SceneForge.Path

variable {p : Part} {ps qs rs : List Part} {cs ds : List Char}

/-! ## Elements -/

/-- An element that names something: it is not empty, none of the special ones, and has no slash. -/
structure Plain (p : Part) : Prop where
  /-- It is not empty. -/
  ne_nil : p ≠ []
  /-- It does not name the directory itself. -/
  ne_dot : p ≠ dot
  /-- It does not name the parent. -/
  ne_dotDot : p ≠ dotDot
  /-- It is one element. -/
  noSlash : '/' ∉ p

/-- The elements of a clean path: parents, and then plain elements. -/
def Tidy (ps : List Part) : Prop :=
  ∃ n qs, ps = List.replicate n dotDot ++ qs ∧ ∀ q ∈ qs, Plain q

/-- Plain elements are tidy. -/
lemma tidy_of_plain (h : ∀ p ∈ ps, Plain p) : Tidy ps := ⟨0, ps, rfl, h⟩

/-- Plain elements behind tidy ones are tidy. -/
lemma Tidy.append (h : Tidy ps) (hrs : ∀ r ∈ rs, Plain r) : Tidy (ps ++ rs) := by
  obtain ⟨n, qs, rfl, hqs⟩ := h
  exact ⟨n, qs ++ rs, by simp, List.forall_mem_append.mpr ⟨hqs, hrs⟩⟩

/-- Tidy elements are not empty and have no slash. -/
lemma Tidy.of_mem (h : Tidy ps) (hp : p ∈ ps) : p ≠ [] ∧ p ≠ dot ∧ '/' ∉ p := by
  obtain ⟨n, qs, rfl, hqs⟩ := h
  rcases List.mem_append.mp hp with hp | hp
  · rw [List.eq_of_mem_replicate hp]
    decide
  · exact ⟨(hqs p hp).ne_nil, (hqs p hp).ne_dot, (hqs p hp).noSlash⟩

/-! ## Splitting and joining -/

/-- There is always an element. -/
lemma split_ne_nil (cs : List Char) : split cs ≠ [] := by
  induction cs with
  | nil => simp [split]
  | cons c cs ih =>
    unfold split
    split_ifs
    · simp
    · cases hs : split cs with
      | nil => simp
      | cons p ps => simp

/-- A slash separates. -/
lemma split_append_slash (cs ds : List Char) : split (cs ++ '/' :: ds) = split cs ++ split ds := by
  induction cs with
  | nil => simp [split]
  | cons c cs ih =>
    rw [List.cons_append, split, split]
    split_ifs
    · rw [ih, List.cons_append]
    · rw [ih]
      cases hs : split cs with
      | nil => exact absurd hs (split_ne_nil cs)
      | cons p ps => rfl

/-- Elements have no slash. -/
lemma noSlash_of_mem_split (h : p ∈ split cs) : '/' ∉ p := by
  induction cs generalizing p with
  | nil => simp_all [split]
  | cons c cs ih =>
    unfold split at h
    split_ifs at h with hc
    · rcases List.mem_cons.mp h with rfl | h
      · simp
      · exact ih h
    · cases hs : split cs with
      | nil => exact absurd hs (split_ne_nil cs)
      | cons q qs =>
        rw [hs] at h ih
        rcases List.mem_cons.mp h with rfl | h
        · simpa [Ne.symm hc] using ih List.mem_cons_self
        · exact ih (List.mem_cons_of_mem _ h)

/-- Elements are made of the characters of the path. -/
lemma subset_of_mem_split (h : p ∈ split cs) : p ⊆ cs := by
  induction cs generalizing p with
  | nil => simp_all [split]
  | cons c cs ih =>
    unfold split at h
    split_ifs at h with hc
    · rcases List.mem_cons.mp h with rfl | h
      · exact List.nil_subset _
      · exact List.subset_cons_of_subset _ (ih h)
    · cases hs : split cs with
      | nil => exact absurd hs (split_ne_nil cs)
      | cons q qs =>
        rw [hs] at h ih
        rcases List.mem_cons.mp h with rfl | h
        · exact List.cons_subset_cons _ (ih List.mem_cons_self)
        · exact List.subset_cons_of_subset _ (ih (List.mem_cons_of_mem _ h))

/-- A path is what its elements are joined to. -/
lemma join_split (cs : List Char) : join (split cs) = cs := by
  induction cs with
  | nil => rfl
  | cons c cs ih =>
    unfold split
    split_ifs with hc
    · cases hs : split cs with
      | nil => exact absurd hs (split_ne_nil cs)
      | cons p ps =>
        rw [hs] at ih
        rw [hc, ← ih]
        rfl
    · cases hs : split cs with
      | nil => exact absurd hs (split_ne_nil cs)
      | cons p ps =>
        rw [hs] at ih
        rw [← ih]
        cases ps <;> rfl

/-- A text without slash is one element. -/
lemma split_of_noSlash (h : '/' ∉ cs) : split cs = [cs] := by
  induction cs with
  | nil => rfl
  | cons c cs ih =>
    have hc : ¬ c = '/' := fun hc => h (by simp [hc])
    rw [split, if_neg hc, ih fun hmem => h (List.mem_cons_of_mem _ hmem)]

/-- Elements in front of others are joined by a slash. -/
lemma join_append (hps : ps ≠ []) (hqs : qs ≠ []) :
    join (ps ++ qs) = join ps ++ '/' :: join qs := by
  induction ps with
  | nil => exact absurd rfl hps
  | cons p ps ih =>
    cases ps with
    | nil =>
      cases qs with
      | nil => exact absurd rfl hqs
      | cons q qs => rfl
    | cons p' ps =>
      have h := ih (by simp)
      simp only [List.cons_append, join] at h ⊢
      rw [h, List.append_assoc, List.cons_append]

/-- **Elements are found again** in the path that they are joined to. -/
lemma split_join (h : ∀ p ∈ ps, '/' ∉ p) (hne : ps ≠ []) : split (join ps) = ps := by
  induction ps with
  | nil => exact absurd rfl hne
  | cons p ps ih =>
    obtain ⟨hp, hps⟩ := List.forall_mem_cons.mp h
    cases ps with
    | nil => exact split_of_noSlash hp
    | cons q ps =>
      rw [join, split_append_slash, split_of_noSlash hp, ih hps (by simp)]
      rfl

/-- A joined path consists of slashes and the characters of its elements. -/
lemma mem_join {c : Char} (h : c ∈ join ps) : c = '/' ∨ ∃ p ∈ ps, c ∈ p := by
  induction ps with
  | nil => cases h
  | cons p ps ih =>
    cases ps with
    | nil => exact Or.inr ⟨p, List.mem_cons_self, h⟩
    | cons q ps =>
      rw [join, List.mem_append, List.mem_cons] at h
      rcases h with h | h | h
      · exact Or.inr ⟨p, List.mem_cons_self, h⟩
      · exact Or.inl h
      · rcases ih h with h | ⟨r, hr, h⟩
        · exact Or.inl h
        · exact Or.inr ⟨r, List.mem_cons_of_mem _ hr, h⟩

/-- A path of elements that are not empty is not empty. -/
lemma join_ne_nil (h : ∀ p ∈ ps, p ≠ []) (hne : ps ≠ []) : join ps ≠ [] := by
  cases ps with
  | nil => exact absurd rfl hne
  | cons p ps =>
    have hp := h p List.mem_cons_self
    cases ps with
    | nil => exact hp
    | cons q ps => simp [join, hp]

/-! ## Cleaning -/

/-- Nothing and the directory itself are left out. -/
lemma push_none (h : p = [] ∨ p = dot) (rooted : Bool) (stack : List Part) :
    push rooted stack p = stack := if_pos h

/-- Everything else but the parent is kept. -/
lemma push_name (h : ¬ (p = [] ∨ p = dot)) (hup : p ≠ dotDot) (rooted : Bool) (stack : List Part) :
    push rooted stack p = p :: stack := by
  unfold push
  rw [if_neg h, if_neg hup]

/-- The parent takes back the last name. -/
lemma push_dotDot_name (h : p ≠ dotDot) (rooted : Bool) (rest : List Part) :
    push rooted (p :: rest) dotDot = rest := if_neg h

/-- The parent stays behind other parents. -/
lemma push_dotDot_dotDot (rooted : Bool) (rest : List Part) :
    push rooted (dotDot :: rest) dotDot = dotDot :: dotDot :: rest := rfl

/-- A plain element is kept. -/
lemma push_plain (h : Plain p) (rooted : Bool) (stack : List Part) :
    push rooted stack p = p :: stack :=
  push_name (not_or.mpr ⟨h.ne_nil, h.ne_dot⟩) h.ne_dotDot rooted stack

/-- Plain elements are kept. -/
lemma foldl_push_plain (h : ∀ p ∈ ps, Plain p) (rooted : Bool) (stack : List Part) :
    ps.foldl (push rooted) stack = ps.reverse ++ stack := by
  induction ps generalizing stack with
  | nil => rfl
  | cons p ps ih =>
    obtain ⟨hp, hps⟩ := List.forall_mem_cons.mp h
    rw [List.foldl_cons, push_plain hp, ih hps]
    simp

/-- Parents are kept in a path that is not rooted. -/
lemma foldl_push_parents (n k : Nat) :
    (List.replicate n dotDot).foldl (push false) (List.replicate k dotDot) =
      List.replicate (n + k) dotDot := by
  induction n generalizing k with
  | zero => simp
  | succ n ih =>
    have hpush : push false (List.replicate k dotDot) dotDot = List.replicate (k + 1) dotDot := by
      cases k <;> rfl
    rw [List.replicate_succ, List.foldl_cons, hpush, ih]
    congr 1
    omega

/-- Tidy elements are kept in a path that is not rooted. -/
lemma Tidy.foldl_push (h : Tidy ps) : ps.foldl (push false) [] = ps.reverse := by
  obtain ⟨n, qs, rfl, hqs⟩ := h
  have hparents := foldl_push_parents n 0
  rw [List.replicate_zero, Nat.add_zero] at hparents
  rw [List.foldl_append, hparents, foldl_push_plain hqs]
  simp

/-- A parent takes back the last plain element, or stands behind other parents. -/
lemma Tidy.push_dotDot {stack : List Part} (h : Tidy stack.reverse) (rooted : Bool) :
    Tidy (push rooted stack dotDot).reverse := by
  obtain ⟨n, qs, heq, hqs⟩ := h
  cases stack with
  | nil =>
    cases rooted with
    | true => exact ⟨0, [], rfl, by simp⟩
    | false => exact ⟨1, [], rfl, by simp⟩
  | cons top rest =>
    have hpush : Path.push rooted (top :: rest) dotDot =
        if top = dotDot then dotDot :: top :: rest else rest := rfl
    rw [hpush]
    rcases List.eq_nil_or_concat qs with rfl | ⟨qs', q, rfl⟩
    · -- only parents so far
      rw [List.append_nil] at heq
      have hmem : top ∈ List.replicate n dotDot := by
        rw [← heq]
        simp
      rw [if_pos (List.eq_of_mem_replicate hmem), List.reverse_cons, heq]
      exact ⟨n + 1, [], by rw [List.append_nil, List.replicate_succ'], by simp⟩
    · rw [List.reverse_cons, List.concat_eq_append, ← List.append_assoc] at heq
      obtain ⟨hrest, htop⟩ := List.append_inj' heq rfl
      have hq : Plain q := hqs q (by simp)
      have hne : top ≠ dotDot := by
        rw [(List.cons.inj htop).1]
        exact hq.ne_dotDot
      rw [if_neg hne]
      exact ⟨n, qs', hrest, fun r hr => hqs r (by simp [hr])⟩

/-- One more element leaves a path tidy. -/
lemma Tidy.push {stack : List Part} (h : Tidy stack.reverse) (hp : '/' ∉ p) (rooted : Bool) :
    Tidy (push rooted stack p).reverse := by
  by_cases hnone : p = [] ∨ p = dot
  · rwa [push_none hnone]
  by_cases hparent : p = dotDot
  · rw [hparent]
    exact h.push_dotDot rooted
  · have hplain : Plain p := ⟨(not_or.mp hnone).1, (not_or.mp hnone).2, hparent, hp⟩
    rw [push_plain hplain, List.reverse_cons]
    exact h.append (List.forall_mem_singleton.mpr hplain)

/-- Elements one after the other leave a path tidy. -/
lemma tidy_foldl_push (hps : ∀ p ∈ ps, '/' ∉ p) (rooted : Bool) {stack : List Part}
    (h : Tidy stack.reverse) : Tidy (ps.foldl (push rooted) stack).reverse := by
  induction ps generalizing stack with
  | nil => exact h
  | cons p ps ih =>
    obtain ⟨hp, hps⟩ := List.forall_mem_cons.mp hps
    exact ih hps (h.push hp rooted)

/-- **Cleaning tidies.** -/
lemma tidy_cleanParts (cs : List Char) : Tidy (cleanParts cs) :=
  tidy_foldl_push (fun _ hp => noSlash_of_mem_split hp) _ ⟨0, [], rfl, by simp⟩

/-- A path of tidy elements is not rooted. -/
lemma Tidy.isRooted_join (h : Tidy ps) (ds : List Char) (hne : ps ≠ []) :
    isRooted (join ps ++ ds) = false := by
  cases ps with
  | nil => exact absurd rfl hne
  | cons p ps =>
    obtain ⟨hnil, -, hslash⟩ := h.of_mem List.mem_cons_self
    cases p with
    | nil => exact absurd rfl hnil
    | cons c cs =>
      have hc : c ≠ '/' := fun hc => hslash (by simp [hc])
      have hjoin : ∃ es, join ((c :: cs) :: ps) ++ ds = c :: es := by
        cases ps with
        | nil => exact ⟨_, rfl⟩
        | cons q ps => exact ⟨_, rfl⟩
      obtain ⟨es, hes⟩ := hjoin
      rw [hes]
      unfold isRooted
      split
      · rename_i heq
        cases heq
        exact absurd rfl hc
      · rfl

/-- **Cleaning keeps what is tidy.** -/
lemma cleanParts_join (h : Tidy ps) (hne : ps ≠ []) : cleanParts (join ps) = ps := by
  have hrooted := h.isRooted_join [] hne
  rw [List.append_nil] at hrooted
  rw [cleanParts, hrooted, split_join (fun p hp => (h.of_mem hp).2.2) hne, h.foldl_push,
    List.reverse_reverse]

/-- Only the first character says whether a path is rooted. -/
lemma isRooted_append (hne : cs ≠ []) (ds : List Char) : isRooted (cs ++ ds) = isRooted cs := by
  cases cs with
  | nil => exact absurd rfl hne
  | cons c cs =>
    unfold isRooted
    by_cases hc : c = '/'
    · subst hc
      rfl
    · split
      · rename_i heq
        exact absurd (List.cons.inj heq).1 hc
      · split
        · rename_i heq
          exact absurd (List.cons.inj heq).1 hc
        · rfl

/-- What follows a slash does not say whether a path is rooted. -/
lemma isRooted_append_slash (cs es : List Char) :
    isRooted (cs ++ '/' :: es) = isRooted (cs ++ ['/']) := by
  have happend : cs ++ '/' :: es = (cs ++ ['/']) ++ es := by simp
  rw [happend, isRooted_append (by simp)]

/-- **Plain elements behind anything stay where they are.** -/
lemma cleanParts_below (cs : List Char) (hrs : ∀ r ∈ rs, Plain r) (hne : rs ≠ []) :
    cleanParts (cs ++ '/' :: join rs) = cleanParts (cs ++ ['/']) ++ rs := by
  have hsplit : split (join rs) = rs := split_join (fun r hr => (hrs r hr).noSlash) hne
  have hpush : ∀ stack : List Part, push (isRooted (cs ++ ['/'])) stack [] = stack :=
    fun _ => rfl
  rw [cleanParts, cleanParts, isRooted_append_slash, split_append_slash, split_append_slash, hsplit,
    List.foldl_append, foldl_push_plain hrs, List.foldl_append]
  simp [split, hpush]

/-- An element is kept, or it is the new one. -/
lemma mem_push {rooted : Bool} {stack : List Part} {q : Part} (h : q ∈ push rooted stack p) :
    q ∈ stack ∨ q = p := by
  unfold push at h
  by_cases hnone : p = [] ∨ p = dot
  · rw [if_pos hnone] at h
    exact Or.inl h
  rw [if_neg hnone] at h
  by_cases hparent : p = dotDot
  · rw [if_pos hparent] at h
    cases stack with
    | nil =>
      cases rooted with
      | true => cases h
      | false => exact Or.inr ((List.mem_singleton.mp h).trans hparent.symm)
    | cons top rest =>
      simp only at h
      split_ifs at h
      · rcases List.mem_cons.mp h with h | h
        · exact Or.inr (h.trans hparent.symm)
        · exact Or.inl h
      · exact Or.inl (List.mem_cons_of_mem _ h)
  · rw [if_neg hparent] at h
    exact (List.mem_cons.mp h).symm

/-- What is left of elements one after the other was there, or is one of them. -/
lemma mem_foldl_push {rooted : Bool} {stack : List Part} (h : p ∈ ps.foldl (push rooted) stack) :
    p ∈ stack ∨ p ∈ ps := by
  induction ps generalizing stack with
  | nil => exact Or.inl h
  | cons q ps ih =>
    rcases ih h with h | h
    · rcases mem_push h with h | rfl
      · exact Or.inl h
      · exact Or.inr List.mem_cons_self
    · exact Or.inr (List.mem_cons_of_mem _ h)

/-- Cleaning invents no elements. -/
lemma mem_split_of_mem_cleanParts (h : p ∈ cleanParts cs) : p ∈ split cs :=
  (mem_foldl_push (List.mem_reverse.mp h)).resolve_left (by simp)

/-- Parents stay. -/
lemma dotDot_mem_push {stack : List Part} (h : dotDot ∈ stack) (rooted : Bool) (p : Part) :
    dotDot ∈ push rooted stack p := by
  by_cases hnone : p = [] ∨ p = dot
  · rwa [push_none hnone]
  by_cases hup : p = dotDot
  · obtain ⟨top, rest, rfl⟩ := List.exists_cons_of_ne_nil (List.ne_nil_of_mem h)
    subst hup
    by_cases htop : top = dotDot
    · rw [htop, push_dotDot_dotDot]
      exact List.mem_cons_self
    · rw [push_dotDot_name htop]
      exact (List.mem_cons.mp h).resolve_left (Ne.symm htop)
  · rw [push_name hnone hup]
    exact List.mem_cons_of_mem _ h

/-- Parents stay behind elements one after the other. -/
lemma dotDot_mem_foldl_push {stack : List Part} (h : dotDot ∈ stack) (rooted : Bool)
    (ps : List Part) : dotDot ∈ ps.foldl (push rooted) stack := by
  induction ps generalizing stack with
  | nil => exact h
  | cons p ps ih => exact ih (dotDot_mem_push h rooted p)

/-- A step that does not go up is the same on top of anything, and below the root. -/
lemma push_append {stack : List Part} (h : dotDot ∉ push false stack p) (rooted : Bool)
    (bottom : List Part) :
    push rooted (stack ++ bottom) p = push false stack p ++ bottom := by
  by_cases hnone : p = [] ∨ p = dot
  · rw [push_none hnone, push_none hnone]
  by_cases hup : p = dotDot
  · subst hup
    cases stack with
    | nil => exact absurd List.mem_cons_self h
    | cons top rest =>
      by_cases htop : top = dotDot
      · rw [htop, push_dotDot_dotDot] at h
        exact absurd List.mem_cons_self h
      · rw [List.cons_append, push_dotDot_name htop, push_dotDot_name htop]
  · rw [push_name hnone hup, push_name hnone hup, List.cons_append]

/-- **Elements that do not go up** leave the same on top of anything, and below the root. -/
lemma foldl_push_append {stack : List Part} (h : dotDot ∉ ps.foldl (push false) stack)
    (rooted : Bool) (bottom : List Part) :
    ps.foldl (push rooted) (stack ++ bottom) = ps.foldl (push false) stack ++ bottom := by
  induction ps generalizing stack with
  | nil => rfl
  | cons p ps ih =>
    have hstep : dotDot ∉ push false stack p := fun hmem => h (dotDot_mem_foldl_push hmem false ps)
    rw [List.foldl_cons, List.foldl_cons, push_append hstep, ih h]

/-! ## Spelling -/

/-- The spelling of clean elements; the directory itself is a dot. -/
def text (ps : List Part) : List Char := if ps = [] then dot else join ps

/-- The spelling of some elements. -/
lemma text_of_ne_nil (h : ps ≠ []) : text ps = join ps := if_neg h

/-- A spelling is never empty. -/
lemma Tidy.text_ne_nil (h : Tidy ps) : text ps ≠ [] := by
  unfold text
  split_ifs with hne
  · decide
  · exact join_ne_nil (fun p hp => (h.of_mem hp).1) hne

/-- The spelling of clean elements is not rooted. -/
lemma Tidy.isRooted_text (h : Tidy ps) : isRooted (text ps) = false := by
  unfold text
  split_ifs with hnil
  · rfl
  · simpa using h.isRooted_join [] hnil

/-- Clean elements of a path that is not rooted. -/
lemma cleanChars_of_not_rooted (h : isRooted cs = false) : cleanChars cs = text (cleanParts cs) := by
  have htidy := tidy_cleanParts cs
  simp only [cleanChars, h, Bool.false_eq_true, if_false, text]
  by_cases hnil : cleanParts cs = []
  · simp [hnil, join]
  · rw [if_neg hnil, if_neg (join_ne_nil (fun p hp => (htidy.of_mem hp).1) hnil)]

/-- **The spelling inside a depot** is that of the clean elements. -/
lemma normChars_eq_text (cs : List Char) : normChars cs = text (cleanParts (slashed cs)) := by
  have htidy := tidy_cleanParts (slashed cs)
  have hjoin : join (cleanParts (slashed cs)) = [] ↔ cleanParts (slashed cs) = [] := by
    refine ⟨fun h => ?_, fun h => by simp [h, join]⟩
    by_contra hne
    exact join_ne_nil (fun p hp => (htidy.of_mem hp).1) hne h
  cases hr : isRooted (slashed cs) with
  | true =>
    have hrooted : isRooted ('/' :: join (cleanParts (slashed cs))) = true := rfl
    simp only [normChars, cleanChars, hr, if_true, hrooted, List.drop_one, List.tail_cons, hjoin]
    rfl
  | false =>
    simp only [normChars, cleanChars_of_not_rooted hr, htidy.isRooted_text, Bool.false_eq_true,
      if_false, if_neg htidy.text_ne_nil]

/-- Cleaning keeps the spelling of what is tidy. -/
lemma cleanChars_join (h : Tidy ps) (hne : ps ≠ []) : cleanChars (join ps) = join ps := by
  have hrooted := h.isRooted_join [] hne
  rw [List.append_nil] at hrooted
  rw [cleanChars_of_not_rooted hrooted, cleanParts_join h hne, text_of_ne_nil hne]

/-- Slashes are left alone. -/
lemma slashed_eq_self (h : '\\' ∉ cs) : slashed cs = cs := by
  unfold slashed
  conv_rhs => rw [← List.map_id cs]
  refine List.map_congr_left fun c hc => if_neg ?_
  rintro rfl
  exact h hc

/-- There are slashes only. -/
lemma noBackslash_slashed (cs : List Char) : '\\' ∉ slashed cs := by
  intro h
  obtain ⟨c, -, hc⟩ := List.mem_map.mp h
  split_ifs at hc with heq
  · cases hc
  · exact heq hc

/-- A path of elements without backslashes has none. -/
lemma noBackslash_join (h : ∀ p ∈ ps, '\\' ∉ p) : '\\' ∉ join ps := by
  intro hmem
  rcases mem_join hmem with heq | ⟨p, hp, hmem⟩
  · cases heq
  · exact h p hp hmem

/-- The spelling inside a depot of what is tidy. -/
lemma normChars_join (h : Tidy ps) (hback : ∀ p ∈ ps, '\\' ∉ p) (hne : ps ≠ []) :
    normChars (join ps) = join ps := by
  rw [normChars_eq_text, slashed_eq_self (noBackslash_join hback), cleanParts_join h hne,
    text_of_ne_nil hne]

/-! ## Below a directory -/

/-- An element that is ordinary in every spelling: plain, and without a backslash. -/
structure Ordinary (p : Part) : Prop extends Plain p where
  /-- It is one element in every spelling. -/
  noBackslash : '\\' ∉ p

/-- Whether an element is ordinary can be found out. -/
instance decidableOrdinary (p : Part) : Decidable (Ordinary p) :=
  decidable_of_iff (p ≠ [] ∧ p ≠ dot ∧ p ≠ dotDot ∧ '/' ∉ p ∧ '\\' ∉ p)
    ⟨fun ⟨hnil, hdot, hparent, hslash, hback⟩ => ⟨⟨hnil, hdot, hparent, hslash⟩, hback⟩,
      fun h => ⟨h.ne_nil, h.ne_dot, h.ne_dotDot, h.noSlash, h.noBackslash⟩⟩

/-- What is put below a tidy directory lies exactly there. -/
lemma norm_joinAll_below {ds : List Part} (hds : Tidy ds) (hback : ∀ p ∈ ds, '\\' ∉ p)
    (hne : ds ≠ []) (hrs : ∀ r ∈ rs, Ordinary r) (hrs' : rs ≠ []) :
    norm (joinAll [String.ofList (join ds), String.ofList (join rs)]) =
      String.ofList (join (ds ++ rs)) := by
  have htidy : Tidy (ds ++ rs) := hds.append fun r hr => (hrs r hr).toPlain
  have hback' : ∀ p ∈ ds ++ rs, '\\' ∉ p :=
    List.forall_mem_append.mpr ⟨hback, fun r hr => (hrs r hr).noBackslash⟩
  have hnil : ds ++ rs ≠ [] := by simp [hne]
  have hjoin : join [join ds, join rs] = join (ds ++ rs) := by
    rw [join_append hne hrs']
    rfl
  have hds' : String.ofList (join ds) ≠ "" := by
    simpa using join_ne_nil (fun p hp => (hds.of_mem hp).1) hne
  have hrs'' : String.ofList (join rs) ≠ "" := by
    simpa using join_ne_nil (fun r hr => (hrs r hr).ne_nil) hrs'
  have hall : joinAll [String.ofList (join ds), String.ofList (join rs)] =
      String.ofList (join (ds ++ rs)) := by
    simp only [joinAll, List.filter_cons, hds', hrs'', ne_eq, not_false_eq_true, decide_true,
      if_true, List.filter_nil, List.map_cons, List.map_nil, String.toList_ofList, hjoin,
      cleanChars_join htidy hnil]
  rw [hall, norm, String.toList_ofList, normChars_join htidy hback' hnil]

/-- The clean spelling of plain elements behind a directory starts with something that does not
depend on them, and that ends in a slash if there is anything. -/
lemma exists_lead (cs : List Char) : ∃ lead, (lead = [] ∨ ∃ es, lead = es ++ ['/']) ∧
    ∀ rs : List Part, (∀ r ∈ rs, Plain r) → rs ≠ [] →
      cleanChars (cs ++ '/' :: join rs) = lead ++ join rs := by
  let as := cleanParts (cs ++ ['/'])
  let root : List Char := if isRooted (cs ++ ['/']) then ['/'] else []
  let middle : List Char := if as = [] then [] else join as ++ ['/']
  refine ⟨root ++ middle, ?_, fun rs hrs hne => ?_⟩
  · by_cases has : as = []
    · simp only [middle, if_pos has, List.append_nil, root]
      split_ifs
      · exact Or.inr ⟨[], rfl⟩
      · exact Or.inl rfl
    · refine Or.inr ⟨root ++ join as, ?_⟩
      simp [middle, has]
  · have hmiddle : join (as ++ rs) = middle ++ join rs := by
      by_cases has : as = []
      · simp [middle, has]
      · rw [join_append has hne]
        simp [middle, has]
    have hparts : cleanParts (cs ++ '/' :: join rs) = as ++ rs := cleanParts_below cs hrs hne
    have htidy : Tidy (as ++ rs) := (tidy_cleanParts _).append hrs
    have hfull : join (as ++ rs) ≠ [] :=
      join_ne_nil (fun p hp => (htidy.of_mem hp).1) (by simp [hne])
    rw [hmiddle] at hfull
    simp only [cleanChars, hparts, isRooted_append_slash, hmiddle, if_neg hfull, List.append_assoc, root]
    split_ifs <;> rfl

/-- The elements of ordinary names are ordinary. -/
lemma ordinary_of_mem_map {names : List String} (h : ∀ r ∈ names, Ordinary r.toList) :
    ∀ p ∈ names.map String.toList, Ordinary p := by
  intro p hp
  obtain ⟨r, hr, rfl⟩ := List.mem_map.mp hp
  exact h r hr

/-- Joining names to a root is the same with nothing or a directory in front of the names. -/
lemma exists_lead_joinAll (root : String) : ∃ lead, (lead = [] ∨ ∃ es, lead = es ++ ['/']) ∧
    ∀ place : List String, (∀ r ∈ place, Ordinary r.toList) → place ≠ [] →
      joinAll (root :: place) = String.ofList (lead ++ join (place.map String.toList)) := by
  have hkeep : ∀ place : List String, (∀ r ∈ place, Ordinary r.toList) →
      place.filter (· ≠ "") = place := by
    intro place hplace
    refine List.filter_eq_self.mpr fun r hr => ?_
    have hnil := (hplace r hr).ne_nil
    simpa using fun h : r = "" => hnil (by simp [h])
  by_cases hroot : root = ""
  · refine ⟨[], Or.inl rfl, fun place hplace hne => ?_⟩
    have htidy : Tidy (place.map String.toList) :=
      tidy_of_plain fun p hp => (ordinary_of_mem_map hplace p hp).toPlain
    obtain ⟨q, qs, rfl⟩ := List.exists_cons_of_ne_nil hne
    have hfilter : (root :: q :: qs).filter (· ≠ "") = q :: qs := by
      rw [List.filter_cons_of_neg (by simp [hroot]), hkeep _ hplace]
    simp only [joinAll, hfilter, List.nil_append]
    rw [cleanChars_join htidy (by simp)]
  · obtain ⟨lead, hlead, hall⟩ := exists_lead root.toList
    refine ⟨lead, hlead, fun place hplace hne => ?_⟩
    have hfilter : (root :: place).filter (· ≠ "") = root :: place := by
      rw [List.filter_cons_of_pos (by simpa using hroot), hkeep _ hplace]
    have hjoin : join ((root :: place).map String.toList) =
        root.toList ++ '/' :: join (place.map String.toList) := by
      rw [List.map_cons, ← List.singleton_append, join_append (by simp) (by simpa using hne)]
      rfl
    have hplain := fun p hp => (ordinary_of_mem_map hplace p hp).toPlain
    simp only [joinAll, hfilter]
    rw [hjoin, hall _ hplain (by simpa using hne)]

/-- With slashes only, what stands in front of ordinary elements is cleaned by itself. -/
lemma exists_top_of_lead {lead : List Char} (hlead : lead = [] ∨ ∃ es, lead = es ++ ['/']) :
    ∃ top, Tidy top ∧ (∀ p ∈ top, '\\' ∉ p) ∧
      ∀ rs : List Part, (∀ r ∈ rs, Ordinary r) → rs ≠ [] →
        normChars (lead ++ join rs) = join (top ++ rs) := by
  rcases hlead with rfl | ⟨es, rfl⟩
  · refine ⟨[], tidy_of_plain (by simp), by simp, fun rs hrs hne => ?_⟩
    exact normChars_join (tidy_of_plain fun r hr => (hrs r hr).toPlain)
      (fun r hr => (hrs r hr).noBackslash) hne
  · refine ⟨cleanParts (slashed es ++ ['/']), tidy_cleanParts _, fun p hp hmem => ?_,
      fun rs hrs hne => ?_⟩
    · have hmem' := subset_of_mem_split (mem_split_of_mem_cleanParts hp) hmem
      rcases List.mem_append.mp hmem' with h | h
      · exact noBackslash_slashed es h
      · simp at h
    · have hslashed : slashed (es ++ ['/'] ++ join rs) = slashed es ++ '/' :: join rs := by
        have hrs' := slashed_eq_self (noBackslash_join fun r hr => (hrs r hr).noBackslash)
        rw [slashed] at hrs' ⊢
        rw [List.map_append, List.map_append, hrs']
        simp [slashed]
      rw [normChars_eq_text, hslashed,
        cleanParts_below _ (fun r hr => (hrs r hr).toPlain) hne, text_of_ne_nil (by simp [hne])]

/-- **Every project root has a place**: what is put below it lies below the same elements. -/
lemma exists_top (root : String) : ∃ top, Tidy top ∧ (∀ p ∈ top, '\\' ∉ p) ∧
    ∀ place : List String, (∀ r ∈ place, Ordinary r.toList) → place ≠ [] →
      norm (joinAll (root :: place)) = String.ofList (join (top ++ place.map String.toList)) := by
  obtain ⟨lead, hlead, hall⟩ := exists_lead_joinAll root
  obtain ⟨top, htidy, hback, htop⟩ := exists_top_of_lead hlead
  refine ⟨top, htidy, hback, fun place hplace hne => ?_⟩
  rw [hall place hplace hne, norm, String.toList_ofList,
    htop _ (ordinary_of_mem_map hplace) (by simpa using hne)]

end SceneForge.Path
