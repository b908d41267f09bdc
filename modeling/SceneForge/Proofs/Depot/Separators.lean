import Mathlib.Algebra.Order.BigOperators.Group.List
import Mathlib.Algebra.Order.Ring.Int
import SceneForge.Proofs.Depot.Reach

set_option autoImplicit false

/-!
# Spellings with backslashes

The path of a location text is found in two readings. The first one takes slashes as separators, and
cancels `..` against the element before it; the second one takes backslashes as separators too. So
an element with a backslash is one element for the first reading and may be several for the second.
If `..` stands behind such an element, the first reading removes all of it, and a spelling with
slashes only the last part of it. That is the only way in which the two spellings of a text come to
mean different paths.

## Main definitions

* `SceneForge.Path.pieces` — the parts of an element in the second reading.
* `SceneForge.Path.OneStep` — elements that lead one step down in the second reading.
* `SceneForge.Path.TakesBack` — texts where `..` takes back an element that is not one step down.
* `SceneForge.Path.Descends` — texts whose elements with backslashes lead down only.
* `SceneForge.Path.Forward` — texts without `..` as an element.

## Main results

* `SceneForge.Path.spread_push` — a step of the first reading, in terms of the second.
* `SceneForge.Path.Forward.prefix_reach` — texts without `..` stay below their directory.
* `SceneForge.Path.height_foldl_push`, `SceneForge.Path.weigh_lt` — how deep readings get.
* `SceneForge.Assigns.resolve_slashedText` — when both spellings have one path.
-/

namespace SceneForge

namespace Path

variable {p q : Part} {ps qs stack : List Part} {cs : List Char}

/-! ## The two readings -/

/-- The parts of an element if backslashes are separators too. -/
def pieces (p : Part) : List Part := split (slashed p)

/-- Pieces have no slash. -/
lemma noSlash_of_mem_pieces (h : q ∈ pieces p) : '/' ∉ q := noSlash_of_mem_split h

/-- An element without separators is one piece. -/
lemma pieces_of_noBackslash (hslash : '/' ∉ p) (hback : '\\' ∉ p) : pieces p = [p] := by
  rw [pieces, slashed_eq_self hback, split_of_noSlash hslash]

/-- The pieces of elements are those of the path that they are joined to. -/
lemma split_slashed_join (hps : ∀ p ∈ ps, '/' ∉ p) (hne : ps ≠ []) :
    split (slashed (join ps)) = ps.flatMap pieces := by
  induction ps with
  | nil => exact absurd rfl hne
  | cons p ps ih =>
    obtain ⟨hp, hps⟩ := List.forall_mem_cons.mp hps
    cases ps with
    | nil => simp [join, pieces]
    | cons q ps =>
      have hslashed : slashed (join (p :: q :: ps)) = slashed p ++ '/' :: slashed (join (q :: ps)) := by
        rw [join, slashed_append]
        rfl
      rw [hslashed, split_append_slash, ih hps (by simp), List.flatMap_cons]
      rfl

/-- **The pieces of a text** are those of its elements. -/
lemma split_slashed (cs : List Char) : split (slashed cs) = (split cs).flatMap pieces := by
  have h := split_slashed_join (fun _ hp => noSlash_of_mem_split hp) (split_ne_nil cs)
  rwa [join_split] at h

/-- The second reading of a reversed list of elements, reversed as well. -/
def spread (stack : List Part) : List Part := (stack.reverse.flatMap pieces).foldl (push false) []

/-- One more element is read after all others. -/
lemma spread_cons (p : Part) (stack : List Part) :
    spread (p :: stack) = (pieces p).foldl (push false) (spread stack) := by
  simp [spread, List.flatMap_append, List.foldl_append]

/-! ## Taking back -/

/-- An element that leads one step down in the second reading. -/
def OneStep (p : Part) : Prop := ∃ q, q ≠ dotDot ∧ (pieces p).foldl (push false) [] = [q]

/-- Whether an element leads one step down can be found out. -/
instance decidableOneStep (p : Part) : Decidable (OneStep p) :=
  decidable_of_iff (((pieces p).foldl (push false) []).length = 1 ∧
      dotDot ∉ (pieces p).foldl (push false) []) <| by
    rw [List.length_eq_one_iff, OneStep]
    constructor
    · rintro ⟨⟨q, hq⟩, hup⟩
      exact ⟨q, fun h => hup (by simp [hq, h]), hq⟩
    · rintro ⟨q, hne, hq⟩
      exact ⟨⟨q, hq⟩, by simpa [hq] using hne.symm⟩

/-- A plain element without backslash is one step. -/
lemma Ordinary.oneStep (h : Ordinary p) : OneStep p := by
  refine ⟨p, h.ne_dotDot, ?_⟩
  rw [pieces_of_noBackslash h.noSlash h.noBackslash, List.foldl_cons, push_plain h.toPlain]
  rfl

/-- One step down goes on top of what was read before. -/
lemma OneStep.spread_cons (h : OneStep p) (stack : List Part) :
    ∃ q, q ≠ dotDot ∧ spread (p :: stack) = q :: spread stack := by
  obtain ⟨q, hne, hq⟩ := h
  have hkept : dotDot ∉ (pieces p).foldl (push false) [] := by simpa [hq] using hne.symm
  have happend := foldl_push_append hkept false (spread stack)
  rw [List.nil_append, hq] at happend
  exact ⟨q, hne, (Path.spread_cons p stack).trans happend⟩

/-- Whether the next element of the first reading is `..` behind an element that is not one step. -/
def Cuts (stack : List Part) (p : Part) : Prop :=
  p = dotDot ∧ ∃ top ∈ stack.head?, top ≠ dotDot ∧ ¬ OneStep top

/-- Whether the next element cuts can be found out. -/
instance decidableCuts (stack : List Part) (p : Part) : Decidable (Cuts stack p) :=
  match stack with
  | [] => isFalse (by simp [Cuts])
  | top :: rest => decidable_of_iff (p = dotDot ∧ top ≠ dotDot ∧ ¬ OneStep top) (by simp [Cuts])

/-- Whether the first reading of some elements takes back an element that is not one step. -/
def CutsWithin : List Part → List Part → Prop
  | _, [] => False
  | stack, p :: ps => Cuts stack p ∨ CutsWithin (push false stack p) ps

/-- Whether a reading takes something back can be found out. -/
instance decidableCutsWithin : (stack ps : List Part) → Decidable (CutsWithin stack ps)
  | _, [] => isFalse id
  | stack, p :: ps =>
    have := decidableCutsWithin (push false stack p) ps
    inferInstanceAs (Decidable (Cuts stack p ∨ CutsWithin (push false stack p) ps))

/-- **A step of the first reading**, in terms of the second: unless it cuts, it is the same to read
the next element first, and to read its pieces after everything else. -/
lemma spread_push (h : ¬ Cuts stack p) :
    spread (push false stack p) = (pieces p).foldl (push false) (spread stack) := by
  by_cases hnone : p = [] ∨ p = dot
  · rw [push_none hnone]
    rcases hnone with rfl | rfl <;> rfl
  by_cases hup : p = dotDot
  · subst hup
    have hpieces : pieces dotDot = [dotDot] := by decide
    rw [hpieces, List.foldl_cons, List.foldl_nil]
    cases stack with
    | nil => decide
    | cons top rest =>
      by_cases htop : top = dotDot
      · rw [htop, push_dotDot_dotDot, spread_cons dotDot, hpieces]
        rfl
      · -- the element that is taken back is one step, so the second reading takes it back too
        have hstep : OneStep top := by
          by_contra hstep
          exact h ⟨rfl, top, rfl, htop, hstep⟩
        obtain ⟨q, hne, hspread⟩ := hstep.spread_cons rest
        rw [push_dotDot_name htop, hspread, push_dotDot_name hne]
  · rw [push_name hnone hup, spread_cons]

/-- **A reading that never cuts** is the same as reading the pieces of all elements. -/
lemma spread_foldl_push (h : ¬ CutsWithin stack ps) :
    spread (ps.foldl (push false) stack) = (ps.flatMap pieces).foldl (push false) (spread stack) := by
  induction ps generalizing stack with
  | nil => rfl
  | cons p ps ih =>
    obtain ⟨hp, hps⟩ := not_or.mp h
    rw [List.foldl_cons, List.flatMap_cons, List.foldl_append, ih hps, spread_push hp]

/-- Parents and single steps below do not matter for what is cut. -/
lemma cutsWithin_append_iff (stack : List Part) {bottom bottom' : List Part}
    (hb : ∀ p ∈ bottom, p = dotDot ∨ OneStep p)
    (hb' : ∀ p ∈ bottom', p = dotDot ∨ OneStep p) :
    CutsWithin (stack ++ bottom) ps ↔ CutsWithin (stack ++ bottom') ps := by
  induction ps generalizing stack bottom bottom' with
  | nil => exact Iff.rfl
  | cons p ps ih =>
    have hnever : ∀ {b : List Part}, (∀ p ∈ b, p = dotDot ∨ OneStep p) → ¬ Cuts b p := by
      rintro b hb ⟨-, top, htop, hne, hstep⟩
      exact (hb top (List.mem_of_mem_head? htop)).elim hne hstep
    have hkept : ∀ {b : List Part}, (∀ p ∈ b, p = dotDot ∨ OneStep p) →
        ∀ q ∈ push false b dotDot, q = dotDot ∨ OneStep q := fun hb q hq =>
      (mem_push hq).elim (hb q) Or.inl
    unfold CutsWithin
    cases stack with
    | nil =>
      rw [List.nil_append, List.nil_append, or_iff_right (hnever hb), or_iff_right (hnever hb')]
      by_cases hup : p = dotDot
      · have h := ih [] (hkept hb) (hkept hb')
        rwa [← hup] at h
      by_cases hnone : p = [] ∨ p = dot
      · rw [push_none hnone, push_none hnone]
        exact ih [] hb hb'
      · rw [push_name hnone hup, push_name hnone hup]
        exact ih [p] hb hb'
    | cons top rest =>
      have hcuts : Cuts (top :: rest ++ bottom) p ↔ Cuts (top :: rest ++ bottom') p := Iff.rfl
      have hpush : ∀ b : List Part, push false (top :: rest ++ b) p = push false (top :: rest) p ++ b := by
        intro b
        simp only [push, List.cons_append]
        split_ifs <;> rfl
      rw [hcuts, hpush, hpush]
      exact or_congr_right (ih _ hb hb')

/-- A text where `..` takes back an element that is not one step down. -/
def TakesBack (v : String) : Prop := CutsWithin [] (split v.toList)

/-- Whether a text takes something back can be found out. -/
instance decidableTakesBack (v : String) : Decidable (TakesBack v) :=
  inferInstanceAs (Decidable (CutsWithin [] (split v.toList)))

/-! ## How deep a reading gets -/

/-- How far down an element leads: a name goes down, the parent goes up. -/
def rise (q : Part) : Int := if q = [] ∨ q = dot then 0 else if q = dotDot then -1 else 1

/-- How far down a stack of clean elements leads. -/
def height (stack : List Part) : Int := (stack.map rise).sum

/-- A name goes down. -/
lemma rise_name (h : ¬ (q = [] ∨ q = dot)) (hup : q ≠ dotDot) : rise q = 1 := by
  rw [rise, if_neg h, if_neg hup]

/-- **A step of a reading** goes as far down as its element leads. -/
lemma height_push (h : Tidy stack.reverse) (p : Part) :
    height (push false stack p) = height stack + rise p := by
  by_cases hnone : p = [] ∨ p = dot
  · rw [push_none hnone, rise, if_pos hnone, add_zero]
  by_cases hup : p = dotDot
  · subst hup
    have hrise : rise dotDot = -1 := by decide
    cases stack with
    | nil => decide
    | cons top rest =>
      by_cases htop : top = dotDot
      · rw [htop, push_dotDot_dotDot]
        simp only [height, List.map_cons, List.sum_cons]
        omega
      · obtain ⟨hnil, hdot, -⟩ := h.of_mem (List.mem_reverse.mpr List.mem_cons_self)
        have hname : rise top = 1 := rise_name (not_or.mpr ⟨hnil, hdot⟩) htop
        rw [push_dotDot_name htop]
        simp only [height, List.map_cons, List.sum_cons]
        omega
  · rw [push_name hnone hup]
    simp only [height, List.map_cons, List.sum_cons]
    omega

/-- **A whole reading** goes as far down as its elements lead together. -/
lemma height_foldl_push (h : Tidy stack.reverse) (hps : ∀ p ∈ ps, '/' ∉ p) :
    height (ps.foldl (push false) stack) = height stack + (ps.map rise).sum := by
  induction ps generalizing stack with
  | nil => simp
  | cons p ps ih =>
    obtain ⟨hp, hps⟩ := List.forall_mem_cons.mp hps
    rw [List.foldl_cons, ih (h.push hp false) hps, height_push h, List.map_cons, List.sum_cons, add_assoc]

/-- How far down an element leads in the second reading. -/
def weight (p : Part) : Int := ((pieces p).map rise).sum

/-- How far down a stack leads in the second reading. -/
def weigh (stack : List Part) : Int := (stack.map weight).sum

/-- The pieces of elements lead as far down as the elements do in the second reading. -/
lemma sum_rise_pieces (ps : List Part) : ((ps.flatMap pieces).map rise).sum = (ps.map weight).sum := by
  induction ps with
  | nil => rfl
  | cons p ps ih => simp [List.flatMap_cons, ih, weight]

/-- The second reading goes as far down as the stack weighs. -/
lemma height_spread (stack : List Part) : height (spread stack) = weigh stack := by
  have hslash : ∀ q ∈ stack.reverse.flatMap pieces, '/' ∉ q := by
    intro q hq
    obtain ⟨p, -, hq⟩ := List.mem_flatMap.mp hq
    exact noSlash_of_mem_pieces hq
  rw [spread, height_foldl_push (tidy_of_plain (by simp)) hslash, sum_rise_pieces, weigh,
    List.map_reverse, List.sum_reverse]
  exact zero_add _

/-- An element that leads down only: the second reading finds a name in it and no parent. -/
structure Down (p : Part) : Prop where
  /-- It never goes up. -/
  noParent : dotDot ∉ pieces p
  /-- It goes down. -/
  exists_name : ∃ q ∈ pieces p, ¬ (q = [] ∨ q = dot)

/-- Whether an element leads down only can be found out. -/
instance decidableDown (p : Part) : Decidable (Down p) :=
  decidable_of_iff (dotDot ∉ pieces p ∧ ∃ q ∈ pieces p, ¬ (q = [] ∨ q = dot))
    ⟨fun ⟨hup, hname⟩ => ⟨hup, hname⟩, fun h => ⟨h.noParent, h.exists_name⟩⟩

/-- A plain element without backslash leads down. -/
lemma Ordinary.down (h : Ordinary p) : Down p := by
  have hpieces := pieces_of_noBackslash h.noSlash h.noBackslash
  exact ⟨by simpa [hpieces] using h.ne_dotDot.symm, p, by simp [hpieces],
    not_or.mpr ⟨h.ne_nil, h.ne_dot⟩⟩

/-- What leads down only has a weight. -/
lemma Down.one_le_weight (h : Down p) : 1 ≤ weight p := by
  obtain ⟨q, hq, hname⟩ := h.exists_name
  have hup : q ≠ dotDot := fun heq => h.noParent (heq ▸ hq)
  have hnonneg : ∀ r ∈ (pieces p).map rise, 0 ≤ r := by
    intro r hr
    obtain ⟨s, hs, rfl⟩ := List.mem_map.mp hr
    have hup : s ≠ dotDot := fun heq => h.noParent (heq ▸ hs)
    rw [rise, if_neg hup]
    split_ifs <;> decide
  rw [← rise_name hname hup]
  exact List.single_le_sum hnonneg _ (List.mem_map_of_mem hq)

/-- What leads down only, and weighs one, is one step down. -/
lemma Down.oneStep (h : Down p) (hweight : weight p = 1) : OneStep p := by
  have hslash : ∀ q ∈ pieces p, '/' ∉ q := fun q hq => noSlash_of_mem_pieces hq
  have hnone : Tidy ([] : List Part).reverse := tidy_of_plain (by simp)
  have htidy := tidy_foldl_push hslash false hnone
  have hheight := height_foldl_push hnone hslash
  have hmem : ∀ q ∈ (pieces p).foldl (push false) [], q ≠ dotDot ∧ rise q = 1 := by
    intro q hq
    obtain ⟨hnil, hdot, -⟩ := htidy.of_mem (List.mem_reverse.mpr hq)
    have hup : q ≠ dotDot := fun heq => by
      rcases mem_foldl_push hq with hq | hq
      · cases hq
      · exact h.noParent (heq ▸ hq)
    exact ⟨hup, rise_name (not_or.mpr ⟨hnil, hdot⟩) hup⟩
  -- all that is left are names, as many as the weight
  have hlength : (((pieces p).foldl (push false) []).length : Int) = 1 := by
    rw [← hweight, weight, ← zero_add ((pieces p).map rise).sum]
    refine Eq.trans ?_ hheight
    rw [height, List.map_congr_left fun q hq => (hmem q hq).2]
    simp
  obtain ⟨q, hq⟩ := List.length_eq_one_iff.mp (by exact_mod_cast hlength)
  exact ⟨q, (hmem q (by simp [hq])).1, hq⟩

/-- Nothing and the directory itself have no weight. -/
lemma weight_none (h : p = [] ∨ p = dot) : weight p = 0 := by
  rcases h with rfl | rfl <;> decide

/-- The parent weighs as much as it rises. -/
lemma weight_dotDot : weight dotDot = -1 := by decide

/-- **A step of the first reading** does not weigh more than its element, and less if it cuts. -/
lemma weigh_push (hstack : ∀ q ∈ stack, q = dotDot ∨ Down q) (p : Part) :
    weigh (push false stack p) ≤ weigh stack + weight p ∧
      (Cuts stack p → weigh (push false stack p) < weigh stack + weight p) := by
  by_cases hnone : p = [] ∨ p = dot
  · rw [push_none hnone, weight_none hnone, add_zero]
    refine ⟨le_rfl, fun hcut => ?_⟩
    rw [hcut.1] at hnone
    exact absurd hnone (by decide)
  by_cases hup : p = dotDot
  · subst hup
    rw [weight_dotDot]
    cases stack with
    | nil => exact ⟨by decide, fun hcut => by simp [Cuts] at hcut⟩
    | cons top rest =>
      by_cases htop : top = dotDot
      · subst htop
        rw [push_dotDot_dotDot]
        have hweigh : weigh (dotDot :: dotDot :: rest) = weigh (dotDot :: rest) + -1 := by
          simp [weigh, weight_dotDot, add_comm]
        exact ⟨hweigh.le, fun hcut => by simp [Cuts] at hcut⟩
      · have hdown : Down top := (hstack top List.mem_cons_self).resolve_left htop
        have hweight := hdown.one_le_weight
        have hweigh : weigh (top :: rest) = weight top + weigh rest := by simp [weigh]
        rw [push_dotDot_name htop, hweigh]
        refine ⟨by omega, ?_⟩
        rintro ⟨-, top', htop', -, hstep⟩
        obtain rfl : top = top' := by simpa using htop'
        have hheavy : weight top ≠ 1 := fun h => hstep (hdown.oneStep h)
        omega
  · rw [push_name hnone hup]
    have hweigh : weigh (p :: stack) = weight p + weigh stack := by simp [weigh]
    exact ⟨by omega, fun hcut => absurd hcut.1 hup⟩

/-- **A whole reading** of elements that lead down only does not weigh more than its elements, and
less if it cuts somewhere. -/
lemma weigh_foldl_push (hstack : ∀ q ∈ stack, q = dotDot ∨ Down q)
    (hps : ∀ p ∈ ps, (p = [] ∨ p = dot) ∨ p = dotDot ∨ Down p) :
    weigh (ps.foldl (push false) stack) ≤ weigh stack + (ps.map weight).sum ∧
      (CutsWithin stack ps → weigh (ps.foldl (push false) stack) < weigh stack + (ps.map weight).sum) := by
  induction ps generalizing stack with
  | nil => exact ⟨by simp, fun h => h.elim⟩
  | cons p ps ih =>
    obtain ⟨hp, hps⟩ := List.forall_mem_cons.mp hps
    have hstack' : ∀ q ∈ push false stack p, q = dotDot ∨ Down q := by
      by_cases hnone : p = [] ∨ p = dot
      · rwa [push_none hnone]
      · intro q hq
        rcases mem_push hq with hq | rfl
        · exact hstack q hq
        · exact hp.resolve_left hnone
    obtain ⟨hstep, hcut⟩ := weigh_push hstack p
    obtain ⟨hrun, hcuts⟩ := ih hstack' hps
    simp only [List.foldl_cons, List.map_cons, List.sum_cons]
    refine ⟨by omega, fun h => ?_⟩
    rcases h with h | h
    · have := hcut h
      omega
    · have := hcuts h
      omega

/-! ## Both readings behind a directory -/

/-- A text with every backslash replaced. -/
def slashedText (v : String) : String := String.ofList (slashed v.toList)

/-- A text whose elements with backslashes lead down only. -/
def Descends (v : String) : Prop := ∀ p ∈ split v.toList, '\\' ∈ p → Down p

/-- A text that has no parent as an element, whichever separators count. -/
def Forward (v : String) : Prop := dotDot ∉ split (slashed v.toList)

/-- Whether a text has no parent can be found out. -/
instance decidableForward (v : String) : Decidable (Forward v) :=
  inferInstanceAs (Decidable (dotDot ∉ split (slashed v.toList)))

/-- Whether elements with backslashes lead down only can be found out. -/
instance decidableDescends (v : String) : Decidable (Descends v) :=
  inferInstanceAs (Decidable (∀ p ∈ split v.toList, '\\' ∈ p → Down p))

/-- The elements of such a text. -/
lemma Descends.element {v : String} (h : Descends v) (hp : p ∈ split v.toList) :
    (p = [] ∨ p = dot) ∨ p = dotDot ∨ Down p := by
  by_cases hback : '\\' ∈ p
  · exact Or.inr (Or.inr (h p hp hback))
  by_cases hnone : p = [] ∨ p = dot
  · exact Or.inl hnone
  by_cases hup : p = dotDot
  · exact Or.inr (Or.inl hup)
  · have hplain : Plain p := ⟨(not_or.mp hnone).1, (not_or.mp hnone).2, hup, noSlash_of_mem_split hp⟩
    exact Or.inr (Or.inr (Ordinary.down ⟨hplain, hback⟩))

section Directory

variable {ds : List Part}

/-- The elements of a tidy directory without backslashes go up or are one step down. -/
lemma Tidy.dotDot_or_ordinary (h : Tidy ds) (hback : ∀ p ∈ ds, '\\' ∉ p) (hp : p ∈ ds.reverse) :
    p = dotDot ∨ Ordinary p := by
  have hmem := List.mem_reverse.mp hp
  exact (h.dotDot_or_plain hmem).imp_right fun hplain => ⟨hplain, hback p hmem⟩

/-- Both readings of a tidy directory without backslashes are the directory. -/
lemma spread_reverse (h : Tidy ds) (hback : ∀ p ∈ ds, '\\' ∉ p) : spread ds.reverse = ds.reverse := by
  have hpieces : ds.flatMap pieces = ds := by
    conv_rhs => rw [← List.flatMap_singleton' ds]
    exact List.flatMap_congr fun p hp => pieces_of_noBackslash (h.of_mem hp).2.2 (hback p hp)
  rw [spread, List.reverse_reverse, hpieces, h.foldl_push]

/-- What the first reading of a text leaves behind a directory. -/
def walk (ds : List Part) (v : String) : List Part := (split v.toList).foldl (push false) ds.reverse

/-- What the first reading leaves is tidy. -/
lemma tidy_walk (h : Tidy ds) (v : String) : Tidy (walk ds v).reverse :=
  tidy_foldl_push (fun _ hp => noSlash_of_mem_split hp) false (by rwa [List.reverse_reverse])

/-- The path of a text behind a directory, between the two readings. -/
lemma joinAll_text (h : Tidy ds) (v : String) :
    joinAll [String.ofList (text ds), v] = String.ofList (text (walk ds v).reverse) := by
  have hrooted : isRooted (text ds) = false := by
    unfold text
    split_ifs with hne
    · rfl
    · have hjoin := h.isRooted_join [] hne
      rwa [List.append_nil] at hjoin
  have hfold : (split (text ds)).foldl (push false) [] = ds.reverse := by
    have hparts := congrArg List.reverse (cleanParts_text h)
    rwa [cleanParts, hrooted, List.reverse_reverse] at hparts
  have hdir : String.ofList (text ds) ≠ "" := by simpa using h.text_ne_nil
  by_cases hv : v = ""
  · have hwalk : walk ds "" = ds.reverse := rfl
    simp only [joinAll, hv, hwalk, List.filter_cons, hdir, ne_eq, not_false_eq_true, decide_true,
      if_true, not_true_eq_false, decide_false, Bool.false_eq_true, if_false, List.filter_nil,
      List.map_cons, List.map_nil, String.toList_ofList, join, List.reverse_reverse]
    rw [cleanChars_of_not_rooted hrooted, cleanParts_text h]
  · have hjoin : join [text ds, v.toList] = text ds ++ '/' :: v.toList := rfl
    have hrooted' : isRooted (text ds ++ '/' :: v.toList) = false := by
      rw [isRooted_append h.text_ne_nil, hrooted]
    have hparts : cleanParts (text ds ++ '/' :: v.toList) = (walk ds v).reverse := by
      rw [cleanParts, hrooted', split_append_slash, List.foldl_append, hfold]
      rfl
    simp only [joinAll, List.filter_cons, hdir, hv, ne_eq, not_false_eq_true, decide_true, if_true,
      List.filter_nil, List.map_cons, List.map_nil, String.toList_ofList, hjoin]
    rw [cleanChars_of_not_rooted hrooted', hparts]

/-- Tidy elements that start with a separator do not go up. -/
lemma Tidy.plain_of_isRooted (h : Tidy ps) (hrooted : isRooted (slashed (join ps)) = true) :
    ∀ p ∈ ps, Plain p := by
  obtain ⟨n, qs, rfl, hqs⟩ := h
  cases n with
  | zero => simpa using hqs
  | succ n =>
    -- the first element would be a parent
    have hjoin : ∃ es, join (List.replicate (n + 1) dotDot ++ qs) = '.' :: es := by
      rw [List.replicate_succ, List.cons_append]
      cases List.replicate n dotDot ++ qs with
      | nil => exact ⟨_, rfl⟩
      | cons q ps => exact ⟨_, rfl⟩
    obtain ⟨es, hes⟩ := hjoin
    rw [hes] at hrooted
    cases hrooted

/-- What a text leads to, by the second reading of what the first one leaves. -/
lemma reach_eq_spread (h : Tidy ds) {v : String}
    (hup : dotDot ∉ spread (walk ds v) ∨ ∀ p ∈ walk ds v, p = dotDot ∨ dotDot ∉ pieces p) :
    reach (String.ofList (text ds)) v = (spread (walk ds v)).reverse := by
  have htidy := tidy_walk h v
  rw [reach, joinAll_text h v, String.toList_ofList]
  by_cases hne : walk ds v = []
  · rw [hne]
    decide
  have hne' : (walk ds v).reverse ≠ [] := by simpa using hne
  have hsplit : split (slashed (text (walk ds v).reverse)) = (walk ds v).reverse.flatMap pieces := by
    rw [text_of_ne_nil hne', split_slashed_join (fun p hp => (htidy.of_mem hp).2.2) hne']
  rw [cleanParts, hsplit]
  cases hrooted : isRooted (slashed (text (walk ds v).reverse)) with
  | false => rfl
  | true =>
    -- the first element starts with a backslash, so the path does not go up in the first reading
    have hspread : dotDot ∉ spread (walk ds v) := by
      refine hup.elim id fun hdown hmem => ?_
      rw [text_of_ne_nil hne'] at hrooted
      have hplain := htidy.plain_of_isRooted hrooted
      rcases mem_foldl_push hmem with hmem | hmem
      · cases hmem
      · obtain ⟨p, hp, hmem⟩ := List.mem_flatMap.mp hmem
        exact (hdown p (List.mem_reverse.mp hp)).resolve_left (hplain p hp).ne_dotDot hmem
    have happend := foldl_push_append hspread true []
    rw [List.append_nil, List.append_nil] at happend
    rw [happend]
    rfl

/-- A directory itself. -/
lemma reach_empty (h : Tidy ds) (hback : ∀ p ∈ ds, '\\' ∉ p) :
    reach (String.ofList (text ds)) "" = ds := by
  have hwalk : walk ds "" = ds.reverse := rfl
  rw [reach_eq_spread h (Or.inr fun p hp => ?_), hwalk, spread_reverse h hback, List.reverse_reverse]
  exact (h.dotDot_or_ordinary hback hp).imp_right fun h => h.down.noParent

/-- What the spelling of a text with slashes only leads to, by the pieces of the text. -/
lemma reach_slashedText (h : Tidy ds) (hback : ∀ p ∈ ds, '\\' ∉ p) (v : String) :
    reach (String.ofList (text ds)) (slashedText v) =
      (((split v.toList).flatMap pieces).foldl (push false) ds.reverse).reverse := by
  have hwalk : walk ds (slashedText v) =
      ((split v.toList).flatMap pieces).foldl (push false) ds.reverse := by
    rw [walk, slashedText, String.toList_ofList, split_slashed]
  have htidy := tidy_walk h (slashedText v)
  have hback' : ∀ p ∈ (walk ds (slashedText v)).reverse, '\\' ∉ p := by
    intro p hp
    rcases mem_foldl_push (List.mem_reverse.mp hp) with hp | hp
    · exact hback p (List.mem_reverse.mp hp)
    · rw [slashedText, String.toList_ofList] at hp
      exact fun hmem => noBackslash_slashed _ (subset_of_mem_split hp hmem)
  have hspread := spread_reverse htidy hback'
  rw [List.reverse_reverse] at hspread
  rw [reach_eq_spread h (Or.inr fun p hp => ?_), hspread, hwalk]
  exact (htidy.dotDot_or_ordinary hback' (by simpa using hp)).imp_right fun h => h.down.noParent

/-- What a text without parents leads to lies below the directory, and no parents follow it. -/
lemma Forward.exists_reach {v : String} (hv : Forward v) (h : Tidy ds) (hback : ∀ p ∈ ds, '\\' ∉ p) :
    ∃ qs, dotDot ∉ qs ∧ reach (String.ofList (text ds)) v = ds ++ qs := by
  have hpieces : ∀ p ∈ split v.toList, dotDot ∉ pieces p := fun p hp hmem => by
    rw [Forward, split_slashed] at hv
    exact hv (List.mem_flatMap.mpr ⟨p, hp, hmem⟩)
  have hparts : dotDot ∉ split v.toList := fun hmem => hpieces dotDot hmem (by decide)
  -- a reading of elements without parents has none either
  have hread : ∀ ps : List Part, dotDot ∉ ps → dotDot ∉ ps.foldl (push false) [] := fun ps hps hmem =>
    (mem_foldl_push hmem).elim (by simp) hps
  have hwalk : walk ds v = (split v.toList).foldl (push false) [] ++ ds.reverse :=
    foldl_push_append (hread _ hparts) false ds.reverse
  set named := (split v.toList).foldl (push false) [] with hnamed
  have hnames : ∀ p ∈ named, dotDot ∉ pieces p := fun p hp =>
    hpieces p ((mem_foldl_push hp).resolve_left (by simp))
  have hnested : dotDot ∉ named.reverse.flatMap pieces := fun hmem => by
    obtain ⟨p, hp, hmem⟩ := List.mem_flatMap.mp hmem
    exact hnames p (List.mem_reverse.mp hp) hmem
  have hspread : spread (walk ds v) =
      (named.reverse.flatMap pieces).foldl (push false) [] ++ ds.reverse := by
    have happend := foldl_push_append (hread _ hnested) false (spread ds.reverse)
    rw [List.nil_append, spread_reverse h hback] at happend
    rw [hwalk, spread, List.reverse_append, List.flatMap_append, List.foldl_append, ← spread,
      spread_reverse h hback, happend]
  refine ⟨((named.reverse.flatMap pieces).foldl (push false) []).reverse,
    mt List.mem_reverse.mp (hread _ hnested), ?_⟩
  rw [reach_eq_spread h (Or.inr fun p hp => ?_), hspread, List.reverse_append, List.reverse_reverse]
  rw [hwalk] at hp
  rcases List.mem_append.mp hp with hp | hp
  · exact Or.inr (hnames p hp)
  · exact (h.dotDot_or_ordinary hback hp).imp_right fun h => h.down.noParent

/-- What a text without parents leads to lies below the directory. -/
lemma Forward.prefix_reach {v : String} (hv : Forward v) (h : Tidy ds) (hback : ∀ p ∈ ds, '\\' ∉ p) :
    ds <+: reach (String.ofList (text ds)) v := by
  obtain ⟨qs, -, hreach⟩ := hv.exists_reach h hback
  exact ⟨qs, hreach.symm⟩

/-- What is taken back does not depend on the directory. -/
lemma cutsWithin_reverse_iff (h : Tidy ds) (hback : ∀ p ∈ ds, '\\' ∉ p) (v : String) :
    CutsWithin ds.reverse (split v.toList) ↔ TakesBack v :=
  cutsWithin_append_iff []
    (fun _ hp => (h.dotDot_or_ordinary hback hp).imp_right Ordinary.oneStep) (by simp)

/-- What the first reading of a text that leads down only leaves. -/
lemma Descends.walk {v : String} (hv : Descends v) (h : Tidy ds) (hback : ∀ p ∈ ds, '\\' ∉ p) :
    ∀ p ∈ walk ds v, p = dotDot ∨ Down p := by
  intro p hp
  obtain ⟨hnil, hdot, -⟩ := (tidy_walk h v).of_mem (List.mem_reverse.mpr hp)
  rcases mem_foldl_push hp with hp | hp
  · exact (h.dotDot_or_ordinary hback hp).imp_right Ordinary.down
  · exact (hv.element hp).resolve_left (not_or.mpr ⟨hnil, hdot⟩)

/-- If something heavy is taken back, the spelling with slashes only leads further down. -/
lemma Descends.height_lt {v : String} (hv : Descends v) (h : Tidy ds) (hback : ∀ p ∈ ds, '\\' ∉ p)
    (hcut : TakesBack v) : height (spread (Path.walk ds v)) <
      height (((split v.toList).flatMap pieces).foldl (push false) ds.reverse) := by
  have htidy : Tidy ds.reverse.reverse := by rwa [List.reverse_reverse]
  have hslash : ∀ q ∈ (split v.toList).flatMap pieces, '/' ∉ q := by
    rw [← split_slashed]
    exact fun q hq => noSlash_of_mem_split hq
  have hdir : height ds.reverse = weigh ds.reverse := by
    rw [← height_spread, spread_reverse h hback]
  rw [height_spread, height_foldl_push htidy hslash, sum_rise_pieces, hdir]
  exact (weigh_foldl_push
    (fun p hp => (h.dotDot_or_ordinary hback hp).imp_right Ordinary.down)
    fun p hp => hv.element hp).2 ((cutsWithin_reverse_iff h hback v).mpr hcut)

end Directory

/-! ## Both spellings -/

end Path

namespace Assigns

open SceneForge.Path (IsTag Tidy TakesBack Descends slashedText spread walk text)

variable {a : Assigns} {tag dir : String}

/-- Every assigned directory is spelled by tidy elements without backslashes. -/
lemma exists_text_of_ofList (bs : List (String × String)) (h : (ofList bs).find? tag = some dir) :
    ∃ ds, Tidy ds ∧ (∀ p ∈ ds, '\\' ∉ p) ∧ dir = String.ofList (text ds) := by
  let Spelled (a : Assigns) : Prop := ∀ dir, a.find? tag = some dir →
    ∃ ds, Tidy ds ∧ (∀ p ∈ ds, '\\' ∉ p) ∧ dir = String.ofList (text ds)
  have hbind : ∀ (a : Assigns) (b : String × String), Spelled a → Spelled (a.bind b.1 b.2) := by
    intro a b ha dir hdir
    rw [find?_bind] at hdir
    split_ifs at hdir
    · obtain rfl := Option.some.inj hdir
      refine ⟨Path.cleanParts (Path.slashed b.2.toList), Path.tidy_cleanParts _, fun p hp hmem => ?_, ?_⟩
      · exact Path.noBackslash_slashed _
          (Path.subset_of_mem_split (Path.mem_split_of_mem_cleanParts hp) hmem)
      · rw [Path.norm, Path.normChars_eq_text]
    · exact ha dir hdir
  have hall : ∀ (bs : List (String × String)) (a : Assigns), Spelled a →
      Spelled (bs.foldl (fun a b => a.bind b.1 b.2) a) := by
    intro bs
    induction bs with
    | nil => exact fun a ha => ha
    | cons b bs ih => exact fun a ha => ih _ (hbind a b ha)
  exact hall bs {} (fun dir hdir => by cases hdir) dir h

/-- **Both spellings of a location text.** Whatever directories are assigned, a text behind an
assigned tag and the same text with slashes only have the same path if the second one leads
somewhere and nothing is taken back that is not one step down. If the elements with backslashes lead
down only, this is the only way: then both have the same path exactly if nothing is taken back that
is not one step.

**Proof sketch.** The path of a text comes from two readings. As long as nothing is cut, a step of
  the first reading can be moved behind the second one (`Path.spread_push`), so that both readings
  together read the pieces of the text in order, which is what the spelling with slashes does.
  Conversely, both readings of a text that leads down only reach less deep with every element that
  is taken back and weighs more than one step (`Path.weigh_push`), and nothing makes up for that. -/
theorem resolve_slashedText (bs : List (String × String)) (tag v : String) (htag : IsTag tag)
    (hassigned : ((ofList bs).find? tag).isSome) :
    (∀ loc, (ofList bs).Leads (tag ++ ":" ++ slashedText v) loc → ¬ TakesBack v →
      (ofList bs).resolve (tag ++ ":" ++ v) = (ofList bs).resolve (tag ++ ":" ++ slashedText v)) ∧
    (Descends v →
      ((ofList bs).resolve (tag ++ ":" ++ v) = (ofList bs).resolve (tag ++ ":" ++ slashedText v) ↔
        ¬ TakesBack v)) := by
  obtain ⟨dir, hdir⟩ := Option.isSome_iff_exists.mp hassigned
  obtain ⟨ds, hds, hback, rfl⟩ := exists_text_of_ofList bs hdir
  have hslashed := Path.reach_slashedText hds hback v
  rw [resolve_tagged_inj htag hdir, hslashed]
  have hcuts := Path.cutsWithin_reverse_iff hds hback v
  have hread : ¬ TakesBack v → spread (walk ds v) =
      ((Path.split v.toList).flatMap Path.pieces).foldl (Path.push false) ds.reverse := fun hnone => by
    rw [walk, Path.spread_foldl_push (hcuts.not.mpr hnone), Path.spread_reverse hds hback]
  constructor
  · intro loc hloc hnone
    obtain ⟨hup, -⟩ := (leads_tagged_iff htag hdir _ loc).mp hloc
    rw [hslashed, List.mem_reverse, ← hread hnone] at hup
    rw [Path.reach_eq_spread hds (Or.inl hup), hread hnone]
  · intro hdown
    rw [Path.reach_eq_spread hds
      (Or.inr fun p hp => (hdown.walk hds hback p hp).imp_right Path.Down.noParent)]
    refine ⟨fun h hcut => ?_, fun hnone => by rw [hread hnone]⟩
    have hlt := hdown.height_lt hds hback hcut
    rw [List.reverse_injective h] at hlt
    exact absurd hlt (lt_irrefl _)

/-- Behind two directories that are joined by a backslash, `..` removes both, and with slashes only
the last one. Behind a text that is one step down in both readings, it does not matter. -/
theorem resolve_slashedText_props : IsTag "src" ∧ ((ofList (layout "proj")).find? "src").isSome ∧
    (Descends "props\\sets/.." ∧ TakesBack "props\\sets/.." ∧
      (ofList (layout "proj")).resolve ("src" ++ ":" ++ "props\\sets/..") ≠
        (ofList (layout "proj")).resolve ("src" ++ ":" ++ slashedText "props\\sets/..")) ∧
    (¬ TakesBack "props\\..\\sets/.." ∧
      (ofList (layout "proj")).resolve ("src" ++ ":" ++ "props\\..\\sets/..") =
        (ofList (layout "proj")).resolve ("src" ++ ":" ++ slashedText "props\\..\\sets/..")) := by
  have htag : IsTag "src" := by decide
  have hassigned : ((ofList (layout "proj")).find? "src").isSome := by decide
  have hsets := resolve_slashedText (layout "proj") "src" "props\\sets/.." htag hassigned
  have hback : TakesBack "props\\sets/.." := by decide
  have hdown : Descends "props\\sets/.." := by decide
  have hstep := resolve_slashedText (layout "proj") "src" "props\\..\\sets/.." htag hassigned
  have hleads : (ofList (layout "proj")).Leads
      ("src" ++ ":" ++ slashedText "props\\..\\sets/..") ["proj", "assets"] := by decide
  have hnone : ¬ TakesBack "props\\..\\sets/.." := by decide
  exact ⟨htag, hassigned, ⟨hdown, hback, fun heq => (hsets.2 hdown).mp heq hback⟩, hnone,
    hstep.1 _ hleads hnone⟩

end Assigns

end SceneForge
