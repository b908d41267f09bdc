import Mathlib.Data.Int.Interval
import Mathlib.Logic.Relation
import Mathlib.Tactic.Common
import SceneForge.Document.Basic

set_option autoImplicit false

/-!
# The hierarchy of a document

The nodes of a document form a graph with an edge from a node to each of its children. In a document
without cycles a path downwards never meets a node twice, so it is no longer than the list of nodes.
That bounds every traversal.

## Main definitions

* `SceneForge.Document.Child` — an edge of the graph.
* `SceneForge.Document.Acyclic` — no node reaches itself.
* `SceneForge.Document.Fits` — everything below a node exists, and within a number of levels.

## Main results

* `SceneForge.Document.Acyclic.fits` — without cycles there are at most as many levels as nodes.
* `SceneForge.Document.Acyclic.wellFounded` — without cycles every line of ancestors ends.
-/

namespace SceneForge

/-! ## Entries by index -/

section Entries

variable {α : Type} {xs : List α}

/-- The entry at a natural number. -/
@[simp] lemma at?_natCast (k : Nat) : at? xs (k : Int) = xs[k]? := by
  have hk : ¬ (k : Int) < 0 := by omega
  simp [at?, hk]

/-- An entry is found exactly at the natural numbers where the list has it. -/
lemma at?_eq_some_iff {i : Int} {a : α} :
    at? xs i = some a ↔ ∃ k : Nat, i = k ∧ xs[k]? = some a := by
  constructor
  · intro h
    have hi : ¬ i < 0 := fun hi => by simp [at?, hi] at h
    obtain ⟨k, rfl⟩ := Int.eq_ofNat_of_zero_le (not_lt.mp hi)
    exact ⟨k, rfl, by simpa using h⟩
  · rintro ⟨k, rfl, h⟩
    simpa using h

/-- There is an entry exactly at the indices within the list. -/
lemma isSome_at?_iff {i : Int} : (at? xs i).isSome ↔ 0 ≤ i ∧ i < xs.length := by
  rw [Option.isSome_iff_exists]
  constructor
  · rintro ⟨a, h⟩
    obtain ⟨k, rfl, hk⟩ := at?_eq_some_iff.mp h
    obtain ⟨hlt, -⟩ := List.getElem?_eq_some_iff.mp hk
    omega
  · rintro ⟨h0, h1⟩
    obtain ⟨k, rfl⟩ := Int.eq_ofNat_of_zero_le h0
    have hlt : k < xs.length := by omega
    exact ⟨xs[k], by simp [hlt]⟩

/-- What is found at an index is in the list. -/
lemma mem_of_at?_eq_some {i : Int} {a : α} (h : at? xs i = some a) : a ∈ xs := by
  obtain ⟨k, -, hk⟩ := at?_eq_some_iff.mp h
  exact List.mem_of_getElem? hk

end Entries

namespace Document

variable {d : Document}

/-! ## Edges -/

/-- A node lists another among its children. -/
def Child (d : Document) (i j : Int) : Prop := ∃ n, at? d.nodes i = some n ∧ j ∈ n.children

/-- No node reaches itself by one or more edges. -/
def Acyclic (d : Document) : Prop := ∀ i, ¬ Relation.TransGen d.Child i i

/-- Every child is a node. -/
def ChildrenExist (d : Document) : Prop :=
  ∀ n ∈ d.nodes, ∀ c ∈ n.children, 0 ≤ c ∧ c < d.nodes.length

/-- A node with a child is one of the document. -/
lemma Child.inRange {i j : Int} (h : d.Child i j) : 0 ≤ i ∧ i < d.nodes.length := by
  obtain ⟨n, hn, -⟩ := h
  exact isSome_at?_iff.mp (by simp [hn])

/-- A node is in some list of children exactly if a node lists it. -/
lemma exists_child_iff {i : Int} : (∃ q, d.Child q i) ↔ ∃ n ∈ d.nodes, i ∈ n.children := by
  constructor
  · rintro ⟨q, n, hn, hi⟩
    exact ⟨n, mem_of_at?_eq_some hn, hi⟩
  · rintro ⟨n, hn, hi⟩
    obtain ⟨k, hk, rfl⟩ := List.getElem_of_mem hn
    exact ⟨k, _, by simp [hk], hi⟩

/-! ## Levels -/

/-- A node exists, and so does everything below it, within `k` levels. -/
def Fits (d : Document) : Nat → Int → Prop
  | 0, _ => False
  | k + 1, i => ∃ n, at? d.nodes i = some n ∧ ∀ c ∈ n.children, Fits d k c

/-- A path of different nodes down to a node that is not on it leaves room for the levels below.

**Proof sketch.** Induction on the levels that are left. With none left the path and its end are one
more node than the document has. Otherwise every child is reached by the path extended by the node;
it is not on that path, because it would reach itself. -/
lemma Acyclic.fits_of_path (ha : d.Acyclic) (hc : d.ChildrenExist) :
    ∀ (k : Nat) (path : Finset Int) (i : Int), 0 ≤ i ∧ i < d.nodes.length →
      (∀ a ∈ path, 0 ≤ a ∧ a < d.nodes.length) → (∀ a ∈ path, Relation.TransGen d.Child a i) →
      path.card + k = d.nodes.length → d.Fits k i := by
  intro k
  induction k with
  | zero =>
    intro path i hi hrange hreach hcard
    have hnot : i ∉ path := fun hmem => ha i (hreach i hmem)
    have hsub' : insert i path ⊆ Finset.Ico 0 (d.nodes.length : Int) :=
      Finset.insert_subset (Finset.mem_Ico.mpr hi) fun a hmem => Finset.mem_Ico.mpr (hrange a hmem)
    have hle := Finset.card_le_card hsub'
    rw [Finset.card_insert_of_notMem hnot, Int.card_Ico] at hle
    omega
  | succ k ih =>
    intro path i hi hrange hreach hcard
    have hnot : i ∉ path := fun hmem => ha i (hreach i hmem)
    obtain ⟨n, hn⟩ := Option.isSome_iff_exists.mp (isSome_at?_iff.mpr hi)
    refine ⟨n, hn, fun c hmem => ?_⟩
    have hchild : d.Child i c := ⟨n, hn, hmem⟩
    refine ih (insert i path) c (hc n (mem_of_at?_eq_some hn) c hmem)
      ((Finset.forall_mem_insert _ _ _).mpr ⟨hi, hrange⟩) (fun a hmem' => ?_) ?_
    · rcases Finset.mem_insert.mp hmem' with rfl | hmem'
      · exact .single hchild
      · exact (hreach a hmem').tail hchild
    · rw [Finset.card_insert_of_notMem hnot]
      omega

/-- **Without cycles there are at most as many levels as nodes.** -/
lemma Acyclic.fits (ha : d.Acyclic) (hc : d.ChildrenExist) {i : Int}
    (hi : 0 ≤ i ∧ i < d.nodes.length) : d.Fits d.nodes.length i :=
  ha.fits_of_path hc _ ∅ i hi (by simp) (by simp) (by simp)

/-! ## Ancestors -/

/-- **Without cycles every line of ancestors ends.**

**Proof sketch.** The ancestors of a node are nodes, so there are finitely many. Those of a parent
are ancestors of the child too, and the parent itself is one more. -/
lemma Acyclic.wellFounded (ha : d.Acyclic) : WellFounded d.Child := by
  classical
  let ancestors : Int → Finset Int := fun i =>
    (Finset.Ico 0 (d.nodes.length : Int)).filter fun a => Relation.TransGen d.Child a i
  refine Subrelation.wf (r := fun i j => (ancestors i).card < (ancestors j).card) ?_
    (InvImage.wf (fun i => (ancestors i).card) Nat.lt_wfRel.wf)
  intro i j hij
  refine Finset.card_lt_card ((Finset.ssubset_iff_of_subset fun a hmem => ?_).mpr ⟨i, ?_, ?_⟩)
  · obtain ⟨hrange, hreach⟩ := Finset.mem_filter.mp hmem
    exact Finset.mem_filter.mpr ⟨hrange, hreach.tail hij⟩
  · exact Finset.mem_filter.mpr ⟨Finset.mem_Ico.mpr hij.inRange, .single hij⟩
  · exact fun hmem => ha i (Finset.mem_filter.mp hmem).2

end Document

end SceneForge
