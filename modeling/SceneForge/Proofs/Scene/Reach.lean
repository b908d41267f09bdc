import Mathlib.Data.List.Chain
import Mathlib.Order.Bounds.Basic
import SceneForge.Proofs.Scene.Placement

set_option autoImplicit false

/-!
# Which nodes a walk meets

The nodes that a depth-first walk visits are those that can be reached from where it starts, and how
often it visits each of them follows from one equation: a node is visited once for every start, and
once at every visit of a node for every time that this node lists it. The trails of the walk are all
ways down from the starts.

## Main definitions

* `SceneForge.lastIndex?` — the last position in a list where a property holds.
* `SceneForge.Document.Reached` — a node that the roots reach.
* `SceneForge.Document.Route` — a way down from one of some nodes.

## Main results

* `SceneForge.Scene.parentOf_eq_some_iff` — the parent of a node is the last node that lists it.
* `SceneForge.Document.Preorder.count_eq` — how often a walk visits a node.
* `SceneForge.Document.Preorder.mem_iff` — a walk visits what its starts reach.
* `SceneForge.Document.Trails.mem_iff` — the trails of a walk are the routes from its starts.
-/

namespace SceneForge

/-! ## Last positions -/

section LastIndex

variable {α β : Type} {P : α → Prop} [DecidablePred P]

/-- The last position in a list where a property holds. -/
def lastIndex? (P : α → Prop) [DecidablePred P] (xs : List α) : Option Nat :=
  xs.zipIdx.foldl (fun last p => if P p.1 then some p.2 else last) none

/-- The last position in a list that is one entry longer. -/
lemma lastIndex?_append_singleton (xs : List α) (a : α) :
    lastIndex? P (xs ++ [a]) = if P a then some xs.length else lastIndex? P xs := by
  simp [lastIndex?, List.zipIdx_append]

/-- Keeping a value for the last position is keeping the position. -/
lemma foldl_zipIdx_eq_map (f : Nat → β) (xs : List α) :
    xs.zipIdx.foldl (fun last p => if P p.1 then some (f p.2) else last) none =
      (lastIndex? P xs).map f := by
  -- the value kept so far is arbitrary, as the fold carries it along
  suffices h : ∀ (ps : List (α × Nat)) (last : Option Nat),
      ps.foldl (fun last p => if P p.1 then some (f p.2) else last) (last.map f) =
        (ps.foldl (fun last p => if P p.1 then some p.2 else last) last).map f from h _ none
  intro ps
  induction ps with
  | nil => exact fun last => rfl
  | cons p ps ih =>
    intro last
    rw [List.foldl_cons, List.foldl_cons, ← ih]
    split_ifs <;> rfl

/-- The last position is the greatest where the property holds, if it holds anywhere. -/
lemma lastIndex?_spec (xs : List α) :
    (∀ k, lastIndex? P xs = some k → IsGreatest {k | ∃ a, xs[k]? = some a ∧ P a} k) ∧
      (lastIndex? P xs = none → ∀ a ∈ xs, ¬ P a) := by
  induction xs using List.reverseRecOn with
  | nil => simp [lastIndex?]
  | append_singleton xs x ih =>
    rw [lastIndex?_append_singleton]
    split_ifs with hx
    · refine ⟨?_, by simp⟩
      rintro k ⟨⟩
      refine ⟨⟨x, by simp, hx⟩, ?_⟩
      rintro m ⟨a, ha, -⟩
      obtain ⟨hm, -⟩ := List.getElem?_eq_some_iff.mp ha
      simp at hm
      omega
    · refine ⟨fun k hk => ?_, fun hnone => ?_⟩
      · obtain ⟨⟨a, ha, hP⟩, hbound⟩ := ih.1 k hk
        obtain ⟨hlt, -⟩ := List.getElem?_eq_some_iff.mp ha
        refine ⟨⟨a, by rw [List.getElem?_append_left hlt, ha], hP⟩, ?_⟩
        rintro m ⟨b, hb, hPb⟩
        by_cases hm : m < xs.length
        · rw [List.getElem?_append_left hm] at hb
          exact hbound ⟨b, hb, hPb⟩
        · have hmem : b ∈ [x] := by
            rw [List.getElem?_append_right (Nat.le_of_not_lt hm)] at hb
            exact List.mem_of_getElem? hb
          rw [List.mem_singleton] at hmem
          exact absurd (hmem ▸ hPb) hx
      · simpa [or_imp, forall_and, hx] using ih.2 hnone

/-- **The last position** is the greatest where the property holds. -/
lemma lastIndex?_eq_some_iff {xs : List α} {k : Nat} :
    lastIndex? P xs = some k ↔ IsGreatest {k | ∃ a, xs[k]? = some a ∧ P a} k := by
  obtain ⟨hsome, hnone⟩ := lastIndex?_spec (P := P) xs
  refine ⟨hsome k, fun hk => ?_⟩
  cases hlast : lastIndex? P xs with
  | none =>
    obtain ⟨⟨a, ha, hP⟩, -⟩ := hk
    exact absurd hP (hnone hlast a (List.mem_of_getElem? ha))
  | some m => rw [(hsome m hlast).unique hk]

/-- There is no last position exactly if the property holds nowhere. -/
lemma lastIndex?_eq_none_iff {xs : List α} : lastIndex? P xs = none ↔ ∀ a ∈ xs, ¬ P a := by
  refine ⟨(lastIndex?_spec xs).2, fun h => ?_⟩
  rw [← Option.not_isSome_iff_eq_none, Option.isSome_iff_exists]
  rintro ⟨k, hk⟩
  obtain ⟨⟨a, ha, hP⟩, -⟩ := lastIndex?_eq_some_iff.mp hk
  exact h a (List.mem_of_getElem? ha) hP

end LastIndex

/-! ## Parents -/

namespace Scene

variable {d : Document} {i : Int}

/-- The parent of a node is at the last position of a node that lists it. -/
lemma parentOf_eq_map (nodes : List Document.Node) (i : Int) :
    parentOf nodes i =
      (lastIndex? (fun n : Document.Node => n.children.contains i = true) nodes).map (↑) :=
  foldl_zipIdx_eq_map (P := fun n : Document.Node => n.children.contains i = true)
    (fun k : Nat => (k : Int)) nodes

/-- **The parent of a node** is the last node that lists it among its children. -/
lemma parentOf_eq_some_iff {p : Int} :
    parentOf d.nodes i = some p ↔ IsGreatest {q | d.Child q i} p := by
  rw [parentOf_eq_map, Option.map_eq_some_iff]
  simp only [lastIndex?_eq_some_iff, List.contains_iff_mem]
  constructor
  · rintro ⟨k, ⟨⟨n, hn, hi⟩, hbound⟩, rfl⟩
    refine ⟨⟨n, by simpa using hn, hi⟩, ?_⟩
    rintro q ⟨m, hm, hi'⟩
    obtain ⟨l, rfl, hl⟩ := at?_eq_some_iff.mp hm
    exact_mod_cast hbound ⟨m, hl, hi'⟩
  · rintro ⟨⟨n, hn, hi⟩, hbound⟩
    obtain ⟨k, rfl, hk⟩ := at?_eq_some_iff.mp hn
    refine ⟨k, ⟨⟨n, hk, hi⟩, ?_⟩, rfl⟩
    rintro l ⟨m, hm, hi'⟩
    have hle := hbound (show d.Child l i from ⟨m, by simpa using hm, hi'⟩)
    exact_mod_cast hle

/-- A node has no parent exactly if no node lists it. -/
lemma parentOf_eq_none_iff : parentOf d.nodes i = none ↔ ∀ q, ¬ d.Child q i := by
  rw [parentOf_eq_map, Option.map_eq_none_iff, lastIndex?_eq_none_iff, ← not_exists,
    Document.exists_child_iff]
  simp

end Scene

namespace Document

variable {d : Document} {starts vs above : List Int} {i j : Int}

/-! ## How often a walk visits a node -/

/-- The children of a node; no node has none. -/
def childrenOf (d : Document) (i : Int) : List Int := ((at? d.nodes i).map (·.children)).getD []

/-- A node lists its children. -/
lemma child_iff : d.Child i j ↔ j ∈ d.childrenOf i := by
  unfold Child childrenOf
  cases at? d.nodes i <;> simp

/-- **How often a walk visits a node**: once for every time that it starts there, and once at every
visit of a node for every time that this node lists it. -/
lemma Preorder.count_eq (h : d.Preorder starts vs) (j : Int) :
    vs.count j = starts.count j + (vs.map fun i => (d.childrenOf i).count j).sum := by
  induction h with
  | nil => rfl
  | @cons i n rest below after node _ _ ihc iho =>
    have hchildren : d.childrenOf i = n.children := by simp [childrenOf, node]
    simp only [List.cons_append, List.count_cons, List.count_append, List.map_cons, List.map_append,
      List.sum_cons, List.sum_append, hchildren, ihc, iho]
    omega

/-- What a visited node lists is visited. -/
lemma Preorder.mem_of_child (h : d.Preorder starts vs) (hi : i ∈ vs) (hij : d.Child i j) :
    j ∈ vs := by
  have hlisted : 0 < (d.childrenOf i).count j := List.count_pos_iff.mpr (child_iff.mp hij)
  have hle := List.le_sum_of_mem (List.mem_map_of_mem (f := fun i => (d.childrenOf i).count j) hi)
  have hcount := h.count_eq j
  exact List.count_pos_iff.mp (by omega)

/-- **A walk visits what its starts reach.** -/
lemma Preorder.mem_iff (h : d.Preorder starts vs) :
    j ∈ vs ↔ ∃ r ∈ starts, Relation.ReflTransGen d.Child r j := by
  constructor
  · intro hj
    induction h with
    | nil => cases hj
    | @cons i n rest below after node _ _ ihc iho =>
      rw [List.cons_append, List.mem_cons, List.mem_append] at hj
      rcases hj with rfl | hbelow | hafter
      · exact ⟨j, List.mem_cons_self, .refl⟩
      · obtain ⟨c, hc, hreach⟩ := ihc hbelow
        exact ⟨i, List.mem_cons_self, hreach.head ⟨n, node, hc⟩⟩
      · obtain ⟨r, hr, hreach⟩ := iho hafter
        exact ⟨r, List.mem_cons_of_mem _ hr, hreach⟩
  · rintro ⟨r, hr, hreach⟩
    induction hreach with
    | refl =>
      have hcount := h.count_eq r
      have hstart : 0 < starts.count r := List.count_pos_iff.mpr hr
      exact List.count_pos_iff.mp (by omega)
    | tail _ hij ih => exact h.mem_of_child ih hij

/-- A node that the roots reach. -/
def Reached (d : Document) (i : Int) : Prop := ∃ r ∈ d.roots, Relation.ReflTransGen d.Child r i

/-! ## Ways down -/

/-- A way down from one of some nodes: every node on it lists the next one. -/
structure Route (d : Document) (starts path : List Int) : Prop where
  /-- It begins at one of the nodes. -/
  start : ∃ r ∈ starts, path.head? = some r
  /-- Every node lists the next one. -/
  down : path.IsChain d.Child

/-- The nodes of a trail, its end included. -/
def Trail.path (t : Trail) : List Int := t.above ++ [t.node]

/-- A route from a node goes on with a route from one of its children, or ends there. -/
lemma route_cons_iff {n : Node} (hn : at? d.nodes i = some n) {rest path : List Int} :
    d.Route (i :: rest) path ↔
      path = [i] ∨ (∃ q, path = i :: q ∧ d.Route n.children q) ∨ d.Route rest path := by
  have hchild : ∀ {c}, d.Child i c ↔ c ∈ n.children := by
    intro c
    simp [Child, hn]
  constructor
  · rintro ⟨⟨r, hr, hhead⟩, hdown⟩
    rcases List.mem_cons.mp hr with rfl | hr
    · obtain ⟨q, rfl⟩ := List.head?_eq_some_iff.mp hhead
      cases q with
      | nil => exact Or.inl rfl
      | cons c q =>
        obtain ⟨hc, hq⟩ := List.isChain_cons_cons.mp hdown
        exact Or.inr (Or.inl ⟨c :: q, rfl, ⟨c, hchild.mp hc, rfl⟩, hq⟩)
    · exact Or.inr (Or.inr ⟨⟨r, hr, hhead⟩, hdown⟩)
  · rintro (rfl | ⟨q, rfl, ⟨c, hc, hhead⟩, hdown⟩ | ⟨⟨r, hr, hhead⟩, hdown⟩)
    · exact ⟨⟨i, List.mem_cons_self, rfl⟩, List.isChain_singleton i⟩
    · obtain ⟨q, rfl⟩ := List.head?_eq_some_iff.mp hhead
      exact ⟨⟨i, List.mem_cons_self, rfl⟩, List.isChain_cons_cons.mpr ⟨hchild.mpr hc, hdown⟩⟩
    · exact ⟨⟨r, List.mem_cons_of_mem _ hr, hhead⟩, hdown⟩

/-- **The trails of a walk are the routes from its starts**, below the nodes above them. -/
lemma Trails.mem_iff {ts : List Trail} (h : d.Trails above starts ts) {path : List Int} :
    path ∈ ts.map Trail.path ↔ ∃ q, path = above ++ q ∧ d.Route starts q := by
  induction h with
  | nil => simpa using fun q _ h => by simpa using h.start
  | @cons above rest i n below after node _ _ ihc iho =>
    simp only [List.cons_append, List.map_cons, List.map_append, List.mem_cons, List.mem_append,
      ihc, iho, route_cons_iff node]
    constructor
    · rintro (rfl | ⟨q, rfl, hq⟩ | ⟨q, rfl, hq⟩)
      · exact ⟨[i], rfl, Or.inl rfl⟩
      · exact ⟨i :: q, by simp, Or.inr (Or.inl ⟨q, rfl, hq⟩)⟩
      · exact ⟨q, rfl, Or.inr (Or.inr hq)⟩
    · rintro ⟨p, rfl, rfl | ⟨q, rfl, hq⟩ | hq⟩
      · exact Or.inl rfl
      · exact Or.inr (Or.inl ⟨q, by simp, hq⟩)
      · exact Or.inr (Or.inr ⟨p, rfl, hq⟩)

end Document

end SceneForge
