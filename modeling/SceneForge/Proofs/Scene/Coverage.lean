import Mathlib.Algebra.BigOperators.Group.List.Basic
import SceneForge.Proofs.Scene.Reach

set_option autoImplicit false

/-!
# Documents without scenes are shown whole

A document without scenes is shown from the nodes that are nobody's child. In a general graph there
need not be any, and they need not reach everything. In a valid document there are no cycles, so
every line of ancestors ends, and it ends at such a node. The walk of flattening starts where the
search for cycles has nothing to say, but meets every node; it meets a node once if the document
lists it as a child at most once.

## Main results

* `SceneForge.Document.Wired.reached_of_noScenes` — the roots reach every node.
* `SceneForge.Document.Wired.count_visits` — a walk through a forest visits every node once.
* `SceneForge.Scene.flatten_covers` — what flattening visits in a valid document without scenes.
-/

namespace SceneForge

namespace Document

variable {d : Document} {i q v : Int}

/-! ## Roots -/

/-- Without scenes the roots are the nodes that are nobody's child. -/
lemma roots_of_noScenes (hscenes : d.scenes = []) : d.roots = d.orphans := by
  rcases d.roots_cases with h | ⟨s, hs, -⟩
  · exact h
  · rw [hscenes] at hs
    cases hs

/-- The nodes that are nobody's child are listed in order. -/
lemma pairwise_orphans (d : Document) : d.orphans.Pairwise (· < ·) := by
  refine List.Pairwise.filter _ (List.pairwise_map.mpr (List.pairwise_lt_range.imp ?_))
  exact fun hab => Int.ofNat_lt.mpr hab

/-- The nodes that are nobody's child are those that no list of children holds. -/
lemma mem_orphans_iff :
    i ∈ d.orphans ↔ (0 ≤ i ∧ i < d.nodes.length) ∧ ∀ n ∈ d.nodes, i ∉ n.children := by
  have hrange : (∃ k < d.nodes.length, Int.ofNat k = i) ↔ 0 ≤ i ∧ i < d.nodes.length := by
    constructor
    · rintro ⟨k, hk, rfl⟩
      exact ⟨Int.natCast_nonneg k, Int.ofNat_lt.mpr hk⟩
    · rintro ⟨h0, h1⟩
      exact ⟨i.toNat, by omega, Int.toNat_of_nonneg h0⟩
  simp only [orphans, List.mem_filter, List.mem_map, List.mem_range, hrange]
  simp

/-- A node is nobody's child exactly if no node lists it. -/
lemma mem_orphans_iff_not_child (hi : 0 ≤ i ∧ i < d.nodes.length) :
    i ∈ d.orphans ↔ ∀ q, ¬ d.Child q i := by
  rw [← not_exists, exists_child_iff, mem_orphans_iff]
  push Not
  exact and_iff_right hi

/-- **Every node is reached** in a wired document without scenes: a node is a root, or a node that
lists it is reached. -/
lemma Wired.reached_of_noScenes (hw : d.Wired) (hscenes : d.scenes = []) :
    0 ≤ i ∧ i < d.nodes.length → d.Reached i := by
  induction i using hw.acyclic.wellFounded.induction with
  | _ i ih =>
    intro hi
    by_cases hparent : ∃ q, d.Child q i
    · obtain ⟨q, hq⟩ := hparent
      obtain ⟨r, hr, hreach⟩ := ih q hq hq.inRange
      exact ⟨r, hr, hreach.tail hq⟩
    · have hroot := (mem_orphans_iff_not_child hi).mpr (not_exists.mp hparent)
      exact ⟨i, roots_of_noScenes hscenes ▸ hroot, .refl⟩

/-! ## Forests -/

/-- In a forest a node has at most one parent. -/
lemma child_unique (hforest : (d.nodes.flatMap (·.children)).Nodup) (hq : d.Child q i)
    (hv : d.Child v i) : q = v := by
  obtain ⟨n, hn, hi⟩ := hq
  obtain ⟨m, hm, hi'⟩ := hv
  obtain ⟨k, rfl, hk⟩ := at?_eq_some_iff.mp hn
  obtain ⟨l, rfl, hl⟩ := at?_eq_some_iff.mp hm
  obtain ⟨hklt, rfl⟩ := List.getElem?_eq_some_iff.mp hk
  obtain ⟨hllt, rfl⟩ := List.getElem?_eq_some_iff.mp hl
  have hdisjoint := List.pairwise_iff_getElem.mp (List.nodup_flatMap.mp hforest).2
  rcases Nat.lt_trichotomy k l with hkl | rfl | hlk
  · exact (hdisjoint k l hklt hllt hkl hi hi').elim
  · rfl
  · exact (hdisjoint l k hllt hklt hlk hi' hi).elim

/-- In a forest a node lists a child once. -/
lemma count_childrenOf (hforest : (d.nodes.flatMap (·.children)).Nodup) (hq : d.Child q i) :
    (d.childrenOf q).count i = 1 := by
  obtain ⟨n, hn, hi⟩ := hq
  have hchildren : d.childrenOf q = n.children := by simp [childrenOf, hn]
  rw [hchildren]
  exact List.count_eq_one_of_mem ((List.nodup_flatMap.mp hforest).1 n (mem_of_at?_eq_some hn)) hi

/-- **A walk through a forest** from the nodes that are nobody's child visits every node once.

**Proof sketch.** Induction along lines of ancestors. A root is where the walk starts once, and no
visit leads there. Another node has one parent, which is visited once and lists it once. -/
lemma Wired.count_visits (hw : d.Wired) (hforest : (d.nodes.flatMap (·.children)).Nodup)
    {vs : List Int} (hwalk : d.Preorder d.orphans vs) :
    0 ≤ i ∧ i < d.nodes.length → vs.count i = 1 := by
  induction i using hw.acyclic.wellFounded.induction with
  | _ i ih =>
    intro hi
    have hzero : ∀ v, ¬ d.Child v i → (d.childrenOf v).count i = 0 := fun v hv =>
      List.count_eq_zero.mpr fun hmem => hv (child_iff.mpr hmem)
    rw [hwalk.count_eq]
    by_cases hparent : ∃ q, d.Child q i
    · obtain ⟨q, hq⟩ := hparent
      have hstarts : d.orphans.count i = 0 := by
        refine List.count_eq_zero.mpr fun hroot => ?_
        exact (mem_orphans_iff_not_child hi).mp hroot q hq
      -- visits of other nodes do not lead there
      have hsum := List.sum_map_eq_nsmul_single (l := vs) q (fun v => (d.childrenOf v).count i)
        fun v hne _ => hzero v fun hv => hne (child_unique hforest hv hq)
      rw [hstarts, hsum, ih q hq hq.inRange, count_childrenOf hforest hq]
      rfl
    · have hnone := not_exists.mp hparent
      have hroot := (mem_orphans_iff_not_child hi).mpr hnone
      have hstarts := List.count_eq_one_of_mem (d.pairwise_orphans.imp ne_of_lt) hroot
      have hsum : (vs.map fun v => (d.childrenOf v).count i).sum = 0 := by
        refine List.sum_eq_zero fun c hc => ?_
        obtain ⟨v, -, rfl⟩ := List.mem_map.mp hc
        exact hzero v (hnone v)
      rw [hstarts, hsum]

end Document

namespace Scene

/-- **Flattening loses nothing** of a valid document without scenes. Its roots are, in increasing
order, exactly the nodes that no list of children holds, and they reach every node. The document can
be set up at any positive scale and flattened; the positions of the merged mesh are those that are
drawn at the visits, in order; every node is visited, and visited once if all lists of children
together hold every node at most once.

**Proof sketch.** Lines of ancestors end (`Document.Acyclic.wellFounded`), so by induction along
  them every node is below a root, and a walk visits what its starts reach
  (`Document.Preorder.mem_iff`). How often it does follows by the same induction from what it visits
  (`Document.Preorder.count_eq`). -/
theorem flatten_covers (s : Scene) (d : Document) (settings : Settings)
    (hvalid : d.validate = .ok ()) (hscale : Single.lt 0 settings.scale)
    (hscenes : d.scenes = []) :
    d.roots.Pairwise (· < ·) ∧
      (∀ i, i ∈ d.roots ↔ (0 ≤ i ∧ i < d.nodes.length) ∧ ∀ n ∈ d.nodes, i ∉ n.children) ∧
      (∀ i : Int, 0 ≤ i ∧ i < d.nodes.length → d.Reached i) ∧
      ∃ scene mesh visits, s.setup d settings = .ok scene ∧ scene.flatten.1 = .ok mesh ∧
        scene.visits = some visits ∧
        mesh.vertices.map (·.position) =
          visits.flatMap (fun i => (d.pointsAt i).map (scene.worldOf i).transformPoint) ∧
        (∀ i : Int, 0 ≤ i ∧ i < d.nodes.length → i ∈ visits) ∧
        ((d.nodes.flatMap (·.children)).Nodup →
          ∀ i : Int, 0 ≤ i ∧ i < d.nodes.length → visits.count i = 1) := by
  have hw : d.Wired := (Document.validate_eq_ok_iff_wired.mp hvalid).1
  obtain ⟨scene, hsetup, hp⟩ := exists_setup s hw hscale
  obtain ⟨mesh, -, hflatten, -⟩ := hp.exists_flatten? hw
  have hmesh : scene.flatten.1 = .ok mesh := by rw [hflatten]
  obtain ⟨trails, htrails, -⟩ := exists_worlds_of_trails hw settings.scale
  obtain ⟨visits, hvisits, hwalk⟩ := hp.exists_visits hw
  have hroots : d.roots = d.orphans := Document.roots_of_noScenes hscenes
  have hreached : ∀ i : Int, 0 ≤ i ∧ i < d.nodes.length → d.Reached i := fun i hi =>
    hw.reached_of_noScenes hscenes hi
  refine ⟨hroots ▸ d.pairwise_orphans, fun i => hroots ▸ Document.mem_orphans_iff, hreached, scene,
    mesh, visits, hsetup, hmesh, hvisits, ?_, fun i hi => hwalk.mem_iff.mpr (hreached i hi),
    fun hforest i hi => hw.count_visits hforest (hroots ▸ hwalk) hi⟩
  rw [hp.positions_of_flatten hw hmesh htrails, Document.placedPoints,
    hwalk.unique htrails.preorder, List.flatMap_map]

/-- A document without scenes: a shelf with a vase, and a clock. -/
def shelfAndClock : Document where
  nodes := [{ name := "vase", mesh := some 0 }, { name := "shelf", children := [0] },
    { name := "clock", mesh := some 0 }]
  meshes := [{ name := "box", primitives := [
    { positions := [.zero, ⟨1, 0, 0⟩, ⟨0, 1, 0⟩], indices := some [0, 1, 2] }] }]

/-- The walk starts at the shelf and at the clock, and meets the vase below the shelf. -/
theorem flatten_covers_shelfAndClock :
    shelfAndClock.validate = .ok () ∧ Single.lt 0 1 ∧ shelfAndClock.scenes = [] ∧
      (shelfAndClock.nodes.flatMap (·.children)).Nodup ∧
      1 ∈ shelfAndClock.roots ∧ 0 ∉ shelfAndClock.roots ∧ shelfAndClock.Reached 0 ∧
      ∃ scene mesh visits, ({} : Scene).setup shelfAndClock {} = .ok scene ∧
        scene.flatten.1 = .ok mesh ∧ scene.visits = some visits ∧
        visits.count 0 = 1 ∧ visits.count 1 = 1 ∧ visits.count 2 = 1 := by
  have hvalid : shelfAndClock.validate = .ok () := rfl
  have hscale : Single.lt 0 1 := by decide +kernel
  have hforest : (shelfAndClock.nodes.flatMap (·.children)).Nodup := by decide
  obtain ⟨-, hroots, hreached, scene, mesh, visits, hsetup, hflatten, hvisits, -, -, honce⟩ :=
    flatten_covers {} shelfAndClock {} hvalid hscale rfl
  exact ⟨hvalid, hscale, rfl, hforest, (hroots 1).mpr (by decide),
    fun h => absurd ((hroots 0).mp h).2 (by decide), hreached 0 (by decide), scene, mesh, visits,
    hsetup, hflatten, hvisits, honce hforest 0 (by decide), honce hforest 1 (by decide),
    honce hforest 2 (by decide)⟩

end Scene

end SceneForge
