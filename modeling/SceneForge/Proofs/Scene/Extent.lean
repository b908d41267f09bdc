import SceneForge.Proofs.Scene.Merged

set_option autoImplicit false

/-!
# The box of a merged mesh

Merging starts with a box that is turned inside out, from 10¹⁰ back to -10¹⁰ along every axis, and
every vertex stretches it. So along an axis the box starts at the least number among 10¹⁰ and the
coordinates of all vertices, and ends at the greatest among -10¹⁰ and the coordinates. This is the
exact box of the vertices as long as some vertex does not lie beyond 10¹⁰ and some does not lie
beyond -10¹⁰ on the other side. The box of a mesh that lies beyond one of them altogether reaches on
to where it started and touches no vertex there.

## Main definitions

* `SceneForge.Axis`, `SceneForge.Mesh.coordinates` — coordinates along an axis.
* `SceneForge.Least`, `SceneForge.Greatest` — the least and the greatest of some numbers.
* `SceneForge.Mesh.BoxExact` — a box that holds all vertices and touches one with every side.

## Main results

* `SceneForge.extreme_foldl` — numbers picked one after the other.
* `SceneForge.Scene.bounds_of_flatten` — the box of a merged mesh.
* `SceneForge.Scene.flatten_bounds` — where the box starts and ends, and when it is exact.
-/

namespace SceneForge

/-! ## Coordinates -/

/-- The axes of space. -/
inductive Axis where
  /-- The first axis. -/
  | x
  /-- The second axis. -/
  | y
  /-- The third axis. -/
  | z

/-- The coordinate along an axis. -/
def Vec3.along {α : Type} (v : Vec3 α) : Axis → α
  | .x => v.x
  | .y => v.y
  | .z => v.z

/-- The coordinates of all vertices along an axis. -/
def Mesh.coordinates (m : Mesh) (a : Axis) : List Single := m.vertices.map (·.position.along a)

/-! ## Least and greatest numbers -/

/-- One of some numbers, or one that is numerically equal to it, which comes before all of them. -/
structure Extreme (before : Int → Int → Prop) (xs : List Single) (m : Single) : Prop where
  /-- It is attained. -/
  attained : ∃ x ∈ xs, x.key = m.key
  /-- It comes before all of them. -/
  bound : ∀ x ∈ xs, before m.key x.key

/-- The least of some numbers. -/
abbrev Least : List Single → Single → Prop := Extreme (· ≤ ·)

/-- The greatest of some numbers. -/
abbrev Greatest : List Single → Single → Prop := Extreme (· ≥ ·)

section Extremes

variable (before : Int → Int → Prop)

/-- The first of a number that was picked of two and some others is the first of all. -/
lemma Extreme.of_pick (htrans : ∀ i j k, before i j → before j k → before i k)
    {picked a b m : Single} {xs : List Single} (h : Extreme before (picked :: xs) m)
    (hpicked : picked = a ∨ picked = b) (ha : before picked.key a.key)
    (hb : before picked.key b.key) : Extreme before (a :: b :: xs) m := by
  obtain ⟨hfirst, hothers⟩ := List.forall_mem_cons.mp h.bound
  refine ⟨?_, List.forall_mem_cons.mpr ⟨htrans _ _ _ hfirst ha,
    List.forall_mem_cons.mpr ⟨htrans _ _ _ hfirst hb, hothers⟩⟩⟩
  obtain ⟨x, hx, hkey⟩ := h.attained
  refine ⟨x, ?_, hkey⟩
  rcases List.mem_cons.mp hx with rfl | hx
  · rcases hpicked with rfl | rfl
    · exact List.mem_cons_self
    · exact List.mem_cons_of_mem _ List.mem_cons_self
  · exact List.mem_cons_of_mem _ (List.mem_cons_of_mem _ hx)

/-- **Numbers picked one after the other**: who always picks the number that comes first in an order
ends with the first of all. -/
lemma extreme_foldl (hrefl : ∀ k, before k k)
    (htrans : ∀ i j k, before i j → before j k → before i k)
    {pick : Single → Single → Single} (hpick : ∀ a b, a.isNaN = false → b.isNaN = false →
      pick a b = a ∧ before a.key b.key ∨ pick a b = b ∧ before b.key a.key) {xs : List Single}
    (hxs : ∀ x ∈ xs, x.isNaN = false) {m : Single} (hm : m.isNaN = false) :
    Extreme before (m :: xs) (xs.foldl pick m) := by
  induction xs generalizing m with
  | nil => exact ⟨⟨m, List.mem_singleton_self m, rfl⟩, List.forall_mem_singleton.mpr (hrefl _)⟩
  | cons x xs ih =>
    obtain ⟨hx, hrest⟩ := List.forall_mem_cons.mp hxs
    rw [List.foldl_cons]
    rcases hpick m x hm hx with ⟨hm', hle⟩ | ⟨hx', hle⟩
    · rw [hm']
      exact Extreme.of_pick before htrans (ih hrest hm) (Or.inl rfl) (hrefl _) hle
    · rw [hx']
      exact Extreme.of_pick before htrans (ih hrest hx) (Or.inr rfl) hle (hrefl _)

/-- The first of a number and some others is the first of the others exactly if one of these does
not come behind the number. -/
lemma Extreme.tail_iff (hantisymm : ∀ i j, before i j → before j i → i = j) {xs : List Single}
    {start m : Single} (h : Extreme before (start :: xs) m) :
    Extreme before xs m ↔ ∃ x ∈ xs, before x.key start.key := by
  obtain ⟨hstart, hbound⟩ := List.forall_mem_cons.mp h.bound
  constructor
  · rintro ⟨⟨x, hx, hkey⟩, -⟩
    exact ⟨x, hx, hkey ▸ hstart⟩
  · rintro ⟨x, hx, hle⟩
    refine ⟨?_, hbound⟩
    obtain ⟨y, hy, hkey⟩ := h.attained
    rcases List.mem_cons.mp hy with rfl | hy
    · exact ⟨x, hx, hantisymm _ _ (hkey ▸ hle) (hbound x hx)⟩
    · exact ⟨y, hy, hkey⟩

end Extremes

/-- Finite numbers are numbers. -/
lemma Single.isNaN_eq_false {a : Single} (h : a.isFinite) : a.isNaN = false := by
  simp only [Single.isFinite, Single.isNaN, decide_eq_true_eq, decide_eq_false_iff_not] at h ⊢
  omega

namespace Bounds

/-- The lesser of two numbers is the one that does not come behind the other. -/
lemma lesser_cases (a b : Single) (ha : a.isNaN = false) (hb : b.isNaN = false) :
    lesser a b = a ∧ a.key ≤ b.key ∨ lesser a b = b ∧ b.key ≤ a.key := by
  simp only [lesser, Single.lt, ha, hb, Bool.not_false, Bool.true_and, decide_eq_true_eq]
  split_ifs with h
  · exact Or.inr ⟨rfl, Int.le_of_lt h⟩
  · exact Or.inl ⟨rfl, Int.not_lt.mp h⟩

/-- The greater of two numbers is the one that does not come in front of the other. -/
lemma greater_cases (a b : Single) (ha : a.isNaN = false) (hb : b.isNaN = false) :
    greater a b = a ∧ a.key ≥ b.key ∨ greater a b = b ∧ b.key ≥ a.key := by
  simp only [greater, Single.lt, ha, hb, Bool.not_false, Bool.true_and, decide_eq_true_eq]
  split_ifs with h
  · exact Or.inr ⟨rfl, Int.le_of_lt h⟩
  · exact Or.inl ⟨rfl, Int.not_lt.mp h⟩

/-- Along an axis a box that is stretched starts at the least coordinate so far and ends at the
greatest. -/
lemma along_foldl_extend (a : Axis) (vs : List Vertex) (b : Bounds) :
    (vs.foldl (fun box v => box.extend v.position) b).min.along a =
        (vs.map (·.position.along a)).foldl lesser (b.min.along a) ∧
      (vs.foldl (fun box v => box.extend v.position) b).max.along a =
        (vs.map (·.position.along a)).foldl greater (b.max.along a) := by
  induction vs generalizing b with
  | nil => exact ⟨rfl, rfl⟩
  | cons v vs ih =>
    have hstep := ih (b.extend v.position)
    cases a <;> exact hstep

end Bounds

/-! ## Merged meshes -/

/-- The box of a mesh holds all vertices, and touches one with every side. -/
def Mesh.BoxExact (m : Mesh) : Prop :=
  ∀ a, Least (m.coordinates a) (m.bounds.min.along a) ∧
    Greatest (m.coordinates a) (m.bounds.max.along a)

namespace Scene

/-- The numbers that the box of a mesh starts with are no NaN. -/
lemma isNaN_start : (1e10 : Single).isNaN = false ∧ (-1e10 : Single).isNaN = false := by
  decide +kernel

/-- **The box of a merged mesh** is that of its vertices, stretched from a box turned inside out. -/
lemma bounds_of_flatten {s : Scene} {mesh : Mesh} (h : s.flatten.1 = .ok mesh)
    (hvertices : mesh.vertices ≠ []) : mesh.bounds =
      mesh.vertices.foldl (fun box v => box.extend v.position) ⟨.fill 1e10, .fill (-1e10)⟩ := by
  unfold flatten at h
  split at h
  · cases h
  · rename_i doc _
    split_ifs at h
    split at h
    · cases h
    · rename_i m hmerge
      cases h
      simp only [merge, Option.bind_eq_bind, Option.bind_eq_some_iff, Option.pure_def,
        Option.some.injEq] at hmerge
      obtain ⟨bs, -, rfl⟩ := hmerge
      unfold settle at hvertices ⊢
      split_ifs at hvertices ⊢ with hempty
      · exact absurd (List.isEmpty_iff.mp hempty) hvertices
      · rw [foldl_add_bounds, foldl_add_vertices]
        rfl

/-- **Where the box of a merged mesh starts and ends, and when it is exact.**

A valid document is set up at every positive scale and flattened. Whatever is flattened of it, if
the mesh has vertices and all their coordinates are finite, then along every axis its box starts at
the least of 10¹⁰ and the coordinates, and ends at the greatest of -10¹⁰ and the coordinates. The
box is exact if and only if along every axis some coordinate is at most 10¹⁰ and some is at least
-10¹⁰.

**Proof sketch.** The box is stretched from vertex to vertex (`bounds_of_flatten`), along each axis
  by picking the lesser and the greater number (`Bounds.along_foldl_extend`), so it ends with the
  least and the greatest of all (`extreme_foldl`). What it started with is not among the
  coordinates, and does no harm as long as one of them comes before it (`Extreme.tail_iff`). -/
theorem flatten_bounds (s : Scene) (d : Document) (settings : Settings)
    (hvalid : d.validate = .ok ()) :
    (Single.lt 0 settings.scale →
      ∃ scene mesh, s.setup d settings = .ok scene ∧ scene.flatten.1 = .ok mesh) ∧
    ∀ scene mesh, s.setup d settings = .ok scene → scene.flatten.1 = .ok mesh →
      mesh.vertices ≠ [] → (∀ v ∈ mesh.vertices, ∀ a, (v.position.along a).isFinite) →
      (∀ a, Least (1e10 :: mesh.coordinates a) (mesh.bounds.min.along a) ∧
        Greatest (-1e10 :: mesh.coordinates a) (mesh.bounds.max.along a)) ∧
      (mesh.BoxExact ↔ ∀ a, (∃ x ∈ mesh.coordinates a, x.key ≤ (1e10 : Single).key) ∧
        ∃ x ∈ mesh.coordinates a, x.key ≥ (-1e10 : Single).key) := by
  refine ⟨fun hscale => ?_, fun scene mesh _ hflatten hvertices hfinite => ?_⟩
  · have hw : d.Wired := (Document.validate_eq_ok_iff_wired.mp hvalid).1
    obtain ⟨scene, hsetup, hp⟩ := exists_setup s hw hscale
    obtain ⟨mesh, -, hflatten, -⟩ := hp.exists_flatten? hw
    exact ⟨scene, mesh, hsetup, by rw [hflatten]⟩
  · have hbox := bounds_of_flatten hflatten hvertices
    have hnumbers : ∀ a, ∀ x ∈ mesh.coordinates a, x.isNaN = false := by
      intro a
      refine List.forall_mem_map.mpr fun v hv => ?_
      exact Single.isNaN_eq_false (hfinite v hv a)
    have hleast : ∀ a, Least (1e10 :: mesh.coordinates a) (mesh.bounds.min.along a) := by
      intro a
      rw [hbox, (Bounds.along_foldl_extend a _ _).1]
      cases a <;> exact extreme_foldl (· ≤ ·) Int.le_refl (fun _ _ _ => Int.le_trans)
        Bounds.lesser_cases (hnumbers _) isNaN_start.1
    have hgreatest : ∀ a, Greatest (-1e10 :: mesh.coordinates a) (mesh.bounds.max.along a) := by
      intro a
      rw [hbox, (Bounds.along_foldl_extend a _ _).2]
      cases a <;> exact extreme_foldl (· ≥ ·) Int.le_refl (fun _ _ _ h h' => Int.le_trans h' h)
        Bounds.greater_cases (hnumbers _) isNaN_start.2
    refine ⟨fun a => ⟨hleast a, hgreatest a⟩, forall_congr' fun a => and_congr ?_ ?_⟩
    · exact Extreme.tail_iff (· ≤ ·) (fun _ _ => Int.le_antisymm) (hleast a)
    · exact Extreme.tail_iff (· ≥ ·) (fun _ _ h h' => Int.le_antisymm h' h) (hgreatest a)

/-- A triangle that lies beyond 10¹⁰ along the first axis. -/
def farPanel : Document where
  nodes := [{ mesh := some 0, placement := { matrix := some Mat4.identity } }]
  meshes := [{ name := "panel", primitives := [
    { positions := [⟨2e10, 0, 0⟩, ⟨2e10, 1, 0⟩, ⟨2e10, 0, 1⟩] }] }]
  scenes := [{ nodes := [0] }]

/-- Along the first axis the box of the far triangle starts in front of all its vertices. -/
theorem flatten_bounds_farPanel :
    farPanel.validate = .ok () ∧ ∃ scene mesh, ({} : Scene).setup farPanel {} = .ok scene ∧
      scene.flatten.1 = .ok mesh ∧ mesh.coordinates .x = [2e10, 2e10, 2e10] ∧
      mesh.bounds.min.x = 1e10 ∧ ¬ mesh.BoxExact := by
  have hvalid : farPanel.validate = .ok () := rfl
  have hscale : Single.lt 0 ({} : Settings).scale := by decide +kernel
  obtain ⟨hexists, hbounds⟩ := flatten_bounds {} farPanel {} hvalid
  obtain ⟨scene, mesh, hsetup, hflatten⟩ := hexists hscale
  have hmesh : ((({} : Scene).setup farPanel {}).toOption.bind fun scene =>
      scene.flatten.1.toOption.map fun m => (m.vertices.map (·.position), m.bounds.min.x)) =
        some ([⟨2e10, 0, 0⟩, ⟨2e10, 1, 0⟩, ⟨2e10, 0, 1⟩], 1e10) := by
    decide +kernel
  simp only [hsetup, hflatten, Except.toOption, Option.bind_some, Option.map_some,
    Option.some.injEq, Prod.mk.injEq] at hmesh
  obtain ⟨hpositions, hmin⟩ := hmesh
  have hcoordinates : mesh.coordinates .x = [2e10, 2e10, 2e10] := by
    have hmap := congrArg (List.map (·.along Axis.x)) hpositions
    rwa [List.map_map] at hmap
  have hvertices : mesh.vertices ≠ [] := by
    intro hnil
    rw [hnil] at hpositions
    cases hpositions
  have hfinite : ∀ v ∈ mesh.vertices, ∀ a, (v.position.along a).isFinite := by
    have hall : ∀ p ∈ mesh.vertices.map (·.position),
        p.x.isFinite ∧ p.y.isFinite ∧ p.z.isFinite := by
      rw [hpositions]
      decide +kernel
    intro v hv a
    obtain ⟨hx, hy, hz⟩ := hall _ (List.mem_map_of_mem hv)
    cases a <;> assumption
  refine ⟨hvalid, scene, mesh, hsetup, hflatten, hcoordinates, hmin, fun hexact => ?_⟩
  obtain ⟨x, hx, hle⟩ := ((hbounds scene mesh hsetup hflatten hvertices hfinite).2.mp hexact .x).1
  rw [hcoordinates] at hx
  have hfar : ∀ x ∈ ([2e10, 2e10, 2e10] : List Single), ¬ x.key ≤ (1e10 : Single).key := by
    decide +kernel
  exact hfar x hx hle

end Scene

end SceneForge
