import Mathlib.Algebra.Order.Ring.Abs
import Mathlib.LinearAlgebra.CrossProduct
import SceneForge.Proofs.Geometry.Inverse
import SceneForge.Proofs.Scene.Placement

set_option autoImplicit false

/-!
# The side that a triangle faces

The corners of a triangle go around its normal against the clock. A transform moves the corners, and
where it reflects they are put in the other order; derived normals are moved by the normal matrix.
Over exact numbers both agree: the normal of a triangle as it is put into the merged mesh is its own
normal moved by the normal matrix, and made longer or shorter by the absolute value of the
determinant. So a derived normal points to the side that the triangle faces, whether its node is
mirrored, sheared or scaled unevenly.

## Main definitions

* `SceneForge.Triangle`, `SceneForge.Triangle.normal` — a triangle and its normal.
* `SceneForge.Mat4.emit` — a triangle as a transform leaves it.

## Main results

* `SceneForge.Scene.corners_of_blockOf`, `SceneForge.Scene.addFace_eq` — flattening emits triangles
  and adds up normals in this way.
* `SceneForge.Mat4.Affine.cross_transformDirection` — products of moved directions.
* `SceneForge.Mat4.emit_faces` — moved normals are the normals of moved triangles.
-/

namespace SceneForge

/-! ## Triangles -/

/-- A triangle by its corners. -/
@[ext]
structure Triangle (α : Type) where
  /-- First corner. -/
  a : Vec3 α
  /-- Second corner. -/
  b : Vec3 α
  /-- Third corner. -/
  c : Vec3 α

namespace Triangle

variable {α β : Type}

/-- The triangle with all corners moved. -/
def map (f : Vec3 α → Vec3 β) (t : Triangle α) : Triangle β := ⟨f t.a, f t.b, f t.c⟩

/-- The triangle that goes around the other way. -/
def flip (t : Triangle α) : Triangle α := ⟨t.a, t.c, t.b⟩

/-- The normal: on the side from which the corners go around against the clock, and twice as long as
the triangle is large. -/
def normal [Sub α] [Mul α] (t : Triangle α) : Vec3 α := (t.b - t.a).cross (t.c - t.a)

end Triangle

/-- A triangle as a transform leaves it: every corner is moved, and a transform that reflects puts
the third corner before the second. -/
def Mat4.emit {α : Type} [Add α] [Sub α] [Mul α] [Div α] [OfNat α 0] [OfNat α 1] [Comparable α]
    (m : Mat4 α) (t : Triangle α) : Triangle α :=
  if Comparable.less m.det3 0 then (t.map m.transformPoint).flip else t.map m.transformPoint

/-! ## Triangles of a block -/

namespace Scene

/-- The triangle at three of some points. -/
def corners? {α : Type} (points : List (Vec3 α)) : UInt32 × UInt32 × UInt32 → Option (Triangle α)
  | (a, b, c) => do
    return ⟨← points[a.toNat]?, ← points[b.toNat]?, ← points[c.toNat]?⟩

/-- Points that are moved have triangles that are moved. -/
lemma corners?_map {α β : Type} (f : Vec3 α → Vec3 β) (points : List (Vec3 α))
    (t : UInt32 × UInt32 × UInt32) :
    corners? (points.map f) t = (corners? points t).map (Triangle.map f) := by
  obtain ⟨a, b, c⟩ := t
  simp only [corners?, List.getElem?_map]
  cases points[a.toNat]? <;> cases points[b.toNat]? <;> cases points[c.toNat]? <;> rfl

/-- Numbers in the other order have the triangle that goes around the other way. -/
lemma corners?_flip {α : Type} (points : List (Vec3 α)) (a b c : UInt32) :
    corners? points (a, c, b) = (corners? points (a, b, c)).map Triangle.flip := by
  simp only [corners?]
  cases points[a.toNat]? <;> cases points[b.toNat]? <;> cases points[c.toNat]? <;> rfl

/-- Triples put one after the other are found again. -/
lemma triangles_flatMap (reflected : Bool) (ts : List (UInt32 × UInt32 × UInt32)) :
    triangles (ts.flatMap fun (a, b, c) => if reflected then [a, c, b] else [a, b, c]) =
      ts.map fun (a, b, c) => if reflected then (a, c, b) else (a, b, c) := by
  induction ts with
  | nil => rfl
  | cons t ts ih =>
    cases reflected <;> simpa [triangles] using ih

/-- **A block has the triangles of its primitive** as the transform of its node leaves them. -/
lemma corners_of_blockOf {flags : Flags} {node : Node} {base : Option Nat} {name : String}
    {p : Document.Primitive} {b : Block} (h : blockOf flags node base name p = some b) :
    (triangles b.indices).map (corners? (b.vertices.map (·.position))) =
      (triangles (numbers p)).map fun t => (corners? p.positions t).map node.world.emit := by
  have hpoints : b.vertices.map (·.position) = p.positions.map node.world.transformPoint := by
    rw [vertices_of_blockOf h]
    exact List.ext_getElem (by simp) fun k h₁ h₂ => by simp [position_vertexOf]
  have hindices : b.indices = (triangles (numbers p)).flatMap fun (a, b, c) =>
      if Comparable.less node.world.det3 0 then [a, c, b] else [a, b, c] := by
    simp only [blockOf, Option.bind_eq_bind, Option.bind_eq_some_iff, Option.pure_def,
      Option.some.injEq] at h
    obtain ⟨_, -, rfl⟩ := h
    rfl
  rw [hindices, triangles_flatMap, hpoints, List.map_map]
  refine List.map_congr_left fun t _ => ?_
  obtain ⟨a, b, c⟩ := t
  have hemit : node.world.emit = fun t => if Comparable.less node.world.det3 0
      then (t.map node.world.transformPoint).flip else t.map node.world.transformPoint := rfl
  rw [Function.comp_apply, hemit]
  cases Comparable.less node.world.det3 0 with
  | false => exact corners?_map _ _ _
  | true => exact (corners?_flip _ a b c).trans (by rw [corners?_map, Option.map_map]; rfl)

/-- **The normal of a triangle is added up at its corners.** -/
lemma addFace_eq {points sums : Array (Vec3 Single)} {a b c : UInt32} {t : Triangle Single}
    (h : corners? points.toList (a, b, c) = some t) : addFace points sums (a, b, c) =
      some ([a, b, c].foldl (fun sums i => sums.modify i.toNat (· + t.normal)) sums) := by
  simp only [corners?, Option.bind_eq_bind, Option.bind_eq_some_iff, Option.pure_def,
    Option.some.injEq, Array.getElem?_toList] at h
  obtain ⟨p0, h0, p1, h1, p2, h2, rfl⟩ := h
  simp only [addFace, h0, h1, h2]
  rfl

end Scene

/-! ## Exact numbers -/

namespace Vec3

/-- A vector made longer. -/
instance {α : Type} [Mul α] : SMul α (Vec3 α) := ⟨fun k v => ⟨k * v.x, k * v.y, k * v.z⟩⟩

/-- Vectors added up. -/
def total {α : Type} [Add α] [OfNat α 0] (vs : List (Vec3 α)) : Vec3 α := vs.foldl (· + ·) zero

variable {R : Type} [CommRing R]

/-- The multiple of a vector, by component. -/
lemma smul_eq (k : R) (v : Vec3 R) : k • v = ⟨k * v.x, k * v.y, k * v.z⟩ := rfl

/-- The vector without extent, by component. -/
lemma zero_eq : (zero : Vec3 R) = ⟨0, 0, 0⟩ := rfl

/-- The column of a multiple. -/
lemma toFun_smul (k : R) (v : Vec3 R) : (k • v).toFun = k • v.toFun := by
  ext i
  fin_cases i <;> simp [smul_eq, toFun]

/-- The column of the vector without extent. -/
lemma toFun_zero : (zero : Vec3 R).toFun = 0 := by
  ext i
  fin_cases i <;> rfl

/-- Multiples of multiples. -/
lemma smul_smul (k l : R) (v : Vec3 R) : k • l • v = (k * l) • v := by
  simp only [smul_eq, mul_assoc]

/-- The inner product of multiples. -/
lemma smul_dot_smul (k l : R) (v : Vec3 R) : (k • v).dot (l • v) = k * l * v.dot v := by
  simp only [smul_eq, dot]
  ring

/-- A vector with some extent has a positive inner product with itself. -/
lemma dot_self_pos {K : Type} [Field K] [LinearOrder K] [IsStrictOrderedRing K] {v : Vec3 K}
    (hv : v ≠ zero) : 0 < v.dot v := by
  obtain ⟨x, y, z⟩ := v
  have hsquares : 0 ≤ x * x ∧ 0 ≤ y * y ∧ 0 ≤ z * z :=
    ⟨mul_self_nonneg x, mul_self_nonneg y, mul_self_nonneg z⟩
  refine lt_of_le_of_ne (by simp only [dot]; linarith) fun heq => hv ?_
  simp only [dot] at heq
  have hx : x * x = 0 := by linarith
  have hy : y * y = 0 := by linarith
  have hz : z * z = 0 := by linarith
  rw [zero_eq, mul_self_eq_zero.mp hx, mul_self_eq_zero.mp hy, mul_self_eq_zero.mp hz]

/-- **Sums are kept** by what keeps sums of two and nothing. -/
lemma total_map (f : Vec3 R → Vec3 R) (hzero : f zero = zero) (hadd : ∀ v u, f (v + u) = f v + f u)
    (vs : List (Vec3 R)) : total (vs.map f) = f (total vs) := by
  have hfold : ∀ start, (vs.map f).foldl (· + ·) (f start) = f (vs.foldl (· + ·) start) := by
    induction vs with
    | nil => exact fun start => rfl
    | cons v vs ih =>
      intro start
      rw [List.map_cons, List.foldl_cons, List.foldl_cons, ← hadd, ih]
  have hstart := hfold zero
  rwa [hzero] at hstart

end Vec3

/-- A triangle that goes around the other way has the opposite normal. -/
lemma Triangle.normal_flip {R : Type} [CommRing R] (t : Triangle R) :
    t.flip.normal = (-1 : R) • t.normal := by
  simp only [flip, normal, Vec3.cross, Vec3.sub_eq, Vec3.smul_eq]
  congr 1 <;> ring

namespace Mat4

section Ring

variable {R : Type} [CommRing R] (m : Mat4 R)

/-- **The cross product of moved directions** is the cross product, moved by the minors of the
linear part. -/
lemma toFun_cross_transformDirection (u v : Vec3 R) :
    ((m.transformDirection u).cross (m.transformDirection v)).toFun =
      m.linear.adjugate.transpose.mulVec (u.cross v).toFun := by
  rw [linear, Matrix.adjugate_fin_three_of]
  ext i
  fin_cases i <;>
    simp [Vec3.cross, transformDirection, Vec3.toFun, Matrix.mulVec, dotProduct,
      Fin.sum_univ_three] <;> ring

/-- Multiples are moved to multiples. -/
lemma transformDirection_smul (k : R) (v : Vec3 R) :
    m.transformDirection (k • v) = k • m.transformDirection v := by
  simp only [transformDirection, Vec3.smul_eq]
  congr 1 <;> ring

/-- Sums are moved to sums. -/
lemma transformDirection_add (v u : Vec3 R) :
    m.transformDirection (v + u) = m.transformDirection v + m.transformDirection u := by
  simp only [transformDirection, Vec3.add_eq]
  congr 1 <;> ring

end Ring

section Field

variable {K : Type} [Field K] [LinearOrder K] {m : Mat4 K}

/-- Differences of moved points are moved differences. -/
lemma Affine.transformPoint_sub (h : m.Affine) (p q : Vec3 K) :
    m.transformPoint p - m.transformPoint q = m.transformDirection (p - q) := by
  rw [h.transformPoint_eq, h.transformPoint_eq]
  simp only [transformDirection, Vec3.add_eq, Vec3.sub_eq]
  congr 1 <;> ring

/-- **The cross product of moved directions** is the cross product, moved by the normal matrix and
multiplied by the determinant. -/
lemma Affine.cross_transformDirection (h : m.Affine) (hdet : m.det3 ≠ 0) (u v : Vec3 K) :
    (m.transformDirection u).cross (m.transformDirection v) =
      m.det3 • m.normalMatrix.transformDirection (u.cross v) := by
  apply Vec3.toFun_injective
  have hadjugate : m.linear.adjugate = m.det3 • m.linear⁻¹ := by
    rw [Matrix.inv_def, Ring.inverse_eq_inv', ← det3_eq_det, smul_inv_smul₀ hdet]
  rw [toFun_cross_transformDirection, Vec3.toFun_smul, toFun_transformDirection,
    h.linear_normalMatrix_eq hdet, hadjugate, Matrix.transpose_smul, Matrix.smul_mulVec]

/-- A direction that the normal matrix moves to nothing is nothing. -/
lemma Affine.eq_zero_of_normalMatrix (h : m.Affine) (hdet : m.det3 ≠ 0) {n : Vec3 K}
    (hn : m.normalMatrix.transformDirection n = .zero) : n = .zero := by
  apply Vec3.toFun_injective
  have hunit : IsUnit (m.linear⁻¹).transpose.det := by
    rw [Matrix.det_transpose, Matrix.det_nonsing_inv, ← det3_eq_det, Ring.inverse_eq_inv']
    exact isUnit_iff_ne_zero.mpr (inv_ne_zero hdet)
  have hmove := congrArg Vec3.toFun hn
  rw [toFun_transformDirection, h.linear_normalMatrix_eq hdet, Vec3.toFun_zero] at hmove
  have hback := congrArg (Matrix.mulVec ((m.linear⁻¹).transpose)⁻¹) hmove
  rwa [Matrix.mulVec_mulVec, Matrix.nonsing_inv_mul _ hunit, Matrix.one_mulVec,
    Matrix.mulVec_zero, ← Vec3.toFun_zero] at hback

/-- The normal of a triangle is moved with it, up to a factor. -/
lemma Affine.normal_map (h : m.Affine) (hdet : m.det3 ≠ 0) (t : Triangle K) :
    (t.map m.transformPoint).normal = m.det3 • m.normalMatrix.transformDirection t.normal := by
  rw [Triangle.normal, Triangle.map, h.transformPoint_sub, h.transformPoint_sub,
    h.cross_transformDirection hdet]
  rfl

variable [IsStrictOrderedRing K]

/-- **The normal of a triangle as a transform leaves it.** -/
lemma Affine.normal_emit (h : m.Affine) (hdet : m.det3 ≠ 0) (t : Triangle K) :
    (m.emit t).normal = |m.det3| • m.normalMatrix.transformDirection t.normal := by
  simp only [emit, Comparable.less_eq, decide_eq_true_eq]
  split_ifs with hreflects
  · rw [Triangle.normal_flip, h.normal_map hdet, Vec3.smul_smul, abs_of_neg hreflects, neg_one_mul]
  · rw [h.normal_map hdet, abs_of_nonneg (not_lt.mp hreflects)]

/-- **Moved normals are the normals of moved triangles.**

Over every ordered field and for every affine matrix whose linear part is invertible, the normal of
a triangle as the matrix leaves it is the normal of the triangle moved by the normal matrix, times
the absolute value of the determinant. So whatever positive factor the normal of a triangle is
scaled by before it is moved, it points to the side from which the triangle that is left goes around
against the clock, unless the triangle is degenerate. And the normals of several triangles may be
added up before they are moved, or after.

**Proof sketch.** Differences of corners are moved by the linear part, so cross products of them are
moved by its minors (`toFun_cross_transformDirection`). These are the determinant times the linear
part of the normal matrix (`Affine.cross_transformDirection`). A matrix that reflects has a negative
determinant and puts the corners in the other order, which turns the normal round
(`Triangle.normal_flip`). -/
theorem emit_faces (m : Mat4 K) (haffine : m.Affine) (hdet : m.det3 ≠ 0) :
    (∀ t : Triangle K,
      (m.emit t).normal = |m.det3| • m.normalMatrix.transformDirection t.normal ∧
      (t.normal ≠ .zero → ∀ k : K, 0 < k →
        0 < (m.emit t).normal.dot (m.normalMatrix.transformDirection (k • t.normal)))) ∧
    ∀ ts : List (Triangle K), Vec3.total (ts.map fun t => (m.emit t).normal) =
      |m.det3| • m.normalMatrix.transformDirection (Vec3.total (ts.map Triangle.normal)) := by
  have hnormal := haffine.normal_emit hdet
  refine ⟨fun t => ⟨hnormal t, fun hextent k hk => ?_⟩, fun ts => ?_⟩
  · have hmoved : m.normalMatrix.transformDirection t.normal ≠ .zero :=
      fun hzero => hextent (haffine.eq_zero_of_normalMatrix hdet hzero)
    rw [hnormal t, transformDirection_smul, Vec3.smul_dot_smul]
    exact mul_pos (mul_pos (abs_pos.mpr hdet) hk) (Vec3.dot_self_pos hmoved)
  · have hzero : |m.det3| • m.normalMatrix.transformDirection .zero = (.zero : Vec3 K) := by
      simp [transformDirection, Vec3.smul_eq, Vec3.zero_eq]
    have hadd : ∀ v u : Vec3 K, |m.det3| • m.normalMatrix.transformDirection (v + u) =
        |m.det3| • m.normalMatrix.transformDirection v +
          |m.det3| • m.normalMatrix.transformDirection u := by
      intro v u
      rw [transformDirection_add]
      simp only [Vec3.smul_eq, Vec3.add_eq, mul_add]
    rw [← Vec3.total_map (fun n => |m.det3| • m.normalMatrix.transformDirection n) hzero hadd,
      List.map_map]
    exact congrArg Vec3.total (List.map_congr_left fun t _ => hnormal t)

end Field

/-- A triangle on the ground, seen against the clock from above. -/
def tile : Triangle ℚ := ⟨⟨0, 0, 0⟩, ⟨1, 0, 0⟩, ⟨0, 1, 0⟩⟩

/-- Behind the slanted transform, which reflects, the tile still faces where its normal points. -/
theorem emit_faces_tile : slanted.Affine ∧ slanted.det3 ≠ 0 ∧
    (slanted.emit tile).normal = |slanted.det3| • slanted.normalMatrix.transformDirection ⟨0, 0, 1⟩ ∧
    0 < (slanted.emit tile).normal.dot (slanted.normalMatrix.transformDirection ⟨0, 0, 1⟩) := by
  have hdet : slanted.det3 ≠ 0 := by
    rw [det3_slanted]
    norm_num
  have hnormal : tile.normal = ⟨0, 0, 1⟩ := by
    norm_num [Triangle.normal, tile, Vec3.cross, Vec3.sub_eq]
  have hone : (1 : ℚ) • tile.normal = ⟨0, 0, 1⟩ := by
    norm_num [hnormal, Vec3.smul_eq]
  have hextent : tile.normal ≠ .zero := by
    rw [hnormal, Vec3.zero_eq]
    simp
  obtain ⟨hmoved, hfaces⟩ := (emit_faces slanted slanted_affine hdet).1 tile
  refine ⟨slanted_affine, hdet, hnormal ▸ hmoved, ?_⟩
  have hside := hfaces hextent 1 one_pos
  rwa [hone] at hside

end Mat4

end SceneForge
