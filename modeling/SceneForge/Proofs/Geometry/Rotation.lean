import Mathlib.Algebra.Order.Ring.Abs
import Mathlib.Algebra.Quaternion
import Mathlib.Analysis.Complex.Trigonometric
import Mathlib.Analysis.Real.Sqrt
import Mathlib.Tactic.LinearCombination
import Mathlib.Tactic.NormNum.OfScientific
import SceneForge.Geometry.Quat
import SceneForge.Proofs.Geometry.Matrix

set_option autoImplicit false

/-!
# Shift, rotation and scale

The transform of a node is a shift after a rotation after a scale, and the rotation is given by a
unit quaternion. Over exact numbers the nine quadratic entries that are computed from the quaternion
are a rotation: the one that turns a vector by multiplying it with the quaternion on the left and
with its inverse on the right. So the determinant of the transform is the product of the three
factors of the scale, and the transform reflects exactly if an odd number of them is negative and
none is zero.

## Main definitions

* `SceneForge.Quat.Unit` — a quaternion of length one.
* `SceneForge.Quat.toQuaternion`, `SceneForge.Vec3.toQuaternion`, `SceneForge.vectorPart` —
  quaternions and vectors as quaternions over exact numbers, and back.

## Main results

* `SceneForge.Mat4.Affine.transformPoint_mul`, `SceneForge.Mat4.Affine.det3_mul` — products of
  affine matrices.
* `SceneForge.Quat.Unit.orthogonal`, `SceneForge.Quat.Unit.det3_rotation` — rotations.
* `SceneForge.Quat.Unit.conj_eq` — what a rotation does to a vector.
* `SceneForge.prod_neg_iff` — when a product is negative.
* `SceneForge.Mat4.ofTRS_exact` — the transform of a node.
-/

namespace SceneForge

/-! ## Products of affine matrices -/

namespace Mat4

section Ring

variable {R : Type} [CommRing R] {m n : Mat4 R}

/-- Products of affine matrices are affine. -/
lemma Affine.mul (hm : m.Affine) (hn : n.Affine) : (m * n).Affine := by
  rw [mul_eq]
  constructor <;> simp [mulVec, hm.c0, hm.c1, hm.c2, hm.c3, hn.c0, hn.c1, hn.c2, hn.c3]

/-- The linear part of a product of affine matrices. -/
lemma Affine.linear_mul (hn : n.Affine) : (m * n).linear = m.linear * n.linear := by
  rw [mul_eq]
  ext i j
  fin_cases i <;> fin_cases j <;>
    simp [linear, mulVec, Matrix.mul_apply, Fin.sum_univ_three, hn.c0, hn.c1, hn.c2]

/-- **Determinants** of products of affine matrices. -/
lemma Affine.det3_mul (hn : n.Affine) : (m * n).det3 = m.det3 * n.det3 := by
  rw [det3_eq_det, det3_eq_det, det3_eq_det, hn.linear_mul, Matrix.det_mul]

/-- A shift is affine. -/
lemma shifting_affine (t : Vec3 R) : (shifting t).Affine := ⟨rfl, rfl, rfl, rfl⟩

/-- A scaling is affine. -/
lemma scaling_affine (s : Vec3 R) : (scaling s).Affine := ⟨rfl, rfl, rfl, rfl⟩

/-- A shift has determinant one. -/
lemma det3_shifting (t : Vec3 R) : (shifting t).det3 = 1 := by
  simp [det3, shifting]

/-- The determinant of a scaling is the product of its factors. -/
lemma det3_scaling (s : Vec3 R) : (scaling s).det3 = s.x * s.y * s.z := by
  simp [det3, scaling]
  ring

end Ring

/-- **Points** are moved by one factor of a product after the other. -/
lemma Affine.transformPoint_mul {K : Type} [Field K] [LinearOrder K] {m n : Mat4 K} (hm : m.Affine)
    (hn : n.Affine) (p : Vec3 K) :
    (m * n).transformPoint p = m.transformPoint (n.transformPoint p) := by
  rw [(hm.mul hn).transformPoint_eq, hm.transformPoint_eq, hn.transformPoint_eq, mul_eq]
  simp only [transformDirection, mulVec, Vec3.add_eq, hn.c0, hn.c1, hn.c2, hn.c3]
  congr 1 <;> ring

end Mat4

/-! ## Rotations -/

section Quaternions

variable {R : Type} [CommRing R]

/-- A quaternion over exact numbers. -/
def Quat.toQuaternion (q : Quat R) : Quaternion R := ⟨q.w, q.x, q.y, q.z⟩

/-- A vector as a quaternion without scalar part. -/
def Vec3.toQuaternion (v : Vec3 R) : Quaternion R := ⟨0, v.x, v.y, v.z⟩

/-- The vector part of a quaternion. -/
def vectorPart (a : Quaternion R) : Vec3 R := ⟨a.imI, a.imJ, a.imK⟩

section Components

variable (q : Quat R) (v : Vec3 R)

@[simp]
lemma Quat.re_toQuaternion : q.toQuaternion.re = q.w := rfl

@[simp]
lemma Quat.imI_toQuaternion : q.toQuaternion.imI = q.x := rfl

@[simp]
lemma Quat.imJ_toQuaternion : q.toQuaternion.imJ = q.y := rfl

@[simp]
lemma Quat.imK_toQuaternion : q.toQuaternion.imK = q.z := rfl

@[simp]
lemma Vec3.re_toQuaternion : v.toQuaternion.re = 0 := rfl

@[simp]
lemma Vec3.imI_toQuaternion : v.toQuaternion.imI = v.x := rfl

@[simp]
lemma Vec3.imJ_toQuaternion : v.toQuaternion.imJ = v.y := rfl

@[simp]
lemma Vec3.imK_toQuaternion : v.toQuaternion.imK = v.z := rfl

/-- A vector is the vector part of itself. -/
@[simp]
lemma vectorPart_toQuaternion : vectorPart v.toQuaternion = v := rfl

end Components

namespace Quat

variable {q : Quat R}

/-- A quaternion of length one. -/
def Unit (q : Quat R) : Prop := q.x * q.x + q.y * q.y + q.z * q.z + q.w * q.w = 1

/-- A rotation is affine. -/
lemma rotation_affine (q : Quat R) : q.rotation.Affine := ⟨rfl, rfl, rfl, rfl⟩

/-- **Rotations are orthogonal.** -/
lemma Unit.orthogonal (h : q.Unit) : q.rotation.linear.transpose * q.rotation.linear = 1 := by
  unfold Unit at h
  ext i j
  fin_cases i <;> fin_cases j <;>
    simp [Mat4.linear, rotation, Matrix.mul_apply, Fin.sum_univ_three]
  -- each inner product of two columns is off by a multiple of the squared length less one
  · linear_combination 4 * (q.y * q.y + q.z * q.z) * h
  · linear_combination -4 * (q.x * q.y) * h
  · linear_combination -4 * (q.x * q.z) * h
  · linear_combination -4 * (q.x * q.y) * h
  · linear_combination 4 * (q.x * q.x + q.z * q.z) * h
  · linear_combination -4 * (q.y * q.z) * h
  · linear_combination -4 * (q.x * q.z) * h
  · linear_combination -4 * (q.y * q.z) * h
  · linear_combination 4 * (q.x * q.x + q.y * q.y) * h

/-- **Rotations do not reflect.** -/
lemma Unit.det3_rotation (h : q.Unit) : q.rotation.det3 = 1 := by
  unfold Unit at h
  simp only [Mat4.det3, rotation]
  linear_combination 4 * (q.x * q.x + q.y * q.y + q.z * q.z) * h

/-- **Rotations multiply on both sides.** The product of a vector with a unit quaternion on the left
and its conjugate on the right has no scalar part, and its vector part is the rotated vector. -/
lemma Unit.rotation_conj (h : q.Unit) (v : Vec3 R) :
    (q.rotation.transformDirection v).toQuaternion =
      q.toQuaternion * v.toQuaternion * star q.toQuaternion := by
  unfold Unit at h
  ext
  · simp
    ring
  · simp [Mat4.transformDirection, rotation]
    linear_combination -v.x * h
  · simp [Mat4.transformDirection, rotation]
    linear_combination -v.y * h
  · simp [Mat4.transformDirection, rotation]
    linear_combination -v.z * h

end Quat

end Quaternions

/-! ## Signs -/

/-- **A product is negative** exactly if an odd number of factors is negative and none is zero. -/
lemma prod_neg_iff {K : Type} [Field K] [LinearOrder K] [IsStrictOrderedRing K] (xs : List K) :
    xs.prod < 0 ↔ Odd (xs.countP (· < 0)) ∧ 0 ∉ xs := by
  by_cases hzero : 0 ∈ xs
  · simp [List.prod_eq_zero hzero, hzero]
  have hodd : xs.prod < 0 ↔ Odd (xs.countP (· < 0)) := by
    induction xs with
    | nil => simp
    | cons x xs ih =>
      obtain ⟨hx, hxs⟩ := not_or.mp (List.mem_cons.not.mp hzero)
      have hprod : xs.prod ≠ 0 := List.prod_ne_zero hxs
      rw [List.prod_cons, List.countP_cons, mul_neg_iff]
      rcases lt_or_gt_of_ne hx with hpos | hneg
      · simp only [hpos, hpos.not_gt, decide_false, Bool.false_eq_true, if_false, add_zero, true_and,
          false_and, or_false, ih hxs]
      · -- a negative factor turns the sign of the rest, and the parity with it
        have hrest : 0 < xs.prod ↔ ¬ xs.prod < 0 := ⟨fun h => h.not_gt, fun h =>
          lt_of_le_of_ne (not_lt.mp h) hprod.symm⟩
        simp only [hneg, hneg.not_gt, decide_true, if_true, true_and, false_and, false_or, hrest,
          ih hxs, Nat.odd_add_one]
  simp [hodd, hzero]

/-! ## Real numbers -/

noncomputable section Reals

/-- The functions of analysis. -/
instance : Analytic ℝ := ⟨Real.sqrt, Real.sin, Real.cos⟩

/-- A quaternion of length one is normalised already. -/
lemma Quat.Unit.normalize_eq {q : Quat ℝ} (h : q.Unit) : q.normalize = q := by
  have hlength : q.length = 1 := by
    unfold Quat.Unit at h
    show Real.sqrt (q.x * q.x + q.y * q.y + q.z * q.z + q.w * q.w) = 1
    rw [h, Real.sqrt_one]
  have hlong : ¬ (1 : ℝ) < 0.0001 := by norm_num
  simp [Quat.normalize, hlength, hlong]

/-- The inverse of a quaternion of length one is its conjugate. -/
lemma Quat.Unit.inv_eq {q : Quat ℝ} (h : q.Unit) : (q.toQuaternion)⁻¹ = star q.toQuaternion := by
  have hnorm : Quaternion.normSq q.toQuaternion = 1 := by
    unfold Quat.Unit at h
    simp only [Quaternion.normSq_def', Quat.re_toQuaternion, Quat.imI_toQuaternion,
      Quat.imJ_toQuaternion, Quat.imK_toQuaternion]
    linear_combination h
  rw [Quaternion.inv_def, hnorm, inv_one, one_smul]

/-- The matrix of a quaternion of length one turns vectors as the quaternion does. -/
lemma Quat.Unit.conj_eq {q : Quat ℝ} (h : q.Unit) (v : Vec3 ℝ) :
    q.toQuaternion * v.toQuaternion * (q.toQuaternion)⁻¹ =
      (q.toMat4.transformDirection v).toQuaternion := by
  rw [Quat.toMat4, h.normalize_eq, h.rotation_conj, h.inv_eq]

namespace Mat4

/-- The matrix of a quaternion is affine. -/
lemma toMat4_affine (q : Quat ℝ) : q.toMat4.Affine := Quat.rotation_affine _

/-- Shift after rotation after scale is affine. -/
lemma ofTRS_affine (t : Vec3 ℝ) (q : Quat ℝ) (s : Vec3 ℝ) : (ofTRS t q s).Affine :=
  ((shifting_affine t).mul (toMat4_affine q)).mul (scaling_affine s)

/-- A point is scaled, turned and shifted. -/
lemma transformPoint_ofTRS (t : Vec3 ℝ) (q : Quat ℝ) (s p : Vec3 ℝ) :
    (ofTRS t q s).transformPoint p =
      t + q.toMat4.transformDirection ⟨s.x * p.x, s.y * p.y, s.z * p.z⟩ := by
  have hscaled : (scaling s).transformPoint p = ⟨s.x * p.x, s.y * p.y, s.z * p.z⟩ := by
    rw [(scaling_affine s).transformPoint_eq]
    simp [transformDirection, scaling, Vec3.add_eq]
  have hturned : ∀ v, q.toMat4.transformPoint v = q.toMat4.transformDirection v := by
    intro v
    rw [(toMat4_affine q).transformPoint_eq]
    simp [Quat.toMat4, Quat.rotation, Vec3.add_eq]
  have hshifted : ∀ v, (shifting t).transformPoint v = t + v := by
    intro v
    rw [(shifting_affine t).transformPoint_eq]
    simp [transformDirection, shifting, Vec3.add_eq, add_comm]
  rw [ofTRS, ((shifting_affine t).mul (toMat4_affine q)).transformPoint_mul (scaling_affine s),
    (shifting_affine t).transformPoint_mul (toMat4_affine q), hscaled, hturned, hshifted]

/-- **The transform of a node.**

Over the real numbers and for every unit quaternion, which normalising does not change, the linear
part of its matrix is orthogonal, has determinant one, and turns a vector as the quaternion does:
the product of the vector with the quaternion on the left and its inverse on the right has no scalar
part, and its vector part is the turned vector. So the transform of a node scales a point, turns it
and shifts it. Its determinant is the product of the factors of the scale, also on top of another
affine matrix, and it counts as reflecting if and only if an odd number of the factors is negative
and none is zero.

**Proof sketch.** All identities between the nine entries of a rotation hold up to a multiple of the
squared length less one (`Quat.Unit.orthogonal`, `Quat.Unit.det3_rotation`,
`Quat.Unit.rotation_conj`). Affine matrices multiply like their linear parts (`Affine.linear_mul`)
and move points one after the other (`Affine.transformPoint_mul`). -/
theorem ofTRS_exact (q : Quat ℝ) (hq : q.Unit) :
    q.normalize = q ∧
    (q.toMat4.linear.transpose * q.toMat4.linear = 1 ∧ q.toMat4.linear.det = 1 ∧
      ∀ v : Vec3 ℝ, (q.toQuaternion * v.toQuaternion * (q.toQuaternion)⁻¹).re = 0 ∧
        q.toMat4.linear.mulVec v.toFun =
          (vectorPart (q.toQuaternion * v.toQuaternion * (q.toQuaternion)⁻¹)).toFun) ∧
    ∀ t s : Vec3 ℝ,
      (∀ p : Vec3 ℝ, (ofTRS t q s).transformPoint p = t + vectorPart (q.toQuaternion *
        (⟨s.x * p.x, s.y * p.y, s.z * p.z⟩ : Vec3 ℝ).toQuaternion * (q.toQuaternion)⁻¹)) ∧
      (ofTRS t q s).det3 = s.x * s.y * s.z ∧
      (∀ parent : Mat4 ℝ, (parent * ofTRS t q s).det3 = parent.det3 * (s.x * s.y * s.z)) ∧
      (Comparable.less (ofTRS t q s).det3 0 ↔
        Odd (s.toList.countP (· < 0)) ∧ 0 ∉ s.toList) := by
  have hmatrix : q.toMat4 = q.rotation := by rw [Quat.toMat4, hq.normalize_eq]
  have hdet : q.toMat4.det3 = 1 := by rw [hmatrix, hq.det3_rotation]
  refine ⟨hq.normalize_eq, ⟨?_, ?_, fun v => ⟨?_, ?_⟩⟩, fun t s => ?_⟩
  · rw [hmatrix, hq.orthogonal]
  · rw [← det3_eq_det, hdet]
  · rw [hq.conj_eq, Vec3.re_toQuaternion]
  · rw [hq.conj_eq, vectorPart_toQuaternion, toFun_transformDirection]
  · have hlocal : (ofTRS t q s).det3 = s.x * s.y * s.z := by
      rw [ofTRS, (scaling_affine s).det3_mul, (toMat4_affine q).det3_mul, det3_shifting, hdet,
        det3_scaling, one_mul, one_mul]
    have hfactors : s.x * s.y * s.z = s.toList.prod := by
      simp [Vec3.toList, mul_assoc]
    refine ⟨fun p => ?_, hlocal, fun parent => ?_, ?_⟩
    · rw [transformPoint_ofTRS, hq.conj_eq, vectorPart_toQuaternion]
    · rw [(ofTRS_affine t q s).det3_mul, hlocal]
    · rw [Comparable.less_eq, decide_eq_true_eq, hlocal, hfactors, prod_neg_iff]

/-- A quaternion with rational components that turns about the second axis. -/
def swivel : Quat ℝ := ⟨0, 3 / 5, 0, 4 / 5⟩

/-- A node that is shifted, turned about the second axis and mirrored along the first counts as
reflecting. -/
theorem ofTRS_exact_swivel : swivel.Unit ∧
    (ofTRS ⟨0, 5, 0⟩ swivel ⟨-2, 1, 3⟩).det3 = -6 ∧
    Comparable.less (ofTRS ⟨0, 5, 0⟩ swivel ⟨-2, 1, 3⟩).det3 0 ∧
    (ofTRS ⟨0, 5, 0⟩ swivel ⟨-2, 1, 3⟩).transformPoint ⟨1, 0, 0⟩ =
      ⟨-14 / 25, 5, 48 / 25⟩ := by
  have hunit : swivel.Unit := by
    norm_num [Quat.Unit, swivel]
  obtain ⟨hpoint, hdet, -, hreflects⟩ := (ofTRS_exact swivel hunit).2.2 ⟨0, 5, 0⟩ ⟨-2, 1, 3⟩
  refine ⟨hunit, by rw [hdet]; norm_num, hreflects.mpr ?_, ?_⟩
  · norm_num [Vec3.toList]
  · rw [hpoint, hunit.inv_eq]
    simp only [vectorPart, Vec3.add_eq, Vec3.mk.injEq]
    norm_num [swivel]

end Mat4

end Reals

end SceneForge
