import SceneForge.Proofs.Geometry.Matrix

set_option autoImplicit false

/-!
# Inverse matrices

A matrix is inverted by its adjugate: sixteen signed sums of products, one for each entry, divided
by the determinant that the first four of them give. Over a field this is the inverse on both sides
whenever there is one. For an affine matrix only the linear part decides whether there is one, and
what is left of the transposed inverse without its last row and column is the inverse transpose of
the linear part.

## Main results

* `SceneForge.Mat4.toMatrix_inverse` — the inverse of a matrix with a determinant that is not zero.
* `SceneForge.Mat4.Affine.linear_normalMatrix_eq` — the normal matrix of an affine matrix.
* `SceneForge.Mat4.inverse_exact` — determinants, inverses and normal matrices are exact.
-/

namespace SceneForge.Mat4

section Field

variable {K : Type} [Field K] [LinearOrder K] {m : Mat4 K}

/-- A singular matrix has the identity in place of an inverse. -/
lemma inverse_of_det_eq_zero (h : m.det = 0) : m.inverse = identity := by
  simp [inverse, h]

/-- Any other matrix has the adjugate, divided by the determinant. -/
lemma inverse_of_det_ne_zero (h : m.det ≠ 0) : m.inverse = m.adjugate.scaleBy (1 / m.det) := by
  simp [inverse, h]

/-- **The inverse** of a matrix that is not singular is the inverse of the square matrix. -/
lemma toMatrix_inverse (h : m.det ≠ 0) : m.inverse.toMatrix = m.toMatrix⁻¹ := by
  rw [inverse_of_det_ne_zero h, toMatrix_scaleBy, toMatrix_adjugate, Matrix.inv_def,
    Ring.inverse_eq_inv', ← det_eq_det, one_div]

/-- A matrix that is not singular is inverted on both sides. -/
lemma mul_inverse (h : m.det ≠ 0) : m * m.inverse = identity ∧ m.inverse * m = identity := by
  have hunit : IsUnit m.toMatrix.det := by
    rw [← det_eq_det]
    exact isUnit_iff_ne_zero.mpr h
  constructor
  · apply toMatrix_injective
    rw [toMatrix_mul, toMatrix_inverse h, Matrix.mul_nonsing_inv _ hunit, toMatrix_identity]
  · apply toMatrix_injective
    rw [toMatrix_mul, toMatrix_inverse h, Matrix.nonsing_inv_mul _ hunit, toMatrix_identity]

/-- The linear part of the normal matrix is that of the transposed inverse. -/
lemma linear_normalMatrix (m : Mat4 K) : m.normalMatrix.linear = m.inverse.linear.transpose := by
  ext i j
  fin_cases i <;> fin_cases j <;> rfl

/-- The inverse of an affine matrix has the inverse of the linear part as its linear part. -/
lemma Affine.linear_inverse (h : m.Affine) (hdet : m.det3 ≠ 0) : m.inverse.linear = m.linear⁻¹ := by
  have hdet4 : m.det ≠ 0 := by rwa [h.det_eq_det3]
  have hscale : (m.adjugate.scaleBy (1 / m.det)).linear = (1 / m.det) • m.adjugate.linear := by
    ext i j
    fin_cases i <;> fin_cases j <;> simp [linear, scaleBy, mul_comm]
  rw [inverse_of_det_ne_zero hdet4, hscale, h.linear_adjugate, Matrix.inv_def, Ring.inverse_eq_inv',
    ← det3_eq_det, h.det_eq_det3, one_div]

/-- **The linear part of the normal matrix** of an affine matrix is the inverse transpose. -/
lemma Affine.linear_normalMatrix_eq (h : m.Affine) (hdet : m.det3 ≠ 0) :
    m.normalMatrix.linear = (m.linear⁻¹).transpose := by
  rw [linear_normalMatrix, h.linear_inverse hdet]

/-- **Determinants, inverses and normal matrices are exact.**

Over every ordered field and for every matrix, the number that the inverse is divided by is the
determinant. If it is not zero then the inverse is inverse on both sides, and if it is zero then the
identity stands in its place. For every affine matrix the determinant is that of the linear part,
and as soon as the linear part is invertible the normal matrix has its inverse transpose as linear
part.

**Proof sketch.** Products and adjugates are those of square matrices (`toMatrix_mul`,
`toMatrix_adjugate`), where the adjugate divided by the determinant is inverse on both sides. An
affine matrix is expanded along its last row: the determinant and the nine minors that matter are
those of the linear part (`Affine.det_eq_det3`, `Affine.linear_adjugate`). -/
theorem inverse_exact (m : Mat4 K) :
    m.det = m.toMatrix.det ∧
    (m.det ≠ 0 → m * m.inverse = identity ∧ m.inverse * m = identity) ∧
    (m.det = 0 → m.inverse = identity) ∧
    (m.Affine → m.det = m.det3 ∧ m.det3 = m.linear.det ∧
      (IsUnit m.linear → m.normalMatrix.linear = (m.linear⁻¹).transpose)) := by
  refine ⟨det_eq_det m, mul_inverse, inverse_of_det_eq_zero, fun haffine => ?_⟩
  refine ⟨haffine.det_eq_det3, det3_eq_det m, fun hunit => ?_⟩
  have hdet : m.det3 ≠ 0 := by
    rw [det3_eq_det]
    exact isUnit_iff_ne_zero.mp ((Matrix.isUnit_iff_isUnit_det _).mp hunit)
  exact haffine.linear_normalMatrix_eq hdet

end Field

/-- A transform that shears, reflects and shifts. -/
def slanted : Mat4 ℚ := ⟨⟨2, 0, 1, 0⟩, ⟨1, 3, 0, 0⟩, ⟨0, 1, -1, 0⟩, ⟨5, 6, 7, 1⟩⟩

/-- The slanted transform is affine. -/
lemma slanted_affine : slanted.Affine := ⟨rfl, rfl, rfl, rfl⟩

/-- The slanted transform reflects, and makes everything five times as large. -/
lemma det3_slanted : slanted.det3 = -5 := by
  norm_num [det3, slanted]

/-- The slanted transform is inverted on both sides, and its normal matrix is the inverse transpose.
-/
theorem inverse_exact_slanted : slanted.det = -5 ∧ slanted * slanted.inverse = identity ∧
    slanted.inverse * slanted = identity ∧
    slanted.normalMatrix.linear = (slanted.linear⁻¹).transpose := by
  obtain ⟨-, hinverse, -, haffine⟩ := inverse_exact slanted
  obtain ⟨hdet, hlinear, hnormal⟩ := haffine slanted_affine
  rw [det3_slanted] at hdet hlinear
  have hne : (-5 : ℚ) ≠ 0 := by norm_num
  obtain ⟨hright, hleft⟩ := hinverse (hdet ▸ hne)
  refine ⟨hdet, hright, hleft, hnormal ?_⟩
  rw [Matrix.isUnit_iff_isUnit_det, ← hlinear]
  exact isUnit_iff_ne_zero.mpr hne

end SceneForge.Mat4
