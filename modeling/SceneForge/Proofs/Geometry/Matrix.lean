import Mathlib.Algebra.Order.Field.Basic
import Mathlib.LinearAlgebra.Matrix.NonsingularInverse
import Mathlib.LinearAlgebra.Matrix.Notation
import Mathlib.Tactic.FinCases
import Mathlib.Tactic.Ring
import SceneForge.Geometry.Mat4

set_option autoImplicit false

/-!
# Matrices over exact numbers

The formulas for vectors and matrices do not say what a scalar is. Over a field they are the
formulas of linear algebra: a matrix by columns is a square matrix, and what is computed from it
entry by entry is what is computed from the square matrix.

## Main definitions

* `SceneForge.Comparable.ofLinearOrder` — exact numbers are compared by their order.
* `SceneForge.Vec3.toFun`, `SceneForge.Mat4.toMatrix`, `SceneForge.Mat4.linear` — a vector as a
  column, a matrix as a square matrix, and its linear part.
* `SceneForge.Mat4.Affine` — a matrix whose last row is that of the identity.

## Main results

* `SceneForge.Mat4.toMatrix_mul`, `SceneForge.Mat4.toMatrix_adjugate` — products and adjugates.
* `SceneForge.Mat4.det_eq_det`, `SceneForge.Mat4.det3_eq_det` — determinants.
* `SceneForge.Mat4.Affine.linear_adjugate`, `SceneForge.Mat4.Affine.det_eq_det3` — of an affine
  matrix the linear part decides.
* `SceneForge.Mat4.toFun_transformDirection` — the action on directions.
* `SceneForge.Mat4.Affine.transformPoint_eq` — the action on points.
-/

namespace SceneForge

/-! ## Comparison -/

/-- Exact numbers are compared by their order. -/
instance (priority := low) Comparable.ofLinearOrder {K : Type} [LinearOrder K] : Comparable K :=
  ⟨fun a b => decide (a = b), fun a b => decide (a < b)⟩

namespace Comparable

variable {K : Type} [LinearOrder K]

/-- Exact numbers are the same if they are equal. -/
@[simp]
lemma same_eq (a b : K) : same a b = decide (a = b) := rfl

/-- Exact numbers are less by their order. -/
@[simp]
lemma less_eq (a b : K) : less a b = decide (a < b) := rfl

end Comparable

/-! ## Vectors as columns -/

namespace Vec3

variable {α : Type}

/-- A vector as a column. -/
def toFun (v : Vec3 α) : Fin 3 → α := ![v.x, v.y, v.z]

/-- Vectors are equal if their columns are. -/
lemma toFun_injective : Function.Injective (toFun (α := α)) := by
  intro v u h
  have hentry : ∀ i, v.toFun i = u.toFun i := fun i => by rw [h]
  obtain ⟨_, _, _⟩ := v
  obtain ⟨_, _, _⟩ := u
  simpa [Fin.forall_fin_succ, toFun] using hentry

/-- The difference of vectors, by component. -/
lemma sub_eq [Sub α] (v u : Vec3 α) : v - u = ⟨v.x - u.x, v.y - u.y, v.z - u.z⟩ := rfl

/-- The sum of vectors, by component. -/
lemma add_eq [Add α] (v u : Vec3 α) : v + u = ⟨v.x + u.x, v.y + u.y, v.z + u.z⟩ := rfl

/-- The signed sum with all signs turned is the opposite. -/
lemma tripleNeg_eq_neg [CommRing α] (a b c : Vec3 α) : tripleNeg a b c = -triple a b c := by
  unfold tripleNeg triple
  ring

end Vec3

/-! ## Matrices -/

namespace Mat4

section Entries

variable {α : Type}

/-- A matrix as a square matrix. -/
def toMatrix (m : Mat4 α) : Matrix (Fin 4) (Fin 4) α :=
  !![m.c0.x, m.c1.x, m.c2.x, m.c3.x;
    m.c0.y, m.c1.y, m.c2.y, m.c3.y;
    m.c0.z, m.c1.z, m.c2.z, m.c3.z;
    m.c0.w, m.c1.w, m.c2.w, m.c3.w]

/-- The linear part of a matrix: its upper left block. -/
def linear (m : Mat4 α) : Matrix (Fin 3) (Fin 3) α :=
  !![m.c0.x, m.c1.x, m.c2.x;
    m.c0.y, m.c1.y, m.c2.y;
    m.c0.z, m.c1.z, m.c2.z]

/-- Matrices are equal if their square matrices are. -/
lemma toMatrix_injective : Function.Injective (toMatrix (α := α)) := by
  intro m n h
  have hentry : ∀ i j, m.toMatrix i j = n.toMatrix i j := fun i j => by rw [h]
  obtain ⟨⟨_, _, _, _⟩, ⟨_, _, _, _⟩, ⟨_, _, _, _⟩, ⟨_, _, _, _⟩⟩ := m
  obtain ⟨⟨_, _, _, _⟩, ⟨_, _, _, _⟩, ⟨_, _, _, _⟩, ⟨_, _, _, _⟩⟩ := n
  simpa [Fin.forall_fin_succ, toMatrix, and_assoc, and_left_comm] using hentry

/-- A matrix whose last row is that of the identity: a linear part and a shift. -/
structure Affine [OfNat α 0] [OfNat α 1] (m : Mat4 α) : Prop where
  /-- The first entry of the last row. -/
  c0 : m.c0.w = 0
  /-- The second entry of the last row. -/
  c1 : m.c1.w = 0
  /-- The third entry of the last row. -/
  c2 : m.c2.w = 0
  /-- The corner. -/
  c3 : m.c3.w = 1

end Entries

section Ring

variable {R : Type} [CommRing R]

/-- The product, by columns. -/
lemma mul_eq (m n : Mat4 R) :
    m * n = ⟨m.mulVec n.c0, m.mulVec n.c1, m.mulVec n.c2, m.mulVec n.c3⟩ := rfl

/-- **Products** are products of square matrices. -/
lemma toMatrix_mul (m n : Mat4 R) : (m * n).toMatrix = m.toMatrix * n.toMatrix := by
  rw [mul_eq]
  ext i j
  fin_cases i <;> fin_cases j <;> simp [toMatrix, mulVec, Matrix.mul_apply, Fin.sum_univ_four]

/-- The identity is the square identity. -/
lemma toMatrix_identity : (identity : Mat4 R).toMatrix = 1 := by
  ext i j
  fin_cases i <;> fin_cases j <;> simp [toMatrix, identity]

/-- Every entry is multiplied. -/
lemma toMatrix_scaleBy (m : Mat4 R) (k : R) : (m.scaleBy k).toMatrix = k • m.toMatrix := by
  ext i j
  fin_cases i <;> fin_cases j <;> simp [toMatrix, scaleBy, mul_comm]

/-- **The adjugate**: each entry is a signed sum of six products of three entries outside a row and
a column, and so is the minor that the square adjugate has there. -/
lemma toMatrix_adjugate (m : Mat4 R) : m.adjugate.toMatrix = m.toMatrix.adjugate := by
  ext i j
  rw [Matrix.adjugate_fin_succ_eq_det_submatrix, Matrix.det_fin_three]
  fin_cases i <;> fin_cases j <;>
    simp only [toMatrix, adjugate, Vec3.tripleNeg_eq_neg, Vec3.triple, dropX, dropY, dropZ, dropW] <;>
    simp [Fin.succAbove] <;> ring

/-- **The determinant** is expanded along the first row. -/
lemma det_eq_det (m : Mat4 R) : m.det = m.toMatrix.det := by
  rw [Matrix.det_eq_sum_mul_adjugate_row _ 0, ← toMatrix_adjugate, Fin.sum_univ_four]
  rfl

/-- **The determinant of the linear part.** -/
lemma det3_eq_det (m : Mat4 R) : m.det3 = m.linear.det := by
  rw [Matrix.det_fin_three]
  simp only [det3, linear, Matrix.of_apply, Matrix.cons_val]
  ring

/-- **The action on directions** is that of the linear part. -/
lemma toFun_transformDirection (m : Mat4 R) (d : Vec3 R) :
    (m.transformDirection d).toFun = m.linear.mulVec d.toFun := by
  ext i
  fin_cases i <;>
    simp [transformDirection, linear, Vec3.toFun, Matrix.mulVec, dotProduct, Fin.sum_univ_three]

/-- The adjugate of an affine matrix has the adjugate of the linear part as its linear part. -/
lemma Affine.linear_adjugate {m : Mat4 R} (h : m.Affine) :
    m.adjugate.linear = m.linear.adjugate := by
  rw [linear, linear, Matrix.adjugate_fin_three_of]
  simp only [adjugate, Vec3.tripleNeg_eq_neg, Vec3.triple, dropX, dropY, dropZ, dropW, h.c0, h.c1,
    h.c2, h.c3]
  ext i j
  fin_cases i <;> fin_cases j <;> simp <;> ring

/-- An affine matrix has the determinant of its linear part. -/
lemma Affine.det_eq_det3 {m : Mat4 R} (h : m.Affine) : m.det = m.det3 := by
  simp only [det, adjugate, det3, Vec3.tripleNeg_eq_neg, Vec3.triple, dropX, dropY, dropZ, dropW,
    h.c0, h.c1, h.c2, h.c3]
  ring

end Ring

/-- **The action on points** of an affine matrix: the linear part, and then the shift. -/
lemma Affine.transformPoint_eq {K : Type} [Field K] [LinearOrder K] {m : Mat4 K} (h : m.Affine)
    (p : Vec3 K) : m.transformPoint p = m.transformDirection p + ⟨m.c3.x, m.c3.y, m.c3.z⟩ := by
  simp [transformPoint, transformDirection, Vec3.add_eq, h.c0, h.c1, h.c2, h.c3]

end Mat4

end SceneForge
