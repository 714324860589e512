import Mathlib.AlgebraicGeometry.EllipticCurve.Jacobian.Point
import Mathlib.Tactic.LinearCombination

/-!
# Short Weierstrass curves in Jacobian coordinates

On the curve `y ^ 2 = x ^ 3 + a x + b` a point is often computed with as a triple `(x, y, z)` that
stands for the affine point `(x / z ^ 2, y / z ^ 3)`, and for the point at infinity where `z = 0`.
`Represents` is that relation between triples and points of the affine group.

Mathlib has the group law on such triples for curves in general form.  The formulas that programs use
are shorter, as three of the five coefficients are zero, and they come with exceptions: chords want
different abscissas, tangents an ordinate that is not zero.  Each rule below is one case of them, so
that a program that tells the cases apart computes the sum of the points it was given.
-/

open WeierstrassCurve

namespace ShortWeierstrass

variable {F : Type} [Field F] {a b : F}

/-- The curve `y ^ 2 = x ^ 3 + a x + b`. -/
def curve (a b : F) : WeierstrassCurve F := ⟨0, 0, 0, a, b⟩

lemma equation_iff {x y : F} :
    (curve a b).toAffine.Equation x y ↔ y ^ 2 = x ^ 3 + a * x + b := by
  rw [Affine.equation_iff]
  simp only [curve, zero_mul, add_zero]

/-- Without a double root every solution of the equation is a point of the group. -/
lemma nonsingular_of_eq (htwo : (2 : F) ≠ 0) (hroots : 4 * a ^ 3 + 27 * b ^ 2 ≠ 0) {x y : F}
    (h : y ^ 2 = x ^ 3 + a * x + b) : (curve a b).toAffine.Nonsingular x y := by
  have hdisc : (curve a b).Δ = -(2 ^ 4 * (4 * a ^ 3 + 27 * b ^ 2)) := by
    simp only [WeierstrassCurve.Δ, WeierstrassCurve.b₂, WeierstrassCurve.b₄, WeierstrassCurve.b₆,
      WeierstrassCurve.b₈, curve]
    ring
  have hne : (curve a b).Δ ≠ 0 := by
    rw [hdisc]
    exact neg_ne_zero.mpr (mul_ne_zero (pow_ne_zero 4 htwo) hroots)
  exact (Affine.equation_iff_nonsingular_of_Δ_ne_zero hne).mp (equation_iff.mpr h)

/-! ## Triples and the points they stand for -/

/-- The triple `(x, y, z)` stands for the point `A`. -/
structure Represents (a b x y z : F) (A : (curve a b).toAffine.Point) : Prop where
  nonsingular : z ≠ 0 → (curve a b).toJacobian.Nonsingular ![x, y, z]
  toAffine : Jacobian.Point.toAffine (curve a b).toJacobian ![x, y, z] = A

variable {x y z x' y' z' : F} {A B : (curve a b).toAffine.Point}

lemma represents_zero : Represents a b x y 0 0 :=
  ⟨fun h => absurd rfl h, Jacobian.Point.toAffine_of_Z_eq_zero rfl⟩

lemma represents_some (h : (curve a b).toAffine.Nonsingular x y) :
    Represents a b x y 1 (.some x y h) := by
  have hns : (curve a b).toJacobian.Nonsingular ![x, y, 1] := (Jacobian.nonsingular_some x y).mpr h
  exact ⟨fun _ => hns, Jacobian.Point.toAffine_some hns⟩

/-- The triples with `z = 0` stand for infinity. -/
lemma Represents.eq_zero (h : Represents a b x y z A) (hz : z = 0) : A = 0 := by
  subst hz
  rw [← h.toAffine]
  exact Jacobian.Point.toAffine_of_Z_eq_zero rfl

/-- The others stand for the point with the coordinates `x / z ^ 2` and `y / z ^ 3`. -/
lemma Represents.eq_some (h : Represents a b x y z A) (hz : z ≠ 0) :
    ∃ hns : (curve a b).toAffine.Nonsingular (x / z ^ 2) (y / z ^ 3), A = .some _ _ hns :=
  ⟨_, h.toAffine.symm.trans (Jacobian.Point.toAffine_of_Z_ne_zero (h.nonsingular hz) hz)⟩

/-- A triple for a point, from one for it up to a factor. -/
lemma represents_of_scaled {P : Fin 3 → F} {u : F} (hu : u ≠ 0)
    (hns : (curve a b).toJacobian.Nonsingular P)
    (hA : Jacobian.Point.toAffine (curve a b).toJacobian P = A) (hx : x = u ^ 2 * P 0)
    (hy : y = u ^ 3 * P 1) (hz : z = u * P 2) : Represents a b x y z A := by
  have hunit : IsUnit u := hu.isUnit
  have hscaled := (Jacobian.smul_fin3 P u).symm
  rw [← hx, ← hy, ← hz] at hscaled
  constructor
  · intro _
    rw [hscaled]
    exact (Jacobian.nonsingular_smul P hunit).mpr hns
  · rw [hscaled, Jacobian.Point.toAffine_smul P hunit, hA]

/-! ## The tangent -/

/-- Mathlib's formulas for twice a point, on these curves. -/
lemma dblXYZ_eq (x y z : F) :
    (curve a b).toJacobian.dblXYZ ![x, y, z] =
      ![(3 * x ^ 2 + a * z ^ 4) ^ 2 - 8 * x * y ^ 2,
        (3 * x ^ 2 + a * z ^ 4) * (4 * x * y ^ 2 -
          ((3 * x ^ 2 + a * z ^ 4) ^ 2 - 8 * x * y ^ 2)) - 8 * y ^ 4,
        2 * y * z] := by
  simp only [Jacobian.dblXYZ, Jacobian.dblX, Jacobian.dblY, Jacobian.dblZ, Jacobian.negDblY,
    Jacobian.dblU_eq, Jacobian.negY, curve, Jacobian.fin3_def_ext]
  congr 1
  · ring
  · congr 1
    · ring
    · congr 1
      ring

section Sums

variable [DecidableEq F]

/-- Twice a point, by the formulas for the tangent. -/
lemma Represents.double (h : Represents a b x y z A) (hz : z ≠ 0) {s m x₃ y₃ z₃ : F}
    (hs : s = 4 * x * y ^ 2) (hm : m = 3 * x ^ 2 + a * z ^ 4) (hx₃ : x₃ = m ^ 2 - 2 * s)
    (hy₃ : y₃ = m * (s - x₃) - 8 * y ^ 4) (hz₃ : z₃ = 2 * y * z) :
    Represents a b x₃ y₃ z₃ (A + A) := by
  have hns := h.nonsingular hz
  have hsum := Jacobian.Point.toAffine_add hns hns
  rw [h.toAffine] at hsum
  apply represents_of_scaled one_ne_zero (Jacobian.nonsingular_add hns hns) hsum
  · rw [Jacobian.add_self, dblXYZ_eq, hx₃, hs, hm]
    simp only [Jacobian.fin3_def_ext]
    ring
  · rw [Jacobian.add_self, dblXYZ_eq, hy₃, hx₃, hs, hm]
    simp only [Jacobian.fin3_def_ext]
    ring
  · rw [Jacobian.add_self, dblXYZ_eq, hz₃, one_mul]
    rfl

/-- A point on the axis is its own inverse. -/
lemma Represents.double_of_y_eq_zero (h : Represents a b x y z A) (hz : z ≠ 0) (hy : y = 0) :
    A + A = 0 := by
  have hdouble := h.double hz rfl rfl rfl rfl rfl
  exact hdouble.eq_zero (by rw [hy, mul_zero, zero_mul])

/-! ## The chord -/

/-- The sum of two points with different abscissas, by the formulas for the chord. -/
lemma Represents.add (hA : Represents a b x y z A) (hB : Represents a b x' y' z' B) (hz : z ≠ 0)
    (hz' : z' ≠ 0) {u₁ u₂ s₁ s₂ h r x₃ y₃ z₃ : F} (hu₁ : u₁ = x * z' ^ 2) (hu₂ : u₂ = x' * z ^ 2)
    (hs₁ : s₁ = y * z' ^ 3) (hs₂ : s₂ = y' * z ^ 3) (hne : u₁ ≠ u₂) (hh : h = u₂ - u₁)
    (hr : r = s₂ - s₁) (hx₃ : x₃ = r ^ 2 - h ^ 3 - 2 * (u₁ * h ^ 2))
    (hy₃ : y₃ = r * (u₁ * h ^ 2 - x₃) - s₁ * h ^ 3) (hz₃ : z₃ = h * z * z') :
    Represents a b x₃ y₃ z₃ (A + B) := by
  have hP := hA.nonsingular hz
  have hQ := hB.nonsingular hz'
  have hsum := Jacobian.Point.toAffine_add hP hQ
  rw [hA.toAffine, hB.toAffine] at hsum
  have hx : (![x, y, z] : Fin 3 → F) 0 * (![x', y', z'] : Fin 3 → F) 2 ^ 2 ≠
      (![x', y', z'] : Fin 3 → F) 0 * (![x, y, z] : Fin 3 → F) 2 ^ 2 := by
    simpa only [Jacobian.fin3_def_ext, ← hu₁, ← hu₂] using hne
  have hX := Jacobian.addX_eq' hP.left hQ.left
  have hY := @Jacobian.negAddY_eq' _ _ (curve a b).toJacobian ![x, y, z] ![x', y', z']
  rw [hX] at hY
  have ha₁ : (curve a b).toJacobian.a₁ = 0 := rfl
  have ha₂ : (curve a b).toJacobian.a₂ = 0 := rfl
  have ha₃ : (curve a b).toJacobian.a₃ = 0 := rfl
  simp only [Jacobian.fin3_def_ext, Jacobian.addZ, ha₁, ha₂] at hX hY
  -- the usual formulas differ from Mathlib's by the factor `-(z * z')`
  apply represents_of_scaled (neg_ne_zero.mpr (mul_ne_zero hz hz'))
    (Jacobian.nonsingular_add hP hQ) hsum
  · rw [Jacobian.add_of_not_equiv (Jacobian.not_equiv_of_X_ne hx), Jacobian.addXYZ_X, hx₃, hr, hh,
      hu₁, hu₂, hs₁, hs₂]
    linear_combination -hX
  · rw [Jacobian.add_of_not_equiv (Jacobian.not_equiv_of_X_ne hx), Jacobian.addXYZ_Y, Jacobian.addY,
      Jacobian.negY_eq, ha₁, ha₃, hy₃, hx₃, hr, hh, hu₁, hu₂, hs₁, hs₂]
    linear_combination -hY
  · rw [Jacobian.add_of_not_equiv (Jacobian.not_equiv_of_X_ne hx), Jacobian.addXYZ_Z, Jacobian.addZ,
      hz₃, hh, hu₁, hu₂]
    simp only [Jacobian.fin3_def_ext]
    ring

/-- Points with one abscissa and different ordinates are inverse to each other. -/
lemma Represents.add_of_x_eq_of_y_ne (hA : Represents a b x y z A)
    (hB : Represents a b x' y' z' B) (hz : z ≠ 0) (hz' : z' ≠ 0)
    (hx : x * z' ^ 2 = x' * z ^ 2) (hy : y * z' ^ 3 ≠ y' * z ^ 3) : A + B = 0 := by
  have hP := hA.nonsingular hz
  have hQ := hB.nonsingular hz'
  have hunit : IsUnit (Jacobian.addU ![x, y, z] ![x', y', z']) :=
    Jacobian.isUnit_addU_of_Y_ne hz hz' hy
  rw [← hA.toAffine, ← hB.toAffine, ← Jacobian.Point.toAffine_add hP hQ,
    Jacobian.add_of_Y_ne hP.left hQ.left hz hz' hx hy, Jacobian.Point.toAffine_smul _ hunit,
    Jacobian.Point.toAffine_zero]

omit [DecidableEq F] in
/-- Points with both coordinates in common are equal. -/
lemma Represents.eq_of_x_eq_of_y_eq (hA : Represents a b x y z A) (hB : Represents a b x' y' z' B)
    (hz : z ≠ 0) (hz' : z' ≠ 0) (hx : x * z' ^ 2 = x' * z ^ 2) (hy : y * z' ^ 3 = y' * z ^ 3) :
    A = B := by
  rw [← hA.toAffine, ← hB.toAffine]
  exact Jacobian.Point.toAffine_of_equiv (Jacobian.equiv_of_X_eq_of_Y_eq hz hz' hx hy)

end Sums

end ShortWeierstrass
