import Mathlib.GroupTheory.OrderOfElement
import Mathlib.Data.ZMod.Basic
import Mathlib.Algebra.Field.ZMod

/-!
# Groups of prime order with coordinates

What a key agreement needs of an elliptic curve, and no more: a group of prime order with a
generator, and for every point but the identity a pair of coordinates of a fixed width that
determines it.  The equation of the curve plays no part, so a fact proved here holds of any curve a
library may offer.

`CurveGroup.ofZMod` is such a group for every large enough prime: the remainders under addition,
with the number itself as the first coordinate.
-/

/-- A group of prime order whose points other than the identity have coordinates of `coordLen`
bytes. -/
structure CurveGroup where
  Point : Type
  [group : AddCommGroup Point]
  [decEq : DecidableEq Point]
  order : Nat
  order_prime : order.Prime
  order_nsmul : ∀ P : Point, order • P = 0
  generator : Point
  generator_ne_zero : generator ≠ 0
  coordLen : Nat
  coords : Point → Nat × Nat
  coords_lt : ∀ P, P ≠ 0 → (coords P).1 < 256 ^ coordLen ∧ (coords P).2 < 256 ^ coordLen
  ofCoords : Nat → Nat → Option Point
  ofCoords_eq_some : ∀ x y P, ofCoords x y = some P ↔ P ≠ 0 ∧ coords P = (x, y)

namespace CurveGroup

attribute [instance] CurveGroup.group CurveGroup.decEq

variable (E : CurveGroup)

lemma addOrderOf_eq {P : E.Point} (hP : P ≠ 0) : addOrderOf P = E.order := by
  have : Fact E.order.Prime := ⟨E.order_prime⟩
  exact addOrderOf_eq_prime (E.order_nsmul P) hP

/-- Multiples of a point other than the identity agree exactly when the scalars agree modulo the
order. -/
theorem nsmul_eq_nsmul_iff {P : E.Point} (hP : P ≠ 0) {a b : Nat} :
    a • P = b • P ↔ a % E.order = b % E.order := by
  rw [nsmul_eq_nsmul_iff_modEq, E.addOrderOf_eq hP]
  exact Iff.rfl

lemma nsmul_ne_zero {P : E.Point} (hP : P ≠ 0) {k : Nat} (hpos : 0 < k) (hlt : k < E.order) :
    k • P ≠ 0 := by
  intro h
  rw [← zero_nsmul P, E.nsmul_eq_nsmul_iff hP, Nat.mod_eq_of_lt hlt, Nat.zero_mod] at h
  omega

/-- The remainders modulo a prime, with the number itself as the first coordinate. -/
def ofZMod (p : Nat) (hp : p.Prime) (coordLen : Nat) (hlen : p ≤ 256 ^ coordLen) : CurveGroup where
  Point := ZMod p
  order := p
  order_prime := hp
  order_nsmul P := by
    have : CharP (ZMod p) p := ZMod.charP p
    rw [nsmul_eq_mul, CharP.cast_eq_zero, zero_mul]
  generator := 1
  generator_ne_zero := by
    have : Fact p.Prime := ⟨hp⟩
    exact one_ne_zero
  coordLen := coordLen
  coords P := (P.val, 0)
  coords_lt P _ := by
    have : NeZero p := ⟨hp.ne_zero⟩
    exact ⟨lt_of_lt_of_le P.val_lt hlen, Nat.pow_pos (by decide)⟩
  ofCoords x y := if 0 < x ∧ x < p ∧ y = 0 then some (x : ZMod p) else none
  ofCoords_eq_some x y P := by
    have : NeZero p := ⟨hp.ne_zero⟩
    by_cases h : 0 < x ∧ x < p ∧ y = 0
    · obtain ⟨hpos, hlt, rfl⟩ := h
      have hval : ((x : ZMod p)).val = x := ZMod.val_natCast_of_lt hlt
      rw [if_pos ⟨hpos, hlt, rfl⟩, Option.some_inj]
      constructor
      · rintro rfl
        refine ⟨?_, by rw [hval]⟩
        intro hzero
        rw [hzero, ZMod.val_zero] at hval
        omega
      · rintro ⟨-, hP⟩
        rw [← (Prod.mk.inj hP).1, ZMod.natCast_val, ZMod.cast_id', id]
    · rw [if_neg h]
      refine ⟨fun hnone => absurd hnone (by simp), ?_⟩
      rintro ⟨hP, hcoords⟩
      obtain ⟨rfl, rfl⟩ := Prod.mk.inj hcoords
      refine absurd ⟨?_, P.val_lt, rfl⟩ h
      exact Nat.pos_of_ne_zero fun hzero => hP ((ZMod.val_eq_zero P).mp hzero)

end CurveGroup
