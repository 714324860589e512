import Mathlib.Algebra.Group.Nat.Even
import Mathlib.Algebra.Module.NatInt
import Mathlib.Tactic.Abel

/-!
# Two multiples in one pass

The sum `u • g + v • q` of multiples of two elements takes one pass over the bits of both scalars, the
highest bit first: double what there is, then add `g`, `q` or their sum as the two bits say.
-/

namespace DoubleAndAdd

variable {G : Type} [AddCommMonoid G]

/-- What a pair of bits adds. -/
def addend (g q : G) (b c : Bool) : G := b.toNat • g + c.toNat • q

@[simp] lemma addend_false_false (g q : G) : addend g q false false = 0 := by
  rw [addend, Bool.toNat_false, zero_nsmul, zero_nsmul, add_zero]

@[simp] lemma addend_true_false (g q : G) : addend g q true false = g := by
  rw [addend, Bool.toNat_true, Bool.toNat_false, one_nsmul, zero_nsmul, add_zero]

@[simp] lemma addend_false_true (g q : G) : addend g q false true = q := by
  rw [addend, Bool.toNat_true, Bool.toNat_false, one_nsmul, zero_nsmul, zero_add]

@[simp] lemma addend_true_true (g q : G) : addend g q true true = g + q := by
  rw [addend, Bool.toNat_true, one_nsmul, one_nsmul]

/-- The pass over the bits below `bits`. -/
def interleaved (g q : G) (u v : Nat) : Nat → G → G
  | 0, acc => acc
  | bit + 1, acc =>
    interleaved g q u v bit (acc + acc + addend g q (u.testBit bit) (v.testBit bit))

/-- The remainders modulo `2 ^ bits` are what the bits below `bits` say of the scalars. -/
theorem interleaved_eq (g q : G) (u v bits : Nat) (acc : G) :
    interleaved g q u v bits acc =
      2 ^ bits • acc + ((u % 2 ^ bits) • g + (v % 2 ^ bits) • q) := by
  induction bits generalizing acc with
  | zero => simp only [interleaved, pow_zero, Nat.mod_one, zero_nsmul, add_zero, one_nsmul]
  | succ bit ih =>
    have hdouble : 2 ^ bit • (acc + acc) = 2 ^ (bit + 1) • acc := by
      rw [← two_nsmul, ← mul_nsmul', pow_succ]
    have hadd : ∀ (w : Nat) (x : G), 2 ^ bit • (w.testBit bit).toNat • x + (w % 2 ^ bit) • x =
        (w % 2 ^ (bit + 1)) • x := by
      intro w x
      rw [← mul_nsmul', ← add_nsmul, Nat.mod_pow_succ, Nat.toNat_testBit, Nat.add_comm]
    rw [interleaved, ih, nsmul_add, hdouble, addend, nsmul_add, ← hadd u g, ← hadd v q]
    abel

/-- The whole pass, over enough bits for both scalars. -/
theorem interleaved_zero (g q : G) {u v bits : Nat} (hu : u < 2 ^ bits) (hv : v < 2 ^ bits) :
    interleaved g q u v bits 0 = u • g + v • q := by
  rw [interleaved_eq, nsmul_zero, zero_add, Nat.mod_eq_of_lt hu, Nat.mod_eq_of_lt hv]

end DoubleAndAdd
