import IdentityCrates.Dmrtd.Auth.Ecdsa
import IdentityCrates.Lib.DoubleAndAdd
import IdentityCrates.Lib.ShortWeierstrass
import Mathlib.FieldTheory.Finite.Basic
import Mathlib.Tactic.NormNum.Prime

/-!
# ECDSA over unbounded numbers

For brainpoolP512r1 the repository verifies signatures with its own arithmetic: points in Jacobian
coordinates over natural numbers, formulas for chord and tangent, and one pass over the bits of two
scalars.  This module says that `verify_bigint` is ECDSA on every curve `y ^ 2 = x ^ 3 + a x + b` over
a field of more than three elements with a base point of prime order (`verifyBigint_is_ecdsa`).

Three layers lie between the numbers and the group.  A triple of numbers below `p` denotes a point of
the affine group (`Jacobian.Denotes`); `double` and `add` tell the exceptional cases of the formulas
apart, so that they compute sums whatever they are given; and the loop is the pass of
`DoubleAndAdd.interleaved`.
-/

namespace Dmrtd

open Octets ModPow

namespace Ecdsa

/-! ## Curves and domains -/

/-- The parameters of a curve: a prime above three, and coefficients without a double root. -/
structure PrimeCurve extends Params where
  prime : p.Prime
  three_lt : 3 < p
  roots : (4 * a ^ 3 + 27 * b ^ 2) % p ≠ 0

namespace PrimeCurve

variable (E : PrimeCurve)

instance : Fact E.p.Prime := ⟨E.prime⟩

/-- The points of the curve, with the point at infinity as zero. -/
abbrev Point : Type :=
  (ShortWeierstrass.curve (E.a : ZMod E.p) (E.b : ZMod E.p)).toAffine.Point

/-- Two numbers that are the coordinates of a point. -/
def OnCurve (q : Nat × Nat) : Prop :=
  q.1 < E.p ∧ q.2 < E.p ∧ q.2 ^ 2 % E.p = (q.1 ^ 3 + E.a * q.1 + E.b) % E.p

instance (q : Nat × Nat) : Decidable (E.OnCurve q) := inferInstanceAs (Decidable (_ ∧ _ ∧ _))

lemma two_ne_zero : (2 : ZMod E.p) ≠ 0 := by
  have h := E.three_lt
  intro hzero
  have hdvd := (ZMod.natCast_eq_zero_iff 2 E.p).mp (by exact_mod_cast hzero)
  have hle := Nat.le_of_dvd (by decide) hdvd
  omega

lemma roots_ne_zero : 4 * (E.a : ZMod E.p) ^ 3 + 27 * (E.b : ZMod E.p) ^ 2 ≠ 0 := by
  intro hzero
  apply E.roots
  apply Nat.mod_eq_zero_of_dvd
  apply (ZMod.natCast_eq_zero_iff _ E.p).mp
  exact_mod_cast hzero

variable {E}

lemma OnCurve.nonsingular {q : Nat × Nat} (h : E.OnCurve q) :
    (ShortWeierstrass.curve (E.a : ZMod E.p) (E.b : ZMod E.p)).toAffine.Nonsingular
      (q.1 : ZMod E.p) (q.2 : ZMod E.p) := by
  apply ShortWeierstrass.nonsingular_of_eq E.two_ne_zero E.roots_ne_zero
  have heq := (ZMod.natCast_eq_natCast_iff' _ _ E.p).mpr h.2.2
  exact_mod_cast heq

variable (E)

/-- The point with these coordinates. -/
def point (q : Nat × Nat) (h : E.OnCurve q) : E.Point := .some _ _ h.nonsingular

/-- The multiples of the point start over after `n`. -/
def HasOrder (A : E.Point) (n : Nat) : Prop := addOrderOf A = n

end PrimeCurve

/-- The parameters of a curve and of a base point of prime order. -/
structure Domain extends PrimeCurve where
  base_mem : toPrimeCurve.OnCurve g
  order_prime : n.Prime
  base_order : toPrimeCurve.HasOrder (toPrimeCurve.point g base_mem) n

namespace Domain

instance (D : Domain) : Fact D.n.Prime := ⟨D.order_prime⟩

/-- The base point. -/
def base (D : Domain) : D.Point := D.point D.g D.base_mem

/-- ECDSA: the signature `(r, s)` is right for the hash `e` under the public point `Q`. -/
def Accepts (D : Domain) (Q : D.Point) (e r s : Nat) : Prop :=
  (1 ≤ r ∧ r ≤ D.n - 1) ∧ (1 ≤ s ∧ s ≤ D.n - 1) ∧
    ∃ x y, ∃ h : (ShortWeierstrass.curve (D.a : ZMod D.p) (D.b : ZMod D.p)).toAffine.Nonsingular x y,
      ((e : ZMod D.n) * (s : ZMod D.n)⁻¹).val • D.base + ((r : ZMod D.n) * (s : ZMod D.n)⁻¹).val • Q =
        .some x y h ∧ x.val % D.n = r

end Domain

/-! ## Numbers modulo a prime -/

section Remainders

variable {p : Nat}

lemma natCast_sub (hp : 0 < p) (a b : Nat) : ((sub a b p : Nat) : ZMod p) = a - b := by
  have hle : b % p ≤ a + p := (Nat.mod_lt b hp).le.trans (Nat.le_add_left p a)
  rw [sub, ZMod.natCast_mod, Nat.cast_sub hle, ZMod.natCast_mod, Nat.cast_add, ZMod.natCast_self,
    add_zero]

lemma sub_lt (hp : 0 < p) (a b : Nat) : sub a b p < p := Nat.mod_lt _ hp

/-- The inverse, as the code computes it. -/
lemma natCast_modPow_eq_inv [Fact p.Prime] {a : Nat} (ha : (a : ZMod p) ≠ 0) :
    ((modPow a (p - 2) p : Nat) : ZMod p) = (a : ZMod p)⁻¹ := by
  have htwo := (Fact.out : p.Prime).two_le
  rw [modPow_eq, ZMod.natCast_mod, Nat.cast_pow]
  apply eq_inv_of_mul_eq_one_left
  rw [← pow_succ, show p - 2 + 1 = p - 1 by omega, ZMod.pow_card_sub_one_eq_one ha]

/-- Below the modulus only zero is zero. -/
lemma natCast_eq_zero_iff_of_lt {a : Nat} (ha : a < p) : (a : ZMod p) = 0 ↔ a = 0 := by
  rw [ZMod.natCast_eq_zero_iff]
  constructor
  · exact fun h => Nat.eq_zero_of_dvd_of_lt h ha
  · rintro rfl
    exact dvd_zero p

end Remainders

/-! ## Jacobian coordinates -/

namespace Jacobian

/-- The triple has its numbers below `p` and stands for the point `A`. -/
structure Denotes (E : PrimeCurve) (J : Jacobian) (A : E.Point) : Prop where
  x_lt : J.x < E.p
  y_lt : J.y < E.p
  z_lt : J.z < E.p
  represents : ShortWeierstrass.Represents (E.a : ZMod E.p) (E.b : ZMod E.p) J.x J.y J.z A

variable {E : PrimeCurve} {J K : Jacobian} {A B : E.Point}

lemma denotes_infinity : Denotes E infinity 0 := by
  have hp := E.prime.one_lt
  refine ⟨hp, hp, E.prime.pos, ?_⟩
  rw [infinity, Nat.cast_zero]
  exact ShortWeierstrass.represents_zero

lemma denotes_fromAffine {q : Nat × Nat} (h : E.OnCurve q) :
    Denotes E (fromAffine q) (E.point q h) := by
  refine ⟨h.1, h.2.1, E.prime.one_lt, ?_⟩
  rw [fromAffine, Nat.cast_one]
  exact ShortWeierstrass.represents_some h.nonsingular

lemma Denotes.z_ne_zero (h : Denotes E J A) (hz : J.z ≠ 0) : (J.z : ZMod E.p) ≠ 0 :=
  fun hzero => hz ((natCast_eq_zero_iff_of_lt h.z_lt).mp hzero)

lemma Denotes.eq_zero (h : Denotes E J A) (hz : J.z = 0) : A = 0 := by
  apply h.represents.eq_zero
  rw [hz, Nat.cast_zero]

/-- `double` doubles. -/
theorem Denotes.double (h : Denotes E J A) : Denotes E (J.double E.toParams) (A + A) := by
  have hp := E.prime.pos
  unfold Jacobian.double
  split
  case isTrue hexception =>
    have hzero : A + A = 0 := by
      by_cases hz : J.z = 0
      · rw [h.eq_zero hz, add_zero]
      · have hy := hexception.resolve_left hz
        exact h.represents.double_of_y_eq_zero (h.z_ne_zero hz) (by rw [hy, Nat.cast_zero])
    rw [hzero]
    exact denotes_infinity
  case isFalse hregular =>
    have hz : J.z ≠ 0 := fun hz => hregular (Or.inl hz)
    refine ⟨sub_lt hp _ _, sub_lt hp _ _, Nat.mod_lt _ hp, ?_⟩
    refine h.represents.double (h.z_ne_zero hz) rfl rfl ?_ ?_ ?_
    · simp only [natCast_sub hp, ZMod.natCast_mod, Nat.cast_mul, Nat.cast_add, Nat.cast_ofNat]
      ring
    · simp only [natCast_sub hp, ZMod.natCast_mod, Nat.cast_mul, Nat.cast_add, Nat.cast_ofNat]
      ring
    · simp only [ZMod.natCast_mod, Nat.cast_mul, Nat.cast_ofNat]

/-- `add` adds. -/
theorem Denotes.add (hA : Denotes E J A) (hB : Denotes E K B) :
    Denotes E (J.add K E.toParams) (A + B) := by
  have hp := E.prime.pos
  have hu₁ : ((J.x * (K.z * K.z % E.p) : Nat) : ZMod E.p) = J.x * (K.z : ZMod E.p) ^ 2 := by
    simp only [ZMod.natCast_mod, Nat.cast_mul]
    ring
  have hu₂ : ((K.x * (J.z * J.z % E.p) : Nat) : ZMod E.p) = K.x * (J.z : ZMod E.p) ^ 2 := by
    simp only [ZMod.natCast_mod, Nat.cast_mul]
    ring
  have hs₁ : ((J.y * K.z % E.p * (K.z * K.z % E.p) : Nat) : ZMod E.p) =
      J.y * (K.z : ZMod E.p) ^ 3 := by
    simp only [ZMod.natCast_mod, Nat.cast_mul]
    ring
  have hs₂ : ((K.y * J.z % E.p * (J.z * J.z % E.p) : Nat) : ZMod E.p) =
      K.y * (J.z : ZMod E.p) ^ 3 := by
    simp only [ZMod.natCast_mod, Nat.cast_mul]
    ring
  unfold Jacobian.add
  by_cases hz : J.z = 0
  · rw [if_pos hz, hA.eq_zero hz, zero_add]
    exact hB
  by_cases hz' : K.z = 0
  · rw [if_neg hz, if_pos hz', hB.eq_zero hz', add_zero]
    exact hA
  rw [if_neg hz, if_neg hz']
  dsimp only
  have hJz := hA.z_ne_zero hz
  have hKz := hB.z_ne_zero hz'
  split
  case isTrue hx =>
    -- one abscissa: the same point or its inverse
    rw [← ZMod.natCast_eq_natCast_iff', hu₁, hu₂] at hx
    split
    case isTrue hy =>
      rw [← ZMod.natCast_eq_natCast_iff', hs₁, hs₂] at hy
      rw [← hA.represents.eq_of_x_eq_of_y_eq hB.represents hJz hKz hx hy]
      exact hA.double
    case isFalse hy =>
      rw [← ZMod.natCast_eq_natCast_iff', hs₁, hs₂] at hy
      rw [hA.represents.add_of_x_eq_of_y_ne hB.represents hJz hKz hx hy]
      exact denotes_infinity
  case isFalse hx =>
    rw [← ZMod.natCast_eq_natCast_iff', hu₁, hu₂] at hx
    refine ⟨sub_lt hp _ _, sub_lt hp _ _, Nat.mod_lt _ hp, ?_⟩
    refine hA.represents.add hB.represents hJz hKz rfl rfl rfl rfl hx rfl rfl ?_ ?_ ?_
    all_goals
      simp only [natCast_sub hp, ZMod.natCast_mod, Nat.cast_mul, Nat.cast_ofNat]
      ring

/-- `to_affine_x` of a triple for infinity, and of any other. -/
lemma Denotes.toAffineX (h : Denotes E J A) :
    (A = 0 ∧ J.toAffineX E.toParams = none) ∨
      ∃ x y, ∃ hns : (ShortWeierstrass.curve (E.a : ZMod E.p) (E.b : ZMod E.p)).toAffine.Nonsingular
        x y, A = .some x y hns ∧ J.toAffineX E.toParams = some x.val := by
  unfold Jacobian.toAffineX
  by_cases hz : J.z = 0
  · exact Or.inl ⟨h.eq_zero hz, if_pos hz⟩
  · have hJz := h.z_ne_zero hz
    obtain ⟨hns, hA⟩ := h.represents.eq_some hJz
    refine Or.inr ⟨_, _, hns, hA, ?_⟩
    have hzz : ((J.z * J.z % E.p : Nat) : ZMod E.p) = (J.z : ZMod E.p) ^ 2 := by
      rw [ZMod.natCast_mod, Nat.cast_mul, pow_two]
    have hzz' : ((J.z * J.z % E.p : Nat) : ZMod E.p) ≠ 0 := by
      rw [hzz]
      exact pow_ne_zero 2 hJz
    rw [if_neg hz]
    dsimp only
    rw [← ZMod.val_natCast (E.p) (J.x * _), Nat.cast_mul, natCast_modPow_eq_inv hzz', hzz,
      div_eq_mul_inv]

end Jacobian

/-! ## The loop -/

section Loop

variable {E : PrimeCurve} {g q sum acc : Jacobian} {G Q A : E.Point}

/-- The loop is the pass of `DoubleAndAdd.interleaved`, from whatever the accumulator denotes. -/
lemma shamir_denotes (hg : g.Denotes E G) (hq : q.Denotes E Q) (hsum : sum.Denotes E (G + Q))
    (u1 u2 bits : Nat) (hacc : acc.Denotes E A) :
    (shamir E.toParams g q sum u1 u2 bits acc).Denotes E
      (DoubleAndAdd.interleaved G Q u1 u2 bits A) := by
  induction bits generalizing acc A with
  | zero => exact hacc
  | succ bit ih =>
    rw [shamir, DoubleAndAdd.interleaved]
    apply ih
    have hdouble := hacc.double
    cases u1.testBit bit <;> cases u2.testBit bit
    · rw [DoubleAndAdd.addend_false_false, add_zero]
      exact hdouble
    · rw [DoubleAndAdd.addend_false_true]
      exact hdouble.add hq
    · rw [DoubleAndAdd.addend_true_false]
      exact hdouble.add hg
    · rw [DoubleAndAdd.addend_true_true]
      exact hdouble.add hsum

/-- From infinity, over enough bits for both scalars, it comes to the sum of the multiples. -/
theorem shamir_infinity_denotes (hg : g.Denotes E G) (hq : q.Denotes E Q)
    (hsum : sum.Denotes E (G + Q)) {u1 u2 bits : Nat} (hu1 : u1 < 2 ^ bits) (hu2 : u2 < 2 ^ bits) :
    (shamir E.toParams g q sum u1 u2 bits .infinity).Denotes E (u1 • G + u2 • Q) := by
  rw [← DoubleAndAdd.interleaved_zero G Q hu1 hu2]
  exact shamir_denotes hg hq hsum u1 u2 _ Jacobian.denotes_infinity

lemma lt_two_pow_max_size (u1 u2 : Nat) :
    u1 < 2 ^ max u1.size u2.size ∧ u2 < 2 ^ max u1.size u2.size :=
  ⟨Nat.size_le.mp (le_max_left _ _), Nat.size_le.mp (le_max_right _ _)⟩

/-- The loop itself can tell the order of a point, where it is a prime. -/
lemma hasOrder_of_loop {q : Nat × Nat} (hq : E.OnCurve q) {n bits : Nat} (hn : n.Prime)
    (hbits : n < 2 ^ bits)
    (hz : (shamir E.toParams (.fromAffine q) (.fromAffine q)
      ((Jacobian.fromAffine q).add (.fromAffine q) E.toParams) n 0 bits .infinity).z = 0) :
    E.HasOrder (E.point q hq) n := by
  have hpoint := Jacobian.denotes_fromAffine hq
  have hloop := shamir_infinity_denotes hpoint hpoint (hpoint.add hpoint) hbits
    (Nat.two_pow_pos bits)
  have hzero := hloop.eq_zero hz
  rw [zero_nsmul, add_zero] at hzero
  have : Fact n.Prime := ⟨hn⟩
  exact addOrderOf_eq_prime hzero (WeierstrassCurve.Affine.Point.some_ne_zero _)

end Loop

/-! ## Encodings of points -/

/-- `04 ‖ x ‖ y`, with as many bytes for a coordinate as the prime has. -/
def encodePoint (p : Nat) (q : Nat × Nat) : Bytes :=
  let len := (Nat.size p + 7) / 8
  0x04 :: (toBE len q.1 ++ toBE len q.2)

lemma lt_pow_of_lt {p m : Nat} (h : m < p) : m < 256 ^ ((Nat.size p + 7) / 8) := by
  have hsize : p < 2 ^ Nat.size p := Nat.lt_size_self p
  have hle : 2 ^ Nat.size p ≤ 2 ^ (8 * ((Nat.size p + 7) / 8)) :=
    Nat.pow_le_pow_right (by decide) (by omega)
  rw [pow_mul] at hle
  exact h.trans (hsize.trans_le hle)

/-- The equation that is checked is that of the curve. -/
lemma checked_equation (curve : Params) (x y : Nat) :
    modPow y 2 curve.p = (modPow x 3 curve.p + curve.a * x + curve.b) % curve.p ↔
      y ^ 2 % curve.p = (x ^ 3 + curve.a * x + curve.b) % curve.p := by
  rw [modPow_eq, modPow_eq, Nat.add_assoc, Nat.mod_add_mod, ← Nat.add_assoc]

/-- `decode_point` reads the encodings of the points of the curve, and nothing else. -/
theorem decodePoint_eq_some {E : PrimeCurve} {bytes : Bytes} {q : Nat × Nat} :
    decodePoint E.toParams bytes = some q ↔ E.OnCurve q ∧ bytes = encodePoint E.p q := by
  unfold decodePoint encodePoint
  generalize hlen : (Nat.size E.p + 7) / 8 = len
  have hfits : ∀ {m}, m < E.p → m < 256 ^ len := fun h => hlen ▸ lt_pow_of_lt h
  dsimp only
  constructor
  · intro h
    split at h
    case isTrue => cases h
    case isFalse hform =>
      obtain ⟨hlength, hhead⟩ := not_or.mp hform
      rw [not_not] at hlength hhead
      split at h
      case isTrue => cases h
      case isFalse hrange =>
        obtain ⟨hx, hy⟩ := not_or.mp hrange
        split at h
        case isFalse => cases h
        case isTrue hcurve =>
          obtain rfl := Option.some.inj h
          refine ⟨⟨not_le.mp hx, not_le.mp hy, (checked_equation _ _ _).mp hcurve⟩, ?_⟩
          obtain ⟨rest, rfl⟩ := List.head?_eq_some_iff.mp hhead
          rw [List.length_cons] at hlength
          rw [List.drop_succ_cons, List.drop_zero, Nat.add_comm 1, List.drop_succ_cons]
          have htake : (rest.take len).length = len := by
            rw [List.length_take]
            omega
          have hdrop : (rest.drop len).length = len := by
            rw [List.length_drop]
            omega
          have hfirst := toBE_ofBE (rest.take len)
          have hsecond := toBE_ofBE (rest.drop len)
          rw [htake] at hfirst
          rw [hdrop] at hsecond
          rw [hfirst, hsecond, List.take_append_drop]
  · rintro ⟨⟨hx, hy, hcurve⟩, rfl⟩
    have hform : ¬(((0x04 : UInt8) :: (toBE len q.1 ++ toBE len q.2)).length ≠ 1 + 2 * len ∨
        ((0x04 : UInt8) :: (toBE len q.1 ++ toBE len q.2)).head? ≠ some 0x04) := by
      simp only [List.length_cons, List.length_append, length_toBE, List.head?_cons, not_or, not_not,
        and_true]
      omega
    rw [if_neg hform, List.drop_succ_cons, List.drop_zero, Nat.add_comm 1, List.drop_succ_cons,
      take_append_of_length (length_toBE len _), drop_append_of_length (length_toBE len _),
      ofBE_toBE, ofBE_toBE, Nat.mod_eq_of_lt (hfits hx), Nat.mod_eq_of_lt (hfits hy),
      if_neg (not_or.mpr ⟨not_le.mpr hx, not_le.mpr hy⟩),
      if_pos ((checked_equation _ _ _).mpr hcurve)]

/-! ## The hash -/

/-- The bits of a hash, the leftmost first. -/
def bitsOf (digest : Bytes) : List Bool :=
  digest.flatMap fun b => (List.range 8).map fun i => b.toNat.testBit (7 - i)

/-- The number that some bits spell, the highest first. -/
def spell (bits : List Bool) : Nat := bits.foldl (fun n bit => 2 * n + bit.toNat) 0

/-- The number that the leftmost `k` bits of a hash spell, or all of them where it has fewer. -/
def leftmost (digest : Bytes) (k : Nat) : Nat := spell ((bitsOf digest).take k)

section Hash

lemma spell_append (bits bits' : List Bool) :
    spell (bits ++ bits') = spell bits * 2 ^ bits'.length + spell bits' := by
  induction bits' using List.reverseRecOn with
  | nil => simp only [List.append_nil, List.length_nil, pow_zero, mul_one, spell, List.foldl_nil,
      add_zero]
  | append_singleton bits' bit ih =>
    have hconcat : ∀ l : List Bool, spell (l ++ [bit]) = 2 * spell l + bit.toNat := by
      intro l
      rw [spell, List.foldl_append, List.foldl_cons, List.foldl_nil, spell]
    rw [← List.append_assoc, hconcat, hconcat, ih, List.length_append, List.length_singleton,
      pow_succ]
    ring

lemma spell_lt (bits : List Bool) : spell bits < 2 ^ bits.length := by
  induction bits with
  | nil => decide
  | cons bit bits ih =>
    have hbit : spell [bit] ≤ 1 := by cases bit <;> decide
    have hsplit := spell_append [bit] bits
    rw [List.singleton_append] at hsplit
    rw [hsplit, List.length_cons, pow_succ]
    nlinarith

/-- The first bits of a number are what a shift to the right leaves of it. -/
lemma spell_take (bits : List Bool) (k : Nat) :
    spell (bits.take k) = spell bits / 2 ^ (bits.length - k) := by
  have hsplit := spell_append (bits.take k) (bits.drop k)
  have hlt := spell_lt (bits.drop k)
  rw [List.length_drop] at hsplit hlt
  rw [List.take_append_drop] at hsplit
  rw [hsplit, Nat.mul_comm, Nat.mul_add_div (Nat.two_pow_pos _), Nat.div_eq_of_lt hlt, add_zero]

lemma length_bitsOf (digest : Bytes) : (bitsOf digest).length = digest.length * 8 := by
  rw [bitsOf, List.length_flatMap]
  simp only [List.length_map, List.length_range, List.map_const', List.sum_replicate, smul_eq_mul]

lemma spell_bitsOf (digest : Bytes) : spell (bitsOf digest) = ofBE digest := by
  have hbyte : ∀ b : UInt8, spell ((List.range 8).map fun i => b.toNat.testBit (7 - i)) = b.toNat :=
    forall_byte (by decide +kernel)
  induction digest with
  | nil => rfl
  | cons b digest ih =>
    have hcons : bitsOf (b :: digest) =
        ((List.range 8).map fun i => b.toNat.testBit (7 - i)) ++ bitsOf digest := rfl
    have hpow : 2 ^ (digest.length * 8) = 256 ^ digest.length := by
      rw [Nat.mul_comm, pow_mul, show (2 : Nat) ^ 8 = 256 by decide]
    rw [hcons, spell_append, hbyte, ih, length_bitsOf, hpow, ofBE_cons]

/-- The hash is truncated to as many bits as the order has. -/
theorem truncate_eq (digest : Bytes) (n : Nat) : truncate digest n = leftmost digest n.size := by
  unfold truncate leftmost
  rw [spell_take, spell_bitsOf, length_bitsOf]
  dsimp only
  split
  case isTrue => rw [Nat.shiftRight_eq_div_pow]
  case isFalse hle =>
    rw [Nat.sub_eq_zero_of_le (not_lt.mp hle), pow_zero, Nat.div_one]

end Hash

/-! ## Verification -/

section Verification

variable {D : Domain}

/-- In the range where it is asked for, `s` has an inverse, and `modpow` computes the scalars with it. -/
lemma scalar_eq {s : Nat} (hs : 1 ≤ s ∧ s ≤ D.n - 1) (m : Nat) :
    m * modPow s (D.n - 2) D.n % D.n = ((m : ZMod D.n) * (s : ZMod D.n)⁻¹).val := by
  have hne : (s : ZMod D.n) ≠ 0 := by
    have hpos := D.order_prime.pos
    intro hzero
    have := (natCast_eq_zero_iff_of_lt (by omega)).mp hzero
    omega
  rw [← natCast_modPow_eq_inv hne, ← Nat.cast_mul, ZMod.val_natCast]

/-- What `verify_bigint` does with a point of the curve and two numbers. -/
lemma verifyBigint_of_point {q : Nat × Nat} (hq : D.OnCurve q) {digest signature : Bytes}
    {r s : Nat} (hsig : parseSignature signature = some (r, s)) :
    verifyBigint D.toParams (encodePoint D.p q) digest signature = true ↔
      D.Accepts (D.point q hq) (leftmost digest D.n.size) r s := by
  have hdecode : decodePoint D.toParams (encodePoint D.p q) = some q :=
    (decodePoint_eq_some).mpr ⟨hq, rfl⟩
  have hpos := D.order_prime.pos
  unfold verifyBigint Domain.Accepts
  rw [hdecode, hsig]
  dsimp only
  by_cases hrange : r = 0 ∨ s = 0 ∨ D.n ≤ r ∨ D.n ≤ s
  · rw [if_pos hrange]
    constructor
    · exact fun h => absurd h Bool.false_ne_true
    · rintro ⟨hr, hs, -⟩
      omega
  · have hr : 1 ≤ r ∧ r ≤ D.n - 1 := by omega
    have hs : 1 ≤ s ∧ s ≤ D.n - 1 := by omega
    rw [if_neg hrange, truncate_eq, scalar_eq hs, scalar_eq hs]
    have hbase := Jacobian.denotes_fromAffine D.base_mem
    have hpoint := Jacobian.denotes_fromAffine hq
    have hbits := lt_two_pow_max_size
      ((leftmost digest D.n.size : ZMod D.n) * (s : ZMod D.n)⁻¹).val
      ((r : ZMod D.n) * (s : ZMod D.n)⁻¹).val
    have hsum := shamir_infinity_denotes hbase hpoint (hbase.add hpoint) hbits.1 hbits.2
    simp only [hr, hs, and_self, true_and]
    rcases hsum.toAffineX with ⟨hzero, hnone⟩ | ⟨x, y, hns, hsome, hx⟩
    · rw [hnone]
      constructor
      · exact fun h => absurd h Bool.false_ne_true
      · rintro ⟨x, y, hns, hpoint, -⟩
        have hinfinity := hpoint.symm.trans hzero
        exact absurd hinfinity (WeierstrassCurve.Affine.Point.some_ne_zero hns)
    · rw [hx, decide_eq_true_iff]
      constructor
      · exact fun h => ⟨x, y, hns, hsome, h⟩
      · rintro ⟨x', y', hns', hpoint, h⟩
        have hsame := hsome.symm.trans hpoint
        rw [WeierstrassCurve.Affine.Point.some.injEq] at hsame
        rw [hsame.1]
        exact h

/-- **`verify_bigint` is ECDSA.**  On every curve `y ^ 2 = x ^ 3 + a x + b` over a field of more than
three elements, with a base point of prime order:

* `double` and `add` compute sums in the affine group, of equal points, inverse points and infinity as
  of any others;
* the loop computes the sum of any two multiples of the base point and a point of the curve;
* a signature is accepted exactly when the public point is the encoding of a point of the curve, the
  signature spells two numbers `r` and `s` between one and `n - 1`, and the sum of the two multiples
  that the leftmost bits of the hash, `r` and `s` prescribe is a point with an abscissa that leaves the
  remainder `r`. -/
theorem verifyBigint_is_ecdsa (D : Domain) :
    (∀ (J K : Jacobian) (A B : D.Point), J.Denotes D.toPrimeCurve A → K.Denotes D.toPrimeCurve B →
      (J.double D.toParams).Denotes D.toPrimeCurve (A + A) ∧
        (J.add K D.toParams).Denotes D.toPrimeCurve (A + B)) ∧
    (∀ (q : Nat × Nat) (hq : D.OnCurve q) (u1 u2 : Nat),
      let g := Jacobian.fromAffine D.g
      let j := Jacobian.fromAffine q
      (shamir D.toParams g j (g.add j D.toParams) u1 u2 (max u1.size u2.size)
        .infinity).Denotes D.toPrimeCurve (u1 • D.base + u2 • D.point q hq)) ∧
    ∀ point digest signature : Bytes,
      verifyBigint D.toParams point digest signature = true ↔
        ∃ q, ∃ hq : D.OnCurve q, point = encodePoint D.p q ∧
          ∃ r s, parseSignature signature = some (r, s) ∧
            D.Accepts (D.point q hq) (leftmost digest D.n.size) r s := by
  refine ⟨fun J K A B hA hB => ⟨hA.double, hA.add hB⟩, ?_, ?_⟩
  · intro q hq u1 u2
    have hbase := Jacobian.denotes_fromAffine D.base_mem
    have hpoint := Jacobian.denotes_fromAffine hq
    have hbits := lt_two_pow_max_size u1 u2
    exact shamir_infinity_denotes hbase hpoint (hbase.add hpoint) hbits.1 hbits.2
  · intro point digest signature
    constructor
    · intro h
      cases hdecode : decodePoint D.toParams point with
      | none =>
        rw [verifyBigint, hdecode] at h
        cases h
      | some q =>
        obtain ⟨hq, rfl⟩ := decodePoint_eq_some.mp hdecode
        cases hsig : parseSignature signature with
        | none =>
          rw [verifyBigint, hdecode, hsig] at h
          cases h
        | some numbers =>
          exact ⟨q, hq, rfl, numbers.1, numbers.2, rfl, (verifyBigint_of_point hq hsig).mp h⟩
    · rintro ⟨q, hq, rfl, r, s, hsig, haccepts⟩
      exact (verifyBigint_of_point hq hsig).mpr haccepts

end Verification

/-! ### Two domains -/

section Schoolbook

/-- A curve over seventeen elements, with a base point of order nineteen. -/
def schoolbookParams : Params := ⟨17, 2, 2, (5, 1), 19⟩

lemma schoolbook_prime : schoolbookParams.p.Prime := by norm_num [schoolbookParams]

lemma schoolbook_three_lt : 3 < schoolbookParams.p := by decide

lemma schoolbook_roots :
    (4 * schoolbookParams.a ^ 3 + 27 * schoolbookParams.b ^ 2) % schoolbookParams.p ≠ 0 := by
  decide

lemma schoolbook_order : schoolbookParams.n.Prime := by norm_num [schoolbookParams]

/-- The curve. -/
def schoolbookCurve : PrimeCurve :=
  ⟨schoolbookParams, schoolbook_prime, schoolbook_three_lt, schoolbook_roots⟩

lemma schoolbook_base_mem : schoolbookCurve.OnCurve schoolbookParams.g := by decide

lemma schoolbook_base_order :
    schoolbookCurve.HasOrder (schoolbookCurve.point _ schoolbook_base_mem) schoolbookParams.n :=
  hasOrder_of_loop schoolbook_base_mem schoolbook_order (show 19 < 2 ^ 5 by decide)
    (by decide)

/-- The curve with its base point. -/
def schoolbook : Domain :=
  ⟨schoolbookCurve, schoolbook_base_mem, schoolbook_order, schoolbook_base_order⟩

/-- A signature that is accepted, and what this says about it. -/
theorem verifyBigint_is_ecdsa_schoolbook :
    ∃ q, ∃ hq : schoolbook.OnCurve q, encodePoint 17 (0, 6) = encodePoint schoolbook.p q ∧
      ∃ r s, parseSignature [0x30, 0x06, 0x02, 0x01, 0x09, 0x02, 0x01, 0x09] = some (r, s) ∧
        schoolbook.Accepts (schoolbook.point q hq) (leftmost [0xA6] schoolbook.n.size) r s :=
  ((verifyBigint_is_ecdsa schoolbook).2.2 (encodePoint 17 (0, 6)) [0xA6]
    [0x30, 0x06, 0x02, 0x01, 0x09, 0x02, 0x01, 0x09]).mp (by decide +kernel)

end Schoolbook

/-! The curve that `verify_bigint` is for.  Its equation, its base point and that this point vanishes
under `n` are computed; that `p` and `n` are primes is taken from the standard. -/

section Brainpool

lemma brainpool_three_lt : 3 < Curve.brainpoolP512r1.params.p := by decide

lemma brainpool_roots :
    (4 * Curve.brainpoolP512r1.params.a ^ 3 + 27 * Curve.brainpoolP512r1.params.b ^ 2) %
      Curve.brainpoolP512r1.params.p ≠ 0 := by
  decide

/-- The curve brainpoolP512r1. -/
def brainpoolCurve (hp : Curve.brainpoolP512r1.params.p.Prime) : PrimeCurve :=
  ⟨Curve.brainpoolP512r1.params, hp, brainpool_three_lt, brainpool_roots⟩

variable (hp : Curve.brainpoolP512r1.params.p.Prime) (hn : Curve.brainpoolP512r1.params.n.Prime)

lemma brainpool_base_mem : (brainpoolCurve hp).OnCurve Curve.brainpoolP512r1.params.g := by
  have hmem : Curve.brainpoolP512r1.params.g.1 < Curve.brainpoolP512r1.params.p ∧
      Curve.brainpoolP512r1.params.g.2 < Curve.brainpoolP512r1.params.p ∧
      Curve.brainpoolP512r1.params.g.2 ^ 2 % Curve.brainpoolP512r1.params.p =
        (Curve.brainpoolP512r1.params.g.1 ^ 3 +
          Curve.brainpoolP512r1.params.a * Curve.brainpoolP512r1.params.g.1 +
          Curve.brainpoolP512r1.params.b) % Curve.brainpoolP512r1.params.p := by
    decide
  exact hmem

lemma brainpool_base_order (hn : Curve.brainpoolP512r1.params.n.Prime) :
    (brainpoolCurve hp).HasOrder ((brainpoolCurve hp).point _ (brainpool_base_mem hp))
      Curve.brainpoolP512r1.params.n := by
  have hz : (shamir Curve.brainpoolP512r1.params (.fromAffine Curve.brainpoolP512r1.params.g)
      (.fromAffine Curve.brainpoolP512r1.params.g)
      ((Jacobian.fromAffine Curve.brainpoolP512r1.params.g).add
        (.fromAffine Curve.brainpoolP512r1.params.g) Curve.brainpoolP512r1.params)
      Curve.brainpoolP512r1.params.n 0 512 .infinity).z = 0 := by
    decide +kernel
  have hbits : Curve.brainpoolP512r1.params.n < 2 ^ 512 := by decide +kernel
  exact hasOrder_of_loop (brainpool_base_mem hp) hn hbits hz

/-- The curve with its base point. -/
def brainpool : Domain :=
  ⟨brainpoolCurve hp, brainpool_base_mem hp, hn, brainpool_base_order hp hn⟩

/-- What `verify` says of a signature on brainpoolP512r1. -/
theorem verify_brainpoolP512r1 (C : CurveCrates) (H : Hashes) (point : Bytes) (hash : HashAlgo)
    (message signature : Bytes) :
    Curve.verify C H .brainpoolP512r1 point hash message signature = true ↔
      ∃ q, ∃ hq : (brainpool hp hn).OnCurve q, point = encodePoint (brainpool hp hn).p q ∧
        ∃ r s, parseSignature signature = some (r, s) ∧
          (brainpool hp hn).Accepts ((brainpool hp hn).point q hq)
            (leftmost (H.digest hash message) (brainpool hp hn).n.size) r s :=
  (verifyBigint_is_ecdsa (brainpool hp hn)).2.2 point (H.digest hash message) signature

end Brainpool

end Ecdsa

end Dmrtd
