import Mathlib.Data.List.Prime
import Mathlib.Data.Nat.Log
import Mathlib.NumberTheory.LucasPrimality

/-!
# Modular powers

`modPow` computes `b ^ e % m` by squaring and multiplying, in a form the kernel can run on numbers
of cryptographic size.  Two uses of it follow.

The first is primality: Lucas' test, with the powers it asks for computed by `modPow` and the
factorisation of `p - 1` handed over as a list, and chains of such tests, where the factors of one
number have been tested before it.  The second is what a generator of prime order
promises, stated of remainders rather than of a group: two of its powers agree modulo `m` exactly
when the exponents agree modulo the order.
-/

namespace ModPow

/-- `b ^ e % m` for `e < 2 ^ fuel`, most significant bit first. -/
def modPowFuel (b m : Nat) : Nat → Nat → Nat
  | 0, _ => 1 % m
  | fuel + 1, e =>
    let half := modPowFuel b m fuel (e / 2)
    if e % 2 = 1 then half * half % m * b % m else half * half % m

/-- `b ^ e % m`. -/
def modPow (b e m : Nat) : Nat := modPowFuel b m (e.log2 + 1) e

lemma modPowFuel_eq {b m fuel e : Nat} (h : e < 2 ^ fuel) : modPowFuel b m fuel e = b ^ e % m := by
  induction fuel generalizing e with
  | zero =>
    have he : e = 0 := by simpa using h
    rw [he, pow_zero, modPowFuel]
  | succ fuel ih =>
    have hhalf : e / 2 < 2 ^ fuel := by
      rw [pow_succ] at h
      omega
    have hsq : b ^ (e / 2) % m * (b ^ (e / 2) % m) % m = b ^ (2 * (e / 2)) % m := by
      rw [← Nat.mul_mod, ← pow_add, two_mul]
    simp only [modPowFuel, ih hhalf, hsq]
    by_cases hodd : e % 2 = 1
    · have he : e = 2 * (e / 2) + 1 := by omega
      rw [if_pos hodd, Nat.mod_mul_mod]
      conv_rhs => rw [he, pow_succ]
    · have he : 2 * (e / 2) = e := by omega
      rw [if_neg hodd, he]

theorem modPow_eq (b e m : Nat) : modPow b e m = b ^ e % m := modPowFuel_eq Nat.lt_log2_self

lemma modPow_lt {b e m : Nat} (hm : 0 < m) : modPow b e m < m := by
  rw [modPow_eq]
  exact Nat.mod_lt _ hm

/-- A power that leaves remainder one is one in the ring of remainders. -/
lemma natCast_pow_eq_one_iff {b e m : Nat} (hm : 1 < m) :
    ((b : ZMod m) ^ e = 1) ↔ b ^ e % m = 1 := by
  rw [← Nat.cast_pow, ← Nat.cast_one, ZMod.natCast_eq_natCast_iff', Nat.mod_eq_of_lt hm]

/-! ## Primality -/

/-- Lucas' test, run by `modPow`: `a` has order `p - 1`, as its powers at `p - 1` and at
`(p - 1) / f` for every prime factor `f` of `p - 1` show. -/
theorem prime_of_lucas {p : Nat} (a : Nat) (factors : List Nat) (hp : 1 < p)
    (hprod : factors.prod = p - 1) (hprime : ∀ f ∈ factors, f.Prime)
    (hone : modPow a (p - 1) p = 1) (hne : ∀ f ∈ factors, modPow a ((p - 1) / f) p ≠ 1) :
    p.Prime := by
  refine lucas_primality p (a : ZMod p) ?_ ?_
  · rw [natCast_pow_eq_one_iff hp, ← modPow_eq]
    exact hone
  · intro r hr hdvd
    rw [← hprod] at hdvd
    obtain ⟨f, hf, hrf⟩ := (Prime.dvd_prod_iff hr.prime).mp hdvd
    obtain rfl := (Nat.prime_dvd_prime_iff_eq hr (hprime f hf)).mp hrf
    rw [Ne, natCast_pow_eq_one_iff hp, ← modPow_eq]
    exact hne r hf

/-- One use of Lucas' test: the number, the base, and the prime factors of its predecessor. -/
structure LucasTest where
  p : Nat
  base : Nat
  factors : List Nat

/-- The test passes, with factors that are already known to be prime. -/
def LucasTest.passes (known : List Nat) (test : LucasTest) : Bool :=
  decide (1 < test.p) && test.factors.prod == test.p - 1 &&
    modPow test.base (test.p - 1) test.p == 1 &&
    test.factors.all fun f =>
      known.contains f && modPow test.base ((test.p - 1) / f) test.p != 1

/-- Tests that pass one after the other, each number known to the tests behind it. -/
def chainPasses : List Nat → List LucasTest → Bool
  | _, [] => true
  | known, test :: tests => test.passes known && chainPasses (test.p :: known) tests

lemma LucasTest.prime_of_passes {known : List Nat} (hknown : ∀ f ∈ known, f.Prime)
    {test : LucasTest} (h : test.passes known = true) : test.p.Prime := by
  simp only [LucasTest.passes, Bool.and_eq_true, decide_eq_true_eq, beq_iff_eq, List.all_eq_true,
    List.contains_iff_mem, bne_iff_ne] at h
  obtain ⟨⟨⟨hp, hprod⟩, hone⟩, hfactors⟩ := h
  exact prime_of_lucas test.base test.factors hp hprod (fun f hf => hknown f (hfactors f hf).1) hone
    fun f hf => (hfactors f hf).2

/-- Every number that a chain of tests comes to is prime. -/
theorem prime_of_chainPasses {known : List Nat} (hknown : ∀ f ∈ known, f.Prime)
    {tests : List LucasTest} (h : chainPasses known tests = true) {p : Nat}
    (hp : p ∈ tests.map LucasTest.p) : p.Prime := by
  induction tests generalizing known with
  | nil => simp at hp
  | cons test tests ih =>
    obtain ⟨htest, htests⟩ := Bool.and_eq_true_iff.mp h
    have hprime := LucasTest.prime_of_passes hknown htest
    rcases List.mem_cons.mp hp with rfl | hp
    · exact hprime
    · refine ih ?_ htests hp
      intro f hf
      rcases List.mem_cons.mp hf with rfl | hf
      · exact hprime
      · exact hknown f hf

/-! ## Generators of prime order -/

section PrimeOrder

variable {m q g : Nat}

/-- What a power of one modulo `m` leaves invertible. -/
lemma isUnit_of_pow (hm : 1 < m) (hq : 0 < q) (hg : g ^ q % m = 1) : IsUnit (g : ZMod m) := by
  have hpow : (g : ZMod m) ^ q = 1 := (natCast_pow_eq_one_iff hm).mpr hg
  exact IsUnit.of_pow_eq_one hpow (by omega)

/-- Powers of a generator of prime order `q` agree exactly when their exponents agree modulo `q`. -/
theorem pow_mod_eq_iff (hm : 1 < m) (hq : q.Prime) (hg : g ^ q % m = 1) (hne : g % m ≠ 1)
    {a b : Nat} : g ^ a % m = g ^ b % m ↔ a % q = b % q := by
  obtain ⟨u, hu⟩ := isUnit_of_pow hm hq.pos hg
  have hone : u ^ q = 1 := by
    refine Units.ext ?_
    rw [Units.val_pow_eq_pow_val, hu, Units.val_one]
    exact (natCast_pow_eq_one_iff hm).mpr hg
  have hnot : u ≠ 1 := by
    rintro rfl
    have h1 : (g : ZMod m) ^ 1 = 1 := by rw [pow_one, ← hu, Units.val_one]
    rw [natCast_pow_eq_one_iff hm, pow_one] at h1
    exact hne h1
  have horder : orderOf u = q := by
    have : Fact q.Prime := ⟨hq⟩
    exact orderOf_eq_prime hone hnot
  have hcast : ∀ k : Nat, ((g ^ k : Nat) : ZMod m) = ((u ^ k : (ZMod m)ˣ) : ZMod m) := by
    intro k
    rw [Units.val_pow_eq_pow_val, hu, Nat.cast_pow]
  rw [← ZMod.natCast_eq_natCast_iff', hcast, hcast, Units.val_inj, pow_eq_pow_iff_modEq, horder]
  exact Iff.rfl

/-- Multiplying by something invertible keeps different remainders apart. -/
lemma mul_mod_right_cancel (hm : 1 < m) (hq : 0 < q) {h : Nat} (hh : h ^ q % m = 1) {x y : Nat}
    (heq : x * h % m = y * h % m) : x % m = y % m := by
  have hunit := isUnit_of_pow hm hq hh
  rw [← ZMod.natCast_eq_natCast_iff', Nat.cast_mul, Nat.cast_mul] at heq
  rw [← ZMod.natCast_eq_natCast_iff']
  exact hunit.mul_right_cancel heq

/-- A power of a number that is one at `q` is one at `q`. -/
lemma pow_mod_pow_eq_one (hm : 1 < m) (hg : g ^ q % m = 1) (a : Nat) :
    (g ^ a % m) ^ q % m = 1 := by
  rw [← Nat.pow_mod, ← pow_mul, Nat.mul_comm, pow_mul, Nat.pow_mod, hg, one_pow,
    Nat.mod_eq_of_lt hm]

/-- Exponents multiply, in either order. -/
lemma pow_mod_pow_mod (b a c m : Nat) : (b ^ a % m) ^ c % m = b ^ (a * c) % m := by
  rw [← Nat.pow_mod, ← pow_mul]

/-- Powers of a generator of odd prime order keep away from both ends of the range: the only one
that is zero, one or `m - 1` is the one at a multiple of the order. -/
theorem pow_mod_mem_range (hm : 1 < m) (hq : q.Prime) (hodd : q ≠ 2) (hg : g ^ q % m = 1)
    (hne : g % m ≠ 1) {a : Nat} (ha : ¬ q ∣ a) : 2 ≤ g ^ a % m ∧ g ^ a % m ≤ m - 2 := by
  have hpow := pow_mod_pow_eq_one hm hg a
  have hzero : g ^ a % m ≠ 0 := by
    intro h
    rw [h, Nat.zero_pow hq.pos, Nat.zero_mod] at hpow
    omega
  have hone : g ^ a % m ≠ 1 := by
    intro h
    have hiff := (pow_mod_eq_iff hm hq hg hne (a := a) (b := 0)).mp
      (by rw [h, pow_zero, Nat.mod_eq_of_lt hm])
    exact ha (Nat.dvd_of_mod_eq_zero (hiff.trans (Nat.zero_mod q)))
  have hlast : g ^ a % m ≠ m - 1 := by
    -- the square of the last remainder is one, and no odd order divides two
    intro h
    have hsq : g ^ (a * 2) % m = g ^ 0 % m := by
      have hsquare : (m - 1) ^ 2 % m = 1 := by
        obtain ⟨k, rfl⟩ : ∃ k, m = k + 2 := ⟨m - 2, by omega⟩
        have hexpand : (k + 2 - 1) ^ 2 = 1 + (k + 2) * k := by
          have hpred : k + 2 - 1 = k + 1 := rfl
          rw [hpred]
          ring
        rw [hexpand, Nat.add_mul_mod_self_left, Nat.mod_eq_of_lt hm]
      rw [← pow_mod_pow_mod, h, hsquare, pow_zero, Nat.mod_eq_of_lt hm]
    have hdvd : q ∣ a * 2 := by
      have hiff := (pow_mod_eq_iff hm hq hg hne).mp hsq
      exact Nat.dvd_of_mod_eq_zero (hiff.trans (Nat.zero_mod q))
    rcases (Nat.Prime.dvd_mul hq).mp hdvd with h' | h'
    · exact ha h'
    · exact hodd ((Nat.prime_dvd_prime_iff_eq hq Nat.prime_two).mp h')
  have hlt := Nat.mod_lt (g ^ a) (show m > 0 by omega)
  exact ⟨by omega, by omega⟩

end PrimeOrder

end ModPow
