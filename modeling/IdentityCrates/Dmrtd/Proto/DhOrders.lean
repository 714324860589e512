import Mathlib.Tactic.NormNum.Prime
import IdentityCrates.Dmrtd.Proto.DhPace

/-!
# The orders of the DH groups

The three groups of `dh_pace.rs` come with the order of the subgroup that the generator spans.  Here
the three orders are shown to be prime, by one chain of Lucas tests, and the generators to have them.

What the mapping of a nonce needs of this is `PrimeSubgroup.pow_mod_inj`: below `2 ^ 128`, which is
below each of the orders, different exponents give different powers of the generator.
-/

namespace Dmrtd

open ModPow

/-- The parameters give a prime `q` above 128 bits as the order of the generator. -/
structure PrimeSubgroup (spec : DhParameterSpec) (q : Nat) : Prop where
  order : spec.q = some q
  prime : q.Prime
  large : 2 ^ 128 < q
  one_lt : 1 < spec.p
  pow_order : spec.g ^ q % spec.p = 1
  ne_one : spec.g % spec.p ≠ 1

namespace PrimeSubgroup

variable {spec : DhParameterSpec} {q : Nat}

/-- Small exponents are told apart by the powers of the generator. -/
lemma pow_mod_inj (h : PrimeSubgroup spec q) {a b : Nat} (ha : a < 2 ^ 128) (hb : b < 2 ^ 128)
    (heq : spec.g ^ a % spec.p = spec.g ^ b % spec.p) : a = b := by
  have hmod := (pow_mod_eq_iff h.one_lt h.prime h.pow_order h.ne_one).mp heq
  rwa [Nat.mod_eq_of_lt (ha.trans h.large), Nat.mod_eq_of_lt (hb.trans h.large)] at hmod

end PrimeSubgroup

/-! ## Primality -/

/-- The primes below `2 ^ 26` that the tests of the orders come down to. -/
def smallFactors : List Nat := [
  2, 3, 5, 7, 11, 13, 17, 19, 23, 37, 97, 113, 163, 227, 367, 433, 449, 499, 919, 1523, 1621,
  3571, 4373, 4951, 5779, 8999, 24691, 179909, 227177, 431191, 806951, 1202633, 1206407,
  2187973, 2322137, 2795453, 3066829, 3524197, 4091257, 8531477, 19686211, 20890283, 36266233]

lemma prime_of_mem_smallFactors : ∀ f ∈ smallFactors, f.Prime := by
  norm_num [smallFactors]

/-- The tests of the three orders, with those of their large factors before them. -/
def orderTests : List LucasTest := [
  ⟨714364003, 2, [2, 3, 3, 3, 11, 1202633]⟩,
  ⟨2216128911187, 2, [2, 3, 37, 3571, 2795453]⟩,
  ⟨1848118759957597573166321, 3, [2, 2, 2, 2, 5, 499, 20890283, 2216128911187]⟩,
  ⟨1399252811935680595399801714158014275474696840019, 2,
    [2, 1523, 431191, 806951, 714364003, 1848118759957597573166321]⟩,
  ⟨86693735831, 31, [2, 5, 13, 163, 4091257]⟩,
  ⟨4161299319889, 7, [2, 2, 2, 2, 3, 86693735831]⟩,
  ⟨3267070318570460667137, 3, [2, 2, 2, 2, 2, 2, 2, 2, 3066829, 4161299319889]⟩,
  ⟨868479239, 11, [2, 11, 17, 2322137]⟩,
  ⟨222282319575180091, 3, [2, 3, 5, 8531477, 868479239]⟩,
  ⟨8863817372539182104509500827301859, 2,
    [2, 3, 11, 11, 113, 24691, 19686211, 222282319575180091]⟩,
  ⟨13491513086924420379699774282445616590110876328163828635542747312619, 2,
    [2, 3, 13, 4951, 1206407, 3267070318570460667137, 8863817372539182104509500827301859]⟩,
  ⟨14880273391, 3, [2, 3, 3, 5, 919, 179909]⟩,
  ⟨63748636761520029607, 6, [2, 3, 7, 449, 227177, 14880273391]⟩,
  ⟨839708358883, 2, [2, 3, 17, 227, 36266233]⟩,
  ⟨468491081873280330309268813387005222053, 2,
    [2, 2, 2187973, 839708358883, 63748636761520029607]⟩,
  ⟨449652433, 7, [2, 2, 2, 2, 3, 1621, 5779]⟩,
  ⟨88734423391, 11, [2, 3, 5, 19, 97, 367, 4373]⟩,
  ⟨109582549466007691070446971088959401, 6,
    [2, 2, 2, 5, 5, 433, 8999, 3524197, 449652433, 88734423391]⟩,
  ⟨63762351364972653564641699529205510489263266834182771617563631363277932854227, 2,
    [2, 3, 3, 3, 23, 109582549466007691070446971088959401,
     468491081873280330309268813387005222053]⟩]

lemma orderTests_pass : chainPasses smallFactors orderTests = true := by
  decide +kernel

lemma prime_of_mem_orderTests {p : Nat} (h : p ∈ orderTests.map LucasTest.p) : p.Prime :=
  prime_of_chainPasses prime_of_mem_smallFactors orderTests_pass h

/-! ## The three groups -/

lemma primeSubgroup_1024_160 :
    PrimeSubgroup rfc5114_1024_160 1399252811935680595399801714158014275474696840019 where
  order := by decide
  prime := prime_of_mem_orderTests (by decide)
  large := by norm_num
  one_lt := by decide
  pow_order := by
    rw [← modPow_eq]
    decide +kernel
  ne_one := by decide

lemma primeSubgroup_2048_224 :
    PrimeSubgroup rfc5114_2048_224
      13491513086924420379699774282445616590110876328163828635542747312619 where
  order := by decide
  prime := prime_of_mem_orderTests (by decide)
  large := by norm_num
  one_lt := by decide
  pow_order := by
    rw [← modPow_eq]
    decide +kernel
  ne_one := by decide

lemma primeSubgroup_2048_256 :
    PrimeSubgroup rfc5114_2048_256
      63762351364972653564641699529205510489263266834182771617563631363277932854227 where
  order := by decide
  prime := prime_of_mem_orderTests (by decide)
  large := by norm_num
  one_lt := by decide
  pow_order := by
    rw [← modPow_eq]
    decide +kernel
  ne_one := by decide

end Dmrtd
