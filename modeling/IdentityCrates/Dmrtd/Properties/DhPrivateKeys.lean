import IdentityCrates.Dmrtd.Crypto.DiffieHellman

/-!
# Drawing Diffie-Hellman private keys

`generate_private_key` draws buffers of random bytes until one of them, with its surplus high bits
cleared, is a number in range.  The range, the width of the buffer and the number of bits kept come
from the subgroup order where it is known, and from the private-key length and the modulus where it
is not; `DhParameterSpec.draw` puts these four numbers side by side.

The guards in front of the loop are exactly those that make it able to finish (`admitted_iff`): for
every group they let through some buffer is accepted, and from any point of the tape the loop ends
with that buffer at the latest.  Whatever comes out is in range, and a constructor that is given the
same group accepts it, as long as the modulus is not zero.  With a subgroup order the guards do not
look at the modulus, and modulo zero the public key cannot be computed (`new_panics_modulo_zero`).
-/

namespace Dmrtd

open Rust Octets

/-! ## The range and the buffer -/

/-- The four numbers that the rejection loop works with. -/
structure Draw where
  size : Nat
  lower : Nat
  upper : Nat
  keepBits : Nat

namespace Draw

/-- A candidate buffer that ends the loop. -/
structure Accepts (d : Draw) (buf : Bytes) : Prop where
  length_eq : buf.length = d.size
  lower_le : d.lower ≤ ofBE (DHpkcs3Engine.maskBuffer d.keepBits buf)
  lt_upper : ofBE (DHpkcs3Engine.maskBuffer d.keepBits buf) < d.upper

end Draw

namespace DhParameterSpec

/-- The groups that the guards of `generate_private_key` let through. -/
def Admitted (spec : DhParameterSpec) : Prop :=
  match spec.q with
  | some q => 1 < q
  | none => spec.length ≠ 0 ∧ spec.length % 8 = 0 ∧ spec.p ≠ 0 ∧
    2 ^ (spec.length - 1) < min (2 ^ spec.length) (spec.p - 1)

/-- The documented range of a private key: `[1, q-1]` below a known subgroup order, and else the
numbers of exactly `length` bits that are below `p - 1`. -/
def InKeyRange (spec : DhParameterSpec) (key : Nat) : Prop :=
  match spec.q with
  | some q => 1 ≤ key ∧ key ≤ q - 1
  | none => 2 ^ (spec.length - 1) ≤ key ∧ key < 2 ^ spec.length ∧ key < spec.p - 1

/-- What the loop is started with. -/
def draw (spec : DhParameterSpec) : Draw :=
  match spec.q with
  | some q => ⟨max ((bitCount q + 7) / 8) 1, 1, q, bitCount q⟩
  | none => ⟨spec.length / 8, 2 ^ (spec.length - 1), min (2 ^ spec.length) (spec.p - 1),
    spec.length⟩

end DhParameterSpec

namespace DHpkcs3Engine

variable {spec : DhParameterSpec}

/-- Past the guards only the loop is left. -/
lemma generatePrivateKey_of_admitted (h : spec.Admitted) (entropy : Entropy) :
    generatePrivateKey spec entropy =
      drawInRange spec.draw.size spec.draw.lower spec.draw.upper spec.draw.keepBits entropy := by
  unfold DhParameterSpec.Admitted at h
  unfold generatePrivateKey DhParameterSpec.draw
  cases hq : spec.q with
  | some q =>
    rw [hq] at h
    have hq1 : ¬ q ≤ 1 := Nat.not_le.mpr h
    simp only [if_neg hq1]
  | none =>
    rw [hq] at h
    obtain ⟨hlen, hmod, hp, hrange⟩ := h
    have hlen' : ¬ (spec.length = 0 ∨ spec.length % 8 ≠ 0) := by
      rintro (h0 | h8)
      · exact hlen h0
      · exact h8 hmod
    simp only [if_neg hlen', if_neg hp, Nat.one_shiftLeft, if_neg (Nat.not_le.mpr hrange)]

/-- A group that the guards stop yields no key. -/
lemma admitted_of_generatePrivateKey {entropy rest : Entropy} {key : Nat}
    (h : generatePrivateKey spec entropy = .ok (key, rest)) : spec.Admitted := by
  unfold generatePrivateKey at h
  unfold DhParameterSpec.Admitted
  cases hq : spec.q with
  | some q =>
    simp only [hq] at h
    split at h
    · simp at h
    · rename_i hq1
      exact Nat.lt_of_not_le hq1
  | none =>
    simp only [hq] at h
    split at h
    · simp at h
    rename_i hlen
    split at h
    · simp at h
    rename_i hp
    split at h
    · simp at h
    rename_i hrange
    rw [Nat.one_shiftLeft, Nat.one_shiftLeft] at hrange
    obtain ⟨hlen, hmod⟩ := not_or.mp hlen
    exact ⟨hlen, not_not.mp hmod, hp, Nat.lt_of_not_le hrange⟩

/-! ## The loop finishes -/

/-- Clearing the surplus high bits of a buffer that has none changes nothing. -/
lemma maskBuffer_of_le {keepBits : Nat} {buf : Bytes} (h : buf.length * 8 ≤ keepBits) :
    maskBuffer keepBits buf = buf := by
  unfold maskBuffer
  cases buf with
  | nil => rfl
  | cons first rest =>
    have hexcess : ¬ (first :: rest).length * 8 - keepBits > 0 := by omega
    simp only [if_neg hexcess]

/-- The number one survives the mask, wherever at least two bits are kept. -/
lemma ofBE_maskBuffer_one {keepBits size : Nat} (hsize : 0 < size) (hkeep : 2 ≤ keepBits)
    (hfit : size * 8 < keepBits + 8) : ofBE (maskBuffer keepBits (toBE size 1)) = 1 := by
  by_cases hone : size = 1
  · subst hone
    have hkeep8 : ∀ excess : Fin 7, (1 : UInt8) &&& (0xFF >>> UInt8.ofNat excess.val) = 1 := by
      decide
    have hexcess : 1 * 8 - keepBits < 7 := by omega
    have hmask := hkeep8 ⟨1 * 8 - keepBits, hexcess⟩
    have hbuf : toBE 1 1 = [1] := rfl
    rw [hbuf]
    simp only [maskBuffer, List.length_singleton, hmask, ite_self]
    rfl
  · -- the mask falls on a leading zero
    obtain ⟨k, rfl⟩ : ∃ k, size = k + 2 := ⟨size - 2, by omega⟩
    have hzero : ∀ w, toBE (w + 1) 0 = 0 :: toBE w 0 := by
      intro w
      induction w with
      | zero => rfl
      | succ w ih =>
        calc toBE (w + 1 + 1) 0 = toBE (w + 1) 0 ++ [0] := rfl
          _ = 0 :: toBE w 0 ++ [0] := by rw [ih]
          _ = 0 :: toBE (w + 1) 0 := rfl
    have hbuf : toBE (k + 2) 1 = 0 :: (toBE k 0 ++ [1]) := by
      rw [toBE_succ, show 1 / 256 = 0 from rfl, hzero]
      rfl
    have hval : ofBE (0 :: (toBE k 0 ++ [1])) = 1 := by
      rw [← hbuf, ofBE_toBE]
      refine Nat.mod_eq_of_lt ?_
      exact Nat.one_lt_pow (by omega) (by decide)
    rw [hbuf]
    simp only [maskBuffer, UInt8.zero_and, ite_self]
    exact hval

/-- Some buffer of the right width is accepted. -/
lemma exists_accepted (h : spec.Admitted) :
    0 < spec.draw.size ∧ ∃ buf, spec.draw.Accepts buf := by
  unfold DhParameterSpec.Admitted at h
  unfold DhParameterSpec.draw
  cases hq : spec.q with
  | some q =>
    rw [hq] at h
    have hq1 : 1 < q := h
    have hbits : 2 ≤ bitCount q := by
      by_contra hlt
      have hle := (bitCount_le_iff q 1).mp (by omega)
      omega
    have hsize : 0 < max ((bitCount q + 7) / 8) 1 := by omega
    have hone := ofBE_maskBuffer_one hsize hbits (by omega)
    refine ⟨hsize, toBE (max ((bitCount q + 7) / 8) 1) 1, length_toBE _ _, ?_, ?_⟩
    · exact hone.ge
    · exact hone.trans_lt hq1
  | none =>
    rw [hq] at h
    obtain ⟨hlen, hmod, -, hrange⟩ := h
    have hwidth : spec.length / 8 * 8 = spec.length := by omega
    have hmask : maskBuffer spec.length (toBE (spec.length / 8) (2 ^ (spec.length - 1))) =
        toBE (spec.length / 8) (2 ^ (spec.length - 1)) := by
      refine maskBuffer_of_le ?_
      rw [length_toBE]
      omega
    have hval : ofBE (toBE (spec.length / 8) (2 ^ (spec.length - 1))) = 2 ^ (spec.length - 1) := by
      have hpow : (256 : Nat) ^ (spec.length / 8) = 2 ^ spec.length := by
        rw [show (256 : Nat) = 2 ^ 8 from rfl, ← Nat.pow_mul, Nat.mul_comm, hwidth]
      rw [ofBE_toBE, hpow]
      exact Nat.mod_eq_of_lt (Nat.pow_lt_pow_right (by decide) (by omega))
    have hsize : 0 < spec.length / 8 := by omega
    refine ⟨hsize, toBE (spec.length / 8) (2 ^ (spec.length - 1)), length_toBE _ _, ?_, ?_⟩
    · rw [hmask, hval]
    · rw [hmask, hval]
      exact hrange

/-- From any point of the tape the loop ends with an accepted buffer at the latest.  The induction
is on the number of buffers in front of it. -/
lemma drawInRangeFuel_accepts {d : Draw} {buf : Bytes} (hbuf : d.Accepts buf) (rest : Bytes)
    {k fuel : Nat} (hfuel : k < fuel) {front : Bytes} (hfront : front.length = k * d.size) :
    ∃ drawn, drawInRangeFuel d.size d.lower d.upper d.keepBits fuel (front ++ buf ++ rest) =
      some drawn := by
  induction k generalizing fuel front with
  | zero =>
    obtain ⟨fuel, rfl⟩ : ∃ f, fuel = f + 1 := ⟨fuel - 1, by omega⟩
    obtain rfl : front = [] := List.eq_nil_of_length_eq_zero (by simpa using hfront)
    have hlen : ¬ (buf ++ rest).length < d.size := by
      rw [List.length_append, hbuf.length_eq]
      omega
    have htake : (buf ++ rest).take d.size = buf := take_append_of_length hbuf.length_eq
    rw [List.nil_append, drawInRangeFuel, if_neg hlen]
    simp only [htake, if_pos (And.intro hbuf.lower_le hbuf.lt_upper)]
    exact ⟨_, rfl⟩
  | succ k ih =>
    obtain ⟨fuel, rfl⟩ : ∃ f, fuel = f + 1 := ⟨fuel - 1, by omega⟩
    have hsize : d.size ≤ front.length := by
      rw [hfront, Nat.succ_mul]
      omega
    have hlen : ¬ (front ++ buf ++ rest).length < d.size := by
      rw [List.length_append, List.length_append]
      omega
    have hdrop : (front ++ buf ++ rest).drop d.size = front.drop d.size ++ buf ++ rest := by
      rw [List.append_assoc, List.drop_append_of_le_length hsize, List.append_assoc]
    rw [drawInRangeFuel, if_neg hlen]
    simp only [hdrop]
    split
    · exact ⟨_, rfl⟩
    · refine ih (by omega) ?_
      rw [List.length_drop, hfront, Nat.succ_mul]
      omega

lemma drawInRange_accepts {d : Draw} {buf : Bytes} (hbuf : d.Accepts buf) (rest : Bytes)
    {front : Bytes} (hfront : front.length % d.size = 0) :
    ∃ drawn, (drawInRange d.size d.lower d.upper d.keepBits (front ++ buf ++ rest) :
      Outcome DhPkcs3EngineError (Nat × Entropy)) = .ok drawn := by
  have hblocks : front.length = front.length / d.size * d.size := by
    have hdiv := Nat.div_add_mod front.length d.size
    rw [hfront, Nat.add_zero, Nat.mul_comm] at hdiv
    exact hdiv.symm
  have hcount : front.length / d.size < (front ++ buf ++ rest).length + 1 := by
    have hle := Nat.div_le_self front.length d.size
    rw [List.length_append, List.length_append]
    omega
  obtain ⟨drawn, hdrawn⟩ := drawInRangeFuel_accepts hbuf rest hcount hblocks
  refine ⟨drawn, ?_⟩
  rw [drawInRange, hdrawn]

/-- The guards let through exactly the groups for which a key can be drawn. -/
theorem admitted_iff :
    spec.Admitted ↔ ∃ entropy key rest, generatePrivateKey spec entropy = .ok (key, rest) := by
  constructor
  · intro h
    obtain ⟨-, buf, hbuf⟩ := exists_accepted h
    have hfront : ([] : Bytes).length % spec.draw.size = 0 := Nat.zero_mod _
    obtain ⟨⟨key, rest⟩, hdrawn⟩ := drawInRange_accepts hbuf [] hfront
    exact ⟨_, key, rest, (generatePrivateKey_of_admitted h _).trans hdrawn⟩
  · rintro ⟨entropy, key, rest, h⟩
    exact admitted_of_generatePrivateKey h

/-! ## What comes out -/

lemma inKeyRange_of_generatePrivateKey {entropy rest : Entropy} {key : Nat}
    (h : generatePrivateKey spec entropy = .ok (key, rest)) : spec.InKeyRange key := by
  rw [generatePrivateKey_of_admitted (admitted_of_generatePrivateKey h)] at h
  have hrange := drawInRange_eq_ok h
  unfold DhParameterSpec.draw at hrange
  unfold DhParameterSpec.InKeyRange
  cases hq : spec.q with
  | some q =>
    simp only [hq] at hrange
    exact ⟨hrange.1, Nat.le_sub_one_of_lt hrange.2⟩
  | none =>
    simp only [hq, lt_min_iff] at hrange
    exact hrange

/-- A key in range is a private key of the group. -/
lemma new_of_inKeyRange (hp : 1 ≤ spec.p) (hadmitted : spec.Admitted) {key : Nat}
    (hkey : spec.InKeyRange key) (entropy : Entropy) :
    ∃ engine, new spec (some key) entropy = .ok (engine, entropy) ∧ engine.privateKey = key := by
  have hpos : ¬ key = 0 := by
    unfold DhParameterSpec.InKeyRange at hkey
    cases hq : spec.q with
    | some q =>
      rw [hq] at hkey
      exact Nat.pos_iff_ne_zero.mp hkey.1
    | none =>
      rw [hq] at hkey
      have hlow : 0 < 2 ^ (spec.length - 1) := Nat.two_pow_pos _
      exact Nat.pos_iff_ne_zero.mp (hlow.trans_le hkey.1)
  have hlt : ¬ key ≥ spec.upper := by
    unfold DhParameterSpec.InKeyRange at hkey
    unfold DhParameterSpec.Admitted at hadmitted
    unfold DhParameterSpec.upper
    cases hq : spec.q with
    | some q =>
      rw [hq] at hkey hadmitted
      have hq1 : 1 < q := hadmitted
      have hle : key ≤ q - 1 := hkey.2
      rw [Option.getD_some]
      omega
    | none =>
      rw [hq] at hkey
      exact Nat.not_le.mpr hkey.2.2
  have hp0 : ¬ spec.p = 0 := by omega
  have hguard : ¬ (spec.q.isNone = true ∧ spec.p = 0) := fun h => hp0 h.2
  refine ⟨⟨spec, ModPow.modPow spec.g key spec.p, key, Nat.pos_of_ne_zero hpos,
    Nat.lt_of_not_ge hlt, rfl⟩, ?_, rfl⟩
  simp only [new, Outcome.ok_bind, dif_neg hpos, if_neg hguard, dif_neg hlt, if_neg hp0]

/-- What is promised of the keys of a group. -/
structure DrawsKeys (spec : DhParameterSpec) : Prop where
  in_range : ∀ entropy key rest, generatePrivateKey spec entropy = .ok (key, rest) →
    spec.InKeyRange key
  accepted : ∀ entropy key rest entropy', generatePrivateKey spec entropy = .ok (key, rest) →
    ∃ engine, new spec (some key) entropy' = .ok (engine, entropy') ∧ engine.privateKey = key
  candidate : 0 < spec.draw.size ∧ ∃ buf, spec.draw.Accepts buf
  finishes : ∀ buf front rest, spec.draw.Accepts buf → front.length % spec.draw.size = 0 →
    ∃ drawn, generatePrivateKey spec (front ++ buf ++ rest) = .ok drawn

/-- **Private keys.**  For every group that the guards let through, with a modulus other than zero,
and every tape of random bytes: a key that is drawn lies in the documented range and is accepted by
the constructor for the same group; some candidate buffer is accepted; and the loop, however many
buffers it has turned down, ends when it meets one. -/
theorem drawsKeys (hp : 1 ≤ spec.p) (hadmitted : spec.Admitted) : DrawsKeys spec := by
  refine ⟨?_, ?_, exists_accepted hadmitted, ?_⟩
  · intro entropy key rest h
    exact inKeyRange_of_generatePrivateKey h
  · intro entropy key rest entropy' h
    exact new_of_inKeyRange hp hadmitted (inKeyRange_of_generatePrivateKey h) entropy'
  · intro buf front rest hbuf hfront
    rw [generatePrivateKey_of_admitted hadmitted]
    exact drawInRange_accepts hbuf rest hfront

/-- The smallest subgroup order that the guards admit, and a private-key length whose range is cut
by the modulus. -/
theorem drawsKeys_small : DrawsKeys ⟨23, 22, 8, some 2⟩ ∧ DrawsKeys ⟨131, 2, 8, none⟩ := by
  have hq : (⟨23, 22, 8, some 2⟩ : DhParameterSpec).Admitted := show 1 < 2 by decide
  have hlen : (⟨131, 2, 8, none⟩ : DhParameterSpec).Admitted :=
    ⟨by decide, by decide, by decide, by decide⟩
  exact ⟨drawsKeys (by decide) hq, drawsKeys (by decide) hlen⟩

/-- Modulo zero a key is drawn that the constructor then panics on. -/
theorem new_panics_modulo_zero :
    (⟨0, 5, 8, some 2⟩ : DhParameterSpec).Admitted ∧
      generatePrivateKey ⟨0, 5, 8, some 2⟩ [0x01] = .ok (1, []) ∧
      new ⟨0, 5, 8, some 2⟩ (some 1) [] = .panic :=
  ⟨show 1 < 2 by decide, by decide, rfl⟩

end DHpkcs3Engine

end Dmrtd
