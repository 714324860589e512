import IdentityCrates.Lib.Octets

/-!
# Integer serialisation

The counting and serialisation helpers of `utils.rs` that the BER-TLV encoder, the secure
messaging data objects and the MRZ keys share.  Arguments are `u64` in the source; nothing below
depends on the width, so they are natural numbers here.
-/

namespace Dmrtd

open Octets

/-- `bit_count`: the number of bits needed for `n`, and `0` for `0`. -/
def bitCount (n : Nat) : Nat := if n = 0 then 0 else Nat.log2 n + 1

/-- `byte_count`: the number of bytes needed for `n`, and `0` for `0`. -/
def byteCount (n : Nat) : Nat := (bitCount n + 7) / 8

/-- `int_to_bin`: the significant bytes of `n`, left-padded with zeros to at least `minLen`. -/
def intToBin (n minLen : Nat) : Bytes :=
  let raw := toBE 8 n
  let firstSet := raw.findIdx (fun b => b != 0)
  let sigBytes := 8 - firstSet
  if sigBytes ≥ minLen then raw.drop firstSet
  else if minLen > 8 then List.replicate (minLen - 8) 0 ++ raw
  else raw.drop (8 - minLen)

/-- Upper-case hexadecimal with at least `width` digits, as in `{:02X}`. -/
def upperHex (width n : Nat) : String :=
  let digits := (Nat.toDigits 16 n).map Char.toUpper
  String.ofList (List.replicate (width - digits.length) '0' ++ digits)

/-- `hex::encode`: two lower-case digits a byte. -/
def hexEncode (bs : Bytes) : String :=
  String.ofList (bs.flatMap fun b => [Nat.digitChar (b.toNat / 16), Nat.digitChar (b.toNat % 16)])

/-- `big_uint_to_bytes`: the significant bytes of `n`, and none for zero. -/
def bigUintToBytes (n : Nat) : Bytes := toBE (byteCount n) n

lemma bitCount_le_iff (n k : Nat) : bitCount n ≤ k ↔ n < 2 ^ k := by
  rcases Nat.eq_zero_or_pos n with rfl | hn
  · simp [bitCount]
  · rw [bitCount, if_neg (by omega), Nat.add_one_le_iff, Nat.log2_lt (by omega)]

lemma byteCount_le_iff (n k : Nat) : byteCount n ≤ k ↔ n < 256 ^ k := by
  have h8 : (256 : Nat) ^ k = 2 ^ (8 * k) := by rw [Nat.pow_mul]
  rw [h8, ← bitCount_le_iff, byteCount]
  omega

lemma lt_pow_byteCount (n : Nat) : n < 256 ^ byteCount n := (byteCount_le_iff n _).mp le_rfl

@[simp] lemma byteCount_zero : byteCount 0 = 0 := rfl

lemma byteCount_pos {n : Nat} (hn : 0 < n) : 0 < byteCount n := by
  by_contra h
  have h0 : n < 256 ^ 0 := (byteCount_le_iff n 0).mp (by omega)
  omega

lemma byteCount_eq_one {n : Nat} (hn : 0 < n) (hlt : n < 256) : byteCount n = 1 := by
  have hle : byteCount n ≤ 1 := (byteCount_le_iff n 1).mpr (by omega)
  have hpos := byteCount_pos hn
  omega

/-- The bytes of a number denote it. -/
@[simp] lemma ofBE_bigUintToBytes (n : Nat) : ofBE (bigUintToBytes n) = n := by
  rw [bigUintToBytes, ofBE_toBE, Nat.mod_eq_of_lt (lt_pow_byteCount n)]

@[simp] lemma length_bigUintToBytes (n : Nat) : (bigUintToBytes n).length = byteCount n :=
  length_toBE _ _

/-! ## `int_to_bin` -/

/-- Dropping leading zero bytes does not change the number a string denotes. -/
lemma ofBE_drop_of_le_findIdx (bs : Bytes) {k : Nat} (h : k ≤ bs.findIdx (fun b => b != 0)) :
    ofBE (bs.drop k) = ofBE bs := by
  induction bs generalizing k with
  | nil => simp
  | cons b bs ih =>
    rcases k with _ | k
    · rfl
    · by_cases hb : b = 0
      · subst hb
        have hk : k ≤ bs.findIdx (fun b => b != 0) := by simpa [List.findIdx_cons] using h
        rw [List.drop_succ_cons, ih hk, ofBE_cons]
        simp
      · have hne : (b != 0) = true := bne_iff_ne.mpr hb
        rw [List.findIdx_cons, hne, cond_true] at h
        omega

/-- Without a minimum length `int_to_bin` writes `n` out with no bytes to spare. -/
lemma ofBE_intToBin_zero {n : Nat} (hn : n < 256 ^ 8) : ofBE (intToBin n 0) = n := by
  have h : intToBin n 0 = (toBE 8 n).drop ((toBE 8 n).findIdx (fun b => b != 0)) := by
    simp [intToBin]
  rw [h, ofBE_drop_of_le_findIdx _ le_rfl, ofBE_toBE, Nat.mod_eq_of_lt hn]

lemma length_intToBin_zero_le (n : Nat) : (intToBin n 0).length ≤ 8 := by
  have h : intToBin n 0 = (toBE 8 n).drop ((toBE 8 n).findIdx (fun b => b != 0)) := by
    simp [intToBin]
  rw [h, List.length_drop, length_toBE]
  omega

end Dmrtd
