import IdentityCrates.Lib.BlockCipher

/-!
# Probabilistic signature encoding

EMSA-PSS turns a message into an encoded message of a given number of bits, with the help of a hash
function, a mask generation function and a salt.  `EmsaPss.encode` does that for a salt, and
`EmsaPss.Consistent` is what a verifier checks of an encoded message: it is what an encoder makes of
the message and of some salt of the right length.

The encoded message ends in a hash of the message and the salt, followed by `bc`.  In front of them
stands the data block, which is zeros, a one and the salt, under a mask that is generated from the
hash.  The number of bits need not be a multiple of eight, so the leftmost bits of the masked data
block are cleared.

MGF1, the usual mask generation function, strings together the hashes of the seed with a counter.
-/

open Octets

namespace EmsaPss

/-! ## The leftmost bits -/

/-- Clear the `k` leftmost bits of the first octet. -/
def clearLeft (k : Nat) : Bytes → Bytes
  | [] => []
  | b :: bs => UInt8.ofNat (b.toNat % 2 ^ (8 - k)) :: bs

@[simp]
lemma length_clearLeft (k : Nat) (bs : Bytes) : (clearLeft k bs).length = bs.length := by
  cases bs <;> rfl

/-- What is cleared stays cleared. -/
lemma clearLeft_clearLeft (k : Nat) (bs : Bytes) : clearLeft k (clearLeft k bs) = clearLeft k bs := by
  cases bs with
  | nil => rfl
  | cons b bs =>
    have hle : b.toNat % 2 ^ (8 - k) ≤ b.toNat := Nat.mod_le _ _
    have hb := b.toNat_lt
    rw [clearLeft, clearLeft, UInt8.toNat_ofNat', Nat.mod_eq_of_lt (by omega : _ < 2 ^ 8),
      Nat.mod_mod]

/-! ## MGF1 -/

/-- MGF1 over a hash function with digests of `hashLen` octets. -/
def mgf1 (hash : Bytes → Bytes) (hashLen : Nat) (seed : Bytes) (len : Nat) : Bytes :=
  ((List.range ((len + hashLen - 1) / hashLen)).flatMap fun counter =>
    hash (seed ++ toBE 4 counter)).take len

/-- The first hashes, strung together. -/
lemma length_flatMap_hash {hash : Bytes → Bytes} {hashLen : Nat}
    (hlen : ∀ m, (hash m).length = hashLen) (seed : Bytes) (k : Nat) :
    ((List.range k).flatMap fun counter => hash (seed ++ toBE 4 counter)).length = k * hashLen := by
  induction k with
  | zero => simp
  | succ k ih =>
    rw [List.range_succ, List.flatMap_append, List.length_append, ih, List.flatMap_singleton, hlen,
      Nat.add_one_mul]

lemma length_mgf1 {hash : Bytes → Bytes} {hashLen : Nat} (hlen : ∀ m, (hash m).length = hashLen)
    (hpos : 0 < hashLen) (seed : Bytes) (len : Nat) : (mgf1 hash hashLen seed len).length = len := by
  rw [mgf1, List.length_take, length_flatMap_hash hlen, Nat.min_eq_left]
  have hdiv := Nat.lt_div_mul_add (a := len + hashLen - 1) hpos
  omega

/-! ## The encoding -/

end EmsaPss

/-- The parameters of the encoding. -/
structure EmsaPss where
  hash : Bytes → Bytes
  hashLen : Nat
  length_hash : ∀ m, (hash m).length = hashLen
  mask : Bytes → Nat → Bytes
  length_mask : ∀ seed len, (mask seed len).length = len
  saltLen : Nat

namespace EmsaPss

variable (P : EmsaPss)

/-- The octets of an encoded message of so many bits. -/
def encodedLen (emBits : Nat) : Nat := (emBits + 7) / 8

/-- The bits of these octets that the encoded message does not use. -/
def spareBits (emBits : Nat) : Nat := 8 * encodedLen emBits - emBits

/-- The hash at the end of the encoded message. -/
def saltedHash (message salt : Bytes) : Bytes :=
  P.hash (List.replicate 8 0 ++ P.hash message ++ salt)

/-- The data block: zeros, a one and the salt. -/
def dataBlock (emBits : Nat) (salt : Bytes) : Bytes :=
  List.replicate (encodedLen emBits - P.hashLen - P.saltLen - 2) 0 ++ 1 :: salt

/-- EMSA-PSS-ENCODE, with the salt that was drawn. -/
def encode (message salt : Bytes) (emBits : Nat) : Option Bytes :=
  if encodedLen emBits < P.hashLen + P.saltLen + 2 then none
  else
    let h := P.saltedHash message salt
    let db := P.dataBlock emBits salt
    some (clearLeft (spareBits emBits) (xorBytes db (P.mask h db.length)) ++ h ++ [0xbc])

/-- EMSA-PSS-VERIFY: the encoded message is consistent with the message. -/
def Consistent (message encoded : Bytes) (emBits : Nat) : Prop :=
  encoded.length = encodedLen emBits ∧ P.hashLen + P.saltLen + 2 ≤ encodedLen emBits ∧
  ∃ maskedDb h, encoded = maskedDb ++ h ++ [0xbc] ∧ h.length = P.hashLen ∧
    clearLeft (spareBits emBits) maskedDb = maskedDb ∧
    ∃ salt, salt.length = P.saltLen ∧
      clearLeft (spareBits emBits) (xorBytes maskedDb (P.mask h maskedDb.length)) =
        P.dataBlock emBits salt ∧
      h = P.saltedHash message salt

lemma spareBits_lt (emBits : Nat) : spareBits emBits < 8 := by
  unfold spareBits encodedLen
  omega

variable {P}

lemma length_dataBlock {emBits : Nat} {salt : Bytes} (hsalt : salt.length = P.saltLen)
    (hroom : P.hashLen + P.saltLen + 2 ≤ encodedLen emBits) :
    (P.dataBlock emBits salt).length = encodedLen emBits - P.hashLen - 1 := by
  rw [dataBlock, List.length_append, List.length_replicate, List.length_cons, hsalt]
  omega

/-- Nothing of the data block is cleared: its first octet is a zero or a one. -/
lemma clearLeft_dataBlock (emBits : Nat) (salt : Bytes) :
    clearLeft (spareBits emBits) (P.dataBlock emBits salt) = P.dataBlock emBits salt := by
  have hone : (1 : Nat) < 2 ^ (8 - spareBits emBits) :=
    Nat.one_lt_two_pow (Nat.sub_ne_zero_of_lt (spareBits_lt emBits))
  unfold dataBlock
  rcases encodedLen emBits - P.hashLen - P.saltLen - 2 with _ | k
  · rw [List.replicate_zero, List.nil_append, clearLeft, UInt8.toNat_one, Nat.mod_eq_of_lt hone]
    rfl
  · rw [List.replicate_succ, List.cons_append, clearLeft, UInt8.toNat_zero, Nat.zero_mod]
    rfl

/-- One octet, masked, cleared and masked again. -/
lemma xor_mod_xor_mod (x y : UInt8) (m : Nat) :
    (UInt8.ofNat ((x ^^^ y).toNat % 2 ^ m) ^^^ y).toNat % 2 ^ m = x.toNat % 2 ^ m := by
  have hle : (x ^^^ y).toNat % 2 ^ m ≤ (x ^^^ y).toNat := Nat.mod_le _ _
  have hlt := (x ^^^ y).toNat_lt
  rw [UInt8.toNat_xor, UInt8.toNat_ofNat', Nat.mod_eq_of_lt (by omega : _ < 2 ^ 8),
    Nat.xor_mod_two_pow, Nat.mod_mod, ← Nat.xor_mod_two_pow, ← UInt8.toNat_xor, UInt8.xor_assoc,
    UInt8.xor_self, UInt8.xor_zero]

/-- Masking twice and clearing the bits that do not count gives the block back. -/
lemma clearLeft_xorBytes_clearLeft {k : Nat} {a mask : Bytes} (hlen : a.length = mask.length) :
    clearLeft k (xorBytes (clearLeft k (xorBytes a mask)) mask) = clearLeft k a := by
  rcases a with _ | ⟨x, a⟩
  · rfl
  rcases mask with _ | ⟨y, mask⟩
  · exact absurd hlen (by simp)
  have hrest := xorBytes_cancel (Nat.succ.inj hlen : a.length = mask.length)
  simp only [xorBytes, List.zipWith_cons_cons, clearLeft] at hrest ⊢
  rw [xor_mod_xor_mod, hrest]

/-- What the encoder makes is consistent. -/
theorem consistent_encode {message salt encoded : Bytes} {emBits : Nat}
    (hsalt : salt.length = P.saltLen) (h : P.encode message salt emBits = some encoded) :
    P.Consistent message encoded emBits := by
  unfold encode at h
  split at h
  · simp at h
  rename_i hroom
  rw [not_lt] at hroom
  obtain rfl := Option.some.inj h
  have hblock := length_dataBlock hsalt hroom
  have hmask := P.length_mask (P.saltedHash message salt) (P.dataBlock emBits salt).length
  have hxor := length_xorBytes hmask.symm
  have hhash : (P.saltedHash message salt).length = P.hashLen := P.length_hash _
  refine ⟨?_, hroom, _, _, rfl, hhash, clearLeft_clearLeft _ _, salt, hsalt, ?_, rfl⟩
  · rw [List.length_append, List.length_append, length_clearLeft, hxor, hhash, hblock,
      List.length_singleton]
    omega
  · rw [length_clearLeft, hxor, clearLeft_xorBytes_clearLeft hmask.symm, clearLeft_dataBlock]

end EmsaPss
