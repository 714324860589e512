import IdentityCrates.Lib.BlockCipher
import IdentityCrates.Lib.ModPow
import IdentityCrates.Lib.Slice
import IdentityCrates.Dmrtd.Auth.Der
import IdentityCrates.Dmrtd.Auth.SignatureSuite

/-!
# RSA public-key operations

`rsa.rs`: only ever the public operation, and the two signature paddings that rest on it.  The hash
functions belong to another crate, and are taken with the lengths that their names promise.

The numbers are unbounded, as the source has them, but what is computed from their sizes is not: an
index or a subtraction out of range panics, and so does a counter that runs over.
-/

namespace Dmrtd

open Rust Octets ModPow

/-- The hash functions. -/
structure Hashes where
  /-- `HashAlgo::digest`. -/
  digest : HashAlgo → Bytes → Bytes
  length_digest : ∀ algo data, (digest algo data).length = algo.digestLen

lemma HashAlgo.digestLen_pos (algo : HashAlgo) : 0 < algo.digestLen := by
  cases algo <;> decide

/-- `digest_info_prefix`: what stands in front of the digest in a DigestInfo. -/
def HashAlgo.digestInfoPrefix : HashAlgo → Bytes
  | .sha1 => [0x30, 0x21, 0x30, 0x09, 0x06, 0x05, 0x2b, 0x0e, 0x03, 0x02, 0x1a, 0x05, 0x00, 0x04,
      0x14]
  | .sha224 => [0x30, 0x2d, 0x30, 0x0d, 0x06, 0x09, 0x60, 0x86, 0x48, 0x01, 0x65, 0x03, 0x04, 0x02,
      0x04, 0x05, 0x00, 0x04, 0x1c]
  | .sha256 => [0x30, 0x31, 0x30, 0x0d, 0x06, 0x09, 0x60, 0x86, 0x48, 0x01, 0x65, 0x03, 0x04, 0x02,
      0x01, 0x05, 0x00, 0x04, 0x20]
  | .sha384 => [0x30, 0x41, 0x30, 0x0d, 0x06, 0x09, 0x60, 0x86, 0x48, 0x01, 0x65, 0x03, 0x04, 0x02,
      0x02, 0x05, 0x00, 0x04, 0x30]
  | .sha512 => [0x30, 0x51, 0x30, 0x0d, 0x06, 0x09, 0x60, 0x86, 0x48, 0x01, 0x65, 0x03, 0x04, 0x02,
      0x03, 0x05, 0x00, 0x04, 0x40]

/-! ## Integers -/

/-- `parse_der_uint`: the contents of a DER INTEGER as a positive number, minimally encoded. -/
def parseDerUint : Bytes → Option Nat
  | [] => none
  | [b0] => if b0 &&& 0x80 ≠ 0 ∨ b0 = 0 then none else some (ofBE [b0])
  | b0 :: b1 :: rest =>
    if b0 &&& 0x80 ≠ 0 then none
    else if b0 = 0 then
      -- a leading zero is there only to keep the number positive
      if b1 &&& 0x80 = 0 then none else some (ofBE (b1 :: rest))
    else some (ofBE (b0 :: b1 :: rest))

lemma parseDerUint_bounds {contents : Bytes} {n : Nat} (h : parseDerUint contents = some n) :
    0 < n ∧ n < 256 ^ contents.length := by
  match contents, h with
  | [], h => simp [parseDerUint] at h
  | [b0], h =>
    rw [parseDerUint] at h
    split at h
    · simp at h
    rename_i hb0
    obtain rfl := Option.some.inj h
    exact ⟨ofBE_pos (fun hzero => hb0 (Or.inr hzero)) [], ofBE_lt [b0]⟩
  | b0 :: b1 :: rest, h =>
    rw [parseDerUint] at h
    split at h
    · simp at h
    split at h
    · split at h
      · simp at h
      rename_i hhigh
      obtain rfl := Option.some.inj h
      refine ⟨ofBE_pos (fun hzero => hhigh (by rw [hzero]; rfl)) rest, ?_⟩
      exact (ofBE_lt (b1 :: rest)).trans (Nat.pow_lt_pow_right (by decide) (by simp))
    · rename_i hb0
      obtain rfl := Option.some.inj h
      exact ⟨ofBE_pos hb0 _, ofBE_lt (b0 :: b1 :: rest)⟩

/-! ## Keys -/

/-- `RsaPublicKey`: modulus and exponent, as `from_pkcs1_der` lets them through. -/
structure RsaPublicKey where
  n : Nat
  e : Nat
  n_pos : 0 < n
  /-- The contents of a DER INTEGER fill no more than four length octets. -/
  size_le : Nat.size n ≤ 8 * 2 ^ 32
  /-- With an exponent of one the public operation would be the identity. -/
  e_ge : 3 ≤ e
  e_odd : e % 2 = 1

namespace RsaPublicKey

/-- The two INTEGERs of an RSAPublicKey, and nothing after them. -/
def pkcs1Integers (derBytes : Bytes) : Option (Bytes × Bytes) := do
  let seq ← Der.expect derBytes Der.sequence
  let (nBytes, rest) ← Der.take seq Der.integer
  let (eBytes, tail) ← Der.take rest Der.integer
  if tail ≠ [] then none else some (nBytes, eBytes)

lemma length_of_pkcs1Integers {derBytes nBytes eBytes : Bytes}
    (h : pkcs1Integers derBytes = some (nBytes, eBytes)) : nBytes.length < 2 ^ 32 := by
  simp only [pkcs1Integers, Option.bind_eq_bind, Option.bind_eq_some_iff] at h
  obtain ⟨seq, -, ⟨nBytes', rest⟩, hn, ⟨eBytes', tail⟩, -, h⟩ := h
  dsimp only at h
  split at h
  · simp at h
  obtain ⟨rfl, -⟩ := Prod.mk.inj (Option.some.inj h)
  exact Der.length_contents_of_next (Der.take_eq_some.mp hn)

lemma size_modulus_le {derBytes nBytes eBytes : Bytes} {n : Nat}
    (h : pkcs1Integers derBytes = some (nBytes, eBytes)) (hn : parseDerUint nBytes = some n) :
    Nat.size n ≤ 8 * 2 ^ 32 := by
  have hlen := length_of_pkcs1Integers h
  have hlt : n < 2 ^ (8 * nBytes.length) := by
    rw [pow_mul]
    exact (parseDerUint_bounds hn).2
  exact (Nat.size_le.mpr hlt).trans (Nat.mul_le_mul_left 8 hlen.le)

/-- `from_pkcs1_der`. -/
def fromPkcs1Der (derBytes : Bytes) : Option RsaPublicKey :=
  match hints : pkcs1Integers derBytes with
  | none => none
  | some (nBytes, eBytes) =>
    match hn : parseDerUint nBytes, parseDerUint eBytes with
    | some n, some e =>
      -- the exponent must be odd and at least three
      if he : e < 3 ∨ e % 2 = 0 then none
      else some {
        n, e
        n_pos := (parseDerUint_bounds hn).1
        size_le := size_modulus_le hints hn
        e_ge := Nat.le_of_not_lt (not_or.mp he).1
        e_odd := Nat.mod_two_ne_zero.mp (not_or.mp he).2 }
    | _, _ => none

variable (key : RsaPublicKey)

/-- `size`: the modulus size in bytes, the length every signature must have. -/
def size : Nat := (Nat.size key.n + 7) / 8

/-- `to_bytes_be`: without leading zeros, but never empty. -/
def toBytesBE (m : Nat) : Bytes := toBE (max 1 ((Nat.size m + 7) / 8)) m

/-- `raw_public`: the public operation, padded on the left to the length of the modulus. -/
def rawPublic (sig : Bytes) : Option Bytes :=
  let k := key.size
  if sig.length ≠ k ∨ key.n = 0 then none
  else
    let s := ofBE sig
    if key.n ≤ s then none
    else
      let out := toBytesBE (modPow s key.e key.n)
      if k < out.length then none else some (List.replicate (k - out.length) 0 ++ out)

variable (H : Hashes)

/-- `verify_pkcs1v15`: the expected block is rebuilt and compared as a whole. -/
def verifyPkcs1v15 (hash : HashAlgo) (message sig : Bytes) : Bool :=
  let k := key.size
  let digest := H.digest hash message
  let tLen := hash.digestInfoPrefix.length + digest.length
  if k < tLen + 11 then false
  else
    let expected := [0x00, 0x01] ++ List.replicate (k - tLen - 3) 0xFF ++ [0x00] ++
      hash.digestInfoPrefix ++ digest
    match key.rawPublic sig with
    | some em => decide (em = expected)
    | none => false

/-! ## RSASSA-PSS -/

/-- The loop of `mgf1`: hashes of the seed and a counter, until there is enough. -/
def mgf1Loop (hash : HashAlgo) (seed : Bytes) (len : Nat) (out : Bytes) (counter : Nat) :
    Outcome Empty Bytes :=
  if out.length < len then do
    let next ← checkedAdd 32 counter 1
    mgf1Loop hash seed len (out ++ H.digest hash (seed ++ toBE 4 counter)) next
  else .ok (out.take len)
termination_by len - out.length
decreasing_by
  have hpos := hash.digestLen_pos
  rw [List.length_append, H.length_digest]
  omega

/-- `mgf1`. -/
def mgf1 (hash : HashAlgo) (seed : Bytes) (len : Nat) : Outcome Empty Bytes :=
  mgf1Loop H hash seed len [] 0

/-- The encoded message in a block: one octet less where the number of bits asks for it. -/
def encodedMessage (block : Bytes) (emLen : Nat) : Outcome Empty (Option Bytes) := do
  let spare ← checkedSub block.length emLen
  if spare = 0 then .ok (some block)
  else if spare = 1 then do
    let first ← index block 0
    if first = 0 then do
      let em ← sliceFrom block 1
      .ok (some em)
    else .ok none
  else .ok none

/-- `0xFF >> bits`: a shift by all the bits or more panics. -/
def maskRight (bits : Nat) : Outcome Empty UInt8 :=
  if bits < 8 then .ok (0xFF >>> UInt8.ofNat bits) else .panic

/-- What `verify_pss` checks of the data block, with the hash that follows it. -/
def checkDataBlock (hash : HashAlgo) (psLen : Nat) (mHash h db : Bytes) :
    Outcome Empty Bool := do
  let ps ← slice db 0 psLen
  if ps.any (· ≠ 0) then .ok false
  else do
    let separator ← index db psLen
    if separator ≠ 0x01 then .ok false
    else do
      let salt ← sliceFrom db (psLen + 1)
      .ok (decide (h = H.digest hash (List.replicate 8 0 ++ mHash ++ salt)))

/-- What `verify_pss` checks of the masked data block and the hash, once they are apart. -/
def checkParts (hash mgfHash : HashAlgo) (saltLen emBits emLen : Nat) (mHash maskedDb h : Bytes) :
    Outcome Empty Bool := do
  -- the bits above emBits must be zero
  let topBits ← checkedSub (8 * emLen) emBits
  let topMask ← maskRight topBits
  let first ← index maskedDb 0
  if first &&& ~~~topMask ≠ 0 then .ok false
  else do
    let mask ← mgf1 H mgfHash h maskedDb.length
    let db := xorBytes maskedDb mask
    let first ← index db 0
    let db := db.set 0 (first &&& topMask)
    let psLen ← checkedSub emLen mHash.length
    let psLen ← checkedSub psLen saltLen
    let psLen ← checkedSub psLen 2
    checkDataBlock H hash psLen mHash h db

/-- What `verify_pss` checks of the encoded message. -/
def checkEncoded (hash mgfHash : HashAlgo) (saltLen : Nat) (message em : Bytes)
    (emBits emLen : Nat) : Outcome Empty Bool := do
  let mHash := H.digest hash message
  let hLen := mHash.length
  let hashed ← checkedAdd 64 hLen saltLen
  let needed ← checkedAdd 64 hashed 2
  if emLen < needed then .ok false
  else do
    let last ← checkedSub emLen 1
    let trailer ← index em last
    if trailer ≠ 0xBC then .ok false
    else do
      let front ← slice em 0 last
      let mid ← checkedSub emLen hLen
      let mid ← checkedSub mid 1
      let maskedDb ← slice front 0 mid
      let h ← sliceFrom front mid
      checkParts H hash mgfHash saltLen emBits emLen mHash maskedDb h

/-- `verify_pss`: the content hash, the mask generation hash, the salt length, the message and the
signature. -/
def verifyPss (hash mgfHash : HashAlgo) (saltLen : Nat) (message sig : Bytes) :
    Outcome Empty Bool :=
  match key.rawPublic sig with
  | none => .ok false
  | some block => do
    let emBits ← checkedSub (Nat.size key.n) 1
    let emLen := (emBits + 7) / 8
    match ← encodedMessage block emLen with
    | none => .ok false
    | some em => checkEncoded H hash mgfHash saltLen message em emBits emLen

end RsaPublicKey

end Dmrtd
