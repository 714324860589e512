import Mathlib.Tactic.Common
import IdentityCrates.Lib.Octets

/-!
# Block ciphers and their modes

A block cipher is a pair of functions on blocks of `n` bytes, of which the second undoes the first.
Nothing more is assumed about it: `BlockCipher` carries its three laws as fields, so a development
over it is a development over every cipher.

On top of it stand the two modes of operation that act on whole blocks, cipher block chaining and
electronic codebook.  The facts proved about chaining are the ones protocols rest on: the length is
kept, decryption undoes encryption under the same initialisation vector, and under a zero vector a
message of one block is decrypted by the block cipher alone.
-/

open Octets

/-- Bytewise exclusive or, as long as the shorter string. -/
def Octets.xorBytes (a b : Bytes) : Bytes := a.zipWith (fun x y => x ^^^ y) b

namespace Octets

lemma length_xorBytes {a b : Bytes} (h : a.length = b.length) : (xorBytes a b).length = a.length := by
  rw [xorBytes, List.length_zipWith, h, Nat.min_self]

/-- Adding the same string twice cancels. -/
lemma xorBytes_cancel {a b : Bytes} (h : a.length = b.length) : xorBytes (xorBytes a b) b = a := by
  induction a generalizing b with
  | nil => rfl
  | cons x a ih =>
    cases b with
    | nil => exact absurd h (by simp)
    | cons y b =>
      have hrest := ih (Nat.succ.inj h)
      have hbyte : x ^^^ y ^^^ y = x := by rw [UInt8.xor_assoc, UInt8.xor_self, UInt8.xor_zero]
      simp only [xorBytes, List.zipWith_cons_cons] at hrest ⊢
      rw [hbyte, hrest]

lemma xorBytes_replicate_zero (a : Bytes) : xorBytes a (List.replicate a.length 0) = a := by
  induction a with
  | nil => rfl
  | cons x a ih =>
    simp only [xorBytes, List.length_cons, List.replicate_succ, List.zipWith_cons_cons,
      UInt8.xor_zero] at ih ⊢
    rw [ih]

end Octets

/-- A block cipher under a fixed key, on blocks of `n` bytes. -/
structure BlockCipher (n : Nat) where
  encrypt : Bytes → Bytes
  decrypt : Bytes → Bytes
  length_encrypt : ∀ b, b.length = n → (encrypt b).length = n
  length_decrypt : ∀ b, b.length = n → (decrypt b).length = n
  decrypt_encrypt : ∀ b, b.length = n → decrypt (encrypt b) = b

namespace BlockCipher

variable {n : Nat} (c : BlockCipher n)

/-- The cipher that leaves every block as it is. -/
def identity (n : Nat) : BlockCipher n := ⟨id, id, fun _ h => h, fun _ h => h, fun _ _ => rfl⟩

/-! ## Recorded ciphers

What is known of a cipher under one key is often a list of blocks and their encryptions.  A recorded
cipher answers as the list says and is a cipher throughout. -/

/-- Exchange the two blocks of `p`, if they are blocks. -/
def exchange (n : Nat) (p : Bytes × Bytes) (b : Bytes) : Bytes :=
  if p.1.length = n ∧ p.2.length = n then
    if b = p.1 then p.2 else if b = p.2 then p.1 else b
  else b

lemma exchange_exchange (n : Nat) (p : Bytes × Bytes) (b : Bytes) :
    exchange n p (exchange n p b) = b := by
  unfold exchange
  by_cases hp : p.1.length = n ∧ p.2.length = n
  · by_cases h1 : b = p.1
    · by_cases h : p.2 = p.1 <;> simp [hp, h1, h]
    · by_cases h2 : b = p.2
      · simp [hp, h2]
      · simp [hp, h1, h2]
  · simp [hp]

lemma length_exchange (n : Nat) (p : Bytes × Bytes) {b : Bytes} (h : b.length = n) :
    (exchange n p b).length = n := by
  unfold exchange
  by_cases hp : p.1.length = n ∧ p.2.length = n
  · rw [if_pos hp]
    split
    · exact hp.2
    · split
      · exact hp.1
      · exact h
  · rwa [if_neg hp]

/-- The exchanges of a record, the first one first. -/
def encryptRecorded (n : Nat) : List (Bytes × Bytes) → Bytes → Bytes
  | [], b => b
  | p :: ps, b => encryptRecorded n ps (exchange n p b)

/-- The exchanges of a record, the first one last. -/
def decryptRecorded (n : Nat) : List (Bytes × Bytes) → Bytes → Bytes
  | [], b => b
  | p :: ps, b => exchange n p (decryptRecorded n ps b)

/-- A cipher that encrypts the recorded blocks as recorded. -/
def ofRecord (n : Nat) (record : List (Bytes × Bytes)) : BlockCipher n where
  encrypt := encryptRecorded n record
  decrypt := decryptRecorded n record
  length_encrypt b h := by
    induction record generalizing b with
    | nil => exact h
    | cons p ps ih => exact ih _ (length_exchange n p h)
  length_decrypt b h := by
    induction record with
    | nil => exact h
    | cons p ps ih => exact length_exchange n p ih
  decrypt_encrypt b h := by
    induction record generalizing b with
    | nil => rfl
    | cons p ps ih =>
      rw [encryptRecorded, decryptRecorded, ih _ (length_exchange n p h), exchange_exchange]

/-! ## Modes of operation -/

/-- Chained encryption of the first `k` blocks of `data`. -/
def cbcEncryptBlocks : Nat → Bytes → Bytes → Bytes
  | 0, _, _ => []
  | k + 1, iv, data =>
    let block := c.encrypt (xorBytes (data.take n) iv)
    block ++ cbcEncryptBlocks k block (data.drop n)

/-- Chained decryption of the first `k` blocks of `data`. -/
def cbcDecryptBlocks : Nat → Bytes → Bytes → Bytes
  | 0, _, _ => []
  | k + 1, iv, data =>
    xorBytes (c.decrypt (data.take n)) iv ++ cbcDecryptBlocks k (data.take n) (data.drop n)

/-- CBC encryption of the whole blocks of `data`. -/
def cbcEncrypt (iv data : Bytes) : Bytes := c.cbcEncryptBlocks (data.length / n) iv data

/-- CBC decryption of the whole blocks of `data`. -/
def cbcDecrypt (iv data : Bytes) : Bytes := c.cbcDecryptBlocks (data.length / n) iv data

/-- ECB encryption of the first `k` blocks, leaving what follows them as it is. -/
def ecbEncryptBlocks : Nat → Bytes → Bytes
  | 0, data => data
  | k + 1, data => c.encrypt (data.take n) ++ ecbEncryptBlocks k (data.drop n)

/-- ECB encryption. -/
def ecbEncrypt (data : Bytes) : Bytes := c.ecbEncryptBlocks (data.length / n) data

/-- ECB decryption of the first `k` blocks, leaving what follows them as it is. -/
def ecbDecryptBlocks : Nat → Bytes → Bytes
  | 0, data => data
  | k + 1, data => c.decrypt (data.take n) ++ ecbDecryptBlocks k (data.drop n)

/-- ECB decryption. -/
def ecbDecrypt (data : Bytes) : Bytes := c.ecbDecryptBlocks (data.length / n) data

/-! ## One block at a time -/

/-- The first block of a string of `k + 1` blocks, and what is left. -/
lemma length_take_drop_block {k : Nat} {data : Bytes} (h : data.length = (k + 1) * n) :
    (data.take n).length = n ∧ (data.drop n).length = k * n := by
  have hsplit : data.length = k * n + n := by rw [h, Nat.succ_mul]
  refine ⟨?_, ?_⟩
  · rw [List.length_take, hsplit]
    omega
  · rw [List.length_drop, hsplit]
    omega

lemma length_cbcEncryptBlocks {k : Nat} {iv data : Bytes} (hiv : iv.length = n)
    (h : data.length = k * n) : (c.cbcEncryptBlocks k iv data).length = k * n := by
  induction k generalizing iv data with
  | zero => simp [cbcEncryptBlocks]
  | succ k ih =>
    obtain ⟨htake, hdrop⟩ := length_take_drop_block h
    have hblock : (c.encrypt (xorBytes (data.take n) iv)).length = n := by
      refine c.length_encrypt _ ?_
      rw [length_xorBytes (htake.trans hiv.symm), htake]
    rw [cbcEncryptBlocks, List.length_append, hblock, ih hblock hdrop, Nat.succ_mul, Nat.add_comm]

lemma length_cbcDecryptBlocks {k : Nat} {iv data : Bytes} (hiv : iv.length = n)
    (h : data.length = k * n) : (c.cbcDecryptBlocks k iv data).length = k * n := by
  induction k generalizing iv data with
  | zero => simp [cbcDecryptBlocks]
  | succ k ih =>
    obtain ⟨htake, hdrop⟩ := length_take_drop_block h
    have hplain := c.length_decrypt _ htake
    rw [cbcDecryptBlocks, List.length_append, length_xorBytes (hplain.trans hiv.symm), hplain,
      ih htake hdrop, Nat.succ_mul, Nat.add_comm]

/-- Decryption undoes encryption, block by block: the chaining value of the next block is the
ciphertext of this one on both sides. -/
lemma cbcDecryptBlocks_cbcEncryptBlocks {k : Nat} {iv data : Bytes} (hiv : iv.length = n)
    (h : data.length = k * n) :
    c.cbcDecryptBlocks k iv (c.cbcEncryptBlocks k iv data) = data := by
  induction k generalizing iv data with
  | zero =>
    rw [Nat.zero_mul] at h
    rw [List.length_eq_zero_iff.mp h, cbcDecryptBlocks]
  | succ k ih =>
    obtain ⟨htake, hdrop⟩ := length_take_drop_block h
    have hmask : (xorBytes (data.take n) iv).length = n := by
      rw [length_xorBytes (htake.trans hiv.symm), htake]
    have hblock := c.length_encrypt _ hmask
    rw [cbcEncryptBlocks, cbcDecryptBlocks, take_append_of_length hblock,
      drop_append_of_length hblock, ih hblock hdrop, c.decrypt_encrypt _ hmask,
      xorBytes_cancel (htake.trans hiv.symm), List.take_append_drop]

/-! ## Whole messages -/

lemma length_eq_blocks {data : Bytes} (h : data.length % n = 0) :
    data.length = data.length / n * n := (Nat.div_mul_cancel (Nat.dvd_of_mod_eq_zero h)).symm

lemma length_cbcEncrypt {iv data : Bytes} (hiv : iv.length = n) (h : data.length % n = 0) :
    (c.cbcEncrypt iv data).length = data.length := by
  rw [cbcEncrypt, c.length_cbcEncryptBlocks hiv (length_eq_blocks h), ← length_eq_blocks h]

lemma length_cbcDecrypt {iv data : Bytes} (hiv : iv.length = n) (h : data.length % n = 0) :
    (c.cbcDecrypt iv data).length = data.length := by
  rw [cbcDecrypt, c.length_cbcDecryptBlocks hiv (length_eq_blocks h), ← length_eq_blocks h]

/-- CBC decryption undoes CBC encryption on whole blocks. -/
theorem cbcDecrypt_cbcEncrypt {iv data : Bytes} (hiv : iv.length = n) (h : data.length % n = 0) :
    c.cbcDecrypt iv (c.cbcEncrypt iv data) = data := by
  rw [cbcDecrypt, c.length_cbcEncrypt hiv h, cbcEncrypt,
    c.cbcDecryptBlocks_cbcEncryptBlocks hiv (length_eq_blocks h)]

/-- Under a zero initialisation vector a single block is decrypted by the block cipher alone. -/
theorem cbcDecrypt_single (hn : 0 < n) {data : Bytes} (h : data.length = n) :
    c.cbcDecrypt (List.replicate n 0) data = c.decrypt data := by
  have hone : data.length / n = 1 := by rw [h, Nat.div_self hn]
  have hplain := c.length_decrypt data h
  have hzero := xorBytes_replicate_zero (c.decrypt data)
  rw [hplain] at hzero
  rw [cbcDecrypt, hone, cbcDecryptBlocks, cbcDecryptBlocks, List.append_nil,
    List.take_of_length_le (le_of_eq h), hzero]

/-- One block in ECB mode is one application of the cipher. -/
lemma ecbEncrypt_single (hn : 0 < n) {data : Bytes} (h : data.length = n) :
    c.ecbEncrypt data = c.encrypt data := by
  have hone : data.length / n = 1 := by rw [h, Nat.div_self hn]
  rw [ecbEncrypt, hone, ecbEncryptBlocks, ecbEncryptBlocks, List.take_of_length_le (le_of_eq h),
    List.drop_of_length_le (le_of_eq h), List.append_nil]

end BlockCipher
