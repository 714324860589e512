import Mathlib.Tactic.NormNum.Prime
import IdentityCrates.Lib.BlockCipher
import IdentityCrates.Lib.CurveGroup
import IdentityCrates.Lib.ModPow

/-!
# The cryptographic primitives

The crate takes its hash functions, block ciphers, CMAC, elliptic curves and random bytes from other
crates.  `Primitives` is what it relies on: the functions, and as fields the documented facts about
them (digest lengths, block lengths, that a block cipher is decrypted by its inverse, that a curve
is a group of prime order).  Everything above this file is a function of a `Primitives`, so what is
proved there holds whichever implementation is linked in.

`Primitives.transparent` is one such implementation, of no cryptographic strength at all: it shows
that the facts assumed can be met together.
-/

namespace Dmrtd

open Octets

/-- The curves that `ecdh_pace.rs` instantiates its engine with. -/
inductive NamedCurve where
  | nistP224
  | nistP256
  | brainpoolP256r1
  | nistP384
  | brainpoolP384r1
  | nistP521
  deriving DecidableEq, Repr

/-- The byte width of a coordinate, as each engine is instantiated. -/
def NamedCurve.coordLen : NamedCurve → Nat
  | .nistP224 => 28
  | .nistP256 => 32
  | .brainpoolP256r1 => 32
  | .nistP384 => 48
  | .brainpoolP384r1 => 48
  | .nistP521 => 66

lemma NamedCurve.coordLen_ge (c : NamedCurve) : 28 ≤ c.coordLen := by
  cases c <;> decide

/-- What the operating system's generator will yield before it fails, if it ever does.  The source
turns a failure of the generator into a panic. -/
abbrev Entropy := Bytes

/-- The functions the crate imports, with what it relies on about them. -/
structure Primitives where
  sha1 : Bytes → Bytes
  length_sha1 : ∀ data, (sha1 data).length = 20
  sha256 : Bytes → Bytes
  length_sha256 : ∀ data, (sha256 data).length = 32
  /-- Single DES under an 8-byte key. -/
  des : Bytes → BlockCipher 8
  /-- Triple DES under a 24-byte key. -/
  tdes : Bytes → BlockCipher 8
  /-- AES under a key of 16, 24 or 32 bytes. -/
  aes : Bytes → BlockCipher 16
  /-- AES-CMAC of a message under a key. -/
  cmac : Bytes → Bytes → Bytes
  length_cmac : ∀ key data, (cmac key data).length = 16
  curve : NamedCurve → CurveGroup
  curve_coordLen : ∀ c, (curve c).coordLen = c.coordLen
  /-- Every curve in use has an order above 128 bits. -/
  curve_large : ∀ c, 2 ^ 128 < (curve c).order
  /-- `SecretKey::generate`: a non-zero scalar and the entropy that is left. -/
  secretKey : NamedCurve → Entropy → Option (Nat × Entropy)
  secretKey_range : ∀ c entropy k rest, secretKey c entropy = some (k, rest) →
    0 < k ∧ k < (curve c).order

namespace Primitives

/-- A prime above `2 ^ 128` that is easily certified. -/
lemma prime_sample : (21 * 2 ^ 128 + 1).Prime := by
  refine ModPow.prime_of_lucas 5 (3 :: 7 :: List.replicate 128 2) (by decide) ?_ ?_ ?_ ?_
  · rw [List.prod_cons, List.prod_cons, List.prod_replicate]
    norm_num
  · intro f hf
    rw [List.mem_cons, List.mem_cons, List.mem_replicate] at hf
    rcases hf with rfl | rfl | ⟨-, rfl⟩ <;> norm_num
  · decide +kernel
  · intro f hf
    rw [List.mem_cons, List.mem_cons, List.mem_replicate] at hf
    rcases hf with rfl | rfl | ⟨-, rfl⟩ <;> decide +kernel

/-- Primitives that hide nothing. -/
def transparent : Primitives where
  sha1 data := toBE 20 (ofBE data)
  length_sha1 data := length_toBE 20 _
  sha256 data := toBE 32 (ofBE data)
  length_sha256 data := length_toBE 32 _
  des _ := BlockCipher.identity 8
  tdes _ := BlockCipher.identity 8
  aes _ := BlockCipher.identity 16
  cmac key data := toBE 16 (ofBE (key ++ data))
  length_cmac key data := length_toBE 16 _
  curve c := CurveGroup.ofZMod (21 * 2 ^ 128 + 1) prime_sample c.coordLen
    (le_trans (by decide : 21 * 2 ^ 128 + 1 ≤ 256 ^ 28)
      (Nat.pow_le_pow_right (by decide) c.coordLen_ge))
  curve_coordLen _ := rfl
  curve_large _ := show 2 ^ 128 < 21 * 2 ^ 128 + 1 by decide
  secretKey _ entropy :=
    match entropy with
    | b :: rest => some (b.toNat + 1, rest)
    | [] => none
  secretKey_range c entropy k rest h := by
    cases entropy with
    | nil => exact absurd h (by simp)
    | cons b entropy =>
      obtain ⟨rfl, -⟩ := Prod.mk.inj (Option.some.inj h)
      have hb := b.toNat_lt
      refine ⟨Nat.succ_pos _, ?_⟩
      change b.toNat + 1 < 21 * 2 ^ 128 + 1
      omega

/-! ## Recorded primitives -/

/-- Calls of the primitives with their results, from a protocol run. -/
structure Recording where
  sha1 : List (Bytes × FixedBytes 20)
  des : List (Bytes × List (Bytes × Bytes))
  tdes : List (Bytes × List (Bytes × Bytes))
  aes : List (Bytes × List (Bytes × Bytes))
  cmac : List ((Bytes × Bytes) × FixedBytes 16)

/-- A recorded digest of `len` bytes, written as numbers. -/
def Recording.digest (len data digest : Nat) : Bytes × FixedBytes 20 :=
  (toBE len data, ⟨toBE 20 digest, length_toBE 20 digest⟩)

/-- Recorded pairs of `n`-byte blocks and their encryptions under a key of `len` bytes, written as
numbers. -/
def Recording.blocks (n len key : Nat) (pairs : List (Nat × Nat)) : Bytes × List (Bytes × Bytes) :=
  (toBE len key, pairs.map fun p => (toBE n p.1, toBE n p.2))

/-- Primitives that answer as recorded, and some other way everywhere else. -/
def replay (r : Recording) : Primitives where
  __ := transparent
  sha1 data := ((r.sha1.lookup data).getD ⟨toBE 20 (ofBE data), length_toBE 20 _⟩).val
  length_sha1 data := ((r.sha1.lookup data).getD _).property
  des key := BlockCipher.ofRecord 8 ((r.des.lookup key).getD [])
  tdes key := BlockCipher.ofRecord 8 ((r.tdes.lookup key).getD [])
  aes key := BlockCipher.ofRecord 16 ((r.aes.lookup key).getD [])
  cmac key data :=
    ((r.cmac.lookup (key, data)).getD ⟨toBE 16 (ofBE (key ++ data)), length_toBE 16 _⟩).val
  length_cmac key data := ((r.cmac.lookup (key, data)).getD _).property

end Primitives

end Dmrtd
