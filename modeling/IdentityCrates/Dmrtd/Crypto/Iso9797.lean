import Mathlib.Tactic.Common
import IdentityCrates.Lib.Outcome
import IdentityCrates.Dmrtd.Crypto.Primitives

/-!
# ISO/IEC 9797-1 padding method 2 and MAC algorithm 3

`pad` and `unpad` of `iso9797.rs`: a `0x80` marker followed by zeros up to the next block
boundary, and its inverse, which refuses anything that `pad` could not have produced at that block
size.  `macAlg3` is the retail MAC built on single DES.
-/

namespace Dmrtd

open Rust Octets

/-- `Iso9797Error`. -/
inductive Iso9797Error where
  | invalidKeyLength (n : Nat)
  | invalidDataLength (n : Nat)
  | invalidBlockSize
  | unpadFailed
  deriving DecidableEq, Repr

/-- The `Display` text of an `Iso9797Error`. -/
def Iso9797Error.text : Iso9797Error → String
  | .invalidKeyLength n => s!"ISO9797 key length must be 16 or 24 bytes, got {n}"
  | .invalidDataLength n => s!"ISO9797 data length must be a multiple of 8 bytes, got {n}"
  | .invalidBlockSize => "ISO9797 block size must be greater than zero"
  | .unpadFailed => "ISO9797 unpad failed: malformed Padding Method 2 (no 0x80 marker)"

namespace Iso9797

/-- `pad`. -/
def pad (data : Bytes) (blockSize : Nat) : Outcome Iso9797Error Bytes :=
  if blockSize = 0 then .err .invalidBlockSize
  else
    let padLen := blockSize - data.length % blockSize
    .ok (data ++ [0x80] ++ List.replicate (padLen - 1) 0x00)

/-- The loop of `unpad`: step `i` back over the trailing zero bytes. -/
def skipZeros (data : Bytes) : Nat → Nat
  | 0 => 0
  | i + 1 => if data[i]? = some 0x00 then skipZeros data i else i + 1

/-- `unpad`.  A `blockSize` of zero skips the block checks. -/
def unpad (data : Bytes) (blockSize : Nat) : Outcome Iso9797Error Bytes :=
  if blockSize ≠ 0 ∧ (data.isEmpty ∨ data.length % blockSize ≠ 0) then .err .unpadFailed
  else
    let i := skipZeros data data.length
    if i = 0 ∨ data[i - 1]? ≠ some 0x80 then .err .unpadFailed
    else
      let padLen := data.length - (i - 1)
      if blockSize ≠ 0 ∧ padLen > blockSize then .err .unpadFailed
      else .ok (data.take (i - 1))

/-- `mac_alg3`: chain `msg` under the first key, then decrypt and encrypt the last block under the
second and the third. -/
def macAlg3 (P : Primitives) (key msg : Bytes) (padMsg : Bool) : Outcome Iso9797Error Bytes := do
  if key.length ≠ 16 ∧ key.length ≠ 24 then .err (.invalidKeyLength key.length)
  else do
    let ka := key.take 8
    let kb := (key.drop 8).take 8
    let kc := if key.length = 16 then ka else (key.drop 16).take 8
    let data ← if padMsg then pad msg 8 else .ok msg
    if data.length % 8 ≠ 0 then .err (.invalidDataLength data.length)
    else if data.isEmpty then .err (.invalidDataLength 0)
    else
      let chained := (P.des ka).cbcEncrypt (List.replicate 8 0) data
      let last := chained.drop (chained.length - 8)
      .ok ((P.des kc).encrypt ((P.des kb).decrypt last))

/-! ## Padding -/

lemma pad_eq_ok {data p : Bytes} {blockSize : Nat} (hb : 0 < blockSize) :
    pad data blockSize = .ok p ↔
      p = data ++ [0x80] ++ List.replicate (blockSize - data.length % blockSize - 1) 0x00 := by
  simp only [pad, if_neg (by omega : ¬ blockSize = 0), Outcome.ok.injEq]
  exact eq_comm

lemma pad_isOk (data : Bytes) {blockSize : Nat} (hb : 0 < blockSize) :
    ∃ p, pad data blockSize = .ok p := ⟨_, (pad_eq_ok hb).mpr rfl⟩

lemma length_pad_eq {data p : Bytes} {blockSize : Nat} (hb : 0 < blockSize)
    (h : pad data blockSize = .ok p) :
    p.length = data.length + (blockSize - data.length % blockSize) := by
  obtain rfl := (pad_eq_ok hb).mp h
  have hmod := Nat.mod_lt data.length hb
  simp only [List.length_append, List.length_singleton, List.length_replicate]
  omega

/-- Padding ends on a block boundary, and adds between one byte and one block. -/
lemma length_pad {data p : Bytes} {blockSize : Nat} (hb : 0 < blockSize)
    (h : pad data blockSize = .ok p) :
    p.length % blockSize = 0 ∧ data.length < p.length ∧ p.length ≤ data.length + blockSize := by
  have hmod := Nat.mod_lt data.length hb
  have hdiv := Nat.div_add_mod data.length blockSize
  rw [length_pad_eq hb h]
  refine ⟨?_, by omega, by omega⟩
  have htotal : data.length + (blockSize - data.length % blockSize) =
      blockSize * (data.length / blockSize + 1) := by
    rw [Nat.mul_add, Nat.mul_one]
    omega
  rw [htotal, Nat.mul_mod_right]

/-- Padding only appends. -/
lemma pad_prefix {data p : Bytes} {blockSize : Nat} (h : pad data blockSize = .ok p) :
    data <+: p := by
  by_cases hb : blockSize = 0
  · simp [pad, hb] at h
  · obtain rfl := (pad_eq_ok (by omega)).mp h
    rw [List.append_assoc]
    exact List.prefix_append _ _

/-! ## Unpadding -/

lemma skipZeros_replicate (xs : Bytes) (k : Nat) :
    skipZeros (xs ++ [0x80] ++ List.replicate k 0x00) (xs.length + 1 + k) = xs.length + 1 := by
  -- `j` zeros are left to step over
  have hstep : ∀ j ≤ k, skipZeros (xs ++ [0x80] ++ List.replicate k 0x00) (xs.length + 1 + j) =
      xs.length + 1 := by
    intro j
    induction j with
    | zero =>
      intro _
      have hmark : (xs ++ [0x80] ++ List.replicate k (0x00 : UInt8))[xs.length]? = some 0x80 := by
        rw [List.append_assoc, List.getElem?_append_right le_rfl]
        simp
      rw [Nat.add_zero, skipZeros, hmark, if_neg (by decide)]
    | succ j ih =>
      intro hj
      have hzero : (xs ++ [0x80] ++ List.replicate k (0x00 : UInt8))[xs.length + 1 + j]? =
          some 0x00 := by
        rw [List.getElem?_append_right (by simp), List.getElem?_replicate]
        simp only [List.length_append, List.length_singleton]
        rw [if_pos (by omega)]
      rw [← Nat.add_assoc, skipZeros, hzero, if_pos rfl]
      exact ih (by omega)
  exact hstep k le_rfl

/-- `unpad` undoes `pad` at the same block size. -/
theorem unpad_pad {data p : Bytes} {blockSize : Nat} (hb : 0 < blockSize)
    (h : pad data blockSize = .ok p) : unpad p blockSize = .ok data := by
  obtain ⟨hmod, hlt, hle⟩ := length_pad hb h
  obtain rfl := (pad_eq_ok hb).mp h
  set k := blockSize - data.length % blockSize - 1 with hk
  have hlen : (data ++ [0x80] ++ List.replicate k (0x00 : UInt8)).length = data.length + 1 + k := by
    simp only [List.length_append, List.length_singleton, List.length_replicate]
  have hmark : (data ++ [0x80] ++ List.replicate k (0x00 : UInt8))[data.length]? = some 0x80 := by
    rw [List.append_assoc, List.getElem?_append_right le_rfl]
    simp
  have htake : (data ++ [0x80] ++ List.replicate k (0x00 : UInt8)).take data.length = data := by
    rw [List.append_assoc]
    exact List.take_left' rfl
  have haligned : ¬ (blockSize ≠ 0 ∧
      ((data ++ [0x80] ++ List.replicate k (0x00 : UInt8)).isEmpty ∨
        (data ++ [0x80] ++ List.replicate k (0x00 : UInt8)).length % blockSize ≠ 0)) := by
    rintro ⟨-, hemp | hne⟩
    · simp at hemp
    · exact hne hmod
  rw [unpad, if_neg haligned]
  simp only [hlen, skipZeros_replicate, Nat.add_sub_cancel, hmark, htake]
  rw [if_neg (by simp), if_neg (by omega)]

/-! ## MAC algorithm 3 -/

variable (P : Primitives)

/-- A message to be padded is authenticated as its padded form. -/
lemma macAlg3_padded {key msg p : Bytes} (hp : pad msg 8 = .ok p) :
    macAlg3 P key msg true = macAlg3 P key p false := by
  simp [macAlg3, hp]

/-- The MAC of a non-empty string of whole blocks is one block, under any key of admitted length. -/
lemma macAlg3_isOk {key msg : Bytes} (hkey : key.length = 16 ∨ key.length = 24) (hne : msg ≠ [])
    (hmod : msg.length % 8 = 0) : ∃ mac, macAlg3 P key msg false = .ok mac ∧ mac.length = 8 := by
  set chained := (P.des (key.take 8)).cbcEncrypt (List.replicate 8 0) msg with hchained
  have hlen : chained.length = msg.length :=
    (P.des (key.take 8)).length_cbcEncrypt List.length_replicate hmod
  have hlast : (chained.drop (chained.length - 8)).length = 8 := by
    have hpos : 0 < msg.length := List.length_pos_iff.mpr hne
    rw [List.length_drop, hlen]
    omega
  refine ⟨(P.des (if key.length = 16 then key.take 8 else (key.drop 16).take 8)).encrypt
    ((P.des ((key.drop 8).take 8)).decrypt (chained.drop (chained.length - 8))), ?_, ?_⟩
  · rw [macAlg3, if_neg (by omega)]
    simp [hmod, hne, hchained]
  · exact (P.des _).length_encrypt _ ((P.des _).length_decrypt _ hlast)

/-- Padding makes any message fit for the MAC. -/
lemma macAlg3_padded_isOk {key : Bytes} (hkey : key.length = 16 ∨ key.length = 24) (msg : Bytes) :
    ∃ mac, macAlg3 P key msg true = .ok mac ∧ mac.length = 8 := by
  obtain ⟨p, hp⟩ := pad_isOk msg (show 0 < 8 by decide)
  obtain ⟨hmod, hlt, -⟩ := length_pad (by decide) hp
  rw [macAlg3_padded P hp]
  exact macAlg3_isOk P hkey (List.ne_nil_of_length_pos (by omega)) hmod

end Iso9797

end Dmrtd
