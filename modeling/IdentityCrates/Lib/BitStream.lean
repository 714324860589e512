import Mathlib.Data.Nat.Bits
import Mathlib.Tactic.Ring
import IdentityCrates.Lib.Octets
import IdentityCrates.Lib.Slice

/-!
# Bit streams, least significant bit first

A number of a given width as the list of its bits (`bitsLSB`) and a list of bits as the number it
denotes (`ofBits`).  A stream is a list of bits; it is read as whole bytes with fewer than eight
bits left over (`wholeBytes`, `leftover`), or as groups of a given width with the last group filled
up with zeros (`groups`).
-/

namespace BitStream

open Octets Rust

/-- The low `w` bits of `n`, least significant first. -/
def bitsLSB : Nat → Nat → List Bool
  | 0, _ => []
  | w + 1, n => n.testBit 0 :: bitsLSB w (n / 2)

/-- The number a list of bits denotes, least significant first. -/
def ofBits : List Bool → Nat
  | [] => 0
  | b :: bs => b.toNat + 2 * ofBits bs

@[simp] lemma length_bitsLSB (w n : Nat) : (bitsLSB w n).length = w := by
  induction w generalizing n with
  | zero => rfl
  | succ w ih => rw [bitsLSB, List.length_cons, ih]

lemma ofBits_lt (bs : List Bool) : ofBits bs < 2 ^ bs.length := by
  induction bs with
  | nil => simp [ofBits]
  | cons b bs ih =>
    have hb : b.toNat ≤ 1 := Bool.toNat_le b
    rw [ofBits, List.length_cons, Nat.pow_succ]
    omega

/-- A list of bits is the low bits of its number, with zeros above. -/
lemma bitsLSB_ofBits (bs : List Bool) (k : Nat) :
    bitsLSB (bs.length + k) (ofBits bs) = bs ++ List.replicate k false := by
  induction bs with
  | nil =>
    rw [List.length_nil, Nat.zero_add, List.nil_append, ofBits]
    induction k with
    | zero => rfl
    | succ k ih => rw [bitsLSB, Nat.zero_div, ih, List.replicate_succ]; rfl
  | cons b bs ih =>
    have hbit : (ofBits (b :: bs)).testBit 0 = b := by
      rw [ofBits, Nat.testBit_zero]
      cases b <;> simp
    have hrest : ofBits (b :: bs) / 2 = ofBits bs := by
      rw [ofBits]
      cases b
      · simp
      · simp
        omega
    have hlen : (b :: bs).length + k = bs.length + k + 1 := by
      rw [List.length_cons]
      omega
    rw [hlen, bitsLSB, hbit, hrest, ih, List.cons_append]

lemma ofBits_bitsLSB (w n : Nat) : ofBits (bitsLSB w n) = n % 2 ^ w := by
  induction w generalizing n with
  | zero => rw [Nat.pow_zero, Nat.mod_one]; rfl
  | succ w ih =>
    rw [bitsLSB, ofBits, ih, Nat.pow_succ, Nat.mul_comm (2 ^ w) 2, Nat.mod_mul, Nat.testBit_zero]
    have hbit : (decide (n % 2 = 1)).toNat = n % 2 := by
      rcases Nat.mod_two_eq_zero_or_one n with h | h
      · rw [h]; rfl
      · rw [h]; rfl
    rw [hbit]

/-- The bits of a number, low part first. -/
lemma bitsLSB_add (m k n : Nat) : bitsLSB (m + k) n = bitsLSB m n ++ bitsLSB k (n / 2 ^ m) := by
  induction m generalizing n with
  | zero => rw [Nat.zero_add, Nat.pow_zero, Nat.div_one]; rfl
  | succ m ih =>
    rw [Nat.succ_add, bitsLSB, ih, bitsLSB, List.cons_append, Nat.div_div_eq_div_mul, Nat.pow_succ,
      Nat.mul_comm 2]

/-- Bits above the width do not show. -/
lemma bitsLSB_mod {w k : Nat} (h : w ≤ k) (n : Nat) : bitsLSB w (n % 2 ^ k) = bitsLSB w n := by
  induction w generalizing k n with
  | zero => rfl
  | succ w ih =>
    obtain ⟨j, rfl⟩ : ∃ j, k = j + 1 := ⟨k - 1, by omega⟩
    have hbit : (n % 2 ^ (j + 1)).testBit 0 = n.testBit 0 := by
      rw [Nat.testBit_mod_two_pow]
      simp
    have hrest : n % 2 ^ (j + 1) / 2 = n / 2 % 2 ^ j := by
      rw [Nat.pow_succ, Nat.mul_comm, Nat.mod_mul_right_div_self]
    rw [bitsLSB, bitsLSB, hbit, hrest, ih (by omega)]

/-- Two numbers packed next to each other. -/
lemma bitsLSB_add_mul {a m : Nat} (ha : a < 2 ^ m) (k n : Nat) :
    bitsLSB (m + k) (a + 2 ^ m * n) = bitsLSB m a ++ bitsLSB k n := by
  rw [bitsLSB_add]
  congr 1
  · rw [← bitsLSB_mod le_rfl, Nat.add_mul_mod_self_left, bitsLSB_mod le_rfl]
  · rw [Nat.add_mul_div_left _ _ (Nat.two_pow_pos m), Nat.div_eq_of_lt ha, Nat.zero_add]

/-! ## Bytes -/

/-- The eight bits of a byte. -/
def byteBits (b : UInt8) : List Bool := bitsLSB 8 b.toNat

/-- The byte eight bits denote. -/
def byteOf (bs : List Bool) : UInt8 := UInt8.ofNat (ofBits bs)

/-- The stream of a byte string. -/
def bytesBits (bs : Bytes) : List Bool := bs.flatMap byteBits

/-- The whole bytes of a stream. -/
def wholeBytes (s : List Bool) : Bytes := (chunks 8 (s.take (8 * (s.length / 8)))).map byteOf

/-- The fewer than eight bits after the whole bytes of a stream. -/
def leftover (s : List Bool) : List Bool := s.drop (8 * (s.length / 8))

@[simp] lemma length_byteBits (b : UInt8) : (byteBits b).length = 8 := length_bitsLSB 8 _

lemma byteOf_byteBits (b : UInt8) : byteOf (byteBits b) = b := by
  rw [byteOf, byteBits, ofBits_bitsLSB, Nat.mod_eq_of_lt (by exact b.toNat_lt), UInt8.ofNat_toNat]

@[simp] lemma bytesBits_nil : bytesBits [] = [] := rfl

@[simp] lemma bytesBits_cons (b : UInt8) (bs : Bytes) :
    bytesBits (b :: bs) = byteBits b ++ bytesBits bs := rfl

@[simp] lemma bytesBits_append (xs ys : Bytes) :
    bytesBits (xs ++ ys) = bytesBits xs ++ bytesBits ys := List.flatMap_append

@[simp] lemma length_bytesBits (bs : Bytes) : (bytesBits bs).length = 8 * bs.length := by
  induction bs with
  | nil => rfl
  | cons b bs ih =>
    rw [bytesBits_cons, List.length_append, length_byteBits, ih, List.length_cons]
    omega

lemma chunks_bytesBits (bs : Bytes) : chunks 8 (bytesBits bs) = bs.map byteBits := by
  rw [bytesBits, List.flatMap_def]
  refine chunks_flatten (by decide) ?_
  intro xs hxs
  obtain ⟨b, -, rfl⟩ := List.mem_map.mp hxs
  exact length_byteBits b

section Reading

variable {bs : Bytes} {rest : List Bool}

/-- A stream that is bytes and then fewer than eight bits holds just these whole bytes. -/
lemma wholeBytes_bytesBits_append (h : rest.length < 8) : wholeBytes (bytesBits bs ++ rest) = bs := by
  have hcount : (bytesBits bs ++ rest).length / 8 = bs.length := by
    rw [List.length_append, length_bytesBits]
    omega
  rw [wholeBytes, hcount, List.take_left' (length_bytesBits bs), chunks_bytesBits, List.map_map]
  have hid : byteOf ∘ byteBits = id := funext byteOf_byteBits
  rw [hid, List.map_id]

/-- And leaves over just these bits. -/
lemma leftover_bytesBits_append (h : rest.length < 8) : leftover (bytesBits bs ++ rest) = rest := by
  have hcount : (bytesBits bs ++ rest).length / 8 = bs.length := by
    rw [List.length_append, length_bytesBits]
    omega
  rw [leftover, hcount, List.drop_left' (length_bytesBits bs)]

end Reading

lemma byteBits_zero : byteBits 0 = List.replicate 8 false := by decide

/-- A run of zeros is zero bytes and fewer than eight zeros. -/
lemma replicate_false (k : Nat) :
    List.replicate k false =
      bytesBits (List.replicate (k / 8) 0) ++ List.replicate (k % 8) false := by
  have hbytes : ∀ n, bytesBits (List.replicate n 0) = List.replicate (8 * n) false := by
    intro n
    induction n with
    | zero => rfl
    | succ n ih =>
      rw [List.replicate_succ, bytesBits_cons, ih, byteBits_zero, ← List.replicate_add]
      congr 1
      omega
  rw [hbytes, ← List.replicate_add, Nat.div_add_mod]

/-! ## Groups -/

/-- The stream in groups of `w` bits, each as a number, the last one filled up with zeros. -/
def groups (w : Nat) (s : List Bool) : List Nat := (chunks w s).map ofBits

lemma lt_of_mem_groups {w : Nat} {s : List Bool} {g : Nat} (h : g ∈ groups w s) : g < 2 ^ w := by
  obtain ⟨bits, hbits, rfl⟩ := List.mem_map.mp h
  have hlen : bits.length ≤ w := by
    obtain ⟨i, -, rfl⟩ := List.mem_map.mp hbits
    exact List.length_take_le _ _
  exact lt_of_lt_of_le (ofBits_lt bits) (Nat.pow_le_pow_right (by decide) hlen)

/-- Written out again the groups give the stream, and fewer than `w` zeros to fill the last one. -/
lemma flatMap_groups {w : Nat} (hw : 0 < w) (s : List Bool) :
    ∃ k < w, (groups w s).flatMap (bitsLSB w) = s ++ List.replicate k false := by
  induction s using chunks_induction hw with
  | nil =>
    refine ⟨0, hw, ?_⟩
    rw [groups, chunks_nil]
    rfl
  | last xs hne hlen =>
    have hpos : 0 < xs.length := List.length_pos_iff.mpr hne
    refine ⟨w - xs.length, by omega, ?_⟩
    rw [groups, chunks_of_length_le hne (Nat.le_of_lt hlen), List.map_singleton,
      List.flatMap_singleton, ← bitsLSB_ofBits, Nat.add_sub_cancel' (Nat.le_of_lt hlen)]
  | append xs ys hlen ih =>
    obtain ⟨k, hk, hys⟩ := ih
    refine ⟨k, hk, ?_⟩
    have hxs : bitsLSB w (ofBits xs) = xs := by
      have hbits := bitsLSB_ofBits xs 0
      rwa [Nat.add_zero, hlen, List.replicate_zero, List.append_nil] at hbits
    rw [groups, chunks_append hw hlen, List.map_cons, List.flatMap_cons, hxs, ← groups, hys,
      List.append_assoc]

end BitStream
