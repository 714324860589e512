import Mathlib.Tactic.Ring
import Mathlib.Data.List.Induction
import Mathlib.Data.Nat.Size

/-!
# Octet strings

Byte strings as lists of `UInt8`, with the two conversions every wire format leans on: the
number a big-endian string denotes (`ofBE`) and the big-endian string of a given width (`toBE`).
They are inverse to each other as far as the width allows, which is all the formats above them
ever need to know.
-/

namespace Octets

/-- A byte string. -/
abbrev Bytes := List UInt8

/-- A byte string of a fixed length. -/
abbrev FixedBytes (n : Nat) := {bs : Bytes // bs.length = n}

/-- The number a big-endian byte string denotes. -/
def ofBE (bs : Bytes) : Nat := bs.foldl (fun n b => n * 256 + b.toNat) 0

/-- The low `w` bytes of `n`, most significant first. -/
def toBE : Nat → Nat → Bytes
  | 0, _ => []
  | w + 1, n => toBE w (n / 256) ++ [UInt8.ofNat n]

@[simp] lemma toBE_zero (n : Nat) : toBE 0 n = [] := rfl

@[simp] lemma toBE_succ (w n : Nat) : toBE (w + 1) n = toBE w (n / 256) ++ [UInt8.ofNat n] := rfl

@[simp] lemma length_toBE (w n : Nat) : (toBE w n).length = w := by
  induction w generalizing n with
  | zero => rfl
  | succ w ih => simp [ih]

@[simp] lemma ofBE_nil : ofBE [] = 0 := rfl

lemma ofBE_append_singleton (bs : Bytes) (b : UInt8) :
    ofBE (bs ++ [b]) = ofBE bs * 256 + b.toNat := by
  simp [ofBE]

@[simp] lemma ofBE_singleton (b : UInt8) : ofBE [b] = b.toNat := by
  simp [ofBE]

/-- Folding from an accumulator shifts the accumulator past the string. -/
lemma foldl_eq_ofBE (acc : Nat) (bs : Bytes) :
    bs.foldl (fun n b => n * 256 + b.toNat) acc = acc * 256 ^ bs.length + ofBE bs := by
  induction bs using List.reverseRecOn with
  | nil => simp
  | append_singleton bs b ih =>
    rw [List.foldl_append, ih, ofBE_append_singleton]
    simp only [List.foldl_cons, List.foldl_nil, List.length_append, List.length_singleton, pow_succ]
    ring

lemma ofBE_cons (b : UInt8) (bs : Bytes) :
    ofBE (b :: bs) = b.toNat * 256 ^ bs.length + ofBE bs := by
  have h := foldl_eq_ofBE b.toNat bs
  simpa [ofBE] using h

lemma ofBE_append (xs ys : Bytes) : ofBE (xs ++ ys) = ofBE xs * 256 ^ ys.length + ofBE ys := by
  rw [ofBE, List.foldl_append, foldl_eq_ofBE]
  rfl

lemma ofBE_lt (bs : Bytes) : ofBE bs < 256 ^ bs.length := by
  induction bs using List.reverseRecOn with
  | nil => simp
  | append_singleton bs b ih =>
    have hb := b.toNat_lt
    rw [ofBE_append_singleton, List.length_append, List.length_singleton, pow_succ]
    omega

lemma ofBE_zero_cons (bs : Bytes) : ofBE (0 :: bs) = ofBE bs := by
  rw [ofBE_cons, UInt8.toNat_zero, Nat.zero_mul, Nat.zero_add]

lemma toNat_pos {b : UInt8} (hb : b ≠ 0) : 0 < b.toNat :=
  Nat.pos_of_ne_zero fun h => hb (UInt8.toNat_inj.mp h)

lemma ofNat_ne_zero {n : Nat} (h : n % 256 ≠ 0) : UInt8.ofNat n ≠ 0 := by
  intro hzero
  have hvalue := congrArg UInt8.toNat hzero
  rw [UInt8.toNat_ofNat'] at hvalue
  exact h hvalue

/-- A leading byte that is not zero counts. -/
lemma pow_le_ofBE {b : UInt8} (hb : b ≠ 0) (bs : Bytes) :
    256 ^ bs.length ≤ ofBE (b :: bs) := by
  rw [ofBE_cons]
  exact (Nat.le_mul_of_pos_left _ (toNat_pos hb)).trans (Nat.le_add_right _ _)

lemma ofBE_pos {b : UInt8} (hb : b ≠ 0) (bs : Bytes) : 0 < ofBE (b :: bs) :=
  lt_of_lt_of_le (Nat.pow_pos (by decide)) (pow_le_ofBE hb bs)

@[simp] lemma ofBE_replicate_zero (k : Nat) : ofBE (List.replicate k 0) = 0 := by
  induction k with
  | zero => rfl
  | succ k ih => simp [List.replicate_succ, ofBE_cons, ih]

/-- Writing a number out at width `w` and reading it back keeps it modulo `256 ^ w`. -/
@[simp] lemma ofBE_toBE (w n : Nat) : ofBE (toBE w n) = n % 256 ^ w := by
  induction w generalizing n with
  | zero => simp [Nat.mod_one]
  | succ w ih =>
    have hmod : n % 256 ^ (w + 1) = n % 256 + 256 * (n / 256 % 256 ^ w) := by
      rw [pow_succ', Nat.mod_mul]
    rw [toBE_succ, ofBE_append_singleton, ih, UInt8.toNat_ofNat', hmod]
    omega

/-- Reading a byte string and writing it out at its own width gives the string back. -/
@[simp] lemma toBE_ofBE (bs : Bytes) : toBE bs.length (ofBE bs) = bs := by
  induction bs using List.reverseRecOn with
  | nil => rfl
  | append_singleton bs b ih =>
    have hb := b.toNat_lt
    have hdiv : (ofBE bs * 256 + b.toNat) / 256 = ofBE bs := by omega
    have hmod : UInt8.ofNat (ofBE bs * 256 + b.toNat) = b := by
      apply UInt8.toNat_inj.mp
      rw [UInt8.toNat_ofNat']
      omega
    rw [List.length_append, List.length_singleton, toBE_succ, ofBE_append_singleton, hdiv, ih, hmod]

/-- Two byte strings of one length denoting the same number are the same string. -/
lemma ofBE_inj {xs ys : Bytes} (hlen : xs.length = ys.length) (h : ofBE xs = ofBE ys) :
    xs = ys := by
  rw [← toBE_ofBE xs, ← toBE_ofBE ys, hlen, h]

/-- Width-`w` writing is injective below `256 ^ w`. -/
lemma toBE_inj {w m n : Nat} (hm : m < 256 ^ w) (hn : n < 256 ^ w) (h : toBE w m = toBE w n) :
    m = n := by
  have h' := congrArg ofBE h
  rwa [ofBE_toBE, ofBE_toBE, Nat.mod_eq_of_lt hm, Nat.mod_eq_of_lt hn] at h'

lemma toBE_one (n : Nat) : toBE 1 n = [UInt8.ofNat n] := rfl

lemma toBE_two (n : Nat) : toBE 2 n = [UInt8.ofNat (n / 256), UInt8.ofNat n] := rfl

/-- The byte at position `i` of a width-`w` big-endian number. -/
lemma toBE_eq_map (w n : Nat) :
    toBE w n = (List.range w).map (fun i => UInt8.ofNat (n >>> (8 * (w - i - 1)))) := by
  induction w generalizing n with
  | zero => rfl
  | succ w ih =>
    rw [toBE_succ, ih, List.range_succ, List.map_append]
    congr 1
    · apply List.map_congr_left
      intro i hi
      have hi' : i < w := List.mem_range.mp hi
      have hexp : w + 1 - i - 1 = (w - i - 1) + 1 := by omega
      rw [hexp, Nat.mul_add, Nat.mul_one, Nat.add_comm, Nat.shiftRight_add,
        Nat.shiftRight_eq_div_pow n 8]
    · simp

/-- A property of all bytes may be checked value by value. -/
lemma forall_byte {P : UInt8 → Prop} (h : ∀ k : Fin 256, P (UInt8.ofNat k.val)) (b : UInt8) : P b := by
  have hb := h ⟨b.toNat, b.toNat_lt⟩
  rwa [UInt8.ofNat_toNat] at hb

/-! ## Splitting -/

lemma take_append_drop_of_le {α : Type} {xs : List α} {m n : Nat} (h : m ≤ n) :
    xs.take n = xs.take m ++ (xs.drop m).take (n - m) := by
  rw [← List.take_append_drop m (xs.take n), List.take_take, List.drop_take, Nat.min_eq_left h]

lemma take_append_drop_of_add {α : Type} {xs : List α} {m n : Nat} :
    xs.take (m + n) = xs.take m ++ (xs.drop m).take n := by
  rw [take_append_drop_of_le (Nat.le_add_right m n), Nat.add_sub_cancel_left]

/-- A string that starts with `xs` reads the same `xs.length` bytes. -/
lemma take_append_of_length {α : Type} {xs ys : List α} {n : Nat} (h : xs.length = n) :
    (xs ++ ys).take n = xs := by
  rw [← h, List.take_left']
  rfl

lemma drop_append_of_length {α : Type} {xs ys : List α} {n : Nat} (h : xs.length = n) :
    (xs ++ ys).drop n = ys := by
  rw [← h, List.drop_left']
  rfl

end Octets
