import Mathlib.Data.Int.ModEq
import IdentityCrates.Lib.Outcome
import IdentityCrates.Dmrtd.Utils

/-!
# Send sequence counter

`ssc.rs`.  The source keeps the fields of `Ssc` private so that no caller can break what the
constructor checked: the width is a multiple of eight, at most 128, and the value fits it.  Here
those facts are fields, so every function that returns an `Ssc` proves them.
-/

namespace Dmrtd

open Rust Octets

/-- `SscError`. -/
inductive SscError where
  | bitSizeNotMultipleOf8 (bitSize : Nat)
  | bitSizeTooLarge (bitSize : Nat)
  | valueTooLarge (valueBits bitSize : Nat)
  deriving DecidableEq, Repr

/-- The `Display` text of an `SscError`. -/
def SscError.text : SscError → String
  | .bitSizeNotMultipleOf8 n => s!"bit_size ({n}) must be a multiple of 8"
  | .bitSizeTooLarge n => s!"bit_size ({n}) exceeds the maximum supported width of 128 bits"
  | .valueTooLarge v n =>
    s!"initial SSC value ({v} bits) exceeds the declared bit_size ({n} bits)"

/-- `Ssc`: a counter of `bitSize` bits. -/
@[ext] structure Ssc where
  value : Nat
  bitSize : Nat
  bitSize_mod : bitSize % 8 = 0
  bitSize_le : bitSize ≤ 128
  value_lt : value < 2 ^ bitSize
  deriving DecidableEq

namespace Ssc

/-- The loop of `Ssc::new`: fold the bytes into a `u128`, refusing to shift bits out of it. -/
def foldValue (bitSize : Nat) : Nat → Bytes → Outcome SscError Nat
  | value, [] => .ok value
  | value, b :: bs =>
    if value > (2 ^ 128 - 1) >>> 8 then .err (.valueTooLarge 129 bitSize)
    else foldValue bitSize (value <<< 8 ||| b.toNat) bs

/-- `Ssc::new`. -/
def new (ssc : Bytes) (bitSize : Nat) : Outcome SscError Ssc :=
  if hmod : bitSize % 8 ≠ 0 then .err (.bitSizeNotMultipleOf8 bitSize)
  else if hle : bitSize > 128 then .err (.bitSizeTooLarge bitSize)
  else foldValue bitSize 0 ssc >>= fun value =>
    if hbits : bitCount value > bitSize then .err (.valueTooLarge (bitCount value) bitSize)
    else .ok ⟨value, bitSize, by omega, by omega,
      (bitCount_le_iff value bitSize).mp (Nat.le_of_not_gt hbits)⟩

/-- `Ssc::zeroed`.  Panics on a width the constructor would refuse. -/
def zeroed {ε : Type} (bitSize : Nat) : Outcome ε Ssc :=
  if bitSize % 8 ≠ 0 then .panic
  else if bitSize > 128 then .panic
  else (new (List.replicate (bitSize / 8) 0) bitSize).expect

/-- The value `increment` stores: a wrapping `u128` addition, masked to narrower widths. -/
def nextValue (value bitSize : Nat) : Nat :=
  let value := (value + 1) % 2 ^ 128
  if bitSize < 128 then value &&& (2 ^ bitSize - 1) else value

lemma nextValue_eq {value bitSize : Nat} (hle : bitSize ≤ 128) :
    nextValue value bitSize = (value + 1) % 2 ^ bitSize := by
  unfold nextValue
  by_cases h : bitSize < 128
  · simp only [if_pos h, Nat.and_two_pow_sub_one_eq_mod]
    exact Nat.mod_mod_of_dvd _ (Nat.pow_dvd_pow 2 hle)
  · obtain rfl : bitSize = 128 := by omega
    simp

/-- `Ssc::increment`. -/
def increment (s : Ssc) : Ssc where
  value := nextValue s.value s.bitSize
  bitSize := s.bitSize
  bitSize_mod := s.bitSize_mod
  bitSize_le := s.bitSize_le
  value_lt := by
    rw [nextValue_eq s.bitSize_le]
    exact Nat.mod_lt _ (Nat.two_pow_pos _)

/-- `Ssc::to_bytes`: the low `bitSize / 8` bytes of the 16-byte big-endian value. -/
def toBytes (s : Ssc) : Bytes := (toBE 16 s.value).drop (16 - s.bitSize / 8)

/-! ## Counting -/

@[simp] lemma increment_bitSize (s : Ssc) : s.increment.bitSize = s.bitSize := rfl

lemma increment_value (s : Ssc) : s.increment.value = (s.value + 1) % 2 ^ s.bitSize :=
  nextValue_eq s.bitSize_le

@[simp] lemma iterate_increment_bitSize (n : Nat) (s : Ssc) :
    (increment^[n] s).bitSize = s.bitSize := by
  induction n generalizing s with
  | zero => rfl
  | succ n ih => rw [Function.iterate_succ_apply, ih, increment_bitSize]

/-- `n` increments add `n`, modulo the width. -/
lemma iterate_increment_value (n : Nat) (s : Ssc) :
    (increment^[n] s).value = (s.value + n) % 2 ^ s.bitSize := by
  induction n with
  | zero => rw [Function.iterate_zero_apply, Nat.add_zero, Nat.mod_eq_of_lt s.value_lt]
  | succ n ih =>
    rw [Function.iterate_succ_apply', increment_value, ih, iterate_increment_bitSize,
      Nat.mod_add_mod, Nat.add_assoc]

/-- Fewer than `2 ^ bitSize` increments never return to a value already used. -/
lemma iterate_increment_ne {m n : Nat} (s : Ssc) (hmn : m < n) (hn : n < m + 2 ^ s.bitSize) :
    increment^[m] s ≠ increment^[n] s := by
  intro h
  have hval := congrArg Ssc.value h
  rw [iterate_increment_value, iterate_increment_value] at hval
  have hdvd : 2 ^ s.bitSize ∣ (s.value + n) - (s.value + m) :=
    (Nat.modEq_iff_dvd' (by omega)).mp hval
  have hle := Nat.le_of_dvd (by omega) hdvd
  omega

/-! ## Bytes -/

lemma bitSize_div_le (s : Ssc) : s.bitSize / 8 ≤ 16 := by
  have := s.bitSize_le
  omega

@[simp] lemma length_toBytes (s : Ssc) : s.toBytes.length = s.bitSize / 8 := by
  have := s.bitSize_div_le
  rw [toBytes, List.length_drop, length_toBE]
  omega

lemma pow_bitSize_div (s : Ssc) : (256 : Nat) ^ (s.bitSize / 8) = 2 ^ s.bitSize := by
  have hmod := s.bitSize_mod
  have h : s.bitSize = 8 * (s.bitSize / 8) := by omega
  conv_rhs => rw [h, Nat.pow_mul]

lemma drop_toBE {w k n : Nat} (hk : k ≤ w) : (toBE w n).drop (w - k) = toBE k n := by
  induction k generalizing w n with
  | zero => simp
  | succ k ih =>
    obtain ⟨w, rfl⟩ : ∃ v, w = v + 1 := ⟨w - 1, by omega⟩
    rw [toBE_succ, toBE_succ, Nat.add_sub_add_right,
      List.drop_append_of_le_length (by rw [length_toBE]; omega), ih (by omega)]

lemma toBytes_eq_toBE (s : Ssc) : s.toBytes = toBE (s.bitSize / 8) s.value :=
  drop_toBE s.bitSize_div_le

/-- The bytes determine a counter of known width. -/
lemma toBytes_inj {s t : Ssc} (hb : s.bitSize = t.bitSize) (h : s.toBytes = t.toBytes) : s = t := by
  rw [toBytes_eq_toBE, toBytes_eq_toBE, ← hb] at h
  refine Ssc.ext (toBE_inj ?_ ?_ h) hb
  · rw [pow_bitSize_div]
    exact s.value_lt
  · rw [hb, pow_bitSize_div]
    exact t.value_lt

lemma shift_or_byte (n : Nat) (b : UInt8) : n <<< 8 ||| b.toNat = n * 256 + b.toNat := by
  rw [← Nat.shiftLeft_add_eq_or_of_lt b.toNat_lt, Nat.shiftLeft_eq]

/-- The folding loop reads a big-endian number as long as it stays below `2 ^ 128`. -/
lemma foldValue_eq {bitSize : Nat} (bs : Bytes) (value : Nat)
    (h : value * 256 ^ bs.length + ofBE bs < 2 ^ 128) :
    foldValue bitSize value bs = .ok (value * 256 ^ bs.length + ofBE bs) := by
  induction bs generalizing value with
  | nil => simp [foldValue]
  | cons b bs ih =>
    rw [ofBE_cons, List.length_cons, pow_succ'] at h
    have heq : value * (256 * 256 ^ bs.length) + (b.toNat * 256 ^ bs.length + ofBE bs) =
        (value * 256 + b.toNat) * 256 ^ bs.length + ofBE bs := by ring
    have hpos : 0 < 256 ^ bs.length := Nat.pow_pos (by decide)
    have hfit : ¬ value > (2 ^ 128 - 1) >>> 8 := by
      have hle : value * 256 * 1 ≤ value * 256 * 256 ^ bs.length := Nat.mul_le_mul_left _ hpos
      have hassoc : value * 256 * 256 ^ bs.length = value * (256 * 256 ^ bs.length) := by ring
      have hshift : ((2 : Nat) ^ 128 - 1) >>> 8 = 2 ^ 120 - 1 := by decide
      rw [hshift]
      omega
    rw [foldValue, if_neg hfit, shift_or_byte, ih _ (by rw [← heq]; exact h), ofBE_cons,
      List.length_cons, pow_succ', heq]

/-- Reading back the bytes of a counter at its own width gives the counter. -/
lemma new_toBytes (s : Ssc) : new s.toBytes s.bitSize = .ok s := by
  have hle := s.bitSize_le
  have hpow : s.value < 2 ^ 128 := s.value_lt.trans_le (Nat.pow_le_pow_right (by decide) hle)
  have hval : ofBE s.toBytes = s.value := by
    rw [toBytes_eq_toBE, ofBE_toBE, pow_bitSize_div, Nat.mod_eq_of_lt s.value_lt]
  have hfold : foldValue s.bitSize 0 s.toBytes = .ok s.value := by
    rw [foldValue_eq s.toBytes 0 (by rw [hval]; omega), hval, Nat.zero_mul, Nat.zero_add]
  have hbits : ¬ bitCount s.value > s.bitSize :=
    Nat.not_lt.mpr ((bitCount_le_iff _ _).mpr s.value_lt)
  have hmod : ¬ s.bitSize % 8 ≠ 0 := fun h => h s.bitSize_mod
  simp only [new, dif_neg hmod, dif_neg (Nat.not_lt.mpr hle), hfold, Outcome.ok_bind,
    dif_neg hbits]

/-- What the folding loop returns, it read correctly. -/
lemma foldValue_eq_ok {bitSize : Nat} (bs : Bytes) {value v : Nat}
    (h : foldValue bitSize value bs = .ok v) : v = value * 256 ^ bs.length + ofBE bs := by
  induction bs generalizing value with
  | nil => simpa [foldValue, eq_comm] using h
  | cons b bs ih =>
    rw [foldValue] at h
    split at h
    · simp at h
    · rw [ih h, shift_or_byte, ofBE_cons, List.length_cons, pow_succ']
      ring

/-- What the constructor returns has the width asked for and the value the bytes denote. -/
lemma new_eq_ok {bs : Bytes} {bitSize : Nat} {s : Ssc} (h : new bs bitSize = .ok s) :
    s.bitSize = bitSize ∧ s.value = ofBE bs := by
  simp only [new] at h
  split at h
  · simp at h
  split at h
  · simp at h
  obtain ⟨v, hfold, hv⟩ := Outcome.bind_eq_ok.mp h
  split at hv
  · simp at hv
  · obtain rfl := Outcome.ok.inj hv
    have hval := foldValue_eq_ok bs hfold
    rw [Nat.zero_mul, Nat.zero_add] at hval
    exact ⟨rfl, hval⟩

/-- Bytes of exactly the width of the counter are accepted. -/
lemma new_isOk {bs : Bytes} {bitSize : Nat} (h : bs.length * 8 = bitSize) (hle : bitSize ≤ 128) :
    ∃ s, new bs bitSize = .ok s := by
  have hdiv : bitSize / 8 = bs.length := by omega
  have hlt : ofBE bs < 2 ^ bitSize := by
    have hpow : (256 : Nat) ^ bs.length = 2 ^ bitSize := by
      rw [show (256 : Nat) = 2 ^ 8 from rfl, ← Nat.pow_mul, Nat.mul_comm, h]
    rw [← hpow]
    exact ofBE_lt bs
  let s : Ssc := ⟨ofBE bs, bitSize, by omega, hle, hlt⟩
  have hbytes : s.toBytes = bs := by
    rw [toBytes_eq_toBE]
    change toBE (bitSize / 8) (ofBE bs) = bs
    rw [hdiv, toBE_ofBE]
  exact ⟨s, hbytes ▸ new_toBytes s⟩

/-- A 64-bit counter at zero. -/
def zero64 : Ssc := ⟨0, 64, rfl, by decide, by decide⟩

end Ssc

end Dmrtd
