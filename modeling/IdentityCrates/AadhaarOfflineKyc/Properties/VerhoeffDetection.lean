import IdentityCrates.AadhaarOfflineKyc.Verhoeff
import IdentityCrates.Lib.CheckDigits
import IdentityCrates.Lib.Text
import Mathlib.GroupTheory.SpecificGroups.Dihedral
import Mathlib.Data.Fintype.Basic

/-!
# What the check digit of an Aadhaar number detects

The table `D` is the multiplication of the dihedral group of the pentagon: the digits 0 to 4 are its
rotations and the others its reflections (`d_eq_mul`).  The loop multiplies, from the last digit to
the first, what the rows of `P` make of the digits (`checksumFrom_eq`), and a number is accepted when
the product is one.

The rows of `P` are permutations, and neighbouring ones do not commute on different digits
(`place_comm`).  So two accepted numbers differ neither in a single digit nor by an exchange of
neighbours (`validateAadhaarSyntax_detects`).
-/

namespace AadhaarOfflineKyc

namespace Verhoeff

open CheckDigits Octets Rust Text

/-! ## The tables -/

/-- The group element of a digit. -/
def element (a : Fin 10) : DihedralGroup 5 :=
  if a.val < 5 then .r a.val else .sr (-a.val)

/-- What the row of a position makes of a digit. -/
def permuted (i : Nat) (a : Fin 10) : Fin 10 :=
  Fin.ofNat 10 ((p.getD (i % 8) []).getD a.val 0).toNat

/-- What a digit at a position puts into the product. -/
def place (i : Nat) (a : Fin 10) : DihedralGroup 5 := element (permuted i a)

lemma element_injective : Function.Injective element := by
  unfold Function.Injective
  decide

/-- `D` multiplies. -/
lemma d_eq_mul (a b : Fin 10) : ∃ c : Fin 10,
    (∃ row, d[a.val]? = some row ∧ row[b.val]? = some (UInt8.ofNat c.val)) ∧
      element c = element a * element b := by
  have hall : ∀ a b : Fin 10, ∃ c : Fin 10,
      (d[a.val]?.bind fun row => row[b.val]?) = some (UInt8.ofNat c.val) ∧
        element c = element a * element b := by decide
  obtain ⟨c, hentry, helement⟩ := hall a b
  exact ⟨c, Option.bind_eq_some_iff.mp hentry, helement⟩

lemma p_eq_permuted (i : Nat) (a : Fin 10) : ∃ row, p[i % 8]? = some row ∧
    row[a.val]? = some (UInt8.ofNat (permuted i a).val) := by
  have hall : ∀ i : Fin 8, ∀ a : Fin 10,
      (p[i.val]?.bind fun row => row[a.val]?) = some (UInt8.ofNat (permuted i.val a).val) := by
    decide
  have hentry := hall ⟨i % 8, Nat.mod_lt i (by decide)⟩ a
  have hpermuted : permuted (i % 8) a = permuted i a := by
    unfold permuted
    rw [Nat.mod_mod]
  rw [hpermuted] at hentry
  exact Option.bind_eq_some_iff.mp hentry

lemma place_mod (i : Nat) : place (i % 8) = place i := by
  unfold place permuted
  rw [Nat.mod_mod]

/-- The rows of `P` are permutations. -/
lemma place_injective (i : Nat) : Function.Injective (place i) := by
  have hall : ∀ i : Fin 8, ∀ a b : Fin 10, permuted i.val a = permuted i.val b → a = b := by
    decide
  intro a b h
  rw [← place_mod] at h
  exact hall ⟨i % 8, Nat.mod_lt i (by decide)⟩ a b (element_injective h)

/-- Neighbouring places do not commute on different digits. -/
lemma place_comm (i : Nat) (a b : Fin 10)
    (h : place i a * place (i + 1) b = place i b * place (i + 1) a) : a = b := by
  have hall : ∀ i : Fin 8, ∀ a b : Fin 10,
      place i.val a * place (i.val + 1) b = place i.val b * place (i.val + 1) a → a = b := by
    decide
  have hnext : place (i + 1) = place (i % 8 + 1) := by
    rw [← place_mod (i + 1), ← place_mod (i % 8 + 1), Nat.mod_add_mod]
  rw [← place_mod i, hnext] at h
  exact hall ⟨i % 8, Nat.mod_lt i (by decide)⟩ a b h

/-! ## The loop -/

/-- The character of a digit. -/
def digit (a : Fin 10) : Char := Nat.digitChar a.val

lemma digit_injective : Function.Injective digit := by
  unfold Function.Injective
  decide

/-- A turn of the loop multiplies. -/
lemma checksumStep_eq (c a : Fin 10) (i : Nat) :
    ∃ c' : Fin 10, checksumStep c.val i (Utf8.asciiByte (digit a)) = .ok c'.val ∧
      element c' = element c * place i a := by
  have hbyte : ∀ a : Fin 10, (Utf8.asciiByte (digit a)).toNat = a.val + 0x30 := by decide
  obtain ⟨permutation, hpermutation, hpermuted⟩ := p_eq_permuted i a
  obtain ⟨c', ⟨row, hrow, hentry⟩, helement⟩ := d_eq_mul c (permuted i a)
  have hsmall : ∀ x : Fin 10, (UInt8.ofNat x.val).toNat = x.val := by decide
  refine ⟨c', ?_, helement⟩
  unfold checksumStep
  rw [hbyte, checkedSub_eq (Nat.le_add_left _ _), Outcome.ok_bind, index_eq hpermutation,
    Outcome.ok_bind, Nat.add_sub_cancel, index_eq hpermuted, Outcome.ok_bind, index_eq hrow,
    Outcome.ok_bind, hsmall, index_eq hentry, Outcome.ok_bind, hsmall]
  rfl

/-- The loop multiplies what stands at its places. -/
lemma checksumFrom_eq (c : Fin 10) (i : Nat) (digits : List (Fin 10)) :
    ∃ c' : Fin 10,
      checksumFrom c.val i (digits.map fun a => Utf8.asciiByte (digit a)) = .ok c'.val ∧
        element c' = element c * product place i digits := by
  induction digits generalizing c i with
  | nil => exact ⟨c, rfl, (mul_one _).symm⟩
  | cons a digits ih =>
    obtain ⟨next, hstep, hnext⟩ := checksumStep_eq c a i
    obtain ⟨c', hrest, hc'⟩ := ih next (i + 1)
    refine ⟨c', ?_, ?_⟩
    · rw [List.map_cons, checksumFrom, hstep, Outcome.ok_bind, hrest]
    · rw [hc', hnext, product, mul_assoc]

/-! ## Accepted numbers -/

/-- A text of digits is spelled by some. -/
lemma exists_digits {s : Str} (h : s.all Char.isDigit = true) :
    ∃ digits : List (Fin 10), s = digits.map digit := by
  induction s with
  | nil => exact ⟨[], rfl⟩
  | cons c s ih =>
    rw [List.all_cons, Bool.and_eq_true] at h
    obtain ⟨a, ha, rfl⟩ := exists_digitChar h.1
    obtain ⟨digits, rfl⟩ := ih h.2
    exact ⟨⟨a, ha⟩ :: digits, rfl⟩

/-- The checksum of a text of digits is zero when their product is one. -/
lemma checksum_of_digits {s : Str} (h : (Utf8.encode s).all Utf8.isAsciiDigit = true) :
    ∃ (digits : List (Fin 10)) (c : Fin 10), s = digits.map digit ∧
      checksumFrom 0 0 (Utf8.encode s).reverse = .ok c.val ∧
      element c = product place 0 digits.reverse := by
  obtain ⟨hbytes, hall⟩ := Utf8.isDigit_of_encode h
  obtain ⟨digits, rfl⟩ := exists_digits hall
  obtain ⟨c, hchecksum, hc⟩ := checksumFrom_eq 0 0 digits.reverse
  refine ⟨digits, c, rfl, ?_, hc.trans (one_mul _)⟩
  rw [hbytes, List.map_map, ← List.map_reverse]
  exact hchecksum

/-- An accepted text is spelled by digits with the product one. -/
lemma product_of_accepted {s : Str} (h : validateAadhaarSyntax s = .ok true) :
    ∃ digits : List (Fin 10), s = digits.map digit ∧ product place 0 digits.reverse = 1 := by
  unfold validateAadhaarSyntax at h
  dsimp only at h
  split at h
  · cases Outcome.ok.inj h
  obtain ⟨first, -, h⟩ := Outcome.bind_eq_ok.mp h
  split at h
  · cases Outcome.ok.inj h
  split at h
  · cases Outcome.ok.inj h
  rename_i hdigits
  obtain ⟨digits, c, hs, hchecksum, hc⟩ := checksum_of_digits (not_not.mp hdigits)
  rw [hchecksum, Outcome.ok_bind] at h
  have hzero : c = 0 := Fin.ext (beq_iff_eq.mp (Outcome.ok.inj h))
  rw [hzero] at hc
  exact ⟨digits, hs, hc.symm⟩

/-- No text makes a lookup leave the tables. -/
theorem validateAadhaarSyntax_ne_panic (s : Str) : validateAadhaarSyntax s ≠ .panic := by
  unfold validateAadhaarSyntax
  dsimp only
  split
  · simp
  rename_i hlength
  have hfirst : 0 < (Utf8.encode s).length := by omega
  rw [index_eq (List.getElem?_eq_getElem hfirst), Outcome.ok_bind]
  split
  · simp
  split
  · simp
  rename_i hdigits
  obtain ⟨digits, c, -, hchecksum, -⟩ := checksum_of_digits (not_not.mp hdigits)
  rw [hchecksum, Outcome.ok_bind]
  simp

/-- **What the check digit detects.**  Two accepted numbers differ neither by one digit in place of
another nor by an exchange of two different neighbours. -/
theorem validateAadhaarSyntax_detects {s t : Str} (hs : validateAadhaarSyntax s = .ok true)
    (ht : validateAadhaarSyntax t = .ok true) : ¬ Substituted s t ∧ ¬ Exchanged s t := by
  obtain ⟨xs, rfl, hxs⟩ := product_of_accepted hs
  obtain ⟨ys, rfl, hys⟩ := product_of_accepted ht
  have heq := hxs.trans hys.symm
  constructor
  · intro hslip
    exact product_ne_of_substituted place_injective (hslip.of_map digit_injective).reverse heq
  · intro hslip
    exact product_ne_of_exchanged place_comm (hslip.of_map digit_injective).reverse heq

/-- Two numbers that are accepted. -/
theorem validateAadhaarSyntax_detects_specimens :
    ¬ Substituted "234123412346".toList "999941057058".toList ∧
      ¬ Exchanged "234123412346".toList "999941057058".toList :=
  validateAadhaarSyntax_detects (by decide +kernel) (by decide +kernel)

end Verhoeff

end AadhaarOfflineKyc
