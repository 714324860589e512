import IdentityCrates.AadhaarOfflineKyc.OfflineEkyc
import Mathlib.Logic.Function.Iterate

/-!
# What a recorded hash binds

The record holds a mobile number and an email address as a hash of the contact and the share phrase,
hashed again until SHA-256 was applied as often as the last digit of the Aadhaar number says.  A
contact is accepted exactly if it has that hash, and then it is the only one, short of a collision
of SHA-256 among the very values that are hashed on the way (`CollidesAlong`).

What is hashed is the contact and the phrase run together.  So the statement is about the two
together: nothing binds the place where the one ends and the other begins.
-/

namespace AadhaarOfflineKyc

open Octets Text

variable (sha256 : Bytes → Bytes)

/-- How often SHA-256 is applied: the last digit of the number, and once where that is 0 or is not
known. -/
def applications (referenceId : Str) : Nat :=
  match referenceId[3]? with
  | some c => if '1' ≤ c ∧ c ≤ '9' then c.toNat - '0'.toNat else 1
  | none => 1

/-- Two values are different after some of `n` rounds, and the next round makes them equal. -/
def CollidesAlong (n : Nat) (x y : Bytes) : Prop :=
  ∃ k < n, sha256^[k] x ≠ sha256^[k] y ∧ sha256 (sha256^[k] x) = sha256 (sha256^[k] y)

/-- What the check of a contact against a recorded hash promises. -/
structure BindsContact (recorded : Option Str) (referenceId : Str) (check : Str → Str → Bool) :
    Prop where
  /-- A contact is accepted exactly if its hash is recorded, in hexadecimal digits of either
  case. -/
  accepts : ∀ contact phrase, check contact phrase = true ↔ ∃ hash, recorded = some hash ∧
    hash.map Char.toLower =
      (sha256^[applications referenceId] (Utf8.encode (contact ++ phrase))).flatMap hexByte
  /-- Beside an accepted contact exactly those are accepted that read the same together with their
  phrase, or collide with it. -/
  binds : ∀ contact phrase contact' phrase', check contact phrase = true →
    (check contact' phrase' = true ↔ contact ++ phrase = contact' ++ phrase' ∨
      CollidesAlong sha256 (applications referenceId) (Utf8.encode (contact ++ phrase))
        (Utf8.encode (contact' ++ phrase')))

/-! ## Digits -/

lemma digitChar_inj {d e : Nat} (hd : d < 16) (he : e < 16) (h : d.digitChar = e.digitChar) :
    d = e := by
  have hall : ∀ d < 16, ∀ e < 16, d.digitChar = e.digitChar → d = e := by decide
  exact hall d hd e he h

lemma toLower_digitChar {d : Nat} (hd : d < 16) : d.digitChar.toLower = d.digitChar := by
  have hall : ∀ d < 16, d.digitChar.toLower = d.digitChar := by decide
  exact hall d hd

lemma hexByte_inj {b c : UInt8} (h : hexByte b = hexByte c) : b = c := by
  obtain ⟨hhigh, hrest⟩ := List.cons.inj h
  obtain ⟨hlow, -⟩ := List.cons.inj hrest
  have hb : b.toNat < 256 := b.toNat_lt
  have hc : c.toNat < 256 := c.toNat_lt
  have hhigh' := digitChar_inj (by omega) (by omega) hhigh
  have hlow' := digitChar_inj (by omega) (by omega) hlow
  exact UInt8.toNat_inj.mp (by omega)

/-- The digits of a hash determine it. -/
lemma flatMap_hexByte_inj {xs ys : Bytes} (h : xs.flatMap hexByte = ys.flatMap hexByte) :
    xs = ys := by
  induction xs generalizing ys with
  | nil =>
    cases ys with
    | nil => rfl
    | cons y ys => cases h
  | cons x xs ih =>
    cases ys with
    | nil => cases h
    | cons y ys =>
      rw [List.flatMap_cons, List.flatMap_cons] at h
      obtain ⟨hfirst, hrest⟩ := List.append_inj h rfl
      rw [hexByte_inj hfirst, ih hrest]

/-- The digits are written in lower case. -/
lemma toLower_flatMap_hexByte (xs : Bytes) :
    (xs.flatMap hexByte).map Char.toLower = xs.flatMap hexByte := by
  induction xs with
  | nil => rfl
  | cons x xs ih =>
    have hx : x.toNat < 256 := x.toNat_lt
    have hbyte : (hexByte x).map Char.toLower = hexByte x := by
      unfold hexByte
      rw [List.map_cons, List.map_cons, List.map_nil, toLower_digitChar (by omega),
        toLower_digitChar (by omega)]
    rw [List.flatMap_cons, List.map_append, hbyte, ih]

lemma isDigit_of_le {c : Char} (hlow : '0' ≤ c) (hhigh : c ≤ '9') : c.isDigit = true := by
  unfold Char.isDigit
  rw [Bool.and_eq_true, decide_eq_true_iff, decide_eq_true_iff]
  exact ⟨hlow, hhigh⟩

lemma max_aadhaarLastDigit (referenceId : Str) :
    max (aadhaarLastDigit referenceId) 1 = applications referenceId := by
  unfold aadhaarLastDigit applications
  cases referenceId[3]? with
  | none => rfl
  | some c =>
    show max ((toDigit c).getD 1) 1 = _
    unfold toDigit
    split
    · next hdigit =>
      obtain ⟨d, hd, rfl⟩ := exists_digitChar hdigit
      have hall : ∀ d < 10, max (d.digitChar.toNat - '0'.toNat) 1 =
          if '1' ≤ d.digitChar ∧ d.digitChar ≤ '9' then d.digitChar.toNat - '0'.toNat
          else 1 := by decide
      exact hall d hd
    · next hdigit =>
      show 1 = if '1' ≤ c ∧ c ≤ '9' then c.toNat - '0'.toNat else 1
      rw [if_neg]
      rintro ⟨hlow, hhigh⟩
      apply hdigit
      have hzero : '0' ≤ c := Char.le_trans (show '0' ≤ '1' by decide) hlow
      exact isDigit_of_le hzero hhigh

/-! ## Rounds -/

variable {sha256}

lemma rehash_eq (n : Nat) (h : Bytes) : rehash sha256 n h = sha256^[n] h := by
  induction n generalizing h with
  | zero => rfl
  | succ n ih => rw [rehash, ih, Function.iterate_succ_apply]

/-- What is equal in the end was equal from the start, or became equal in some round. -/
lemma iterate_eq_iff {n : Nat} {x y : Bytes} :
    sha256^[n] x = sha256^[n] y ↔ x = y ∨ CollidesAlong sha256 n x y := by
  constructor
  · intro h
    induction n with
    | zero => exact .inl h
    | succ n ih =>
      by_cases hn : sha256^[n] x = sha256^[n] y
      · rcases ih hn with heq | ⟨k, hk, hcollides⟩
        · exact .inl heq
        · exact .inr ⟨k, Nat.lt_succ_of_lt hk, hcollides⟩
      · rw [Function.iterate_succ_apply', Function.iterate_succ_apply'] at h
        exact .inr ⟨n, Nat.lt_succ_self n, hn, h⟩
  · rintro (rfl | ⟨k, hk, -, hnext⟩)
    · rfl
    · obtain ⟨m, rfl⟩ := Nat.exists_eq_add_of_lt hk
      rw [← Function.iterate_succ_apply' sha256, ← Function.iterate_succ_apply' sha256] at hnext
      have hsplit : k + m + 1 = m + (k + 1) := by omega
      rw [hsplit, Function.iterate_add_apply sha256 m (k + 1) x,
        Function.iterate_add_apply sha256 m (k + 1) y]
      exact congrArg _ hnext

lemma contactHash_eq (value sharePhrase referenceId : Str) :
    contactHash sha256 value sharePhrase referenceId =
      (sha256^[applications referenceId] (Utf8.encode (value ++ sharePhrase))).flatMap hexByte := by
  have hpos : 1 ≤ applications referenceId := by
    rw [← max_aadhaarLastDigit]
    exact Nat.le_max_right _ _
  obtain ⟨n, hn⟩ := Nat.exists_eq_add_of_le' hpos
  unfold contactHash
  rw [max_aadhaarLastDigit, hn]
  show (rehash sha256 n _).flatMap hexByte = _
  rw [rehash_eq, ← Function.iterate_succ_apply]

lemma eqIgnoreAsciiCase_hexByte {hash : Str} {xs : Bytes} :
    eqIgnoreAsciiCase hash (xs.flatMap hexByte) = true ↔
      hash.map Char.toLower = xs.flatMap hexByte := by
  unfold eqIgnoreAsciiCase
  rw [decide_eq_true_iff, toLower_flatMap_hexByte]

/-! ## Contacts -/

lemma verifyContact_iff {recorded : Option Str} {referenceId contact phrase : Str} :
    verifyContact sha256 recorded referenceId contact phrase = true ↔ ∃ hash,
      recorded = some hash ∧ hash.map Char.toLower =
        (sha256^[applications referenceId] (Utf8.encode (contact ++ phrase))).flatMap hexByte := by
  unfold verifyContact
  rw [contactHash_eq]
  cases recorded with
  | none => simp
  | some hash =>
    rw [Option.any_some, eqIgnoreAsciiCase_hexByte]
    constructor
    · intro h
      exact ⟨hash, rfl, h⟩
    · rintro ⟨_, heq, h⟩
      obtain rfl := Option.some.inj heq
      exact h

lemma bindsContact_verifyContact (recorded : Option Str) (referenceId : Str) :
    BindsContact sha256 recorded referenceId (verifyContact sha256 recorded referenceId) where
  accepts _ _ := verifyContact_iff
  binds contact phrase contact' phrase' h := by
    obtain ⟨hash, hrecorded, hhash⟩ := verifyContact_iff.mp h
    have hencode : Utf8.encode (contact ++ phrase) = Utf8.encode (contact' ++ phrase') ↔
        contact ++ phrase = contact' ++ phrase' := ⟨Utf8.encode_inj, congrArg Utf8.encode⟩
    rw [← hencode, ← iterate_eq_iff, verifyContact_iff]
    constructor
    · rintro ⟨hash', hrecorded', hhash'⟩
      obtain rfl := Option.some.inj (hrecorded.symm.trans hrecorded')
      exact flatMap_hexByte_inj (hhash.symm.trans hhash')
    · intro heq
      exact ⟨hash, hrecorded, heq ▸ hhash⟩

variable (sha256)

/-- **A record binds its mobile number and its email address**, as far as SHA-256 does. -/
theorem ekyc_bindsContacts (ekyc : OfflineEkyc) :
    BindsContact sha256 ekyc.mobileHash ekyc.referenceId (verifyMobile sha256 ekyc) ∧
      BindsContact sha256 ekyc.emailHash ekyc.referenceId (verifyEmail sha256 ekyc) :=
  ⟨bindsContact_verifyContact _ _, bindsContact_verifyContact _ _⟩

end AadhaarOfflineKyc
