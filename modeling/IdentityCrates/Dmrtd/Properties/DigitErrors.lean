import IdentityCrates.Dmrtd.Properties.CenturyResolution
import IdentityCrates.Dmrtd.Properties.LongDocumentNumber

/-!
# Single wrong digits

The check digits of an MRZ are there to catch a character that was misread.  This module shows that
those of a passport catch every misread digit: of two zones that differ in one digit of a field that
a check digit covers, at most one is accepted (`fromBytes_single_digit`).

The composite check digit is enough for the argument.  Its three ranges hold all the fields that
have a check digit of their own together with these digits (`covered_iff`).  A weight of seven, three
or one can be undone modulo ten, so a wrong digit inside the ranges changes the weighted sum, and the
composite digit stays; a wrong composite digit changes, and the sum stays.
-/

namespace Dmrtd

open Rust Text Octets Icao

namespace Mrz

/-! ## The weighted sum -/

lemma multiplier_mem (i : Nat) : multiplier i = 7 ∨ multiplier i = 3 ∨ multiplier i = 1 := by
  have hlt := Nat.mod_lt i (show 0 < 3 by decide)
  unfold multiplier
  interval_cases i % 3 <;> simp

/-- Weights can be undone modulo ten. -/
lemma eq_of_weighted {v v' rest i : Nat} (hv : v < 10) (hv' : v' < 10)
    (h : (rest + v * multiplier i) % 10 = (rest + v' * multiplier i) % 10) : v = v' := by
  rcases multiplier_mem i with hm | hm | hm
  all_goals
    rw [hm] at h
    omega

/-- One character of a text, exchanged for another. -/
lemma weightedSum_set {s : Str} {i j sum v v' : Nat} {c c' : Char} (hc : s[i]? = some c)
    (hv : charValue c = some v) (hv' : charValue c' = some v') (hsum : weightedSum j s = some sum) :
    ∃ rest, sum = rest + v * multiplier (j + i) ∧
      weightedSum j (s.set i c') = some (rest + v' * multiplier (j + i)) := by
  induction s generalizing i j sum with
  | nil => simp at hc
  | cons d s ih =>
    obtain ⟨value, hvalue, hsum⟩ := Option.bind_eq_some_iff.mp hsum
    obtain ⟨tail, htail, hsum⟩ := Option.bind_eq_some_iff.mp hsum
    obtain rfl := Option.some.inj hsum
    cases i with
    | zero =>
      obtain rfl := Option.some.inj hc
      obtain rfl := Option.some.inj (hv.symm.trans hvalue)
      refine ⟨tail, Nat.add_comm _ _, ?_⟩
      rw [List.set_cons_zero, weightedSum, hv', htail, Nat.add_zero, Nat.add_comm tail]
      rfl
    | succ i =>
      obtain ⟨rest, rfl, hset⟩ := ih hc htail
      refine ⟨value * multiplier j + rest, ?_, ?_⟩
      · rw [Nat.add_assoc, Nat.add_assoc, Nat.add_comm 1]
      · rw [List.set_cons_succ, weightedSum, hvalue, hset, Nat.add_assoc j, Nat.add_comm 1]
        simp only [Option.bind_eq_bind, Option.bind_some, Option.pure_def, Nat.add_assoc]

/-- A text has another check digit once one of its digits is exchanged for another. -/
lemma calculateCheckDigit_set {s : Str} {i cd v v' : Nat} {c c' : Char} (hc : s[i]? = some c)
    (hv : charValue c = some v) (hv' : charValue c' = some v') (hlt : v < 10) (hlt' : v' < 10)
    (hne : v ≠ v') (h : calculateCheckDigit s = some cd) :
    calculateCheckDigit (s.set i c') ≠ some cd := by
  obtain ⟨sum, hsum, rfl⟩ := Option.map_eq_some_iff.mp h
  obtain ⟨rest, rfl, hset⟩ := weightedSum_set hc hv hv' hsum
  rw [calculateCheckDigit, hset, Option.map_some]
  intro heq
  exact hne (eq_of_weighted hlt hlt' (Option.some.inj heq).symm)

/-! ## Fields of a changed text -/

lemma field_set {text : Str} {i p n : Nat} (hp : p ≤ i) (c : Char) :
    field (text.set i c) p n = (field text p n).set (i - p) c := by
  rw [field, field, List.drop_set, if_neg (not_lt.mpr hp), List.take_set]

lemma field_set_of_outside {text : Str} {i p n : Nat} (h : i < p ∨ p + n ≤ i) (c : Char) :
    field (text.set i c) p n = field text p n := by
  rcases h with h | h
  · rw [field, List.drop_set_of_lt h, field]
  · rw [field_set (by omega), List.set_eq_of_length_le]
    rw [field, List.length_take]
    omega

/-- A position in one of several ranges that follow one another is a position of the text that they
make up. -/
lemma exists_position {text : Str} {i : Nat} {ranges : List (Nat × Nat)}
    (hfits : ∀ r ∈ ranges, r.1 + r.2 ≤ text.length)
    (hsorted : ranges.Pairwise fun r r' => r.1 + r.2 ≤ r'.1)
    (hmem : ∃ r ∈ ranges, r.1 ≤ i ∧ i < r.1 + r.2) :
    ∃ k, ((ranges.map fun r => field text r.1 r.2).flatten)[k]? = text[i]? ∧
      ∀ c, (ranges.map fun r => field (text.set i c) r.1 r.2).flatten =
        ((ranges.map fun r => field text r.1 r.2).flatten).set k c := by
  induction ranges with
  | nil => simp at hmem
  | cons r ranges ih =>
    obtain ⟨hfit, hfits⟩ := List.forall_mem_cons.mp hfits
    obtain ⟨hbefore, hsorted⟩ := List.pairwise_cons.mp hsorted
    have hlen : (field text r.1 r.2).length = r.2 := by
      rw [field, List.length_take, List.length_drop]
      omega
    simp only [List.map_cons, List.flatten_cons]
    by_cases hr : r.1 ≤ i ∧ i < r.1 + r.2
    · refine ⟨i - r.1, ?_, fun c => ?_⟩
      · rw [List.getElem?_append_left (by omega), field, List.getElem?_take_of_lt (by omega),
          List.getElem?_drop, Nat.add_sub_cancel' hr.1]
      · have hrest : ranges.map (fun r' => field (text.set i c) r'.1 r'.2) =
            ranges.map fun r' => field text r'.1 r'.2 :=
          List.map_congr_left fun r' hr' =>
            field_set_of_outside (Or.inl (hr.2.trans_le (hbefore r' hr'))) c
        rw [hrest, field_set hr.1, List.set_append_left _ _ (by omega)]
    · have hmem' : ∃ r ∈ ranges, r.1 ≤ i ∧ i < r.1 + r.2 := by
        obtain ⟨r', hr', hin⟩ := hmem
        rcases List.mem_cons.mp hr' with rfl | hr'
        · exact absurd hin hr
        · exact ⟨r', hr', hin⟩
      obtain ⟨k, hget, hset⟩ := ih hfits hsorted hmem'
      refine ⟨r.2 + k, ?_, fun c => ?_⟩
      · rw [List.getElem?_append_right (by omega), hlen, Nat.add_sub_cancel_left, hget]
      · rw [hset c, field_set_of_outside (by omega), List.set_append_right _ _ (by omega), hlen,
          Nat.add_sub_cancel_left]

/-! ## What is covered -/

/-- The fields of a passport that have a check digit and these check digits, as start and length: the
document number, the dates of birth and of expiry, the personal number, and the composite digit. -/
def coveredFields : List (Nat × Nat) :=
  [(td3.documentNumber, 9), (td3.documentNumber + 9, 1), (td3.birthDate, 6), (td3.birthDate + 6, 1),
    (td3.expiryDate, 6), (td3.expiryDate + 6, 1), (td3.optionalData, td3.optionalLength),
    (td3.optionalData + td3.optionalLength, 1), (td3.compositeDigit, 1)]

/-- A position of the zone that a check digit covers. -/
def Covered (i : Nat) : Prop := ∃ r ∈ coveredFields, r.1 ≤ i ∧ i < r.1 + r.2

instance : DecidablePred Covered := fun i => by
  unfold Covered
  infer_instance

/-- All of them are covered by the composite check digit, except this digit itself. -/
lemma covered_iff (i : Nat) :
    Covered i ↔ (∃ r ∈ td3.composite, r.1 ≤ i ∧ i < r.1 + r.2) ∨ i = td3.compositeDigit := by
  simp only [Covered, coveredFields, td3, List.exists_mem_cons_iff, List.not_mem_nil, false_and,
    exists_false, or_false]
  omega

/-- The ASCII digits. -/
def IsDigitByte (b : UInt8) : Prop := 0x30 ≤ b ∧ b ≤ 0x39

instance : DecidablePred IsDigitByte := fun b => by
  unfold IsDigitByte
  infer_instance

/-- The number an ASCII digit stands for. -/
def digitOf (b : UInt8) : Nat := b.toNat - 0x30

section Digits

variable {b b' : UInt8}

lemma charValue_digit (hb : IsDigitByte b) :
    charValue (Char.ofNat b.toNat) = some (digitOf b) := by
  have hall : ∀ b, IsDigitByte b → charValue (Char.ofNat b.toNat) = some (digitOf b) :=
    forall_byte (by decide +kernel)
  exact hall b hb

lemma cdValue_digit (hb : IsDigitByte b) :
    cdValue [Char.ofNat b.toNat] = .ok (digitOf b) := by
  have hall : ∀ b, IsDigitByte b → cdValue [Char.ofNat b.toNat] = .ok (digitOf b) :=
    forall_byte (by decide +kernel)
  exact hall b hb

lemma digitOf_lt (hb : IsDigitByte b) : digitOf b < 10 := by
  have hle := UInt8.le_iff_toNat_le.mp hb.2
  have hnine : (0x39 : UInt8).toNat = 57 := rfl
  unfold digitOf
  omega

lemma digitOf_inj (hb : IsDigitByte b) (hb' : IsDigitByte b') (h : digitOf b = digitOf b') :
    b = b' := by
  have hle := UInt8.le_iff_toNat_le.mp hb.1
  have hle' := UInt8.le_iff_toNat_le.mp hb'.1
  have hzero : (0x30 : UInt8).toNat = 48 := rfl
  apply UInt8.toNat_inj.mp
  unfold digitOf at h
  omega

end Digits

/-! ## Acceptance -/

section Acceptance

variable {reference : NaiveDate} {data : Bytes} {mrz : Mrz}

/-- Of an accepted passport the composite check digit is right. -/
lemma composite_of_fromBytes (h : fromBytes reference data = .ok mrz) (hlen : data.length = 88) :
    ∃ errMsg, checkedText (chars data) (td3.compositeText (chars data)) td3.compositeDigit errMsg =
      .ok () := by
  have hread := readFrom_of_fromBytes h
  have htd3 : mrz.version = .td3 := hread.version_eq hlen
  have hcomposite := hread.composite
  rw [htd3] at hcomposite
  exact hcomposite

lemma length_of_version_td3 (h : fromBytes reference data = .ok mrz) (htd3 : mrz.version = .td3) :
    data.length = 88 := by
  rw [(readFrom_of_fromBytes h).length, htd3]
  rfl

/-! A zone that is not accepted is refused with an error. -/

lemma assertCheckDigit_ne_panic (value : Str) (cdigit : Nat) (errMsg : String) :
    assertCheckDigit value cdigit errMsg ≠ .panic := by
  unfold assertCheckDigit
  split <;> simp

lemma cdValue_ne_panic (s : Str) : cdValue s ≠ .panic := by
  unfold cdValue
  split
  · simp
  · apply Outcome.ofOption_ne_panic

lemma checkedText_ne_panic (text value : Str) (i : Nat) (errMsg : String) :
    checkedText text value i errMsg ≠ .panic := by
  apply Outcome.bind_ne_panic (cdValue_ne_panic _)
  intro cd _
  apply assertCheckDigit_ne_panic

lemma checkedDate_ne_panic (text : Str) (i : Nat) (futureDate : Bool) (reference : NaiveDate)
    (errMsg : String) : checkedDate text i futureDate reference errMsg ≠ .panic := by
  apply Outcome.bind_ne_panic (Outcome.mapErr_ne_panic (parseDateYymmddWithRef_ne_panic _ _ _))
  intro date _
  apply Outcome.bind_ne_panic (cdValue_ne_panic _)
  intro cd _
  apply Outcome.bind_ne_panic (assertCheckDigit_ne_panic _ _ _)
  simp

lemma fromBytes_ne_panic (hlen : data.length = 88) : fromBytes reference data ≠ .panic := by
  simp only [fromBytes, hlen, parseTd3_eq reference hlen, map_bind]
  apply Outcome.bind_ne_panic (checkedText_ne_panic _ _ _ _)
  intro _ _
  apply Outcome.bind_ne_panic (checkedDate_ne_panic _ _ _ _ _)
  intro _ _
  apply Outcome.bind_ne_panic (checkedDate_ne_panic _ _ _ _ _)
  intro _ _
  apply Outcome.bind_ne_panic (checkedText_ne_panic _ _ _ _)
  intro _ _
  apply Outcome.bind_ne_panic (checkedText_ne_panic _ _ _ _)
  simp

end Acceptance

/-! ## One wrong digit -/

section WrongDigit

variable {text value : Str} {i cd : Nat} {errMsg : String} {b b' : UInt8}

lemma checkedText_eq_ok_iff :
    checkedText text value i errMsg = .ok () ↔
      ∃ cd, cdValue (field text i 1) = .ok cd ∧ calculateCheckDigit value = some cd := by
  simp only [checkedText, Outcome.bind_eq_ok, assertCheckDigit_eq_ok]

lemma chars_set (data : Bytes) (i : Nat) (b : UInt8) :
    chars (data.set i b) = (chars data).set i (Char.ofNat b.toNat) :=
  List.map_set

/-- A wrong digit inside the ranges of the composite check digit: that digit stays, and the text has
another one. -/
lemma composite_set_of_inside (hlen : text.length = 88)
    (hin : ∃ r ∈ td3.composite, r.1 ≤ i ∧ i < r.1 + r.2)
    (hget : text[i]? = some (Char.ofNat b.toNat)) (hb : IsDigitByte b) (hb' : IsDigitByte b')
    (hne : b ≠ b') (hcd : calculateCheckDigit (td3.compositeText text) = some cd) :
    calculateCheckDigit (td3.compositeText (text.set i (Char.ofNat b'.toNat))) ≠ some cd ∧
      field (text.set i (Char.ofNat b'.toNat)) td3.compositeDigit 1 =
        field text td3.compositeDigit 1 := by
  have hfits : ∀ r ∈ td3.composite, r.1 + r.2 ≤ text.length := by
    rw [hlen]
    decide
  have hbefore : ∀ r ∈ td3.composite, r.1 + r.2 ≤ td3.compositeDigit := by decide
  obtain ⟨k, hk, hset⟩ := exists_position hfits (by decide) hin
  constructor
  · rw [Layout.compositeText, hset]
    refine calculateCheckDigit_set (hk.trans hget) (charValue_digit hb) (charValue_digit hb')
      (digitOf_lt hb) (digitOf_lt hb') ?_ hcd
    exact fun h => hne (digitOf_inj hb hb' h)
  · obtain ⟨r, hr, -, hlt⟩ := hin
    exact field_set_of_outside (Or.inl (hlt.trans_le (hbefore r hr))) _

/-- A wrong composite check digit: the text stays. -/
lemma composite_set_of_digit (c : Char) :
    td3.compositeText (text.set td3.compositeDigit c) = td3.compositeText text := by
  have hbefore : ∀ r ∈ td3.composite, r.1 + r.2 ≤ td3.compositeDigit := by decide
  rw [Layout.compositeText, Layout.compositeText]
  refine congrArg List.flatten (List.map_congr_left fun r hr => ?_)
  exact field_set_of_outside (Or.inr (hbefore r hr)) c

lemma field_digit (hget : text[i]? = some (Char.ofNat b.toNat)) :
    field text i 1 = [Char.ofNat b.toNat] := by
  obtain ⟨hlt, heq⟩ := List.getElem?_eq_some_iff.mp hget
  rw [field, List.drop_eq_getElem_cons hlt, List.take_succ_cons, List.take_zero, heq]

end WrongDigit

/-- **Every single wrong digit is caught.**  Of an accepted passport, exchange one digit of a field
that has a check digit, or one of the check digits, for another digit.  The zone that comes of it is
refused, whatever the day it is read on. -/
theorem fromBytes_single_digit (reference reference' : NaiveDate) (data : Bytes) (mrz : Mrz)
    (i : Nat) (b b' : UInt8) (hok : fromBytes reference data = .ok mrz)
    (htd3 : mrz.version = .td3) (hcovered : Covered i) (hget : data[i]? = some b)
    (hb : IsDigitByte b) (hb' : IsDigitByte b') (hne : b ≠ b') :
    ∃ e, fromBytes reference' (data.set i b') = .err e := by
  have hlen := length_of_version_td3 hok htd3
  have hlen' : (data.set i b').length = 88 := by rw [List.length_set, hlen]
  have hchar : (chars data)[i]? = some (Char.ofNat b.toNat) := by
    rw [chars, List.getElem?_map, hget, Option.map_some]
  have hlt : i < (chars data).length := (List.getElem?_eq_some_iff.mp hchar).1
  obtain ⟨errMsg, hcomposite⟩ := composite_of_fromBytes hok hlen
  obtain ⟨cd, hprinted, hsum⟩ := checkedText_eq_ok_iff.mp hcomposite
  have hrefused : ∀ mrz', fromBytes reference' (data.set i b') ≠ .ok mrz' := by
    intro mrz' hok'
    obtain ⟨errMsg', hcomposite'⟩ := composite_of_fromBytes hok' hlen'
    obtain ⟨cd', hprinted', hsum'⟩ := checkedText_eq_ok_iff.mp hcomposite'
    rw [chars_set] at hprinted' hsum'
    rcases (covered_iff i).mp hcovered with hin | rfl
    · -- the printed digit is the same, the computed one is not
      obtain ⟨hchanged, hsame⟩ :=
        composite_set_of_inside ((length_chars data).trans hlen) hin hchar hb hb' hne hsum
      rw [hsame, hprinted] at hprinted'
      obtain rfl := Outcome.ok.inj hprinted'
      exact hchanged hsum'
    · -- the computed digit is the same, the printed one is not
      rw [composite_set_of_digit, hsum] at hsum'
      obtain rfl := Option.some.inj hsum'
      rw [field_digit hchar, cdValue_digit hb] at hprinted
      rw [field_digit (List.getElem?_set_self hlt), cdValue_digit hb', ← hprinted] at hprinted'
      exact hne (digitOf_inj hb hb' (Outcome.ok.inj hprinted').symm)
  cases hread : fromBytes reference' (data.set i b') with
  | ok mrz' => exact absurd hread (hrefused mrz')
  | err e => exact ⟨e, rfl⟩
  | panic => exact absurd hread (fromBytes_ne_panic hlen')

/-- A passport with a personal number. -/
def anna : Bytes := asBytes
  "P<UTOERIKSSON<<ANNA<MARIA<<<<<<<<<<<<<<<<<<<L898902C36UTO7408122F1204159ZE184226B<<<<<10"

/-- The last digit of its personal number is misread. -/
theorem fromBytes_single_digit_anna :
    ∃ e, fromBytes juneFirst (anna.set 79 0x38) = .err e := by
  have hread : (fun mrz : Mrz => mrz.version) <$> fromBytes juneFirst anna = .ok .td3 := by
    decide +kernel
  obtain ⟨mrz, hok, htd3⟩ := Outcome.map_eq_ok.mp hread
  exact fromBytes_single_digit juneFirst juneFirst anna mrz 79 0x36 0x38 hok htd3 (by decide)
    (by decide +kernel) (by decide) (by decide) (by decide)

end Mrz

end Dmrtd
