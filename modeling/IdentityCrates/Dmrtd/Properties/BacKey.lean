import IdentityCrates.Dmrtd.Properties.LongDocumentNumber
import IdentityCrates.Dmrtd.Proto.AccessKey
import IdentityCrates.Lib.Utf8

/-!
# The basic access key of a zone that was read

ICAO 9303-11 derives the basic access keys from `MRZ_information`: the document number, the date of
birth and the date of expiry, each as it is printed and with its check digit.  The repository takes
a detour.  `Mrz::from_bytes` trims the fillers off the number, turns the dates into days of the
calendar and throws the check digits away; `DBAKey::from_mrz` keeps what is left, and `key_seed`
puts the fillers back, writes the dates out again and computes the check digits afresh.

The detour leads back to the printed characters except for what `PrintedPlainly` delimits.

* A space counts as zero in a check digit, so that the parser accepts one in the document number,
  but the key does not: `from_mrz` refuses it, although its comment says that a number that was
  parsed is always within the alphabet.
* A filler passes for the check digit zero; the key hashes the digit `0` in its place.
* A number that runs over from nine characters that end in a filler loses the filler.
-/

namespace Dmrtd

open Rust Text Octets Icao

/-! ## MRZ_information -/

/-- The byte of `<`. -/
def fillerByte : UInt8 := 0x3C

/-- The `n` bytes of a zone that are printed from position `i` on. -/
def printed (zone : Bytes) (i n : Nat) : Bytes := (zone.drop i).take n

section Information

variable (version : MrzVersion) (zone : Bytes)

/-- A filler in the place of the check digit says that the document number goes on in the optional
data, which only the formats TD1 and TD2 provide for. -/
def Continued : Prop :=
  version ≠ .td3 ∧ printed zone (version.layout.documentNumber + 9) 1 = [fillerByte]

instance : Decidable (Continued version zone) := inferInstanceAs (Decidable (_ ∧ _))

/-- What the optional data begin with, up to the first filler: the rest of a long number and its
check digit. -/
def continuation : Bytes :=
  (printed zone version.layout.optionalData version.layout.optionalLength).takeWhile
    (· ≠ fillerByte)

/-- The document number as it is printed, with its check digit. -/
def numberWithDigit : Bytes :=
  if Continued version zone then
    printed zone version.layout.documentNumber 9 ++ continuation version zone
  else printed zone version.layout.documentNumber 10

/-- `MRZ_information`. -/
def mrzInformation : Bytes :=
  numberWithDigit version zone ++ printed zone version.layout.birthDate 7 ++
    printed zone version.layout.expiryDate 7

/-- The zones whose key is that of the document: the number has no space in it, its check digit and
those of the dates are printed as digits, and nine characters of a longer number do not end in a
filler. -/
structure PrintedPlainly : Prop where
  noSpace : (0x20 : UInt8) ∉ numberWithDigit version zone
  numberDigit : ¬ Continued version zone →
    printed zone (version.layout.documentNumber + 9) 1 ≠ [fillerByte]
  birthDigit : printed zone (version.layout.birthDate + 6) 1 ≠ [fillerByte]
  expiryDigit : printed zone (version.layout.expiryDate + 6) 1 ≠ [fillerByte]
  ninth : Continued version zone → 1 < (continuation version zone).length →
    printed zone (version.layout.documentNumber + 8) 1 ≠ [fillerByte]

end Information

/-! ## Bytes and characters -/

section Characters

variable {bs bs' : Bytes}

lemma chars_append (bs bs' : Bytes) : chars (bs ++ bs') = chars bs ++ chars bs' :=
  List.map_append

lemma chars_printed (zone : Bytes) (i n : Nat) :
    chars (printed zone i n) = field (chars zone) i n := by
  rw [printed, field, chars, chars, List.map_take, List.map_drop]

lemma toNat_ofNat_byte (b : UInt8) : (Char.ofNat b.toNat).toNat = b.toNat := by
  have hvalid : b.toNat.isValidChar := Or.inl (lt_of_lt_of_le b.toNat_lt (by norm_num))
  rw [Char.ofNat, dif_pos hvalid]
  rfl

lemma char_inj {a b : UInt8} (h : Char.ofNat a.toNat = Char.ofNat b.toNat) : a = b := by
  apply UInt8.toNat_inj.mp
  rw [← toNat_ofNat_byte a, ← toNat_ofNat_byte b, h]

lemma chars_inj : chars bs = chars bs' ↔ bs = bs' := by
  constructor
  · intro h
    exact (List.map_injective_iff.mpr fun _ _ => char_inj) h
  · rintro rfl
    rfl

lemma chars_filler : chars [fillerByte] = ['<'] := rfl

lemma printed_eq_filler (zone : Bytes) (i : Nat) :
    printed zone i 1 = [fillerByte] ↔ field (chars zone) i 1 = ['<'] := by
  rw [← chars_inj, chars_printed, chars_filler]

lemma printed_ne_filler (zone : Bytes) (i : Nat) :
    printed zone i 1 ≠ [fillerByte] ↔ field (chars zone) i 1 ≠ ['<'] :=
  not_congr (printed_eq_filler zone i)

lemma space_mem_chars : ' ' ∈ chars bs ↔ (0x20 : UInt8) ∈ bs := by
  constructor
  · intro h
    obtain ⟨b, hb, heq⟩ := List.mem_map.mp h
    obtain rfl : b = 0x20 := char_inj heq
    exact hb
  · intro h
    exact List.mem_map.mpr ⟨0x20, h, rfl⟩

lemma chars_takeWhile (bs : Bytes) :
    chars (bs.takeWhile (· ≠ fillerByte)) = beforeFiller (chars bs) := by
  have hfiller : ∀ b : UInt8, decide (Char.ofNat b.toNat ≠ '<') = decide (b ≠ fillerByte) := by
    intro b
    apply decide_eq_decide.mpr
    constructor
    · rintro hne rfl
      exact hne rfl
    · intro hne heq
      exact hne (char_inj heq)
  induction bs with
  | nil => rfl
  | cons b bs ih =>
    show chars (List.takeWhile _ (b :: bs)) = List.takeWhile _ (Char.ofNat b.toNat :: chars bs)
    rw [List.takeWhile_cons, List.takeWhile_cons, hfiller b]
    cases decide (b ≠ fillerByte) with
    | false => rfl
    | true => exact congrArg (Char.ofNat b.toNat :: ·) ih

/-- Among ASCII texts a text is hashed as certain bytes exactly when it is their characters. -/
lemma encode_eq_iff {s : Str} (hs : IsAscii s) : Utf8.encode s = bs ↔ s = chars bs := by
  have hchars : ∀ {s : Str}, IsAscii s → chars (Utf8.encode s) = s := by
    intro s hs
    induction s with
    | nil => rfl
    | cons c s ih =>
      have hc := hs c List.mem_cons_self
      have hlt : c.toNat < 256 := by
        have := Char.utf8Size_eq_one_iff.mp hc
        have hle : c.val.toNat ≤ 127 := this
        show c.val.toNat < 256
        omega
      rw [Utf8.encode_cons, Utf8.encode_ascii hc, chars_append,
        ih fun d hd => hs d (List.mem_cons_of_mem c hd)]
      show Char.ofNat (UInt8.ofNat c.toNat).toNat :: s = c :: s
      rw [UInt8.toNat_ofNat_of_lt' hlt, Char.ofNat_toNat]
  constructor
  · rintro rfl
    exact (hchars hs).symm
  · intro h
    rw [← chars_inj, hchars hs, h]

end Characters

/-! ## What the parser leaves of a zone -/

namespace Mrz

/-- The zone `zone` was accepted as `mrz`, as far as the fields of the key go. -/
structure Accepted (reference : NaiveDate) (zone : Bytes) (mrz : Mrz) : Prop where
  length : zone.length = mrz.version.layout.size
  birth : ∃ errMsg, checkedDate (chars zone) mrz.version.layout.birthDate false reference errMsg =
    .ok mrz.dateOfBirth
  expiry : ∃ errMsg, checkedDate (chars zone) mrz.version.layout.expiryDate true reference errMsg =
    .ok mrz.dateOfExpiry
  number : mrz.version ≠ .td3 → ∃ optData2 fields,
    parseExtendedDocumentNumber
      (trimEndMatches '<' (field (chars zone) mrz.version.layout.documentNumber 9))
      (field (chars zone) (mrz.version.layout.documentNumber + 9) 1)
      (trimEndMatches '<' (field (chars zone) mrz.version.layout.optionalData
        mrz.version.layout.optionalLength)) optData2 = .ok (mrz.docNum, fields)
  numberTd3 : mrz.version = .td3 →
    mrz.docNum = trimEndMatches '<' (field (chars zone) mrz.version.layout.documentNumber 9) ∧
      ∃ errMsg, checkedText (chars zone) mrz.docNum (mrz.version.layout.documentNumber + 9)
        errMsg = .ok ()

lemma accepted_of_fromBytes {reference : NaiveDate} {zone : Bytes} {mrz : Mrz}
    (h : fromBytes reference zone = .ok mrz) : Accepted reference zone mrz := by
  obtain ⟨hlen, hbirth, hexpiry, hnumber, hnumberTd3, -⟩ := readFrom_of_fromBytes h
  exact ⟨hlen, hbirth, hexpiry, fun hversion => ⟨_, _, hnumber hversion⟩, hnumberTd3⟩

end Mrz

/-! ## Check digits, printed and computed -/

/-- The check digit of a text, as `key_seed` writes it. -/
def writtenDigit (s : Str) : Str := Nat.toDigits 10 ((Mrz.calculateCheckDigit s).getD 0)

section CheckDigits

variable {s : Str} {cd : Nat}

lemma toDigits_of_calculate (h : Mrz.calculateCheckDigit s = some cd) :
    cd < 10 ∧ writtenDigit s = [cd.digitChar] := by
  have hlt : cd < 10 := by
    rw [Mrz.calculateCheckDigit, Option.map_eq_some_iff] at h
    obtain ⟨sum, -, rfl⟩ := h
    exact Nat.mod_lt _ (by norm_num)
  refine ⟨hlt, ?_⟩
  rw [writtenDigit, h, Option.getD_some, Nat.toDigits_of_lt_base hlt]

/-- The digit that is computed is the one that is printed, unless a filler stands for it. -/
lemma writtenDigit_eq_printed {c : Char} (hcd : cdValue [c] = .ok cd)
    (h : Mrz.calculateCheckDigit s = some cd) : writtenDigit s = [c] ↔ [c] ≠ ['<'] := by
  obtain ⟨hlt, hwritten⟩ := toDigits_of_calculate h
  rw [hwritten]
  constructor
  · intro heq hfiller
    have hdigit := isDigit_digitChar hlt
    rw [(List.cons.inj (heq.trans hfiller)).1] at hdigit
    exact absurd hdigit (by decide)
  · intro hne
    rw [cdValue, if_neg hne, Outcome.ofOption_eq_ok] at hcd
    obtain ⟨d, hd, rfl⟩ := exists_digitChar (isDigit_of_parseUnsigned hcd)
    rw [parseUnsigned_digitChar hd (by norm_num), Option.some.injEq] at hcd
    rw [hcd]

/-- A field of one character. -/
lemma exists_field_one {text : Str} {i : Nat} (h : i + 1 ≤ text.length) :
    ∃ c, field text i 1 = [c] :=
  List.length_eq_one_iff.mp (length_field h)

lemma append_inj_right_iff {s s' t t' : Str} (h : t.length = t'.length) :
    s ++ t = s' ++ t' ↔ s = s' ∧ t = t' := by
  constructor
  · intro heq
    exact List.append_inj' heq h
  · rintro ⟨rfl, rfl⟩
    rfl

lemma field_succ {text : Str} (i n : Nat) :
    field text i (n + 1) = field text i n ++ field text (i + n) 1 :=
  (field_append_field text i n 1).symm

end CheckDigits

/-! ## The dates -/

section Dates

variable {text : Str} {i : Nat} {futureDate : Bool} {reference date : NaiveDate} {errMsg : String}

/-- A date that was read is written out again as it was printed, and its check digit as well unless
a filler stands for it. -/
lemma date_printed (hlen : i + 7 ≤ text.length)
    (h : Mrz.checkedDate text i futureDate reference errMsg = .ok date) :
    (∀ c ∈ date.formatYymmdd, c.isDigit = true) ∧
      (date.formatYymmdd ++ writtenDigit date.formatYymmdd).length = 7 ∧
      (date.formatYymmdd ++ writtenDigit date.formatYymmdd = field text i 7 ↔
        field text (i + 6) 1 ≠ ['<']) := by
  obtain ⟨parsed, hparsed, hrest⟩ := Outcome.bind_eq_ok.mp h
  obtain ⟨cd, hcd, hrest⟩ := Outcome.bind_eq_ok.mp hrest
  obtain ⟨_, hassert, hdate⟩ := Outcome.bind_eq_ok.mp hrest
  cases hdate
  rw [dateValue, Outcome.mapErr_eq_ok, parseDateYymmddWithRef_trimEndMatches] at hparsed
  have hdigits : (field text i 6).filter Char.isDigit = field text i 6 := by
    apply (List.filter_sublist).eq_of_length_le
    rw [(parseDateYymmddWithRef_eq_ok.mp hparsed).1]
    exact List.length_take_le 6 _
  have hformat : date.formatYymmdd = field text i 6 := by
    rw [formatYymmdd_of_parse hparsed, hdigits]
  have hcalc := Mrz.assertCheckDigit_eq_ok.mp hassert
  refine ⟨?_, ?_, ?_⟩
  · rw [hformat, ← hdigits]
    exact fun c hc => (List.mem_filter.mp hc).2
  · rw [List.length_append, (toDigits_of_calculate hcalc).2, hformat, length_field (by omega)]
    rfl
  · obtain ⟨c, hc⟩ : ∃ c, field text (i + 6) 1 = [c] := exists_field_one (by omega)
    rw [hc] at hcd
    rw [hformat] at hcalc ⊢
    rw [field_succ i 6, List.append_cancel_left_eq, hc]
    exact writtenDigit_eq_printed hcd hcalc

end Dates

/-! ## The document number -/

section Number

variable {number : Str}

/-- Padding undoes the trimming of a field. -/
lemma padRight_trimEndMatches (s : Str) :
    DBAKey.padRight (trimEndMatches '<' s) s.length '<' = s := by
  have hsplit : trimEndMatches '<' s ++ s.rtakeWhile (· == '<') = s :=
    List.rdropWhile_append_rtakeWhile
  have hfillers : s.rtakeWhile (· == '<') =
      List.replicate (s.length - (trimEndMatches '<' s).length) '<' := by
    apply List.eq_replicate_iff.mpr
    refine ⟨?_, fun c hc => by simpa using List.mem_rtakeWhile_imp hc⟩
    have hlen := congrArg List.length hsplit
    rw [List.length_append] at hlen
    omega
  rw [DBAKey.padRight, ← hfillers, hsplit]

lemma weightedSum_fillers (i n : Nat) :
    Mrz.weightedSum i (List.replicate n '<') = some 0 := by
  induction n generalizing i with
  | zero => rfl
  | succ n ih =>
    rw [List.replicate_succ, Mrz.weightedSum, ih]
    show some (0 * Mrz.multiplier i + 0) = some 0
    rw [Nat.zero_mul]

lemma weightedSum_append_fillers (i n : Nat) (s : Str) :
    Mrz.weightedSum i (s ++ List.replicate n '<') = Mrz.weightedSum i s := by
  induction s generalizing i with
  | nil => exact weightedSum_fillers i n
  | cons c s ih => rw [List.cons_append, Mrz.weightedSum, Mrz.weightedSum, ih]

/-- The fillers that pad a number do not count. -/
lemma calculateCheckDigit_padRight (s : Str) (n : Nat) :
    Mrz.calculateCheckDigit (DBAKey.padRight s n '<') = Mrz.calculateCheckDigit s := by
  rw [Mrz.calculateCheckDigit, Mrz.calculateCheckDigit, DBAKey.padRight, weightedSum_append_fillers]

/-- A text with a check digit is over the alphabet but for its spaces. -/
lemma isMrzChar_or_space {s : Str} {cd : Nat} (h : Mrz.calculateCheckDigit s = some cd) :
    ∀ c ∈ s, isMrzChar c = true ∨ c = ' ' := by
  have hvalue : ∀ i, ∀ s : Str, ∀ sum, Mrz.weightedSum i s = some sum →
      ∀ c ∈ s, (Mrz.charValue c).isSome = true := by
    intro i s
    induction s generalizing i with
    | nil => exact fun _ _ c hc => absurd hc List.not_mem_nil
    | cons d s ih =>
      intro sum hsum c hc
      rw [Mrz.weightedSum] at hsum
      obtain ⟨value, hd, hsum⟩ := Option.bind_eq_some_iff.mp hsum
      obtain ⟨rest, hrest, -⟩ := Option.bind_eq_some_iff.mp hsum
      rcases List.mem_cons.mp hc with rfl | hc
      · rw [hd, Option.isSome_some]
      · exact ih (i + 1) rest hrest c hc
  rw [Mrz.calculateCheckDigit, Option.map_eq_some_iff] at h
  obtain ⟨sum, hsum, -⟩ := h
  intro c hc
  have hsome := hvalue 0 s sum hsum c hc
  unfold Mrz.charValue at hsome
  unfold isMrzChar
  by_cases hdigit : c.isDigit = true
  · simp [hdigit]
  by_cases hupper : c.isUpper = true
  · simp [hupper]
  rw [if_neg hdigit, if_neg hupper] at hsome
  by_cases hrest : c = '<' ∨ c = ' '
  · rcases hrest with rfl | rfl
    · exact Or.inl rfl
    · exact Or.inr rfl
  · rw [if_neg hrest] at hsome
    exact Bool.noConfusion hsome

/-- `from_mrz` refuses a parsed number for its spaces and for nothing else. -/
lemma isValidMrz_iff {s : Str} {cd : Nat} (h : Mrz.calculateCheckDigit s = some cd) :
    (∀ c ∈ s, isMrzChar c = true) ↔ ' ' ∉ s := by
  constructor
  · intro hall hspace
    exact absurd (hall ' ' hspace) (by decide)
  · intro hspace c hc
    rcases isMrzChar_or_space h c hc with hc' | rfl
    · exact hc'
    · exact absurd hc hspace

end Number

namespace Mrz.Accepted

variable {reference : NaiveDate} {zone : Bytes} {mrz : Mrz}

lemma length_text (h : Accepted reference zone mrz) :
    (chars zone).length = mrz.version.layout.size := by
  rw [length_chars, h.length]

lemma exists_char (h : Accepted reference zone mrz) {i : Nat}
    (hi : i + 1 ≤ mrz.version.layout.size) : ∃ c, field (chars zone) i 1 = [c] := by
  apply exists_field_one
  rw [h.length_text]
  exact hi

lemma length_number (h : Accepted reference zone mrz) :
    (field (chars zone) mrz.version.layout.documentNumber 9).length = 9 := by
  apply length_field
  rw [h.length_text]
  cases mrz.version <;> decide

/-- A number that does not run over is the trimmed field, with the check digit behind it. -/
lemma docNum_plain (h : Accepted reference zone mrz) (hplain : ¬ Continued mrz.version zone) :
    mrz.docNum = trimEndMatches '<' (field (chars zone) mrz.version.layout.documentNumber 9) ∧
      ∃ cd, cdValue (field (chars zone) (mrz.version.layout.documentNumber + 9) 1) = .ok cd ∧
        calculateCheckDigit mrz.docNum = some cd := by
  by_cases htd3 : mrz.version = .td3
  · obtain ⟨hnumber, _, hchecked⟩ := h.numberTd3 htd3
    obtain ⟨cd, hcd, hassert⟩ := Outcome.bind_eq_ok.mp hchecked
    exact ⟨hnumber, cd, hcd, assertCheckDigit_eq_ok.mp hassert⟩
  · have hne : field (chars zone) (mrz.version.layout.documentNumber + 9) 1 ≠ ['<'] := by
      intro heq
      exact hplain ⟨htd3, (printed_eq_filler _ _).mpr heq⟩
    obtain ⟨_, _, hparse⟩ := h.number htd3
    rw [parseExtendedDocumentNumber, if_neg fun hboth => hne hboth.1] at hparse
    obtain ⟨cd, hcd, hparse⟩ := Outcome.bind_eq_ok.mp hparse
    obtain ⟨_, hassert, hparse⟩ := Outcome.bind_eq_ok.mp hparse
    have hnumber := congrArg Prod.fst (Outcome.ok.inj hparse)
    rw [show mrz.docNum = _ from hnumber.symm]
    refine ⟨rfl, cd, ?_, assertCheckDigit_eq_ok.mp hassert⟩
    rw [cdValue, if_neg hne, Outcome.ofOption_eq_ok]
    exact Outcome.ofOption_eq_ok.mp hcd

/-- A number that runs over is the trimmed field and what the optional data begin with, up to the
check digit. -/
lemma docNum_continued (h : Accepted reference zone mrz) (hcont : Continued mrz.version zone) :
    ∃ body last cd, chars (continuation mrz.version zone) = body ++ [last] ∧
      mrz.docNum =
        trimEndMatches '<' (field (chars zone) mrz.version.layout.documentNumber 9) ++ body ∧
      toDigit last = some cd ∧ calculateCheckDigit mrz.docNum = some cd := by
  obtain ⟨optData2, fields, hparse⟩ := h.number hcont.1
  rw [(printed_eq_filler _ _).mp hcont.2] at hparse
  obtain ⟨-, last, hlast, hnumber, cd, hcd, hdigit⟩ :=
    parseExtendedDocumentNumber_filler.mp ⟨fields, hparse⟩
  rw [beforeFiller, takeWhile_trimEndMatches] at hlast hnumber
  refine ⟨_, last, cd, ?_, hnumber, hcd, hdigit⟩
  rw [continuation, chars_takeWhile, chars_printed, beforeFiller]
  exact (List.dropLast_append_getLast? last hlast).symm

lemma exists_checkDigit (h : Accepted reference zone mrz) :
    ∃ cd, calculateCheckDigit mrz.docNum = some cd := by
  by_cases hcont : Continued mrz.version zone
  · obtain ⟨_, _, cd, -, -, -, hcd⟩ := h.docNum_continued hcont
    exact ⟨cd, hcd⟩
  · obtain ⟨-, cd, -, hcd⟩ := h.docNum_plain hcont
    exact ⟨cd, hcd⟩

/-- The ninth character is a filler exactly when trimming shortens the field of the number. -/
lemma trimEndMatches_number (h : Accepted reference zone mrz) :
    trimEndMatches '<' (field (chars zone) mrz.version.layout.documentNumber 9) =
        field (chars zone) mrz.version.layout.documentNumber 9 ↔
      printed zone (mrz.version.layout.documentNumber + 8) 1 ≠ [fillerByte] := by
  obtain ⟨c, hc⟩ := h.exists_char (i := mrz.version.layout.documentNumber + 8)
    (by cases mrz.version <;> decide)
  rw [field_succ _ 8, hc, trimEndMatches_concat_eq_self]
  refine not_congr ?_
  rw [printed_eq_filler, hc, List.cons.injEq]
  exact (and_iff_left rfl).symm

/-- The number and its check digit are written as they are printed, unless a filler stands for the
check digit or is lost between the two parts of a long number. -/
lemma number_written (h : Accepted reference zone mrz) :
    DBAKey.padRight mrz.docNum 9 '<' ++ writtenDigit (DBAKey.padRight mrz.docNum 9 '<') =
        chars (numberWithDigit mrz.version zone) ↔
      (¬ Continued mrz.version zone →
        printed zone (mrz.version.layout.documentNumber + 9) 1 ≠ [fillerByte]) ∧
      (Continued mrz.version zone → 1 < (continuation mrz.version zone).length →
        printed zone (mrz.version.layout.documentNumber + 8) 1 ≠ [fillerByte]) := by
  have hlen := h.length_number
  have hpad := padRight_trimEndMatches
    (field (chars zone) mrz.version.layout.documentNumber 9)
  rw [hlen] at hpad
  have hdigit {cd : Nat} (hcd : calculateCheckDigit mrz.docNum = some cd) :
      calculateCheckDigit (DBAKey.padRight mrz.docNum 9 '<') = some cd := by
    rw [calculateCheckDigit_padRight, hcd]
  by_cases hcont : Continued mrz.version zone
  · obtain ⟨body, last, cd, hbody, hnumber, hlast, hcd⟩ := h.docNum_continued hcont
    obtain ⟨hlt, hwritten⟩ := toDigits_of_calculate (hdigit hcd)
    have hlast' : last = cd.digitChar := by
      rw [toDigit] at hlast
      split at hlast
      · rename_i hisDigit
        obtain ⟨d, hd, rfl⟩ := exists_digitChar hisDigit
        rw [Option.some.injEq, toNat_digitChar hd] at hlast
        rw [hlast]
      · exact absurd hlast (by simp)
    have hcount : (continuation mrz.version zone).length = body.length + 1 := by
      rw [← length_chars, hbody, List.length_append, List.length_singleton]
    rw [numberWithDigit, if_pos hcont, chars_append, chars_printed, hbody, hwritten, hlast',
      ← List.append_assoc, List.append_cancel_right_eq, hcount, ← h.trimEndMatches_number, hnumber]
    constructor
    · intro heq
      refine ⟨fun hplain => absurd hcont hplain, fun _ hmore => ?_⟩
      -- padding a shortened field cannot make up for what stands behind it
      apply (List.rdropWhile_prefix (p := (· == '<')) _).eq_of_length_le
      have hlengths := congrArg List.length heq
      rw [DBAKey.padRight, List.length_append, List.length_append, List.length_append,
        List.length_replicate, hlen] at hlengths
      rw [hlen]
      show 9 ≤ (trimEndMatches '<' _).length
      omega
    · rintro ⟨-, hninth⟩
      rcases List.eq_nil_or_concat body with rfl | ⟨front, c, rfl⟩
      · rw [List.append_nil, List.append_nil, hpad]
      · have hfull := hninth hcont (by simp)
        rw [hfull, DBAKey.padRight, List.length_append, hlen, Nat.sub_eq_zero_of_le (by omega),
          List.replicate_zero, List.append_nil]
  · obtain ⟨hnumber, cd, hcd, hcalc⟩ := h.docNum_plain hcont
    obtain ⟨c, hc⟩ := h.exists_char (i := mrz.version.layout.documentNumber + 9)
      (by cases mrz.version <;> decide)
    have hfield : DBAKey.padRight mrz.docNum 9 '<' =
        field (chars zone) mrz.version.layout.documentNumber 9 := by
      rw [hnumber, hpad]
    rw [hc] at hcd
    rw [numberWithDigit, if_neg hcont, chars_printed, field_succ _ 9, ← hfield,
      List.append_cancel_left_eq, hc, writtenDigit_eq_printed hcd (hdigit hcalc), Ne, Ne,
      printed_eq_filler, hc]
    exact ⟨fun hne => ⟨fun _ => hne, fun h => absurd h hcont⟩, fun h => h.1 hcont⟩

/-- The number has a space in it exactly when it is printed with one. -/
lemma space_mem_number (h : Accepted reference zone mrz) :
    ' ' ∈ mrz.docNum ↔ (0x20 : UInt8) ∈ numberWithDigit mrz.version zone := by
  have htrim : ' ' ∈ trimEndMatches '<'
        (field (chars zone) mrz.version.layout.documentNumber 9) ↔
      ' ' ∈ field (chars zone) mrz.version.layout.documentNumber 9 := by
    have hsplit := List.rdropWhile_append_rtakeWhile (p := (· == '<'))
      (l := field (chars zone) mrz.version.layout.documentNumber 9)
    conv_rhs => rw [← hsplit]
    rw [List.mem_append]
    refine (or_iff_left fun hspace => ?_).symm
    exact absurd (List.mem_rtakeWhile_imp hspace) (by decide)
  rw [← space_mem_chars]
  by_cases hcont : Continued mrz.version zone
  · obtain ⟨body, last, cd, hbody, hnumber, hlast, -⟩ := h.docNum_continued hcont
    have hne : ' ' ≠ last := by
      rintro rfl
      have hspace : toDigit ' ' = none := by decide
      cases hspace.symm.trans hlast
    rw [numberWithDigit, if_pos hcont, chars_append, chars_printed, hbody, hnumber,
      List.mem_append, htrim, List.mem_append, List.mem_append, List.mem_singleton,
      or_iff_left hne]
  · obtain ⟨hnumber, cd, hcd, -⟩ := h.docNum_plain hcont
    have hne : ' ' ∉ field (chars zone) (mrz.version.layout.documentNumber + 9) 1 := by
      obtain ⟨c, hc⟩ := h.exists_char (i := mrz.version.layout.documentNumber + 9)
        (by cases mrz.version <;> decide)
      rw [hc] at hcd ⊢
      intro hspace
      rw [← List.mem_singleton.mp hspace] at hcd
      have hrefused : (cdValue [' ']).isOk = false := by decide
      rw [hcd, Outcome.isOk_ok] at hrefused
      exact Bool.noConfusion hrefused
    rw [numberWithDigit, if_neg hcont, chars_printed, field_succ _ 9, hnumber, htrim,
      List.mem_append, or_iff_left hne]

end Mrz.Accepted

/-! ## The key -/

namespace DBAKey

/-- The bytes that `key_seed` hashes. -/
def hashed (key : DBAKey) : Bytes := Utf8.encode key.kmrz

lemma keySeed_eq (P : Primitives) (key : DBAKey) :
    key.keySeed P = (P.sha1 key.hashed).take key.seedLen := rfl

lemma new_eq_ok {number : Str} {birth expiry : NaiveDate} {paceMode : Bool} {key : DBAKey} :
    new number birth expiry paceMode = .ok key ↔
      ∃ h : ∀ c ∈ number, isMrzChar c = true, key = ⟨number, birth, expiry, paceMode, h⟩ := by
  unfold new
  split
  · rename_i hvalid
    constructor
    · intro h
      exact ⟨isValidMrz_eq_ok hvalid, (Outcome.ok.inj h).symm⟩
    · rintro ⟨h, rfl⟩
      rfl
  · rename_i hinvalid
    constructor
    · intro h
      cases h
    · rintro ⟨h, -⟩
      rw [isValidMrz, List.find?_eq_none.mpr (by simpa using h)] at hinvalid
      cases hinvalid
  · rename_i hpanic
    rw [isValidMrz] at hpanic
    split at hpanic <;> cases hpanic

lemma kmrz_eq (key : DBAKey) :
    key.kmrz = (padRight key.mrtdNumber 9 '<' ++ writtenDigit (padRight key.mrtdNumber 9 '<')) ++
      (key.dob.formatYymmdd ++ writtenDigit key.dob.formatYymmdd) ++
      (key.doe.formatYymmdd ++ writtenDigit key.doe.formatYymmdd) := by
  unfold kmrz writtenDigit
  simp only [List.append_assoc]

/-- What is hashed is ASCII, however the key came about, if its dates are written in digits. -/
lemma isAscii_kmrz (key : DBAKey) (hdob : ∀ c ∈ key.dob.formatYymmdd, c.isDigit = true)
    (hdoe : ∀ c ∈ key.doe.formatYymmdd, c.isDigit = true) : IsAscii key.kmrz := by
  have hwritten : ∀ s, IsAscii (writtenDigit s) := by
    intro s
    apply isAscii_digits
    rw [List.all_eq_true]
    exact fun c hc => Nat.isDigit_of_mem_toDigits (by norm_num) (by norm_num) hc
  have hnumber : IsAscii (padRight key.mrtdNumber 9 '<') := by
    apply isAscii_of_isMrzChar
    intro c hc
    rw [padRight, List.mem_append] at hc
    rcases hc with hc | hc
    · have hvalid := key.mrtdNumber_valid c hc
      rw [isMrzChar, Bool.or_eq_true, Bool.or_eq_true, beq_iff_eq] at hvalid
      rcases hvalid with (hdigit | hupper) | hfiller
      · exact Or.inr (Or.inl hdigit)
      · exact Or.inl hupper
      · exact Or.inr (Or.inr hfiller)
    · exact Or.inr (Or.inr (List.eq_of_mem_replicate hc))
  rw [kmrz_eq]
  exact ((hnumber.append (hwritten _)).append
    ((isAscii_digits (List.all_eq_true.mpr hdob)).append (hwritten _))).append
    ((isAscii_digits (List.all_eq_true.mpr hdoe)).append (hwritten _))

/-- **The key of a zone that was read.**  For every zone that `from_bytes` accepts, `from_mrz`
succeeds with a key that hashes exactly the `MRZ_information` of the zone if and only if the zone
prints its number without a space, the three check digits as digits, and no filler at the end of
the nine characters of a number that runs over. -/
theorem fromMrz_iff (reference : NaiveDate) (zone : Bytes) (mrz : Mrz)
    (h : Mrz.fromBytes reference zone = .ok mrz) :
    (∃ key, fromMrz mrz = .ok key ∧ key.hashed = mrzInformation mrz.version zone) ↔
      PrintedPlainly mrz.version zone := by
  have hread := Mrz.accepted_of_fromBytes h
  have hsize := hread.length_text
  obtain ⟨_, hbirth⟩ := hread.birth
  obtain ⟨_, hexpiry⟩ := hread.expiry
  obtain ⟨hdob, hdobLength, hdob'⟩ := date_printed
    (by rw [hsize]; cases mrz.version <;> decide) hbirth
  obtain ⟨hdoe, hdoeLength, hdoe'⟩ := date_printed
    (by rw [hsize]; cases mrz.version <;> decide) hexpiry
  -- the three parts are compared from the right, where the lengths are those of the fields
  have hparts (hvalid : ∀ c ∈ mrz.docNum, isMrzChar c = true) :
      (DBAKey.mk mrz.docNum mrz.dateOfBirth mrz.dateOfExpiry false hvalid).hashed =
          mrzInformation mrz.version zone ↔
        ((¬ Continued mrz.version zone →
            printed zone (mrz.version.layout.documentNumber + 9) 1 ≠ [fillerByte]) ∧
          (Continued mrz.version zone → 1 < (continuation mrz.version zone).length →
            printed zone (mrz.version.layout.documentNumber + 8) 1 ≠ [fillerByte])) ∧
        printed zone (mrz.version.layout.birthDate + 6) 1 ≠ [fillerByte] ∧
        printed zone (mrz.version.layout.expiryDate + 6) 1 ≠ [fillerByte] := by
    have hbirthLength : (field (chars zone) mrz.version.layout.birthDate 7).length = 7 :=
      length_field (by rw [hsize]; cases mrz.version <;> decide)
    have hexpiryLength : (field (chars zone) mrz.version.layout.expiryDate 7).length = 7 :=
      length_field (by rw [hsize]; cases mrz.version <;> decide)
    have hascii := isAscii_kmrz
      ⟨mrz.docNum, mrz.dateOfBirth, mrz.dateOfExpiry, false, hvalid⟩ hdob hdoe
    rw [hashed, encode_eq_iff hascii, kmrz_eq, mrzInformation, chars_append,
      chars_append, chars_printed, chars_printed,
      append_inj_right_iff (hdoeLength.trans hexpiryLength.symm),
      append_inj_right_iff (hdobLength.trans hbirthLength.symm), hread.number_written, hdob',
      hdoe', and_assoc, ← printed_ne_filler, ← printed_ne_filler]
  constructor
  · rintro ⟨key, hkey, hhashed⟩
    obtain ⟨hvalid, rfl⟩ := new_eq_ok.mp hkey
    obtain ⟨⟨hdigit, hninth⟩, hbirthDigit, hexpiryDigit⟩ := (hparts hvalid).mp hhashed
    refine ⟨?_, hdigit, hbirthDigit, hexpiryDigit, hninth⟩
    intro hspace
    exact absurd (hvalid ' ' (hread.space_mem_number.mpr hspace)) (by decide)
  · intro hplain
    have hspace : ' ' ∉ mrz.docNum := fun hmem =>
      hplain.noSpace (hread.space_mem_number.mp hmem)
    obtain ⟨cd, hcd⟩ := hread.exists_checkDigit
    have hvalid := (isValidMrz_iff hcd).mpr hspace
    exact ⟨_, new_eq_ok.mpr ⟨hvalid, rfl⟩, (hparts hvalid).mpr
      ⟨⟨hplain.numberDigit, hplain.ninth⟩, hplain.birthDigit, hplain.expiryDigit⟩⟩

/-! ### Two zones -/

/-- A passport whose document number has one filler behind it. -/
def eriksson : Bytes := Mrz.asBytes
  "P<UTOERIKSSON<<ANNA<MARIA<<<<<<<<<<<<<<<<<<<L898902C<3UTO6908061F9406236ZE184226B<<<<<14"

/-- The same with a space in the place of the filler. -/
def spaced : Bytes := Mrz.asBytes
  "P<UTOERIKSSON<<ANNA<MARIA<<<<<<<<<<<<<<<<<<<L898902C 3UTO6908061F9406236ZE184226B<<<<<14"

instance (version : MrzVersion) (zone : Bytes) : Decidable (PrintedPlainly version zone) :=
  decidable_of_iff
    ((0x20 : UInt8) ∉ numberWithDigit version zone ∧
      (¬ Continued version zone →
        printed zone (version.layout.documentNumber + 9) 1 ≠ [fillerByte]) ∧
      printed zone (version.layout.birthDate + 6) 1 ≠ [fillerByte] ∧
      printed zone (version.layout.expiryDate + 6) 1 ≠ [fillerByte] ∧
      (Continued version zone → 1 < (continuation version zone).length →
        printed zone (version.layout.documentNumber + 8) 1 ≠ [fillerByte]))
    ⟨fun ⟨h₁, h₂, h₃, h₄, h₅⟩ => ⟨h₁, h₂, h₃, h₄, h₅⟩,
      fun ⟨h₁, h₂, h₃, h₄, h₅⟩ => ⟨h₁, h₂, h₃, h₄, h₅⟩⟩

theorem fromMrz_eriksson : ∃ mrz key, Mrz.fromBytes Mrz.juneFirst eriksson = .ok mrz ∧
    fromMrz mrz = .ok key ∧ key.hashed = mrzInformation .td3 eriksson := by
  have hread : (fun mrz : Mrz => mrz.version) <$> Mrz.fromBytes Mrz.juneFirst eriksson =
      .ok .td3 := by decide +kernel
  obtain ⟨mrz, hmrz, hversion⟩ := Outcome.map_eq_ok.mp hread
  obtain ⟨key, hkey, hhashed⟩ :=
    (fromMrz_iff Mrz.juneFirst eriksson mrz hmrz).mpr (by rw [hversion]; decide +kernel)
  exact ⟨mrz, key, hmrz, hkey, by rw [hhashed, hversion]⟩

/-- The space is accepted by the parser and refused by the key. -/
theorem fromMrz_refuses_space : ∃ mrz, Mrz.fromBytes Mrz.juneFirst spaced = .ok mrz ∧
    mrz.docNum = "L898902C ".toList ∧ fromMrz mrz = .err (.invalidMrzCharacter ' ') := by
  have hread : (fun mrz : Mrz => mrz.docNum) <$> Mrz.fromBytes Mrz.juneFirst spaced =
      .ok "L898902C ".toList := by decide +kernel
  obtain ⟨mrz, hmrz, hnumber⟩ := Outcome.map_eq_ok.mp hread
  refine ⟨mrz, hmrz, hnumber, ?_⟩
  have hinvalid : isValidMrz mrz.docNum = .err (.invalidMrzCharacter ' ') := by
    rw [hnumber]
    decide +kernel
  rw [fromMrz, new]
  split
  · rename_i hvalid
    cases hvalid.symm.trans hinvalid
  · rename_i e herr
    rw [Outcome.err.inj (herr.symm.trans hinvalid)]
  · rename_i hpanic
    cases hpanic.symm.trans hinvalid

end DBAKey

end Dmrtd
