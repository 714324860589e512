import IdentityCrates.Dmrtd.Lds.MrzFormats

/-!
# Long document numbers

ICAO 9303 spreads a document number of more than nine characters over the field of the number and
the optional data (`Icao.Layout.CarriesLong`).  `parse_extended_document_number` is to put the two
parts together again in the formats TD1 and TD2.

It does, with two exceptions that `extendedDocumentNumber` delimits exactly.

* The optional data are taken for a continuation only if more than two bytes of them are left once
  the fillers at their end are gone.  One further character and its check digit are two bytes, so
  that a number of ten characters with no other optional data is refused.
* Fields are trimmed before they are joined and the continuation ends at its first filler, so that a
  filler in the ninth place of the number, or anywhere after it, is lost.
-/

namespace Dmrtd

open Rust Text Octets Icao

namespace Mrz

section Continuation

variable {docNum optData number : Str} {optData2 : Option Str}

/-- When a continuation is read, and the number that comes of it.  The second field of optional data
has no say in it. -/
lemma parseExtendedDocumentNumber_filler :
    (∃ fields, parseExtendedDocumentNumber docNum ['<'] optData optData2 = .ok (number, fields)) ↔
      2 < byteLen optData ∧ ∃ lastChar, (beforeFiller optData).getLast? = some lastChar ∧
        number = docNum ++ (beforeFiller optData).dropLast ∧
        ∃ cd, toDigit lastChar = some cd ∧ calculateCheckDigit number = some cd := by
  unfold parseExtendedDocumentNumber
  by_cases hlen : 2 < byteLen optData
  · rw [if_pos ⟨rfl, hlen⟩]
    cases hlast : (beforeFiller optData).getLast? with
    | none => simp [hlast]
    | some lastChar =>
      simp only [hlast]
      constructor
      · rintro ⟨fields, hok⟩
        obtain ⟨cd, hcd, hrest⟩ := Outcome.bind_eq_ok.mp hok
        obtain ⟨_, hassert, hnumber⟩ := Outcome.bind_eq_ok.mp hrest
        cases hnumber
        exact ⟨hlen, lastChar, rfl, rfl, cd, Outcome.ofOption_eq_ok.mp hcd,
          assertCheckDigit_eq_ok.mp hassert⟩
      · rintro ⟨-, lastChar', heq, rfl, cd, hcd, hdigit⟩
        obtain rfl : lastChar = lastChar' := Option.some.inj heq
        refine ⟨(optData2.getD [], none), ?_⟩
        simp only [hcd, Outcome.ofOption_some, Outcome.ok_bind, assertCheckDigit_eq_ok.mpr hdigit,
          Outcome.pure_eq]
  · rw [if_neg fun h => hlen h.2]
    have hnone : parseUnsigned (2 ^ 32 - 1) ['<'] = none := by decide
    simp only [hnone, Outcome.ofOption_none, Outcome.err_bind]
    simp [hlen]

end Continuation

/-! ## The zone of a long number -/

section Zone

variable {L : Layout} {number rest text : Str}

/-- What it takes for a long number to be read back: the two dates are dates, no filler stands in
the ninth place of the number or after it, and the optional data are not just one further character
with its check digit. -/
structure LongNumberReadable (L : Layout) (reference : NaiveDate) (number rest text : Str) :
    Prop where
  birthDate : (parseDateYymmddWithRef (field text L.birthDate 6) false reference).isOk = true
  expiryDate : (parseDateYymmddWithRef (field text L.expiryDate 6) true reference).isOk = true
  ninth : number[8]? ≠ some '<'
  overflow : '<' ∉ number.drop 9
  more : ¬(number.length = 10 ∧ ∀ c ∈ rest, c = '<')

/-- The optional data pass for a continuation unless they are a single further character. -/
lemma two_lt_byteLen (h : L.CarriesLong number rest text) :
    2 < byteLen (trimEndMatches '<' (field text L.optionalData L.optionalLength)) ↔
      ¬(number.length = 10 ∧ ∀ c ∈ rest, c = '<') := by
  have hlong := h.long
  have hascii : IsAscii (trimEndMatches '<' (field text L.optionalData L.optionalLength)) :=
    isAscii_of_isMrzChar fun c hc => h.toChecked.isMrzChar_field _ _ c
      ((List.rdropWhile_prefix (p := (· == '<')) _).subset hc)
  rw [hascii.byteLen_eq, h.remainder,
    trimEndMatches_append_cons _ _ (checkChar_ne_filler number), ← trimEndMatches_eq_nil,
    List.length_append, List.length_cons, List.length_drop]
  rcases hrest : trimEndMatches '<' rest with _ | ⟨c, more⟩
  · simp only [List.length_nil, and_true]
    omega
  · simp only [List.length_cons, reduceCtorEq, and_false, not_false_iff, iff_true]
    omega

/-- The trimmed field of the number is the beginning of the number exactly when the ninth character
is not a filler. -/
lemma trimEndMatches_principal (hlong : 9 < number.length) :
    trimEndMatches '<' (number.take 9) = number.take 9 ↔ number[8]? ≠ some '<' := by
  have hninth : number[8]? = some number[8] := List.getElem?_eq_getElem (by omega)
  rw [show (9 : Nat) = 8 + 1 from rfl, List.take_add_one, hninth, Option.toList_some,
    trimEndMatches_concat_eq_self]
  simp

/-- The two parts of a long number, as the parser joins them, are the number. -/
lemma joined_eq_number (h : L.CarriesLong number rest text) :
    number = trimEndMatches '<' (field text L.documentNumber 9) ++
        (beforeFiller (trimEndMatches '<'
          (field text L.optionalData L.optionalLength))).dropLast ↔
      number[8]? ≠ some '<' ∧ '<' ∉ number.drop 9 := by
  have hlong := h.long
  rw [beforeFiller, takeWhile_trimEndMatches, h.principal, ← trimEndMatches_principal hlong]
  constructor
  · intro hjoined
    have hfiller : '<' ∉ number.drop 9 := by
      -- a continuation that is cut short inside the number cannot make up its length
      intro hmem
      obtain ⟨before, after, hsplit⟩ := List.append_of_mem hmem
      have hcut : ((field text L.optionalData L.optionalLength).takeWhile (· ≠ '<')).length ≤
          before.length := by
        rw [h.remainder, hsplit, List.append_assoc, List.cons_append, List.takeWhile_append]
        split
        · rw [List.takeWhile_cons_of_neg (by simp), List.append_nil]
        · exact (List.takeWhile_prefix _).length_le
      have hlen := congrArg List.length hjoined
      have hdrop := congrArg List.length hsplit
      have htrim := length_trimEndMatches_le '<' (number.take 9)
      simp only [List.length_append, List.length_dropLast, List.length_drop, List.length_cons,
        List.length_take] at hlen hdrop htrim
      omega
    rw [h.takeWhile_remainder hfiller, List.dropLast_concat] at hjoined
    refine ⟨?_, hfiller⟩
    have hwhole : trimEndMatches '<' (number.take 9) ++ number.drop 9 =
        number.take 9 ++ number.drop 9 := by
      rw [← hjoined, List.take_append_drop]
    exact List.append_cancel_right hwhole
  · rintro ⟨hprincipal, hfiller⟩
    rw [h.takeWhile_remainder hfiller, List.dropLast_concat, hprincipal, List.take_append_drop]

/-- `parse_extended_document_number` on the fields of the zone. -/
lemma parseExtendedDocumentNumber_carriesLong (h : L.CarriesLong number rest text)
    (optData2 : Option Str) :
    (∃ fields, parseExtendedDocumentNumber (trimEndMatches '<' (field text L.documentNumber 9))
        (field text (L.documentNumber + 9) 1)
        (trimEndMatches '<' (field text L.optionalData L.optionalLength)) optData2 =
          .ok (number, fields)) ↔
      ¬(number.length = 10 ∧ ∀ c ∈ rest, c = '<') ∧ number[8]? ≠ some '<' ∧
        '<' ∉ number.drop 9 := by
  rw [h.noCheckDigit, parseExtendedDocumentNumber_filler, two_lt_byteLen h]
  refine and_congr_right fun _ => ?_
  rw [← joined_eq_number h]
  constructor
  · rintro ⟨lastChar, -, hjoined, -⟩
    exact hjoined
  · intro hjoined
    have hfiller := ((joined_eq_number h).mp hjoined).2
    refine ⟨checkChar number, ?_, hjoined, checkDigit number, ?_, ?_⟩
    · rw [beforeFiller, takeWhile_trimEndMatches, h.takeWhile_remainder hfiller,
        List.getLast?_concat]
    · exact toDigit_digitChar (checkDigit_lt number)
    · exact calculateCheckDigit_eq h.isMrzChar_number

end Zone

/-! ## Reading it -/

section Reading

variable {reference : NaiveDate} {number rest : Str} {encoded : Bytes}

/-- The parsers of TD1 and TD2 both read two dates, put the number together and check the
composite.  When that comes out right, with `number` as the number. -/
lemma exists_ok_docNum {birth expiry : Outcome MrzParseError NaiveDate}
    {fields : Outcome MrzParseError (Str × Str × Option Str)}
    {composite : Outcome MrzParseError Unit}
    {build : NaiveDate → NaiveDate → Str × Str × Option Str → Mrz}
    (hbuild : ∀ b e f, (build b e f).docNum = f.1) :
    (∃ mrz, (do
        let b ← birth
        let e ← expiry
        let f ← fields
        composite
        return build b e f) = Outcome.ok mrz ∧ mrz.docNum = number) ↔
      birth.isOk = true ∧ expiry.isOk = true ∧ (∃ others, fields = .ok (number, others)) ∧
        composite = .ok () := by
  constructor
  · rintro ⟨mrz, hok, hnumber⟩
    obtain ⟨b, hb, hok⟩ := Outcome.bind_eq_ok.mp hok
    obtain ⟨e, he, hok⟩ := Outcome.bind_eq_ok.mp hok
    obtain ⟨⟨number', others⟩, hf, hok⟩ := Outcome.bind_eq_ok.mp hok
    obtain ⟨⟨⟩, hcomposite, hok⟩ := Outcome.bind_eq_ok.mp hok
    cases hok
    rw [hbuild] at hnumber
    refine ⟨Outcome.isOk_iff.mpr ⟨b, hb⟩, Outcome.isOk_iff.mpr ⟨e, he⟩, ⟨others, ?_⟩, hcomposite⟩
    rw [hf, ← hnumber]
  · rintro ⟨hb, he, ⟨others, hf⟩, hcomposite⟩
    obtain ⟨b, hb⟩ := Outcome.isOk_iff.mp hb
    obtain ⟨e, he⟩ := Outcome.isOk_iff.mp he
    refine ⟨build b e (number, others), ?_, hbuild _ _ _⟩
    rw [hb, he, hf, hcomposite]
    rfl

/-- A checked date is read exactly when it is a date. -/
lemma isOk_checkedDate {L : Layout} {text : Str} (h : L.Checked text) (reference : NaiveDate)
    (futureDate : Bool) (errMsg : String) {i : Nat}
    (hcd : field text (i + 6) 1 = [checkChar (field text i 6)]) :
    (checkedDate text i futureDate reference errMsg).isOk =
      (parseDateYymmddWithRef (field text i 6) futureDate reference).isOk := by
  rw [Bool.eq_iff_iff, Outcome.isOk_iff, Outcome.isOk_iff]
  exact exists_congr fun date => checkedDate_eq_ok (h.isMrzChar_field i 6) hcd

/-- The steps of a parser on the zone of a long number succeed, with that number, exactly when it is
readable. -/
lemma steps_iff_readable {L : Layout} {text : Str} (h : L.CarriesLong number rest text)
    (reference : NaiveDate) (optData2 : Option Str) (birthMsg expiryMsg compositeMsg : String) :
    (checkedDate text L.birthDate false reference birthMsg).isOk = true ∧
      (checkedDate text L.expiryDate true reference expiryMsg).isOk = true ∧
      (∃ others, parseExtendedDocumentNumber (trimEndMatches '<' (field text L.documentNumber 9))
        (field text (L.documentNumber + 9) 1)
        (trimEndMatches '<' (field text L.optionalData L.optionalLength)) optData2 =
          .ok (number, others)) ∧
      checkedText text (L.compositeText text) L.compositeDigit compositeMsg = .ok () ↔
    LongNumberReadable L reference number rest text := by
  rw [isOk_checkedDate h.toChecked _ _ _ h.birthDate,
    isOk_checkedDate h.toChecked _ _ _ h.expiryDate, parseExtendedDocumentNumber_carriesLong h]
  constructor
  · rintro ⟨hbirth, hexpiry, ⟨hmore, hninth, hoverflow⟩, -⟩
    exact ⟨hbirth, hexpiry, hninth, hoverflow, hmore⟩
  · rintro ⟨hbirth, hexpiry, hninth, hoverflow, hmore⟩
    refine ⟨hbirth, hexpiry, ⟨hmore, hninth, hoverflow⟩, ?_⟩
    exact checkedText_eq_ok h.toChecked.isMrzChar_compositeText h.composite

lemma length_chars (bs : Bytes) : (chars bs).length = bs.length := List.length_map _

lemma exists_fromBytes_td1 (h : td1.CarriesLong number rest (chars encoded)) :
    (∃ mrz, fromBytes reference encoded = .ok mrz ∧ mrz.docNum = number) ↔
      LongNumberReadable td1 reference number rest (chars encoded) := by
  have hlen : encoded.length = 90 := by rw [← length_chars, h.length]; rfl
  simp only [fromBytes, hlen, parseTd1_eq reference hlen, map_bind, map_pure]
  rw [exists_ok_docNum fun _ _ _ => rfl]
  exact steps_iff_readable h reference _ _ _ _

lemma exists_fromBytes_td2 (h : td2.CarriesLong number rest (chars encoded)) :
    (∃ mrz, fromBytes reference encoded = .ok mrz ∧ mrz.docNum = number) ↔
      LongNumberReadable td2 reference number rest (chars encoded) := by
  have hlen : encoded.length = 72 := by rw [← length_chars, h.length]; rfl
  simp only [fromBytes, hlen, parseTd2_eq reference hlen, map_bind, map_pure]
  rw [exists_ok_docNum fun _ _ _ => rfl]
  exact steps_iff_readable h reference _ _ _ _

/-- **Long document numbers, exactly when they are read.**  A zone of format TD1 or TD2 that carries
a document number of more than nine characters, with every check digit right, is parsed with the
whole number as its document number if and only if both dates are dates, no filler stands in the
ninth place of the number or after it, and the number is not one of ten characters with nothing but
fillers behind its check digit. -/
theorem extendedDocumentNumber (reference : NaiveDate) (L : Layout) (hL : L = td1 ∨ L = td2)
    (number rest : Str) (encoded : Bytes) (h : L.CarriesLong number rest (chars encoded)) :
    (∃ mrz, fromBytes reference encoded = .ok mrz ∧ mrz.docNum = number) ↔
      LongNumberReadable L reference number rest (chars encoded) := by
  rcases hL with rfl | rfl
  · exact exists_fromBytes_td1 h
  · exact exists_fromBytes_td2 h

/-! ### Two zones -/

/-- The bytes of an ASCII text. -/
def asBytes (s : String) : Bytes := s.toList.map fun c => UInt8.ofNat c.toNat

/-- A zone whose document number `D23145890734` runs over by three characters. -/
def stevenson : Bytes := asBytes
  "I<UTOD23145890<7349<<<<<<<<<<<3407127M9507122UTO<<<<<<<<<<<2STEVENSON<<PETER<JOHN<<<<<<<<<"

lemma stevenson_carriesLong :
    td1.CarriesLong "D23145890734".toList "<<<<<<<<<<<".toList (chars stevenson) := by
  decide

/-- The first of June 2026. -/
def juneFirst : NaiveDate := ⟨2026, 6, 1, by decide, by decide⟩

theorem extendedDocumentNumber_stevenson :
    ∃ mrz, fromBytes juneFirst stevenson = .ok mrz ∧ mrz.docNum = "D23145890734".toList :=
  (extendedDocumentNumber juneFirst td1 (Or.inl rfl) _ _ _ stevenson_carriesLong).mpr
    ⟨by decide +kernel, by decide +kernel, by decide +kernel, by decide +kernel, by decide +kernel⟩

/-- A zone whose document number `D231458907` runs over by one character, with nothing else in the
optional data. -/
def eriksson : Bytes := asBytes
  "I<UTOD23145890<76<<<<<<<<<<<<<7408122F1204159UTO<<<<<<<<<<<4ERIKSSON<<ANNA<MARIA<<<<<<<<<<"

lemma eriksson_carriesLong :
    td1.CarriesLong "D231458907".toList "<<<<<<<<<<<<<".toList (chars eriksson) := by
  decide

/-- The zone is in order, its dates are dates, and it is refused. -/
theorem single_overflow_refused :
    td1.CarriesLong "D231458907".toList "<<<<<<<<<<<<<".toList (chars eriksson) ∧
      (parseDateYymmddWithRef (field (chars eriksson) 30 6) false juneFirst).isOk = true ∧
      (parseDateYymmddWithRef (field (chars eriksson) 38 6) true juneFirst).isOk = true ∧
      ¬ ∃ mrz, fromBytes juneFirst eriksson = .ok mrz ∧ mrz.docNum = "D231458907".toList := by
  refine ⟨eriksson_carriesLong, by decide +kernel, by decide +kernel, ?_⟩
  rintro ⟨mrz, hok, -⟩
  have herr : (fromBytes juneFirst eriksson).isOk = false := by decide +kernel
  rw [hok, Outcome.isOk_ok] at herr
  exact Bool.noConfusion herr

end Reading

end Mrz

end Dmrtd
