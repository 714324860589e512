import IdentityCrates.Dmrtd.Lds.MrzFormats
import IdentityCrates.MrzParser.Parser

/-!
# The two parsers on one passport

The repository reads machine readable zones twice: `mrz-parser` reads the lines that a camera has
recognised, `dmrtd` the bytes of data group 1 of the chip.  Both are given the zone of one passport
here, in order in every respect (`ValidZone`), on the same day.

Both documentations say how a two-digit year becomes a year, and they say different things.
`mrz-parser` puts a birth in the twentieth century if its two digits are above those of today, and
an expiry if they are above 70; `dmrtd` takes the latest year that does not put the birth after
today, and the expiry no more than twenty years and five months after it.  Apart from that the
former turns fillers within a field into spaces, digits in a country into the letters they look
like, and `P` in the field of the sex into `F`.

`agree_iff` is the exact border: the zones on which the two parsers return the same document number,
countries, sex and dates.
-/

namespace MrzParser

open Rust Text Icao Octets

open Dmrtd (NaiveDate Mrz threshold isAfter)

/-! ## Zones that are in order -/

/-- The two digits of the year of a date field. -/
def twoDigitYear (s : Str) : Nat := ofDigits (field s 0 2)

/-- The month of a date field. -/
def monthOf (s : Str) : Nat := ofDigits (field s 2 2)

/-- The day of a date field. -/
def dayOf (s : Str) : Nat := ofDigits (field s 4 2)

/-- Six digits that are a day of the calendar, in the twentieth century or the one after it. -/
structure IsCalendarDate (s : Str) : Prop where
  length : s.length = 6
  digits : ∀ c ∈ s, c.isDigit = true
  real : (NaiveDate.fromYmdOpt (1900 + twoDigitYear s) (monthOf s) (dayOf s)).isSome = true ∨
    (NaiveDate.fromYmdOpt (2000 + twoDigitYear s) (monthOf s) (dayOf s)).isSome = true

instance (s : Str) : Decidable (IsCalendarDate s) :=
  decidable_of_iff (s.length = 6 ∧ (∀ c ∈ s, c.isDigit = true) ∧
    ((NaiveDate.fromYmdOpt (1900 + twoDigitYear s) (monthOf s) (dayOf s)).isSome = true ∨
      (NaiveDate.fromYmdOpt (2000 + twoDigitYear s) (monthOf s) (dayOf s)).isSome = true))
    ⟨fun h => ⟨h.1, h.2.1, h.2.2⟩, fun h => ⟨h.length, h.digits, h.real⟩⟩

/-- The zone of a passport: two lines of 44 characters with all check digits right and calendar
dates.  The check digit of the optional data may be a filler where there are none. -/
structure ValidZone (data : Str) : Prop extends td3.Checked data where
  documentNumber : field data 53 1 = [checkChar (field data 44 9)]
  optionalData : field data 86 1 = [checkChar (field data 72 14)] ∨
    (field data 86 1 = ['<'] ∧ ∀ c ∈ field data 72 14, c = '<')
  birth : IsCalendarDate (field data 57 6)
  expiry : IsCalendarDate (field data 65 6)

instance (data : Str) : Decidable (ValidZone data) :=
  decidable_of_iff (td3.Checked data ∧ field data 53 1 = [checkChar (field data 44 9)] ∧
    (field data 86 1 = [checkChar (field data 72 14)] ∨
      (field data 86 1 = ['<'] ∧ ∀ c ∈ field data 72 14, c = '<')) ∧
    IsCalendarDate (field data 57 6) ∧ IsCalendarDate (field data 65 6))
    ⟨fun h => ⟨h.1, h.2.1, h.2.2.1, h.2.2.2.1, h.2.2.2.2⟩,
      fun h => ⟨h.toChecked, h.documentNumber, h.optionalData, h.birth, h.expiry⟩⟩

/-! ## Agreement -/

/-- Both results are for the same holder and document. -/
structure SameHolder (scanned : MRZResult) (mrz : Mrz) : Prop where
  documentNumber : scanned.documentNumber = mrz.docNum
  country : scanned.countryCode = mrz.country
  nationality : scanned.nationalityCountryCode = mrz.nationality
  sex : scanned.sex = parseSex mrz.gender
  birth : scanned.birthDate = mrz.dateOfBirth
  expiry : scanned.expiryDate = mrz.dateOfExpiry

/-- Both parsers refuse the zone, or both accept it with the same result. -/
def Agree (today : NaiveDate) (encoded : Bytes) : Prop :=
  match parse today (some ((td3.lines (Dmrtd.chars encoded)).map some)),
    Mrz.fromBytes today encoded with
  | .ok scanned, .ok mrz => SameHolder scanned mrz
  | .err _, .err _ => True
  | _, _ => False

/-- The fillers of a field are all at its end. -/
def FillersAtEnd (s : Str) : Prop := '<' ∉ trimEndMatches '<' s

/-- A field that optical recognition could have misread: it has a digit that looks like a letter. -/
def HasLookAlikeDigit (s : Str) : Prop := ∃ c ∈ s, digitToLetter c ≠ c

/-- The zones and days on which the two readings come to the same. -/
structure ReadAlike (today : NaiveDate) (data : Str) : Prop where
  documentNumber : FillersAtEnd (field data 44 9)
  country : FillersAtEnd (field data 2 3) ∧ ¬ HasLookAlikeDigit (field data 2 3)
  nationality : FillersAtEnd (field data 54 3) ∧ ¬ HasLookAlikeDigit (field data 54 3)
  sex : field data 64 1 ≠ ['P']
  /-- The birth is not on a later day of this year. -/
  birth : ¬ (2000 + (twoDigitYear (field data 57 6) : Int) = today.year ∧
    (today.month < monthOf (field data 57 6) ∨
      (today.month = monthOf (field data 57 6) ∧ today.day < dayOf (field data 57 6))))
  /-- The expiry is read as one of this century by both, or by none. -/
  expiry : twoDigitYear (field data 65 6) ≤ 70 ↔
    isAfter (2000 + twoDigitYear (field data 65 6)) (monthOf (field data 65 6))
      (dayOf (field data 65 6)) (threshold true today) = false

/-! ## The century -/

section Century

variable {today : NaiveDate} {yy month day : Nat}

/-- The year of birth that `mrz-parser` and the one that `dmrtd` reads are the same, unless the day
is a later one of this year. -/
lemma birthYear_eq_iff (htoday : 2000 ≤ today.year) :
    (if (yy : Int) > max (today.year - 2000) 0 then 1900 else 2000) + (yy : Int) =
      Dmrtd.fullYear yy month day false today ↔
    ¬ (2000 + (yy : Int) = today.year ∧
      (today.month < month ∨ (today.month = month ∧ today.day < day))) := by
  have hafter : isAfter ((yy : Int) + 2000) month day (threshold false today) = true ↔
      today.year < yy + 2000 ∨ (today.year = yy + 2000 ∧
        (today.month < month ∨ (today.month = month ∧ today.day < day))) := by
    simp [isAfter, threshold]
  unfold Dmrtd.fullYear
  rw [max_eq_left (by omega)]
  by_cases hlate : isAfter ((yy : Int) + 2000) month day (threshold false today) = true
  · rw [if_pos hlate]
    rw [hafter] at hlate
    split <;> omega
  · rw [if_neg hlate]
    rw [hafter] at hlate
    split <;> omega

/-- The same of the year of expiry. -/
lemma expiryYear_eq_iff :
    (if (yy : Int) > 70 then 1900 else 2000) + (yy : Int) = Dmrtd.fullYear yy month day true today ↔
      (yy ≤ 70 ↔ isAfter (2000 + yy) month day (threshold true today) = false) := by
  unfold Dmrtd.fullYear
  rw [add_comm (2000 : Int)]
  cases isAfter ((yy : Int) + 2000) month day (threshold true today)
  all_goals
    simp only [if_true, if_false, Bool.false_eq_true, Bool.true_eq_false, iff_true, iff_false]
    split <;> omega

lemma twoDigitYear_lt {s : Str} (h : IsCalendarDate s) : twoDigitYear s < 100 := by
  obtain ⟨a₁, a₂, b₁, b₂, c₁, c₂, ⟨ha₁, ha₂⟩, -, -, rfl⟩ := exists_three_pairs h.length h.digits
  have hyear : twoDigitYear [a₁.digitChar, a₂.digitChar, b₁.digitChar, b₂.digitChar, c₁.digitChar,
      c₂.digitChar] = a₁ * 10 + a₂ := ofDigits_pair ha₁ ha₂
  rw [hyear]
  omega

/-- A calendar date is a day of the year that `mrz-parser` reads. -/
lemma isSome_of_milestone {s : Str} (h : IsCalendarDate s) {milestoneYear : Int}
    (hmilestone : 0 ≤ milestoneYear) :
    (NaiveDate.fromYmdOpt ((if (twoDigitYear s : Int) > milestoneYear then 1900 else 2000) +
      twoDigitYear s) (monthOf s) (dayOf s)).isSome = true := by
  have hlt := twoDigitYear_lt h
  have hreal : (1 ≤ monthOf s ∧ monthOf s ≤ 12) ∧ 1 ≤ dayOf s ∧
      dayOf s ≤ Dmrtd.daysInMonth (2000 + twoDigitYear s) (monthOf s) := by
    rcases h.real with hreal | hreal
    · rw [NaiveDate.isSome_fromYmdOpt] at hreal
      exact ⟨hreal.1, hreal.2.1, hreal.2.2.trans (Dmrtd.daysInMonth_le hlt _)⟩
    · exact NaiveDate.isSome_fromYmdOpt.mp hreal
  rw [NaiveDate.isSome_fromYmdOpt]
  split
  · rw [Dmrtd.daysInMonth_eq hlt (by omega)]
    exact hreal
  · exact hreal

end Century

/-! ## The two readings -/

section Readings

variable (today : NaiveDate) {data : Str}

lemma validateDigit_checkChar (value : Str) (e : MRZError) :
    validateDigit [checkChar value] value e = .ok () := by
  have hdigit : [checkChar value].head? >>= toDigit = some (getCheckDigit value) := by
    rw [getCheckDigit_eq]
    exact toDigit_digitChar (checkDigit_lt value)
  rw [validateDigit, if_neg (by simpa using hdigit)]

lemma fixDate_eq {s : Str} (h : IsCalendarDate s) : fixDate s = s :=
  replaceSimilarLettersWithDigits_eq fun c hc => Or.inl (h.digits c hc)

/-- The checks of the optional data and of the composite pass. -/
lemma validateRest_eq_ok (h : ValidZone data) (isVisa : Bool) :
    Td3.validateRest isVisa (field data 44 44) = .ok () := by
  have hfield : ∀ {i n : Nat}, i + n ≤ 44 → field (field data 44 44) i n = field data (44 + i) n :=
    fun hin => field_field data hin
  have hoptional : fixCheckDigit (field data 86 1) = field data 86 1 := by
    rcases h.optionalData with hcd | ⟨hcd, -⟩
    · rw [hcd, fixCheckDigit_checkChar]
    · rw [hcd]
      rfl
  have hcomposite : td3.compositeText data =
      field data 44 9 ++ [checkChar (field data 44 9)] ++ field data 57 6 ++
        [checkChar (field data 57 6)] ++ field data 65 6 ++ [checkChar (field data 65 6)] ++
        field data 72 14 ++ field data 86 1 := by
    have hbirth : field data 63 1 = [checkChar (field data 57 6)] := h.birthDate
    have hexpiry : field data 71 1 = [checkChar (field data 65 6)] := h.expiryDate
    have hnumber : field data 44 10 = field data 44 9 ++ field data 53 1 :=
      (field_append_field data 44 9 1).symm
    have hbirthRange : field data 57 7 = field data 57 6 ++ field data 63 1 :=
      (field_append_field data 57 6 1).symm
    have hrest : field data 65 22 = field data 65 6 ++ (field data 71 1 ++
        (field data 72 14 ++ field data 86 1)) := by
      rw [field_append_field, field_append_field, field_append_field]
    rw [← h.documentNumber, ← hbirth, ← hexpiry, Layout.compositeText]
    simp only [td3, List.map_cons, List.map_nil, List.flatten_cons, List.flatten_nil,
      List.append_nil, hnumber, hbirthRange, hrest, List.append_assoc]
  have hvalidOptional : Td3.validateOptionalData (field data 86 1) (field data 72 14) = .ok () := by
    unfold Td3.validateOptionalData
    dsimp only
    rw [if_pos]
    rcases h.optionalData with hcd | ⟨hcd, hfillers⟩
    · rw [hcd, getCheckDigit_eq]
      exact Or.inl (toDigit_digitChar (checkDigit_lt _))
    · exact Or.inr ⟨hcd, trimField_fillers hfillers⟩
  unfold Td3.validateRest
  cases isVisa
  · have hcd : field data 87 1 = [checkChar (td3.compositeText data)] := h.composite
    have hbirth : field data 63 1 = [checkChar (field data 57 6)] := h.birthDate
    have hexpiry : field data 71 1 = [checkChar (field data 65 6)] := h.expiryDate
    simp only [hfield, Nat.reduceAdd, Nat.reduceLeDiff, hoptional, h.documentNumber, hbirth, hexpiry,
      fixDate_eq h.birth, fixDate_eq h.expiry, fixCheckDigit_checkChar, hvalidOptional,
      Outcome.ok_bind, hcd, ← hcomposite, validateDigit_checkChar, Bool.false_eq_true, if_false]
  · rfl

/-- What `mrz-parser` reads. -/
lemma parse_validZone (h : ValidZone data) :
    ∃ scanned, parse today (some ((td3.lines data).map some)) = .ok scanned ∧
      scanned.documentNumber = trimField (field data 44 9) ∧
      scanned.countryCode = trimField ((field data 2 3).map digitToLetter) ∧
      scanned.nationalityCountryCode = trimField ((field data 54 3).map digitToLetter) ∧
      scanned.sex = parseSex (fixSex (field data 64 1)) ∧
      NaiveDate.fromYmdOpt ((if (twoDigitYear (field data 57 6) : Int) >
          max (today.year - 2000) 0 then 1900 else 2000) + twoDigitYear (field data 57 6))
        (monthOf (field data 57 6)) (dayOf (field data 57 6)) = some scanned.birthDate ∧
      NaiveDate.fromYmdOpt ((if (twoDigitYear (field data 65 6) : Int) > 70 then 1900 else 2000) +
          twoDigitYear (field data 65 6))
        (monthOf (field data 65 6)) (dayOf (field data 65 6)) = some scanned.expiryDate := by
  have hfirst : ∀ {i n : Nat}, i + n ≤ 44 → field (field data 0 44) i n = field data (0 + i) n :=
    fun hin => field_field data hin
  have hsecond : ∀ {i n : Nat}, i + n ≤ 44 → field (field data 44 44) i n = field data (44 + i) n :=
    fun hin => field_field data hin
  have hlen : ∀ i ≤ 44, (field data i 44).length = 44 := fun i hi =>
    h.length_field (show i + 44 ≤ 88 by omega)
  have hascii : ∀ i, IsAscii (field data i 44) := fun i =>
    isAscii_of_isMrzChar (h.isMrzChar_field i 44)
  have hparse := parse_td3 today (h.isMrzChar_field 0 44) (h.isMrzChar_field 44 44)
    (hlen 0 (by omega)) (hlen 44 (by omega))
  have hbirthCd : field data 63 1 = [checkChar (field data 57 6)] := h.birthDate
  have hexpiryCd : field data 71 1 = [checkChar (field data 65 6)] := h.expiryDate
  obtain ⟨birth, hbirth⟩ := Option.isSome_iff_exists.mp
    (isSome_of_milestone h.birth (le_max_right (today.year - 2000) 0))
  obtain ⟨expiry, hexpiry⟩ := Option.isSome_iff_exists.mp
    (isSome_of_milestone h.expiry (show (0 : Int) ≤ 70 by omega))
  have hbirthDate : parseBirthDate today (field data 57 6) = .ok birth := by
    rw [parseBirthDate, parseDate_eq h.birth.length h.birth.digits]
    exact congrArg (Outcome.ofOption _) hbirth
  have hexpiryDate : parseExpiryDate (field data 65 6) = .ok expiry := by
    rw [parseExpiryDate, parseDate_eq h.expiry.length h.expiry.digits]
    exact congrArg (Outcome.ofOption _) hexpiry
  rw [show parse today (some ((td3.lines data).map some)) = _ from hparse,
    Td3.parseLines_eq today (hascii 0) (hascii 44) (hlen 0 (by omega)) (hlen 44 (by omega)),
    validateRest_eq_ok h]
  simp only [hfirst, hsecond, Nat.reduceAdd, Nat.reduceLeDiff, h.documentNumber, hbirthCd,
    hexpiryCd, fixDate_eq h.birth, fixDate_eq h.expiry, fixCheckDigit_checkChar,
    validateDigit_checkChar, Outcome.ok_bind, hbirthDate, hexpiryDate, Outcome.pure_eq]
  exact ⟨_, rfl, rfl, rfl, rfl, rfl, hbirth, hexpiry⟩

/-- The date that `dmrtd` reads. -/
lemma parseDateYymmdd_eq_ok {s : Str} (h : IsCalendarDate s) {futureDate : Bool}
    {reference date : NaiveDate} :
    Dmrtd.parseDateYymmddWithRef s futureDate reference = .ok date ↔
      NaiveDate.fromYmdOpt (Dmrtd.fullYear (twoDigitYear s) (monthOf s) (dayOf s) futureDate
        reference) (monthOf s) (dayOf s) = some date := by
  have hdigits : s.filter Char.isDigit = s := List.filter_eq_self.mpr h.digits
  rw [Dmrtd.parseDateYymmddWithRef_eq_ok, hdigits, and_iff_right h.length]
  rfl

variable {encoded : Bytes}

/-- The checks of the document number and of the optional data pass. -/
lemma checkedText_validZone (h : ValidZone data) (msg₁ msg₂ msg₃ : String) :
    Mrz.checkedText data (trimEndMatches '<' (field data 44 9)) 53 msg₁ = .ok () ∧
      Mrz.checkedText data (trimEndMatches '<' (field data 72 14)) 86 msg₂ = .ok () ∧
      Mrz.checkedText data (td3.compositeText data) 87 msg₃ = .ok () := by
  have hmem : ∀ i n, ∀ c ∈ trimEndMatches '<' (field data i n), IsMrzChar c := fun i n c hc =>
    h.chars c (mem_of_mem_field ((List.rdropWhile_prefix (p := (· == '<')) _).subset hc))
  have hchar : ∀ s, checkChar (trimEndMatches '<' s) = checkChar s := fun s => by
    rw [checkChar, checkChar, checkDigit_trimEndMatches]
  refine ⟨?_, ?_, Mrz.checkedText_eq_ok h.isMrzChar_compositeText h.composite⟩
  · exact Mrz.checkedText_eq_ok (hmem 44 9) (by rw [hchar, h.documentNumber])
  · rcases h.optionalData with hcd | ⟨hcd, hfillers⟩
    · exact Mrz.checkedText_eq_ok (hmem 72 14) (by rw [hchar, hcd])
    · rw [Mrz.checkedText, hcd, trimEndMatches_eq_nil.mpr hfillers]
      rfl

lemma length_of_validZone (h : ValidZone (Dmrtd.chars encoded)) : encoded.length = 88 := by
  have hchars : (Dmrtd.chars encoded).length = encoded.length := List.length_map _
  rw [← hchars, h.length]
  rfl

/-- What `dmrtd` reads. -/
lemma fromBytes_eq_ok (h : ValidZone (Dmrtd.chars encoded)) {mrz : Mrz}
    (hok : Mrz.fromBytes today encoded = .ok mrz) :
    mrz.docNum = trimEndMatches '<' (field (Dmrtd.chars encoded) 44 9) ∧
      mrz.country = trimEndMatches '<' (field (Dmrtd.chars encoded) 2 3) ∧
      mrz.nationality = trimEndMatches '<' (field (Dmrtd.chars encoded) 54 3) ∧
      mrz.gender = trimEndMatches '<' (field (Dmrtd.chars encoded) 64 1) ∧
      Dmrtd.parseDateYymmddWithRef (field (Dmrtd.chars encoded) 57 6) false today =
        .ok mrz.dateOfBirth ∧
      Dmrtd.parseDateYymmddWithRef (field (Dmrtd.chars encoded) 65 6) true today =
        .ok mrz.dateOfExpiry := by
  have hlen := length_of_validZone h
  simp only [Mrz.fromBytes, hlen, Mrz.parseTd3_eq today hlen, map_bind, map_pure] at hok
  obtain ⟨⟨⟩, -, hok⟩ := Outcome.bind_eq_ok.mp hok
  obtain ⟨birth, hbirth, hok⟩ := Outcome.bind_eq_ok.mp hok
  obtain ⟨expiry, hexpiry, hok⟩ := Outcome.bind_eq_ok.mp hok
  obtain ⟨⟨⟩, -, hok⟩ := Outcome.bind_eq_ok.mp hok
  obtain ⟨⟨⟩, -, hok⟩ := Outcome.bind_eq_ok.mp hok
  cases hok
  exact ⟨rfl, rfl, rfl, rfl,
    (Mrz.checkedDate_eq_ok (h.isMrzChar_field 57 6) h.birthDate).mp hbirth,
    (Mrz.checkedDate_eq_ok (h.isMrzChar_field 65 6) h.expiryDate).mp hexpiry⟩

/-- It reads the zone if it reads the dates. -/
lemma isOk_fromBytes (h : ValidZone (Dmrtd.chars encoded)) {birth expiry : NaiveDate}
    (hbirth : Dmrtd.parseDateYymmddWithRef (field (Dmrtd.chars encoded) 57 6) false today =
      .ok birth)
    (hexpiry : Dmrtd.parseDateYymmddWithRef (field (Dmrtd.chars encoded) 65 6) true today =
      .ok expiry) : ∃ mrz, Mrz.fromBytes today encoded = .ok mrz := by
  have hlen := length_of_validZone h
  have hchecks := fun msg₁ msg₂ msg₃ => checkedText_validZone h msg₁ msg₂ msg₃
  have hbirth' : ∀ msg, Mrz.checkedDate (Dmrtd.chars encoded) 57 false today msg = .ok birth :=
    fun _ => (Mrz.checkedDate_eq_ok (h.isMrzChar_field 57 6) h.birthDate).mpr hbirth
  have hexpiry' : ∀ msg, Mrz.checkedDate (Dmrtd.chars encoded) 65 true today msg = .ok expiry :=
    fun _ => (Mrz.checkedDate_eq_ok (h.isMrzChar_field 65 6) h.expiryDate).mpr hexpiry
  simp only [Mrz.fromBytes, hlen, Mrz.parseTd3_eq today hlen]
  rw [(hchecks _ "" "").1, hbirth', hexpiry', Outcome.ok_bind, Outcome.ok_bind, Outcome.ok_bind,
    (hchecks "" _ "").2.1, (hchecks "" "" _).2.2]
  exact ⟨_, rfl⟩

end Readings

/-! ## When they agree -/

section Agreement

variable {today : NaiveDate} {encoded : Bytes}

/-- A letter that a digit is mistaken for, and any other character of the alphabet but the filler,
is a character of the alphabet and no filler. -/
lemma digitToLetter_spec (c : Char) (hc : IsMrzChar c) (hne : c ≠ '<') :
    IsMrzChar (digitToLetter c) ∧ digitToLetter c ≠ '<' := by
  unfold digitToLetter
  split
  · decide
  · decide
  · decide
  · decide
  · exact ⟨hc, hne⟩

/-- A country is read alike. -/
lemma country_eq_iff {data : Str} (h : ValidZone data) (i : Nat) :
    trimField ((field data i 3).map digitToLetter) = trimEndMatches '<' (field data i 3) ↔
      FillersAtEnd (field data i 3) ∧ ¬ HasLookAlikeDigit (field data i 3) := by
  rw [trimField_map_eq (h.isMrzChar_field i 3) rfl digitToLetter_spec]
  refine and_congr_right fun _ => ?_
  simp [HasLookAlikeDigit]

/-- A document number is read alike. -/
lemma documentNumber_eq_iff {data : Str} (h : ValidZone data) :
    trimField (field data 44 9) = trimEndMatches '<' (field data 44 9) ↔
      FillersAtEnd (field data 44 9) := by
  have hmap := trimField_map_eq (f := id) (h.isMrzChar_field 44 9) rfl fun c hc hne => ⟨hc, hne⟩
  rw [List.map_id] at hmap
  rw [hmap]
  exact and_iff_left fun c _ => rfl

/-- The sex is read alike. -/
lemma sex_eq_iff {data : Str} (h : ValidZone data) :
    parseSex (fixSex (field data 64 1)) = parseSex (trimEndMatches '<' (field data 64 1)) ↔
      field data 64 1 ≠ ['P'] := by
  obtain ⟨c, hc⟩ : ∃ c, field data 64 1 = [c] :=
    List.length_eq_one_iff.mp (h.length_field (show 64 + 1 ≤ 88 by omega))
  have hmrz : IsMrzChar c := h.isMrzChar_field 64 1 c (by rw [hc]; exact List.mem_singleton_self c)
  rw [hc]
  by_cases hp : c = 'P'
  · rw [hp]
    decide
  · have hfix : fixSex [c] = [c] := by
      unfold fixSex
      rw [List.map_singleton]
      split
      · exact absurd rfl hp
      · exact absurd hmrz (by decide)
      · rfl
    have hne : [c] ≠ ['P'] := by simpa using hp
    rw [hfix]
    refine ⟨fun _ => hne, fun _ => ?_⟩
    by_cases hfiller : c = '<'
    · rw [hfiller]
      decide
    · have htrim : trimEndMatches '<' [c] = [c] :=
        (trimEndMatches_concat_eq_self (s := [])).mpr hfiller
      rw [htrim]

/-- Dates of one month and day are the same in one year only. -/
lemma eq_iff_of_fromYmdOpt {y y' : Int} {month day : Nat} {date date' : NaiveDate}
    (h : NaiveDate.fromYmdOpt y month day = some date)
    (h' : NaiveDate.fromYmdOpt y' month day = some date') : date = date' ↔ y = y' := by
  obtain ⟨rfl, -, -⟩ := NaiveDate.fromYmdOpt_eq_some.mp h
  obtain ⟨rfl, hmonth', hday'⟩ := NaiveDate.fromYmdOpt_eq_some.mp h'
  constructor
  · rintro rfl
    rfl
  · intro hyear
    rw [hyear, h', Option.some.injEq] at h
    exact h.symm

/-- **Two parsers, one passport.**  On every zone of a passport that is in order, and on every day
from the year 2000 on, the two parsers accept the zone with the same document number, countries, sex
and dates if and only if the fillers of the document number and of the countries are at their ends,
no digit in a country looks like a letter, the sex is not `P`, the birth is not on a later day of
this year, and both put the expiry in the same century. -/
theorem agree_iff (today : NaiveDate) (htoday : 2000 ≤ today.year) (encoded : Bytes)
    (h : ValidZone (Dmrtd.chars encoded)) :
    Agree today encoded ↔ ReadAlike today (Dmrtd.chars encoded) := by
  obtain ⟨scanned, hscanned, hnumber, hcountry, hnationality, hsex, hbirth, hexpiry⟩ :=
    parse_validZone today h
  unfold Agree
  rw [hscanned]
  constructor
  · intro hagree
    cases hok : Mrz.fromBytes today encoded with
    | err e => rw [hok] at hagree; exact hagree.elim
    | panic => rw [hok] at hagree; exact hagree.elim
    | ok mrz =>
      rw [hok] at hagree
      obtain ⟨hnumber', hcountry', hnationality', hgender', hbirth', hexpiry'⟩ :=
        fromBytes_eq_ok today h hok
      rw [parseDateYymmdd_eq_ok h.birth] at hbirth'
      rw [parseDateYymmdd_eq_ok h.expiry] at hexpiry'
      exact {
        documentNumber := (documentNumber_eq_iff h).mp (by
          rw [← hnumber, ← hnumber', hagree.documentNumber])
        country := (country_eq_iff h 2).mp (by rw [← hcountry, ← hcountry', hagree.country])
        nationality := (country_eq_iff h 54).mp (by
          rw [← hnationality, ← hnationality', hagree.nationality])
        sex := (sex_eq_iff h).mp (by rw [← hsex, ← hgender', hagree.sex])
        birth := (birthYear_eq_iff htoday).mp
          ((eq_iff_of_fromYmdOpt hbirth hbirth').mp hagree.birth)
        expiry := expiryYear_eq_iff.mp
          ((eq_iff_of_fromYmdOpt hexpiry hexpiry').mp hagree.expiry) }
  · intro halike
    have hbirthYear := (birthYear_eq_iff htoday).mpr halike.birth
    have hexpiryYear := expiryYear_eq_iff.mpr halike.expiry
    rw [hbirthYear, ← parseDateYymmdd_eq_ok h.birth] at hbirth
    rw [hexpiryYear, ← parseDateYymmdd_eq_ok h.expiry] at hexpiry
    obtain ⟨mrz, hok⟩ := isOk_fromBytes today h hbirth hexpiry
    rw [hok]
    obtain ⟨hnumber', hcountry', hnationality', hgender', hbirth', hexpiry'⟩ :=
      fromBytes_eq_ok today h hok
    exact {
      documentNumber := by
        rw [hnumber, hnumber', (documentNumber_eq_iff h).mpr halike.documentNumber]
      country := by rw [hcountry, hcountry', (country_eq_iff h 2).mpr halike.country]
      nationality := by
        rw [hnationality, hnationality', (country_eq_iff h 54).mpr halike.nationality]
      sex := by rw [hsex, hgender', (sex_eq_iff h).mpr halike.sex]
      birth := Outcome.ok.inj (hbirth.symm.trans hbirth')
      expiry := Outcome.ok.inj (hexpiry.symm.trans hexpiry') }

end Agreement

/-! ### Two zones -/

/-- The bytes of an ASCII text. -/
def toOctets (s : String) : Bytes := s.toList.map fun c => UInt8.ofNat c.toNat

/-- The first of November 2026. -/
def novemberFirst : NaiveDate := ⟨2026, 11, 1, by decide, by decide⟩

/-- A zone of a passport that expired in 2012. -/
def passport : Bytes := toOctets
  "P<UTOERIKSSON<<ANNA<MARIA<<<<<<<<<<<<<<<<<<<L898902C36UTO7408122F1204159ZE184226B<<<<<10"

theorem agree_passport : Agree novemberFirst passport :=
  (agree_iff novemberFirst (by decide) passport (by decide +kernel)).mpr
    { documentNumber := by unfold FillersAtEnd; decide +kernel
      country := by unfold FillersAtEnd HasLookAlikeDigit; decide +kernel
      nationality := by unfold FillersAtEnd HasLookAlikeDigit; decide +kernel
      sex := by decide +kernel
      birth := by decide +kernel
      expiry := by decide +kernel }

/-- The same passport with `55` as the year of expiry. -/
def passportOf55 : Bytes := toOctets
  "P<UTOERIKSSON<<ANNA<MARIA<<<<<<<<<<<<<<<<<<<L898902C36UTO7408122F5504156ZE184226B<<<<<12"

/-- The zone is in order, both parsers accept it, and its expiry is in 2055 for the one and in 1955
for the other. -/
theorem disagree_passportOf55 :
    ValidZone (Dmrtd.chars passportOf55) ∧ ¬ Agree novemberFirst passportOf55 := by
  have hscanned : ((parse novemberFirst
      (some ((td3.lines (Dmrtd.chars passportOf55)).map some))).isOkAnd fun scanned =>
        scanned.expiryDate.year = 2055) = true := by decide +kernel
  have hmrz : ((Mrz.fromBytes novemberFirst passportOf55).isOkAnd fun mrz =>
      mrz.dateOfExpiry.year = 1955) = true := by decide +kernel
  refine ⟨by decide +kernel, ?_⟩
  obtain ⟨scanned, hscanned, hnew⟩ := Outcome.isOkAnd_iff.mp hscanned
  obtain ⟨mrz, hmrz, hold⟩ := Outcome.isOkAnd_iff.mp hmrz
  unfold Agree
  rw [hscanned, hmrz]
  intro hagree
  rw [decide_eq_true_eq, hagree.expiry] at hnew
  rw [decide_eq_true_eq, hnew] at hold
  exact absurd hold (by decide)

end MrzParser
