import IdentityCrates.MrzParser.Misreading
import IdentityCrates.MrzParser.Parser

/-!
# Misread characters

Optical recognition takes letters for the digits they look like and digits for letters.  Where a
field has letters only or digits only the parser can tell, and repairs it.  Two runs are compared
here: on the lines as they are printed and on lines in which any of the letters of letter fields and
any of the digits of digit fields are misread (`Misreading`).

A field that is repaired before it is read, or not touched at all, is the same in both runs, and so
passports, visas and cards of two lines in the layout of the standard are read alike.  What is read
*before* it is repaired is another matter (`RawReadsAgree`):

* the name line of a card of three lines, which is not repaired at all;
* the country of such a card, by which the document number is cut out of the first line, and the
  check digit by which the pattern of the country decides where the number ends;
* the first letter of a French identity card, which is what it is recognised by, and its month of
  issue, which is part of the document number.

`ocr_robust` says that these are all: the two runs agree if these reads do, and on a zone that is
read at all they agree only then.
-/

namespace MrzParser

open Rust Text Icao

open Dmrtd (NaiveDate)

/-! ## Two readings of a zone -/

/-- A line of `n` characters of the alphabet. -/
structure IsLine (n : Nat) (s : Str) : Prop where
  length : s.length = n
  chars : ∀ c ∈ s, IsMrzChar c

instance (n : Nat) (s : Str) : Decidable (IsLine n s) :=
  decidable_of_iff (s.length = n ∧ ∀ c ∈ s, IsMrzChar c)
    ⟨fun h => ⟨h.1, h.2⟩, fun h => ⟨h.length, h.chars⟩⟩

lemma IsLine.isAscii {n : Nat} {s : Str} (h : IsLine n s) : IsAscii s :=
  isAscii_of_isMrzChar h.chars

lemma IsLine.of_misread {n : Nat} {letters digits : List (Nat × Nat)} {clean corrupt : Str}
    (hline : IsLine n clean) (h : Misread letters digits clean corrupt) : IsLine n corrupt :=
  ⟨h.length.trans hline.length, h.isMrzChar hline.chars⟩

/-- Is the document a visa? -/
def isVisa (firstLine : Str) : Bool := ['V'].isPrefixOf firstLine

/-- The position of the check digit of the document number in the first line of a TD1 card: behind
the number that the pattern of the country finds there, and otherwise behind nine characters or
behind the overflow of a long number. -/
def checkDigitPosition (firstLine : Str) : Option Nat :=
  match getCountryPattern firstLine with
  | some pattern =>
    match Td1.countryFields pattern firstLine with
    | .ok document => some (5 + document.number.length)
    | _ => none
  | none =>
    if field firstLine 14 1 = ['<'] then
      some (14 + (trimEndMatches '<' (field firstLine 15 13)).length)
    else some 14

/-- That position, as the one position of a field of digits. -/
def checkDigits (firstLine : Str) : List (Nat × Nat) :=
  (checkDigitPosition firstLine).toList.map fun p => (p, 1)

/-- The lines `corrupt` are the lines `clean` of a zone with letters misread in its letter fields
(type, countries and names) and digits misread in its digit fields (dates and check digits). -/
inductive Misreading : List Str → List Str → Prop
  | td1 {a b c a' b' c' : Str} (ha : IsLine 30 a) (hb : IsLine 30 b) (hc : IsLine 30 c)
      (first : Misread [(0, 5)] (checkDigits a) a a')
      (second : Misread [(15, 3)] [(0, 7), (8, 7), (29, 1)] b b')
      (third : Misread [(0, 30)] [] c c') : Misreading [a, b, c] [a', b', c']
  | td2 {a b a' b' : Str} (ha : IsLine 36 a) (hb : IsLine 36 b)
      (standard : Td2.isFrenchId a = false)
      (first : Misread [(0, 36)] [] a a')
      (second : Misread [(10, 3)]
        ([(9, 1), (13, 7), (21, 7)] ++ if isVisa a then [] else [(35, 1)]) b b') :
      Misreading [a, b] [a', b']
  | french {a b a' b' : Str} (ha : IsLine 36 a) (hb : IsLine 36 b)
      (french : Td2.isFrenchId a = true)
      (first : Misread [(0, 30)] [] a a')
      (second : Misread [(13, 14)] [(0, 4), (12, 1), (27, 7), (35, 1)] b b') :
      Misreading [a, b] [a', b']
  | td3 {a b a' b' : Str} (ha : IsLine 44 a) (hb : IsLine 44 b)
      (first : Misread [(0, 44)] [] a a')
      (second : Misread [(10, 3)]
        ([(9, 1), (13, 7), (21, 7)] ++ if isVisa a then [] else [(42, 1), (43, 1)]) b b') :
      Misreading [a, b] [a', b']

/-- The document number of a TD1 card whose country has a pattern ends in both first lines at the
same place.

If the country is misread the pattern is not used, and the number has nine characters by the layout.
If the check digit is misread the pattern must end in front of it in the corrupt line as well, and
the last character of the number must not pass for the check digit of the ones before it. -/
def SplitAgrees (pattern : MRZCountryPattern) (a a' : Str) : Prop :=
  if a'.take 5 = a.take 5 then
    a' = a ∨ ∃ k, checkDigitPosition a = some (5 + k) ∧
      pattern.captures (a'.drop 5) = some (field a 5 k) ∧
      ¬ (2 ≤ k ∧ Td1.validates (field a 5 (k - 1)) (field a (5 + (k - 1)) 1) = true)
  else checkDigitPosition a = some 14 ∧ field a 14 1 ≠ ['<']

/-- What is read before it is repaired is read alike: the name line and the split of the first line
of a TD1 card, the first character and the month of issue of a French identity card. -/
def RawReadsAgree : List Str → List Str → Prop
  | [a, _, c], [a', _, c'] =>
    c' = c ∧ ∀ pattern, getCountryPattern a = some pattern → SplitAgrees pattern a a'
  | [a, b], [a', b'] =>
    a.length = 36 → Td2.isFrenchId a = true → a'.head? = a.head? ∧ b'.take 4 = b.take 4
  | _, _ => True

lemma isVisa_eq {letters digits : List (Nat × Nat)} {clean corrupt : Str}
    (h : Misread letters digits clean corrupt) : isVisa corrupt = isVisa clean := by
  have hfield : ∀ s : Str, isVisa s = ((field s 0 1).map (· == 'V') == [true]) := by
    intro s
    cases s with
    | nil => rfl
    | cons c s => simp [isVisa, field, List.isPrefixOf, eq_comm]
  rw [hfield, hfield, h.isChar_eq (by decide)]

/-! ## The layout of the standard -/

section Standard

variable (today : NaiveDate) {a b a' b' : Str}

/-- What the parsers of TD2 and TD3 make of the fields of the two lines up to the optional data. -/
structure SameFields (a b a' b' : Str) : Prop where
  documentType : fixDocumentType (field a' 0 2) = fixDocumentType (field a 0 2)
  country : fixCountryCode (field a' 2 3) = fixCountryCode (field a 2 3)
  names : fixNames (a'.drop 5) = fixNames (a.drop 5)
  number : field b' 0 9 = field b 0 9
  numberCd : fixCheckDigit (field b' 9 1) = fixCheckDigit (field b 9 1)
  nationality : fixNationality (field b' 10 3) = fixNationality (field b 10 3)
  birth : fixDate (field b' 13 6) = fixDate (field b 13 6)
  birthCd : fixCheckDigit (field b' 19 1) = fixCheckDigit (field b 19 1)
  sex : field b' 20 1 = field b 20 1
  expiry : fixDate (field b' 21 6) = fixDate (field b 21 6)
  expiryCd : fixCheckDigit (field b' 27 1) = fixCheckDigit (field b 27 1)

/-- Misreadings do not show in these fields, whatever is misread in the optional data. -/
lemma sameFields {n : Nat} (ha : IsLine n a) (first : Misread [(0, n)] [] a a')
    {rest : List (Nat × Nat)} (hrest : ∀ r ∈ rest, 28 ≤ r.1)
    (second : Misread [(10, 3)] ([(9, 1), (13, 7), (21, 7)] ++ rest) b b') :
    SameFields a b a' b' := by
  have ha' := ha.of_misread first
  have hdigits : ∀ i k, i + k ≤ 28 → Apart [(9, 1), (13, 7), (21, 7)] i k →
      Apart ([(9, 1), (13, 7), (21, 7)] ++ rest) i k := by
    intro i k hik hapart r hr
    rcases List.mem_append.mp hr with hr | hr
    · exact hapart r hr
    · exact Or.inl (hik.trans (hrest r hr))
  have hnone : ∀ i k, Apart [] i k := fun i k r hr => absurd hr List.not_mem_nil
  exact {
    documentType := first.letters_eq (hnone _ _)
    country := first.letters_eq (hnone _ _)
    names := by
      rw [← field_eq_drop ha.length, ← field_eq_drop ha'.length]
      exact first.letters_eq (hnone _ _)
    number := second.field_eq (by decide) (hdigits _ _ (by decide) (by decide))
    numberCd := second.digits_eq (by decide)
    nationality := second.letters_eq (hdigits _ _ (by decide) (by decide))
    birth := second.digits_eq (by decide)
    birthCd := second.digits_eq (by decide)
    sex := second.field_eq (by decide) (hdigits _ _ (by decide) (by decide))
    expiry := second.digits_eq (by decide)
    expiryCd := second.digits_eq (by decide) }

/-- Passports and their visas. -/
lemma td3_robust (ha : IsLine 44 a) (hb : IsLine 44 b) (first : Misread [(0, 44)] [] a a')
    (second : Misread [(10, 3)]
      ([(9, 1), (13, 7), (21, 7)] ++ if isVisa a then [] else [(42, 1), (43, 1)]) b b') :
    Td3.parseLines today a' b' = Td3.parseLines today a b := by
  have ha' := ha.of_misread first
  have hb' := hb.of_misread second
  have hvisa : ['V'].isPrefixOf a' = ['V'].isPrefixOf a := isVisa_eq first
  have same := sameFields ha first (by split <;> simp) second
  have hoptionalCd : fixCheckDigit (field b' 42 1) = fixCheckDigit (field b 42 1) :=
    second.digits_eq (by decide)
  have hcompositeCd : fixCheckDigit (field b' 43 1) = fixCheckDigit (field b 43 1) :=
    second.digits_eq (by decide)
  rw [Td3.parseLines_eq today ha'.isAscii hb'.isAscii ha'.length hb'.length,
    Td3.parseLines_eq today ha.isAscii hb.isAscii ha.length hb.length]
  simp only [Td3.validateRest, hvisa, same.documentType, same.country, same.names, same.number,
    same.numberCd, same.nationality, same.birth, same.birthCd, same.sex, same.expiry,
    same.expiryCd, hoptionalCd, hcompositeCd]
  cases hv : isVisa a
  all_goals
    rw [hv] at second
    rw [show ['V'].isPrefixOf a = _ from hv]
  · have hoptional : field b' 28 14 = field b 28 14 := second.field_eq (by decide) (by decide)
    simp only [hoptional, if_false, Bool.false_eq_true]
  · have hoptional : field b' 28 16 = field b 28 16 := second.field_eq (by decide) (by decide)
    simp only [hoptional, if_true]

/-- Cards of two lines and their visas. -/
lemma td2_robust (ha : IsLine 36 a) (hb : IsLine 36 b) (first : Misread [(0, 36)] [] a a')
    (second : Misread [(10, 3)]
      ([(9, 1), (13, 7), (21, 7)] ++ if isVisa a then [] else [(35, 1)]) b b') :
    Td2.parseLines today a' b' = Td2.parseLines today a b := by
  have ha' := ha.of_misread first
  have hb' := hb.of_misread second
  have hvisa : ['V'].isPrefixOf a' = ['V'].isPrefixOf a := isVisa_eq first
  have same := sameFields ha first (by split <;> simp) second
  have hcompositeCd : fixCheckDigit (field b' 35 1) = fixCheckDigit (field b 35 1) :=
    second.digits_eq (by decide)
  rw [Td2.parseLines_eq today ha'.isAscii hb'.isAscii ha'.length hb'.length,
    Td2.parseLines_eq today ha.isAscii hb.isAscii ha.length hb.length]
  simp only [Td2.validateRest, hvisa, same.documentType, same.country, same.names, same.number,
    same.numberCd, same.nationality, same.birth, same.birthCd, same.sex, same.expiry,
    same.expiryCd, hcompositeCd]
  cases hv : isVisa a
  all_goals
    rw [hv] at second
    rw [show ['V'].isPrefixOf a = _ from hv]
  · have hoptional : field b' 28 7 = field b 28 7 := second.field_eq (by decide) (by decide)
    simp only [hoptional, if_false, Bool.false_eq_true]
  · have hoptional : field b' 28 8 = field b 28 8 := second.field_eq (by decide) (by decide)
    simp only [hoptional, if_true]

/-- The French layout is recognised by letters, of which only the first can be misread. -/
lemma isFrenchId_iff {s : Str} (hs : IsLine 36 s) :
    Td2.isFrenchId s = true ↔ s.head? = some 'I' ∧ field s 2 3 = ['F', 'R', 'A'] := by
  have hfield := get?_eq hs.isAscii (show 2 ≤ 5 by omega) (by rw [hs.length]; omega)
  rw [Td2.isFrenchId, hfield, Bool.and_eq_true]
  cases s with
  | nil => simp
  | cons c s =>
    rw [List.head?_cons, Option.some.injEq, eq_comm (a := c)]
    simp [List.isPrefixOf]

lemma isFrenchId_of_misread {letters : List (Nat × Nat)} (ha : IsLine 36 a)
    (first : Misread letters [] a a') (h : Td2.isFrenchId a' = true) :
    Td2.isFrenchId a = true := by
  obtain ⟨hhead, hfrance⟩ := (isFrenchId_iff (ha.of_misread first)).mp h
  have hupper : ∀ c ∈ field a' 2 3, c.isUpper = true := by
    rw [hfrance]
    decide
  have hnone : ¬ Within [] 0 := fun ⟨r, hr, _⟩ => absurd hr List.not_mem_nil
  rw [isFrenchId_iff ha, first.field_of_isUpper (by decide) hupper]
  rw [List.head?_eq_getElem?] at hhead ⊢
  exact ⟨first.getElem?_of_isUpper hnone (by decide) hhead, hfrance⟩

end Standard

/-! ## French identity cards -/

section French

variable (today : NaiveDate) {a b a' b' : Str}

/-- A corrupt French identity card, of which the first character and the month of issue are read
right, is read right. -/
lemma french_robust (ha : IsLine 36 a) (hb : IsLine 36 b) (hfrench : Td2.isFrenchId a = true)
    (first : Misread [(0, 30)] [] a a')
    (second : Misread [(13, 14)] [(0, 4), (12, 1), (27, 7), (35, 1)] b b')
    (hhead : a'.head? = a.head?) (hmonth : b'.take 4 = b.take 4) :
    Td2.isFrenchId a' = true ∧ Td2.parseFrenchId today a' b' = Td2.parseFrenchId today a b := by
  have ha' := ha.of_misread first
  have hb' := hb.of_misread second
  have hnone : ∀ i k, Apart [] i k := fun i k r hr => absurd hr List.not_mem_nil
  obtain ⟨hi, hfrance⟩ := (isFrenchId_iff ha).mp hfrench
  have hfrance' : field a' 2 3 = ['F', 'R', 'A'] := by
    rw [← hfrance]
    refine first.field_eq_of_forall (hnone _ _) ?_
    rw [hfrance]
    decide
  have hnumber : field b' 0 12 = field b 0 12 := by
    have hhigh : field b' 4 8 = field b 4 8 := second.field_eq (by decide) (by decide)
    rw [← field_append_field b' 0 4 8, ← field_append_field b 0 4 8, Nat.zero_add, hhigh]
    exact congrArg (· ++ field b 4 8) hmonth
  refine ⟨(isFrenchId_iff ha').mpr ⟨hhead.trans hi, hfrance'⟩, ?_⟩
  rw [Td2.parseFrenchId_eq today ha'.isAscii hb'.isAscii ha'.length hb'.length,
    Td2.parseFrenchId_eq today ha.isAscii hb.isAscii ha.length hb.length]
  have htype : fixDocumentType (field a' 0 2) = fixDocumentType (field a 0 2) :=
    first.letters_eq (hnone _ _)
  have hcountry : fixCountryCode (field a' 2 3) = fixCountryCode (field a 2 3) :=
    first.letters_eq (hnone _ _)
  have hsurnames : fixNames (field a' 5 25) = fixNames (field a 5 25) :=
    first.letters_eq (hnone _ _)
  have hoffice : field a' 30 6 = field a 30 6 := first.field_eq (by decide) (hnone _ _)
  have hnumberCd : fixCheckDigit (field b' 12 1) = fixCheckDigit (field b 12 1) :=
    second.digits_eq (by decide)
  have hgivenNames : fixNames (field b' 13 14) = fixNames (field b 13 14) :=
    second.letters_eq (by decide)
  have hbirth : fixDate (field b' 27 6) = fixDate (field b 27 6) := second.digits_eq (by decide)
  have hbirthCd : fixCheckDigit (field b' 33 1) = fixCheckDigit (field b 33 1) :=
    second.digits_eq (by decide)
  have hissue : fixDate (field b' 0 4) = fixDate (field b 0 4) := second.digits_eq (by decide)
  have hdepartment : field b' 4 3 = field b 4 3 := second.field_eq (by decide) (by decide)
  have hsex : field b' 34 1 = field b 34 1 := second.field_eq (by decide) (by decide)
  have hcompositeCd : fixCheckDigit (field b' 35 1) = fixCheckDigit (field b 35 1) :=
    second.digits_eq (by decide)
  rw [htype, hcountry, hsurnames, hoffice, hnumber, hnumberCd, hgivenNames, hbirth, hbirthCd,
    hissue, hdepartment, hsex, hcompositeCd]

/-- An accepted French identity card has a second personal number, and a card in the layout of the
standard has none. -/
lemma personalNumber2_french {r : MRZResult} (ha : IsLine 36 a) (hb : IsLine 36 b)
    (h : Td2.parseFrenchId today a b = .ok r) :
    r.personalNumber2.isSome ∧ r.documentNumber = parseDocumentNumber (field b 0 12) := by
  rw [Td2.parseFrenchId_eq today ha.isAscii hb.isAscii ha.length hb.length] at h
  obtain ⟨⟨⟩, -, h⟩ := Outcome.bind_eq_ok.mp h
  obtain ⟨⟨⟩, -, h⟩ := Outcome.bind_eq_ok.mp h
  obtain ⟨⟨⟩, -, h⟩ := Outcome.bind_eq_ok.mp h
  obtain ⟨dates, -, h⟩ := Outcome.bind_eq_ok.mp h
  cases h
  exact ⟨rfl, rfl⟩

lemma personalNumber2_standard {r : MRZResult} (ha : IsLine 36 a) (hb : IsLine 36 b)
    (h : Td2.parseLines today a b = .ok r) : r.personalNumber2 = none := by
  rw [Td2.parseLines_eq today ha.isAscii hb.isAscii ha.length hb.length] at h
  obtain ⟨⟨⟩, -, h⟩ := Outcome.bind_eq_ok.mp h
  obtain ⟨⟨⟩, -, h⟩ := Outcome.bind_eq_ok.mp h
  obtain ⟨⟨⟩, -, h⟩ := Outcome.bind_eq_ok.mp h
  obtain ⟨⟨⟩, -, h⟩ := Outcome.bind_eq_ok.mp h
  obtain ⟨birthDate, -, h⟩ := Outcome.bind_eq_ok.mp h
  obtain ⟨expiryDate, -, h⟩ := Outcome.bind_eq_ok.mp h
  cases h
  rfl

/-- A field that reads the same in both is the same in both. -/
lemma field_eq_of_trimField_eq {letters digits : List (Nat × Nat)} {clean corrupt : Str} {l : Nat}
    (hclean : IsLine l clean) (h : Misread letters digits clean corrupt) {i n : Nat}
    (heq : trimField (field corrupt i n) = trimField (field clean i n)) :
    field corrupt i n = field clean i n := by
  have hcorrupt := hclean.of_misread h
  have hfilter := congrArg (List.filter fun c => !isWhitespace c) heq
  rw [filter_trimField fun c hc => hcorrupt.chars c (mem_of_mem_field hc),
    filter_trimField fun c hc => hclean.chars c (mem_of_mem_field hc)] at hfilter
  exact eq_of_fillers (h.fillers_eq i n) hfilter

/-- Only then. -/
lemma french_exact (ha : IsLine 36 a) (hb : IsLine 36 b) (hfrench : Td2.isFrenchId a = true)
    (first : Misread [(0, 30)] [] a a')
    (second : Misread [(13, 14)] [(0, 4), (12, 1), (27, 7), (35, 1)] b b')
    (hok : (Td2.parseFrenchId today a b).isOk = true)
    (heq : (if Td2.isFrenchId a' then Td2.parseFrenchId today a' b'
      else Td2.parseLines today a' b') = Td2.parseFrenchId today a b) :
    a'.head? = a.head? ∧ b'.take 4 = b.take 4 := by
  have ha' := ha.of_misread first
  have hb' := hb.of_misread second
  obtain ⟨r, hr⟩ := Outcome.isOk_iff.mp hok
  obtain ⟨hsome, hnumber⟩ := personalNumber2_french today ha hb hr
  rw [hr] at heq
  by_cases hfrench' : Td2.isFrenchId a' = true
  · rw [if_pos hfrench'] at heq
    refine ⟨?_, ?_⟩
    · rw [((isFrenchId_iff ha).mp hfrench).1, ((isFrenchId_iff ha').mp hfrench').1]
    · have htrim := (personalNumber2_french today ha' hb' heq).2.symm.trans hnumber
      have hfield := field_eq_of_trimField_eq hb second htrim
      calc b'.take 4 = (field b' 0 12).take 4 := (take_field b' 0 (by omega)).symm
        _ = (field b 0 12).take 4 := by rw [hfield]
        _ = b.take 4 := take_field b 0 (by omega)
  · rw [if_neg hfrench'] at heq
    rw [personalNumber2_standard today ha' hb' heq] at hsome
    exact absurd hsome (by simp)

end French

/-! ## Cards of three lines: the document number -/

section Number

open Td1

variable {a a' : Str}

/-- The fields of a document number with its check digit repaired. -/
def repaired (d : NumberFields) : NumberFields := { d with checkDigit := fixCheckDigit d.checkDigit }

lemma apart_checkDigits {i n : Nat}
    (h : ∀ p, checkDigitPosition a = some p → i + n ≤ p ∨ p + 1 ≤ i) :
    Apart (checkDigits a) i n := by
  intro r hr
  unfold checkDigits at hr
  obtain ⟨p, hp, rfl⟩ := List.mem_map.mp hr
  exact h p (Option.mem_toList.mp hp)

/-- What a pattern makes of a line, if anything, and where the check digit is then. -/
lemma countryFields_eq_ok {pattern : MRZCountryPattern} {d : NumberFields} (ha : IsLine 30 a)
    (hpattern : getCountryPattern a = some pattern) (h : countryFields pattern a = .ok d) :
    ∃ k, 5 + k < 30 ∧ (∀ c ∈ field a 5 k, c.isUpper = true ∨ c.isDigit = true) ∧
      d = fieldsOfLength a k ∧ checkDigitPosition a = some (5 + k) := by
  rcases countryFields_cases (List.mem_of_find?_eq_some hpattern) ha.isAscii ha.length with
    herr | ⟨k, hk, hchars, hok⟩
  · rw [herr] at h
    exact absurd h (by simp)
  · rw [hok] at h
    cases h
    refine ⟨k, hk, hchars, rfl, ?_⟩
    have hlen : (field a 5 k).length = k := length_field (by rw [ha.length]; omega)
    simp only [checkDigitPosition, hpattern, hok, fieldsOfLength, hlen]

lemma countryFields_of_position {pattern : MRZCountryPattern} {k : Nat} (ha : IsLine 30 a)
    (hpattern : getCountryPattern a = some pattern) (h : checkDigitPosition a = some (5 + k)) :
    5 + k < 30 ∧ countryFields pattern a = .ok (fieldsOfLength a k) := by
  cases hd : countryFields pattern a with
  | ok d =>
    obtain ⟨k', hk', -, hd', hposition⟩ := countryFields_eq_ok ha hpattern hd
    rw [h, Option.some.injEq] at hposition
    obtain rfl : k = k' := by omega
    exact ⟨hk', by rw [hd']⟩
  | err e =>
    simp only [checkDigitPosition, hpattern, hd] at h
    exact absurd h (by simp)
  | panic =>
    simp only [checkDigitPosition, hpattern, hd] at h
    exact absurd h (by simp)

lemma le_checkDigitPosition {p : Nat} (ha : IsLine 30 a) (h : checkDigitPosition a = some p) :
    5 ≤ p := by
  cases hpattern : getCountryPattern a with
  | some pattern =>
    cases hd : countryFields pattern a with
    | ok d =>
      obtain ⟨k, -, -, -, hposition⟩ := countryFields_eq_ok ha hpattern hd
      rw [h, Option.some.injEq] at hposition
      omega
    | err e =>
      simp only [checkDigitPosition, hpattern, hd] at h
      exact absurd h (by simp)
    | panic =>
      simp only [checkDigitPosition, hpattern, hd] at h
      exact absurd h (by simp)
  | none =>
    simp only [checkDigitPosition, hpattern] at h
    split at h
    · rw [Option.some.injEq] at h
      omega
    · rw [Option.some.injEq] at h
      omega

/-- The corrupt line has the pattern of a country only if that country was not misread. -/
lemma getCountryPattern_corrupt (ha : IsLine 30 a) (first : Misread [(0, 5)] (checkDigits a) a a')
    {pattern : MRZCountryPattern} (h : getCountryPattern a' = some pattern) :
    a'.take 5 = a.take 5 := by
  have hupper : ∀ c ∈ field a' 0 5, c.isUpper = true := by
    rw [show field a' 0 5 = pattern.idPrefix from take_of_getCountryPattern h]
    exact (patterns_spec pattern (List.mem_of_find?_eq_some h)).2.2
  have hapart : Apart (checkDigits a) 0 5 :=
    apart_checkDigits fun p hp => Or.inl (by have := le_checkDigitPosition ha hp; omega)
  exact (first.field_of_isUpper hapart hupper).symm

/-- A number at its place in the layout is read right. -/
lemma defaultFields_robust (ha : IsLine 30 a) (first : Misread [(0, 5)] (checkDigits a) a a')
    (hpattern : getCountryPattern a = none) :
    repaired <$> defaultFields a' = repaired <$> defaultFields a := by
  have ha' := ha.of_misread first
  have hposition : checkDigitPosition a =
      if field a 14 1 = ['<'] then
        some (14 + (trimEndMatches '<' (field a 15 13)).length)
      else some 14 := by
    simp only [checkDigitPosition, hpattern]
  have hrest : ∀ {p : Nat}, checkDigitPosition a = some p →
      a'.drop (p + 1) = a.drop (p + 1) := by
    intro p hp
    have hle := le_checkDigitPosition ha hp
    rw [← field_eq_drop ha.length, ← field_eq_drop ha'.length]
    refine first.field_eq (by simp [Apart]; omega) (apart_checkDigits fun q hq => ?_)
    rw [hp, Option.some.injEq] at hq
    omega
  by_cases hlong : field a 14 1 = ['<']
  · have hlong' := (first.eq_filler_iff 14).mpr hlong
    rw [if_pos hlong] at hposition
    have htrim := length_trimEndMatches_of_fillers (first.fillers_eq 15 13)
    cases hn : (trimEndMatches '<' (field a 15 13)).length with
    | zero =>
      rw [hn] at htrim
      rw [defaultFields_eq ha.isAscii ha.length, defaultFields_eq ha'.isAscii ha'.length,
        if_pos hlong, if_pos hlong', List.length_eq_zero_iff.mp hn,
        List.length_eq_zero_iff.mp htrim]
      rfl
    | succ n =>
      rw [hn] at htrim hposition
      have hleft : field a' 5 9 = field a 5 9 :=
        first.field_eq (by decide) (apart_checkDigits fun p hp => by
          rw [hposition, Option.some.injEq] at hp
          omega)
      have hright : field a' 15 n = field a 15 n :=
        first.field_eq (by simp [Apart]) (apart_checkDigits fun p hp => by
          rw [hposition, Option.some.injEq] at hp
          omega)
      have hcd : fixCheckDigit (field a' (15 + n) 1) = fixCheckDigit (field a (15 + n) 1) :=
        first.digits_eq (by simp [Apart]; omega)
      have hbehind : a'.drop (15 + (n + 1)) = a.drop (15 + (n + 1)) := by
        rw [show 15 + (n + 1) = 14 + (n + 1) + 1 by omega]
        exact hrest hposition
      rw [defaultFields_long ha.isAscii ha.length hlong hn,
        defaultFields_long ha'.isAscii ha'.length hlong' htrim, Outcome.map_ok, Outcome.map_ok,
        repaired, repaired, hleft, hright, hcd, hbehind]
  · have hlong' := (first.eq_filler_iff 14).not.mpr hlong
    rw [if_neg hlong] at hposition
    have hnumber : field a' 5 9 = field a 5 9 :=
      first.field_eq (by decide) (apart_checkDigits fun p hp => by
        rw [hposition, Option.some.injEq] at hp
        omega)
    have hcd : fixCheckDigit (field a' 14 1) = fixCheckDigit (field a 14 1) :=
      first.digits_eq (by decide)
    have hoptional : field a' 15 15 = field a 15 15 := by
      rw [show 15 = 30 - 15 from rfl, field_eq_drop ha.length, field_eq_drop ha'.length]
      exact hrest hposition
    rw [defaultFields_eq ha.isAscii ha.length, defaultFields_eq ha'.isAscii ha'.length,
      if_neg hlong, if_neg hlong', Outcome.map_ok, Outcome.map_ok, repaired, repaired, hnumber, hcd,
      hoptional]

/-- A number behind the prefix of its country is read right when it ends where it ended. -/
lemma fieldsOfLength_robust {k : Nat} (ha : IsLine 30 a)
    (first : Misread [(0, 5)] (checkDigits a) a a') (hk : checkDigitPosition a = some (5 + k)) :
    repaired (fieldsOfLength a' k) = repaired (fieldsOfLength a k) := by
  have ha' := ha.of_misread first
  have hnumber : field a' 5 k = field a 5 k :=
    first.field_eq (by simp [Apart]) (apart_checkDigits fun p hp => by
      rw [hk, Option.some.injEq] at hp
      omega)
  have hcd : fixCheckDigit (field a' (5 + k) 1) = fixCheckDigit (field a (5 + k) 1) :=
    first.digits_eq (by simp [Apart])
  have hoptional : a'.drop (5 + k + 1) = a.drop (5 + k + 1) := by
    rw [← field_eq_drop ha.length, ← field_eq_drop ha'.length]
    exact first.field_eq (by simp [Apart]; omega) (apart_checkDigits fun p hp => by
      rw [hk, Option.some.injEq] at hp
      omega)
  rw [fieldsOfLength, fieldsOfLength, repaired, repaired, hnumber, hcd, hoptional]

/-- The fields of the document number are read right where the split of the line is. -/
lemma numberFields_robust (ha : IsLine 30 a) (first : Misread [(0, 5)] (checkDigits a) a a')
    (hsplit : ∀ pattern, getCountryPattern a = some pattern → SplitAgrees pattern a a') :
    repaired <$> numberFields a' = repaired <$> numberFields a := by
  have ha' := ha.of_misread first
  unfold numberFields
  cases hpattern : getCountryPattern a with
  | none =>
    have hpattern' : getCountryPattern a' = none := by
      cases hsome : getCountryPattern a' with
      | none => rfl
      | some pattern =>
        rw [getCountryPattern_congr (getCountryPattern_corrupt ha first hsome), hpattern] at hsome
        exact absurd hsome (by simp)
    rw [hpattern']
    exact defaultFields_robust ha first hpattern
  | some pattern =>
    have hagree := hsplit pattern hpattern
    unfold SplitAgrees at hagree
    split at hagree
    · rename_i hstart
      rw [getCountryPattern_congr hstart, hpattern]
      dsimp only
      rcases hagree with rfl | ⟨k, hk, hcaptures, hnot⟩
      · rfl
      · obtain ⟨hlt, hclean⟩ := countryFields_of_position ha hpattern hk
        have hnumber : field a' 5 (k - 1) = field a 5 (k - 1) :=
          first.field_eq (by simp [Apart]) (apart_checkDigits fun p hp => by
            rw [hk, Option.some.injEq] at hp
            omega)
        have hcorrupt : countryFields pattern a' = .ok (fieldsOfLength a' k) := by
          rw [countryFields_eq (List.mem_of_find?_eq_some hpattern) ha'.isAscii ha'.length,
            hcaptures]
          dsimp only [splitNumber]
          rw [length_field (by rw [ha.length]; omega)]
          by_cases htwo : 2 ≤ k
          · have hlast : field a' (5 + (k - 1)) 1 = field a (5 + (k - 1)) 1 :=
              first.field_eq (by simp [Apart]) (apart_checkDigits fun p hp => by
                rw [hk, Option.some.injEq] at hp
                omega)
            rw [hnumber, hlast, if_neg hnot, if_pos hlt, ite_self]
          · rw [if_neg (htwo ∘ And.left), if_pos hlt, ite_self]
        rw [hcorrupt, hclean, Outcome.map_ok, Outcome.map_ok, fieldsOfLength_robust ha first hk]
    · rename_i hstart
      obtain ⟨hk, hfiller⟩ := hagree
      obtain ⟨-, hclean⟩ := countryFields_of_position (k := 9) ha hpattern hk
      have hpattern' : getCountryPattern a' = none := by
        cases hsome : getCountryPattern a' with
        | none => rfl
        | some pattern' => exact absurd (getCountryPattern_corrupt ha first hsome) hstart
      have hcorrupt : defaultFields a' = .ok (fieldsOfLength a' 9) := by
        rw [defaultFields_eq ha'.isAscii ha'.length,
          if_neg ((first.eq_filler_iff 14).not.mpr hfiller), fieldsOfLength,
          show 15 = 30 - 15 from rfl, field_eq_drop ha'.length]
        rfl
      rw [hpattern']
      dsimp only
      rw [hcorrupt, hclean, Outcome.map_ok, Outcome.map_ok, fieldsOfLength_robust (k := 9) ha first hk]

/-- Letters and digits are no fillers. -/
lemma ne_filler {c : Char} (h : c.isUpper = true ∨ c.isDigit = true) : c ≠ '<' := by
  rintro rfl
  exact absurd h (by decide)

/-- How many characters of a number that reads the same are no fillers. -/
lemma length_filter_of_parseDocumentNumber {s t : Str} (hs : ∀ c ∈ s, IsMrzChar c)
    (ht : ∀ c ∈ t, IsMrzChar c) (h : parseDocumentNumber s = parseDocumentNumber t) :
    (s.filter (· ≠ '<')).length = (t.filter (· ≠ '<')).length := by
  have hfilter := congrArg (List.filter fun c => !isWhitespace c) h
  rw [parseDocumentNumber, parseDocumentNumber, filter_trimField hs, filter_trimField ht] at hfilter
  rw [hfilter]

/-- A text of one character that passes for a check digit is a digit. -/
lemma isDigit_of_validates {doc : Str} {x : Char} (h : validates doc [x] = true) :
    x.isDigit = true := by
  unfold validates at h
  exact isDigit_of_parseUnsigned (eq_of_beq h)

/-- If the check digit in a corrupt line is a digit it was not misread. -/
lemma eq_of_isDigit {k : Nat} (first : Misread [(0, 5)] (checkDigits a) a a')
    (hstart : a'.take 5 = a.take 5) (hk : checkDigitPosition a = some (5 + k))
    (hdigit : ∀ x, a'[5 + k]? = some x → x.isDigit = true) : a' = a := by
  apply List.ext_getElem?
  intro i
  cases hc : a[i]? with
  | none =>
    rw [List.getElem?_eq_none_iff, ← first.length] at hc
    exact List.getElem?_eq_none hc
  | some c =>
    cases hd : a'[i]? with
    | none =>
      rw [List.getElem?_eq_none_iff, first.length, ← List.getElem?_eq_none_iff, hc] at hd
      exact absurd hd (by simp)
    | some d =>
      rcases first.char i c d hc hd with heq | ⟨⟨r, hr, -, hhigh⟩, -⟩ | ⟨⟨r, hr, hlow, hhigh⟩, hcd⟩
      · rw [heq]
      · rw [List.mem_singleton.mp hr] at hhigh
        have htake := congrArg (fun s : Str => s[i]?) hstart
        simp only [List.getElem?_take] at htake
        rw [if_pos (by omega), if_pos (by omega), hc, hd] at htake
        exact htake
      · unfold checkDigits at hr
        rw [hk, Option.toList_some, List.map_singleton, List.mem_singleton] at hr
        rw [hr] at hlow hhigh
        obtain rfl : i = 5 + k := by simp at hlow hhigh; omega
        have hx := hdigit d hd
        simp only [DigitMisread, List.mem_cons, Prod.mk.injEq, List.not_mem_nil, or_false] at hcd
        rcases hcd with ⟨-, rfl⟩ | ⟨-, rfl⟩ | ⟨-, rfl⟩ | ⟨-, rfl⟩ | ⟨-, rfl⟩ | ⟨-, rfl⟩ |
          ⟨-, rfl⟩ <;> exact absurd hx (by decide)

lemma length_fieldsOfLength {k : Nat} (ha : IsLine 30 a) (hk : 5 + k < 30) :
    (fieldsOfLength a k).number.length = k :=
  length_field (by rw [ha.length]; omega)

/-- A pattern that ends the number in the corrupt line where it ended in the clean one. -/
lemma splitAgrees_of_length {pattern : MRZCountryPattern} {k : Nat} (ha : IsLine 30 a)
    (first : Misread [(0, 5)] (checkDigits a) a a') (hpattern : getCountryPattern a = some pattern)
    (hk : checkDigitPosition a = some (5 + k)) (hlt : 5 + k < 30) (hstart : a'.take 5 = a.take 5)
    (h : countryFields pattern a' = .ok (fieldsOfLength a' k)) : SplitAgrees pattern a a' := by
  have ha' := ha.of_misread first
  rw [SplitAgrees, if_pos hstart]
  rw [countryFields_eq (List.mem_of_find?_eq_some hpattern) ha'.isAscii ha'.length] at h
  cases hcaptures : pattern.captures (a'.drop 5) with
  | none =>
    rw [hcaptures] at h
    exact absurd h (by simp)
  | some matched =>
    rw [hcaptures] at h
    dsimp only [splitNumber] at h
    obtain ⟨hmatched, hlen, -⟩ := captures_eq_some hcaptures
    rw [List.length_drop, ha'.length] at hlen
    have hend : ∀ n, 5 + n < 30 → (.ok (fieldsOfLength a' n) : Outcome MRZError NumberFields) =
        .ok (fieldsOfLength a' k) → n = k := by
      intro n hn heq
      rw [← length_fieldsOfLength ha' hn, ← length_fieldsOfLength ha' hlt, Outcome.ok.inj heq]
    have hdigit : ∀ doc, validates doc (field a' (5 + k) 1) = true → a' = a := by
      intro doc hvalid
      refine eq_of_isDigit first hstart hk fun x hx => ?_
      rw [field_one hx] at hvalid
      exact isDigit_of_validates hvalid
    split at h
    · rename_i hfull
      rw [hend _ hfull.1 h] at hfull
      exact Or.inl (hdigit _ hfull.2)
    · split at h
      · rename_i hshorter
        rw [hend (matched.length - 1) (by omega) h] at hshorter
        exact Or.inl (hdigit _ hshorter.2)
      · rename_i hshorter
        split at h
        · rename_i hfits
          have hn := hend _ hfits h
          rw [hn] at hmatched hshorter
          have hnumber : ∀ j n, j + n ≤ 5 + k → 5 ≤ j → field a' j n = field a j n := by
            intro j n hj hfive
            exact first.field_eq (by simp [Apart]; omega) (apart_checkDigits fun p hp => by
              rw [hk, Option.some.injEq] at hp
              omega)
          refine Or.inr ⟨k, hk, ?_, ?_⟩
          · rw [← hnumber 5 k (by omega) (by omega)]
            exact congrArg some hmatched
          · rintro ⟨htwo, hvalid⟩
            rw [← hnumber 5 (k - 1) (by omega) (by omega),
              ← hnumber (5 + (k - 1)) 1 (by omega) (by omega)] at hvalid
            exact hshorter ⟨htwo, hvalid⟩
        · exact absurd h (by simp)

lemma isMrzChar_number {d : NumberFields} (ha : IsLine 30 a) (h : defaultFields a = .ok d) :
    ∀ c ∈ d.number, IsMrzChar c := by
  rw [defaultFields_eq ha.isAscii ha.length] at h
  split at h
  · dsimp only at h
    split at h
    · exact absurd h (by simp)
    · cases h
      intro c hc
      rcases List.mem_append.mp hc with hc | hc
      · exact ha.chars c (mem_of_mem_field hc)
      · have hstart := List.rdropWhile_prefix (p := (· == '<')) (field a 15 13)
        exact ha.chars c (mem_of_mem_field (hstart.subset (List.dropLast_subset _ hc)))
  · cases h
    exact fun c hc => ha.chars c (mem_of_mem_field hc)

/-- A number behind the prefix of its country that reads the same at its place in the layout has
nine characters. -/
lemma nine_of_default {k : Nat} {d' : NumberFields} (ha : IsLine 30 a)
    (first : Misread [(0, 5)] (checkDigits a) a a') (hlt : 5 + k < 30)
    (hchars : ∀ c ∈ field a 5 k, c ≠ '<') (hdigit : field a (5 + k) 1 ≠ ['<'])
    (hd' : defaultFields a' = .ok d') (hcount : (d'.number.filter (· ≠ '<')).length = k) :
    k = 9 ∧ field a 14 1 ≠ ['<'] := by
  have ha' := ha.of_misread first
  -- the number and its check digit are a sequence of `k + 1` characters without fillers
  have hnumber : ∀ c ∈ field a 5 (k + 1), c ≠ '<' := by
    intro c hc
    rw [← field_append_field, List.mem_append] at hc
    rcases hc with hc | hc
    · exact hchars c hc
    · obtain ⟨x, hx⟩ : ∃ x, field a (5 + k) 1 = [x] :=
        List.length_eq_one_iff.mp (length_field (by rw [ha.length]; omega))
      rw [hx] at hc hdigit
      rintro rfl
      exact hdigit (by rw [List.mem_singleton.mp hc])
  have hsame : ((field a' 5 9).filter (· ≠ '<')).length =
      ((field a 5 9).filter (· ≠ '<')).length :=
    length_filter_of_fillers (first.fillers_eq 5 9)
  have hatMost : ((field a 5 9).filter (· ≠ '<')).length ≤ 9 :=
    (List.length_filter_le _ _).trans_eq (length_field (by rw [ha.length]; omega))
  have hatLeast : k < 9 → k + 1 ≤ ((field a 5 9).filter (· ≠ '<')).length := by
    intro hk
    have hself : (field a 5 (k + 1)).filter (· ≠ '<') = field a 5 (k + 1) := by
      rw [List.filter_eq_self]
      simpa using hnumber
    have hsub : (field a 5 (k + 1)).Sublist (field a 5 9) := by
      rw [← take_field a 5 (show k + 1 ≤ 9 by omega)]
      exact List.take_sublist _ _
    have hle := (hsub.filter (· ≠ '<')).length_le
    rwa [hself, length_field (by rw [ha.length]; omega)] at hle
  have hleft : ((field a' 5 9).filter (· ≠ '<')).length ≤ (d'.number.filter (· ≠ '<')).length := by
    rw [defaultFields_eq ha'.isAscii ha'.length] at hd'
    split at hd'
    · dsimp only at hd'
      split at hd'
      · exact absurd hd' (by simp)
      · cases hd'
        rw [List.filter_append, List.length_append]
        exact Nat.le_add_right _ _
    · cases hd'
      exact le_refl _
  have hnine : 9 ≤ k := by
    by_contra hk
    have := hatLeast (by omega)
    omega
  have hfiller : field a 14 1 ≠ ['<'] := by
    intro hfiller
    apply hnumber '<' _ rfl
    have hinside : field (field a 5 (k + 1)) 9 1 = field a 14 1 := field_field a (by omega)
    rw [← hinside] at hfiller
    exact mem_of_mem_field (hfiller ▸ List.mem_singleton_self '<')
  refine ⟨?_, hfiller⟩
  rw [defaultFields_eq ha'.isAscii ha'.length,
    if_neg ((first.eq_filler_iff 14).not.mpr hfiller)] at hd'
  cases hd'
  dsimp only at hcount
  omega

/-- Only there, on a line whose document number has its right check digit. -/
lemma numberFields_exact {d d' : NumberFields} (ha : IsLine 30 a)
    (first : Misread [(0, 5)] (checkDigits a) a a')
    (hd : numberFields a = .ok d)
    (hcd : parseUnsigned 255 (fixCheckDigit d.checkDigit) = some (getCheckDigit d.number))
    (hd' : numberFields a' = .ok d')
    (heq : parseDocumentNumber d'.number = parseDocumentNumber d.number)
    {pattern : MRZCountryPattern} (hpattern : getCountryPattern a = some pattern) :
    SplitAgrees pattern a a' := by
  have ha' := ha.of_misread first
  unfold numberFields at hd hd'
  rw [hpattern] at hd
  obtain ⟨k, hlt, hchars, rfl, hk⟩ := countryFields_eq_ok ha hpattern hd
  have hmrz : ∀ {s : Str}, IsLine 30 s → ∀ i n, ∀ c ∈ field s i n, IsMrzChar c :=
    fun hs i n c hc => hs.chars c (mem_of_mem_field hc)
  have hnone : ∀ {s : Str}, (∀ c ∈ s, c ≠ '<') → s.filter (· ≠ '<') = s := by
    intro s hs
    rw [List.filter_eq_self]
    simpa using hs
  have hlen : ((fieldsOfLength a k).number.filter (· ≠ '<')).length = k := by
    rw [fieldsOfLength, hnone fun c hc => ne_filler (hchars c hc),
      length_field (by rw [ha.length]; omega)]
  by_cases hstart : a'.take 5 = a.take 5
  · have hpattern' := (getCountryPattern_congr hstart).trans hpattern
    rw [hpattern'] at hd'
    dsimp only at hd'
    rcases countryFields_cases (List.mem_of_find?_eq_some hpattern) ha'.isAscii ha'.length with
      herr | ⟨k', hlt', hchars', hok⟩
    · rw [herr] at hd'
      exact absurd hd' (by simp)
    · rw [hok] at hd'
      cases hd'
      have hcount := length_filter_of_parseDocumentNumber (hmrz ha' 5 k') (hmrz ha 5 k) heq
      have hlen' : ((field a' 5 k').filter (· ≠ '<')).length = k' := by
        rw [hnone fun c hc => ne_filler (hchars' c hc), length_field (by rw [ha'.length]; omega)]
      rw [hlen'] at hcount
      obtain rfl : k' = k := hcount.trans hlen
      exact splitAgrees_of_length ha first hpattern hk hlt hstart hok
  · rw [SplitAgrees, if_neg hstart]
    have hpattern' : getCountryPattern a' = none := by
      cases hsome : getCountryPattern a' with
      | none => rfl
      | some pattern' => exact absurd (getCountryPattern_corrupt ha first hsome) hstart
    rw [hpattern'] at hd'
    dsimp only at hd'
    have hdigit : field a (5 + k) 1 ≠ ['<'] := by
      intro hfiller
      rw [fieldsOfLength, hfiller] at hcd
      exact absurd (isDigit_of_parseUnsigned hcd) (by decide)
    have hcount := length_filter_of_parseDocumentNumber (isMrzChar_number ha' hd') (hmrz ha 5 k) heq
    obtain ⟨rfl, hfiller⟩ := nine_of_default ha first hlt (fun c hc => ne_filler (hchars c hc)) hdigit
      hd' (hcount.trans hlen)
    exact ⟨hk, hfiller⟩

end Number

/-! ## Cards of three lines -/

section Cards

open Td1

variable (today : NaiveDate) {a b c a' b' c' : Str}

/-- A card of three lines is read right where its document number is and its names are. -/
lemma td1_robust (ha : IsLine 30 a) (hb : IsLine 30 b) (hc : IsLine 30 c)
    (first : Misread [(0, 5)] (checkDigits a) a a')
    (second : Misread [(15, 3)] [(0, 7), (8, 7), (29, 1)] b b')
    (hsplit : ∀ pattern, getCountryPattern a = some pattern → SplitAgrees pattern a a') :
    parseLines today a' b' c = parseLines today a b c := by
  have ha' := ha.of_misread first
  have hb' := hb.of_misread second
  have hdocument := numberFields_robust ha first hsplit
  have hread : ∀ f : NumberFields → Outcome MRZError MRZResult, (∀ d, f (repaired d) = f d) →
      (numberFields a' >>= f) = (numberFields a >>= f) := by
    intro f hf
    have hrepaired : ∀ x : Outcome MRZError NumberFields, (x >>= f) = ((repaired <$> x) >>= f) := by
      intro x
      cases x with
      | ok d => exact (hf d).symm
      | err e => rfl
      | panic => rfl
    rw [hrepaired, hrepaired (numberFields a), hdocument]
  have hletters : ∀ i n, i + n ≤ 5 → Apart (checkDigits a) i n := by
    intro i n hle
    refine apart_checkDigits fun p hp => ?_
    have := le_checkDigitPosition ha hp
    omega
  have htype : fixDocumentType (field a' 0 2) = fixDocumentType (field a 0 2) :=
    first.letters_eq (hletters _ _ (by omega))
  have hcountry : fixCountryCode (field a' 2 3) = fixCountryCode (field a 2 3) :=
    first.letters_eq (hletters _ _ (by omega))
  have hbirth : fixDate (field b' 0 6) = fixDate (field b 0 6) := second.digits_eq (by decide)
  have hbirthCd : fixCheckDigit (field b' 6 1) = fixCheckDigit (field b 6 1) :=
    second.digits_eq (by decide)
  have hsex : field b' 7 1 = field b 7 1 := second.field_eq (by decide) (by decide)
  have hexpiry : fixDate (field b' 8 6) = fixDate (field b 8 6) := second.digits_eq (by decide)
  have hexpiryCd : fixCheckDigit (field b' 14 1) = fixCheckDigit (field b 14 1) :=
    second.digits_eq (by decide)
  have hnationality : fixNationality (field b' 15 3) = fixNationality (field b 15 3) :=
    second.letters_eq (by decide)
  have hoptional : field b' 18 11 = field b 18 11 := second.field_eq (by decide) (by decide)
  have hcompositeCd : fixCheckDigit (field b' 29 1) = fixCheckDigit (field b 29 1) :=
    second.digits_eq (by decide)
  rw [parseLines_eq today ha'.isAscii hb'.isAscii hc.isAscii ha'.length hb'.length hc.length,
    parseLines_eq today ha.isAscii hb.isAscii hc.isAscii ha.length hb.length hc.length,
    htype, hcountry, hbirth, hbirthCd, hsex, hexpiry, hexpiryCd, hnationality, hoptional,
    hcompositeCd]
  apply hread
  intro d
  simp only [repaired, fixCheckDigit_fixCheckDigit]

/-- Only there. -/
lemma td1_exact (ha : IsLine 30 a) (hb : IsLine 30 b) (hc : IsLine 30 c)
    (first : Misread [(0, 5)] (checkDigits a) a a')
    (second : Misread [(15, 3)] [(0, 7), (8, 7), (29, 1)] b b')
    (third : Misread [(0, 30)] [] c c') (hok : (parseLines today a b c).isOk = true)
    (heq : parseLines today a' b' c' = parseLines today a b c) :
    c' = c ∧ ∀ pattern, getCountryPattern a = some pattern → SplitAgrees pattern a a' := by
  have ha' := ha.of_misread first
  have hb' := hb.of_misread second
  have hc' := hc.of_misread third
  obtain ⟨r, hr⟩ := Outcome.isOk_iff.mp hok
  rw [hr] at heq
  obtain ⟨d, hd, hcd, -, -, hnumber, -, hnames⟩ :=
    parseLines_eq_ok ha.isAscii hb.isAscii hc.isAscii ha.length hb.length hc.length hr
  obtain ⟨d', hd', -, -, -, hnumber', -, hnames'⟩ :=
    parseLines_eq_ok ha'.isAscii hb'.isAscii hc'.isAscii ha'.length hb'.length hc'.length heq
  refine ⟨?_, fun pattern hpattern => ?_⟩
  · apply eq_of_fillers
    · have hfillers := third.fillers_eq 0 30
      rw [show (30 : Nat) = 30 - 0 from rfl, field_eq_drop hc.length, field_eq_drop hc'.length]
        at hfillers
      exact hfillers
    · rw [← filter_parseNames hc'.chars, ← filter_parseNames hc.chars, ← hnames, ← hnames']
  · exact numberFields_exact ha first hd hcd hd' (hnumber'.symm.trans hnumber) hpattern

end Cards

/-! ## Any zone -/

/-- Misreadings of a zone do not show where the raw reads agree; and where the zone is read at all
they do not show only there. -/
theorem ocr_robust (today : NaiveDate) {clean corrupt : List Str} (h : Misreading clean corrupt) :
    (RawReadsAgree clean corrupt →
      parse today (some (corrupt.map some)) = parse today (some (clean.map some))) ∧
    ((parse today (some (clean.map some))).isOk = true →
      (parse today (some (corrupt.map some)) = parse today (some (clean.map some)) ↔
        RawReadsAgree clean corrupt)) := by
  have hagree : (RawReadsAgree clean corrupt →
      parse today (some (corrupt.map some)) = parse today (some (clean.map some))) ∧
      ((parse today (some (clean.map some))).isOk = true →
        parse today (some (corrupt.map some)) = parse today (some (clean.map some)) →
        RawReadsAgree clean corrupt) := by
    cases h with
    | td1 ha hb hc first second third =>
      have ha' := ha.of_misread first
      have hb' := hb.of_misread second
      have hc' := hc.of_misread third
      rw [parse_td1 today ha.chars hb.chars hc.chars ha.length hb.length hc.length,
        parse_td1 today ha'.chars hb'.chars hc'.chars ha'.length hb'.length hc'.length]
      refine ⟨?_, td1_exact today ha hb hc first second third⟩
      rintro ⟨rfl, hsplit⟩
      exact td1_robust today ha hb hc first second hsplit
    | @td2 a b a' b' ha hb standard first second =>
      have ha' := ha.of_misread first
      have hb' := hb.of_misread second
      have standard' : Td2.isFrenchId a' = false := by
        by_contra hfrench
        rw [Bool.not_eq_false] at hfrench
        rw [isFrenchId_of_misread ha first hfrench] at standard
        exact absurd standard (by simp)
      rw [parse_td2 today ha.chars hb.chars ha.length hb.length,
        parse_td2 today ha'.chars hb'.chars ha'.length hb'.length, standard, standard',
        if_neg Bool.false_ne_true, if_neg Bool.false_ne_true]
      refine ⟨fun _ => td2_robust today ha hb first second, fun _ _ _ hfrench => ?_⟩
      rw [hfrench] at standard
      exact absurd standard (by simp)
    | @french a b a' b' ha hb hfrench first second =>
      have ha' := ha.of_misread first
      have hb' := hb.of_misread second
      rw [parse_td2 today ha.chars hb.chars ha.length hb.length,
        parse_td2 today ha'.chars hb'.chars ha'.length hb'.length, if_pos hfrench]
      refine ⟨fun hraw => ?_, fun hok heq _ _ =>
        french_exact today ha hb hfrench first second hok heq⟩
      obtain ⟨hhead, hmonth⟩ := hraw ha.length hfrench
      obtain ⟨hfrench', hsame⟩ := french_robust today ha hb hfrench first second hhead hmonth
      rw [if_pos hfrench', hsame]
    | @td3 a b a' b' ha hb first second =>
      have ha' := ha.of_misread first
      have hb' := hb.of_misread second
      rw [parse_td3 today ha.chars hb.chars ha.length hb.length,
        parse_td3 today ha'.chars hb'.chars ha'.length hb'.length]
      refine ⟨fun _ => td3_robust today ha hb first second, fun _ _ hlen => ?_⟩
      rw [ha.length] at hlen
      exact absurd hlen (by simp)
  exact ⟨hagree.1, fun hok => ⟨hagree.2 hok, hagree.1⟩⟩

/-- The lines of a card, as they are printed. -/
def printedCard : List Str :=
  ["I<UTOD231458907<<<<<<<<<<<<<<<".toList, "7408122F1204159UTO<<<<<<<<<<<6".toList,
    "ERIKSSON<<ANNA<MARIA<<<<<<<<<<".toList]

/-- The same lines with the countries, both dates and a check digit misread. -/
def misreadCard : List Str :=
  ["I<UT0D231458907<<<<<<<<<<<<<<<".toList, "74O8I22FI204I59UT0<<<<<<<<<<<6".toList,
    "ERIKSSON<<ANNA<MARIA<<<<<<<<<<".toList]

/-- The same lines with a letter of the name misread. -/
def misreadName : List Str :=
  ["I<UTOD231458907<<<<<<<<<<<<<<<".toList, "7408122F1204159UTO<<<<<<<<<<<6".toList,
    "ERIKSS0N<<ANNA<MARIA<<<<<<<<<<".toList]

/-- The first of October 2026. -/
def octoberFirst : NaiveDate := ⟨2026, 10, 1, by decide, by decide⟩

theorem ocr_robust_misreadCard :
    parse octoberFirst (some (misreadCard.map some)) =
      parse octoberFirst (some (printedCard.map some)) := by
  have h : Misreading printedCard misreadCard :=
    Misreading.td1 (by decide +kernel) (by decide +kernel) (by decide +kernel) (by decide +kernel)
      (by decide +kernel) (by decide +kernel)
  refine (ocr_robust octoberFirst h).1 ⟨rfl, fun pattern hpattern => ?_⟩
  have hnone : getCountryPattern "I<UTOD231458907<<<<<<<<<<<<<<<".toList = none := by
    decide +kernel
  rw [hnone] at hpattern
  exact absurd hpattern (by simp)

/-- A single letter of a name that is read as the digit it looks like, and the name read is another
one. -/
theorem ocr_name_line :
    Misreading printedCard misreadName ∧
      (parse octoberFirst (some (printedCard.map some))).isOk = true ∧
      parse octoberFirst (some (misreadName.map some)) ≠
        parse octoberFirst (some (printedCard.map some)) := by
  refine ⟨Misreading.td1 (by decide +kernel) (by decide +kernel) (by decide +kernel)
    (by decide +kernel) (by decide +kernel) (by decide +kernel), by decide +kernel, ?_⟩
  intro heq
  have hnames : ((parse octoberFirst (some (misreadName.map some))).isOkAnd fun r =>
      r.surnames = "ERIKSSON".toList) =
      (parse octoberFirst (some (printedCard.map some))).isOkAnd fun r =>
        r.surnames = "ERIKSSON".toList := by
    rw [heq]
  exact absurd hnames (by decide +kernel)

end MrzParser
