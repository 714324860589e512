import IdentityCrates.MrzParser.Fields

/-!
# The TD2 parser

`td2_format_mrz_parser.rs`: two lines of 36 characters.  A zone that starts with `I` and is issued
by `FRA` is read in the layout of the French identity card (`parseFrenchId`), where the document
number starts with the month of issue and the date of expiry follows from that month.
-/

namespace MrzParser

open Rust Text

open Dmrtd (NaiveDate)

/-- A check digit, the first character of its text, against the text it is for. -/
def validateDigit (cd value : Str) (e : MRZError) : Outcome MRZError Unit :=
  if cd.head? >>= toDigit ≠ some (getCheckDigit value) then .err e else .ok ()

namespace Td2

/-- `LINES_LENGTH`. -/
def linesLength : Nat := 36

/-- `LINES_COUNT`. -/
def linesCount : Nat := 2

/-- `is_valid_input`. -/
def isValidInput (input : List Str) : Bool :=
  input.length == linesCount && input.all fun s => byteLen s == linesLength

/-! ## French identity cards -/

/-- `is_french_id`, of a first line. -/
def isFrenchId (firstLine : Str) : Bool :=
  ['I'].isPrefixOf firstLine && get? firstLine 2 5 == some ['F', 'R', 'A']

/-- The order of days: is `a` before `b`? -/
def isBefore (a b : NaiveDate) : Bool := Dmrtd.isAfter b.year b.month b.day (a.year, a.month, a.day)

/-- `subtract_years`: the 29th of February becomes the 28th where there is none. -/
def subtractYears (date : NaiveDate) (years : Int) : Outcome MRZError NaiveDate :=
  let targetYear := date.year - years
  match NaiveDate.fromYmdOpt targetYear date.month date.day with
  | some d => .ok d
  | none => Outcome.unwrap (NaiveDate.fromYmdOpt targetYear date.month (date.day - 1))

/-- `french_id_validity_years`. -/
def frenchIdValidityYears (issueDate birthDate : NaiveDate) : Outcome MRZError Int := do
  let extension ← Outcome.unwrap (NaiveDate.fromYmdOpt 2004 1 1)
  if isBefore issueDate extension then return 10
  else do
    let adultThreshold ← subtractYears issueDate 18
    return if isBefore adultThreshold birthDate then 10 else 15

/-- Surnames and given names in one text, an empty one left out. -/
def joinNames (names : Str × Str) : Str :=
  [' '].intercalate ([names.1, names.2].filter (· ≠ []))

/-- `parse_french_id`. -/
def parseFrenchId (today : NaiveDate) (firstLine secondLine : Str) :
    Outcome MRZError MRZResult := do
  let documentTypeRaw ← Text.slice firstLine 0 2
  let countryCodeRaw ← Text.slice firstLine 2 5
  let lastNamesRaw ← Text.slice firstLine 5 30
  let departmentAndOfficeRaw ← Text.slice firstLine 30 36
  let issueDateRaw ← Text.slice secondLine 0 4
  let departmentRaw ← Text.slice secondLine 4 7
  let documentNumberRaw ← Text.slice secondLine 0 12
  let documentNumberCheckDigitRaw ← Text.slice secondLine 12 13
  let givenNamesRaw ← Text.slice secondLine 13 27
  let birthDateRaw ← Text.slice secondLine 27 33
  let birthDateCheckDigitRaw ← Text.slice secondLine 33 34
  let sexRaw ← Text.slice secondLine 34 35
  let finalCheckDigitRaw ← Text.slice secondLine 35 36
  let documentTypeFixed := fixDocumentType documentTypeRaw
  let countryCodeFixed := fixCountryCode countryCodeRaw
  let lastNamesFixed := fixNames lastNamesRaw
  let issueDateFixed := fixDate issueDateRaw
  let documentNumberCheckDigitFixed := fixCheckDigit documentNumberCheckDigitRaw
  let givenNamesFixed := fixNames givenNamesRaw
  let birthDateFixed := fixDate birthDateRaw
  let birthDateCheckDigitFixed := fixCheckDigit birthDateCheckDigitRaw
  let sexFixed := fixSex sexRaw
  let finalCheckDigitFixed := fixCheckDigit finalCheckDigitRaw
  validateDigit documentNumberCheckDigitFixed documentNumberRaw .invalidDocumentNumber
  validateDigit birthDateCheckDigitFixed birthDateFixed .invalidBirthDate
  let finalCheckString := documentTypeFixed ++ countryCodeFixed ++ lastNamesFixed ++
    departmentAndOfficeRaw ++ documentNumberRaw ++ documentNumberCheckDigitFixed ++
    givenNamesFixed ++ birthDateFixed ++ birthDateCheckDigitFixed ++ sexFixed
  validateDigit finalCheckDigitFixed finalCheckString .invalidMRZValue
  let birthDate ← parseBirthDate today birthDateFixed
  let issueDate ← parseExpiryDate (issueDateFixed ++ ['0', '1'])
  let yearsValid ← frenchIdValidityYears issueDate birthDate
  let expiryDate ← Outcome.ofOption .invalidExpiryDate
    (NaiveDate.fromYmdOpt (issueDate.year + yearsValid) issueDate.month issueDate.day)
  return {
    documentType := parseDocumentType documentTypeFixed
    countryCode := parseCountryCode countryCodeFixed
    surnames := joinNames (parseNames lastNamesFixed)
    givenNames := joinNames (parseNames givenNamesFixed)
    documentNumber := parseDocumentNumber documentNumberRaw
    nationalityCountryCode := parseNationality countryCodeFixed
    birthDate
    sex := parseSex sexFixed
    expiryDate
    personalNumber := parseOptionalData departmentAndOfficeRaw
    personalNumber2 := some (parseOptionalData departmentRaw) }

/-! ## Parsing -/

/-- `parse`, the lines of a zone in the layout of the standard at hand. -/
def parseLines (today : NaiveDate) (firstLine secondLine : Str) :
    Outcome MRZError MRZResult := do
  let isVisaDocument := ['V'].isPrefixOf firstLine
  let documentTypeRaw ← Text.slice firstLine 0 2
  let countryCodeRaw ← Text.slice firstLine 2 5
  let namesRaw ← Text.sliceFrom firstLine 5
  let documentNumberRaw ← Text.slice secondLine 0 9
  let documentNumberCheckDigitRaw ← Text.slice secondLine 9 10
  let nationalityRaw ← Text.slice secondLine 10 13
  let birthDateRaw ← Text.slice secondLine 13 19
  let birthDateCheckDigitRaw ← Text.slice secondLine 19 20
  let sexRaw ← Text.slice secondLine 20 21
  let expiryDateRaw ← Text.slice secondLine 21 27
  let expiryDateCheckDigitRaw ← Text.slice secondLine 27 28
  let optionalDataRaw ← Text.slice secondLine 28 (if isVisaDocument then 36 else 35)
  let finalCheckDigitRaw ←
    if isVisaDocument then pure none else some <$> Text.slice secondLine 35 36
  let documentTypeFixed := fixDocumentType documentTypeRaw
  let countryCodeFixed := fixCountryCode countryCodeRaw
  let namesFixed := fixNames namesRaw
  let documentNumberCheckDigitFixed := fixCheckDigit documentNumberCheckDigitRaw
  let nationalityFixed := fixNationality nationalityRaw
  let birthDateFixed := fixDate birthDateRaw
  let birthDateCheckDigitFixed := fixCheckDigit birthDateCheckDigitRaw
  let sexFixed := fixSex sexRaw
  let expiryDateFixed := fixDate expiryDateRaw
  let expiryDateCheckDigitFixed := fixCheckDigit expiryDateCheckDigitRaw
  let finalCheckDigitFixed := finalCheckDigitRaw.map fixCheckDigit
  validateDigit documentNumberCheckDigitFixed documentNumberRaw .invalidDocumentNumber
  validateDigit birthDateCheckDigitFixed birthDateFixed .invalidBirthDate
  validateDigit expiryDateCheckDigitFixed expiryDateFixed .invalidExpiryDate
  match finalCheckDigitFixed with
  | none => pure ()
  | some finalFixed =>
    validateDigit finalFixed (documentNumberRaw ++ documentNumberCheckDigitFixed ++
      birthDateFixed ++ birthDateCheckDigitFixed ++ expiryDateFixed ++
      expiryDateCheckDigitFixed ++ optionalDataRaw) .invalidMRZValue
  let birthDate ← parseBirthDate today birthDateFixed
  let expiryDate ← parseExpiryDate expiryDateFixed
  let names := parseNames namesFixed
  return {
    documentType := parseDocumentType documentTypeFixed
    countryCode := parseCountryCode countryCodeFixed
    surnames := names.1
    givenNames := names.2
    documentNumber := parseDocumentNumber documentNumberRaw
    nationalityCountryCode := parseNationality nationalityFixed
    birthDate
    sex := parseSex sexFixed
    expiryDate
    personalNumber := parseOptionalData optionalDataRaw
    personalNumber2 := none }

/-! ### What the parser computes -/

/-- The check of the composite, which a visa does not have. -/
def validateRest (isVisaDocument : Bool) (secondLine : Str) : Outcome MRZError Unit :=
  if isVisaDocument then .ok ()
  else
    validateDigit (fixCheckDigit (field secondLine 35 1))
      (field secondLine 0 9 ++ fixCheckDigit (field secondLine 9 1) ++
        fixDate (field secondLine 13 6) ++ fixCheckDigit (field secondLine 19 1) ++
        fixDate (field secondLine 21 6) ++ fixCheckDigit (field secondLine 27 1) ++
        field secondLine 28 7) .invalidMRZValue

/-- On lines of ASCII text of the right length the parser is a sequence of checks on fields. -/
lemma parseLines_eq (today : NaiveDate) {firstLine secondLine : Str} (hfirst : IsAscii firstLine)
    (hsecond : IsAscii secondLine) (lfirst : firstLine.length = 36)
    (lsecond : secondLine.length = 36) :
    parseLines today firstLine secondLine = do
      validateDigit (fixCheckDigit (field secondLine 9 1)) (field secondLine 0 9)
        .invalidDocumentNumber
      validateDigit (fixCheckDigit (field secondLine 19 1)) (fixDate (field secondLine 13 6))
        .invalidBirthDate
      validateDigit (fixCheckDigit (field secondLine 27 1)) (fixDate (field secondLine 21 6))
        .invalidExpiryDate
      validateRest (['V'].isPrefixOf firstLine) secondLine
      let birthDate ← parseBirthDate today (fixDate (field secondLine 13 6))
      let expiryDate ← parseExpiryDate (fixDate (field secondLine 21 6))
      return {
        documentType := parseDocumentType (fixDocumentType (field firstLine 0 2))
        countryCode := parseCountryCode (fixCountryCode (field firstLine 2 3))
        surnames := (parseNames (fixNames (firstLine.drop 5))).1
        givenNames := (parseNames (fixNames (firstLine.drop 5))).2
        documentNumber := parseDocumentNumber (field secondLine 0 9)
        nationalityCountryCode := parseNationality (fixNationality (field secondLine 10 3))
        birthDate
        sex := parseSex (fixSex (field secondLine 20 1))
        expiryDate
        personalNumber := parseOptionalData
          (field secondLine 28 (if ['V'].isPrefixOf firstLine then 8 else 7))
        personalNumber2 := none } := by
  unfold parseLines validateRest
  cases ['V'].isPrefixOf firstLine
  all_goals
    simp only [Text.slice_eq hfirst, Text.slice_eq hsecond, Text.sliceFrom_eq hfirst, lfirst, lsecond,
      Nat.reduceLeDiff, Nat.reduceSub, Outcome.ok_bind, Outcome.pure_eq, Outcome.map_ok,
      Option.map_some, Option.map_none, Bool.false_eq_true, if_true, if_false]

/-- The dates of a French identity card: of birth, and of expiry from the month of issue. -/
def frenchDates (today : NaiveDate) (birth issue : Str) :
    Outcome MRZError (NaiveDate × NaiveDate) := do
  let birthDate ← parseBirthDate today birth
  let issueDate ← parseExpiryDate (issue ++ ['0', '1'])
  let yearsValid ← frenchIdValidityYears issueDate birthDate
  let expiryDate ← Outcome.ofOption .invalidExpiryDate
    (NaiveDate.fromYmdOpt (issueDate.year + yearsValid) issueDate.month issueDate.day)
  return (birthDate, expiryDate)

/-- The same of the parser of French identity cards. -/
lemma parseFrenchId_eq (today : NaiveDate) {firstLine secondLine : Str}
    (hfirst : IsAscii firstLine) (hsecond : IsAscii secondLine) (lfirst : firstLine.length = 36)
    (lsecond : secondLine.length = 36) :
    parseFrenchId today firstLine secondLine = do
      validateDigit (fixCheckDigit (field secondLine 12 1)) (field secondLine 0 12)
        .invalidDocumentNumber
      validateDigit (fixCheckDigit (field secondLine 33 1)) (fixDate (field secondLine 27 6))
        .invalidBirthDate
      validateDigit (fixCheckDigit (field secondLine 35 1))
        (fixDocumentType (field firstLine 0 2) ++ fixCountryCode (field firstLine 2 3) ++
          fixNames (field firstLine 5 25) ++ field firstLine 30 6 ++ field secondLine 0 12 ++
          fixCheckDigit (field secondLine 12 1) ++ fixNames (field secondLine 13 14) ++
          fixDate (field secondLine 27 6) ++ fixCheckDigit (field secondLine 33 1) ++
          fixSex (field secondLine 34 1)) .invalidMRZValue
      let dates ← frenchDates today (fixDate (field secondLine 27 6)) (fixDate (field secondLine 0 4))
      return {
        documentType := parseDocumentType (fixDocumentType (field firstLine 0 2))
        countryCode := parseCountryCode (fixCountryCode (field firstLine 2 3))
        surnames := joinNames (parseNames (fixNames (field firstLine 5 25)))
        givenNames := joinNames (parseNames (fixNames (field secondLine 13 14)))
        documentNumber := parseDocumentNumber (field secondLine 0 12)
        nationalityCountryCode := parseNationality (fixCountryCode (field firstLine 2 3))
        birthDate := dates.1
        sex := parseSex (fixSex (field secondLine 34 1))
        expiryDate := dates.2
        personalNumber := parseOptionalData (field firstLine 30 6)
        personalNumber2 := some (parseOptionalData (field secondLine 4 3)) } := by
  unfold parseFrenchId frenchDates
  simp only [Text.slice_eq hfirst, Text.slice_eq hsecond, lfirst, lsecond, Nat.reduceLeDiff, Nat.reduceSub,
    Outcome.ok_bind, Outcome.pure_eq, bind_assoc]

/-- `parse`. -/
def parse (today : NaiveDate) (input : List Str) : Outcome MRZError MRZResult := do
  if isValidInput input then do
    let firstLine ← Outcome.unwrap input[0]?
    let secondLine ← Outcome.unwrap input[1]?
    if isFrenchId firstLine then parseFrenchId today firstLine secondLine
    else parseLines today firstLine secondLine
  else .err .invalidMRZInput

end Td2

end MrzParser
