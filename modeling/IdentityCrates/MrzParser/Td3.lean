import IdentityCrates.MrzParser.Td2

/-!
# The TD3 parser

`td3_format_mrz_parser.rs`: two lines of 44 characters, the layout of a passport.  A visa, whose
first character is `V`, has no check digit for the optional data and no composite one.
-/

namespace MrzParser

open Rust Text

open Dmrtd (NaiveDate)

namespace Td3

/-- `LINES_LENGTH`. -/
def linesLength : Nat := 44

/-- `LINES_COUNT`. -/
def linesCount : Nat := 2

/-- `is_valid_input`. -/
def isValidInput (input : List Str) : Bool :=
  input.length == linesCount && input.all fun s => byteLen s == linesLength

/-- The check digit of the optional data: right as a digit, or a filler where there are no data. -/
def validateOptionalData (cd optionalData : Str) : Outcome MRZError Unit :=
  let validByDigit := (cd.head? >>= toDigit) = some (getCheckDigit optionalData)
  let validByEmpty := cd = ['<'] ∧ parseOptionalData optionalData = []
  if validByDigit ∨ validByEmpty then .ok () else .err .invalidOptionalData

/-- `parse`, the lines at hand. -/
def parseLines (today : NaiveDate) (firstLine secondLine : Str) :
    Outcome MRZError MRZResult := do
  let isVisaDocument := ['V'].isPrefixOf firstLine
  let documentTypeRaw ← Text.slice firstLine 0 2
  let countryCodeRaw ← Text.slice firstLine 2 5
  let namesRaw ← Text.sliceFrom firstLine 5
  let documentNumberRaw ← Text.slice secondLine 0 9
  let documentNumberCheckDigitRaw ← Text.slice secondLine 9 10
  let nationalityRaw ← Text.slice secondLine 10 13
  let birthDateRaw ← Text.slice secondLine 13 19
  let birthDateCheckDigitRaw ← Text.slice secondLine 19 20
  let sexRaw ← Text.slice secondLine 20 21
  let expiryDateRaw ← Text.slice secondLine 21 27
  let expiryDateCheckDigitRaw ← Text.slice secondLine 27 28
  let optionalDataRaw ← Text.slice secondLine 28 (if isVisaDocument then 44 else 42)
  let optionalDataCheckDigitRaw ←
    if isVisaDocument then pure none else some <$> Text.slice secondLine 42 43
  let finalCheckDigitRaw ←
    if isVisaDocument then pure none else some <$> Text.slice secondLine 43 44
  let documentTypeFixed := fixDocumentType documentTypeRaw
  let countryCodeFixed := fixCountryCode countryCodeRaw
  let namesFixed := fixNames namesRaw
  let documentNumberCheckDigitFixed := fixCheckDigit documentNumberCheckDigitRaw
  let nationalityFixed := fixNationality nationalityRaw
  let birthDateFixed := fixDate birthDateRaw
  let birthDateCheckDigitFixed := fixCheckDigit birthDateCheckDigitRaw
  let sexFixed := fixSex sexRaw
  let expiryDateFixed := fixDate expiryDateRaw
  let expiryDateCheckDigitFixed := fixCheckDigit expiryDateCheckDigitRaw
  let optionalDataCheckDigitFixed := optionalDataCheckDigitRaw.map fixCheckDigit
  let finalCheckDigitFixed := finalCheckDigitRaw.map fixCheckDigit
  validateDigit documentNumberCheckDigitFixed documentNumberRaw .invalidDocumentNumber
  validateDigit birthDateCheckDigitFixed birthDateFixed .invalidBirthDate
  validateDigit expiryDateCheckDigitFixed expiryDateFixed .invalidExpiryDate
  match optionalDataCheckDigitFixed with
  | none => pure ()
  | some cd => validateOptionalData cd optionalDataRaw
  match finalCheckDigitFixed with
  | none => pure ()
  | some finalFixed =>
    validateDigit finalFixed (documentNumberRaw ++ documentNumberCheckDigitFixed ++
      birthDateFixed ++ birthDateCheckDigitFixed ++ expiryDateFixed ++
      expiryDateCheckDigitFixed ++ optionalDataRaw ++ optionalDataCheckDigitFixed.getD [])
      .invalidMRZValue
  let birthDate ← parseBirthDate today birthDateFixed
  let expiryDate ← parseExpiryDate expiryDateFixed
  let names := parseNames namesFixed
  return {
    documentType := parseDocumentType documentTypeFixed
    countryCode := parseCountryCode countryCodeFixed
    surnames := names.1
    givenNames := names.2
    documentNumber := parseDocumentNumber documentNumberRaw
    nationalityCountryCode := parseNationality nationalityFixed
    birthDate
    sex := parseSex sexFixed
    expiryDate
    personalNumber := parseOptionalData optionalDataRaw
    personalNumber2 := none }

/-! ### What the parser computes -/

/-- The checks of the optional data and of the composite, which a visa does not have. -/
def validateRest (isVisaDocument : Bool) (secondLine : Str) : Outcome MRZError Unit :=
  if isVisaDocument then .ok ()
  else do
    validateOptionalData (fixCheckDigit (field secondLine 42 1)) (field secondLine 28 14)
    validateDigit (fixCheckDigit (field secondLine 43 1))
      (field secondLine 0 9 ++ fixCheckDigit (field secondLine 9 1) ++
        fixDate (field secondLine 13 6) ++ fixCheckDigit (field secondLine 19 1) ++
        fixDate (field secondLine 21 6) ++ fixCheckDigit (field secondLine 27 1) ++
        field secondLine 28 14 ++ fixCheckDigit (field secondLine 42 1)) .invalidMRZValue

/-- On lines of ASCII text of the right length the parser is a sequence of checks on fields. -/
lemma parseLines_eq (today : NaiveDate) {firstLine secondLine : Str} (hfirst : IsAscii firstLine)
    (hsecond : IsAscii secondLine) (lfirst : firstLine.length = 44)
    (lsecond : secondLine.length = 44) :
    parseLines today firstLine secondLine = do
      validateDigit (fixCheckDigit (field secondLine 9 1)) (field secondLine 0 9)
        .invalidDocumentNumber
      validateDigit (fixCheckDigit (field secondLine 19 1)) (fixDate (field secondLine 13 6))
        .invalidBirthDate
      validateDigit (fixCheckDigit (field secondLine 27 1)) (fixDate (field secondLine 21 6))
        .invalidExpiryDate
      validateRest (['V'].isPrefixOf firstLine) secondLine
      let birthDate ← parseBirthDate today (fixDate (field secondLine 13 6))
      let expiryDate ← parseExpiryDate (fixDate (field secondLine 21 6))
      return {
        documentType := parseDocumentType (fixDocumentType (field firstLine 0 2))
        countryCode := parseCountryCode (fixCountryCode (field firstLine 2 3))
        surnames := (parseNames (fixNames (firstLine.drop 5))).1
        givenNames := (parseNames (fixNames (firstLine.drop 5))).2
        documentNumber := parseDocumentNumber (field secondLine 0 9)
        nationalityCountryCode := parseNationality (fixNationality (field secondLine 10 3))
        birthDate
        sex := parseSex (fixSex (field secondLine 20 1))
        expiryDate
        personalNumber := parseOptionalData
          (field secondLine 28 (if ['V'].isPrefixOf firstLine then 16 else 14))
        personalNumber2 := none } := by
  unfold parseLines validateRest
  cases ['V'].isPrefixOf firstLine
  all_goals
    simp only [Text.slice_eq hfirst, Text.slice_eq hsecond, Text.sliceFrom_eq hfirst, lfirst, lsecond,
      Nat.reduceLeDiff, Nat.reduceSub, Outcome.ok_bind, Outcome.pure_eq, Outcome.map_ok,
      Option.map_some, Option.map_none, Option.getD_some, Bool.false_eq_true, if_true, if_false,
      bind_assoc]

/-- `parse`. -/
def parse (today : NaiveDate) (input : List Str) : Outcome MRZError MRZResult := do
  if isValidInput input then do
    let firstLine ← Outcome.unwrap input[0]?
    let secondLine ← Outcome.unwrap input[1]?
    parseLines today firstLine secondLine
  else .err .invalidMRZInput

end Td3

end MrzParser
