import IdentityCrates.Aamva.Data
import IdentityCrates.Chrono.ParseFromStr
import IdentityCrates.Lib.Slice
import IdentityCrates.Lib.Utf8

/-!
# The AAMVA payload

`parser.rs`.  A payload is a header of fixed width, a table of designators, and subfiles that the
designators point at.  A subfile is its type and then elements, three bytes of code and a value
each, split at line feeds and carriage returns.  The elements of all subfiles go into one map, where
a later one replaces an earlier one, and the licence is filled from the map.

Every index and slice of the source stands here with its panic.
-/

namespace Aamva

open Dmrtd (NaiveDate)
open Octets Rust
open Text hiding slice sliceFrom slice_eq sliceFrom_eq

/-- `COMPLIANCE`. -/
def compliance : UInt8 := 0x40

/-- `DATA_ELEMENT_SEP`. -/
def dataElementSep : UInt8 := 0x0A

/-- `RECORD_SEP`. -/
def recordSep : UInt8 := 0x1E

/-- `SEGMENT_TERM`. -/
def segmentTerm : UInt8 := 0x0D

/-- `ANSI_TAG`. -/
def ansiTag : Bytes := [0x41, 0x4E, 0x53, 0x49, 0x20]

/-- `MIN_HEADER_LEN`. -/
def minHeaderLen : Nat := 4 + 5 + 6 + 2 + 2 + 2 + 10

/-- `usize::MAX`. -/
def usizeMax : Nat := 18446744073709551615

/-! ## Fixed-width fields -/

/-- `ascii_str`. -/
def asciiStr (bytes : Bytes) (field : String) : Outcome AamvaError Str :=
  Outcome.ofOption (.malformedHeader ("non-ASCII " ++ field)) (Utf8.decode bytes)

/-- A number of a fixed-width field, at most `max`. -/
def asciiNumber (max : Nat) (bytes : Bytes) (field : String) : Outcome AamvaError Nat := do
  let s ← asciiStr bytes field
  Outcome.ofOption (.malformedHeader ("non-numeric " ++ field)) (parseUnsigned max s)

/-- `ascii_digits`. -/
def asciiDigits : Bytes → String → Outcome AamvaError Nat := asciiNumber 255

/-- `ascii_digits_u32`. -/
def asciiDigitsU32 : Bytes → String → Outcome AamvaError Nat := asciiNumber 4294967295

/-- The header magic of `parse`. -/
def checkMagic (payload : Bytes) : Outcome AamvaError Unit := do
  if payload.length < minHeaderLen then
    .err (.payloadTooShort payload.length minHeaderLen)
  else
    let first ← index payload 0
    if first ≠ compliance then .err .missingComplianceIndicator
    else
      let magic ← slice payload 1 4
      if magic ≠ [dataElementSep, recordSep, segmentTerm] then
        .err (.malformedHeader "expected header magic `@\\n\\x1E\\r`")
      else
        let tag ← slice payload 4 9
        if tag ≠ ansiTag then .err .missingAnsiHeader else return ()

/-- `u8::is_ascii_digit`. -/
def isAsciiDigit (b : UInt8) : Bool := 0x30 ≤ b && b ≤ 0x39

/-- The issuer identification number of `parse`. -/
def parseIin (payload : Bytes) : Outcome AamvaError Str := do
  let iinBytes ← slice payload 9 15
  if ¬ iinBytes.all isAsciiDigit then .err (.malformedHeader "IIN must be 6 ASCII digits")
  else asciiStr iinBytes "IIN"

/-! ## Designators -/

/-- The designator at the cursor. -/
def parseDesignator (payload : Bytes) (i cursor : Nat) :
    Outcome AamvaError SubfileDesignator := do
  if cursor + 10 > payload.length then .err (.malformedSubfileDesignator i)
  else
    let subfileType ← asciiStr (← slice payload cursor (cursor + 2)) "subfile type"
    let offset ← asciiDigitsU32 (← slice payload (cursor + 2) (cursor + 6)) "subfile offset"
    let length ← asciiDigitsU32 (← slice payload (cursor + 6) (cursor + 10)) "subfile length"
    return ⟨subfileType, offset, length⟩

/-- The loop over the designators: how many are left, the index and the cursor of the next one, and
those found.  The result has the cursor behind the table. -/
def parseDesignators (payload : Bytes) : Nat → Nat → Nat → List SubfileDesignator →
    Outcome AamvaError (List SubfileDesignator × Nat)
  | 0, _, cursor, designators => .ok (designators, cursor)
  | n + 1, i, cursor, designators => do
    let designator ← parseDesignator payload i cursor
    parseDesignators payload n (i + 1) (cursor + 10) (designators ++ [designator])

/-! ## Subfiles -/

/-- Does a byte end an element? -/
def isSeparator (b : UInt8) : Bool := b == dataElementSep || b == segmentTerm

/-- One piece of a subfile.  A piece shorter than a code is skipped. -/
def insertElement (elements : Elements) (raw : Bytes) : Outcome AamvaError Elements := do
  if raw.isEmpty then return elements
  else if raw.length < 3 then return elements
  else
    let code ← Outcome.ofOption (.malformedHeader "non-UTF8 element code")
      (Utf8.decode (← slice raw 0 3))
    let value ← Outcome.ofOption
      (.malformedHeader ("non-UTF8 value for " ++ String.ofList code))
      (Utf8.decode (← sliceFrom raw 3))
    return elements.insert code (value.rdropWhile fun c => c == '\r' || c == '\n')

/-- `parse_subfile_elements`. -/
def parseSubfileElements (body : Bytes) (elements : Elements) : Outcome AamvaError Elements :=
  (body.splitOnP isSeparator).foldlM insertElement elements

/-- `usize::checked_add`. -/
def checkedAdd (a b : Nat) : Option Nat := if a + b ≤ usizeMax then some (a + b) else none

/-- One subfile: it must stand behind the table, within the payload, and start with its type. -/
def parseSubfile (payload : Bytes) (dataStart : Nat) (elements : Elements)
    (designator : SubfileDesignator) : Outcome AamvaError Elements := do
  let outOfBounds : AamvaError :=
    .subfileOutOfBounds designator.subfileType designator.offset designator.length payload.length
  if designator.offset < dataStart then .err outOfBounds
  else
    let stop ← Outcome.ofOption outOfBounds (checkedAdd designator.offset designator.length)
    if stop > payload.length then .err outOfBounds
    else
      let subfile ← slice payload designator.offset stop
      if subfile.length < 2 then .err (.subfileTypeMismatch designator.subfileType)
      else
        let tag ← slice subfile 0 2
        if tag ≠ Utf8.encode designator.subfileType then
          .err (.subfileTypeMismatch designator.subfileType)
        else
          parseSubfileElements (← sliceFrom subfile 2) elements

/-! ## The licence -/

/-- `get` of `build_license`: the trimmed value, if there is anything in it. -/
def get (elements : Elements) (code : String) : Option Str :=
  ((elements.get? code.toList).map trim).filter fun s => ¬ s.isEmpty

/-- `parse_date`: month, day and year, or else year, month and day. -/
def parseDate (raw : Str) (element : String) : Outcome AamvaError NaiveDate :=
  let s := trim raw
  match Chrono.parseFromStr s [.month, .day, .year] with
  | some d => .ok d
  | none =>
    match Chrono.parseFromStr s [.year, .month, .day] with
    | some d => .ok d
    | none => .err (.invalidDate element s)

/-- `get_date` of `build_license`. -/
def getDate (elements : Elements) (code : String) : Outcome AamvaError (Option NaiveDate) :=
  match elements.get? code.toList with
  | some raw =>
    if (trim raw).isEmpty then .ok none
    else do
      let d ← parseDate raw code
      return some d
  | none => .ok none

/-- The height of `build_license`. -/
def getHeight (elements : Elements) : Outcome AamvaError (Option Height) :=
  match get elements "DAU" with
  | some s => Height.parse s
  | none => .ok none

/-- `build_license`. -/
def buildLicense (elements : Elements) (subfiles : List SubfileDesignator) (iin : Str)
    (aamvaVersion jurisdictionVersion entryCount : Nat) : Outcome AamvaError AamvaLicense := do
  let get := get elements
  let dateOfBirth ← getDate elements "DBB"
  let issueDate ← getDate elements "DBD"
  let expiryDate ← getDate elements "DBA"
  let cardRevisionDate ← getDate elements "DDB"
  let under18Until ← getDate elements "DDH"
  let under19Until ← getDate elements "DDI"
  let under21Until ← getDate elements "DDJ"
  let height ← getHeight elements
  return {
    header := some ⟨iin, aamvaVersion, jurisdictionVersion, entryCount, subfiles⟩
    elements
    familyName := get "DCS"
    firstName := get "DAC"
    middleName := get "DAD"
    nameSuffix := get "DCU"
    familyNameTruncation := get "DDE" >>= Truncation.fromStr
    firstNameTruncation := get "DDF" >>= Truncation.fromStr
    middleNameTruncation := get "DDG" >>= Truncation.fromStr
    documentNumber := get "DAQ"
    documentDiscriminator := get "DCF"
    country := get "DCG" >>= Country.fromStr
    jurisdiction := get "DAJ"
    dateOfBirth
    issueDate
    expiryDate
    cardRevisionDate
    under18Until
    under19Until
    under21Until
    sex := get "DBC" >>= Sex.fromStr
    eyeColor := (get "DAY").map EyeColor.fromStr
    hairColor := (get "DAZ").map HairColor.fromStr
    height
    weightLb := get "DAW" >>= parseUnsigned 4294967295
    weightKg := get "DAX" >>= parseUnsigned 4294967295
    weightRange := get "DCE" >>= parseUnsigned 255
    addressStreet1 := get "DAG"
    addressStreet2 := get "DAH"
    city := get "DAI"
    postalCode := get "DAK"
    vehicleClass := get "DCA"
    restrictions := get "DCB"
    endorsements := get "DCD"
    organDonor := (get "DDK").map fun s => s = ['1']
    veteran := (get "DDL").map fun s => s = ['1']
    compliance := get "DDA" >>= Compliance.fromStr }

/-- `parse`. -/
def parse (payload : Bytes) : Outcome AamvaError AamvaLicense := do
  checkMagic payload
  let iin ← parseIin payload
  let aamvaVersion ← asciiDigits (← slice payload 15 17) "AAMVA version"
  let jurisdictionVersion ← asciiDigits (← slice payload 17 19) "jurisdiction version"
  let entryCount ← asciiDigits (← slice payload 19 21) "entry count"
  let (designators, dataStart) ← parseDesignators payload entryCount 0 21 []
  let elements ← designators.foldlM (parseSubfile payload dataStart) BTreeMap.empty
  buildLicense elements designators iin aamvaVersion jurisdictionVersion entryCount

end Aamva
