import IdentityCrates.Dmrtd.Lds.Df1
import IdentityCrates.Dmrtd.Lds.TlvSlices
import IdentityCrates.Lib.Utf8

/-!
# EF.DG11

`efdg11.rs`: the additional personal details.  The file holds a list of tags and behind it the
fields, data objects one behind the other.  A field is stored under its tag, the fields that may be
repeated one after the other; a tag that is not known is passed over.

The full date of birth is written in packed digits (`toDate`, of `uint8list.rs`) or as text.  The
parser of text asks the clock for the date of today, which is the parameter `reference`.
-/

namespace Dmrtd

open Rust Octets Text

/-! ## Packed dates -/

/-- `BytesExtError`, the error of the conversions of bytes. -/
inductive BytesExtError where
  | invalidDateLength (len : Nat)
  | invalidDate (date : String)
  deriving DecidableEq, Repr

/-- The `Display` text of a `BytesExtError`. -/
def BytesExtError.text : BytesExtError → String
  | .invalidDateLength len =>
    s!"Invalid length for date conversion: expected exactly 4 bytes, got {len}"
  | .invalidDate date => s!"Invalid BCD date value: {date}"

/-- `bcd_to_int`: the number that a byte of two decimal digits denotes. -/
def bcdToInt (byte : UInt8) : Outcome BytesExtError Nat :=
  let hi := (byte >>> 4).toNat
  let lo := (byte &&& 0x0F).toNat
  if hi > 9 ∨ lo > 9 then .err (.invalidDate s!"invalid BCD byte: {upperHex 2 byte.toNat}")
  else .ok (hi * 10 + lo)

/-- `to_date`: a date of four bytes, `CCYYMMDD`. -/
def toDate (bytes : Bytes) : Outcome BytesExtError NaiveDate :=
  match bytes with
  | [b₀, b₁, b₂, b₃] => do
    let century ← bcdToInt b₀
    let yearOfCentury ← bcdToInt b₁
    let year := century * 100 + yearOfCentury
    let month ← bcdToInt b₂
    let day ← bcdToInt b₃
    match NaiveDate.fromYmdOpt year month day with
    | some date => .ok date
    | none => .err (.invalidDate (String.ofList (padZero 4 year ++ '-' :: padZero 2 month ++
        '-' :: padZero 2 day) ++ s!" (raw BCD: {upperHex 2 b₀.toNat} {upperHex 2 b₁.toNat} " ++
        s!"{upperHex 2 b₂.toNat} {upperHex 2 b₃.toNat})"))
  | _ => .err (.invalidDateLength bytes.length)

/-! ## The file -/

/-- `EfDG11`. -/
structure EfDG11 where
  encoded : Bytes
  nameOfHolder : Option Str
  otherNames : List Str
  personalNumber : Option Str
  fullDateOfBirth : Option NaiveDate
  placeOfBirth : List Str
  permanentAddress : List Str
  telephone : Option Str
  profession : Option Str
  title : Option Str
  personalSummary : Option Str
  proofOfCitizenship : Option Bytes
  otherValidTdNumbers : List Str
  custodyInformation : Option Str

namespace EfDG11

/-- `EF_DG11_TAG`. -/
def efDg11Tag : Nat := 0x6B

/-- `TAG_TAG_LIST`. -/
def tagTagList : Nat := 0x5C

/-- `TAG_FULL_NAME`. -/
def tagFullName : Nat := 0x5F0E

/-- `TAG_OTHER_NAME`. -/
def tagOtherName : Nat := 0x5F0F

/-- `TAG_PERSONAL_NUMBER`. -/
def tagPersonalNumber : Nat := 0x5F10

/-- `TAG_FULL_DATE_OF_BIRTH`. -/
def tagFullDateOfBirth : Nat := 0x5F2B

/-- `TAG_PLACE_OF_BIRTH`. -/
def tagPlaceOfBirth : Nat := 0x5F11

/-- `TAG_PERMANENT_ADDRESS`. -/
def tagPermanentAddress : Nat := 0x5F42

/-- `TAG_TELEPHONE`. -/
def tagTelephone : Nat := 0x5F12

/-- `TAG_PROFESSION`. -/
def tagProfession : Nat := 0x5F13

/-- `TAG_TITLE`. -/
def tagTitle : Nat := 0x5F14

/-- `TAG_PERSONAL_SUMMARY`. -/
def tagPersonalSummary : Nat := 0x5F15

/-- `TAG_PROOF_OF_CITIZENSHIP`. -/
def tagProofOfCitizenship : Nat := 0x5F16

/-- `TAG_OTHER_VALID_TD_NUMBERS`. -/
def tagOtherValidTdNumbers : Nat := 0x5F17

/-- `TAG_CUSTODY_INFORMATION`. -/
def tagCustodyInformation : Nat := 0x5F18

/-- The value that `..Self::default()` fills in, with the bytes of the file. -/
def ofEncoded (encoded : Bytes) : EfDG11 where
  encoded
  nameOfHolder := none
  otherNames := []
  personalNumber := none
  fullDateOfBirth := none
  placeOfBirth := []
  permanentAddress := []
  telephone := none
  profession := none
  title := none
  personalSummary := none
  proofOfCitizenship := none
  otherValidTdNumbers := []
  custodyInformation := none

/-- `utf8`. -/
def utf8 (value : Bytes) : Outcome EfParseError Str :=
  Outcome.ofOption ⟨s!"Invalid UTF-8 in DG11 field: {(Utf8.errorOf value).text}"⟩ (Utf8.decode value)

/-- `parse_full_dob`: four bytes of packed digits, or eight digits of text. -/
def parseFullDob (reference : NaiveDate) (value : Bytes) : Outcome EfParseError NaiveDate :=
  if value.length = 4 then
    (toDate value).mapErr fun e => ⟨s!"Invalid DG11 packed date: {e.text}"⟩
  else if value.length ≠ 8 ∨ ¬ value.all Utf8.isAsciiDigit then
    .err ⟨"Invalid DG11 date string: expected 8 ASCII digits (CCYYMMDD)"⟩
  else
    let s := value.map fun b => Char.ofNat b.toNat
    (parseDateWithRef s false reference).mapErr fun e =>
      ⟨s!"Invalid DG11 date string: {e.display}"⟩

/-- `absorb_field`. -/
def absorbField (reference : NaiveDate) (self : EfDG11) (tag : Nat) (value : Bytes) :
    Outcome EfParseError EfDG11 :=
  if tag = tagFullName then do
    let s ← utf8 value
    return { self with nameOfHolder := some s }
  else if tag = tagOtherName then do
    let s ← utf8 value
    return { self with otherNames := self.otherNames ++ [s] }
  else if tag = tagPersonalNumber then do
    let s ← utf8 value
    return { self with personalNumber := some s }
  else if tag = tagFullDateOfBirth then do
    let date ← parseFullDob reference value
    return { self with fullDateOfBirth := some date }
  else if tag = tagPlaceOfBirth then do
    let s ← utf8 value
    return { self with placeOfBirth := self.placeOfBirth ++ [s] }
  else if tag = tagPermanentAddress then do
    let s ← utf8 value
    return { self with permanentAddress := self.permanentAddress ++ [s] }
  else if tag = tagTelephone then do
    let s ← utf8 value
    return { self with telephone := some s }
  else if tag = tagProfession then do
    let s ← utf8 value
    return { self with profession := some s }
  else if tag = tagTitle then do
    let s ← utf8 value
    return { self with title := some s }
  else if tag = tagPersonalSummary then do
    let s ← utf8 value
    return { self with personalSummary := some s }
  else if tag = tagProofOfCitizenship then return { self with proofOfCitizenship := some value }
  else if tag = tagOtherValidTdNumbers then do
    let s ← utf8 value
    return { self with otherValidTdNumbers := self.otherValidTdNumbers ++ [s] }
  else if tag = tagCustodyInformation then do
    let s ← utf8 value
    return { self with custodyInformation := some s }
  else return self

/-- What the field loop does with an object. -/
def absorb (reference : NaiveDate) (out : EfDG11) (tlv : DecodedTv) : Outcome EfParseError EfDG11 :=
  out.absorbField reference tlv.tag.value tlv.value

/-- What it does where an object does not decode. -/
def refuse (_ : EfDG11) (e : TlvError) : Outcome EfParseError EfDG11 :=
  .err ⟨s!"Invalid DG11 field TLV: {e.text}"⟩

/-- A turn of the field loop of `from_bytes`, at an offset and with the fields absorbed so far. -/
def fieldTurn (reference : NaiveDate) (body : Bytes) :
    Nat × EfDG11 → Outcome EfParseError (Turn (Nat × EfDG11) EfDG11) :=
  Tlv.format.walkTurn (absorb reference) refuse body

/-- The field loop: the fields from `offset` on. -/
def readFields (reference : NaiveDate) (body : Bytes) (offset : Nat) (out : EfDG11) :
    Outcome EfParseError EfDG11 :=
  Tlv.format.walk (absorb reference) refuse body offset out

/-- `from_bytes`. -/
def fromBytes (reference : NaiveDate) (encoded : Bytes) : Outcome EfParseError EfDG11 := do
  let body ← parseDgContent encoded efDg11Tag
  let tagListTlv ← (Tlv.decode body).mapErr fun e =>
    EfParseError.mk s!"Invalid DG11 tag-list TLV: {e.text}"
  if tagListTlv.tag.value ≠ tagTagList then
    .err ⟨s!"Invalid tag-list tag={upperHex 1 tagListTlv.tag.value}, " ++
      s!"expected tag={upperHex 1 tagTagList}"⟩
  else readFields reference body tagListTlv.encodedLen (ofEncoded encoded)

end EfDG11

end Dmrtd
