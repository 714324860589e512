import IdentityCrates.AadhaarOfflineKyc.Data
import IdentityCrates.Chrono.ParseFromStr
import IdentityCrates.Lib.Slice
import IdentityCrates.Lib.Utf8
import Mathlib.Data.Nat.Digits.Defs

/-!
# The Aadhaar Secure QR

`parser.rs` and `signature.rs`.  A payload is sixteen text fields, each closed by `FF`, and then a
tail: photo, optional hashes and the signature.  The fields are cut from the front, the tail from
its end, and the indicator in the first field says which hashes there are.

`parse_decompressed` is cut into the steps it takes in turn (`splitTail`, `splitHashes`,
`parseReferenceId`); each keeps the source's checks and slices, where a slice out of range is a
panic.
-/

namespace AadhaarOfflineKyc

open Dmrtd (NaiveDate)
open Octets Rust Text

/-- `TEXT_FIELD_COUNT`. -/
def textFieldCount : Nat := 16

/-- `HASH_LEN`. -/
def hashLen : Nat := 32

/-- `SIGNATURE_LEN`. -/
def signatureLen : Nat := 256

/-- `MAX_DECOMPRESSED_SIZE`. -/
def maxDecompressedSize : Nat := 32 * 1024 * 1024

/-! ## Text fields -/

/-- The loop of `split_text_fields` over the bytes that are left: the bytes of the field under
construction and the fields found so far. -/
def splitLoop : Bytes → Bytes → List Bytes → Outcome AadhaarError (List Bytes × Bytes)
  | [], _, fields => .err (.insufficientFields textFieldCount fields.length)
  | b :: rest, current, fields =>
    if b = 0xFF then
      if (fields ++ [current]).length = textFieldCount then .ok (fields ++ [current], rest)
      else splitLoop rest [] (fields ++ [current])
    else splitLoop rest (current ++ [b]) fields

/-- `split_text_fields`. -/
def splitTextFields (raw : Bytes) : Outcome AadhaarError (List Bytes × Bytes) :=
  splitLoop raw [] []

/-- `parse_indicator`. -/
def parseIndicator (raw : Bytes) : Outcome AadhaarError UInt8 := do
  let s ← Outcome.ofOption (.invalidIndicator (debugNumbers (raw.map UInt8.toNat)))
    (Utf8.decode raw)
  let v ← Outcome.ofOption (.invalidIndicator s) (parseUnsigned 255 (trim s))
  if v > 3 then .err (.invalidIndicator s)
  else return UInt8.ofNat v

/-- The formats of `parse_dob`, in the order in which they are tried. -/
def dobFormats : List (List Chrono.Item) :=
  [[.day, .literal '-', .month, .literal '-', .year],
    [.day, .literal '/', .month, .literal '/', .year],
    [.year, .literal '-', .month, .literal '-', .day]]

/-- `parse_dob`. -/
def parseDob (raw : Bytes) : Outcome AadhaarError (Option NaiveDate) := do
  let s ← Outcome.ofOption (.invalidUtf8 "dob") (Utf8.decode raw)
  let s := trim s
  if s.isEmpty then return none
  else
    match dobFormats.findSome? (Chrono.parseFromStr s) with
    | some d => return some d
    | none => .err (.invalidDate s)

/-- `utf8`. -/
def utf8 (raw : Bytes) (field : String) : Outcome AadhaarError Str :=
  Outcome.ofOption (.invalidUtf8 field) (Utf8.decode raw)

/-- `utf8_opt`. -/
def utf8Opt (raw : Bytes) (field : String) : Outcome AadhaarError (Option Str) :=
  if raw.isEmpty then .ok none
  else do
    let s ← utf8 raw field
    return some s

/-- The reference id and its first four characters, which must be digits. -/
def parseReferenceId (raw : Bytes) : Outcome AadhaarError (Str × Str) := do
  let referenceId ← utf8 raw "reference_id"
  let lastFourAadhaar := referenceId.take 4
  if byteLen lastFourAadhaar ≠ 4 ∨ ¬ lastFourAadhaar.all Char.isDigit then
    .err (.invalidReferenceId referenceId)
  else return (referenceId, lastFourAadhaar)

/-! ## The tail -/

/-- The signature, the tail without it, and the bytes it is over. -/
def splitTail (raw tail : Bytes) : Outcome AadhaarError (Bytes × Bytes × Bytes) :=
  if tail.length < signatureLen then .err (.payloadTooShort raw.length)
  else do
    let signature ← sliceFrom tail (tail.length - signatureLen)
    let tailMinusSig ← slice tail 0 (tail.length - signatureLen)
    let signedLen ← checkedSub raw.length signatureLen
    let signedBytes ← slice raw 0 signedLen
    return (signature, tailMinusSig, signedBytes)

/-- Does the indicator declare a mobile hash? -/
def mobilePresent (indicator : UInt8) : Bool := indicator &&& 0b01 != 0

/-- Does the indicator declare an email hash? -/
def emailPresent (indicator : UInt8) : Bool := indicator &&& 0b10 != 0

/-- The photo and the hashes the indicator declares. -/
def splitHashes (rawLen : Nat) (tailMinusSig : Bytes) (indicator : UInt8) :
    Outcome AadhaarError (Bytes × Option Bytes × Option Bytes) :=
  let hashTotal := (if mobilePresent indicator then hashLen else 0) +
    (if emailPresent indicator then hashLen else 0)
  if tailMinusSig.length < hashTotal then .err (.payloadTooShort rawLen)
  else do
    let photoEnd := tailMinusSig.length - hashTotal
    let photo ← slice tailMinusSig 0 photoEnd
    let hashesRegion ← sliceFrom tailMinusSig photoEnd
    match mobilePresent indicator, emailPresent indicator with
    | true, true => do
      let mobile ← slice hashesRegion 0 hashLen
      let email ← sliceFrom hashesRegion hashLen
      return (photo, some mobile, some email)
    | true, false => do
      let mobile ← slice hashesRegion 0 hashLen
      return (photo, some mobile, none)
    | false, true => do
      let email ← slice hashesRegion 0 hashLen
      return (photo, none, some email)
    | false, false => return (photo, none, none)

/-- An optional text field by its position. -/
def optField (textFields : List Bytes) (i : Nat) (field : String) :
    Outcome AadhaarError (Option Str) := do
  let raw ← index textFields i
  utf8Opt raw field

/-- The address fields of `parse_decompressed`, filled into the record. -/
def parseAddress (textFields : List Bytes) (d : AadhaarData) :
    Outcome AadhaarError AadhaarData := do
  let careOf ← optField textFields 5 "care_of"
  let district ← optField textFields 6 "district"
  let landmark ← optField textFields 7 "landmark"
  let house ← optField textFields 8 "house"
  let location ← optField textFields 9 "location"
  let pincode ← optField textFields 10 "pincode"
  let postOffice ← optField textFields 11 "post_office"
  let state ← optField textFields 12 "state"
  let street ← optField textFields 13 "street"
  let subDistrict ← optField textFields 14 "sub_district"
  let villageTownCity ← optField textFields 15 "village_town_city"
  return { d with careOf, district, landmark, house, location, pincode, postOffice, state, street,
                  subDistrict, villageTownCity }

/-- A record without address fields. -/
def withoutAddress (indicator : UInt8) (referenceId lastFourAadhaar name : Str)
    (dob : Option NaiveDate) (gender : Option Gender) (photo : Bytes)
    (mobileHash emailHash : Option Bytes) (signature signedBytes : Bytes) : AadhaarData where
  emailMobileIndicator := indicator
  referenceId := referenceId
  lastFourAadhaar := lastFourAadhaar
  name := name
  dob := dob
  gender := gender
  careOf := none
  district := none
  landmark := none
  house := none
  location := none
  pincode := none
  postOffice := none
  state := none
  street := none
  subDistrict := none
  villageTownCity := none
  photoJpeg := if photo.isEmpty then none else some photo
  mobileHash := mobileHash
  emailHash := emailHash
  signature := signature
  signedBytes := signedBytes
  signatureVerified := false

/-- `parse_decompressed`. -/
def parseDecompressed (raw : Bytes) : Outcome AadhaarError AadhaarData := do
  let (textFields, tail) ← splitTextFields raw
  let (signature, tailMinusSig, signedBytes) ← splitTail raw tail
  let indicator ← parseIndicator (← index textFields 0)
  let (photo, mobileHash, emailHash) ← splitHashes raw.length tailMinusSig indicator
  let (referenceId, lastFourAadhaar) ← parseReferenceId (← index textFields 1)
  let dob ← parseDob (← index textFields 3)
  let gender := Gender.parseByte (← index textFields 4)
  let name ← utf8 (← index textFields 2) "name"
  parseAddress textFields (withoutAddress indicator referenceId lastFourAadhaar name dob gender
    photo mobileHash emailHash signature signedBytes)

/-! ## From the scanned text -/

/-- `is_gzip`. -/
def isGzip (bytes : Bytes) : Bool :=
  bytes.length ≥ 2 && bytes.getD 0 0 == 0x1F && bytes.getD 1 0 == 0x8B

variable (crates : Crates)

/-- `gunzip_capped`. -/
def gunzipCapped (bytes : Bytes) (limit : Nat) : Outcome AadhaarError Bytes :=
  match crates.gzTake bytes (limit + 1) with
  | .error e => .err (.gunzip e)
  | .ok out => if out.length > limit then .err (.decompressionLimitExceeded limit) else .ok out

/-- `try_gunzip`. -/
def tryGunzip (bytes : Bytes) : Outcome AadhaarError Bytes :=
  gunzipCapped crates bytes maxDecompressedSize

/-- `parse_secure_qr_bytes`. -/
def parseSecureQrBytes (bytes : Bytes) : Outcome AadhaarError AadhaarData := do
  let decompressed ← if isGzip bytes then tryGunzip crates bytes else pure bytes
  parseDecompressed decompressed

/-- `BigUint::to_bytes_be`: no leading zeros, and one zero byte for zero. -/
def toBytesBe (n : Nat) : Bytes :=
  if n = 0 then [0] else ((Nat.digits 256 n).map UInt8.ofNat).reverse

/-- `parse_secure_qr_text`. -/
def parseSecureQrText (text : Str) : Outcome AadhaarError AadhaarData :=
  let trimmed := trim text
  if trimmed.isEmpty ∨ ¬ trimmed.all Char.isDigit then .err .notDecimal
  else parseSecureQrBytes crates (toBytesBe (ofDigits trimmed))

/-! ## The signature -/

/-- `verify_with_certs`: does any of the certificates' keys validate the signature?  A certificate
that cannot be read is skipped. -/
def verifyWithCerts (signed signature : Bytes) (certs : List String) : Outcome AadhaarError Bool :=
  match crates.signatureTryFrom signature with
  | .error e => .err (.signature s!"malformed signature: {e}")
  | .ok sig => .ok (certs.any fun cert =>
      match crates.certRsaPublicKey cert with
      | some key => crates.verify key signed sig
      | none => false)

/-- `verify_uidai_rsa_sha256`. -/
def verifyUidaiRsaSha256 (signed signature : Bytes) : Outcome AadhaarError Bool :=
  verifyWithCerts crates signed signature crates.uidaiCerts

/-- `verify_secure_qr_payload`. -/
def verifySecureQrPayload (decompressed : Bytes) : Outcome AadhaarError Bool :=
  if decompressed.length ≤ signatureLen then .err (.payloadTooShort decompressed.length)
  else
    verifyUidaiRsaSha256 crates (decompressed.take (decompressed.length - signatureLen))
      (decompressed.drop (decompressed.length - signatureLen))

/-- `AadhaarData::verify`. -/
def AadhaarData.verify (d : AadhaarData) : Outcome AadhaarError Bool :=
  if d.signedBytes.isEmpty then .err (.signature "record carries no signed bytes to verify")
  else verifyUidaiRsaSha256 crates d.signedBytes d.signature

/-- `verified`. -/
def verified (d : AadhaarData) : Outcome AadhaarError AadhaarData := do
  let valid ← d.verify crates
  if !valid then .err .signatureInvalid
  else return { d with signatureVerified := true }

/-- `parse_and_verify_secure_qr_text`. -/
def parseAndVerifySecureQrText (text : Str) : Outcome AadhaarError AadhaarData := do
  let d ← parseSecureQrText crates text
  verified crates d

/-- `parse_and_verify_secure_qr_bytes`. -/
def parseAndVerifySecureQrBytes (bytes : Bytes) : Outcome AadhaarError AadhaarData := do
  let d ← parseSecureQrBytes crates bytes
  verified crates d

/-- `parse_and_verify_decompressed`. -/
def parseAndVerifyDecompressed (raw : Bytes) : Outcome AadhaarError AadhaarData := do
  let d ← parseDecompressed raw
  verified crates d

end AadhaarOfflineKyc
