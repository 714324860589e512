import IdentityCrates.Lib.Json.Write
import IdentityCrates.Lib.Utf8
import IdentityCrates.Mobile.Passport

/-!
# The JSON of the FFI

The JSON part of `ffi.rs`: what a result is rendered as on its way to the host, which gets it as a
string without a NUL byte in it.

A format string of the source that writes an object is a `template` here: its keys, and what is put
behind each of them.
-/

namespace IdentityMobile

open Octets
open Text hiding debugNumbers

/-! ## Texts -/

/-- The low `w` hexadecimal digits of `n` in lower case: `{:0wx}` of a number that fits. -/
def hexPadded : Nat → Nat → Str
  | 0, _ => []
  | w + 1, n => hexPadded w (n / 16) ++ [(n % 16).digitChar]

/-- `hex`. -/
def hex (bytes : Bytes) : Str := bytes.flatMap fun b => hexPadded 2 b.toNat

/-- What `quote` writes for a character. -/
def quoteChar (c : Char) : Str :=
  if c = '"' then ['\\', '"']
  else if c = '\\' then ['\\', '\\']
  else if c = '\n' then ['\\', 'n']
  else if c = '\r' then ['\\', 'r']
  else if c = '\t' then ['\\', 't']
  else if c.toNat < 0x20 then '\\' :: 'u' :: hexPadded 4 c.toNat
  else [c]

/-- `quote`. -/
def quote (value : Str) : Str := '"' :: (value.flatMap quoteChar ++ ['"'])

/-- `null`. -/
def nullText : Str := ['n', 'u', 'l', 'l']

/-- `optional`. -/
def optional : Option Str → Str
  | some value => quote value
  | none => nullText

/-- Optional bytes in hexadecimal digits. -/
def optionalHex : Option Bytes → Str
  | some bytes => quote (hex bytes)
  | none => nullText

/-- `bool::to_string`. -/
def boolText : Bool → Str
  | true => ['t', 'r', 'u', 'e']
  | false => ['f', 'a', 'l', 's', 'e']

/-- An optional answer. -/
def optionalBool : Option Bool → Str
  | some value => boolText value
  | none => nullText

/-- A text between quotation marks, as it stands in a format string. -/
def raw (value : String) : Str := '"' :: (value.toList ++ ['"'])

/-- A format string that writes an object. -/
def template (members : List (String × Str)) : Str :=
  Json.object (members.map fun m => (m.1.toList, m.2))

example (a b : Str) : template [("years", a), ("answer", b)] =
    "\x7b\"years\":".toList ++ (a ++ (",\"answer\":".toList ++ (b ++ "\x7d".toList))) := by
  simp [template, Json.object, Json.member]

/-- Texts in brackets, with a comma between them. -/
def bracketed (texts : List Str) : Str := '[' :: (List.intercalate [','] texts ++ [']'])

/-! ## Results -/

/-- The kind of an error. -/
def IdentityError.kind : IdentityError → String
  | .nfc _ => "nfc"
  | .access => "access"
  | .unreadable _ => "unreadable"
  | .notAuthentic _ => "notAuthentic"
  | .sessionKeyRequired => "sessionKeyRequired"
  | .anchor _ => "anchor"
  | .unsupportedAlgorithm _ => "unsupportedAlgorithm"

/-- `IdentityError::to_string`. -/
def IdentityError.text : IdentityError → Str
  | .nfc message => "could not talk to the chip: ".toList ++ message.toList
  | .access => ("the document rejected the access key; check the document number, " ++
      "date of birth and expiry").toList
  | .unreadable message => "the document is not readable: ".toList ++ message.toList
  | .notAuthentic message => "the document is not authentic: ".toList ++ message.toList
  | .sessionKeyRequired =>
    "this presentation needs the reader's ephemeral private key to verify".toList
  | .anchor message => "a trust anchor could not be parsed: ".toList ++ message.toList
  | .unsupportedAlgorithm message => "unsupported signature algorithm: ".toList ++ message.toList

namespace Ffi

/-- `Json::error`. -/
def error (error : IdentityError) : Str :=
  template [("error", template [("kind", raw error.kind), ("message", quote error.text)])]

/-- `source`. -/
def source (identity : VerifiedIdentity) : Str :=
  match identity.source with
  | some (.passport documentCode issuingState verifiedDataGroups signedDataGroups) =>
    template [("kind", raw "passport"), ("documentCode", quote documentCode),
      ("issuingState", quote issuingState),
      ("verifiedDataGroups", Text.debugNumbers (verifiedDataGroups.map UInt8.toNat)),
      ("signedDataGroups", Text.debugNumbers (signedDataGroups.map UInt8.toNat))]
  | some (.mobileDrivingLicence docType issuingAuthority sessionProfile) =>
    template [("kind", raw "mdl"), ("docType", quote docType),
      ("issuingAuthority", optional issuingAuthority), ("sessionProfile", optional sessionProfile)]
  | none => nullText

/-- One age attestation. -/
def attestation (a : UInt8 × Bool) : Str :=
  template [("years", Nat.toDigits 10 a.1.toNat), ("answer", boolText a.2)]

/-- The authenticity of `identity_object`. -/
def authenticity (a : Authenticity) : Str :=
  template [("dataAuthentic", boolText a.dataAuthentic), ("issuerTrusted", boolText a.issuerTrusted),
    ("holderBound", optionalBool a.holderBound), ("notExpired", boolText a.notExpired),
    ("warnings", bracketed (a.warnings.map fun w => quote w.toList))]

/-- `identity_object`. -/
def identityObject (identity : VerifiedIdentity) : Str :=
  template [("familyName", optional identity.familyName),
    ("givenName", optional identity.givenName),
    ("dateOfBirth", optional identity.dateOfBirth),
    ("dateOfExpiry", optional identity.dateOfExpiry),
    ("documentNumber", optional identity.documentNumber),
    ("nationality", optional identity.nationality),
    ("sex", optional identity.sex),
    ("portrait", optionalHex identity.portrait),
    ("ageAttestations", bracketed (identity.ageAttestations.map attestation)),
    ("source", source identity),
    ("authenticity", authenticity identity.authenticity)]

/-- `data_groups`. -/
def dataGroups (files : PassportFiles) : Str :=
  template [("sod", quote (hex files.sod)), ("dg1", quote (hex files.dg1)),
    ("dg2", optionalHex files.dg2), ("dg15", optionalHex files.dg15)]

/-- `Json::from` of a `VerifiedIdentity`. -/
def ofIdentity (identity : VerifiedIdentity) : Str :=
  template [("identity", identityObject identity)]

/-- `Json::from` of a `PassportRead`. -/
def ofPassportRead (read : PassportRead) : Str :=
  template [("identity", identityObject read.identity),
    ("dataGroups", match read.files with
      | some files => dataGroups files
      | none => nullText)]

end Ffi

/-! ## Strings for the host -/

/-- `CString::new`: no byte of it may be the terminator. -/
def cString (text : Str) : Option Bytes :=
  let bytes := Utf8.encode text
  if 0 ∈ bytes then none else some bytes

/-- The fallback of `json`. -/
def fallback : Str := template [("error", template [("kind", raw "internal")])]

/-- `json`: the bytes the host gets. -/
def json {α : Type} (render : α → Str) (result : Except IdentityError α) : Bytes :=
  let rendered := match result with
    | .ok value => render value
    | .error e => Ffi.error e
  (cString rendered).getD (Utf8.encode fallback)

end IdentityMobile
