import IdentityCrates.Dmrtd.Lds.Mrz
import IdentityCrates.Lib.Octets
import IdentityCrates.Lib.Outcome
import IdentityCrates.Lib.Text

/-!
# The Aadhaar record

`data.rs` and `error.rs`: the parsed Secure QR record, its errors, and what the crate uses of
others.
-/

namespace AadhaarOfflineKyc

open Dmrtd (NaiveDate)
open Octets Rust Text

/-- `AadhaarError`, as far as the parsers return it. -/
inductive AadhaarError where
  | notDecimal
  | gunzip (reason : String)
  | decompressionLimitExceeded (limit : Nat)
  | payloadTooShort (len : Nat)
  | insufficientFields (expected got : Nat)
  | invalidUtf8 (field : String)
  | invalidDate (raw : Str)
  | invalidReferenceId (raw : Str)
  | invalidIndicator (raw : Str)
  | zip (reason : String)
  | xml (reason : String)
  | signatureInvalid
  | signature (reason : String)
  deriving DecidableEq, Repr

/-- `Gender`. -/
inductive Gender where
  | male | female | transgender
  deriving DecidableEq, Repr

/-- `Gender::from_str`: the letter in either case. -/
def Gender.fromStr (s : Str) : Option Gender :=
  if s = ['M'] ∨ s = ['m'] then some .male
  else if s = ['F'] ∨ s = ['f'] then some .female
  else if s = ['T'] ∨ s = ['t'] then some .transgender
  else none

/-- `Gender::parse_byte`: exactly one ASCII byte. -/
def Gender.parseByte (raw : Bytes) : Option Gender :=
  match raw with
  | [byte] => if 0x80 ≤ byte then none else Gender.fromStr [Char.ofNat byte.toNat]
  | _ => none

/-- `AadhaarData`. -/
structure AadhaarData where
  emailMobileIndicator : UInt8
  referenceId : Str
  lastFourAadhaar : Str
  name : Str
  dob : Option NaiveDate
  gender : Option Gender
  careOf : Option Str
  district : Option Str
  landmark : Option Str
  house : Option Str
  location : Option Str
  pincode : Option Str
  postOffice : Option Str
  state : Option Str
  street : Option Str
  subDistrict : Option Str
  villageTownCity : Option Str
  photoJpeg : Option Bytes
  mobileHash : Option Bytes
  emailHash : Option Bytes
  signature : Bytes
  signedBytes : Bytes
  signatureVerified : Bool
  deriving DecidableEq

/-- What the crate uses of others: gzip, X.509 and RSA, and the pinned certificates. -/
structure Crates where
  /-- At most so many bytes of a gzip stream, or the decoder's error if it comes first. -/
  gzTake : Bytes → Nat → Except String Bytes
  /-- An RSA public key. -/
  RsaPublicKey : Type
  /-- `cert_rsa_public_key`, the key of an X.509 certificate in PEM. -/
  certRsaPublicKey : String → Option RsaPublicKey
  /-- A PKCS #1 v1.5 signature. -/
  Signature : Type
  /-- `Signature::try_from`. -/
  signatureTryFrom : Bytes → Except String Signature
  /-- `VerifyingKey::<Sha256>::verify`. -/
  verify : RsaPublicKey → Bytes → Signature → Bool
  /-- `UIDAI_CERTS`, the texts of the pinned certificates. -/
  uidaiCerts : List String

end AadhaarOfflineKyc
