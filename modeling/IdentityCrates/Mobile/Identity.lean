import IdentityCrates.Dmrtd.Extension.DateString
import IdentityCrates.Lib.Octets
import IdentityCrates.Lib.Text

/-!
# Identities

`identity.rs` and `error.rs`: the one result shape, whichever document it came from, and everything
that can go wrong on the way to it.
-/

namespace IdentityMobile

open Octets Text
open Dmrtd (NaiveDate)

/-- `IdentityError`. -/
inductive IdentityError where
  | nfc (message : String)
  | access
  | unreadable (message : String)
  | notAuthentic (message : String)
  | sessionKeyRequired
  | anchor (message : String)
  | unsupportedAlgorithm (message : String)
  deriving DecidableEq, Repr

/-- Is the error the one that asks the holder to keep the document still and try again? -/
def IdentityError.isNfc : IdentityError → Bool
  | .nfc _ => true
  | _ => false

/-- `DocumentSource`. -/
inductive DocumentSource where
  | passport (documentCode issuingState : Str) (verifiedDataGroups signedDataGroups : List UInt8)
  | mobileDrivingLicence (docType : Str) (issuingAuthority sessionProfile : Option Str)
  deriving DecidableEq, Repr

/-- `Authenticity`: what was actually proven about a document. -/
structure Authenticity where
  dataAuthentic : Bool
  issuerTrusted : Bool
  holderBound : Option Bool
  notExpired : Bool
  warnings : List String
  deriving DecidableEq, Repr

/-- `Authenticity::default`. -/
def Authenticity.default : Authenticity := ⟨false, false, none, false, []⟩

/-- `VerifiedIdentity`. -/
structure VerifiedIdentity where
  familyName : Option Str
  givenName : Option Str
  dateOfBirth : Option Str
  dateOfExpiry : Option Str
  documentNumber : Option Str
  nationality : Option Str
  sex : Option Str
  portrait : Option Bytes
  ageAttestations : List (UInt8 × Bool)
  source : Option DocumentSource
  authenticity : Authenticity
  deriving DecidableEq, Repr

/-- `VerifiedIdentity::age_over`: the first answer for that age. -/
def VerifiedIdentity.ageOver (identity : VerifiedIdentity) (years : UInt8) : Option Bool :=
  (identity.ageAttestations.find? fun attestation => attestation.1 == years).map Prod.snd

/-! ## Dates in ISO 8601 form -/

/-- A date under the format `%Y-%m-%d`.  A year outside four digits carries its sign. -/
def formatIso (date : NaiveDate) : Str :=
  let year := if 0 ≤ date.year ∧ date.year ≤ 9999 then padZero 4 date.year.toNat
    else (if date.year < 0 then '-' else '+') :: padZero 4 date.year.natAbs
  year ++ '-' :: padZero 2 date.month ++ '-' :: padZero 2 date.day

/-- The year at the front of a text, with its sign, and what follows it. -/
def splitYear (s : Str) : Int × Str :=
  let digits (t : Str) : Int := (ofDigits (t.takeWhile Char.isDigit) : Nat)
  match s with
  | '-' :: t => (-digits t, t.dropWhile Char.isDigit)
  | '+' :: t => (digits t, t.dropWhile Char.isDigit)
  | t => (digits t, t.dropWhile Char.isDigit)

/-- `NaiveDate::parse_from_str` under the same format, of the texts that `formatIso` writes. -/
def parseIso (s : Str) : Option NaiveDate :=
  match splitYear s with
  | (year, ['-', m₁, m₂, '-', d₁, d₂]) => do
    let month ← parseDigits [m₁, m₂]
    let day ← parseDigits [d₁, d₂]
    NaiveDate.fromYmdOpt year month day
  | _ => none

/-- Is `date` on or after `limit`? -/
def isOnOrAfter (date limit : NaiveDate) : Bool :=
  !Dmrtd.isAfter limit.year limit.month limit.day (date.year, date.month, date.day)

/-- `non_empty`: a field of the machine readable zone without its padding, if anything is left. -/
def nonEmpty (value : Str) : Option Str :=
  let trimmed := trim (trimMatches '<' (trim value))
  if trimmed.isEmpty then none else some trimmed

end IdentityMobile
