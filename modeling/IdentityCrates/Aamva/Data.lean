import IdentityCrates.Dmrtd.Extension.DateString
import IdentityCrates.Lib.BTreeMap
import IdentityCrates.Lib.Octets
import IdentityCrates.Lib.Text
import Mathlib.Data.Char

/-!
# The AAMVA licence

`data.rs` and `error.rs`: the parsed licence, the codes of its enumerations, and the errors of the
parser.  Enumerations without a default refuse what they do not know; the colours keep it.
-/

namespace Aamva

open Dmrtd (NaiveDate)
open Octets Rust
open Text hiding slice sliceFrom slice_eq sliceFrom_eq

/-- `AamvaError`, as far as the parser returns it. -/
inductive AamvaError where
  | payloadTooShort (len min : Nat)
  | missingComplianceIndicator
  | missingAnsiHeader
  | malformedHeader (reason : String)
  | malformedSubfileDesignator (index : Nat)
  | subfileOutOfBounds (subfile : Str) (offset length payloadLen : Nat)
  | subfileTypeMismatch (expected : Str)
  | invalidDate (element : String) (raw : Str)
  deriving DecidableEq, Repr

/-- The first of a list of codes that is the text. -/
def byCode {α : Type} (codes : List (String × α)) (s : Str) : Option α :=
  (codes.find? fun entry => entry.1.toList = s).map Prod.snd

/-- The first of a list of codes that is the text in any case. -/
def byCodeIgnoreCase {α : Type} (codes : List (String × α)) (s : Str) : Option α :=
  (codes.find? fun entry => entry.1.toList.map Char.toLower = s.map Char.toLower).map Prod.snd

/-- `Sex`. -/
inductive Sex where
  | male | female | notSpecified
  deriving DecidableEq, Repr

/-- `Sex::from_str`. -/
def Sex.fromStr : Str → Option Sex :=
  byCode [("1", .male), ("2", .female), ("9", .notSpecified)]

/-- `EyeColor`. -/
inductive EyeColor where
  | black | blue | brown | gray | green | hazel | maroon | pink | dichromatic | unknown
  | other (code : Str)
  deriving DecidableEq, Repr

/-- `EyeColor::from_str`, which does not fail. -/
def EyeColor.fromStr (s : Str) : EyeColor :=
  (byCodeIgnoreCase [("BLK", .black), ("BLU", .blue), ("BRO", .brown), ("BRN", .brown),
    ("GRY", .gray), ("GRN", .green), ("HAZ", .hazel), ("MAR", .maroon), ("PNK", .pink),
    ("DIC", .dichromatic), ("UNK", .unknown)] s).getD (.other s)

/-- `HairColor`. -/
inductive HairColor where
  | bald | black | blond | brown | gray | red | sandy | white | unknown
  | other (code : Str)
  deriving DecidableEq, Repr

/-- `HairColor::from_str`, which does not fail. -/
def HairColor.fromStr (s : Str) : HairColor :=
  (byCodeIgnoreCase [("BAL", .bald), ("BLK", .black), ("BLN", .blond), ("BRO", .brown),
    ("BRN", .brown), ("GRY", .gray), ("RED", .red), ("SDY", .sandy), ("WHI", .white),
    ("UNK", .unknown)] s).getD (.other s)

/-- `Country`. -/
inductive Country where
  | usa | canada
  deriving DecidableEq, Repr

/-- `Country::from_str`. -/
def Country.fromStr : Str → Option Country := byCode [("USA", .usa), ("CAN", .canada)]

/-- `Compliance`. -/
inductive Compliance where
  | compliant | nonCompliant
  deriving DecidableEq, Repr

/-- `Compliance::from_str`. -/
def Compliance.fromStr : Str → Option Compliance :=
  byCode [("F", .compliant), ("N", .nonCompliant)]

/-- `Truncation`. -/
inductive Truncation where
  | truncated | notTruncated | unknown
  deriving DecidableEq, Repr

/-- `Truncation::from_str`. -/
def Truncation.fromStr : Str → Option Truncation :=
  byCode [("T", .truncated), ("N", .notTruncated), ("U", .unknown)]

/-- `Height`. -/
inductive Height where
  | inches (value : Nat)
  | centimetres (value : Nat)
  deriving DecidableEq, Repr

/-- The height with this unit.  A bare value is in inches; an unknown unit is refused. -/
def Height.withUnit (value : Nat) (unit : Str) : Option Height :=
  if unit = [] ∨ unit = "in".toList then some (.inches value)
  else if unit = "cm".toList then some (.centimetres value)
  else none

/-- `Height::parse`.  The slice behind the digits can panic as far as its type goes. -/
def Height.parse (raw : Str) : Outcome AamvaError (Option Height) :=
  let trimmed := trim raw
  let digits := trimmed.takeWhile Char.isDigit
  if digits.isEmpty then .ok none
  else
    match parseUnsigned 65535 digits with
    | none => .ok none
    | some value => do
      let rest ← Text.sliceFrom trimmed (byteLen digits)
      return Height.withUnit value ((trim rest).map Char.toLower)

/-- `SubfileDesignator`. -/
structure SubfileDesignator where
  subfileType : Str
  offset : Nat
  length : Nat
  deriving DecidableEq, Repr

/-- `AamvaHeader`. -/
structure AamvaHeader where
  iin : Str
  aamvaVersion : Nat
  jurisdictionVersion : Nat
  entryCount : Nat
  subfiles : List SubfileDesignator
  deriving DecidableEq, Repr

/-- The elements of a licence by their codes. -/
abbrev Elements := BTreeMap Str Str

/-- `AamvaLicense`. -/
structure AamvaLicense where
  header : Option AamvaHeader
  elements : Elements
  familyName : Option Str
  firstName : Option Str
  middleName : Option Str
  nameSuffix : Option Str
  familyNameTruncation : Option Truncation
  firstNameTruncation : Option Truncation
  middleNameTruncation : Option Truncation
  documentNumber : Option Str
  documentDiscriminator : Option Str
  country : Option Country
  jurisdiction : Option Str
  dateOfBirth : Option NaiveDate
  issueDate : Option NaiveDate
  expiryDate : Option NaiveDate
  cardRevisionDate : Option NaiveDate
  under18Until : Option NaiveDate
  under19Until : Option NaiveDate
  under21Until : Option NaiveDate
  sex : Option Sex
  eyeColor : Option EyeColor
  hairColor : Option HairColor
  height : Option Height
  weightLb : Option Nat
  weightKg : Option Nat
  weightRange : Option Nat
  addressStreet1 : Option Str
  addressStreet2 : Option Str
  city : Option Str
  postalCode : Option Str
  vehicleClass : Option Str
  restrictions : Option Str
  endorsements : Option Str
  organDonor : Option Bool
  veteran : Option Bool
  compliance : Option Compliance

end Aamva
