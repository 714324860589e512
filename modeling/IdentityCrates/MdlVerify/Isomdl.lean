import IdentityCrates.Lib.BTreeMap
import IdentityCrates.Lib.Future
import IdentityCrates.MdlVerify.Time
import IdentityCrates.MdlVerify.Transcript
import Mathlib.Data.Char

/-!
# What the verifier rests on

The data of a `DeviceResponse`, and the functions of `isomdl` and `x509-cert` that the verifier
calls, as parameters (`Isomdl`).  Certificates stand for the bytes they were parsed from.

Validation of a certificate chain is asynchronous for one reason, that it may ask for a revocation
list; it is a computation that puts such questions (`Rust.Asking`), run against whoever fetches the
lists.
-/

namespace MdlVerify

open Cbor (Value)
open Octets Rust Text

/-! ## Responses -/

/-- `coset::Label`. -/
inductive Label where
  | int (i : Int)
  | text (s : Str)
  deriving DecidableEq

/-- `coset::CoseSign1`, of whose unprotected header the labels that have no field of their own. -/
structure CoseSign1 where
  protectedHeader : Bytes
  unprotected : List (Label × Value)
  payload : Option Bytes
  signature : Bytes

/-- `coset::CoseMac0`. -/
structure CoseMac0 where
  protectedHeader : Bytes
  unprotected : List (Label × Value)
  payload : Option Bytes
  macTag : Bytes

/-- `IssuerSignedItem`. -/
structure IssuerSignedItem where
  digestId : Int
  random : Bytes
  elementIdentifier : Str
  elementValue : Value

/-- `Tag24`: a value with the bytes it was decoded from. -/
structure Tag24 (α : Type) where
  inner : α
  innerBytes : Bytes

/-- `IssuerSigned`. -/
structure IssuerSigned where
  namespaces : Option (BTreeMap Str (List (Tag24 IssuerSignedItem)))
  issuerAuth : CoseSign1

/-- `DeviceAuth`. -/
inductive DeviceAuth where
  | deviceSignature (signature : CoseSign1)
  | deviceMac (mac : CoseMac0)

/-- `matches!(device_auth, DeviceAuth::DeviceMac(_))`. -/
def DeviceAuth.isMac : DeviceAuth → Bool
  | deviceMac _ => true
  | deviceSignature _ => false

/-- `DeviceSigned`. -/
structure DeviceSigned where
  namespaces : Bytes
  deviceAuth : DeviceAuth

/-- `Document`. -/
structure Document where
  docType : Str
  issuerSigned : IssuerSigned
  deviceSigned : DeviceSigned

/-- `DeviceResponse`. -/
structure DeviceResponse where
  version : Str
  documents : Option (List Document)

/-! ## What the issuer signed -/

/-- `ValidityInfo`. -/
structure ValidityInfo where
  signed : OffsetDateTime
  validFrom : OffsetDateTime
  validUntil : OffsetDateTime
  expectedUpdate : Option OffsetDateTime

/-- The fields of an `Mso` that the verifier reads. -/
structure Mso where
  docType : Str
  validityInfo : ValidityInfo

/-! ## Certificates -/

/-- `x509_cert::Certificate`. -/
structure Certificate where
  der : Bytes
  deriving DecidableEq

/-- `X5Chain`: the certificate of the signer and those above it. -/
structure X5Chain where
  endEntityCertificate : Certificate
  others : List Certificate

/-- `TrustPurpose`. -/
inductive TrustPurpose where
  | iaca
  | vicalAuthority
  deriving DecidableEq

/-- `TrustAnchor`. -/
structure TrustAnchor where
  certificate : Certificate
  purpose : TrustPurpose

/-- `TrustAnchorRegistry`. -/
structure TrustAnchorRegistry where
  anchors : List TrustAnchor

/-- `ValidationRuleset`. -/
inductive ValidationRuleset where
  | mdl
  | aamvaMdl
  deriving DecidableEq

/-- `ValidationOptions`. -/
structure ValidationOptions where
  validationTime : Option OffsetDateTime

/-- `ValidationOutcome`, with what `success` answers. -/
structure ValidationOutcome where
  success : Bool
  errors : List String
  revocationErrors : List String

/-! ## Parameters -/

/-- What `isomdl` and `x509-cert` do.  Revocation lists are asked for by a `Request` and answered by
a `Report`. -/
structure Isomdl (Request Report : Type) where
  /-- `isomdl::cbor`, for transcripts. -/
  codec : Codec
  /-- `cbor::from_slice::<DeviceResponse>`. -/
  decodeResponse : Bytes → Except String DeviceResponse
  /-- `Certificate::from_der`. -/
  certificateFromDer : Bytes → Except String Certificate
  /-- The algorithm of the key in a certificate, as an object identifier. -/
  algorithmOid : Certificate → String
  /-- The object identifier in the parameters of that algorithm, if it decodes. -/
  parametersOid : Certificate → Option String
  /-- `SupportedCurve::from_certificate`: is there one? -/
  supportedCurve : Certificate → Bool
  /-- `X5Chain::from_cbor`. -/
  x5chainFromCbor : Value → Except String X5Chain
  /-- `issuer_authentication`. -/
  issuerAuthentication : X5Chain → IssuerSigned → Except String Mso
  /-- `ValidationRuleset::validate_with_options`. -/
  validateWithOptions : ValidationRuleset → X5Chain → TrustAnchorRegistry → ValidationOptions →
    Asking Request Report ValidationOutcome
  /-- `device_authentication`. -/
  deviceAuthentication : Document → SessionTranscript codec → FixedBytes 32 → Except String Unit
  /-- The report of `RevocationFetcher for ()`. -/
  noReport : Request → Report
  /-- `Display for OffsetDateTime`. -/
  displayTime : OffsetDateTime → String

/-- `RevocationFetcher`: whoever answers the questions for revocation lists. -/
abbrev RevocationFetcher (Request Report : Type) := Request → Future Report

namespace Isomdl

variable {Request Report : Type} (iso : Isomdl Request Report)

/-- `RevocationFetcher for ()`, which answers at once that there is nothing. -/
def noFetcher : RevocationFetcher Request Report := fun request => Future.ready (iso.noReport request)

/-- A fetcher that reports nothing, however long it takes. -/
def ReportsNothing (fetcher : RevocationFetcher Request Report) : Prop :=
  ∀ request, (fetcher request).output = iso.noReport request

lemma reportsNothing_noFetcher : iso.ReportsNothing iso.noFetcher := fun _ => rfl

end Isomdl

end MdlVerify
