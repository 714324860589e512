import IdentityCrates.MdlVerify.Isomdl
import IdentityCrates.MdlVerify.Value

/-!
# Issuer data authentication

`issuer.rs`, with `anchor.rs`, `preflight.rs` and the parts of `block_on.rs` it uses.  It works on a
`DeviceResponse` at rest: is this what the issuer signed, and is that issuer trusted?

The core, `verifyDocumentsWith`, is asynchronous and takes whoever fetches revocation lists; the
loop over the documents is `verifyDocument` for each of them, in order.  The clock is the parameter
`now`.
-/

namespace MdlVerify

open Cbor (Value)
open Octets Rust Text

/-! ## Anchors and signers -/

/-- `IacaAnchor`. -/
structure IacaAnchor where
  certificate : Certificate

/-- `TrustRules`. -/
inductive TrustRules where
  | iso18013_5
  | aamva
  deriving DecidableEq

/-- `From<TrustRules> for ValidationRuleset`. -/
def TrustRules.ruleset : TrustRules → ValidationRuleset
  | iso18013_5 => .mdl
  | aamva => .aamvaMdl

/-- `registry`. -/
def registry (anchors : List IacaAnchor) : TrustAnchorRegistry :=
  ⟨anchors.map fun anchor => ⟨anchor.certificate, .iaca⟩⟩

/-- `ID_EC_PUBLIC_KEY`. -/
def idEcPublicKey : String := "1.2.840.10045.2.1"

/-- `NAMED`: object identifier, name, and whether signatures under it can be verified. -/
def named : List (String × String × Bool) :=
  [("1.2.840.10045.3.1.7", "P-256", true),
    ("1.3.132.0.34", "P-384", true),
    ("1.3.132.0.35", "P-521", false),
    ("1.3.101.112", "Ed25519", false),
    ("1.3.101.113", "Ed448", false),
    ("1.2.840.113549.1.1.1", "RSA", false),
    ("1.3.36.3.3.2.8.1.1.7", "brainpoolP256r1", false),
    ("1.3.36.3.3.2.8.1.1.11", "brainpoolP384r1", false),
    ("1.3.36.3.3.2.8.1.1.13", "brainpoolP512r1", false)]

/-- `SignerKey`. -/
structure SignerKey where
  algorithm : String
  verifiable : Bool
  deriving DecidableEq

/-- `VerifyOptions`. -/
structure VerifyOptions where
  at_ : Option DateTime
  rules : TrustRules

/-- `VerifyOptions::default`. -/
def VerifyOptions.default : VerifyOptions := ⟨none, .iso18013_5⟩

/-! ## Results -/

/-- `MsoValidity`. -/
structure MsoValidity where
  signed : DateTime
  validFrom : DateTime
  validUntil : DateTime
  expectedUpdate : Option DateTime
  inWindow : Bool

/-- `MdlDocument`. -/
structure MdlDocument where
  docType : Str
  namespaces : BTreeMap Str (BTreeMap Str MdlValue)
  signatureVerified : Bool
  issuerTrusted : Bool
  trustErrors : List String
  revocationErrors : List String
  validity : MsoValidity
  deviceAuthenticated : Bool

/-- `MdlVerification`. -/
structure MdlVerification where
  version : Str
  documents : List MdlDocument

/-- `ISO_NAMESPACE`. -/
def isoNamespace : Str := "org.iso.18013.5.1".toList

/-- `MDL_DOC_TYPE`. -/
def mdlDocType : Str := "org.iso.18013.5.1.mDL".toList

/-- `MdlDocument::is_authentic`. -/
def MdlDocument.isAuthentic (document : MdlDocument) : Bool :=
  document.signatureVerified && document.issuerTrusted && document.validity.inWindow

/-- `MdlDocument::element`. -/
def MdlDocument.element (document : MdlDocument) (namespace_ identifier : Str) : Option MdlValue := do
  (← document.namespaces.get? namespace_).get? identifier

/-- `MdlDocument::iso`. -/
def MdlDocument.iso (document : MdlDocument) (identifier : Str) : Option MdlValue :=
  document.element isoNamespace identifier

/-- The identifier `age_over_{years}`. -/
def ageIdentifier (years : UInt8) : Str := "age_over_".toList ++ Nat.toDigits 10 years.toNat

/-- `MdlDocument::age_over`. -/
def MdlDocument.ageOver (document : MdlDocument) (years : UInt8) : Option Bool :=
  document.iso (ageIdentifier years) >>= MdlValue.asBool

/-- `MdlVerification::mdl`: the first mDL among the documents. -/
def MdlVerification.mdl (verification : MdlVerification) : Option MdlDocument :=
  verification.documents.find? fun document => document.docType = mdlDocType

/-- `MdlVerification::all_authentic`. -/
def MdlVerification.allAuthentic (verification : MdlVerification) : Bool :=
  !verification.documents.isEmpty && verification.documents.all MdlDocument.isAuthentic

/-! ## One document -/

/-- The `Result` of a call, with its error mapped. -/
def ofResult {ε α : Type} (error : ε → MdlError) : Except ε α → Outcome MdlError α
  | .ok a => .ok a
  | .error e => .err (error e)

/-- `X5CHAIN_HEADER_LABEL`. -/
def x5chainHeaderLabel : Int := 33

/-- `MAX_POLLS`. -/
def maxPolls : Nat := 64

/-- `to_offset_date_time`. -/
def toOffsetDateTime (t : DateTime) : Outcome MdlError OffsetDateTime :=
  let nanos := t.timestamp * 1000000000 + t.timestampSubsecNanos
  ofResult (fun e => .unreadable s!"verification time is out of range: {e}")
    (OffsetDateTime.fromUnixTimestampNanos nanos)

/-- The elements of one namespace. -/
def elements : List (Tag24 IssuerSignedItem) → BTreeMap Str MdlValue →
    Outcome MdlError (BTreeMap Str MdlValue)
  | [], out => .ok out
  | item :: items, out => do
    let value ← ofResult id (MdlValue.tryFrom item.inner.elementValue)
    elements items (out.insert item.inner.elementIdentifier value)

/-- The loop of `namespaces`. -/
def namespacesLoop : List (Str × List (Tag24 IssuerSignedItem)) →
    BTreeMap Str (BTreeMap Str MdlValue) →
    Outcome MdlError (BTreeMap Str (BTreeMap Str MdlValue))
  | [], out => .ok out
  | (name, items) :: rest, out => do
    let found ← elements items BTreeMap.empty
    namespacesLoop rest (out.insert name found)

/-- `namespaces`. -/
def namespaces (document : Document) : Outcome MdlError (BTreeMap Str (BTreeMap Str MdlValue)) :=
  match document.issuerSigned.namespaces with
  | none => .ok BTreeMap.empty
  | some found => namespacesLoop found.entries BTreeMap.empty

variable {Request Report : Type} (iso : Isomdl Request Report)

/-- `SignerKey::of`. -/
def SignerKey.of (certificate : Certificate) : SignerKey :=
  let algorithm := iso.algorithmOid certificate
  let oid := if algorithm = idEcPublicKey then (iso.parametersOid certificate).getD algorithm
    else algorithm
  match named.find? fun entry => entry.1 = oid with
  | some (_, name, verifiable) => ⟨name, verifiable⟩
  | none => ⟨oid, false⟩

/-- `x5chain`. -/
def x5chain (document : Document) : Outcome MdlError X5Chain :=
  match document.issuerSigned.issuerAuth.unprotected.find?
      fun entry => entry.1 = Label.int x5chainHeaderLabel with
  | none =>
    .err (.missingSignerCertificate "IssuerAuth carries no x5chain header (label 33)")
  | some (_, value) => ofResult .missingSignerCertificate (iso.x5chainFromCbor value)

/-- The closure `convert` of `validity`. -/
def convert (t : OffsetDateTime) : Outcome MdlError DateTime :=
  Outcome.ofOption
    (.unreadable s!"MSO validityInfo holds an out-of-range date: {iso.displayTime t}")
    (DateTime.fromTimestamp t.unixTimestamp t.nanosecond)

/-- `convert` under `Option::map` and `transpose`. -/
def convertOptional : Option OffsetDateTime → Outcome MdlError (Option DateTime)
  | none => .ok none
  | some t => do return some (← convert iso t)

/-- `validity`. -/
def validity (info : ValidityInfo) (t : DateTime) : Outcome MdlError MsoValidity := do
  let signed ← convert iso info.signed
  let validFrom ← convert iso info.validFrom
  let validUntil ← convert iso info.validUntil
  let expectedUpdate ← convertOptional iso info.expectedUpdate
  return {
    signed, validFrom, validUntil, expectedUpdate
    inWindow := decide (validFrom ≤ t) && decide (t ≤ validUntil)
  }

/-- `validate_chain`. -/
def validateChain (rules : TrustRules) (chain : X5Chain) (anchors : TrustAnchorRegistry)
    (t : OffsetDateTime) (fetcher : RevocationFetcher Request Report) : Future ValidationOutcome :=
  (iso.validateWithOptions rules.ruleset chain anchors ⟨some t⟩).run fetcher

/-- The verdict on the issuer, with the errors behind it. -/
def trust (anchors : List IacaAnchor) (rules : TrustRules) (chain : X5Chain)
    (atOdt : OffsetDateTime) (fetcher : RevocationFetcher Request Report) :
    Future (Bool × List String × List String) :=
  if anchors.isEmpty then Future.ready (false, ["no IACA trust anchors were supplied"], [])
  else (validateChain iso rules chain (registry anchors) atOdt fetcher).await fun outcome =>
    Future.ready (outcome.success, outcome.errors, outcome.revocationErrors)

/-- What the issuer signed for a document: the checks up to the comparison of the document types. -/
def authenticate (document : Document) (chain : X5Chain) : Outcome MdlError Mso := do
  if !iso.supportedCurve chain.endEntityCertificate then
    .err (.unsupportedAlgorithm (SignerKey.of iso chain.endEntityCertificate).algorithm)
  else
    let mso ← ofResult .tampered (iso.issuerAuthentication chain document.issuerSigned)
    if mso.docType ≠ document.docType then
      let claimed := String.ofList (debugStr document.docType)
      let signed := String.ofList (debugStr mso.docType)
      .err (.tampered s!"document claims docType {claimed} but the issuer signed {signed}")
    else return mso

/-- The body of the loop in `verify_documents_with`. -/
def verifyDocument (anchors : List IacaAnchor) (rules : TrustRules) (t : DateTime)
    (atOdt : OffsetDateTime) (fetcher : RevocationFetcher Request Report) (document : Document) :
    Async MdlError MdlDocument := do
  let chain ← Async.ofOutcome (x5chain iso document)
  let mso ← Async.ofOutcome (authenticate iso document chain)
  let validity ← Async.ofOutcome (validity iso mso.validityInfo t)
  let (issuerTrusted, trustErrors, revocationErrors) ←
    Async.await (trust iso anchors rules chain atOdt fetcher)
  let namespaces ← Async.ofOutcome (namespaces document)
  return {
    docType := document.docType, namespaces, signatureVerified := true, issuerTrusted, trustErrors,
    revocationErrors, validity, deviceAuthenticated := false
  }

/-! ## A response -/

/-- The loop of `verify_documents_with` over the documents that are left. -/
def verifyEach (verify : Document → Async MdlError MdlDocument) : List Document →
    List MdlDocument → Async MdlError (List MdlDocument)
  | [], verified => pure verified
  | document :: documents, verified => do
    let found ← verify document
    verifyEach verify documents (verified ++ [found])

/-- `verify_documents_with`. -/
def verifyDocumentsWith (now : DateTime) (response : DeviceResponse) (anchors : List IacaAnchor)
    (options : VerifyOptions) (fetcher : RevocationFetcher Request Report) :
    Async MdlError MdlVerification := do
  let documents ← Async.ofOutcome (Outcome.ofOption .noDocuments response.documents)
  let t := options.at_.getD now
  let atOdt ← Async.ofOutcome (toOffsetDateTime t)
  let verified ←
    verifyEach (verifyDocument iso anchors options.rules t atOdt fetcher) documents []
  return ⟨response.version, verified⟩

/-- Poll an asynchronous call for a while; giving up is an error. -/
def tryBlockOn {α : Type} (call : Async MdlError α) : Outcome MdlError α :=
  match Future.tryBlockOn maxPolls call with
  | some result => result
  | none => .err .validationDidNotComplete

/-- `verify_documents`. -/
def verifyDocuments (now : DateTime) (response : DeviceResponse) (anchors : List IacaAnchor)
    (options : VerifyOptions) : Outcome MdlError MdlVerification :=
  tryBlockOn (verifyDocumentsWith iso now response anchors options iso.noFetcher)

/-- `cbor::from_slice`, with the error that every entry point reports. -/
def decodeResponse (deviceResponse : Bytes) : Outcome MdlError DeviceResponse :=
  ofResult (fun e => .unreadable s!"could not decode a DeviceResponse: {e}")
    (iso.decodeResponse deviceResponse)

/-- `verify_issuer_auth_with`. -/
def verifyIssuerAuthWith (now : DateTime) (deviceResponse : Bytes) (anchors : List IacaAnchor)
    (options : VerifyOptions) : Outcome MdlError MdlVerification := do
  verifyDocuments iso now (← decodeResponse iso deviceResponse) anchors options

/-- `verify_issuer_auth`. -/
def verifyIssuerAuth (now : DateTime) (deviceResponse : Bytes) (anchors : List IacaAnchor) :
    Outcome MdlError MdlVerification :=
  verifyIssuerAuthWith iso now deviceResponse anchors VerifyOptions.default

/-! ## Asking before verifying

What `preflight.rs` reports on a sample response.  Nothing is verified here: the algorithm of a key
is read out of a certificate. -/

/-- The closure of `response_signer_keys`. -/
def documentSignerKey (document : Document) : Outcome MdlError SignerKey := do
  let chain ← x5chain iso document
  return SignerKey.of iso chain.endEntityCertificate

/-- `response_signer_keys`. -/
def responseSignerKeys (deviceResponse : Bytes) : Outcome MdlError (List SignerKey) := do
  let response ← decodeResponse iso deviceResponse
  let documents ← Outcome.ofOption .noDocuments response.documents
  documents.mapM (documentSignerKey iso)

end MdlVerify
