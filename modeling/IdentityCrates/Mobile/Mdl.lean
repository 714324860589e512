import IdentityCrates.MdlVerify.Device
import IdentityCrates.Mobile.Identity

/-!
# Mobile driving licences

`mdl.rs`: a presentation verified by `mdl-verify` and mapped to the identity that a passport has
too.

The clock is the parameter `now`, as it is below.
-/

namespace IdentityMobile

namespace Mdl

open MdlVerify hiding MdlValue
open Octets Rust Text

variable {Request Report : Type} (iso : Isomdl Request Report)

/-- `Candidate`: a transcript, and the name to report it by. -/
structure Candidate (codec : Codec) where
  label : Str
  transcript : SessionTranscript codec

/-- `Session`. -/
structure Session (codec : Codec) where
  candidates : List (Candidate codec)
  eReaderKey : Option (FixedBytes 32)

/-- `map_error`. -/
def mapError : MdlError → IdentityError
  | .tampered why => .notAuthentic why
  | .deviceAuth why =>
    .notAuthentic s!"the holder did not prove possession of the device key: {why}"
  | .unsupportedAlgorithm what => .unsupportedAlgorithm what
  | .eReaderKeyRequired => .sessionKeyRequired
  | .anchor why => .anchor why
  | other => .unreadable other.display

/-! ## Sessions -/

/-- The `Result` of a builder of transcripts, with its error mapped. -/
def built {α : Type} : Except MdlError α → Outcome IdentityError α
  | .ok a => .ok a
  | .error e => .err (mapError e)

/-- `checked_thumbprint`: a SHA-256 digest or nothing. -/
def checkedThumbprint (value : Option Bytes) : Outcome IdentityError (Option Bytes) :=
  match value with
  | some thumbprint =>
    if thumbprint.length ≠ 32 then
      let length := thumbprint.length
      .err (.unreadable (s!"the response-encryption key thumbprint must be a 32-byte SHA-256 " ++
        s!"value, got {length} bytes"))
    else .ok (some thumbprint)
  | none => .ok none

namespace Session

variable (codec : Codec) (digest : Bytes → Bytes)

/-- `Session::from_cbor`. -/
def fromCbor (transcript : Bytes) (eReaderKey : Option (FixedBytes 32)) :
    Outcome IdentityError (Session codec) := do
  let transcript ← built (SessionTranscript.fromCbor codec transcript)
  return ⟨[⟨"cbor".toList, transcript⟩], eReaderKey⟩

variable {codec}

/-- A candidate added behind the others. -/
def push (session : Session codec) (label : String) (transcript : SessionTranscript codec) :
    Session codec :=
  { session with candidates := session.candidates ++ [⟨label.toList, transcript⟩] }

/-- `Session::openid4vp_1_0`. -/
def openid4vp1_0 (session : Session codec) (clientId nonce : Str) (jwkThumbprint : Option Bytes)
    (responseUri : Str) : Outcome IdentityError (Session codec) := do
  let transcript ← built (SessionTranscript.openid4vp1_0 codec digest clientId nonce
    (← checkedThumbprint jwkThumbprint) responseUri)
  return session.push "openid4vp-1.0" transcript

/-- `Session::openid4vp_dcapi`. -/
def openid4vpDcapi (session : Session codec) (origin nonce : Str) (jwkThumbprint : Option Bytes) :
    Outcome IdentityError (Session codec) := do
  let transcript ← built (SessionTranscript.openid4vpDcapi codec digest origin nonce
    (← checkedThumbprint jwkThumbprint))
  return session.push "openid4vp-dcapi" transcript

/-- `Session::openid4vp_iso_18013_7`. -/
def openid4vpIso18013_7 (session : Session codec)
    (clientId responseUri nonce mdocGeneratedNonce : Str) :
    Outcome IdentityError (Session codec) := do
  let transcript ← built (SessionTranscript.openid4vpIso18013_7 codec digest clientId responseUri
    nonce mdocGeneratedNonce)
  return session.push "iso-18013-7" transcript

end Session

/-! ## The identity -/

/-- `is_iso_date`, on the bytes of the text. -/
def isIsoDate (value : Str) : Bool :=
  let bytes := Utf8.encode value
  bytes.length == 10 && bytes[4]? == some 0x2D && bytes[7]? == some 0x2D
    && [0, 1, 2, 3, 5, 6, 8, 9].all fun i =>
      (bytes[i]?).any fun b => decide (0x30 ≤ b ∧ b ≤ 0x39)

/-- What `iso_date` looks at: the text before its first `T`, if that is ten bytes long, and
otherwise all of it. -/
def datePart (raw : Str) : Str :=
  let front := raw.takeWhile (· ≠ 'T')
  if raw.contains 'T' && byteLen front == 10 then front else raw

/-- `iso_date`, with the warning it may add. -/
def isoDate (raw : Option Str) (field : String) : Option Str × List String :=
  match raw with
  | none => (none, [])
  | some raw =>
    if isIsoDate (datePart raw) then (some (datePart raw), [])
    else
      let text := String.ofList (debugStr raw)
      (none, [s!"{field} was not a YYYY-MM-DD date and was dropped: {text}"])

/-- ISO/IEC 5218, with the codes that decline to say as absence. -/
def sexText (code : Int) : Option Str :=
  if code = 1 then some "M".toList
  else if code = 2 then some "F".toList
  else if code = 0 ∨ code = 9 then none
  else some (toString code).toList

/-- The age that an identifier asks about. -/
def ageOf (identifier : Str) : Option UInt8 := do
  let suffix ← "age_over_".toList.isPrefixOf? identifier
  let years ← parseUnsigned 255 suffix
  return UInt8.ofNat years

/-- The order of the attestations. -/
def attestationLe (a b : UInt8 × Bool) : Bool :=
  decide (a.1 < b.1) || (a.1 == b.1 && (!a.2 || b.2))

/-- `age_attestations`. -/
def ageAttestations (document : MdlDocument) : List (UInt8 × Bool) :=
  match document.namespaces.get? isoNamespace with
  | none => []
  | some elements =>
    (elements.entries.filterMap fun (identifier, value) => do
      let years ← ageOf identifier
      return (years, ← value.asBool)).mergeSort attestationLe

/-- A text element of the ISO namespace. -/
def textOf (document : MdlDocument) (identifier : String) : Option Str :=
  document.iso identifier.toList >>= MdlVerify.MdlValue.asText

/-- A date element of the ISO namespace. -/
def dateOf (document : MdlDocument) (identifier : String) : Option Str :=
  document.iso identifier.toList >>= MdlVerify.MdlValue.asDate

/-- `identity`. -/
def identity (document : MdlDocument) (sessionProfile : Option Str) : VerifiedIdentity :=
  let birth := isoDate (dateOf document "birth_date") "birth_date"
  let expiry := isoDate (dateOf document "expiry_date") "expiry_date"
  { familyName := textOf document "family_name"
    givenName := textOf document "given_name"
    dateOfBirth := birth.1
    dateOfExpiry := expiry.1
    documentNumber := textOf document "document_number"
    nationality := textOf document "issuing_country"
    sex := document.iso "sex".toList >>= MdlVerify.MdlValue.asInt >>= sexText
    portrait := document.iso "portrait".toList >>= MdlVerify.MdlValue.asBytes
    ageAttestations := ageAttestations document
    source := some (.mobileDrivingLicence document.docType
      (textOf document "issuing_authority") sessionProfile)
    authenticity := {
      dataAuthentic := document.signatureVerified
      issuerTrusted := document.issuerTrusted
      holderBound := if document.deviceAuthenticated then some true else none
      notExpired := document.validity.inWindow
      warnings := document.trustErrors ++ document.revocationErrors ++ birth.2 ++ expiry.2 } }

/-! ## Verification -/

/-- `IacaAnchor::from_certificate`. -/
def fromCertificate (der : Bytes) : Outcome MdlError IacaAnchor :=
  ofResult .anchor ((iso.certificateFromDer der).map IacaAnchor.mk)

/-- The anchors of a call, up to the first that does not parse. -/
def iacaAnchors : List Bytes → Outcome IdentityError (List IacaAnchor)
  | [] => .ok []
  | der :: ders => do
    let anchor ← (fromCertificate iso der).mapErr fun e =>
      .anchor s!"IACA certificate: {e.display}"
    return anchor :: (← iacaAnchors ders)

/-- The verification behind `verify_mdl`, with the label of the transcript that matched. -/
def verification (now : DateTime) (deviceResponse : Bytes) (anchors : List IacaAnchor) :
    Option (Session iso.codec) → Outcome IdentityError (MdlVerification × Option Str)
  | some session =>
    if session.candidates.isEmpty then
      .err (.unreadable ("the session carried no candidate transcripts; pass None to skip device " ++
        "authentication deliberately"))
    else do
      let transcripts := session.candidates.map Candidate.transcript
      let (verification, index) ← (verifyPresentationAny iso now deviceResponse anchors transcripts
        session.eReaderKey VerifyOptions.default).mapErr mapError
      let candidate ← Outcome.unwrap session.candidates[index]?
      return (verification, some candidate.label)
  | none => do
    let verification ← (verifyIssuerAuthWith iso now deviceResponse anchors
      VerifyOptions.default).mapErr mapError
    return (verification, none)

/-- What a response without an mDL carried instead. -/
def foundText (verification : MdlVerification) : String :=
  if verification.documents.length = 0 then "nothing"
  else ", ".intercalate (verification.documents.map fun document => String.ofList document.docType)

/-- `verify_mdl`. -/
def verifyMdl (now : DateTime) (deviceResponse : Bytes) (anchors : List Bytes)
    (session : Option (Session iso.codec)) : Outcome IdentityError VerifiedIdentity := do
  let anchors ← iacaAnchors iso anchors
  let (verification, matched) ← verification iso now deviceResponse anchors session
  let found := foundText verification
  let document ← Outcome.ofOption
    (.unreadable s!"the response carried no mDL (found: {found})") verification.mdl
  return identity document matched

end Mdl

end IdentityMobile
