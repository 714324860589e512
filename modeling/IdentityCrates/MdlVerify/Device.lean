import IdentityCrates.MdlVerify.Issuer

/-!
# Device authentication

`device.rs` and the entry points of `revocation.rs`.  A presentation is verified against one
transcript, or against several of which the holder used one; with revocation lists fetched from
somebody, or without.
-/

namespace MdlVerify

open Octets Rust

variable {Request Report : Type} (iso : Isomdl Request Report)

/-- `NO_READER_KEY`. -/
def noReaderKey : FixedBytes 32 := ⟨List.replicate 32 0, by decide⟩

/-- The key a document is checked with; one is needed if it is MACed. -/
def readerKey : Bool → Option (FixedBytes 32) → Outcome MdlError (FixedBytes 32)
  | true, none => .err .eReaderKeyRequired
  | _, some key => .ok key
  | false, none => .ok noReaderKey

/-- The loop of `verify_response_device_auth` over the documents that are left. -/
def deviceAuthLoop (transcript : SessionTranscript iso.codec)
    (eReaderKeyPrivate : Option (FixedBytes 32)) : List Document → Outcome MdlError Unit
  | [] => .ok ()
  | document :: documents => do
    let key ← readerKey document.deviceSigned.deviceAuth.isMac eReaderKeyPrivate
    ofResult .deviceAuth (iso.deviceAuthentication document transcript key)
    deviceAuthLoop transcript eReaderKeyPrivate documents

/-- `verify_response_device_auth`. -/
def verifyResponseDeviceAuth (response : DeviceResponse) (transcript : SessionTranscript iso.codec)
    (eReaderKeyPrivate : Option (FixedBytes 32)) : Outcome MdlError Unit := do
  let documents ← Outcome.ofOption .noDocuments response.documents
  deviceAuthLoop iso transcript eReaderKeyPrivate documents

/-- `verify_device_auth`. -/
def verifyDeviceAuth (deviceResponse : Bytes) (transcript : SessionTranscript iso.codec)
    (eReaderKeyPrivate : Option (FixedBytes 32)) : Outcome MdlError Unit := do
  verifyResponseDeviceAuth iso (← decodeResponse iso deviceResponse) transcript eReaderKeyPrivate

/-- Every document has proven possession of its device key. -/
def MdlVerification.withDeviceAuth (verification : MdlVerification) : MdlVerification :=
  { verification with
    documents := verification.documents.map fun document =>
      { document with deviceAuthenticated := true } }

/-- `verify_presentation`. -/
def verifyPresentation (now : DateTime) (deviceResponse : Bytes) (anchors : List IacaAnchor)
    (transcript : SessionTranscript iso.codec) (eReaderKeyPrivate : Option (FixedBytes 32))
    (options : VerifyOptions) : Outcome MdlError MdlVerification := do
  let response ← decodeResponse iso deviceResponse
  let verification ← verifyDocuments iso now response anchors options
  verifyResponseDeviceAuth iso response transcript eReaderKeyPrivate
  return verification.withDeviceAuth

/-! ## Candidate transcripts -/

/-- The loop of `verify_presentation_any_with` over the candidates that are left, with the index of
the first of them, how many there are in all, and what the last attempt said. -/
def candidatesLoop (response : DeviceResponse) (eReaderKeyPrivate : Option (FixedBytes 32))
    (count : Nat) : Nat → Option MdlError → List (SessionTranscript iso.codec) →
    Outcome MdlError Nat
  | _, last, [] =>
    let said := (last.map MdlError.display).getD ""
    .err (.deviceAuth (s!"none of the {count} candidate transcripts matched the holder's " ++
      s!"signature; the last attempt said: {said}"))
  | index, _, transcript :: transcripts =>
    match verifyResponseDeviceAuth iso response transcript eReaderKeyPrivate with
    | .ok () => .ok index
    | .err .eReaderKeyRequired => .err .eReaderKeyRequired
    | .err e => candidatesLoop response eReaderKeyPrivate count (index + 1) (some e) transcripts
    | .panic => .panic

/-- The check of the reader's key ahead of the candidates; there are documents by now. -/
def checkReaderKey (response : DeviceResponse) (eReaderKeyPrivate : Option (FixedBytes 32)) :
    Outcome MdlError Unit :=
  match eReaderKeyPrivate with
  | some _ => .ok ()
  | none => do
    let documents ← Outcome.unwrap response.documents
    if documents.any fun document => document.deviceSigned.deviceAuth.isMac then
      .err .eReaderKeyRequired
    else return ()

/-- `verify_presentation_any_with`. -/
def verifyPresentationAnyWith (now : DateTime) (deviceResponse : Bytes) (anchors : List IacaAnchor)
    (transcripts : List (SessionTranscript iso.codec)) (eReaderKeyPrivate : Option (FixedBytes 32))
    (options : VerifyOptions) (fetcher : RevocationFetcher Request Report) :
    Async MdlError (MdlVerification × Nat) := do
  if transcripts.isEmpty then
    Async.ofOutcome (.err (.deviceAuth "no candidate session transcripts were supplied"))
  else
    let response ← Async.ofOutcome (decodeResponse iso deviceResponse)
    let verification ← verifyDocumentsWith iso now response anchors options fetcher
    Async.ofOutcome (checkReaderKey response eReaderKeyPrivate)
    let index ← Async.ofOutcome
      (candidatesLoop iso response eReaderKeyPrivate transcripts.length 0 none transcripts)
    return (verification.withDeviceAuth, index)

/-- `verify_presentation_any`. -/
def verifyPresentationAny (now : DateTime) (deviceResponse : Bytes) (anchors : List IacaAnchor)
    (transcripts : List (SessionTranscript iso.codec)) (eReaderKeyPrivate : Option (FixedBytes 32))
    (options : VerifyOptions) : Outcome MdlError (MdlVerification × Nat) :=
  tryBlockOn (verifyPresentationAnyWith iso now deviceResponse anchors transcripts
    eReaderKeyPrivate options iso.noFetcher)

/-! ## With revocation lists

The functions of `revocation.rs` are asynchronous. -/

namespace Revocation

/-- `revocation::verify_issuer_auth`. -/
def verifyIssuerAuth (now : DateTime) (deviceResponse : Bytes) (anchors : List IacaAnchor)
    (options : VerifyOptions) (crl : RevocationFetcher Request Report) :
    Async MdlError MdlVerification := do
  let response ← Async.ofOutcome (decodeResponse iso deviceResponse)
  verifyDocumentsWith iso now response anchors options crl

/-- `revocation::verify_presentation`. -/
def verifyPresentation (now : DateTime) (deviceResponse : Bytes) (anchors : List IacaAnchor)
    (transcript : SessionTranscript iso.codec) (eReaderKeyPrivate : Option (FixedBytes 32))
    (options : VerifyOptions) (crl : RevocationFetcher Request Report) :
    Async MdlError MdlVerification := do
  let response ← Async.ofOutcome (decodeResponse iso deviceResponse)
  let verification ← verifyDocumentsWith iso now response anchors options crl
  Async.ofOutcome (verifyResponseDeviceAuth iso response transcript eReaderKeyPrivate)
  return verification.withDeviceAuth

/-- `revocation::verify_presentation_any`. -/
def verifyPresentationAny (now : DateTime) (deviceResponse : Bytes) (anchors : List IacaAnchor)
    (transcripts : List (SessionTranscript iso.codec)) (eReaderKeyPrivate : Option (FixedBytes 32))
    (options : VerifyOptions) (crl : RevocationFetcher Request Report) :
    Async MdlError (MdlVerification × Nat) :=
  verifyPresentationAnyWith iso now deviceResponse anchors transcripts eReaderKeyPrivate options
    crl

/-! `BlockingCrlChecker` polls each of them to its end. -/

namespace BlockingCrlChecker

/-- `BlockingCrlChecker::verify_issuer_auth`. -/
def verifyIssuerAuth (now : DateTime) (deviceResponse : Bytes) (anchors : List IacaAnchor)
    (options : VerifyOptions) (checker : RevocationFetcher Request Report) :
    Outcome MdlError MdlVerification :=
  Future.blockOn (Revocation.verifyIssuerAuth iso now deviceResponse anchors options checker)

/-- `BlockingCrlChecker::verify_presentation`. -/
def verifyPresentation (now : DateTime) (deviceResponse : Bytes) (anchors : List IacaAnchor)
    (transcript : SessionTranscript iso.codec) (eReaderKeyPrivate : Option (FixedBytes 32))
    (options : VerifyOptions) (checker : RevocationFetcher Request Report) :
    Outcome MdlError MdlVerification :=
  Future.blockOn (Revocation.verifyPresentation iso now deviceResponse anchors transcript
    eReaderKeyPrivate options checker)

/-- `BlockingCrlChecker::verify_presentation_any`. -/
def verifyPresentationAny (now : DateTime) (deviceResponse : Bytes) (anchors : List IacaAnchor)
    (transcripts : List (SessionTranscript iso.codec)) (eReaderKeyPrivate : Option (FixedBytes 32))
    (options : VerifyOptions) (checker : RevocationFetcher Request Report) :
    Outcome MdlError (MdlVerification × Nat) :=
  Future.blockOn (Revocation.verifyPresentationAny iso now deviceResponse anchors transcripts
    eReaderKeyPrivate options checker)

end BlockingCrlChecker

end Revocation

end MdlVerify
