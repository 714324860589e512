import IdentityCrates.MdlVerify.Properties.Presentation
import IdentityCrates.Mobile.Mdl

/-!
# The entry points for mDL presentations agree

The same pipeline stands behind six entry points, with its checks in different orders: the issuer's
data once or once for each transcript, the reader's key before the candidates or on the way through
the documents, with revocation lists or without.  `EntryPointsAgree` says what a caller may rely on
whichever one he takes.

On top of them `verify_mdl` reports holder binding.  It does so only for an mDL, only when a session
was given, and under the name of the transcript that the holder used.
-/

namespace IdentityMobile

namespace Mdl

open MdlVerify hiding MdlValue
open Octets Rust Text

variable {Request Report : Type} (iso : Isomdl Request Report)

/-- Every document of a response is device authenticated under one transcript, and every verdict
says so. -/
def AllDeviceAuthenticated (deviceResponse : Bytes) (transcript : SessionTranscript iso.codec)
    (key : Option (FixedBytes 32)) (v : MdlVerification) : Prop :=
  ∃ response documents, decodeResponse iso deviceResponse = .ok response
    ∧ response.documents = some documents ∧ v.documents.length = documents.length
    ∧ (∀ document ∈ documents, DeviceAuthenticated iso transcript key document)
    ∧ ∀ verified ∈ v.documents, verified.deviceAuthenticated = true

/-- What the entry points promise, at any one time of the verification. -/
structure EntryPointsAgree (now : DateTime) (deviceResponse : Bytes) (anchors : List IacaAnchor)
    (key : Option (FixedBytes 32)) (options : VerifyOptions) : Prop where
  /-- Several candidates verify as the first of them that verifies alone. -/
  any_iff : ∀ {transcripts : List (SessionTranscript iso.codec)} {v : MdlVerification} {i : Nat},
    verifyPresentationAny iso now deviceResponse anchors transcripts key options = .ok (v, i)
      ↔ (∃ transcript, transcripts[i]? = some transcript ∧
          verifyPresentation iso now deviceResponse anchors transcript key options = .ok v)
        ∧ ∀ j < i, ∀ transcript, transcripts[j]? = some transcript → ∀ w,
          verifyPresentation iso now deviceResponse anchors transcript key options ≠ .ok w
  /-- A presentation that verifies is device authenticated in every document. -/
  device_authenticated : ∀ {transcript : SessionTranscript iso.codec} {v : MdlVerification},
    verifyPresentation iso now deviceResponse anchors transcript key options = .ok v →
    AllDeviceAuthenticated iso deviceResponse transcript key v
  /-- A fetcher of revocation lists that reports nothing makes no difference. -/
  revocation : ∀ {crl : RevocationFetcher Request Report}, iso.ReportsNothing crl →
    (Revocation.verifyIssuerAuth iso now deviceResponse anchors options crl).output
        = verifyIssuerAuthWith iso now deviceResponse anchors options
      ∧ (∀ transcript, (Revocation.verifyPresentation iso now deviceResponse anchors transcript key
          options crl).output
        = verifyPresentation iso now deviceResponse anchors transcript key options)
      ∧ ∀ transcripts, (Revocation.verifyPresentationAny iso now deviceResponse anchors transcripts
          key options crl).output
        = verifyPresentationAny iso now deviceResponse anchors transcripts key options
  /-- Without a transcript no document is device authenticated. -/
  static : ∀ {v : MdlVerification},
    (verifyIssuerAuthWith iso now deviceResponse anchors options = .ok v
      ∨ verifyIssuerAuth iso now deviceResponse anchors = .ok v
      ∨ ∃ crl, (Revocation.verifyIssuerAuth iso now deviceResponse anchors options crl).output
        = .ok v) →
    ∀ verified ∈ v.documents, verified.deviceAuthenticated = false
  /-- With a session the holder is bound, to an mDL and under the label of the candidate found. -/
  mdl_session : ∀ {ders : List Bytes} {session : Session iso.codec} {result : VerifiedIdentity},
    verifyMdl iso now deviceResponse ders (some session) = .ok result →
    ∃ found v i candidate document,
      iacaAnchors iso ders = .ok found
        ∧ verifyPresentationAny iso now deviceResponse found
          (session.candidates.map Candidate.transcript) session.eReaderKey VerifyOptions.default
          = .ok (v, i)
        ∧ session.candidates[i]? = some candidate
        ∧ document ∈ v.documents ∧ document.docType = mdlDocType
        ∧ result.source = some (.mobileDrivingLicence mdlDocType
          (textOf document "issuing_authority") (some candidate.label))
        ∧ result.authenticity.holderBound = some true
  /-- Without a session there is no verdict on the holder. -/
  mdl_static : ∀ {ders : List Bytes} {result : VerifiedIdentity},
    verifyMdl iso now deviceResponse ders none = .ok result →
    result.authenticity.holderBound = none

variable {iso} {now : DateTime} {deviceResponse : Bytes} {anchors : List IacaAnchor}
  {key : Option (FixedBytes 32)} {options : VerifyOptions}

/-! ## Presentations -/

lemma allDeviceAuthenticated {transcript : SessionTranscript iso.codec} {v : MdlVerification}
    (h : verifyPresentation iso now deviceResponse anchors transcript key options = .ok v) :
    AllDeviceAuthenticated iso deviceResponse transcript key v := by
  obtain ⟨response, u, hresponse, hu, hdevice, rfl⟩ := verifyPresentation_eq_ok.mp h
  obtain ⟨documents, hdocuments, hall⟩ := verifyResponseDeviceAuth_eq_ok hdevice
  obtain ⟨documents', atOdt, hdocuments', -, -, hverdicts⟩ := verifyDocumentsWith_eq_ok hu
  rw [hdocuments, Option.some.injEq] at hdocuments'
  subst hdocuments'
  refine ⟨response, documents, hresponse, hdocuments, ?_, hall, ?_⟩
  · show (u.documents.map _).length = documents.length
    rw [List.length_map, hverdicts.length_eq]
  · intro verified hmem
    exact mem_withDeviceAuth hmem

/-! ## Revocation lists -/

section Fetchers

variable {crl : RevocationFetcher Request Report} (h : iso.ReportsNothing crl)

include h

/-- The core returns what it returns without a fetcher. -/
lemma verifyDocumentsWith_noFetcher (response : DeviceResponse) :
    (verifyDocumentsWith iso now response anchors options crl).output
      = (verifyDocumentsWith iso now response anchors options iso.noFetcher).output :=
  verifyDocumentsWith_congr (fun request => h request) now response anchors options

lemma revocation_verifyIssuerAuth :
    (Revocation.verifyIssuerAuth iso now deviceResponse anchors options crl).output
      = verifyIssuerAuthWith iso now deviceResponse anchors options := by
  unfold Revocation.verifyIssuerAuth verifyIssuerAuthWith
  simp only [Async.output_bind, Async.output_ofOutcome, verifyDocumentsWith_noFetcher h,
    verifyDocuments_eq]

lemma revocation_verifyPresentation (transcript : SessionTranscript iso.codec) :
    (Revocation.verifyPresentation iso now deviceResponse anchors transcript key options crl).output
      = verifyPresentation iso now deviceResponse anchors transcript key options := by
  unfold Revocation.verifyPresentation verifyPresentation
  simp only [Async.output_bind, Async.output_ofOutcome, Async.output_pure,
    verifyDocumentsWith_noFetcher h, verifyDocuments_eq]
  rfl

lemma revocation_verifyPresentationAny (transcripts : List (SessionTranscript iso.codec)) :
    (Revocation.verifyPresentationAny iso now deviceResponse anchors transcripts key options
        crl).output
      = verifyPresentationAny iso now deviceResponse anchors transcripts key options := by
  unfold Revocation.verifyPresentationAny verifyPresentationAny
  rw [tryBlockOn_eq (pending_verifyPresentationAnyWith fun _ => rfl)]
  unfold verifyPresentationAnyWith
  split
  · rfl
  · simp only [Async.output_bind, Async.output_ofOutcome, Async.output_pure,
      verifyDocumentsWith_noFetcher h]

/-- A checker that drives the calls to their end agrees with the entry points that ask nobody. -/
lemma blockingCrlChecker_agrees :
    Revocation.BlockingCrlChecker.verifyIssuerAuth iso now deviceResponse anchors options crl
        = verifyIssuerAuthWith iso now deviceResponse anchors options
      ∧ (∀ transcript, Revocation.BlockingCrlChecker.verifyPresentation iso now deviceResponse anchors
          transcript key options crl
        = verifyPresentation iso now deviceResponse anchors transcript key options)
      ∧ ∀ transcripts, Revocation.BlockingCrlChecker.verifyPresentationAny iso now deviceResponse
          anchors transcripts key options crl
        = verifyPresentationAny iso now deviceResponse anchors transcripts key options :=
  ⟨revocation_verifyIssuerAuth h, revocation_verifyPresentation h,
    revocation_verifyPresentationAny h⟩

end Fetchers

/-! ## Data at rest -/

lemma static_revocation {crl : RevocationFetcher Request Report} {v : MdlVerification}
    (h : (Revocation.verifyIssuerAuth iso now deviceResponse anchors options crl).output = .ok v) :
    ∀ verified ∈ v.documents, verified.deviceAuthenticated = false := by
  unfold Revocation.verifyIssuerAuth at h
  rw [Async.output_bind] at h
  obtain ⟨response, -, h⟩ := Outcome.bind_eq_ok.mp h
  exact deviceAuthenticated_eq_false h

lemma static_verifyIssuerAuthWith {v : MdlVerification}
    (h : verifyIssuerAuthWith iso now deviceResponse anchors options = .ok v) :
    ∀ verified ∈ v.documents, verified.deviceAuthenticated = false := by
  rw [← revocation_verifyIssuerAuth iso.reportsNothing_noFetcher] at h
  exact static_revocation h

/-! ## Identities -/

lemma mdl_eq_some {v : MdlVerification} {document : MdlDocument} (h : v.mdl = some document) :
    document ∈ v.documents ∧ document.docType = mdlDocType :=
  ⟨List.mem_of_find?_eq_some h, of_decide_eq_true
    (List.find?_some (p := fun document : MdlDocument => decide (document.docType = mdlDocType)) h)⟩

/-- An identity is made from an mDL of the verification behind it. -/
lemma verifyMdl_eq_ok {ders : List Bytes} {session : Option (Session iso.codec)}
    {result : VerifiedIdentity} (h : verifyMdl iso now deviceResponse ders session = .ok result) :
    ∃ found v matched document, iacaAnchors iso ders = .ok found
      ∧ verification iso now deviceResponse found session = .ok (v, matched)
      ∧ document ∈ v.documents ∧ document.docType = mdlDocType
      ∧ result = identity document matched := by
  obtain ⟨found, hfound, h⟩ := Outcome.bind_eq_ok.mp h
  obtain ⟨⟨v, matched⟩, hv, h⟩ := Outcome.bind_eq_ok.mp h
  obtain ⟨document, hdocument, h⟩ := Outcome.bind_eq_ok.mp h
  obtain ⟨hmem, htype⟩ := mdl_eq_some (Outcome.ofOption_eq_ok.mp hdocument)
  exact ⟨found, v, matched, document, hfound, hv, hmem, htype, (Outcome.ok.inj h).symm⟩

lemma verification_session {session : Session iso.codec} {v : MdlVerification}
    {matched : Option Str}
    (h : verification iso now deviceResponse anchors (some session) = .ok (v, matched)) :
    ∃ i candidate, verifyPresentationAny iso now deviceResponse anchors
        (session.candidates.map Candidate.transcript) session.eReaderKey VerifyOptions.default
        = .ok (v, i)
      ∧ session.candidates[i]? = some candidate ∧ matched = some candidate.label := by
  unfold verification at h
  dsimp only at h
  split at h
  · cases h
  · obtain ⟨⟨u, i⟩, hany, h⟩ := Outcome.bind_eq_ok.mp h
    obtain ⟨candidate, hcandidate, h⟩ := Outcome.bind_eq_ok.mp h
    cases h
    exact ⟨i, candidate, Outcome.mapErr_eq_ok.mp hany, Outcome.unwrap_eq_ok.mp hcandidate, rfl⟩

lemma verification_static {v : MdlVerification} {matched : Option Str}
    (h : verification iso now deviceResponse anchors none = .ok (v, matched)) :
    verifyIssuerAuthWith iso now deviceResponse anchors VerifyOptions.default = .ok v := by
  unfold verification at h
  obtain ⟨u, hu, h⟩ := Outcome.bind_eq_ok.mp h
  cases h
  exact Outcome.mapErr_eq_ok.mp hu

lemma holderBound_identity (document : MdlDocument) (profile : Option Str) :
    (identity document profile).authenticity.holderBound
      = if document.deviceAuthenticated then some true else none := rfl

/-- A verification against candidates says of every document that it is device authenticated. -/
lemma deviceAuthenticated_of_any {transcripts : List (SessionTranscript iso.codec)}
    {v : MdlVerification} {i : Nat}
    (h : verifyPresentationAny iso now deviceResponse anchors transcripts key options = .ok (v, i)) :
    ∀ verified ∈ v.documents, verified.deviceAuthenticated = true := by
  obtain ⟨⟨transcript, -, hv⟩, -⟩ := verifyPresentationAny_iff.mp h
  obtain ⟨-, -, -, -, -, -, hall⟩ := allDeviceAuthenticated hv
  exact hall

/-- **The entry points agree.** -/
theorem entryPointsAgree : EntryPointsAgree iso now deviceResponse anchors key options where
  any_iff := verifyPresentationAny_iff
  device_authenticated := allDeviceAuthenticated
  revocation := fun h => ⟨revocation_verifyIssuerAuth h, revocation_verifyPresentation h,
    revocation_verifyPresentationAny h⟩
  static := by
    rintro v (h | h | ⟨crl, h⟩)
    · exact static_verifyIssuerAuthWith h
    · exact static_verifyIssuerAuthWith h
    · exact static_revocation h
  mdl_session := by
    intro ders session result h
    obtain ⟨found, v, matched, document, hfound, hv, hmem, htype, rfl⟩ := verifyMdl_eq_ok h
    obtain ⟨i, candidate, hany, hcandidate, rfl⟩ := verification_session hv
    refine ⟨found, v, i, candidate, document, hfound, hany, hcandidate, hmem, htype, ?_, ?_⟩
    · rw [← htype]
      rfl
    · rw [holderBound_identity, deviceAuthenticated_of_any hany document hmem]
      rfl
  mdl_static := by
    intro ders result h
    obtain ⟨found, v, matched, document, -, hv, hmem, -, rfl⟩ := verifyMdl_eq_ok h
    rw [holderBound_identity,
      static_verifyIssuerAuthWith (verification_static hv) document hmem]
    rfl

end Mdl

end IdentityMobile
