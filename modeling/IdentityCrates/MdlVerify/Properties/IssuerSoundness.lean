import IdentityCrates.Lib.Related
import IdentityCrates.MdlVerify.Issuer

/-!
# Issuer data authentication is all or nothing

`verify_documents_with` walks over any number of documents and takes six steps for each that can
fail.  Whatever it returns must be about the documents it was given, one verdict for each and in
their order, and no verdict may rest on the certificate or the signed data of another document.

`Attests` is what one verdict says about its document; `issuerSoundness` says that a response is
accepted with verdicts that attest its documents one by one, and that a document that fails a check
brings the whole response down, whatever stands beside it.

The time of the verification is used on two clocks.  They agree on the instant to the nanosecond,
and the window compares instants; inside a leap second, which the clock of the certificate checks
cannot name, the order of the other clock decides.
-/

namespace MdlVerify

open Octets Rust Text

variable {Request Report : Type} (iso : Isomdl Request Report)

/-! ## What a verdict says -/

/-- The chain that a document carries in the unprotected header of its own `IssuerAuth`. -/
def CarriesChain (document : Document) (chain : X5Chain) : Prop :=
  ∃ entry, document.issuerSigned.issuerAuth.unprotected.find?
      (fun entry => entry.1 = Label.int x5chainHeaderLabel) = some entry
    ∧ iso.x5chainFromCbor entry.2 = .ok chain

/-- A document passes the checks: the issuer's signature holds under the chain the document
carries, and what was signed has the document's type. -/
structure Authentic (document : Document) (chain : X5Chain) (mso : Mso) : Prop where
  carries : CarriesChain iso document chain
  authenticated : iso.issuerAuthentication chain document.issuerSigned = .ok mso
  docType : mso.docType = document.docType

/-- What a verdict says about its document, at the time `t` of the verification and at `atOdt` on
the clock of the certificate checks. -/
structure Attests (anchors : List IacaAnchor) (rules : TrustRules)
    (fetcher : RevocationFetcher Request Report) (t : DateTime) (atOdt : OffsetDateTime)
    (document : Document) (verified : MdlDocument) (chain : X5Chain) (mso : Mso) : Prop where
  authentic : Authentic iso document chain mso
  docType : verified.docType = document.docType
  namespaces : namespaces document = .ok verified.namespaces
  signatureVerified : verified.signatureVerified = true
  trusted : verified.issuerTrusted = true ↔ anchors ≠ [] ∧
    (validateChain iso rules chain (registry anchors) atOdt fetcher).output.success = true
  validFrom : verified.validity.validFrom.unixNanos = mso.validityInfo.validFrom.unixNanos
  validUntil : verified.validity.validUntil.unixNanos = mso.validityInfo.validUntil.unixNanos
  window : verified.validity.inWindow = true ↔
    verified.validity.validFrom ≤ t ∧ t ≤ verified.validity.validUntil
  /-- Outside leap seconds the window is a window of instants. -/
  window_instants : ¬ t.IsLeap → (verified.validity.inWindow = true ↔
    mso.validityInfo.validFrom.unixNanos ≤ atOdt.unixNanos ∧
      atOdt.unixNanos ≤ mso.validityInfo.validUntil.unixNanos)
  deviceAuthenticated : verified.deviceAuthenticated = false

variable {iso}

lemma ofResult_eq_ok {ε α : Type} {error : ε → MdlError} {x : Except ε α} {a : α}
    (h : ofResult error x = .ok a) : x = .ok a := by
  cases x with
  | ok b => exact congrArg Except.ok (Outcome.ok.inj h)
  | error e => cases h

lemma ofResult_ne_panic {ε α : Type} (error : ε → MdlError) (x : Except ε α) :
    ofResult error x ≠ .panic := by
  cases x with
  | ok a => exact nofun
  | error e => exact nofun

lemma x5chain_eq_ok {document : Document} {chain : X5Chain}
    (h : x5chain iso document = .ok chain) : CarriesChain iso document chain := by
  unfold x5chain at h
  split at h
  · cases h
  · next label value hfind => exact ⟨(label, value), hfind, ofResult_eq_ok h⟩

lemma authenticate_eq_ok {document : Document} {chain : X5Chain} {mso : Mso}
    (h : authenticate iso document chain = .ok mso) :
    iso.issuerAuthentication chain document.issuerSigned = .ok mso
      ∧ mso.docType = document.docType := by
  unfold authenticate at h
  split at h
  · cases h
  · obtain ⟨signed, hsigned, h⟩ := Outcome.bind_eq_ok.mp h
    split at h
    · cases h
    · next htype =>
      cases h
      exact ⟨ofResult_eq_ok hsigned, not_not.mp htype⟩

/-- A date that converts is the same instant, and no leap second. -/
lemma convert_eq_ok {t : OffsetDateTime} {u : DateTime} (h : convert iso t = .ok u) :
    u.unixNanos = t.unixNanos ∧ ¬ u.IsLeap := by
  have hfrom := Outcome.ofOption_eq_ok.mp h
  obtain ⟨hseconds, hnanos⟩ := DateTime.fromTimestamp_eq_some hfrom
  constructor
  · unfold DateTime.unixNanos OffsetDateTime.unixNanos
    rw [hseconds, hnanos]
  · unfold DateTime.IsLeap
    rw [hnanos]
    exact Nat.not_le.mpr t.nanosecond_lt

/-- The verdict on the validity, with the bounds it rests on. -/
lemma validity_eq_ok {info : ValidityInfo} {t : DateTime} {result : MsoValidity}
    (h : validity iso info t = .ok result) :
    (result.validFrom.unixNanos = info.validFrom.unixNanos ∧ ¬ result.validFrom.IsLeap)
      ∧ (result.validUntil.unixNanos = info.validUntil.unixNanos ∧ ¬ result.validUntil.IsLeap)
      ∧ (result.inWindow = true ↔ result.validFrom ≤ t ∧ t ≤ result.validUntil) := by
  obtain ⟨signed, -, h⟩ := Outcome.bind_eq_ok.mp h
  obtain ⟨validFrom, hfrom, h⟩ := Outcome.bind_eq_ok.mp h
  obtain ⟨validUntil, huntil, h⟩ := Outcome.bind_eq_ok.mp h
  obtain ⟨update, -, h⟩ := Outcome.bind_eq_ok.mp h
  cases h
  refine ⟨convert_eq_ok hfrom, convert_eq_ok huntil, ?_⟩
  show (decide (validFrom ≤ t) && decide (t ≤ validUntil)) = true ↔ _
  rw [Bool.and_eq_true, decide_eq_true_iff, decide_eq_true_iff]

lemma trust_fst {anchors : List IacaAnchor} {rules : TrustRules} {chain : X5Chain}
    {atOdt : OffsetDateTime} {fetcher : RevocationFetcher Request Report} :
    (trust iso anchors rules chain atOdt fetcher).output.1 = true ↔ anchors ≠ [] ∧
      (validateChain iso rules chain (registry anchors) atOdt fetcher).output.success = true := by
  cases anchors with
  | nil =>
    show false = true ↔ _
    simp
  | cons anchor anchors =>
    show (validateChain iso rules chain (registry (anchor :: anchors)) atOdt
      fetcher).output.success = true ↔ _
    simp

/-- The clocks agree on the instant. -/
lemma toOffsetDateTime_eq_ok {t : DateTime} {atOdt : OffsetDateTime}
    (h : toOffsetDateTime t = .ok atOdt) : atOdt.unixNanos = t.unixNanos :=
  OffsetDateTime.fromUnixTimestampNanos_eq_ok (ofResult_eq_ok h)

/-- The verdict on one document attests it. -/
lemma verifyDocument_attests {anchors : List IacaAnchor} {rules : TrustRules} {t : DateTime}
    {atOdt : OffsetDateTime} (hclock : atOdt.unixNanos = t.unixNanos)
    {fetcher : RevocationFetcher Request Report} {document : Document} {verified : MdlDocument}
    (h : (verifyDocument iso anchors rules t atOdt fetcher document).output = .ok verified) :
    ∃ chain mso, Attests iso anchors rules fetcher t atOdt document verified chain mso := by
  unfold verifyDocument at h
  simp only [Async.output_bind, Async.output_ofOutcome, Async.output_await,
    Async.output_pure, Outcome.ok_bind] at h
  obtain ⟨chain, hchain, h⟩ := Outcome.bind_eq_ok.mp h
  obtain ⟨mso, hmso, h⟩ := Outcome.bind_eq_ok.mp h
  obtain ⟨valid, hvalid, h⟩ := Outcome.bind_eq_ok.mp h
  obtain ⟨disclosed, hdisclosed, h⟩ := Outcome.bind_eq_ok.mp h
  cases h
  obtain ⟨hauthentic, htype⟩ := authenticate_eq_ok hmso
  obtain ⟨⟨hfrom, hfromLeap⟩, ⟨huntil, huntilLeap⟩, hwindow⟩ := validity_eq_ok hvalid
  refine ⟨chain, mso, ?_⟩
  exact {
    authentic := ⟨x5chain_eq_ok hchain, hauthentic, htype⟩
    docType := rfl
    namespaces := hdisclosed
    signatureVerified := rfl
    trusted := trust_fst
    validFrom := hfrom
    validUntil := huntil
    window := hwindow
    window_instants := by
      intro hleap
      rw [hwindow, DateTime.le_iff hfromLeap hleap, DateTime.le_iff hleap huntilLeap, hfrom,
        huntil, hclock]
    deviceAuthenticated := rfl }

/-! ## The loop -/

/-- The loop adds one verdict for each document, in order. -/
lemma verifyEach_eq_ok {verify : Document → Async MdlError MdlDocument}
    {documents : List Document} {verified result : List MdlDocument}
    (h : (verifyEach verify documents verified).output = .ok result) :
    ∃ found, result = verified ++ found ∧
      List.Forall₂ (fun document v => (verify document).output = .ok v) documents found := by
  induction documents generalizing verified with
  | nil =>
    cases h
    exact ⟨[], (List.append_nil _).symm, List.Forall₂.nil⟩
  | cons document documents ih =>
    rw [verifyEach, Async.output_bind] at h
    obtain ⟨first, hfirst, h⟩ := Outcome.bind_eq_ok.mp h
    obtain ⟨found, rfl, hfound⟩ := ih h
    exact ⟨first :: found, List.append_assoc _ _ _, List.Forall₂.cons hfirst hfound⟩

lemma verifyDocumentsWith_eq_ok {now : DateTime} {response : DeviceResponse}
    {anchors : List IacaAnchor} {options : VerifyOptions}
    {fetcher : RevocationFetcher Request Report} {v : MdlVerification}
    (h : (verifyDocumentsWith iso now response anchors options fetcher).output = .ok v) :
    ∃ documents atOdt, response.documents = some documents
      ∧ toOffsetDateTime (options.at_.getD now) = .ok atOdt ∧ v.version = response.version
      ∧ List.Forall₂ (fun document verified => (verifyDocument iso anchors options.rules
          (options.at_.getD now) atOdt fetcher document).output = .ok verified)
        documents v.documents := by
  unfold verifyDocumentsWith at h
  simp only [Async.output_bind, Async.output_ofOutcome, Async.output_pure] at h
  obtain ⟨documents, hdocuments, h⟩ := Outcome.bind_eq_ok.mp h
  obtain ⟨atOdt, hat, h⟩ := Outcome.bind_eq_ok.mp h
  obtain ⟨verified, hverified, h⟩ := Outcome.bind_eq_ok.mp h
  cases h
  obtain ⟨found, hfound, hall⟩ := verifyEach_eq_ok hverified
  rw [List.nil_append] at hfound
  subst hfound
  exact ⟨documents, atOdt, Outcome.ofOption_eq_ok.mp hdocuments, hat, rfl, hall⟩

/-! ## No panic -/

lemma elements_ne_panic (items : List (Tag24 IssuerSignedItem)) (out : BTreeMap Str MdlValue) :
    elements items out ≠ .panic := by
  induction items generalizing out with
  | nil => exact nofun
  | cons item items ih => exact Outcome.bind_ne_panic (ofResult_ne_panic _ _) fun _ _ => ih _

lemma namespacesLoop_ne_panic (rest : List (Str × List (Tag24 IssuerSignedItem)))
    (out : BTreeMap Str (BTreeMap Str MdlValue)) : namespacesLoop rest out ≠ .panic := by
  induction rest generalizing out with
  | nil => exact nofun
  | cons entry rest ih => exact Outcome.bind_ne_panic (elements_ne_panic _ _) fun _ _ => ih _

lemma namespaces_ne_panic (document : Document) : namespaces document ≠ .panic := by
  unfold namespaces
  split
  · exact nofun
  · exact namespacesLoop_ne_panic _ _

lemma x5chain_ne_panic (document : Document) : x5chain iso document ≠ .panic := by
  unfold x5chain
  split
  · exact nofun
  · exact ofResult_ne_panic _ _

lemma authenticate_ne_panic (document : Document) (chain : X5Chain) :
    authenticate iso document chain ≠ .panic := by
  unfold authenticate
  split
  · exact nofun
  · refine Outcome.bind_ne_panic (ofResult_ne_panic _ _) fun mso _ => ?_
    split
    · exact nofun
    · exact nofun

lemma convertOptional_ne_panic (t : Option OffsetDateTime) : convertOptional iso t ≠ .panic := by
  cases t with
  | none => exact nofun
  | some t =>
    exact Outcome.bind_ne_panic (Outcome.ofOption_ne_panic _ _) fun _ _ => nofun

lemma validity_ne_panic (info : ValidityInfo) (t : DateTime) : validity iso info t ≠ .panic :=
  Outcome.bind_ne_panic (Outcome.ofOption_ne_panic _ _) fun _ _ =>
    Outcome.bind_ne_panic (Outcome.ofOption_ne_panic _ _) fun _ _ =>
      Outcome.bind_ne_panic (Outcome.ofOption_ne_panic _ _) fun _ _ =>
        Outcome.bind_ne_panic (convertOptional_ne_panic _) fun _ _ => nofun

lemma verifyDocument_ne_panic (anchors : List IacaAnchor) (rules : TrustRules) (t : DateTime)
    (atOdt : OffsetDateTime) (fetcher : RevocationFetcher Request Report) (document : Document) :
    (verifyDocument iso anchors rules t atOdt fetcher document).output ≠ .panic := by
  unfold verifyDocument
  simp only [Async.output_bind, Async.output_ofOutcome, Async.output_await, Async.output_pure,
    Outcome.ok_bind]
  refine Outcome.bind_ne_panic (x5chain_ne_panic _) fun chain _ => ?_
  refine Outcome.bind_ne_panic (authenticate_ne_panic _ _) fun mso _ => ?_
  refine Outcome.bind_ne_panic (validity_ne_panic _ _) fun valid _ => ?_
  exact Outcome.bind_ne_panic (namespaces_ne_panic _) fun _ _ => nofun

lemma verifyEach_ne_panic {verify : Document → Async MdlError MdlDocument}
    (h : ∀ document, (verify document).output ≠ .panic) (documents : List Document)
    (verified : List MdlDocument) : (verifyEach verify documents verified).output ≠ .panic := by
  induction documents generalizing verified with
  | nil => exact nofun
  | cons document documents ih =>
    rw [verifyEach, Async.output_bind]
    exact Outcome.bind_ne_panic (h document) fun _ _ => ih _

lemma verifyDocumentsWith_ne_panic (now : DateTime) (response : DeviceResponse)
    (anchors : List IacaAnchor) (options : VerifyOptions)
    (fetcher : RevocationFetcher Request Report) :
    (verifyDocumentsWith iso now response anchors options fetcher).output ≠ .panic := by
  unfold verifyDocumentsWith
  simp only [Async.output_bind, Async.output_ofOutcome, Async.output_pure]
  refine Outcome.bind_ne_panic (Outcome.ofOption_ne_panic _ _) fun documents _ => ?_
  refine Outcome.bind_ne_panic (ofResult_ne_panic _ _) fun atOdt _ => ?_
  exact Outcome.bind_ne_panic
    (verifyEach_ne_panic (verifyDocument_ne_panic anchors options.rules _ atOdt fetcher) _ _)
    fun _ _ => nofun

/-! ## The whole response -/

/-- A response is accepted with verdicts that attest its documents. -/
lemma sound {now : DateTime} {response : DeviceResponse} {anchors : List IacaAnchor}
    {options : VerifyOptions} {fetcher : RevocationFetcher Request Report} {v : MdlVerification}
    (h : (verifyDocumentsWith iso now response anchors options fetcher).output = .ok v) :
    ∃ documents atOdt, response.documents = some documents
      ∧ atOdt.unixNanos = (options.at_.getD now).unixNanos
      ∧ List.Forall₂ (fun document verified => ∃ chain mso, Attests iso anchors options.rules
          fetcher (options.at_.getD now) atOdt document verified chain mso)
        documents v.documents := by
  obtain ⟨documents, atOdt, hdocuments, hat, -, hall⟩ := verifyDocumentsWith_eq_ok h
  have hclock := toOffsetDateTime_eq_ok hat
  exact ⟨documents, atOdt, hdocuments, hclock,
    hall.imp fun _ _ hverified => verifyDocument_attests hclock hverified⟩

/-- Of an accepted response `all_authentic` says that there are documents, and of each that its issuer
is trusted and the time in its window: the signatures have been verified by then. -/
lemma allAuthentic_iff {now : DateTime} {response : DeviceResponse} {anchors : List IacaAnchor}
    {options : VerifyOptions} {fetcher : RevocationFetcher Request Report} {v : MdlVerification}
    (h : (verifyDocumentsWith iso now response anchors options fetcher).output = .ok v) :
    v.allAuthentic = true ↔ v.documents ≠ [] ∧ ∀ verified ∈ v.documents,
      verified.issuerTrusted = true ∧ verified.validity.inWindow = true := by
  obtain ⟨documents, atOdt, -, -, hall⟩ := sound h
  have hsigned : ∀ verified ∈ v.documents, verified.signatureVerified = true := by
    intro verified hmem
    obtain ⟨document, -, chain, mso, hattests⟩ := hall.exists_of_mem_right hmem
    exact hattests.signatureVerified
  unfold MdlVerification.allAuthentic
  rw [Bool.and_eq_true, Bool.not_eq_true', List.isEmpty_eq_false_iff, List.all_eq_true]
  refine and_congr_right fun _ => forall₂_congr fun verified hmem => ?_
  rw [MdlDocument.isAuthentic, hsigned verified hmem, Bool.true_and, Bool.and_eq_true]

/-- Without anchors nothing is authentic. -/
lemma allAuthentic_of_no_anchors {now : DateTime} {response : DeviceResponse}
    {options : VerifyOptions} {fetcher : RevocationFetcher Request Report} {v : MdlVerification}
    (h : (verifyDocumentsWith iso now response [] options fetcher).output = .ok v) :
    v.allAuthentic = false := by
  obtain ⟨documents, atOdt, -, -, hall⟩ := sound h
  by_contra hauthentic
  obtain ⟨hne, htrusted⟩ := (allAuthentic_iff h).mp (Bool.eq_true_of_not_eq_false hauthentic)
  obtain ⟨verified, hmem⟩ := List.exists_mem_of_ne_nil _ hne
  obtain ⟨document, -, chain, mso, hattests⟩ := hall.exists_of_mem_right hmem
  exact (hattests.trusted.mp (htrusted verified hmem).1).1 rfl

end MdlVerify
