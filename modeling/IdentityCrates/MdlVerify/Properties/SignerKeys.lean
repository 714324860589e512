import IdentityCrates.MdlVerify.Properties.Disclosure
import IdentityCrates.MdlVerify.Properties.Presentation
import IdentityCrates.MdlVerify.Properties.ValueConversion

/-!
# The keys reported are the keys that are verified

`preflight` tells a caller whether the signatures on a response can be checked, from a table of its
own; the verification asks `isomdl` for the curve.  The table is asked for the curve in the
parameters of an elliptic-curve key and for the algorithm of any other key, where `isomdl` finds a
curve in parameters only.

For certificates in which no other algorithm passes for a curve (`Regular`) the two say the same
(`verifiable_iff_supportedCurve`), and so the answer given from a sample response is kept: what is
accepted was reported as verifiable, and what is refused for its algorithm was reported as not.

One thing is asked before any key, that the time of the verification is one `isomdl` can be given
(`DateTime.InRange`); with another every response is refused as unreadable.
-/

namespace MdlVerify

open Cbor (Value)
open Octets Rust Text

variable {Request Report : Type} (iso : Isomdl Request Report)

/-! ## Curves -/

/-- `isomdl` implements P-256 and P-384, which the parameters of an elliptic-curve key name. -/
structure NamedCurves : Prop where
  curve : ∀ certificate, iso.algorithmOid certificate = idEcPublicKey →
    (iso.supportedCurve certificate = true ↔
      iso.parametersOid certificate = some "1.2.840.10045.3.1.7" ∨
        iso.parametersOid certificate = some "1.3.132.0.34")
  without : ∀ certificate, iso.parametersOid certificate = none →
    iso.supportedCurve certificate = false

/-- Only an elliptic-curve key has a curve: another has none among its parameters, and none for its
algorithm. -/
def Regular (certificate : Certificate) : Prop :=
  iso.algorithmOid certificate ≠ idEcPublicKey →
    iso.parametersOid certificate = none ∧
      iso.algorithmOid certificate ≠ "1.2.840.10045.3.1.7" ∧
      iso.algorithmOid certificate ≠ "1.3.132.0.34"

/-- The signers of the documents of a response have regular certificates. -/
def RegularSigners (deviceResponse : Bytes) : Prop :=
  ∀ response documents, decodeResponse iso deviceResponse = .ok response →
    response.documents = some documents → ∀ document ∈ documents, ∀ chain,
      x5chain iso document = .ok chain → Regular iso chain.endEntityCertificate

/-- The key is that of a document of the response. -/
def HasSigner (deviceResponse : Bytes) (key : SignerKey) : Prop :=
  ∃ response documents, decodeResponse iso deviceResponse = .ok response ∧
    response.documents = some documents ∧
    ∃ document ∈ documents, documentSignerKey iso document = .ok key

/-- The instant is one that `OffsetDateTime` can name: in the years from -9999 to 9999. -/
def DateTime.InRange (t : DateTime) : Prop :=
  OffsetDateTime.minTimestamp ≤ t.unixNanos / 1000000000 ∧
    t.unixNanos / 1000000000 ≤ OffsetDateTime.maxTimestamp

instance (t : DateTime) : Decidable t.InRange := inferInstanceAs (Decidable (_ ∧ _))

/-- What the keys reported for a response say about its verification. -/
structure Foretells (now : DateTime) (deviceResponse : Bytes) (anchors : List IacaAnchor)
    (options : VerifyOptions) : Prop where
  /-- What is reported is the keys of the documents. -/
  reported : ∀ {keys}, responseSignerKeys iso deviceResponse = .ok keys →
    ∀ key, key ∈ keys ↔ HasSigner iso deviceResponse key
  /-- An accepted response has a key for each document, and all of them can be verified. -/
  accepted : ∀ {v}, verifyIssuerAuthWith iso now deviceResponse anchors options = .ok v →
    ∃ keys, responseSignerKeys iso deviceResponse = .ok keys ∧
      keys.length = v.documents.length ∧ ∀ key ∈ keys, key.verifiable = true
  /-- An algorithm that is refused is that of a key which cannot be verified. -/
  refused : ∀ {text}, verifyIssuerAuthWith iso now deviceResponse anchors options =
      .err (.unsupportedAlgorithm text) →
    ∃ key, HasSigner iso deviceResponse key ∧ key.algorithm = text ∧ key.verifiable = false
  /-- With a key that cannot be verified the response is refused. -/
  declined : ∀ {key}, HasSigner iso deviceResponse key → key.verifiable = false →
    ∃ e, verifyIssuerAuthWith iso now deviceResponse anchors options = .err e
  /-- Where it is the key of the first document, the error names its algorithm. -/
  first : ∀ {response document rest key}, decodeResponse iso deviceResponse = .ok response →
    response.documents = some (document :: rest) → documentSignerKey iso document = .ok key →
    key.verifiable = false → (options.at_.getD now).InRange →
    verifyIssuerAuthWith iso now deviceResponse anchors options =
      .err (.unsupportedAlgorithm key.algorithm)
  /-- The time is asked for before any key. -/
  outOfRange : ∀ {response documents}, decodeResponse iso deviceResponse = .ok response →
    response.documents = some documents → ¬ (options.at_.getD now).InRange →
    ∃ text, verifyIssuerAuthWith iso now deviceResponse anchors options = .err (.unreadable text)

/-- What `NAMED` says of an object identifier. -/
def namedKey (oid : String) : SignerKey :=
  match named.find? fun entry => entry.1 = oid with
  | some (_, name, verifiable) => ⟨name, verifiable⟩
  | none => ⟨oid, false⟩

/-- Of the algorithms in the table two are implemented. -/
lemma namedKey_verifiable (oid : String) : (namedKey oid).verifiable = true ↔
    oid = "1.2.840.10045.3.1.7" ∨ oid = "1.3.132.0.34" := by
  constructor
  · unfold namedKey
    split
    · next found name verifiable hfind =>
      rintro rfl
      have hmem := List.mem_of_find?_eq_some hfind
      have hoid : found = oid := by simpa using List.find?_some hfind
      subst hoid
      have hentry : found = "1.2.840.10045.3.1.7" ∧ name = "P-256" ∨
          found = "1.3.132.0.34" ∧ name = "P-384" := by simpa [named] using hmem
      exact hentry.imp And.left And.left
    · exact nofun
  · rintro (rfl | rfl)
    · rfl
    · rfl

variable {iso}

/-- **The table and `isomdl` agree** on the keys that can be verified. -/
lemma verifiable_iff_supportedCurve (hcurves : NamedCurves iso) {certificate : Certificate}
    (h : Regular iso certificate) :
    (SignerKey.of iso certificate).verifiable = true ↔ iso.supportedCurve certificate = true := by
  show (namedKey (if iso.algorithmOid certificate = idEcPublicKey then
    (iso.parametersOid certificate).getD (iso.algorithmOid certificate)
    else iso.algorithmOid certificate)).verifiable = true ↔ _
  rw [namedKey_verifiable]
  split
  · next hec =>
    rw [hcurves.curve _ hec]
    cases hparameters : iso.parametersOid certificate with
    | some curve => simp
    | none =>
      rw [hec]
      decide
  · next hother =>
    obtain ⟨hnone, h256, h384⟩ := h hother
    rw [hcurves.without _ hnone]
    simp [h256, h384]

/-! ## Documents -/

lemma documentSignerKey_eq_ok {document : Document} {key : SignerKey} :
    documentSignerKey iso document = .ok key ↔ ∃ chain, x5chain iso document = .ok chain ∧
      key = SignerKey.of iso chain.endEntityCertificate := by
  unfold documentSignerKey
  rw [Outcome.bind_eq_ok]
  constructor
  · rintro ⟨chain, hchain, h⟩
    exact ⟨chain, hchain, (Outcome.ok.inj h).symm⟩
  · rintro ⟨chain, hchain, rfl⟩
    exact ⟨chain, hchain, rfl⟩

/-- A collection into a vector has one entry for each of the list. -/
lemma mapM_eq_ok {ε α β : Type} {f : α → Outcome ε β} {as : List α} {bs : List β} :
    as.mapM f = .ok bs ↔ List.Forall₂ (fun a b => f a = .ok b) as bs := by
  induction as generalizing bs with
  | nil =>
    rw [List.mapM_nil, List.forall₂_nil_left_iff]
    exact ⟨fun h => (Outcome.ok.inj h).symm, fun h => congrArg Outcome.ok h.symm⟩
  | cons a as ih =>
    rw [List.mapM_cons, Outcome.bind_eq_ok, List.forall₂_cons_left_iff]
    constructor
    · rintro ⟨b, hb, h⟩
      obtain ⟨rest, hrest, h⟩ := Outcome.bind_eq_ok.mp h
      exact ⟨b, rest, hb, ih.mp hrest, (Outcome.ok.inj h).symm⟩
    · rintro ⟨b, rest, hb, hrest, rfl⟩
      exact ⟨b, hb, Outcome.bind_eq_ok.mpr ⟨rest, ih.mpr hrest, rfl⟩⟩

lemma responseSignerKeys_eq_ok {deviceResponse : Bytes} {keys : List SignerKey} :
    responseSignerKeys iso deviceResponse = .ok keys ↔
      ∃ response documents, decodeResponse iso deviceResponse = .ok response ∧
        response.documents = some documents ∧
        List.Forall₂ (fun document key => documentSignerKey iso document = .ok key)
          documents keys := by
  unfold responseSignerKeys
  simp only [Outcome.bind_eq_ok, Outcome.ofOption_eq_ok, mapM_eq_ok]
  constructor
  · rintro ⟨response, hresponse, documents, hdocuments, hkeys⟩
    exact ⟨response, documents, hresponse, hdocuments, hkeys⟩
  · rintro ⟨response, documents, hresponse, hdocuments, hkeys⟩
    exact ⟨response, hresponse, documents, hdocuments, hkeys⟩

lemma verifyIssuerAuthWith_of_decode {now : DateTime} {deviceResponse : Bytes}
    {anchors : List IacaAnchor} {options : VerifyOptions} {response : DeviceResponse}
    (h : decodeResponse iso deviceResponse = .ok response) :
    verifyIssuerAuthWith iso now deviceResponse anchors options =
      (verifyDocumentsWith iso now response anchors options iso.noFetcher).output := by
  unfold verifyIssuerAuthWith
  rw [h, Outcome.ok_bind, verifyDocuments_eq]

/-! ## The time of the verification -/

lemma toOffsetDateTime_of_inRange {t : DateTime} (h : t.InRange) :
    ∃ atOdt, toOffsetDateTime t = .ok atOdt := by
  unfold DateTime.InRange DateTime.unixNanos at h
  unfold toOffsetDateTime OffsetDateTime.fromUnixTimestampNanos
  dsimp only
  rw [if_pos h]
  exact ⟨_, rfl⟩

lemma toOffsetDateTime_of_not_inRange {t : DateTime} (h : ¬ t.InRange) :
    ∃ text, toOffsetDateTime t = .err (.unreadable text) := by
  unfold DateTime.InRange DateTime.unixNanos at h
  unfold toOffsetDateTime OffsetDateTime.fromUnixTimestampNanos
  dsimp only
  rw [if_neg h]
  exact ⟨_, rfl⟩

/-! ## Which step refuses an algorithm -/

/-- The step does not answer that an algorithm is not supported. -/
def SaysNothing {α : Type} (x : Outcome MdlError α) : Prop :=
  ∀ text, x ≠ .err (.unsupportedAlgorithm text)

lemma SaysNothing.bind {α β : Type} {x : Outcome MdlError α} {f : α → Outcome MdlError β}
    (hx : SaysNothing x) (hf : ∀ a, SaysNothing (f a)) : SaysNothing (x >>= f) := by
  intro text h
  rcases Outcome.bind_eq_err.mp h with h | ⟨a, -, h⟩
  · exact hx text h
  · exact hf a text h

lemma saysNothing_ok {α : Type} (a : α) : SaysNothing (.ok a) := fun _ => nofun

lemma saysNothing_ofResult {ε α : Type} {error : ε → MdlError} {x : Except ε α}
    (h : ∀ e text, x = .error e → error e ≠ .unsupportedAlgorithm text) :
    SaysNothing (ofResult error x) := by
  intro text hx
  cases x with
  | ok a => cases hx
  | error e => exact h e text rfl (Outcome.err.inj hx)

lemma saysNothing_ofOption {α : Type} {e : MdlError}
    (h : ∀ text, e ≠ .unsupportedAlgorithm text) (x : Option α) :
    SaysNothing (Outcome.ofOption e x) := by
  intro text hx
  cases x with
  | some a => cases hx
  | none => exact h text (Outcome.err.inj hx)

lemma saysNothing_decodeResponse (deviceResponse : Bytes) :
    SaysNothing (decodeResponse iso deviceResponse) := by
  apply saysNothing_ofResult
  intro e text _
  exact nofun

lemma saysNothing_toOffsetDateTime (t : DateTime) : SaysNothing (toOffsetDateTime t) := by
  apply saysNothing_ofResult
  intro e text _
  exact nofun

lemma saysNothing_x5chain (document : Document) : SaysNothing (x5chain iso document) := by
  unfold x5chain
  split
  · exact fun _ => nofun
  · apply saysNothing_ofResult
    intro e text _
    exact nofun

lemma saysNothing_convert (t : OffsetDateTime) : SaysNothing (convert iso t) := by
  apply saysNothing_ofOption
  intro text
  exact nofun

lemma saysNothing_validity (info : ValidityInfo) (t : DateTime) :
    SaysNothing (validity iso info t) := by
  refine (saysNothing_convert _).bind fun _ => (saysNothing_convert _).bind fun _ =>
    (saysNothing_convert _).bind fun _ => SaysNothing.bind ?_ fun _ => saysNothing_ok _
  cases info.expectedUpdate with
  | none => exact saysNothing_ok _
  | some u => exact (saysNothing_convert u).bind fun _ => saysNothing_ok _

lemma saysNothing_elements (items : List (Tag24 IssuerSignedItem)) (out : BTreeMap Str MdlValue) :
    SaysNothing (elements items out) := by
  induction items generalizing out with
  | nil => exact saysNothing_ok _
  | cons item items ih =>
    refine SaysNothing.bind (saysNothing_ofResult ?_) fun value => ih _
    intro e text he
    obtain ⟨kind, -, rfl⟩ := MdlValue.within_of_tryFrom_error _ he
    exact nofun

lemma saysNothing_namespacesLoop (rest : List (Str × List (Tag24 IssuerSignedItem)))
    (out : BTreeMap Str (BTreeMap Str MdlValue)) : SaysNothing (namespacesLoop rest out) := by
  induction rest generalizing out with
  | nil => exact saysNothing_ok _
  | cons entry rest ih => exact (saysNothing_elements _ _).bind fun _ => ih _

lemma saysNothing_namespaces (document : Document) : SaysNothing (namespaces document) := by
  unfold namespaces
  split
  · exact saysNothing_ok _
  · exact saysNothing_namespacesLoop _ _

/-- The check of the curve comes before the others. -/
lemma authenticate_eq_unsupported {document : Document} {chain : X5Chain} {text : String}
    (h : authenticate iso document chain = .err (.unsupportedAlgorithm text)) :
    iso.supportedCurve chain.endEntityCertificate = false ∧
      (SignerKey.of iso chain.endEntityCertificate).algorithm = text := by
  unfold authenticate at h
  split at h
  · next hcurve =>
    refine ⟨Bool.eq_false_of_not_eq_true' hcurve, ?_⟩
    exact MdlError.unsupportedAlgorithm.inj (Outcome.err.inj h)
  · refine absurd h (SaysNothing.bind (saysNothing_ofResult ?_) (fun mso => ?_) text)
    · intro e text _
      exact nofun
    · split
      · exact fun _ => nofun
      · exact saysNothing_ok _

lemma authenticate_of_unsupported {document : Document} {chain : X5Chain}
    (h : iso.supportedCurve chain.endEntityCertificate = false) :
    authenticate iso document chain =
      .err (.unsupportedAlgorithm (SignerKey.of iso chain.endEntityCertificate).algorithm) := by
  unfold authenticate
  rw [h]
  rfl

lemma supportedCurve_of_authenticate {document : Document} {chain : X5Chain} {mso : Mso}
    (h : authenticate iso document chain = .ok mso) :
    iso.supportedCurve chain.endEntityCertificate = true := by
  cases hcurve : iso.supportedCurve chain.endEntityCertificate with
  | true => rfl
  | false =>
    rw [authenticate_of_unsupported hcurve] at h
    cases h

section Document

variable {anchors : List IacaAnchor} {rules : TrustRules} {t : DateTime} {atOdt : OffsetDateTime}
  {fetcher : RevocationFetcher Request Report} {document : Document}

/-- The chain and what was signed come first, whatever follows. -/
lemma verifyDocument_output :
    (verifyDocument iso anchors rules t atOdt fetcher document).output =
      (do
        let chain ← x5chain iso document
        let mso ← authenticate iso document chain
        let valid ← validity iso mso.validityInfo t
        let trusted := (trust iso anchors rules chain atOdt fetcher).output
        let disclosed ← namespaces document
        return {
          docType := document.docType, namespaces := disclosed, signatureVerified := true,
          issuerTrusted := trusted.1, trustErrors := trusted.2.1, revocationErrors := trusted.2.2,
          validity := valid, deviceAuthenticated := false }) := by
  unfold verifyDocument
  simp only [Async.output_bind, Async.output_ofOutcome, Async.output_await, Async.output_pure,
    Outcome.ok_bind]
  rfl

lemma verifyDocument_supported {verified : MdlDocument}
    (h : (verifyDocument iso anchors rules t atOdt fetcher document).output = .ok verified) :
    ∃ chain, x5chain iso document = .ok chain ∧
      iso.supportedCurve chain.endEntityCertificate = true := by
  rw [verifyDocument_output] at h
  obtain ⟨chain, hchain, h⟩ := Outcome.bind_eq_ok.mp h
  obtain ⟨mso, hmso, -⟩ := Outcome.bind_eq_ok.mp h
  exact ⟨chain, hchain, supportedCurve_of_authenticate hmso⟩

lemma verifyDocument_unsupported {text : String}
    (h : (verifyDocument iso anchors rules t atOdt fetcher document).output =
      .err (.unsupportedAlgorithm text)) :
    ∃ chain, x5chain iso document = .ok chain ∧
      iso.supportedCurve chain.endEntityCertificate = false ∧
      (SignerKey.of iso chain.endEntityCertificate).algorithm = text := by
  rw [verifyDocument_output] at h
  rcases Outcome.bind_eq_err.mp h with h | ⟨chain, hchain, h⟩
  · exact absurd h (saysNothing_x5chain document text)
  rcases Outcome.bind_eq_err.mp h with h | ⟨mso, -, h⟩
  · exact ⟨chain, hchain, authenticate_eq_unsupported h⟩
  · refine absurd h (SaysNothing.bind (saysNothing_validity _ _) (fun _ => ?_) text)
    exact (saysNothing_namespaces document).bind fun _ => saysNothing_ok _

lemma verifyDocument_of_unsupported {chain : X5Chain} (hchain : x5chain iso document = .ok chain)
    (h : iso.supportedCurve chain.endEntityCertificate = false) :
    (verifyDocument iso anchors rules t atOdt fetcher document).output =
      .err (.unsupportedAlgorithm (SignerKey.of iso chain.endEntityCertificate).algorithm) := by
  rw [verifyDocument_output, hchain, Outcome.ok_bind, authenticate_of_unsupported h,
    Outcome.err_bind]

end Document

/-- An error of the loop is one of a document. -/
lemma verifyEach_eq_err {verify : Document → Async MdlError MdlDocument}
    {documents : List Document} {verified : List MdlDocument} {e : MdlError}
    (h : (verifyEach verify documents verified).output = .err e) :
    ∃ document ∈ documents, (verify document).output = .err e := by
  induction documents generalizing verified with
  | nil => cases h
  | cons document documents ih =>
    rw [verifyEach, Async.output_bind] at h
    rcases Outcome.bind_eq_err.mp h with h | ⟨found, -, h⟩
    · exact ⟨document, List.mem_cons_self, h⟩
    · obtain ⟨other, hother, h⟩ := ih h
      exact ⟨other, List.mem_cons_of_mem _ hother, h⟩

/-! ## Responses -/

section Response

variable {now : DateTime} {deviceResponse : Bytes} {anchors : List IacaAnchor}
  {options : VerifyOptions}

/-- The key of a document is reported as verifiable where `isomdl` has its curve. -/
lemma verifiable_of_mem (hcurves : NamedCurves iso) (hregular : RegularSigners iso deviceResponse)
    {response : DeviceResponse} {documents : List Document} {document : Document} {chain : X5Chain}
    (hresponse : decodeResponse iso deviceResponse = .ok response)
    (hdocuments : response.documents = some documents) (hmem : document ∈ documents)
    (hchain : x5chain iso document = .ok chain) :
    (SignerKey.of iso chain.endEntityCertificate).verifiable =
      iso.supportedCurve chain.endEntityCertificate :=
  Bool.eq_iff_iff.mpr (verifiable_iff_supportedCurve hcurves
    (hregular response documents hresponse hdocuments document hmem chain hchain))

lemma keys_of_accepted (hcurves : NamedCurves iso) (hregular : RegularSigners iso deviceResponse)
    {v : MdlVerification}
    (h : verifyIssuerAuthWith iso now deviceResponse anchors options = .ok v) :
    ∃ keys, responseSignerKeys iso deviceResponse = .ok keys ∧
      keys.length = v.documents.length ∧ ∀ key ∈ keys, key.verifiable = true := by
  obtain ⟨response, hresponse, -⟩ := Outcome.bind_eq_ok.mp h
  rw [verifyIssuerAuthWith_of_decode hresponse] at h
  obtain ⟨documents, atOdt, hdocuments, -, -, hall⟩ := verifyDocumentsWith_eq_ok h
  have hkeys : ∀ document ∈ documents, ∃ key, documentSignerKey iso document = .ok key ∧
      key.verifiable = true := by
    intro document hmem
    obtain ⟨verified, -, hverified⟩ := hall.exists_of_mem_left hmem
    obtain ⟨chain, hchain, hcurve⟩ := verifyDocument_supported hverified
    refine ⟨_, documentSignerKey_eq_ok.mpr ⟨chain, hchain, rfl⟩, ?_⟩
    rw [verifiable_of_mem hcurves hregular hresponse hdocuments hmem hchain, hcurve]
  have : Nonempty SignerKey := ⟨⟨"", false⟩⟩
  choose! key hkey hverifiable using hkeys
  refine ⟨documents.map key, ?_, ?_, ?_⟩
  · refine responseSignerKeys_eq_ok.mpr ⟨response, documents, hresponse, hdocuments, ?_⟩
    rw [List.forall₂_map_right_iff, List.forall₂_same]
    exact hkey
  · rw [List.length_map, hall.length_eq]
  · intro found hfound
    obtain ⟨document, hmem, rfl⟩ := List.mem_map.mp hfound
    exact hverifiable document hmem

/-- The keys reported are the keys of the documents. -/
lemma hasSigner_iff_of_reported {keys : List SignerKey}
    (hkeys : responseSignerKeys iso deviceResponse = .ok keys) (key : SignerKey) :
    key ∈ keys ↔ HasSigner iso deviceResponse key := by
  obtain ⟨response, documents, hresponse, hdocuments, hall⟩ := responseSignerKeys_eq_ok.mp hkeys
  constructor
  · intro hmem
    obtain ⟨document, hdocument, hkey⟩ := hall.exists_of_mem_right hmem
    exact ⟨response, documents, hresponse, hdocuments, document, hdocument, hkey⟩
  · rintro ⟨response', documents', hresponse', hdocuments', document, hmem, hkey⟩
    obtain rfl := Outcome.ok.inj (hresponse.symm.trans hresponse')
    obtain rfl := Option.some.inj (hdocuments.symm.trans hdocuments')
    obtain ⟨found, hfound, hdocument⟩ := hall.exists_of_mem_left hmem
    obtain rfl := Outcome.ok.inj (hkey.symm.trans hdocument)
    exact hfound

/-- What a decoded response with documents is answered: the time first, then the documents. -/
lemma verifyIssuerAuthWith_of_documents {response : DeviceResponse} {documents : List Document}
    (hresponse : decodeResponse iso deviceResponse = .ok response)
    (hdocuments : response.documents = some documents) :
    verifyIssuerAuthWith iso now deviceResponse anchors options =
      (do
        let atOdt ← toOffsetDateTime (options.at_.getD now)
        let verified ← (verifyEach (verifyDocument iso anchors options.rules (options.at_.getD now)
          atOdt iso.noFetcher) documents []).output
        return ⟨response.version, verified⟩) := by
  rw [verifyIssuerAuthWith_of_decode hresponse]
  unfold verifyDocumentsWith
  simp only [Async.output_bind, Async.output_ofOutcome, Async.output_pure, hdocuments,
    Outcome.ofOption_some, Outcome.ok_bind]
  rfl

lemma key_of_refused (hcurves : NamedCurves iso) (hregular : RegularSigners iso deviceResponse)
    {text : String} (h : verifyIssuerAuthWith iso now deviceResponse anchors options =
      .err (.unsupportedAlgorithm text)) :
    ∃ key, HasSigner iso deviceResponse key ∧ key.algorithm = text ∧ key.verifiable = false := by
  rcases Outcome.bind_eq_err.mp h with hdecode | ⟨response, hresponse, -⟩
  · exact absurd hdecode (saysNothing_decodeResponse deviceResponse text)
  cases hdocuments : response.documents with
  | none =>
    rw [verifyIssuerAuthWith_of_decode hresponse] at h
    unfold verifyDocumentsWith at h
    rw [hdocuments] at h
    cases h
  | some documents =>
    rw [verifyIssuerAuthWith_of_documents hresponse hdocuments] at h
    rcases Outcome.bind_eq_err.mp h with h | ⟨atOdt, -, h⟩
    · exact absurd h (saysNothing_toOffsetDateTime _ text)
    rcases Outcome.bind_eq_err.mp h with h | ⟨verified, -, h⟩
    · obtain ⟨document, hmem, h⟩ := verifyEach_eq_err h
      obtain ⟨chain, hchain, hcurve, halgorithm⟩ := verifyDocument_unsupported h
      refine ⟨_, ⟨response, documents, hresponse, hdocuments, document, hmem,
        documentSignerKey_eq_ok.mpr ⟨chain, hchain, rfl⟩⟩, halgorithm, ?_⟩
      rw [verifiable_of_mem hcurves hregular hresponse hdocuments hmem hchain, hcurve]
    · cases h

lemma refused_of_key (hcurves : NamedCurves iso) (hregular : RegularSigners iso deviceResponse)
    {key : SignerKey} (hsigner : HasSigner iso deviceResponse key)
    (hkey : key.verifiable = false) :
    ∃ e, verifyIssuerAuthWith iso now deviceResponse anchors options = .err e := by
  cases hverify : verifyIssuerAuthWith iso now deviceResponse anchors options with
  | err e => exact ⟨e, rfl⟩
  | panic =>
    obtain ⟨response, -, hresponse, -⟩ := hsigner
    rw [verifyIssuerAuthWith_of_decode hresponse] at hverify
    exact absurd hverify (verifyDocumentsWith_ne_panic now response anchors options iso.noFetcher)
  | ok v =>
    obtain ⟨keys, hkeys, -, hall⟩ := keys_of_accepted hcurves hregular hverify
    rw [hall key ((hasSigner_iff_of_reported hkeys key).mpr hsigner)] at hkey
    cases hkey

lemma refused_of_first (hcurves : NamedCurves iso) (hregular : RegularSigners iso deviceResponse)
    {response : DeviceResponse} {document : Document} {rest : List Document} {key : SignerKey}
    (hresponse : decodeResponse iso deviceResponse = .ok response)
    (hdocuments : response.documents = some (document :: rest))
    (hdocument : documentSignerKey iso document = .ok key) (hkey : key.verifiable = false)
    (hat : (options.at_.getD now).InRange) :
    verifyIssuerAuthWith iso now deviceResponse anchors options =
      .err (.unsupportedAlgorithm key.algorithm) := by
  obtain ⟨chain, hchain, rfl⟩ := documentSignerKey_eq_ok.mp hdocument
  obtain ⟨atOdt, hat⟩ := toOffsetDateTime_of_inRange hat
  rw [verifiable_of_mem hcurves hregular hresponse hdocuments List.mem_cons_self hchain] at hkey
  rw [verifyIssuerAuthWith_of_documents hresponse hdocuments, hat, Outcome.ok_bind, verifyEach,
    Async.output_bind, verifyDocument_of_unsupported hchain hkey, Outcome.err_bind,
    Outcome.err_bind]

lemma refused_of_not_inRange {response : DeviceResponse} {documents : List Document}
    (hresponse : decodeResponse iso deviceResponse = .ok response)
    (hdocuments : response.documents = some documents)
    (hat : ¬ (options.at_.getD now).InRange) :
    ∃ text, verifyIssuerAuthWith iso now deviceResponse anchors options =
      .err (.unreadable text) := by
  obtain ⟨text, htext⟩ := toOffsetDateTime_of_not_inRange hat
  refine ⟨text, ?_⟩
  rw [verifyIssuerAuthWith_of_documents hresponse hdocuments, htext, Outcome.err_bind]

end Response

/-- **The keys reported for a response foretell its verification**, with whatever anchors and
options. -/
theorem preflight_foretells (hcurves : NamedCurves iso) {deviceResponse : Bytes}
    (hregular : RegularSigners iso deviceResponse) (now : DateTime) (anchors : List IacaAnchor)
    (options : VerifyOptions) : Foretells iso now deviceResponse anchors options where
  reported := hasSigner_iff_of_reported
  accepted := keys_of_accepted hcurves hregular
  refused := key_of_refused hcurves hregular
  declined := refused_of_key hcurves hregular
  first := refused_of_first hcurves hregular
  outOfRange := refused_of_not_inRange

/-! ## A response that is refused, and one that is accepted -/

/-- The certificate of an issuer that signs with Ed25519. -/
def edwardsCertificate : Certificate := ⟨[0x70]⟩

/-- The certificate of an issuer that signs on P-256. -/
def weierstrassCertificate : Certificate := ⟨[0x06]⟩

/-- A document as it is sent: that issuer's, with nothing disclosed. -/
def sentDocument (certificate : Certificate) : Value :=
  .map [(.text "docType".toList, .text mdlDocType),
    (.text "issuerSigned".toList, .map [(.text "issuerAuth".toList,
      .array [.bytes [], .map [(.integer x5chainHeaderLabel, .bytes certificate.der)], .null,
        .bytes []])]),
    (.text "deviceSigned".toList, .map [(.text "nameSpaces".toList, .tag 24 (.bytes [0xa0])),
      (.text "deviceAuth".toList, .map [(.text "deviceSignature".toList,
        .array [.bytes [], .map [], .null, .bytes []])])])]

/-- A response as it is sent, in deterministic CBOR. -/
def sentResponse (certificates : List Certificate) : Bytes :=
  (Cbor.encode (.map [(.text "version".toList, .text "1.0".toList),
    (.text "documents".toList, .array (certificates.map sentDocument)),
    (.text "status".toList, .integer 0)])).getD []

/-- The document that was sent. -/
def signedDocument (certificate : Certificate) : Document where
  docType := mdlDocType
  issuerSigned := {
    namespaces := none
    issuerAuth := ⟨[], [(.int x5chainHeaderLabel, .bytes certificate.der)], none, []⟩ }
  deviceSigned := ⟨[0xa0], .deviceSignature ⟨[], [], none, []⟩⟩

/-- The responses of the sample: one with two documents, one with the second of them. -/
def sentCertificates : List (List Certificate) :=
  [[edwardsCertificate, weierstrassCertificate], [weierstrassCertificate]]

/-- A verifier that decodes the responses of the sample, and has the curve P-256. -/
def sampleDecoder : Isomdl Unit Unit :=
  { sampleIsomdl with
    decodeResponse := fun bytes =>
      match sentCertificates.find? fun certificates => sentResponse certificates = bytes with
      | some certificates => .ok ⟨"1.0".toList, some (certificates.map signedDocument)⟩
      | none => .error "not a DeviceResponse"
    algorithmOid := fun certificate =>
      if certificate = edwardsCertificate then "1.3.101.112" else idEcPublicKey
    parametersOid := fun certificate =>
      if certificate = edwardsCertificate then none else some "1.2.840.10045.3.1.7"
    supportedCurve := fun certificate => certificate ≠ edwardsCertificate
    x5chainFromCbor := fun value =>
      match value with
      | .bytes der => .ok ⟨⟨der⟩, []⟩
      | _ => .error "not a certificate" }

lemma namedCurves_sampleDecoder : NamedCurves sampleDecoder where
  curve certificate hec := by
    by_cases h : certificate = edwardsCertificate
    · subst h
      exact absurd hec (by decide)
    · simp [sampleDecoder, h]
  without certificate hnone := by
    by_cases h : certificate = edwardsCertificate
    · simp [sampleDecoder, h]
    · simp [sampleDecoder, h] at hnone

lemma regular_sampleDecoder (certificate : Certificate) : Regular sampleDecoder certificate := by
  intro hother
  by_cases h : certificate = edwardsCertificate
  · subst h
    decide
  · simp [sampleDecoder, h] at hother

/-- Of two documents the first is signed with Ed25519, and the response is refused for it; without
it the response is accepted. -/
theorem preflight_foretells_sample :
    responseSignerKeys sampleDecoder (sentResponse [edwardsCertificate, weierstrassCertificate]) =
        .ok [⟨"Ed25519", false⟩, ⟨"P-256", true⟩] ∧
      verifyIssuerAuthWith sampleDecoder sampleNow
          (sentResponse [edwardsCertificate, weierstrassCertificate]) [] VerifyOptions.default =
        .err (.unsupportedAlgorithm "Ed25519") ∧
      ∃ v keys, verifyIssuerAuthWith sampleDecoder sampleNow
          (sentResponse [weierstrassCertificate]) [] VerifyOptions.default = .ok v ∧
        responseSignerKeys sampleDecoder (sentResponse [weierstrassCertificate]) = .ok keys ∧
        keys.length = v.documents.length ∧ ∀ key ∈ keys, key.verifiable = true := by
  have hforetells : ∀ deviceResponse, Foretells sampleDecoder sampleNow deviceResponse []
      VerifyOptions.default := fun deviceResponse =>
    preflight_foretells namedCurves_sampleDecoder
      (fun _ _ _ _ _ _ chain _ => regular_sampleDecoder chain.endEntityCertificate) _ _ _
  refine ⟨by decide +kernel, ?_, ?_⟩
  · have hresponse : decodeResponse sampleDecoder
        (sentResponse [edwardsCertificate, weierstrassCertificate]) =
          .ok ⟨"1.0".toList,
            some [signedDocument edwardsCertificate, signedDocument weierstrassCertificate]⟩ := by
      simp [decodeResponse, sampleDecoder, sentCertificates, ofResult]
    have hkey : documentSignerKey sampleDecoder (signedDocument edwardsCertificate) =
        .ok ⟨"Ed25519", false⟩ := by decide +kernel
    exact (hforetells _).first hresponse rfl hkey rfl (by decide)
  · have hok : (verifyIssuerAuthWith sampleDecoder sampleNow
        (sentResponse [weierstrassCertificate]) [] VerifyOptions.default).isOk = true := by
      decide +kernel
    obtain ⟨v, hv⟩ := Outcome.isOk_iff.mp hok
    obtain ⟨keys, hkeys, hlength, hall⟩ := (hforetells _).accepted hv
    exact ⟨v, keys, hv, hkeys, hlength, hall⟩

end MdlVerify
