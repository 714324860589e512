import IdentityCrates.MdlVerify.Device
import IdentityCrates.MdlVerify.Properties.IssuerSoundness

/-!
# Verifying a presentation

Three facts carry the agreement of the entry points.  Without questions for revocation lists the
core never suspends, so polling it a bounded number of times is waiting for it (`tryBlockOn_eq`).
What the core returns depends on the reports of the fetcher alone (`verifyDocumentsWith_congr`).
And the loop over candidate transcripts stops at the first one under which every document is device
authenticated (`candidatesLoop_eq_ok`), which the check of the reader's key ahead of it does not
change: where that check fails, no candidate would have passed (`checkReaderKey_of_verified`).
-/

namespace MdlVerify

open Octets Rust

variable {Request Report : Type} {iso : Isomdl Request Report}

/-! ## Waiting -/

lemma pending_trust {anchors : List IacaAnchor} {rules : TrustRules} {chain : X5Chain}
    {atOdt : OffsetDateTime} {fetcher : RevocationFetcher Request Report}
    (h : ∀ request, (fetcher request).pending = 0) :
    (trust iso anchors rules chain atOdt fetcher).pending = 0 := by
  unfold trust
  split
  · rfl
  · rw [Future.pending_await, validateChain, Asking.pending_run h]
    rfl

lemma pending_verifyDocument {anchors : List IacaAnchor} {rules : TrustRules} {t : DateTime}
    {atOdt : OffsetDateTime} {fetcher : RevocationFetcher Request Report}
    (h : ∀ request, (fetcher request).pending = 0) (document : Document) :
    (verifyDocument iso anchors rules t atOdt fetcher document).pending = 0 := by
  unfold verifyDocument
  refine Async.pending_bind rfl fun chain => ?_
  refine Async.pending_bind rfl fun mso => ?_
  refine Async.pending_bind rfl fun valid => ?_
  refine Async.pending_bind (pending_trust h) fun verdict => ?_
  exact Async.pending_bind rfl fun _ => rfl

lemma pending_verifyEach {verify : Document → Async MdlError MdlDocument}
    (h : ∀ document, (verify document).pending = 0) (documents : List Document)
    (verified : List MdlDocument) : (verifyEach verify documents verified).pending = 0 := by
  induction documents generalizing verified with
  | nil => rfl
  | cons document documents ih =>
    rw [verifyEach]
    exact Async.pending_bind (h document) fun _ => ih _

lemma pending_verifyDocumentsWith {now : DateTime} {response : DeviceResponse}
    {anchors : List IacaAnchor} {options : VerifyOptions}
    {fetcher : RevocationFetcher Request Report} (h : ∀ request, (fetcher request).pending = 0) :
    (verifyDocumentsWith iso now response anchors options fetcher).pending = 0 := by
  unfold verifyDocumentsWith
  refine Async.pending_bind rfl fun documents => ?_
  refine Async.pending_bind rfl fun atOdt => ?_
  exact Async.pending_bind (pending_verifyEach (pending_verifyDocument h) _ _) fun _ => rfl

lemma pending_verifyPresentationAnyWith {now : DateTime} {deviceResponse : Bytes}
    {anchors : List IacaAnchor} {transcripts : List (SessionTranscript iso.codec)}
    {key : Option (FixedBytes 32)} {options : VerifyOptions}
    {fetcher : RevocationFetcher Request Report} (h : ∀ request, (fetcher request).pending = 0) :
    (verifyPresentationAnyWith iso now deviceResponse anchors transcripts key options
      fetcher).pending = 0 := by
  unfold verifyPresentationAnyWith
  split
  · rfl
  · refine Async.pending_bind rfl fun response => ?_
    refine Async.pending_bind (pending_verifyDocumentsWith h) fun verification => ?_
    refine Async.pending_bind rfl fun _ => ?_
    exact Async.pending_bind rfl fun _ => rfl

/-- A call that does not suspend is finished by the first poll. -/
lemma tryBlockOn_eq {α : Type} {call : Async MdlError α} (h : call.pending = 0) :
    tryBlockOn call = call.output := by
  unfold tryBlockOn
  rw [Future.tryBlockOn_of_pending (by decide) h]

lemma verifyDocuments_eq (now : DateTime) (response : DeviceResponse) (anchors : List IacaAnchor)
    (options : VerifyOptions) : verifyDocuments iso now response anchors options
      = (verifyDocumentsWith iso now response anchors options iso.noFetcher).output :=
  tryBlockOn_eq (pending_verifyDocumentsWith fun _ => rfl)

/-! ## Fetchers with the same reports -/

section Congr

variable {fetcher fetcher' : RevocationFetcher Request Report}
    (h : ∀ request, (fetcher request).output = (fetcher' request).output)

include h

lemma trust_congr {anchors : List IacaAnchor} {rules : TrustRules} {chain : X5Chain}
    {atOdt : OffsetDateTime} : (trust iso anchors rules chain atOdt fetcher).output
      = (trust iso anchors rules chain atOdt fetcher').output := by
  unfold trust
  split
  · rfl
  · rw [Future.output_await, Future.output_await, validateChain, validateChain,
      Asking.output_run_congr h]

lemma verifyDocument_congr {anchors : List IacaAnchor} {rules : TrustRules} {t : DateTime}
    {atOdt : OffsetDateTime} (document : Document) :
    (verifyDocument iso anchors rules t atOdt fetcher document).output
      = (verifyDocument iso anchors rules t atOdt fetcher' document).output := by
  unfold verifyDocument
  simp only [Async.output_bind, Async.output_ofOutcome, Async.output_await, Async.output_pure,
    trust_congr h]

omit h in
lemma verifyEach_congr {verify verify' : Document → Async MdlError MdlDocument}
    (hverify : ∀ document, (verify document).output = (verify' document).output)
    (documents : List Document) (verified : List MdlDocument) :
    (verifyEach verify documents verified).output
      = (verifyEach verify' documents verified).output := by
  induction documents generalizing verified with
  | nil => rfl
  | cons document documents ih =>
    rw [verifyEach, verifyEach, Async.output_bind, Async.output_bind, hverify document]
    exact congrArg _ (funext fun _ => ih _)

/-- What the core returns depends on the reports alone. -/
lemma verifyDocumentsWith_congr (now : DateTime) (response : DeviceResponse)
    (anchors : List IacaAnchor) (options : VerifyOptions) :
    (verifyDocumentsWith iso now response anchors options fetcher).output
      = (verifyDocumentsWith iso now response anchors options fetcher').output := by
  unfold verifyDocumentsWith
  simp only [Async.output_bind, Async.output_ofOutcome, Async.output_pure]
  refine congrArg _ (funext fun documents => congrArg _ (funext fun atOdt => ?_))
  rw [verifyEach_congr (verifyDocument_congr h)]

end Congr

/-! ## Device authentication -/

/-- A document is device authenticated under a transcript, with the reader's key if it is MACed. -/
def DeviceAuthenticated (iso : Isomdl Request Report) (transcript : SessionTranscript iso.codec)
    (key : Option (FixedBytes 32)) (document : Document) : Prop :=
  ∃ used, (document.deviceSigned.deviceAuth.isMac = true → key = some used)
    ∧ iso.deviceAuthentication document transcript used = .ok ()

lemma deviceAuthLoop_eq_ok {transcript : SessionTranscript iso.codec}
    {key : Option (FixedBytes 32)} {documents : List Document}
    (h : deviceAuthLoop iso transcript key documents = .ok ()) :
    ∀ document ∈ documents, DeviceAuthenticated iso transcript key document := by
  induction documents with
  | nil =>
    intro document hmem
    cases hmem
  | cons first documents ih =>
    rw [deviceAuthLoop] at h
    obtain ⟨used, hkey, h⟩ := Outcome.bind_eq_ok.mp h
    obtain ⟨_, hdevice, h⟩ := Outcome.bind_eq_ok.mp h
    intro document hmem
    rcases List.mem_cons.mp hmem with rfl | hmem
    · refine ⟨used, ?_, ofResult_eq_ok hdevice⟩
      intro hmac
      rw [hmac] at hkey
      cases key with
      | none => cases hkey
      | some k => exact congrArg some (Outcome.ok.inj hkey)
    · exact ih h document hmem

lemma verifyResponseDeviceAuth_eq_ok {response : DeviceResponse}
    {transcript : SessionTranscript iso.codec} {key : Option (FixedBytes 32)}
    (h : verifyResponseDeviceAuth iso response transcript key = .ok ()) :
    ∃ documents, response.documents = some documents
      ∧ ∀ document ∈ documents, DeviceAuthenticated iso transcript key document := by
  obtain ⟨documents, hdocuments, h⟩ := Outcome.bind_eq_ok.mp h
  exact ⟨documents, Outcome.ofOption_eq_ok.mp hdocuments, deviceAuthLoop_eq_ok h⟩

/-- The reader's key is there for every document that needs it. -/
def HasKey (key : Option (FixedBytes 32)) (document : Document) : Prop :=
  document.deviceSigned.deviceAuth.isMac = true → key.isSome = true

lemma checkReaderKey_eq_ok {response : DeviceResponse} {documents : List Document}
    (hdocuments : response.documents = some documents) {key : Option (FixedBytes 32)} :
    checkReaderKey response key = .ok () ↔ ∀ document ∈ documents, HasKey key document := by
  unfold checkReaderKey
  cases key with
  | some k =>
    refine iff_of_true rfl ?_
    intro document _ _
    rfl
  | none =>
    rw [hdocuments]
    show (if _ then _ else _) = _ ↔ _
    split
    · next hany =>
      obtain ⟨document, hmem, hmac⟩ := List.any_eq_true.mp hany
      refine iff_of_false nofun ?_
      intro hall
      exact absurd (hall document hmem hmac) Bool.false_ne_true
    · next hany =>
      refine iff_of_true rfl ?_
      intro document hmem hmac
      exact absurd (List.any_eq_true.mpr ⟨document, hmem, hmac⟩) hany

/-- Where a candidate passes, the check of the reader's key ahead of it does too. -/
lemma checkReaderKey_of_verified {response : DeviceResponse}
    {transcript : SessionTranscript iso.codec} {key : Option (FixedBytes 32)}
    (h : verifyResponseDeviceAuth iso response transcript key = .ok ()) :
    checkReaderKey response key = .ok () := by
  obtain ⟨documents, hdocuments, hall⟩ := verifyResponseDeviceAuth_eq_ok h
  rw [checkReaderKey_eq_ok hdocuments]
  intro document hmem hmac
  obtain ⟨readerKey, hkey, -⟩ := hall document hmem
  rw [hkey hmac]
  rfl

lemma readerKey_of_hasKey {key : Option (FixedBytes 32)} {document : Document}
    (h : HasKey key document) :
    ∃ used, readerKey document.deviceSigned.deviceAuth.isMac key = .ok used := by
  unfold HasKey at h
  cases key with
  | some k =>
    refine ⟨k, ?_⟩
    cases document.deviceSigned.deviceAuth.isMac with
    | true => rfl
    | false => rfl
  | none =>
    cases hmac : document.deviceSigned.deviceAuth.isMac with
    | true => exact absurd (h hmac) Bool.false_ne_true
    | false => exact ⟨noReaderKey, rfl⟩

/-- With the reader's key where it is needed, device authentication succeeds or says that it
failed. -/
lemma deviceAuthLoop_cases {transcript : SessionTranscript iso.codec}
    {key : Option (FixedBytes 32)} {documents : List Document}
    (h : ∀ document ∈ documents, HasKey key document) :
    deviceAuthLoop iso transcript key documents = .ok ()
      ∨ ∃ why, deviceAuthLoop iso transcript key documents = .err (.deviceAuth why) := by
  induction documents with
  | nil => exact Or.inl rfl
  | cons document documents ih =>
    have hrest := ih fun other hmem => h other (List.mem_cons_of_mem _ hmem)
    obtain ⟨used, hused⟩ := readerKey_of_hasKey (h document List.mem_cons_self)
    rw [deviceAuthLoop, hused, Outcome.ok_bind]
    cases iso.deviceAuthentication document transcript used with
    | ok _ => exact hrest
    | error why => exact Or.inr ⟨why, rfl⟩

/-! ## Candidates -/

lemma verifyResponseDeviceAuth_cases {response : DeviceResponse} {documents : List Document}
    (hdocuments : response.documents = some documents) {key : Option (FixedBytes 32)}
    (hkey : checkReaderKey response key = .ok ()) (transcript : SessionTranscript iso.codec) :
    verifyResponseDeviceAuth iso response transcript key = .ok ()
      ∨ ∃ why, verifyResponseDeviceAuth iso response transcript key
        = .err (.deviceAuth why) := by
  unfold verifyResponseDeviceAuth
  rw [hdocuments]
  exact deviceAuthLoop_cases ((checkReaderKey_eq_ok hdocuments).mp hkey)

/-- The candidate at index `i` is the first under which the response is device authenticated. -/
def FirstVerified (response : DeviceResponse) (key : Option (FixedBytes 32))
    (transcripts : List (SessionTranscript iso.codec)) (i : Nat) : Prop :=
  (∃ transcript, transcripts[i]? = some transcript
      ∧ verifyResponseDeviceAuth iso response transcript key = .ok ())
    ∧ ∀ j < i, ∀ transcript, transcripts[j]? = some transcript →
      verifyResponseDeviceAuth iso response transcript key ≠ .ok ()

lemma firstVerified_zero {response : DeviceResponse} {key : Option (FixedBytes 32)}
    {transcript : SessionTranscript iso.codec} {transcripts : List (SessionTranscript iso.codec)} :
    FirstVerified response key (transcript :: transcripts) 0
      ↔ verifyResponseDeviceAuth iso response transcript key = .ok () := by
  unfold FirstVerified
  constructor
  · rintro ⟨⟨first, hfirst, hok⟩, -⟩
    rw [List.getElem?_cons_zero, Option.some.injEq] at hfirst
    rw [hfirst]
    exact hok
  · intro hok
    exact ⟨⟨transcript, rfl, hok⟩, fun j hj => absurd hj (Nat.not_lt_zero j)⟩

lemma firstVerified_succ {response : DeviceResponse} {key : Option (FixedBytes 32)}
    {transcript : SessionTranscript iso.codec} {transcripts : List (SessionTranscript iso.codec)}
    {i : Nat} : FirstVerified response key (transcript :: transcripts) (i + 1)
      ↔ verifyResponseDeviceAuth iso response transcript key ≠ .ok ()
        ∧ FirstVerified response key transcripts i := by
  unfold FirstVerified
  rw [List.getElem?_cons_succ]
  constructor
  · rintro ⟨hi, hbefore⟩
    refine ⟨hbefore 0 (Nat.succ_pos i) transcript rfl, hi, ?_⟩
    intro j hj other hother
    exact hbefore (j + 1) (Nat.succ_lt_succ hj) other hother
  · rintro ⟨hfirst, hi, hbefore⟩
    refine ⟨hi, ?_⟩
    intro j hj other hother
    cases j with
    | zero =>
      rw [List.getElem?_cons_zero, Option.some.injEq] at hother
      rw [← hother]
      exact hfirst
    | succ j => exact hbefore j (Nat.lt_of_succ_lt_succ hj) other hother

/-- The loop returns the index of the first candidate that passes. -/
lemma candidatesLoop_eq_ok {response : DeviceResponse} {documents : List Document}
    (hdocuments : response.documents = some documents) {key : Option (FixedBytes 32)}
    (hkey : checkReaderKey response key = .ok ()) {count index : Nat} {last : Option MdlError}
    {transcripts : List (SessionTranscript iso.codec)} {n : Nat} :
    candidatesLoop iso response key count index last transcripts = .ok n
      ↔ ∃ i, n = index + i ∧ FirstVerified response key transcripts i := by
  induction transcripts generalizing index last with
  | nil =>
    refine iff_of_false nofun ?_
    rintro ⟨i, -, ⟨transcript, hnone, -⟩, -⟩
    cases hnone
  | cons transcript transcripts ih =>
    rw [candidatesLoop]
    rcases verifyResponseDeviceAuth_cases hdocuments hkey transcript with hok | ⟨why, herr⟩
    · rw [hok]
      constructor
      · intro h
        exact ⟨0, (Outcome.ok.inj h).symm, firstVerified_zero.mpr hok⟩
      · rintro ⟨i, rfl, hfirst⟩
        cases i with
        | zero => rfl
        | succ i => exact absurd hok (firstVerified_succ.mp hfirst).1
    · rw [herr]
      have hne : verifyResponseDeviceAuth iso response transcript key ≠ .ok () := by
        rw [herr]
        nofun
      show candidatesLoop iso response key count (index + 1) _ transcripts = .ok n ↔ _
      rw [ih]
      constructor
      · rintro ⟨i, rfl, hfirst⟩
        exact ⟨i + 1, by omega, firstVerified_succ.mpr ⟨hne, hfirst⟩⟩
      · rintro ⟨i, rfl, hfirst⟩
        cases i with
        | zero => exact absurd (firstVerified_zero.mp hfirst) hne
        | succ i => exact ⟨i, by omega, (firstVerified_succ.mp hfirst).2⟩

/-! ## Entry points -/

section EntryPoints

variable {now : DateTime} {deviceResponse : Bytes} {anchors : List IacaAnchor}
  {transcript : SessionTranscript iso.codec} {transcripts : List (SessionTranscript iso.codec)}
  {key : Option (FixedBytes 32)} {options : VerifyOptions} {v : MdlVerification} {i : Nat}

/-- What it takes for a presentation to verify against one transcript. -/
lemma verifyPresentation_eq_ok :
    verifyPresentation iso now deviceResponse anchors transcript key options = .ok v
      ↔ ∃ response u, decodeResponse iso deviceResponse = .ok response
        ∧ (verifyDocumentsWith iso now response anchors options iso.noFetcher).output = .ok u
        ∧ verifyResponseDeviceAuth iso response transcript key = .ok () ∧ v = u.withDeviceAuth := by
  unfold verifyPresentation
  constructor
  · intro h
    obtain ⟨response, hresponse, h⟩ := Outcome.bind_eq_ok.mp h
    obtain ⟨u, hu, h⟩ := Outcome.bind_eq_ok.mp h
    obtain ⟨_, hdevice, h⟩ := Outcome.bind_eq_ok.mp h
    rw [verifyDocuments_eq] at hu
    exact ⟨response, u, hresponse, hu, hdevice, (Outcome.ok.inj h).symm⟩
  · rintro ⟨response, u, hresponse, hu, hdevice, rfl⟩
    rw [← verifyDocuments_eq] at hu
    rw [hresponse, Outcome.ok_bind, hu, Outcome.ok_bind, hdevice, Outcome.ok_bind]
    rfl

/-- A presentation verifies where its two halves do: the data that the issuer signed, and the device
that answered. -/
lemma verifyPresentation_iff_halves :
    verifyPresentation iso now deviceResponse anchors transcript key options = .ok v
      ↔ ∃ u, verifyIssuerAuthWith iso now deviceResponse anchors options = .ok u
        ∧ verifyDeviceAuth iso deviceResponse transcript key = .ok () ∧ v = u.withDeviceAuth := by
  unfold verifyIssuerAuthWith verifyDeviceAuth
  simp only [verifyPresentation_eq_ok, verifyDocuments_eq, Outcome.bind_eq_ok]
  constructor
  · rintro ⟨response, u, hresponse, hu, hdevice, rfl⟩
    exact ⟨u, ⟨response, hresponse, hu⟩, ⟨response, hresponse, hdevice⟩, rfl⟩
  · rintro ⟨u, ⟨response, hresponse, hu⟩, ⟨response', hresponse', hdevice⟩, rfl⟩
    obtain rfl := Outcome.ok.inj (hresponse.symm.trans hresponse')
    exact ⟨response, u, hresponse, hu, hdevice, rfl⟩

/-- What it takes for a presentation to verify against several candidates. -/
lemma verifyPresentationAny_eq_ok :
    verifyPresentationAny iso now deviceResponse anchors transcripts key options = .ok (v, i)
      ↔ ∃ response u, decodeResponse iso deviceResponse = .ok response
        ∧ (verifyDocumentsWith iso now response anchors options iso.noFetcher).output = .ok u
        ∧ FirstVerified response key transcripts i ∧ v = u.withDeviceAuth := by
  unfold verifyPresentationAny
  rw [tryBlockOn_eq (pending_verifyPresentationAnyWith fun _ => rfl)]
  unfold verifyPresentationAnyWith
  split
  · next hempty =>
    refine iff_of_false nofun ?_
    rintro ⟨response, u, -, -, ⟨⟨transcript, htranscript, -⟩, -⟩, -⟩
    rw [List.isEmpty_iff.mp hempty] at htranscript
    cases htranscript
  · simp only [Async.output_bind, Async.output_ofOutcome, Async.output_pure]
    constructor
    · intro h
      obtain ⟨response, hresponse, h⟩ := Outcome.bind_eq_ok.mp h
      obtain ⟨u, hu, h⟩ := Outcome.bind_eq_ok.mp h
      obtain ⟨_, hkey, h⟩ := Outcome.bind_eq_ok.mp h
      obtain ⟨n, hn, h⟩ := Outcome.bind_eq_ok.mp h
      obtain ⟨documents, -, hdocuments, -⟩ := verifyDocumentsWith_eq_ok hu
      obtain ⟨k, rfl, hfirst⟩ := (candidatesLoop_eq_ok hdocuments hkey).mp hn
      cases h
      rw [Nat.zero_add]
      exact ⟨response, u, hresponse, hu, hfirst, rfl⟩
    · rintro ⟨response, u, hresponse, hu, hfirst, rfl⟩
      obtain ⟨documents, -, hdocuments, -⟩ := verifyDocumentsWith_eq_ok hu
      obtain ⟨matching, -, hmatching⟩ := hfirst.1
      have hkey := checkReaderKey_of_verified hmatching
      have hloop : candidatesLoop iso response key transcripts.length 0 none transcripts = .ok i :=
        (candidatesLoop_eq_ok hdocuments hkey).mpr ⟨i, (Nat.zero_add i).symm, hfirst⟩
      rw [hresponse, Outcome.ok_bind, hu, Outcome.ok_bind, hkey, Outcome.ok_bind, hloop]
      rfl

/-- The candidate that is found is the first against which the presentation verifies. -/
lemma verifyPresentationAny_iff :
    verifyPresentationAny iso now deviceResponse anchors transcripts key options = .ok (v, i)
      ↔ (∃ transcript, transcripts[i]? = some transcript ∧
          verifyPresentation iso now deviceResponse anchors transcript key options = .ok v)
        ∧ ∀ j < i, ∀ transcript, transcripts[j]? = some transcript → ∀ w,
          verifyPresentation iso now deviceResponse anchors transcript key options ≠ .ok w := by
  rw [verifyPresentationAny_eq_ok]
  constructor
  · rintro ⟨response, u, hresponse, hu, ⟨⟨matching, hmatching, hok⟩, hbefore⟩, rfl⟩
    refine ⟨⟨matching, hmatching, ?_⟩, ?_⟩
    · exact verifyPresentation_eq_ok.mpr ⟨response, u, hresponse, hu, hok, rfl⟩
    · intro j hj other hother w hw
      obtain ⟨response', -, hresponse', -, hdevice, -⟩ := verifyPresentation_eq_ok.mp hw
      rw [hresponse, Outcome.ok.injEq] at hresponse'
      subst hresponse'
      exact hbefore j hj other hother hdevice
  · rintro ⟨⟨matching, hmatching, hok⟩, hbefore⟩
    obtain ⟨response, u, hresponse, hu, hdevice, rfl⟩ := verifyPresentation_eq_ok.mp hok
    refine ⟨response, u, hresponse, hu, ⟨⟨matching, hmatching, hdevice⟩, ?_⟩, rfl⟩
    intro j hj other hother hother'
    exact hbefore j hj other hother _
      (verifyPresentation_eq_ok.mpr ⟨response, u, hresponse, hu, hother', rfl⟩)

lemma mem_withDeviceAuth {u : MdlVerification} {document : MdlDocument}
    (h : document ∈ u.withDeviceAuth.documents) : document.deviceAuthenticated = true := by
  obtain ⟨original, -, rfl⟩ := List.mem_map.mp h
  rfl

/-- No verdict on the issuer's data claims device authentication. -/
lemma deviceAuthenticated_eq_false {response : DeviceResponse}
    {fetcher : RevocationFetcher Request Report}
    (h : (verifyDocumentsWith iso now response anchors options fetcher).output = .ok v) :
    ∀ document ∈ v.documents, document.deviceAuthenticated = false := by
  obtain ⟨documents, atOdt, -, -, hall⟩ := sound h
  intro document hmem
  obtain ⟨original, -, chain, mso, hattests⟩ := hall.exists_of_mem_right hmem
  exact hattests.deviceAuthenticated

end EntryPoints

end MdlVerify
