import IdentityCrates.Dmrtd.Properties.SodConformance

/-!
# Why passive authentication refuses

A refusal of `verify` has one of three reasons.  EF.SOD or the certificate of its signer names an
algorithm that the crate cannot check (`Unsupported`); or the file is refused by a parser and names
nothing of the kind (`Unparsable`); or all of it is understood (`Opened`) and a check fails.  The
last is evidence against the document only if something was held against what was signed and was
found to differ (`Mismatch`).

A file that is understood names nothing unsupported (`Opens.not_unsupported`).  Two checks of such a
file fail with nothing compared: the list of hashes may have no entry for a data group, and the kind
of the key may not be that of the declared signature.  `mismatch_of_err_iff` says that there is no
third.
-/

namespace Dmrtd

open Rust Octets

namespace Passive

/-! ## The layout of a certificate -/

/-- The parts of a certificate that say whose it is and which algorithms it names. -/
structure CertificateLayout where
  serial : Bytes
  issuer : Bytes
  ski : Option Bytes
  publicKeyInfo : Bytes
  signatureAlgorithm : Bytes

/-- Walk through a certificate. -/
def certificateLayout (derBytes : Bytes) : Option CertificateLayout := do
  let body ← Der.expect derBytes Der.sequence
  let tbs ← Der.next body
  let (signatureAlgorithm, _) ← Der.take tbs.rest Der.sequence
  let afterVersion := ((optionalField 0xA0 tbs.contents).map Prod.snd).getD tbs.contents
  let (serial, r1) ← Der.take afterVersion Der.integer
  let (_, r2) ← Der.take r1 Der.sequence
  let (issuer, r3) ← Der.take r2 Der.sequence
  let (_, r4) ← Der.take r3 Der.sequence
  let (_, r5) ← Der.take r4 Der.sequence
  let (publicKeyInfo, r6) ← Der.take r5 Der.sequence
  some { serial, issuer, ski := findSki r6, publicKeyInfo, signatureAlgorithm }

/-- Does the SignerInfo name the certificate of this layout? -/
def SignerId.namesLayout (sid : SignerId) (C : CertificateLayout) : Bool :=
  match sid with
  | .issuerAndSerial issuer serial => C.issuer == issuer && C.serial == serial
  | .ski identifier => C.ski == some identifier

variable {S : SignatureSuite}

lemma parseTbs_eq_ok {tbs : Bytes} {parsed : ParsedTbs S} (h : parseTbs S tbs = .ok parsed) :
    ∃ r1 innerSigAlg r2 r3 validity r4 r5 spki r6,
      Der.take (((optionalField 0xA0 tbs).map Prod.snd).getD tbs) Der.integer =
        some (parsed.serial, r1) ∧
      Der.take r1 Der.sequence = some (innerSigAlg, r2) ∧
      Der.take r2 Der.sequence = some (parsed.issuer, r3) ∧
      Der.take r3 Der.sequence = some (validity, r4) ∧
      Der.take r4 Der.sequence = some (parsed.subject, r5) ∧
      Der.take r5 Der.sequence = some (spki, r6) ∧
      parseSpki S spki = .ok parsed.publicKey ∧ parsed.ski = findSki r6 := by
  obtain ⟨⟨serial, r1⟩, hserial, h⟩ := Outcome.bind_eq_ok.mp h
  obtain ⟨⟨innerSigAlg, r2⟩, hinner, h⟩ := Outcome.bind_eq_ok.mp h
  obtain ⟨⟨issuer, r3⟩, hissuer, h⟩ := Outcome.bind_eq_ok.mp h
  obtain ⟨⟨validity, r4⟩, hvalidity, h⟩ := Outcome.bind_eq_ok.mp h
  obtain ⟨⟨subject, r5⟩, hsubject, h⟩ := Outcome.bind_eq_ok.mp h
  obtain ⟨⟨spki, r6⟩, hspki, h⟩ := Outcome.bind_eq_ok.mp h
  obtain ⟨publicKey, hkey, h⟩ := Outcome.bind_eq_ok.mp h
  obtain rfl := Outcome.ok.inj h
  rw [Outcome.ofOption_eq_ok] at hserial hinner hissuer hvalidity hsubject hspki
  have hfirst : Der.take (((optionalField 0xA0 tbs).map Prod.snd).getD tbs) Der.integer =
      some (serial, r1) := by
    rw [← hserial]
    cases optionalField 0xA0 tbs <;> rfl
  exact ⟨r1, innerSigAlg, r2, r3, validity, r4, r5, spki, r6, hfirst, hinner, hissuer, hvalidity,
    hsubject, hspki, hkey, rfl⟩

/-- A certificate that is understood has a layout, which the same SignerInfos name, and names a key
and a signature algorithm that are understood. -/
lemma certificateLayout_of_parse {derBytes : Bytes} {cert : Certificate S}
    (h : Certificate.parse S derBytes = .ok cert) :
    ∃ C, certificateLayout derBytes = some C ∧
      (∀ sid : SignerId, sid.namesLayout C = sid.names S cert) ∧
      parseSpki S C.publicKeyInfo = .ok cert.publicKey ∧
      ∃ scheme, parseSigAlg C.signatureAlgorithm = .ok scheme := by
  obtain ⟨body, hbody, h⟩ := Outcome.bind_eq_ok.mp h
  obtain ⟨tbsElement, htbs, h⟩ := Outcome.bind_eq_ok.mp h
  split at h
  · cases h
  obtain ⟨⟨outerAlg, afterSigAlg⟩, houter, h⟩ := Outcome.bind_eq_ok.mp h
  obtain ⟨scheme, hscheme, h⟩ := Outcome.bind_eq_ok.mp h
  obtain ⟨signatureHash, -, h⟩ := Outcome.bind_eq_ok.mp h
  obtain ⟨⟨sigBits, tail⟩, -, h⟩ := Outcome.bind_eq_ok.mp h
  dsimp only at h
  split at h
  · cases h
  obtain ⟨signature, -, h⟩ := Outcome.bind_eq_ok.mp h
  obtain ⟨parsed, hparsed, h⟩ := Outcome.bind_eq_ok.mp h
  split at h
  · cases h
  obtain rfl := Outcome.ok.inj h
  obtain ⟨r1, innerSigAlg, r2, r3, validity, r4, r5, spki, r6, hserial, hinner, hissuer, hvalidity,
    hsubject, hspki, hkey, hski⟩ := parseTbs_eq_ok hparsed
  rw [Outcome.ofOption_eq_ok] at hbody htbs houter
  rw [Outcome.mapErr_eq_ok] at hscheme
  refine ⟨⟨parsed.serial, parsed.issuer, findSki r6, spki, outerAlg⟩, ?_, ?_, hkey, _, hscheme⟩
  · refine Option.bind_eq_some_iff.mpr ⟨_, hbody, Option.bind_eq_some_iff.mpr ⟨_, htbs, ?_⟩⟩
    refine Option.bind_eq_some_iff.mpr ⟨_, houter, Option.bind_eq_some_iff.mpr ⟨_, hserial, ?_⟩⟩
    refine Option.bind_eq_some_iff.mpr ⟨_, hinner, Option.bind_eq_some_iff.mpr ⟨_, hissuer, ?_⟩⟩
    refine Option.bind_eq_some_iff.mpr ⟨_, hvalidity, Option.bind_eq_some_iff.mpr ⟨_, hsubject, ?_⟩⟩
    exact Option.bind_eq_some_iff.mpr ⟨_, hspki, rfl⟩
  · intro sid
    cases sid with
    | issuerAndSerial issuer serial => rfl
    | ski identifier =>
      show (findSki r6 == some identifier) = (parsed.ski == some identifier)
      rw [hski]

/-! ## The reasons -/

variable (S)

/-- The key or the signature algorithm of the certificate is one that the crate does not know. -/
def CertificateLayout.Unsupported (C : CertificateLayout) : Prop :=
  parseSpki S C.publicKeyInfo = .err .unsupportedKey ∨
    parseSigAlg C.signatureAlgorithm = .err .unsupportedHash

/-- EF.SOD, or the certificate that its SignerInfo names, names a hash, a kind of key or a signature
algorithm that the crate does not know. -/
inductive Unsupported (sod : Bytes) : Prop
  | digest {L : Layout} (file : layout sod = some L)
      (unknown : algoHash L.digestAlgorithm = .err .unsupportedHash)
  | signature {L : Layout} (file : layout sod = some L)
      (unknown : parseSigAlg L.signatureAlgorithm = .err .unsupportedHash)
  | securityObject {L : Layout} {hashAlgorithm : Bytes} {entries : List (UInt8 × Bytes)}
      (file : layout sod = some L) (object : hashList L.content = some (hashAlgorithm, entries))
      (unknown : algoHash hashAlgorithm = .err .unsupportedHash)
  | certificate {L : Layout} {els : List (UInt8 × Bytes)} {sid : SignerId}
      (file : layout sod = some L) (field : Der.elements L.certificates = some els)
      (signer : parseSid L.sid.1 L.sid.2 = .ok sid)
      (named : ∃ e ∈ els, ∃ C, certificateLayout (Der.encode Der.sequence e.2) = some C ∧
        sid.namesLayout C = true)
      (unknown : ∀ e ∈ els, ∀ C, certificateLayout (Der.encode Der.sequence e.2) = some C →
        sid.namesLayout C = true → C.Unsupported S)

/-- EF.SOD is a signed security object, and the certificate of its signer can be read. -/
structure Opens (sod : Bytes) (signed : SignedData) (lds : LdsSecurityObject)
    (dsc : Certificate S) : Prop where
  parsed : SignedData.parse S sod = .ok signed
  contentType : signed.contentType = oidLdsSecurityObject
  securityObject : LdsSecurityObject.parse signed.encapContent = .ok lds
  certificate : Certificate.parse S signed.signerCert = .ok dsc

/-- All of EF.SOD is understood. -/
def Opened (sod : Bytes) : Prop :=
  ∃ (signed : SignedData) (lds : LdsSecurityObject) (dsc : Certificate S), Opens S sod signed lds dsc

/-- EF.SOD is not understood, though it names nothing that the crate does not know. -/
def Unparsable (sod : Bytes) : Prop := ¬ Unsupported S sod ∧ ¬ Opened S sod

/-- The first data group that does not have its hash in the list. -/
def firstUnmatched (lds : LdsSecurityObject) (groups : List DataGroup) : Option DataGroup :=
  groups.find? fun dg => lds.hashes.lookup dg.number ≠ some (S.digest lds.hashAlgo dg.bytes)

/-- Something was held against what was signed, and differs: the hash of a data group, the signed
attributes and the content they are about, or the signature. -/
inductive Mismatch (sod : Bytes) (groups : List DataGroup) : Prop
  | dataGroup {signed : SignedData} {lds : LdsSecurityObject} {dsc : Certificate S}
      {dg : DataGroup} {expected : Bytes} (opens : Opens S sod signed lds dsc)
      (first : firstUnmatched S lds groups = some dg)
      (listed : lds.hashes.lookup dg.number = some expected)
      (differs : S.digest lds.hashAlgo dg.bytes ≠ expected)
  | attributes {signed : SignedData} {lds : LdsSecurityObject} {dsc : Certificate S}
      {attrs : SignedAttrs} (opens : Opens S sod signed lds dsc)
      (matched : firstUnmatched S lds groups = none)
      (scheme : schemeMatchesKey dsc.publicKey signed.sigScheme = true)
      (present : signed.signedAttrs = some attrs)
      (differs : attrs.messageDigest ≠ S.digest signed.digestAlgo signed.encapContent ∨
        attrs.contentType ≠ some signed.contentType)
  | signature {signed : SignedData} {lds : LdsSecurityObject} {dsc : Certificate S}
      {message : Bytes} (opens : Opens S sod signed lds dsc)
      (matched : firstUnmatched S lds groups = none)
      (scheme : schemeMatchesKey dsc.publicKey signed.sigScheme = true)
      (checked : signedMessage S signed = .ok message)
      (refused : dsc.publicKey.verify signed.sigScheme signed.signatureHash message
        signed.signature = false)

/-- Every check that can fail is a comparison: the first data group without its hash in the list has
another hash there, and if there is none, the key is of the kind of the declared signature. -/
def Comparable (sod : Bytes) (groups : List DataGroup) : Prop :=
  ∃ (signed : SignedData) (lds : LdsSecurityObject) (dsc : Certificate S),
    Opens S sod signed lds dsc ∧
    (∀ dg, firstUnmatched S lds groups = some dg → (lds.hashes.lookup dg.number).isSome = true) ∧
    (firstUnmatched S lds groups = none → schemeMatchesKey dsc.publicKey signed.sigScheme = true)

/-! ## A file that is understood -/

variable {S} {sod : Bytes} {signed signed' : SignedData} {lds lds' : LdsSecurityObject}
  {dsc dsc' : Certificate S}

lemma Opens.unique (h : Opens S sod signed lds dsc) (h' : Opens S sod signed' lds' dsc') :
    signed' = signed ∧ lds' = lds ∧ dsc' = dsc := by
  obtain rfl := Outcome.ok.inj (h'.parsed.symm.trans h.parsed)
  obtain rfl := Outcome.ok.inj (h'.securityObject.symm.trans h.securityObject)
  obtain rfl := Outcome.ok.inj (h'.certificate.symm.trans h.certificate)
  exact ⟨rfl, rfl, rfl⟩

/-- A file that is understood names nothing that the crate does not know. -/
lemma Opens.not_unsupported (h : Opens S sod signed lds dsc) : ¬ Unsupported S sod := by
  obtain ⟨L, hL, hdescribes⟩ := exists_layout h.parsed
  intro hunsupported
  cases hunsupported with
  | digest file unknown =>
    obtain rfl := Option.some.inj (hL.symm.trans file)
    rw [hdescribes.digestAlgo] at unknown
    cases unknown
  | signature file unknown =>
    obtain rfl := Option.some.inj (hL.symm.trans file)
    obtain ⟨pinned, hscheme, -⟩ := hdescribes.signatureAlgo
    rw [hscheme] at unknown
    cases unknown
  | securityObject file object unknown =>
    obtain rfl := Option.some.inj (hL.symm.trans file)
    obtain ⟨hashAlgorithm', entries', hlist, halgo, -⟩ := securityObject_eq_ok h.securityObject
    rw [hdescribes.content, hlist] at object
    obtain ⟨rfl, -⟩ := Prod.mk.inj (Option.some.inj object)
    rw [halgo] at unknown
    cases unknown
  | certificate file field signer named unknown =>
    obtain rfl := Option.some.inj (hL.symm.trans file)
    obtain ⟨els, sid, tag, contents, cert, hels, hsid, hmem, hcert, hparse, hnames⟩ :=
      hdescribes.certificate
    obtain rfl := Option.some.inj (hels.symm.trans field)
    obtain rfl := Outcome.ok.inj (hsid.symm.trans signer)
    obtain ⟨C, hC, hnamesC, hkey, scheme, hscheme⟩ := certificateLayout_of_parse hparse
    rcases unknown _ hmem C (hcert ▸ hC) ((hnamesC sid).trans hnames) with hbad | hbad
    · rw [hkey] at hbad
      cases hbad
    · rw [hscheme] at hbad
      cases hbad

/-- Nothing is compared of a file that is not understood. -/
lemma Mismatch.opened {groups : List DataGroup} (h : Mismatch S sod groups) : Opened S sod := by
  cases h with
  | dataGroup opens => exact ⟨_, _, _, opens⟩
  | attributes opens => exact ⟨_, _, _, opens⟩
  | signature opens => exact ⟨_, _, _, opens⟩

/-! ## A refusal -/

/-- The loop over the data groups stops at the first one without its hash in the list. -/
lemma matchGroups_eq (groups : List DataGroup) :
    matchGroups S lds groups =
      match firstUnmatched S lds groups with
      | some dg => .err (.dataGroupHashMismatch dg.number)
      | none => .ok () := by
  induction groups with
  | nil => rfl
  | cons dg groups ih =>
    rw [matchGroups, firstUnmatched, List.find?_cons]
    cases hlookup : lds.hashes.lookup dg.number with
    | none => simp
    | some expected =>
      dsimp only
      by_cases hmatch : S.digest lds.hashAlgo dg.bytes = expected
      · rw [if_neg (not_not_intro hmatch), ih]
        simp [hmatch, firstUnmatched]
      · rw [if_pos hmatch]
        have hne : ¬ expected = S.digest lds.hashAlgo dg.bytes := fun heq => hmatch heq.symm
        simp [hne]

/-- A file that is not understood is not accepted. -/
lemma opened_of_verify {groups : List DataGroup} {anchors : List (TrustAnchor S)}
    {result : PassiveAuth} (h : verify S sod groups anchors = .ok result) : Opened S sod := by
  obtain ⟨-, signed, lds, dsc, message, hsod, -, -⟩ := verify_eq_ok.mp h
  exact ⟨signed, lds, dsc, hsod.parsed, hsod.contentType, hsod.securityObject, hsod.certificate⟩

/-- What `verify` makes of a file that is understood. -/
lemma Opens.verify_eq (h : Opens S sod signed lds dsc) {groups : List DataGroup}
    (hgroups : groups ≠ []) (anchors : List (TrustAnchor S)) :
    verify S sod groups anchors =
      match firstUnmatched S lds groups with
      | some dg => .err (.dataGroupHashMismatch dg.number)
      | none =>
        if ¬ schemeMatchesKey dsc.publicKey signed.sigScheme then .err .badDocumentSignature
        else do
          let message ← signedMessage S signed
          if ¬ dsc.publicKey.verify signed.sigScheme signed.signatureHash message
              signed.signature then
            .err .badDocumentSignature
          else
            return ⟨verifiedNumbers groups, lds.hashes.map Prod.fst, chainStatus anchors dsc⟩ := by
  rw [verify, if_neg hgroups, h.parsed, Outcome.ok_bind, if_neg (not_not.mpr h.contentType),
    h.securityObject, Outcome.ok_bind, matchGroups_eq]
  cases firstUnmatched S lds groups with
  | some dg => rfl
  | none =>
    dsimp only
    rw [Outcome.ok_bind, h.certificate, Outcome.ok_bind]
    rfl

/-- The signed attributes are refused because they do not speak of the content. -/
lemma signedMessage_cases (signed : SignedData) :
    (∃ message, signedMessage S signed = .ok message) ∨
      (signedMessage S signed = .err .badSignedAttributes ∧
        ∃ attrs, signed.signedAttrs = some attrs ∧
          (attrs.messageDigest ≠ S.digest signed.digestAlgo signed.encapContent ∨
            attrs.contentType ≠ some signed.contentType)) := by
  unfold signedMessage
  cases hattrs : signed.signedAttrs with
  | none => exact Or.inl ⟨_, rfl⟩
  | some attrs =>
    dsimp only
    split
    · rename_i hdiffers
      exact Or.inr ⟨rfl, attrs, rfl, hdiffers⟩
    · exact Or.inl ⟨_, rfl⟩

/-- Of a file that is understood, a refusal means a comparison that failed, exactly if every check
that can fail is one. -/
lemma mismatch_of_err_iff (h : Opens S sod signed lds dsc) {groups : List DataGroup}
    (hgroups : groups ≠ []) (anchors : List (TrustAnchor S)) :
    ((∃ e, verify S sod groups anchors = .err e) → Mismatch S sod groups) ↔
      Comparable S sod groups := by
  have hverify := h.verify_eq hgroups anchors
  constructor
  · intro hcompared
    refine ⟨signed, lds, dsc, h, fun dg hfirst => ?_, fun hfirst => ?_⟩
    · rw [hfirst] at hverify
      cases hcompared ⟨_, hverify⟩ with
      | dataGroup opens first listed differs =>
        obtain ⟨rfl, rfl, rfl⟩ := h.unique opens
        obtain rfl := Option.some.inj (hfirst.symm.trans first)
        rw [listed]
        rfl
      | attributes opens matched scheme present differs =>
        obtain ⟨rfl, rfl, rfl⟩ := h.unique opens
        rw [hfirst] at matched
        cases matched
      | signature opens matched scheme checked refused =>
        obtain ⟨rfl, rfl, rfl⟩ := h.unique opens
        rw [hfirst] at matched
        cases matched
    · by_contra hscheme
      rw [hfirst] at hverify
      dsimp only at hverify
      rw [if_pos hscheme] at hverify
      cases hcompared ⟨_, hverify⟩ with
      | dataGroup opens first listed differs =>
        obtain ⟨rfl, rfl, rfl⟩ := h.unique opens
        rw [hfirst] at first
        cases first
      | attributes opens matched scheme present differs =>
        obtain ⟨rfl, rfl, rfl⟩ := h.unique opens
        exact hscheme scheme
      | signature opens matched scheme checked refused =>
        obtain ⟨rfl, rfl, rfl⟩ := h.unique opens
        exact hscheme scheme
  · rintro ⟨signed', lds', dsc', opens, hlisted, hscheme⟩ ⟨e, herr⟩
    obtain ⟨rfl, rfl, rfl⟩ := h.unique opens
    rw [hverify] at herr
    cases hfirst : firstUnmatched S lds' groups with
    | some dg =>
      obtain ⟨expected, hexpected⟩ := Option.isSome_iff_exists.mp (hlisted dg hfirst)
      have hunmatched := List.find?_some hfirst
      refine Mismatch.dataGroup h hfirst hexpected fun heq => ?_
      rw [hexpected, heq] at hunmatched
      simp at hunmatched
    | none =>
      have hkind := hscheme hfirst
      rw [hfirst] at herr
      dsimp only at herr
      rw [if_neg (not_not_intro hkind)] at herr
      rcases signedMessage_cases (S := S) signed' with ⟨message, hmessage⟩ | ⟨-, attrs, hattrs, hdiffers⟩
      · rw [hmessage, Outcome.ok_bind] at herr
        split at herr
        · rename_i hrefused
          exact Mismatch.signature h hfirst hkind hmessage (Bool.eq_false_iff.mpr hrefused)
        · cases herr
      · exact Mismatch.attributes h hfirst hkind hattrs hdiffers

end Passive

end Dmrtd
