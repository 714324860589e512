import IdentityCrates.Dmrtd.Properties.SodLayout

/-!
# Passive authentication against RFC 5652

What must hold of an EF.SOD that `verify` accepts is stated on its layout (`Conforms`): each data
group has the one hash that the list gives for its number, the attributes that speak of the content
are right about it, the certificate that the sid names vouches for the SET OF the attributes, and
the trust in that certificate is decided by the anchors as a set.

All of it follows from acceptance but for two cases of malformed attributes (`verify_conforms_iff`).
If one type of attribute occurs twice the loop of `parse_signed_attrs` keeps the later value, so an
earlier one is never compared with anything.  And `push_len` has no form for sixteen megabytes, so
that attributes of that length are not checked as the SET OF that they are.
-/

namespace Dmrtd

open Rust Octets

namespace Passive

/-! ## The security object as a list -/

/-- The contents of the hashAlgorithm of a security object, and the entries of its list. -/
def hashList (content : Bytes) : Option (Bytes × List (UInt8 × Bytes)) := do
  let seq ← Der.expect content Der.sequence
  let (_, r1) ← Der.take seq Der.integer
  let (hashAlgorithm, r2) ← Der.take r1 Der.sequence
  let (list, _) ← Der.take r2 Der.sequence
  let els ← Der.elements list
  some (hashAlgorithm, els.filterMap hashEntry)

/-- A hash that is found for a number is the one hash that the list gives for it. -/
lemma securityObject_eq_ok {content : Bytes} {lds : LdsSecurityObject}
    (h : LdsSecurityObject.parse content = .ok lds) :
    ∃ hashAlgorithm entries, hashList content = some (hashAlgorithm, entries) ∧
      algoHash hashAlgorithm = .ok lds.hashAlgo ∧
      ∀ number hash, lds.hashes.lookup number = some hash →
        entries.filter (fun entry => entry.1 == number) = [(number, hash)] := by
  obtain ⟨seq, hseq, h⟩ := Outcome.bind_eq_ok.mp h
  obtain ⟨⟨version, r1⟩, hversion, h⟩ := Outcome.bind_eq_ok.mp h
  obtain ⟨⟨hashAlgorithm, r2⟩, halgorithm, h⟩ := Outcome.bind_eq_ok.mp h
  obtain ⟨hashAlgo, halgo, h⟩ := Outcome.bind_eq_ok.mp h
  obtain ⟨⟨list, last⟩, hlist, h⟩ := Outcome.bind_eq_ok.mp h
  obtain ⟨hashes, hhashes, h⟩ := Outcome.bind_eq_ok.mp h
  split at h
  · simp at h
  obtain rfl := Outcome.ok.inj h
  obtain ⟨els, hels, hperm, hnodup⟩ := collectHashes_eq_ok hhashes List.nodup_nil
  rw [List.append_nil] at hperm
  rw [Outcome.ofOption_eq_ok] at hseq hversion halgorithm hlist
  refine ⟨hashAlgorithm, els.filterMap hashEntry, ?_, halgo, fun number hash hlookup => ?_⟩
  · refine Option.bind_eq_some_iff.mpr ⟨_, hseq, Option.bind_eq_some_iff.mpr ⟨_, hversion, ?_⟩⟩
    refine Option.bind_eq_some_iff.mpr ⟨_, halgorithm, ?_⟩
    exact Option.bind_eq_some_iff.mpr ⟨_, hlist, Option.bind_eq_some_iff.mpr ⟨_, hels, rfl⟩⟩
  · have hfiltered := hperm.filter fun entry => entry.1 == number
    rw [filter_eq_of_lookup hnodup hlookup] at hfiltered
    exact List.perm_singleton.mp hfiltered.symm

/-! ## The attributes -/

/-- The attributes of one type do not disagree. -/
def Agree {α : Type} (value : Bytes → Option α) (values : List Bytes) : Prop :=
  ∀ v ∈ values, ∀ w ∈ values, value v = value w

/-- All the values are what the last one is. -/
lemma all_of_agree {α : Type} {value : Bytes → Option α} {values : List Bytes} {a : α}
    (hlast : values.getLast?.bind value = some a) (hagree : Agree value values) :
    values ≠ [] ∧ ∀ v ∈ values, value v = some a := by
  obtain ⟨last, hmem, hvalue⟩ := Option.bind_eq_some_iff.mp hlast
  have hlast := List.mem_of_getLast? hmem
  exact ⟨List.ne_nil_of_mem hlast, fun v hv => (hagree v hv last hlast).trans hvalue⟩

lemma agree_of_all {α : Type} {value : Bytes → Option α} {values : List Bytes} {a : Option α}
    (h : ∀ v ∈ values, value v = a) : Agree value values :=
  fun v hv w hw => (h v hv).trans (h w hw).symm

/-- What the parser takes from the attributes. -/
lemma parseSignedAttrs_eq_ok {field : Bytes} {attrs : SignedAttrs}
    (h : parseSignedAttrs field = .ok attrs) :
    ∃ els, Der.elements field = some els ∧
      attrs.der = Der.set :: (pushLen field.length ++ field) ∧
      (attributeValues oidMessageDigest els).getLast?.bind digestValue = some attrs.messageDigest ∧
      (attributeValues oidContentType els).getLast?.bind typeValue = attrs.contentType := by
  obtain ⟨⟨messageDigest, contentType⟩, hfold, h⟩ := Outcome.bind_eq_ok.mp h
  obtain ⟨digest, hdigest, hattrs⟩ := Outcome.bind_eq_ok.mp h
  obtain ⟨els, hels, hfound⟩ := foldAttributes_eq_ok hfold
  rw [foldl_foldAttribute] at hfound
  obtain ⟨rfl, rfl⟩ := Prod.mk.inj hfound
  obtain rfl := Outcome.ok.inj hattrs
  exact ⟨els, hels, rfl, Outcome.ofOption_eq_ok.mp hdigest, rfl⟩

/-! ## Conformance -/

/-- The bytes that the signer signs: the attributes as a SET OF, or the content itself. -/
def signedBytes (L : Layout) : Bytes :=
  match L.signedAttributes with
  | some field => Der.encode Der.set field
  | none => L.content

/-- The anchor carries the name of the issuer of the certificate and a key of the kind that the
certificate was signed with, and the signature holds. -/
def SignedBy {S : SignatureSuite} (dsc : Certificate S) (a : TrustAnchor S) : Prop :=
  a.subject = dsc.issuer ∧ schemeMatchesKey a.key dsc.sigScheme = true ∧
    a.key.verify dsc.sigScheme dsc.signatureHash dsc.tbs dsc.signature = true

variable {S : SignatureSuite}

/-- EF.SOD, the data groups and the verdict are what RFC 5652 and ICAO 9303-10 say they are. -/
structure ConformsAs (sod : Bytes) (groups : List DataGroup) (anchors : List (TrustAnchor S))
    (result : PassiveAuth) (L : Layout) (digestAlgo : HashAlgo) (scheme : SigScheme)
    (dsc : Certificate S) : Prop where
  layout : layout sod = some L
  hashing : algoHash L.digestAlgorithm = .ok digestAlgo
  signing : ∃ pinned, parseSigAlg L.signatureAlgorithm = .ok (scheme, pinned) ∧
    ∀ hash, pinned = some hash → hash = digestAlgo
  /-- For every supplied data group the list gives one hash, and it is that of the group. -/
  listed : ∃ hashAlgorithm entries dataHash, hashList L.content = some (hashAlgorithm, entries) ∧
    algoHash hashAlgorithm = .ok dataHash ∧
    ∀ dg ∈ groups, entries.filter (fun entry => entry.1 == dg.number) =
      [(dg.number, S.digest dataHash dg.bytes)]
  /-- The message digest is that of the content. -/
  messageDigest : ∀ field els, L.signedAttributes = some field → Der.elements field = some els →
    attributeValues oidMessageDigest els ≠ [] ∧
    ∀ v ∈ attributeValues oidMessageDigest els,
      digestValue v = some (S.digest digestAlgo L.content)
  /-- The content type is that of the content. -/
  contentType : Der.oidArcs L.contentType = some oidLdsSecurityObject ∧
    ∀ field els, L.signedAttributes = some field → Der.elements field = some els →
      attributeValues oidContentType els ≠ [] ∧
      ∀ v ∈ attributeValues oidContentType els, typeValue v = Der.oidArcs L.contentType
  /-- The certificate is one that EF.SOD carries and the sid names. -/
  certificate : ∃ els sid tag contents, Der.elements L.certificates = some els ∧
    parseSid L.sid.1 L.sid.2 = .ok sid ∧ (tag, contents) ∈ els ∧
    Certificate.parse S (Der.encode Der.sequence contents) = .ok dsc ∧ sid.names S dsc = true
  /-- The signature that was checked is over the signed bytes, and it holds. -/
  checked : ∀ signed, SignedData.parse S sod = .ok signed →
    signedMessage S signed = .ok (signedBytes L)
  signature : schemeMatchesKey dsc.publicKey scheme = true ∧
    dsc.publicKey.verify scheme digestAlgo (signedBytes L) L.signature = true
  trust : result.chain.isTrusted = true ↔ ∃ a ∈ anchors, SignedBy dsc a
  /-- The order of the anchors does not matter, and more of them do no harm. -/
  order : ∀ anchors', (∀ a, a ∈ anchors' ↔ a ∈ anchors) → verify S sod groups anchors' = .ok result
  more : ∀ anchors', (∀ a ∈ anchors, a ∈ anchors') →
    ∃ result', verify S sod groups anchors' = .ok result' ∧
      (result.chain.isTrusted = true → result'.chain.isTrusted = true)

/-- The accepted EF.SOD conforms. -/
def Conforms (sod : Bytes) (groups : List DataGroup) (anchors : List (TrustAnchor S))
    (result : PassiveAuth) : Prop :=
  ∃ L digestAlgo scheme dsc, ConformsAs sod groups anchors result L digestAlgo scheme dsc

/-- The signed attributes do not disagree about the content, and are shorter than sixteen
megabytes. -/
def PlainAttributes (sod : Bytes) : Prop :=
  ∀ L field els, layout sod = some L → L.signedAttributes = some field →
    Der.elements field = some els →
    Agree digestValue (attributeValues oidMessageDigest els) ∧
    Agree typeValue (attributeValues oidContentType els) ∧ field.length < 2 ^ 24

/-- What acceptance says of the attributes: the last of each type is right, and their encoding by
`push_len` is what was checked. -/
lemma attributes_of_verified {sod message : Bytes} {signed : SignedData} {lds : LdsSecurityObject}
    {dsc : Certificate S} {L : Layout} (hsod : SodVerified sod signed lds dsc message)
    (hdescribes : Describes S L signed) {field : Bytes} (hfield : L.signedAttributes = some field) :
    ∃ els, Der.elements field = some els ∧
      (attributeValues oidMessageDigest els).getLast?.bind digestValue =
        some (S.digest signed.digestAlgo L.content) ∧
      (attributeValues oidContentType els).getLast?.bind typeValue = Der.oidArcs L.contentType ∧
      message = Der.set :: (pushLen field.length ++ field) := by
  obtain ⟨attrs, hattrs, hsigned⟩ := hdescribes.attributes field hfield
  obtain ⟨els, hels, hder, hdigest, htype⟩ := parseSignedAttrs_eq_ok hattrs
  have hmessage := hsod.checked
  rw [signedMessage, hsigned] at hmessage
  dsimp only at hmessage
  split at hmessage
  · simp at hmessage
  rename_i hright
  obtain ⟨hdigestRight, htypeRight⟩ := not_or.mp hright
  rw [not_not] at hdigestRight htypeRight
  refine ⟨els, hels, ?_, ?_, ?_⟩
  · rw [hdigest, hdigestRight, hdescribes.content]
  · rw [htype, htypeRight, hdescribes.contentType]
  · rw [← Outcome.ok.inj hmessage, hder]

/-- Plain attributes are checked as the SET OF that they are. -/
lemma message_eq_signedBytes {sod message : Bytes} {signed : SignedData} {lds : LdsSecurityObject}
    {dsc : Certificate S} {L : Layout} (hsod : SodVerified sod signed lds dsc message)
    (hdescribes : Describes S L signed)
    (hshort : ∀ field, L.signedAttributes = some field → field.length < 2 ^ 24) :
    message = signedBytes L := by
  unfold signedBytes
  cases hfield : L.signedAttributes with
  | none =>
    have hmessage := hsod.checked
    rw [signedMessage, hdescribes.unsigned hfield] at hmessage
    rw [← Outcome.ok.inj hmessage, ← hdescribes.content]
  | some field =>
    obtain ⟨els, -, -, -, hmessage⟩ := attributes_of_verified hsod hdescribes hfield
    rw [hmessage, pushLen_eq (hshort field hfield)]
    rfl

/-- Where the attributes disagree with the content, or are too long, EF.SOD does not conform. -/
lemma plain_of_conforms {sod message : Bytes} {groups : List DataGroup}
    {anchors : List (TrustAnchor S)} {result : PassiveAuth} {signed : SignedData}
    {lds : LdsSecurityObject} {dsc : Certificate S} (hsod : SodVerified sod signed lds dsc message)
    (h : Conforms sod groups anchors result) : PlainAttributes sod := by
  obtain ⟨L, digestAlgo, scheme, dsc', hconforms⟩ := h
  obtain ⟨L', hlayout, hdescribes⟩ := exists_layout hsod.parsed
  obtain rfl := Option.some.inj (hconforms.layout.symm.trans hlayout)
  intro L' field els hlayout' hfield hels
  obtain rfl := Option.some.inj (hlayout.symm.trans hlayout')
  obtain ⟨els', -, -, -, hmessage⟩ := attributes_of_verified hsod hdescribes hfield
  refine ⟨agree_of_all (hconforms.messageDigest field els hfield hels).2,
    agree_of_all (hconforms.contentType.2 field els hfield hels).2, ?_⟩
  by_contra hlong
  have hchecked := Outcome.ok.inj (hsod.checked.symm.trans (hconforms.checked signed hsod.parsed))
  rw [hmessage, signedBytes, hfield] at hchecked
  have hoctets := List.append_cancel_right (List.cons.inj hchecked).2
  exact pushLen_ne (not_lt.mp hlong) hoctets

/-- **Passive authentication conforms**, exactly where the signed attributes are plain. -/
theorem verify_conforms_iff {sod : Bytes} {groups : List DataGroup} {anchors : List (TrustAnchor S)}
    {result : PassiveAuth} (h : verify S sod groups anchors = .ok result) :
    Conforms sod groups anchors result ↔ PlainAttributes sod := by
  obtain ⟨hgroups, signed, lds, dsc, message, hsod, hall, rfl⟩ := verify_eq_ok.mp h
  refine ⟨plain_of_conforms hsod, fun hplain => ?_⟩
  obtain ⟨L, hlayout, hdescribes⟩ := exists_layout hsod.parsed
  obtain ⟨hashAlgorithm, entries, hlist, hdataHash, hentries⟩ :=
    securityObject_eq_ok hsod.securityObject
  obtain ⟨pinned, hscheme, hpinned, hsignatureHash⟩ := hdescribes.signatureAlgo
  obtain ⟨els, sid, tag, contents, cert, hels, hsid, hmem, hsignerCert, hcert, hnames⟩ :=
    hdescribes.certificate
  obtain rfl := Outcome.ok.inj (hcert.symm.trans hsod.certificate)
  have htype : Der.oidArcs L.contentType = some oidLdsSecurityObject := by
    rw [hdescribes.contentType, hsod.contentType]
  have hshort : ∀ field, L.signedAttributes = some field → field.length < 2 ^ 24 := by
    intro field hfield
    obtain ⟨els, hels, -⟩ := attributes_of_verified hsod hdescribes hfield
    exact (hplain L field els hlayout hfield hels).2.2
  have hmessage := message_eq_signedBytes hsod hdescribes hshort
  refine ⟨L, signed.digestAlgo, signed.sigScheme, cert, {
    layout := hlayout
    hashing := hdescribes.digestAlgo
    signing := ⟨pinned, hscheme, hpinned⟩
    listed := ⟨hashAlgorithm, entries, lds.hashAlgo, by rw [hdescribes.content, hlist], hdataHash,
      fun dg hdg => hentries _ _ (hall dg hdg)⟩
    messageDigest := fun field els hfield hels => ?_
    contentType := ⟨htype, fun field els hfield hels => ?_⟩
    certificate := ⟨els, sid, tag, contents, hels, hsid, hmem, hsignerCert ▸ hcert, hnames⟩
    checked := fun signed' hsigned' => ?_
    signature := ?_
    trust := ?_
    order := fun anchors' hsame => ?_
    more := fun anchors' hmore => ?_ }⟩
  · obtain ⟨els', hels', hdigest, -⟩ := attributes_of_verified hsod hdescribes hfield
    obtain rfl := Option.some.inj (hels.symm.trans hels')
    exact all_of_agree hdigest (hplain L field els hlayout hfield hels).1
  · obtain ⟨els', hels', -, hcontent, -⟩ := attributes_of_verified hsod hdescribes hfield
    obtain rfl := Option.some.inj (hels.symm.trans hels')
    rw [htype] at hcontent ⊢
    exact all_of_agree hcontent (hplain L field els hlayout hfield hels).2.1
  · obtain rfl := Outcome.ok.inj (hsigned'.symm.trans hsod.parsed)
    rw [← hmessage]
    exact hsod.checked
  · rw [← hmessage, hdescribes.signature, ← hsignatureHash]
    exact ⟨hsod.scheme, hsod.signature⟩
  · rw [isTrusted_chainStatus]
    refine exists_congr fun a => and_congr_right fun _ => ?_
    rw [TrustAnchor.signed, Bool.and_eq_true, Bool.and_eq_true, beq_iff_eq, and_assoc]
    rfl
  · refine verify_eq_ok.mpr ⟨hgroups, signed, lds, cert, message, hsod, hall, ?_⟩
    rw [chainStatus_congr hsame]
  · exact ⟨_, verify_eq_ok.mpr ⟨hgroups, signed, lds, cert, message, hsod, hall, rfl⟩,
      fun htrusted => isTrusted_mono hmore htrusted⟩

/-! ## A document and a forged attribute -/

/-- Hashes and signature checks as they were recorded, for SHA-256 and the curve P-256. -/
structure SuiteRecording where
  digests : List (Bytes × Bytes)
  /-- Points, messages and signatures that hold. -/
  signatures : List (Bytes × Bytes × Bytes)
  /-- Points, digests and signatures that hold. -/
  prehashed : List (Bytes × Bytes × Bytes)

/-- The object identifier of the curve P-256. -/
def oidP256 : Bytes := Der.encode Der.oid [0x2a, 0x86, 0x48, 0xce, 0x3d, 0x03, 0x01, 0x07]

/-- A suite that answers as recorded, and refuses everything else. -/
def SuiteRecording.suite (r : SuiteRecording) : SignatureSuite where
  digest algo data := if algo = .sha256 then (r.digests.lookup data).getD [] else []
  RsaPublicKey := Unit
  fromPkcs1Der _ := none
  rawPublic _ _ := none
  verifyPss _ _ _ _ _ _ := false
  verifyPkcs1v15 _ _ _ _ := false
  Curve := Unit
  fromParams params := if params = oidP256 then some () else none
  fieldLen _ := 32
  takesCompressedPoints _ := true
  verifyEc _ point hash message signature :=
    decide (hash = .sha256) && r.signatures.contains (point, message, signature)
  P256Key := Bytes
  p256FromSec1 := some
  P256Signature := Bytes
  p256Signature := some
  verifyPrehash point digest signature := r.prehashed.contains (point, digest, signature)

/-- A name of a country and a common name. -/
def nameOf (commonName : Bytes) : Bytes :=
  Der.encode Der.set (Der.encode Der.sequence
    (Der.encode Der.oid [0x55, 0x04, 0x06] ++ Der.encode 0x13 [0x55, 0x54])) ++
  Der.encode Der.set (Der.encode Der.sequence
    (Der.encode Der.oid [0x55, 0x04, 0x03] ++ Der.encode 0x0c commonName))

/-- The name `CSCA`. -/
def cscaName : Bytes := nameOf [0x43, 0x53, 0x43, 0x41]

/-- The identifier of SHA-256. -/
def sha256Algorithm : Bytes :=
  Der.encode Der.sequence (Der.encode Der.oid [0x60, 0x86, 0x48, 0x01, 0x65, 0x03, 0x04, 0x02, 0x01])

/-- The identifier of ECDSA with SHA-256. -/
def ecdsaAlgorithm : Bytes :=
  Der.encode Der.sequence (Der.encode Der.oid [0x2a, 0x86, 0x48, 0xce, 0x3d, 0x04, 0x03, 0x02])

/-- The SubjectPublicKeyInfo of a point of P-256. -/
def publicKeyInfo (point : Bytes) : Bytes :=
  Der.encode Der.sequence (Der.encode Der.sequence
    (Der.encode Der.oid [0x2a, 0x86, 0x48, 0xce, 0x3d, 0x02, 0x01] ++ oidP256) ++
    Der.encode Der.bitString (0 :: point))

/-- The point of the country's key. -/
def cscaPoint : Bytes := toBE 65
  0x04074b1a2a478a977597a9756a93d7b299793c7feeb013a887be690badb025cbfb59f2e6872bc127728c801e7f1b31ec23fdf1698cbc408246290c4ecc0db21679

/-- The point of the Document Signer's key. -/
def signerPoint : Bytes := toBE 65
  0x04af20d56aca2c08b9f161376510eb6df3f8bce28d24bdf9dbd72e640bc97dd12eca6145abc7bc1222b55bcf859a605be487ecf31f90fe101a81864775c5a7c27c

/-- The point of the chip's key. -/
def chipPoint : Bytes := toBE 65
  0x040b8c819390550d9380abaf31f54b52a12942b9e298c28a8d762b449e2ea8e98fd0199a2b9845f7d8e57e5cbd4d6c00a79d57b6ef26221c9f8d2c12c39aed0baf

/-- The to-be-signed part of the Document Signer's certificate. -/
def signerTbs : Bytes :=
  Der.encode Der.sequence (Der.encode 0xA0 [0x02, 0x01, 0x02] ++ [0x02, 0x01, 0x01] ++
    ecdsaAlgorithm ++ Der.encode Der.sequence cscaName ++
    Der.encode Der.sequence
      ([0x17, 0x0d] ++ toBE 13 0x3236303130313030303030305a ++
        [0x17, 0x0d] ++ toBE 13 0x3336303130313030303030305a) ++
    Der.encode Der.sequence (nameOf [0x44, 0x53]) ++ publicKeyInfo signerPoint)

/-- The country's signature over it. -/
def signerTbsSignature : Bytes := toBE 70
  0x304402207279feac5822d0f600b818dac50c51e7bbc7fcb77ee62fd9378b5d093edd938a02204af7c0fa3c5e9f687fb391318410a3f54026cd13662e7f71f64bb7dcf1fa200e

/-- The Document Signer's certificate. -/
def signerCertificate : Bytes :=
  Der.encode Der.sequence
    (signerTbs ++ ecdsaAlgorithm ++ Der.encode Der.bitString (0 :: signerTbsSignature))

/-- An EF.DG1. -/
def sampleDg1 : Bytes := Der.encode 0x61 ([0x5f, 0x1f, 0x58] ++
  toBE 44 0x503c55544f4552494b53534f4e3c3c414e4e413c4d415249413c3c3c3c3c3c3c3c3c3c3c3c3c3c3c3c3c3c3c ++
  toBE 44 0x4c38393839303243333655544f3734303831323246333230343135335a45313834323236423c3c3c3c3c3136)

/-- An EF.DG15. -/
def sampleDg15 : Bytes := Der.encode 0x6F (publicKeyInfo chipPoint)

/-- The hash of `sampleDg1`. -/
def dg1Hash : Bytes := toBE 32 0x3d099491395afe455889a377708b354c5f5b17f6aa14b3350920e887f32a3b9d

/-- The hash of `sampleDg15`. -/
def dg15Hash : Bytes := toBE 32 0xbf1ad34b3b90cf41e819a0ec7dcb509181c68720e8e50e66b0950acfccf7a8c6

/-- The security object over the two files. -/
def sampleObject : Bytes :=
  Der.encode Der.sequence ([0x02, 0x01, 0x00] ++ sha256Algorithm ++ Der.encode Der.sequence
    (Der.encode Der.sequence ([0x02, 0x01, 0x01] ++ Der.encode Der.octetString dg1Hash) ++
      Der.encode Der.sequence ([0x02, 0x01, 0x0f] ++ Der.encode Der.octetString dg15Hash)))

/-- The hash of `sampleObject`. -/
def objectHash : Bytes := toBE 32 0x3807848b48b13d9ee78f1c7df8b48b310b645a7b7f95240ae376a5b34957ee16

/-- The object identifier of a security object. -/
def objectType : Bytes := Der.encode Der.oid [0x67, 0x81, 0x08, 0x01, 0x01, 0x01]

/-- The content-type attribute. -/
def typeAttribute : Bytes :=
  Der.encode Der.sequence
    (Der.encode Der.oid [0x2a, 0x86, 0x48, 0x86, 0xf7, 0x0d, 0x01, 0x09, 0x03] ++
      Der.encode Der.set objectType)

/-- A message-digest attribute. -/
def digestAttribute (digest : Bytes) : Bytes :=
  Der.encode Der.sequence
    (Der.encode Der.oid [0x2a, 0x86, 0x48, 0x86, 0xf7, 0x0d, 0x01, 0x09, 0x04] ++
      Der.encode Der.set (Der.encode Der.octetString digest))

/-- An EF.SOD with these signed attributes and this signature. -/
def sampleSod (attributes signature : Bytes) : Bytes :=
  Der.encode 0x77 (Der.encode Der.sequence
    (Der.encode Der.oid [0x2a, 0x86, 0x48, 0x86, 0xf7, 0x0d, 0x01, 0x07, 0x02] ++
      Der.encode 0xA0 (Der.encode Der.sequence ([0x02, 0x01, 0x03] ++
        Der.encode Der.set sha256Algorithm ++
        Der.encode Der.sequence (objectType ++
          Der.encode 0xA0 (Der.encode Der.octetString sampleObject)) ++
        Der.encode 0xA0 signerCertificate ++
        Der.encode Der.set (Der.encode Der.sequence ([0x02, 0x01, 0x01] ++
          Der.encode Der.sequence (Der.encode Der.sequence cscaName ++ [0x02, 0x01, 0x01]) ++
          sha256Algorithm ++ Der.encode 0xA0 attributes ++ ecdsaAlgorithm ++
          Der.encode Der.octetString signature))))))

/-- Attributes as they should be. -/
def plainAttributes : Bytes := typeAttribute ++ digestAttribute objectHash

/-- The Document Signer's signature over them. -/
def plainSignature : Bytes := toBE 70
  0x304402205401df9fc7e3b6a4f4b73f7d50437f6bf2e4ac8ce24485ac15c7ee27501f6e8702204948db970fe35259ae6c51bd52a8a9c67dd8e4103fbda217153a871b12d458d2

/-- Attributes with a second message digest, which is not that of the content. -/
def twoDigests : Bytes :=
  typeAttribute ++ digestAttribute (List.replicate 32 0) ++ digestAttribute objectHash

/-- The Document Signer's signature over them. -/
def twoDigestsSignature : Bytes := toBE 72
  0x3046022100f2c2d0dc3feba454d751b3f2eb55f776cd874238178eb9144319cd52f2ceb04b022100fffedf1e182abb768b71ef44dac520434c42ba0d78709423d0191fcf84755923

/-- What was recorded of the two documents. -/
def sodRecording : SuiteRecording where
  digests := [(sampleDg1, dg1Hash), (sampleDg15, dg15Hash), (sampleObject, objectHash)]
  signatures := [
    (cscaPoint, signerTbs, signerTbsSignature),
    (signerPoint, Der.encode Der.set plainAttributes, plainSignature),
    (signerPoint, Der.encode Der.set twoDigests, twoDigestsSignature)]
  prehashed := []

/-- The country's key as a trust anchor. -/
def cscaAnchor : TrustAnchor sodRecording.suite := ⟨cscaName, .ec () cscaPoint⟩

/-- Where the attributes are known, to be plain is a matter of them alone. -/
lemma plainAttributes_iff {sod field : Bytes} {els : List (UInt8 × Bytes)}
    (hfield : (layout sod).map Layout.signedAttributes = some (some field))
    (hels : Der.elements field = some els) :
    PlainAttributes sod ↔ Agree digestValue (attributeValues oidMessageDigest els) ∧
      Agree typeValue (attributeValues oidContentType els) ∧ field.length < 2 ^ 24 := by
  obtain ⟨L, hlayout, hattributes⟩ := Option.map_eq_some_iff.mp hfield
  refine ⟨fun h => h L field els hlayout hattributes hels, fun h => ?_⟩
  intro L' field' els' hlayout' hfield' hels'
  obtain rfl := Option.some.inj (hlayout.symm.trans hlayout')
  obtain rfl := Option.some.inj (hattributes.symm.trans hfield')
  obtain rfl := Option.some.inj (hels.symm.trans hels')
  exact h

/-- The elements of a list of attributes, by their contents. -/
def attributeElements (attributes : List Bytes) : List (UInt8 × Bytes) :=
  attributes.map fun encoded => (Der.sequence, encoded.drop 2)

/-- What follows the type of a message-digest attribute. -/
def digestSet (digest : Bytes) : Bytes := Der.encode Der.set (Der.encode Der.octetString digest)

/-- The document as it should be is accepted, and conforms. -/
theorem verify_conforms_sample :
    verify sodRecording.suite (sampleSod plainAttributes plainSignature) [⟨1, sampleDg1⟩]
      [cscaAnchor] = .ok ⟨[1], [1, 15], .trusted cscaName⟩ ∧
    Conforms (sampleSod plainAttributes plainSignature) [⟨1, sampleDg1⟩] [cscaAnchor]
      ⟨[1], [1, 15], .trusted cscaName⟩ := by
  have haccepted : verify sodRecording.suite (sampleSod plainAttributes plainSignature)
      [⟨1, sampleDg1⟩] [cscaAnchor] = .ok ⟨[1], [1, 15], .trusted cscaName⟩ := by decide +kernel
  have hfield : (layout (sampleSod plainAttributes plainSignature)).map Layout.signedAttributes =
      some (some plainAttributes) := by decide +kernel
  have hels : Der.elements plainAttributes =
      some (attributeElements [typeAttribute, digestAttribute objectHash]) := by decide +kernel
  have hplain : PlainAttributes (sampleSod plainAttributes plainSignature) := by
    rw [plainAttributes_iff hfield hels]
    have hdigests : attributeValues oidMessageDigest
        (attributeElements [typeAttribute, digestAttribute objectHash]) = [digestSet objectHash] := by
      decide +kernel
    have htypes : attributeValues oidContentType
        (attributeElements [typeAttribute, digestAttribute objectHash]) =
          [Der.encode Der.set objectType] := by
      decide +kernel
    rw [hdigests, htypes]
    refine ⟨?_, ?_, by decide +kernel⟩ <;> simp [Agree]
  exact ⟨haccepted, (verify_conforms_iff haccepted).mpr hplain⟩

/-- A document whose first message digest is not that of the content is accepted, though it does not
conform. -/
theorem verify_accepts_two_digests :
    verify sodRecording.suite (sampleSod twoDigests twoDigestsSignature) [⟨1, sampleDg1⟩]
      [cscaAnchor] = .ok ⟨[1], [1, 15], .trusted cscaName⟩ ∧
    ¬ Conforms (sampleSod twoDigests twoDigestsSignature) [⟨1, sampleDg1⟩] [cscaAnchor]
      ⟨[1], [1, 15], .trusted cscaName⟩ := by
  have haccepted : verify sodRecording.suite (sampleSod twoDigests twoDigestsSignature)
      [⟨1, sampleDg1⟩] [cscaAnchor] = .ok ⟨[1], [1, 15], .trusted cscaName⟩ := by decide +kernel
  refine ⟨haccepted, fun hconforms => ?_⟩
  obtain ⟨-, signed, lds, dsc, message, hsod, -, -⟩ := verify_eq_ok.mp haccepted
  have hfield : (layout (sampleSod twoDigests twoDigestsSignature)).map Layout.signedAttributes =
      some (some twoDigests) := by decide +kernel
  have hels : Der.elements twoDigests = some (attributeElements
      [typeAttribute, digestAttribute (List.replicate 32 0), digestAttribute objectHash]) := by
    decide +kernel
  have hplain := (plainAttributes_iff hfield hels).mp (plain_of_conforms hsod hconforms)
  have hdigests : attributeValues oidMessageDigest (attributeElements
      [typeAttribute, digestAttribute (List.replicate 32 0), digestAttribute objectHash]) =
        [digestSet (List.replicate 32 0), digestSet objectHash] := by
    decide +kernel
  rw [hdigests] at hplain
  have hsame : digestValue (digestSet (List.replicate 32 0)) = digestValue (digestSet objectHash) :=
    hplain.1 _ (by simp) _ (by simp)
  exact absurd hsame (by decide +kernel)

end Passive

end Dmrtd
