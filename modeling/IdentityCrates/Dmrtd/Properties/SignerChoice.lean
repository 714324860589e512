import IdentityCrates.Dmrtd.Properties.DerStrictness
import IdentityCrates.Dmrtd.Properties.SodConformance

/-!
# Which certificate, and which attribute

Two fields of a SignedData are lists from which one entry counts: the certificates, of which the sid
names one, and the signed attributes, of which one holds the message digest and one the content type.  This module says for each list which entry the code takes, and when that is the
entry it has to take.

`select_dsc` reads the certificates one after the other and fails with the first that it cannot
read.  The certificate that the sid names is found exactly if the entries that come before it are
all certificates the code can read (`selectDsc_finds_iff`): one key of an unknown type in front of
it is enough to lose it.

`parse_signed_attrs` overwrites what it has found with every further attribute of the same type, so
it takes the last one, and a content type that it cannot read counts as absent.  The data group
numbers of the same file are checked for repetitions; the attributes are not.
`parseSignedAttrs_unique_iff` says for which fields the difference is visible.
-/

namespace Dmrtd

open Rust Octets

namespace Passive

/-! ## Certificates -/

section Certificates

variable (S : SignatureSuite)

/-- The bytes are a certificate that the code can read, and the sid names it. -/
def Names (sid : SignerId) (der : Bytes) : Prop :=
  ∃ cert, Certificate.parse S der = .ok cert ∧ sid.names S cert = true

variable {S}

/-- The first certificate that the sid names is taken, if all before it can be read. -/
lemma selectDsc_eq_ok_iff {certs : List Bytes} {sid : SignerId} {der : Bytes} :
    selectDsc S certs sid = .ok der ↔ ∃ before after, certs = before ++ der :: after ∧
      (∀ b ∈ before, (∃ cert, Certificate.parse S b = .ok cert) ∧ ¬ Names S sid b) ∧
      Names S sid der := by
  induction certs with
  | nil => simp [selectDsc]
  | cons first certs ih =>
    constructor
    · intro h
      obtain ⟨parsed, hparsed, h⟩ := Outcome.bind_eq_ok.mp h
      split at h
      · rename_i hnames
        obtain rfl := Outcome.ok.inj h
        exact ⟨[], certs, rfl, by simp, parsed, hparsed, hnames⟩
      · rename_i hother
        obtain ⟨before, after, rfl, hbefore, hder⟩ := ih.mp h
        refine ⟨first :: before, after, rfl, List.forall_mem_cons.mpr ⟨⟨⟨parsed, hparsed⟩, ?_⟩,
          hbefore⟩, hder⟩
        rintro ⟨cert, hcert, hnames⟩
        obtain rfl := Outcome.ok.inj (hparsed.symm.trans hcert)
        exact hother hnames
    · rintro ⟨before, after, hsplit, hbefore, hder⟩
      rcases before with _ | ⟨b, before⟩
      · obtain ⟨rfl, rfl⟩ := List.cons.inj hsplit
        obtain ⟨cert, hcert, hnames⟩ := hder
        rw [selectDsc, hcert]
        exact if_pos hnames
      · obtain ⟨rfl, rfl⟩ := List.cons.inj hsplit
        obtain ⟨⟨⟨cert, hcert⟩, hother⟩, hbefore⟩ := List.forall_mem_cons.mp hbefore
        rw [selectDsc, hcert]
        refine (if_neg fun hnames => hother ⟨cert, hcert, hnames⟩).trans ?_
        exact ih.mpr ⟨before, after, rfl, hbefore, hder⟩

/-- A certificate is a SEQUENCE. -/
lemma tag_of_names {sid : SignerId} {tag : UInt8} {contents : Bytes}
    (h : Names S sid (Der.encode tag contents)) : tag = Der.sequence := by
  obtain ⟨cert, hcert, -⟩ := h
  obtain ⟨body, hbody, -⟩ := Outcome.bind_eq_ok.mp hcert
  have hnext := Der.expect_eq_some.mp (Outcome.ofOption_eq_ok.mp hbody)
  obtain ⟨hbytes, -⟩ := Der.next_eq_some.mp hnext
  exact (List.cons.inj hbytes).1

/-- A certificate that can be read after it has been wrapped again is wrapped as it was. -/
lemma rewrapped_of_names {sid : SignerId} {e : UInt8 × Bytes}
    (h : Names S sid (Der.encode e.1 e.2))
    (hread : ∃ cert, Certificate.parse S (rewrapped e) = .ok cert) :
    rewrapped e = Der.encode e.1 e.2 := by
  obtain ⟨cert, hcert⟩ := hread
  rw [tag_of_names h, rewrapped]
  exact encode_of_parse hcert

/-- Where the first entry that the sid names comes back, nothing before it is in the way. -/
lemma reached_of_split {sid : SignerId} {els before' after' : List Bytes} {der : Bytes}
    (hsplit : els = before' ++ der :: after') (hder : Names S sid der)
    (hbefore' : ∀ b ∈ before', (∃ cert, Certificate.parse S b = .ok cert) ∧ ¬ Names S sid b)
    {before after : List Bytes} {d : Bytes} (hd : els = before ++ d :: after)
    (hbefore : ∀ b ∈ before, ¬ Names S sid b) :
    (∃ cert, Certificate.parse S d = .ok cert) ∧ (Names S sid d → d = der) := by
  have hall := hsplit.symm.trans hd
  rcases List.append_eq_append_iff.mp hall with ⟨mid, hmid, htail⟩ | ⟨mid, hmid, htail⟩
  · rcases mid with _ | ⟨m, mid⟩
    · obtain ⟨rfl, -⟩ := List.cons.inj htail
      exact ⟨hder.imp fun cert hcert => hcert.1, fun _ => rfl⟩
    · obtain ⟨rfl, -⟩ := List.cons.inj htail
      exact absurd hder (hbefore der (by simp [hmid]))
  · rcases mid with _ | ⟨m, mid⟩
    · obtain ⟨rfl, -⟩ := List.cons.inj htail
      exact ⟨hder.imp fun cert hcert => hcert.1, fun _ => rfl⟩
    · obtain ⟨rfl, -⟩ := List.cons.inj htail
      obtain ⟨hread, hother⟩ := hbefore' d (by simp [hmid])
      exact ⟨hread, fun hnames => absurd hnames hother⟩

/-- The first of the entries that have a property. -/
lemma exists_first {α : Type} {P : α → Prop} {xs : List α} (h : ∃ x ∈ xs, P x) :
    ∃ before x after, xs = before ++ x :: after ∧ P x ∧ ∀ b ∈ before, ¬ P b := by
  classical
  have hfound : (xs.find? fun x => decide (P x)).isSome := by
    simpa [List.find?_isSome] using h
  obtain ⟨x, hx⟩ := Option.isSome_iff_exists.mp hfound
  obtain ⟨hP, before, after, hsplit, hbefore⟩ := List.find?_eq_some_iff_append.mp hx
  exact ⟨before, x, after, hsplit, by simpa using hP, by simpa using hbefore⟩

/-- The certificate that the sid names is found, exactly if every entry up to the first one that the
sid names can be read as a certificate, and that entry is the certificate.  The entries are taken for
SEQUENCEs here, as they are wrapped again. -/
theorem selectDsc_finds_iff {field : Bytes} {els : List (UInt8 × Bytes)} (sid : SignerId)
    (hels : Der.elements field = some els) :
    (∀ e ∈ els, Names S sid (Der.encode e.1 e.2) → ∃ certs, collectCertificates field = .ok certs ∧
      selectDsc S certs sid = .ok (Der.encode e.1 e.2)) ↔
    ∀ e ∈ els, Names S sid (Der.encode e.1 e.2) → ∀ before d after, els = before ++ d :: after →
      (∀ b ∈ before, ¬ Names S sid (rewrapped b)) →
      (∃ cert, Certificate.parse S (rewrapped d) = .ok cert) ∧
        (Names S sid (rewrapped d) → rewrapped d = Der.encode e.1 e.2) := by
  have hcollected := collectCertificates_of_elements hels
  refine forall₂_congr fun e he => forall_congr' fun hnames => ?_
  constructor
  · rintro ⟨certs, hcerts, hselect⟩ before d after hd hbefore
    obtain rfl := Outcome.ok.inj (hcollected.symm.trans hcerts)
    obtain ⟨before', after', hsplit, hbefore', hder⟩ := selectDsc_eq_ok_iff.mp hselect
    have hd' : els.map rewrapped = before.map rewrapped ++ rewrapped d :: after.map rewrapped := by
      rw [hd, List.map_append, List.map_cons]
    refine reached_of_split hsplit hder hbefore' hd' fun b hb => ?_
    obtain ⟨entry, hentry, rfl⟩ := List.mem_map.mp hb
    exact hbefore entry hentry
  · intro h
    refine ⟨els.map rewrapped, hcollected, selectDsc_eq_ok_iff.mpr ?_⟩
    -- if the sid named no entry, the condition would reach `e`, which it names
    have hsome : ∃ d ∈ els, Names S sid (rewrapped d) := by
      by_contra hnone
      push Not at hnone
      obtain ⟨before, after, hsplit⟩ := List.append_of_mem he
      have hreached := h before e after hsplit fun b hb =>
        hnone b (hsplit ▸ List.mem_append_left _ hb)
      exact hnone e he (rewrapped_of_names hnames hreached.1 ▸ hnames)
    obtain ⟨before, d, after, hsplit, hd, hbefore⟩ := exists_first hsome
    have hreached := h before d after hsplit hbefore
    refine ⟨before.map rewrapped, after.map rewrapped, ?_, fun b hb => ?_, hnames⟩
    · rw [hsplit, List.map_append, List.map_cons, hreached.2 hd]
    · obtain ⟨entry, hentry, rfl⟩ := List.mem_map.mp hb
      obtain ⟨front, back, hfront⟩ := List.append_of_mem hentry
      refine ⟨(h front entry (back ++ d :: after) ?_ fun b hb => ?_).1, hbefore entry hentry⟩
      · rw [hsplit, hfront, List.append_assoc, List.cons_append]
      · exact hbefore b (hfront ▸ List.mem_append_left _ hb)

end Certificates

/-- The sid of the sample document. -/
def sampleSid : SignerId := .issuerAndSerial cscaName [1]

/-- The contents of the sample certificate. -/
def signerBody : Bytes :=
  signerTbs ++ ecdsaAlgorithm ++ Der.encode Der.bitString (0 :: signerTbsSignature)

lemma names_signerCertificate :
    Names sodRecording.suite sampleSid (Der.encode Der.sequence signerBody) := by
  have hselect : selectDsc sodRecording.suite [Der.encode Der.sequence signerBody] sampleSid =
      .ok (Der.encode Der.sequence signerBody) := by decide +kernel
  obtain ⟨before, after, -, -, hnames⟩ := (selectDsc_eq_ok_iff).mp hselect
  exact hnames

/-- The certificate in front of an entry that the code cannot read. -/
theorem selectDsc_finds_sample :
    ∃ certs, collectCertificates (Der.encode Der.sequence signerBody ++ [0x30, 0]) = .ok certs ∧
      selectDsc sodRecording.suite certs sampleSid = .ok (Der.encode Der.sequence signerBody) := by
  have hels : Der.elements (Der.encode Der.sequence signerBody ++ [0x30, 0]) =
      some [(Der.sequence, signerBody), (Der.sequence, [])] := by decide +kernel
  have hsame : rewrapped (Der.sequence, signerBody) = Der.encode Der.sequence signerBody := by
    decide +kernel
  have hempty : ¬ Names sodRecording.suite sampleSid (Der.encode Der.sequence []) := by
    rintro ⟨cert, hcert, -⟩
    have herr : Certificate.parse sodRecording.suite (Der.encode Der.sequence []) =
        .err .malformedCertificate := rfl
    exact absurd (herr.symm.trans hcert) (by simp)
  refine (selectDsc_finds_iff sampleSid hels).mpr ?_ (Der.sequence, signerBody) (by simp)
    names_signerCertificate
  intro e he hnames before d after hsplit hbefore
  obtain rfl : e = (Der.sequence, signerBody) := by
    rcases List.mem_cons.mp he with rfl | he
    · rfl
    · obtain rfl := List.mem_singleton.mp he
      exact absurd hnames hempty
  rcases before with _ | ⟨b, before⟩
  · obtain ⟨rfl, -⟩ := List.cons.inj hsplit
    rw [hsame]
    exact ⟨hnames.imp fun cert hcert => hcert.1, fun _ => rfl⟩
  · obtain ⟨rfl, -⟩ := List.cons.inj hsplit
    exact absurd (hsame ▸ hnames) (hbefore _ List.mem_cons_self)

/-- The same two entries the other way round: the certificate is lost. -/
theorem selectDsc_stops_before_certificate :
    Names sodRecording.suite sampleSid (Der.encode Der.sequence signerBody) ∧
    collectCertificates ([0x30, 0] ++ Der.encode Der.sequence signerBody) =
      .ok [[0x30, 0], Der.encode Der.sequence signerBody] ∧
    selectDsc sodRecording.suite [[0x30, 0], Der.encode Der.sequence signerBody] sampleSid =
      .err .malformedCertificate := by
  have hels : Der.elements ([0x30, 0] ++ Der.encode Der.sequence signerBody) =
      some [(Der.sequence, []), (Der.sequence, signerBody)] := by decide +kernel
  have hrewrapped : [(Der.sequence, []), (Der.sequence, signerBody)].map rewrapped =
      [[0x30, 0], Der.encode Der.sequence signerBody] := by decide +kernel
  refine ⟨names_signerCertificate, ?_, rfl⟩
  rw [collectCertificates_of_elements hels, hrewrapped]

/-! ## Attributes -/

/-- What follows the type of the attribute is a SET of one value. -/
def OneValue (after : Bytes) : Prop :=
  ∃ values tag value, Der.expect after Der.set = some values ∧
    Der.elements values = some [(tag, value)]

/-- The attributes hold one message digest and at most one content type, each with one value. -/
structure UniqueAttributes (els : List (UInt8 × Bytes)) : Prop where
  digest : ∃ after, attributeValues oidMessageDigest els = [after] ∧ OneValue after
  contentType : attributeValues oidContentType els = [] ∨
    ∃ after, attributeValues oidContentType els = [after] ∧ OneValue after

/-- A message digest that can be read is one value. -/
lemma oneValue_of_digestValue {after digest : Bytes} (h : digestValue after = some digest) :
    OneValue after := by
  obtain ⟨values, hset, hvalue⟩ := Option.bind_eq_some_iff.mp h
  have hnext := Der.expect_eq_some.mp hvalue
  refine ⟨values, Der.octetString, digest, hset, ?_⟩
  rw [Der.elements_of_next hnext, Der.elements_nil]
  rfl

/-- A field of signed attributes is accepted if its last message digest can be read. -/
lemma parseSignedAttrs_isOk_iff {field : Bytes} :
    (∃ attrs, parseSignedAttrs field = .ok attrs) ↔ ∃ els last digest,
      Der.elements field = some els ∧ (attributeValues oidMessageDigest els).getLast? = some last ∧
      digestValue last = some digest := by
  constructor
  · rintro ⟨attrs, hattrs⟩
    obtain ⟨els, hels, -, hdigest, -⟩ := parseSignedAttrs_eq_ok hattrs
    obtain ⟨last, hlast, hvalue⟩ := Option.bind_eq_some_iff.mp hdigest
    exact ⟨els, last, attrs.messageDigest, hels, hlast, hvalue⟩
  · rintro ⟨els, last, digest, hels, hlast, hvalue⟩
    rw [parseSignedAttrs, foldAttributes_of_elements hels, foldl_foldAttribute, hlast,
      Option.bind_some, hvalue]
    exact ⟨_, rfl⟩

/-- Signed attributes that are accepted hold what they should once, exactly if a field whose last
message digest can be read holds no other message digest, no second content type, and no content
type without one value. -/
theorem parseSignedAttrs_unique_iff (field : Bytes) :
    (∀ attrs, parseSignedAttrs field = .ok attrs →
      ∃ els, Der.elements field = some els ∧ UniqueAttributes els) ↔
    ∀ els last digest, Der.elements field = some els →
      (attributeValues oidMessageDigest els).getLast? = some last →
      (∃ values, Der.expect last Der.set = some values ∧
        Der.expect values Der.octetString = some digest) →
      (attributeValues oidMessageDigest els).length = 1 ∧
      (attributeValues oidContentType els).length ≤ 1 ∧
      ∀ after ∈ attributeValues oidContentType els, OneValue after := by
  constructor
  · intro h els last digest hels hlast hread
    obtain ⟨attrs, hattrs⟩ := parseSignedAttrs_isOk_iff.mpr
      ⟨els, last, digest, hels, hlast, Option.bind_eq_some_iff.mpr hread⟩
    obtain ⟨els', hels', hunique⟩ := h attrs hattrs
    obtain rfl := Option.some.inj (hels.symm.trans hels')
    obtain ⟨after, hdigests, -⟩ := hunique.digest
    refine ⟨by rw [hdigests, List.length_singleton], ?_⟩
    rcases hunique.contentType with hnone | ⟨after, htypes, hone⟩
    · simp [hnone]
    · simp [htypes, hone]
  · intro h attrs hattrs
    obtain ⟨els, last, digest, hels, hlast, hvalue⟩ := parseSignedAttrs_isOk_iff.mp ⟨attrs, hattrs⟩
    obtain ⟨hdigests, htypes, hone⟩ :=
      h els last digest hels hlast (Option.bind_eq_some_iff.mp hvalue)
    refine ⟨els, hels, ?_, ?_⟩
    · obtain ⟨after, hafter⟩ := List.length_eq_one_iff.mp hdigests
      rw [hafter, List.getLast?_singleton, Option.some.injEq] at hlast
      subst hlast
      exact ⟨after, hafter, oneValue_of_digestValue hvalue⟩
    · rcases hall : attributeValues oidContentType els with _ | ⟨after, others⟩
      · exact Or.inl rfl
      · rw [hall, List.length_cons] at htypes
        obtain rfl := List.length_eq_zero_iff.mp (Nat.le_zero.mp (Nat.le_of_succ_le_succ htypes))
        exact Or.inr ⟨after, rfl, hone after (by rw [hall]; exact List.mem_singleton_self after)⟩

/-- Of two message digests the last one is taken. -/
theorem parseSignedAttrs_takes_last :
    (∃ attrs, parseSignedAttrs (digestAttribute [0xaa] ++ digestAttribute [0xbb]) = .ok attrs ∧
      attrs.messageDigest = [0xbb]) ∧
    ¬ ∃ els, Der.elements (digestAttribute [0xaa] ++ digestAttribute [0xbb]) = some els ∧
      UniqueAttributes els := by
  have hels : Der.elements (digestAttribute [0xaa] ++ digestAttribute [0xbb]) = some
      (attributeElements [digestAttribute [0xaa], digestAttribute [0xbb]]) := by decide +kernel
  have hdigests : attributeValues oidMessageDigest
      (attributeElements [digestAttribute [0xaa], digestAttribute [0xbb]]) =
        [digestSet [0xaa], digestSet [0xbb]] := by decide +kernel
  constructor
  · have hvalue : digestValue (digestSet [0xbb]) = some [0xbb] := by decide +kernel
    obtain ⟨attrs, hattrs⟩ := parseSignedAttrs_isOk_iff.mpr
      ⟨_, digestSet [0xbb], [0xbb], hels, by rw [hdigests]; rfl, hvalue⟩
    obtain ⟨els, hels', -, hdigest, -⟩ := parseSignedAttrs_eq_ok hattrs
    obtain rfl := Option.some.inj (hels.symm.trans hels')
    rw [hdigests] at hdigest
    exact ⟨attrs, hattrs, Option.some.inj (hdigest.symm.trans hvalue)⟩
  · rintro ⟨els, hels', hunique⟩
    obtain rfl := Option.some.inj (hels.symm.trans hels')
    obtain ⟨after, hafter, -⟩ := hunique.digest
    rw [hdigests] at hafter
    exact absurd (congrArg List.length hafter) (by simp)

end Passive

end Dmrtd
