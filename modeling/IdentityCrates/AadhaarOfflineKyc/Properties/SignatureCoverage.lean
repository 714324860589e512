import IdentityCrates.AadhaarOfflineKyc.OfflineEkyc
import IdentityCrates.Lib.Xml.Editing

/-!
# What the signature of an offline e-KYC record covers

The verifier sees the canonical form of the document without its signature, which leaves comments
out; `parseDocument` sees the tree.  Every field that is an attribute is read alike on both sides.
The photo is not: it is the text `Pht` begins with, and that ends at a comment, or at the signature
where it stands in `Pht`.

So what a signed document says of the photo is open (`signed_iff`): for each initial part of the
signed text there is a document with the same canonical form in which the photo's text is that part.
All documents with the canonical form of a signed one have the same record just when no part of the
text decodes, that is when there is no photo.

`signatureCoverage` puts the results together, for documents, for texts and for the records
`parseOfflineEkyc` returns.
-/

namespace AadhaarOfflineKyc

open Octets Rust Text
open Xml (Node Canon Covers Cut Scope SameCanonical signatureTag)

/-! ## What is signed -/

/-- An attribute in a canonical form, unless it is empty. -/
def signedAttr (piece : Option Canon) (k : String) : Option Str :=
  (piece.bind (Canon.attribute? k.toList)).bind nonEmpty

/-- The first child with a tag, in a canonical form. -/
def signedChild (tag : String) (piece : Canon) : Option Canon :=
  piece.children.find? (Canon.hasTagName tag.toList)

/-- The record a canonical form holds, with a photo put in. -/
def signedRecord (root : Canon) (photo : Option Bytes) : Outcome AadhaarError OfflineEkyc :=
  if root.hasTagName "OfflinePaperlessKyc".toList then
    match signedChild "UidData" root with
    | none => .err (.xml "missing UidData")
    | some uid => .ok (record ((root.attribute? "referenceId".toList).getD [])
        (signedAttr (signedChild "Poi" uid)) (signedAttr (signedChild "Poa" uid)) photo)
  else .err (.xml "root is not OfflinePaperlessKyc")

/-- The signed text of the photo, up to the first element or instruction. -/
def signedText (root : Canon) : Str :=
  if root.hasTagName "OfflinePaperlessKyc".toList then
    Xml.leading (((signedChild "UidData" root).bind (signedChild "Pht")).elim [] Canon.children)
  else []

/-- The photo in a text. -/
def photoIn (decode : Str → Option Bytes) (text : Str) : Option Bytes :=
  nonEmpty (trim text) >>= decode

/-- Some initial part of the signed text is a photo. -/
def CarriesPhoto (decode : Str → Option Bytes) (root : Canon) : Prop :=
  ∃ part image, part <+: signedText root ∧ photoIn decode part = some image

/-! ## What is read -/

/-- The element of the photo. -/
def pht? (document : Xml.Document) : Option Node :=
  (child "UidData" document.children).bind fun uid => child "Pht" uid.children

/-- The text of the photo: what `Pht` begins with, up to the first node that is no text. -/
def readText (document : Xml.Document) : Str :=
  if document.name.loc = "OfflinePaperlessKyc".toList then
    Xml.firstText ((pht? document).elim [] Node.children)
  else []

/-- The photo is read of the first text. -/
lemma photoText_bind (decode : Str → Option Bytes) (node : Option Node) :
    photoText node >>= decode = photoIn decode (Xml.firstText (node.elim [] Node.children)) := by
  cases node with
  | none => rfl
  | some node =>
    cases node with
    | element name namespaces attributes children =>
      cases children with
      | nil => rfl
      | cons first rest =>
        cases first with
        | text s => rfl
        | element _ _ _ _ => rfl
        | comment _ => rfl
        | instruction _ => rfl
    | text s => rfl
    | comment s => rfl
    | instruction i => rfl

section

variable {d d' : Xml.Document}

/-- A child of the root is covered. -/
lemma child_covers {tag : String} (htag : tag.toList ≠ signatureTag) (h : d.Cut d') :
    Covers (child tag d.children) (signedChild tag d'.normalRoot) := by
  obtain ⟨-, -, -, hcut⟩ := h
  exact Xml.find_covers htag hcut _

/-- A child of a covered node is covered. -/
lemma grandchild_covers {tag : String} (htag : tag.toList ≠ signatureTag) {node : Node}
    {piece : Canon} (h : Covers (some node) (some piece)) :
    Covers (child tag node.children) (signedChild tag piece) :=
  Covers.children htag h

lemma attr_eq {node : Option Node} {piece : Option Canon} (h : Covers node piece) {k : String}
    (hk : ¬ "xmlns".toList <+: k.toList) : attr node k = signedAttr piece k := by
  unfold attr signedAttr
  rw [h.attribute?_eq hk]

/-- The attributes of the root are covered. -/
lemma referenceId_eq (h : d.Cut d') :
    d.attributes.get? "referenceId".toList = d'.normalRoot.attribute? "referenceId".toList := by
  obtain ⟨-, -, hattributes, -⟩ := h
  rw [← hattributes]
  exact (Xml.find?_render _ _ _ (by decide)).symm

lemma root_eq (h : d.Cut d') (tag : Str) :
    d'.normalRoot.hasTagName tag = decide (d.name.loc = tag) := by
  obtain ⟨hname, -⟩ := h
  rw [← hname]
  rfl

/-- A record depends on the attributes it names. -/
lemma record_congr {poi poi' poa poa' : String → Option Str} (referenceId : Str)
    (photo : Option Bytes) (hpoi : ∀ k : String, ¬ "xmlns".toList <+: k.toList → poi k = poi' k)
    (hpoa : ∀ k : String, ¬ "xmlns".toList <+: k.toList → poa k = poa' k) :
    record referenceId poi poa photo = record referenceId poi' poa' photo := by
  unfold record
  rw [hpoi "name" (by decide), hpoi "dob" (by decide), hpoi "gender" (by decide),
    hpoi "m" (by decide), hpoi "e" (by decide), hpoa "careof" (by decide),
    hpoa "country" (by decide), hpoa "dist" (by decide), hpoa "house" (by decide),
    hpoa "loc" (by decide), hpoa "pc" (by decide), hpoa "po" (by decide),
    hpoa "state" (by decide), hpoa "street" (by decide), hpoa "subdist" (by decide),
    hpoa "vtc" (by decide)]

/-- Nodes that are covered are absent on both sides, or present on both. -/
lemma covers_cases {node : Option Node} {piece : Option Canon} (h : Covers node piece) :
    (node = none ∧ piece = none) ∨ ∃ n p, node = some n ∧ piece = some p := by
  cases h with
  | none => exact Or.inl ⟨rfl, rfl⟩
  | some scope hcut => exact Or.inr ⟨_, _, rfl, rfl⟩

/-- **All that is read is signed, but for the photo.** -/
theorem parseDocument_eq (services : Services) (h : d.Cut d') :
    parseDocument services d
      = signedRecord d'.normalRoot (photoIn services.decodeBase64 (readText d)) := by
  unfold parseDocument signedRecord readText pht?
  rw [root_eq h]
  by_cases hroot : d.name.loc = "OfflinePaperlessKyc".toList
  · rw [if_neg (not_not.mpr hroot), if_pos (decide_eq_true hroot), if_pos hroot]
    have hcovers : Covers (child "UidData" d.children) (signedChild "UidData" d'.normalRoot) :=
      child_covers (by decide) h
    rcases covers_cases hcovers with ⟨hnode, hpiece⟩ | ⟨uid, signed, hnode, hpiece⟩
    · rw [hnode, hpiece]
      rfl
    · rw [hnode, hpiece] at hcovers
      rw [hnode, hpiece, ← referenceId_eq h, Option.bind_some, ← photoText_bind]
      have hpoi : ∀ k : String, ¬ "xmlns".toList <+: k.toList →
          attr (child "Poi" uid.children) k = signedAttr (signedChild "Poi" signed) k :=
        fun k => attr_eq (grandchild_covers (by decide) hcovers)
      have hpoa : ∀ k : String, ¬ "xmlns".toList <+: k.toList →
          attr (child "Poa" uid.children) k = signedAttr (signedChild "Poa" signed) k :=
        fun k => attr_eq (grandchild_covers (by decide) hcovers)
      exact congrArg Outcome.ok (record_congr _ _ hpoi hpoa)
  · rw [if_pos hroot, if_neg (by rw [decide_eq_false hroot]; exact Bool.false_ne_true)]

/-- The element of the photo is covered. -/
lemma pht_covers (h : d.Cut d') :
    Covers (pht? d) ((signedChild "UidData" d'.normalRoot).bind (signedChild "Pht")) := by
  have huid : Covers (child "UidData" d.children) (signedChild "UidData" d'.normalRoot) :=
    child_covers (by decide) h
  have htag : "Pht".toList ≠ signatureTag := by decide
  exact huid.children htag

/-- The text of the photo is an initial part of the signed text. -/
lemma readText_isPrefix (h : d.Cut d') : readText d <+: signedText d'.normalRoot := by
  unfold readText signedText
  rw [root_eq h]
  by_cases hroot : d.name.loc = "OfflinePaperlessKyc".toList
  · rw [if_pos hroot, if_pos (decide_eq_true hroot)]
    exact (pht_covers h).firstText_isPrefix
  · rw [if_neg hroot]
    exact List.nil_prefix

/-- The text of the photo is the signed text, where it ends at an element or an instruction, or with
the content. -/
lemma readText_eq (h : d.Cut d') (huncut : Xml.Uncut ((pht? d).elim [] Node.children)) :
    readText d = signedText d'.normalRoot := by
  unfold readText signedText
  rw [root_eq h]
  by_cases hroot : d.name.loc = "OfflinePaperlessKyc".toList
  · rw [if_pos hroot, if_pos (decide_eq_true hroot)]
    exact ((pht_covers h).leading_eq huncut).symm
  · rw [if_neg hroot, if_neg (by rw [decide_eq_false hroot]; exact Bool.false_ne_true)]

/-! ## Documents with the same canonical form -/

/-- A canonical form holds no record, or one that the photo is put into. -/
lemma signedRecord_cases (root : Canon) :
    (signedText root = [] ∧ ∃ error, ∀ photo, signedRecord root photo = .err error)
      ∨ ∃ ekyc : OfflineEkyc, ∀ photo,
        signedRecord root photo = .ok { ekyc with photoJp2000 := photo } := by
  unfold signedText signedRecord
  split
  · split
    case h_1 huid =>
      rw [huid]
      exact Or.inl ⟨rfl, _, fun _ => rfl⟩
    case h_2 uid huid =>
      exact Or.inr ⟨record ((root.attribute? "referenceId".toList).getD [])
        (signedAttr (signedChild "Poi" uid)) (signedAttr (signedChild "Poa" uid)) none,
        fun _ => rfl⟩
  · exact Or.inl ⟨rfl, _, fun _ => rfl⟩

/-- **Two documents with the same canonical form have the same record just when they have the same
photo.** -/
theorem parseDocument_eq_iff (services : Services) {e e' : Xml.Document} (hd : d.Cut d')
    (he : e.Cut e') (hsame : d'.canonical = e'.canonical) :
    parseDocument services d = parseDocument services e
      ↔ photoIn services.decodeBase64 (readText d) = photoIn services.decodeBase64 (readText e) := by
  rw [parseDocument_eq services hd, parseDocument_eq services he, Xml.normalRoot_inj hsame]
  have htextd := readText_isPrefix hd
  have htexte := readText_isPrefix he
  rw [Xml.normalRoot_inj hsame] at htextd
  rcases signedRecord_cases e'.normalRoot with ⟨htext, error, herror⟩ | ⟨ekyc, hekyc⟩
  · rw [htext, List.prefix_nil] at htextd htexte
    rw [htextd, htexte]
    exact iff_of_true rfl rfl
  · rw [hekyc, hekyc]
    constructor
    · intro h
      exact congrArg OfflineEkyc.photoJp2000 (Outcome.ok.inj h)
    · intro h
      rw [h]

/-- A child that is found is an element. -/
lemma exists_element_of_child {tag : String} {nodes : List Node} {node : Node}
    (h : child tag nodes = some node) :
    ∃ name namespaces attributes children,
      node = .element name namespaces attributes children :=
  Xml.exists_element (List.find?_some h)

/-- Where there is a signed text, it is in the `Pht` of `UidData`. -/
lemma exists_pht (h : d.Cut d') (hne : signedText d'.normalRoot ≠ []) :
    d.name.loc = "OfflinePaperlessKyc".toList ∧ ∃ uid pht,
      child "UidData" d.children = some uid ∧ child "Pht" uid.children = some pht := by
  unfold signedText at hne
  rw [root_eq h] at hne
  by_cases hroot : d.name.loc = "OfflinePaperlessKyc".toList
  · rw [if_pos (decide_eq_true hroot)] at hne
    have hpht := pht_covers h
    rcases covers_cases hpht with ⟨-, hnone⟩ | ⟨pht, piece, hsome, -⟩
    · rw [hnone] at hne
      exact absurd rfl hne
    · obtain ⟨uid, huid, hfound⟩ := Option.bind_eq_some_iff.mp hsome
      exact ⟨hroot, uid, pht, huid, hfound⟩
  · rw [if_neg (by rw [decide_eq_false hroot]; exact Bool.false_ne_true)] at hne
    exact absurd rfl hne

/-- **Any initial part of the signed text is the text of the photo in some document with the same
canonical form.** -/
lemma exists_readText (h : d.Cut d') {part : Str} (hpart : part <+: signedText d'.normalRoot) :
    ∃ e e', e.Cut e' ∧ e'.canonical = d'.canonical ∧ readText e = part := by
  by_cases hne : signedText d'.normalRoot = []
  · have hread := readText_isPrefix h
    rw [hne, List.prefix_nil] at hpart hread
    exact ⟨d, d', h, rfl, hread.trans hpart.symm⟩
  obtain ⟨hroot, uid, pht, huid, hpht⟩ := exists_pht h hne
  have hrootSigned : d'.normalRoot.hasTagName "OfflinePaperlessKyc".toList = true := by
    rw [root_eq h]
    exact decide_eq_true hroot
  obtain ⟨hname, hnamespaces, hattributes, hcut⟩ := h
  obtain ⟨uidName, uidNamespaces, uidAttributes, uidChildren, rfl⟩ := exists_element_of_child huid
  obtain ⟨_, phtNamespaces, _, phtChildren, rfl⟩ := exists_element_of_child hpht
  let scope := (Scope.initial.extend d'.namespaces).extend uidNamespaces
  obtain ⟨uidRest, huidCut, huidFound, huidEdit⟩ := Xml.childEdits (by decide) hcut huid
    (Scope.initial.extend d'.namespaces)
  obtain ⟨phtRest, hphtCut, hphtFound, hphtEdit⟩ := Xml.childEdits (by decide) huidCut hpht scope
  have hsigned : signedText d'.normalRoot
      = Xml.leading (Xml.normalList (scope.extend phtNamespaces) phtRest) := by
    have huidSigned : signedChild "UidData" d'.normalRoot = _ := huidFound
    have hphtSigned : signedChild "Pht" (Canon.element uidName
        (Xml.render (Scope.initial.extend d'.namespaces) uidNamespaces uidAttributes)
        (Xml.normalList scope uidRest)) = _ := hphtFound
    unfold signedText
    rw [if_pos hrootSigned, huidSigned, Option.bind_some, hphtSigned]
    rfl
  rw [hsigned] at hpart
  obtain ⟨new, new', hnew, hfirst⟩ := Xml.exists_break hphtCut hpart
  obtain ⟨inUid, inUid', hinUid, hphtNew⟩ := hphtEdit new new' hnew
  obtain ⟨all, all', hall, huidNew⟩ := huidEdit inUid inUid' hinUid
  refine ⟨{ d with children := all }, { d' with children := all' },
    ⟨hname, hnamespaces, hattributes, hall.cut⟩, ?_, ?_⟩
  · unfold Xml.Document.canonical Xml.Document.normalRoot
    rw [hall.normal]
  · unfold readText pht? child
    rw [if_pos hroot, huidNew, Option.bind_some, Node.children, hphtNew]
    exact hfirst

/-! ## The results -/

/-- Does every document with the canonical form of a signed one have its record? -/
def Fixed (services : Services) (d d' : Xml.Document) : Prop :=
  ∀ e e', e.Cut e' → e'.canonical = d'.canonical →
    parseDocument services e = parseDocument services d

/-- **The record of a signed document is fixed just when the document carries no photo.** -/
theorem fixed_iff (services : Services) (h : d.Cut d') :
    Fixed services d d' ↔ ¬ CarriesPhoto services.decodeBase64 d'.normalRoot := by
  constructor
  · intro hfixed hcarries
    obtain ⟨part, image, hpart, himage⟩ := hcarries
    obtain ⟨e, e', he, hsame, hread⟩ := exists_readText h hpart
    obtain ⟨f, f', hf, hsame', hread'⟩ := exists_readText h (List.nil_prefix (l := signedText _))
    have heq : parseDocument services e = parseDocument services f :=
      (hfixed e e' he hsame).trans (hfixed f f' hf hsame').symm
    rw [parseDocument_eq_iff services he hf (hsame.trans hsame'.symm), hread, hread', himage] at heq
    cases heq
  · intro hnone e e' he hsame
    have hphoto : ∀ part, part <+: signedText d'.normalRoot →
        photoIn services.decodeBase64 part = none := by
      intro part hpart
      cases himage : photoIn services.decodeBase64 part with
      | none => rfl
      | some image => exact absurd ⟨part, image, hpart, himage⟩ hnone
    have hread := readText_isPrefix he
    rw [Xml.normalRoot_inj hsame] at hread
    rw [parseDocument_eq_iff services he h hsame, hphoto _ hread, hphoto _ (readText_isPrefix h)]

/-- What is read of a text is read of its tree. -/
lemma parseOfflineXml_eq {services : Services} {xml : Str} (h : services.parseXml xml = .ok d) :
    parseOfflineXml services xml = parseDocument services d := by
  unfold parseOfflineXml
  rw [h]
  rfl

/-- A verified record is what is read of the text in the archive, and verified. -/
lemma parseOfflineEkyc_eq_ok {services : Services} {zipBytes : Bytes} {sharePhrase xml : Str}
    {ekyc : OfflineEkyc} (hxml : decryptOfflineZip services zipBytes sharePhrase = .ok xml)
    (h : parseOfflineEkyc services zipBytes sharePhrase = .ok ekyc) :
    ∃ read, parseOfflineXml services xml = .ok read
      ∧ ekyc = { read with signatureVerified := true } := by
  unfold parseOfflineEkyc at h
  rw [hxml, Outcome.ok_bind, Outcome.bind_eq_ok] at h
  obtain ⟨read, hread, h⟩ := h
  rw [Outcome.bind_eq_ok] at h
  obtain ⟨verified, -, h⟩ := h
  cases verified with
  | false => cases h
  | true => exact ⟨read, hread, (Outcome.ok.inj h).symm⟩

end

/-- The record is returned for an archive that holds a text of the document. -/
def VerifiedFrom (services : Services) (ekyc : OfflineEkyc) (d : Xml.Document) : Prop :=
  ∃ zipBytes sharePhrase xml, decryptOfflineZip services zipBytes sharePhrase = .ok xml
    ∧ services.parseXml xml = .ok d ∧ parseOfflineEkyc services zipBytes sharePhrase = .ok ekyc

/-- A record, but for its photo. -/
def OfflineEkyc.withoutPhoto (ekyc : OfflineEkyc) : OfflineEkyc := { ekyc with photoJp2000 := none }

/-- What the signature covers. -/
structure SignatureCoverage (services : Services) : Prop where
  /-- The record of a signed document is fixed just when the document carries no photo. -/
  fixed : ∀ d d', Xml.Document.Cut d d' →
    (Fixed services d d' ↔ ¬ CarriesPhoto services.decodeBase64 d'.normalRoot)
  /-- Two texts with the same canonical form have the same record just when the texts their photos
  are read of are alike. -/
  texts : ∀ xml₁ xml₂ d₁ d₂, services.parseXml xml₁ = .ok d₁ → services.parseXml xml₂ = .ok d₂ →
    SameCanonical d₁ d₂ → (parseOfflineXml services xml₁ = parseOfflineXml services xml₂
      ↔ photoIn services.decodeBase64 (readText d₁) = photoIn services.decodeBase64 (readText d₂))
  /-- So they have where the text ends at no comment and no signature. -/
  uncut : ∀ xml₁ xml₂ d₁ d₂, services.parseXml xml₁ = .ok d₁ → services.parseXml xml₂ = .ok d₂ →
    SameCanonical d₁ d₂ → Xml.Uncut ((pht? d₁).elim [] Node.children) →
    Xml.Uncut ((pht? d₂).elim [] Node.children) →
    parseOfflineXml services xml₁ = parseOfflineXml services xml₂
  /-- Two verified records of documents with the same canonical form agree but for the photo, and on
  the photo just when the texts it is read of are alike. -/
  records : ∀ ekyc₁ ekyc₂ d₁ d₂, VerifiedFrom services ekyc₁ d₁ → VerifiedFrom services ekyc₂ d₂ →
    SameCanonical d₁ d₂ → ekyc₁.withoutPhoto = ekyc₂.withoutPhoto ∧ (ekyc₁ = ekyc₂
      ↔ photoIn services.decodeBase64 (readText d₁) = photoIn services.decodeBase64 (readText d₂))

/-- A verified record is the one that is signed, with the photo that is read. -/
lemma verifiedFrom_record {services : Services} {ekyc : OfflineEkyc} {d d' : Xml.Document}
    (h : VerifiedFrom services ekyc d) (hcut : d.Cut d') :
    ∃ signed : OfflineEkyc, (∀ photo, signedRecord d'.normalRoot photo
        = .ok { signed with photoJp2000 := photo })
      ∧ ekyc = { signed with
          photoJp2000 := photoIn services.decodeBase64 (readText d), signatureVerified := true } := by
  obtain ⟨zipBytes, sharePhrase, xml, hxml, hparse, hekyc⟩ := h
  obtain ⟨read, hread, rfl⟩ := parseOfflineEkyc_eq_ok hxml hekyc
  rw [parseOfflineXml_eq hparse, parseDocument_eq services hcut] at hread
  rcases signedRecord_cases d'.normalRoot with ⟨-, error, herror⟩ | ⟨signed, hsigned⟩
  · rw [herror] at hread
    cases hread
  · rw [hsigned] at hread
    refine ⟨signed, hsigned, ?_⟩
    rw [← Outcome.ok.inj hread]

theorem signatureCoverage (services : Services) : SignatureCoverage services where
  fixed := fun d d' h => fixed_iff services h
  texts := by
    intro xml₁ xml₂ d₁ d₂ h₁ h₂ hsame
    obtain ⟨d₁', d₂', hcut₁, hcut₂, hcanonical⟩ := hsame
    rw [parseOfflineXml_eq h₁, parseOfflineXml_eq h₂]
    exact parseDocument_eq_iff services hcut₁ hcut₂ hcanonical
  uncut := by
    intro xml₁ xml₂ d₁ d₂ h₁ h₂ hsame huncut₁ huncut₂
    obtain ⟨d₁', d₂', hcut₁, hcut₂, hcanonical⟩ := hsame
    rw [parseOfflineXml_eq h₁, parseOfflineXml_eq h₂,
      parseDocument_eq_iff services hcut₁ hcut₂ hcanonical, readText_eq hcut₁ huncut₁,
      readText_eq hcut₂ huncut₂, Xml.normalRoot_inj hcanonical]
  records := by
    intro ekyc₁ ekyc₂ d₁ d₂ h₁ h₂ hsame
    obtain ⟨d₁', d₂', hcut₁, hcut₂, hcanonical⟩ := hsame
    obtain ⟨signed, hsigned, rfl⟩ := verifiedFrom_record h₁ hcut₁
    obtain ⟨signed', hsigned', rfl⟩ := verifiedFrom_record h₂ hcut₂
    rw [Xml.normalRoot_inj hcanonical] at hsigned
    have hnone : ({ signed with photoJp2000 := none } : OfflineEkyc)
        = { signed' with photoJp2000 := none } :=
      Outcome.ok.inj ((hsigned none).symm.trans (hsigned' none))
    have halike : ∀ photo, ({ signed with photoJp2000 := photo, signatureVerified := true }
        : OfflineEkyc) = { signed' with photoJp2000 := photo, signatureVerified := true } := by
      intro photo
      exact congrArg (fun ekyc : OfflineEkyc =>
        { ekyc with photoJp2000 := photo, signatureVerified := true }) hnone
    refine ⟨halike none, fun h => congrArg OfflineEkyc.photoJp2000 h, fun h => ?_⟩
    rw [h]
    exact halike _

/-! ## A worked document -/

namespace Worked

/-- A name without a prefix. -/
def plain (s : String) (hne : s.toList ≠ [] := by decide)
    (hund : Xml.Undelimited s.toList := by decide) (hcolon : ':' ∉ s.toList := by decide) :
    Xml.Name where
  pre := []
  loc := s.toList
  loc_ne := hne
  undelimited := hund
  noColon := hcolon

/-- An element without declarations and attributes. -/
def plainElement (s : Xml.Name) (children : List Node) : Node :=
  .element s [] ⟨[], List.nodup_nil⟩ children

/-- The attributes of `Poi`. -/
def poiAttributes : Xml.Attributes where
  entries := [(plain "dob", "1990".toList), (plain "gender", "F".toList),
    (plain "name", "Asha".toList)]
  nodup := by decide

/-- `UidData`, with some content of `Pht`. -/
def uidData (pht : List Node) : Node :=
  plainElement (plain "UidData") [.element (plain "Poi") [] poiAttributes [],
    plainElement (plain "Pht") pht]

/-- A document with some content of `Pht`, and what follows `UidData`. -/
def document (pht rest : List Node) : Xml.Document where
  before := []
  name := plain "OfflinePaperlessKyc"
  namespaces := []
  attributes := ⟨[(plain "referenceId", "2026".toList)], by decide⟩
  children := uidData pht :: rest
  after := []

/-- The signature. -/
def signature : Node := plainElement (plain "Signature") []

/-- The photo as it is signed. -/
def signedPht : List Node := [.text "aGVsbG8=".toList]

/-- The photo with a comment put into its text. -/
def editedPht : List Node := [.text "aGVs".toList, .comment [], .text "bG8=".toList]

/-- The document as it is signed. -/
def signed : Xml.Document := document signedPht [signature]

/-- The document with a comment put into the text of the photo. -/
def edited : Xml.Document := document editedPht [signature]

/-- Libraries that know the two documents: the archives `1` and `2` hold the texts `s` and `e`. -/
def services : Services where
  readEntry := fun zip _ _ => .ok (if zip = [1] then [115] else [101])
  utf8Error := fun _ => ""
  parseXml := fun xml => .ok (if xml = ['s'] then signed else edited)
  decodeBase64 := fun text =>
    if text = "aGVsbG8=".toList then some [104, 101, 108, 108, 111]
    else if text = "aGVs".toList then some [104, 101, 108]
    else none
  encodeBase64 := fun _ => []
  publicKeyInfo := fun _ => .ok []
  verifySignatureWithPemKey := fun _ _ => .ok true
  uidaiCerts := [[]]

/-- The record, with some photo. -/
def ekyc (photo : Bytes) : OfflineEkyc :=
  { record "2026".toList (attr (some (.element (plain "Poi") [] poiAttributes []))) (fun _ => none)
      (some photo) with signatureVerified := true }

end Worked

/-- A comment in the text of the photo is not signed, and changes the photo. -/
theorem signatureCoverage_photo_cut :
    VerifiedFrom Worked.services (Worked.ekyc [104, 101, 108, 108, 111]) Worked.signed
      ∧ VerifiedFrom Worked.services (Worked.ekyc [104, 101, 108]) Worked.edited
      ∧ SameCanonical Worked.signed Worked.edited
      ∧ Worked.ekyc [104, 101, 108, 108, 111] ≠ Worked.ekyc [104, 101, 108] := by
  refine ⟨⟨[1], [], ['s'], by decide +kernel, rfl, by decide +kernel⟩,
    ⟨[2], [], ['e'], by decide +kernel, rfl, by decide +kernel⟩, ?_, by decide⟩
  refine ⟨Worked.document Worked.signedPht [], Worked.document Worked.editedPht [], ?_, ?_, ?_⟩
  · exact ⟨rfl, rfl, rfl, Cut.later (Cut.here rfl)⟩
  · exact ⟨rfl, rfl, rfl, Cut.later (Cut.here rfl)⟩
  · decide +kernel

end AadhaarOfflineKyc
