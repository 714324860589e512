import IdentityCrates.MdlVerify.Properties.IssuerSoundness
import IdentityCrates.MdlVerify.Properties.TranscriptBinding
import Mathlib.Data.List.Nodup

/-!
# What becomes of the disclosed items

`namespaces` puts the items of a namespace into a map, by their identifiers, in the order in which
the holder sent them.  Where two items carry one identifier the later one takes the place of the
earlier, so what a map answers is the value of the last item (`element_of_discloses`).

The issuer signs digests, and nothing says that the items behind two digests have different
identifiers.  So an accepted document shows every item with its own value exactly when the items of
a namespace that share an identifier convert to one value (`forall₂_nothingLost_iff`).  Documents in
which identifiers are shared are not refused; a map inside a value keeps both of its entries, and
this map keeps one.
-/

namespace MdlVerify

open Octets Rust Text

variable {Request Report : Type} {iso : Isomdl Request Report}

/-! ## Disclosed items -/

/-- The document discloses those items under that namespace. -/
def Discloses (document : Document) (name : Str) (items : List (Tag24 IssuerSignedItem)) : Prop :=
  ∃ found, document.issuerSigned.namespaces = some found ∧ (name, items) ∈ found.entries

/-- The item is shown, with the conversion of its own value. -/
def Appears (verified : MdlDocument) (name : Str) (item : IssuerSignedItem) : Prop :=
  ∃ value, MdlValue.tryFrom item.elementValue = .ok value ∧
    verified.element name item.elementIdentifier = some value

/-- Every disclosed item is shown. -/
def NothingLost (document : Document) (verified : MdlDocument) : Prop :=
  ∀ name items, Discloses document name items → ∀ item ∈ items, Appears verified name item.inner

/-- The items of a namespace have different identifiers. -/
def Distinct (document : Document) : Prop :=
  ∀ name items, Discloses document name items →
    (items.map fun item => item.inner.elementIdentifier).Nodup

/-- Items of a namespace that share an identifier convert to one value. -/
def Agreeing (document : Document) : Prop :=
  ∀ name items, Discloses document name items → ∀ item ∈ items, ∀ other ∈ items,
    item.inner.elementIdentifier = other.inner.elementIdentifier → ∀ v w,
      MdlValue.tryFrom item.inner.elementValue = .ok v →
      MdlValue.tryFrom other.inner.elementValue = .ok w → v = w

/-- Every item of every document is shown, and no document has two of one identifier. -/
structure DisclosesFaithfully (documents : List Document) (verified : List MdlDocument) : Prop where
  appears : List.Forall₂ NothingLost documents verified
  distinct : ∀ document ∈ documents, Distinct document

lemma Distinct.agreeing {document : Document} (h : Distinct document) : Agreeing document := by
  intro name items hitems item hitem other hother hid v w hv hw
  obtain rfl := List.inj_on_of_nodup_map (h name items hitems) hitem hother hid
  exact Except.ok.inj (hv.symm.trans hw)

/-! ## The maps -/

/-- The items with the values they convert to, by their identifiers. -/
def Converts (items : List (Tag24 IssuerSignedItem)) (entries : List (Str × MdlValue)) : Prop :=
  List.Forall₂ (fun item entry => entry.1 = item.inner.elementIdentifier ∧
    MdlValue.tryFrom item.inner.elementValue = .ok entry.2) items entries

/-- The loop over the items inserts what they convert to. -/
lemma elements_eq_ok {items : List (Tag24 IssuerSignedItem)} {out m : BTreeMap Str MdlValue}
    (h : elements items out = .ok m) :
    ∃ entries, Converts items entries ∧ m = out.extend entries := by
  induction items generalizing out with
  | nil => exact ⟨[], .nil, (Outcome.ok.inj h).symm⟩
  | cons item items ih =>
    obtain ⟨value, hvalue, h⟩ := Outcome.bind_eq_ok.mp h
    obtain ⟨entries, hentries, rfl⟩ := ih h
    exact ⟨(item.inner.elementIdentifier, value) :: entries,
      .cons ⟨rfl, ofResult_eq_ok hvalue⟩ hentries, rfl⟩

/-- The loop over the namespaces inserts a map for each. -/
lemma namespacesLoop_eq_ok {rest : List (Str × List (Tag24 IssuerSignedItem))}
    {out m : BTreeMap Str (BTreeMap Str MdlValue)} (h : namespacesLoop rest out = .ok m) :
    ∃ maps, List.Forall₂ (fun entry found => found.1 = entry.1 ∧
      elements entry.2 BTreeMap.empty = .ok found.2) rest maps ∧ m = out.extend maps := by
  induction rest generalizing out with
  | nil => exact ⟨[], .nil, (Outcome.ok.inj h).symm⟩
  | cons entry rest ih =>
    obtain ⟨name, items⟩ := entry
    obtain ⟨found, hfound, h⟩ := Outcome.bind_eq_ok.mp h
    obtain ⟨maps, hmaps, rfl⟩ := ih h
    exact ⟨(name, found) :: maps, .cons ⟨rfl, hfound⟩ hmaps, rfl⟩

/-- What is shown under a namespace is the last item with the identifier. -/
lemma element_of_discloses {document : Document} {verified : MdlDocument}
    (h : namespaces document = .ok verified.namespaces) {name : Str}
    {items : List (Tag24 IssuerSignedItem)} (hitems : Discloses document name items) :
    ∃ entries, Converts items entries ∧
      ∀ identifier, verified.element name identifier = BTreeMap.lastOf entries identifier := by
  obtain ⟨found, hfound, hmem⟩ := hitems
  unfold namespaces at h
  rw [hfound] at h
  obtain ⟨maps, hmaps, hverified⟩ := namespacesLoop_eq_ok h
  obtain ⟨⟨name', m⟩, hm, hname, helements⟩ := hmaps.exists_of_mem_left hmem
  obtain rfl : name' = name := hname
  obtain ⟨entries, hentries, rfl⟩ := elements_eq_ok helements
  refine ⟨entries, hentries, ?_⟩
  intro identifier
  have hlast : BTreeMap.lastOf maps name' = some (BTreeMap.empty.extend entries) := by
    apply BTreeMap.lastOf_eq_of_forall hm
    intro other hother
    obtain ⟨⟨name, items'⟩, hmem', hname', helements'⟩ := hmaps.exists_of_mem_right hother
    obtain rfl : name' = name := hname'
    obtain rfl : items = items' := BTreeMap.eq_of_mem hmem hmem'
    exact Outcome.ok.inj (helements'.symm.trans helements)
  have hget : verified.namespaces.get? name' = some (BTreeMap.empty.extend entries) := by
    rw [hverified, BTreeMap.get?_extend, hlast, Option.some_or]
  have helement : verified.element name' identifier =
      (BTreeMap.empty.extend entries).get? identifier := by
    unfold MdlDocument.element
    rw [hget]
    rfl
  rw [helement, BTreeMap.get?_extend, BTreeMap.get?_empty, Option.or_none]

/-- Every item of a document is shown exactly when items that share an identifier agree. -/
lemma nothingLost_iff {document : Document} {verified : MdlDocument}
    (h : namespaces document = .ok verified.namespaces) :
    NothingLost document verified ↔ Agreeing document := by
  constructor
  · intro hlost name items hitems item hitem other hother hid v w hv hw
    obtain ⟨v', hv', hshown⟩ := hlost name items hitems item hitem
    obtain ⟨w', hw', hshown'⟩ := hlost name items hitems other hother
    rw [← hid, hshown] at hshown'
    obtain rfl := Except.ok.inj (hv.symm.trans hv')
    obtain rfl := Except.ok.inj (hw.symm.trans hw')
    exact Option.some.inj hshown'
  · intro hagree name items hitems item hitem
    obtain ⟨entries, hentries, helement⟩ := element_of_discloses h hitems
    obtain ⟨⟨identifier, value⟩, hmem, hid, hvalue⟩ := hentries.exists_of_mem_left hitem
    obtain rfl : identifier = item.inner.elementIdentifier := hid
    refine ⟨value, hvalue, ?_⟩
    rw [helement]
    apply BTreeMap.lastOf_eq_of_forall hmem
    intro other hother
    obtain ⟨item', hitem', hid', hvalue'⟩ := hentries.exists_of_mem_right hother
    exact hagree name items hitems item' hitem' item hitem hid'.symm other value hvalue' hvalue

/-! ## A response -/

/-- The same of all documents of an accepted response. -/
lemma forall₂_nothingLost_iff {documents : List Document} {verified : List MdlDocument}
    (h : List.Forall₂ (fun document v => namespaces document = .ok v.namespaces) documents
      verified) :
    List.Forall₂ NothingLost documents verified ↔ ∀ document ∈ documents, Agreeing document := by
  induction h with
  | nil => simp
  | @cons document v documents verified hfirst _ ih =>
    rw [List.forall₂_cons, ih, nothingLost_iff hfirst, List.forall_mem_cons]

lemma namespaces_of_accepted {now : DateTime} {response : DeviceResponse}
    {anchors : List IacaAnchor} {options : VerifyOptions}
    {fetcher : RevocationFetcher Request Report} {v : MdlVerification}
    (h : (verifyDocumentsWith iso now response anchors options fetcher).output = .ok v) :
    ∃ documents, response.documents = some documents ∧
      List.Forall₂ (fun document verified => namespaces document = .ok verified.namespaces)
        documents v.documents := by
  obtain ⟨documents, atOdt, hdocuments, -, hall⟩ := sound h
  exact ⟨documents, hdocuments, hall.imp fun _ _ ⟨_, _, hattests⟩ => hattests.namespaces⟩

/-- **No disclosed item is lost** from an accepted response, and none that shares its identifier
accepted, exactly when the items of each namespace have different identifiers.  That every item is
shown takes less: that items which share an identifier convert to one value. -/
theorem disclosesFaithfully_iff {now : DateTime} {response : DeviceResponse}
    {anchors : List IacaAnchor} {options : VerifyOptions}
    {fetcher : RevocationFetcher Request Report} {v : MdlVerification}
    (h : (verifyDocumentsWith iso now response anchors options fetcher).output = .ok v) :
    ∃ documents, response.documents = some documents ∧
      (DisclosesFaithfully documents v.documents ↔ ∀ document ∈ documents, Distinct document) ∧
      (List.Forall₂ NothingLost documents v.documents ↔
        ∀ document ∈ documents, Agreeing document) := by
  obtain ⟨documents, hdocuments, hall⟩ := namespaces_of_accepted h
  refine ⟨documents, hdocuments, ⟨fun hfaithful => hfaithful.distinct, fun hdistinct => ?_⟩,
    forall₂_nothingLost_iff hall⟩
  refine ⟨(forall₂_nothingLost_iff hall).mpr ?_, hdistinct⟩
  exact fun document hdocument => (hdistinct document hdocument).agreeing

/-! ## An issuer that signs one identifier twice -/

/-- An item that says whether its holder is over 21. -/
def overItem (digestId : Int) (value : Bool) : Tag24 IssuerSignedItem :=
  ⟨⟨digestId, [], "age_over_21".toList, .bool value⟩, [if value then 0x01 else 0x00]⟩

/-- An item with the given name of the holder. -/
def nameItem : Tag24 IssuerSignedItem :=
  ⟨⟨2, [], "given_name".toList, .text "ERIKA".toList⟩, [0x02]⟩

/-- The bytes behind the digests of the sample issuer. -/
def signedItems : List (Int × Bytes) := [(0, [0x00]), (1, [0x01]), (2, [0x02])]

/-- A date of the sample. -/
def sampleTime : OffsetDateTime := ⟨0, 0, 0, Nat.zero_lt_succ _⟩

/-- A verifier with a signer whose key it can use, which checks each item against the digest that
was signed under its number. -/
def sampleIsomdl : Isomdl Unit Unit where
  codec := deterministic
  decodeResponse _ := .error "not a DeviceResponse"
  certificateFromDer der := .ok ⟨der⟩
  algorithmOid _ := idEcPublicKey
  parametersOid _ := some "1.2.840.10045.3.1.7"
  supportedCurve _ := true
  x5chainFromCbor _ := .ok ⟨⟨[]⟩, []⟩
  issuerAuthentication _ signed :=
    let items := match signed.namespaces with
      | some found => found.entries.flatMap Prod.snd
      | none => []
    if items.all fun item => signedItems.contains (item.inner.digestId, item.innerBytes) then
      .ok ⟨mdlDocType, ⟨sampleTime, sampleTime, sampleTime, none⟩⟩
    else .error "digest mismatch"
  validateWithOptions _ _ _ _ := .done ⟨false, [], []⟩
  deviceAuthentication _ _ _ := .error "no device key"
  noReport _ := ()
  displayTime _ := ""

/-- A response with one document, which discloses those items. -/
def sampleResponse (items : List (Tag24 IssuerSignedItem)) : DeviceResponse :=
  ⟨"1.0".toList, some [{
    docType := mdlDocType
    issuerSigned := {
      namespaces := some ⟨[(isoNamespace, items)], List.pairwise_singleton _ _⟩
      issuerAuth := ⟨[], [(.int x5chainHeaderLabel, .bytes [])], none, []⟩ }
    deviceSigned := ⟨[], .deviceSignature ⟨[], [], none, []⟩⟩ }]⟩

lemma sampleNow_subsec_lt : 0 < 2000000000 := Nat.zero_lt_succ _

/-- The clock of the samples. -/
def sampleNow : DateTime := ⟨0, 0, sampleNow_subsec_lt⟩

/-- The verification of a sample response. -/
def sampleVerification (items : List (Tag24 IssuerSignedItem)) : Outcome MdlError MdlVerification :=
  (verifyDocumentsWith sampleIsomdl sampleNow (sampleResponse items) [] VerifyOptions.default
    sampleIsomdl.noFetcher).output

theorem disclosesFaithfully_sample : ∃ v documents,
    sampleVerification [overItem 0 false, nameItem] = .ok v ∧
    (sampleResponse [overItem 0 false, nameItem]).documents = some documents ∧
    DisclosesFaithfully documents v.documents := by
  have hok : (sampleVerification [overItem 0 false, nameItem]).isOk = true := by decide +kernel
  obtain ⟨v, hv⟩ := Outcome.isOk_iff.mp hok
  obtain ⟨documents, hdocuments, hfaithful, -⟩ := disclosesFaithfully_iff hv
  refine ⟨v, documents, hv, hdocuments, hfaithful.mpr ?_⟩
  obtain rfl := Option.some.inj hdocuments
  rintro document hdocument name items ⟨found, hfound, hmem⟩
  obtain rfl := List.mem_singleton.mp hdocument
  obtain rfl := Option.some.inj hfound
  obtain ⟨-, rfl⟩ := Prod.mk.inj (List.mem_singleton.mp hmem)
  decide

/-- Of two items that say whether the holder is over 21, the one sent last is shown. -/
theorem disclosesFaithfully_overwritten :
    ¬ ∀ (iso : Isomdl Unit Unit) (now : DateTime) (response : DeviceResponse)
        (anchors : List IacaAnchor) (options : VerifyOptions) (fetcher : RevocationFetcher Unit Unit)
        (v : MdlVerification),
      (verifyDocumentsWith iso now response anchors options fetcher).output = .ok v →
      ∃ documents, response.documents = some documents ∧
        DisclosesFaithfully documents v.documents := by
  intro h
  have hok : (sampleVerification [overItem 0 false, overItem 1 true]).isOk = true := by
    decide +kernel
  obtain ⟨v, hv⟩ := Outcome.isOk_iff.mp hok
  obtain ⟨documents, hdocuments, hfaithful⟩ := h _ _ _ _ _ _ v hv
  obtain ⟨documents', hdocuments', hall⟩ := namespaces_of_accepted hv
  obtain rfl := Option.some.inj (hdocuments.symm.trans hdocuments')
  have hagree := (forall₂_nothingLost_iff hall).mp hfaithful.appears
  obtain rfl := Option.some.inj hdocuments
  have hvalues := hagree _ List.mem_cons_self isoNamespace _ ⟨_, rfl, List.mem_cons_self⟩
    (overItem 0 false) List.mem_cons_self (overItem 1 true)
    (List.mem_cons_of_mem _ List.mem_cons_self) rfl (.bool false) (.bool true) rfl rfl
  cases hvalues

end MdlVerify
