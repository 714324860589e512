import IdentityCrates.MdlVerify.Properties.Disclosure
import IdentityCrates.Mobile.Mdl
import Mathlib.Data.List.Forall2
import Mathlib.Data.List.Perm.Basic

/-!
# The answers about ages

Two layers answer whether the holder is over an age.  `MdlDocument::age_over` writes the age into an
identifier and looks that up; the identity reads the ages out of the identifiers that were disclosed
and takes the first that matches.

Reading a number accepts more than is written: a plus sign and leading zeros.  An element under such
an identifier is an answer in the identity and none in the document, and beside an element with the
plain identifier it lists the age twice.  `ageAnswersAgree_iff` says that nothing else sets the
layers apart.
-/

namespace IdentityMobile

namespace Mdl

open MdlVerify hiding MdlValue
open MdlVerify (MdlValue)
open Rust Text

/-- The document discloses a boolean under the identifier, and the identifier asks about that
age. -/
def AttestsAge (document : MdlDocument) (identifier : Str) (years : UInt8) (answer : Bool) : Prop :=
  document.iso identifier = some (.bool answer) ∧ ageOf identifier = some years

/-- The identity answers about ages what the document does, and lists each attestation of the
document once and no age twice. -/
structure AgeAnswersAgree (document : MdlDocument) (identity : VerifiedIdentity) : Prop where
  agree : ∀ years, identity.ageOver years = document.ageOver years
  listed : ∃ identifiers : List Str, identifiers.Nodup ∧
    (∀ identifier, identifier ∈ identifiers ↔
      ∃ years answer, AttestsAge document identifier years answer) ∧
    List.Forall₂ (fun identifier attestation =>
      AttestsAge document identifier attestation.1 attestation.2)
      identifiers identity.ageAttestations
  once : (identity.ageAttestations.map Prod.fst).Nodup

/-- Every attestation of an age has the identifier that the age is written in. -/
def PlainAges (document : MdlDocument) : Prop :=
  ∀ identifier years answer, AttestsAge document identifier years answer →
    identifier = ageIdentifier years

/-! ## The attestations of a document -/

variable {document : MdlDocument}

/-- The elements of the ISO namespace. -/
def isoElements (document : MdlDocument) : List (Str × MdlValue) :=
  match document.namespaces.get? isoNamespace with
  | none => []
  | some elements => elements.entries

lemma mem_isoElements {identifier : Str} {value : MdlValue} :
    (identifier, value) ∈ isoElements document ↔ document.iso identifier = some value := by
  unfold isoElements MdlDocument.iso MdlDocument.element
  cases document.namespaces.get? isoNamespace with
  | none => exact iff_of_false List.not_mem_nil nofun
  | some elements => exact BTreeMap.get?_eq_some.symm

lemma pairwise_isoElements : (isoElements document).Pairwise fun a b => a.1 ≠ b.1 := by
  unfold isoElements
  split
  · exact List.Pairwise.nil
  · rename_i elements _
    exact elements.sorted.imp fun h => h.ne

/-- What `age_attestations` makes of an element. -/
def attestation (element : Str × MdlValue) : Option (UInt8 × Bool) := do
  let years ← ageOf element.1
  return (years, ← element.2.asBool)

lemma asBool_eq_some {value : MdlValue} {answer : Bool} :
    value.asBool = some answer ↔ value = .bool answer := by
  cases value with
  | bool b =>
    exact ⟨fun h => congrArg MdlValue.bool (Option.some.inj h), fun h => congrArg MdlValue.asBool h⟩
  | _ => exact iff_of_false nofun nofun

lemma attestation_eq_some {element : Str × MdlValue} {years : UInt8} {answer : Bool} :
    attestation element = some (years, answer) ↔
      ageOf element.1 = some years ∧ element.2 = .bool answer := by
  rw [← asBool_eq_some]
  unfold attestation
  cases ageOf element.1 with
  | none => simp
  | some n => cases element.2.asBool <;> simp

lemma ageAttestations_perm :
    (ageAttestations document).Perm ((isoElements document).filterMap attestation) := by
  unfold ageAttestations isoElements
  cases document.namespaces.get? isoNamespace with
  | none => exact List.Perm.refl _
  | some elements => exact List.mergeSort_perm _ _

lemma mem_ageAttestations {years : UInt8} {answer : Bool} :
    (years, answer) ∈ ageAttestations document ↔
      ∃ identifier, AttestsAge document identifier years answer := by
  rw [ageAttestations_perm.mem_iff, List.mem_filterMap]
  constructor
  · rintro ⟨⟨identifier, value⟩, hmem, hattests⟩
    obtain ⟨hage, rfl⟩ := attestation_eq_some.mp hattests
    exact ⟨identifier, mem_isoElements.mp hmem, hage⟩
  · rintro ⟨identifier, hiso, hage⟩
    exact ⟨(identifier, .bool answer), mem_isoElements.mpr hiso,
      attestation_eq_some.mpr ⟨hage, rfl⟩⟩

/-- No age is listed twice when each is asked about under one identifier. -/
lemma nodup_ages_iff :
    ((ageAttestations document).map Prod.fst).Nodup ↔
      ∀ identifier identifier' years answer answer', AttestsAge document identifier years answer →
        AttestsAge document identifier' years answer' → identifier = identifier' := by
  rw [(ageAttestations_perm.map Prod.fst).nodup_iff, List.Nodup, List.pairwise_map,
    List.pairwise_filterMap]
  constructor
  · intro hpairs identifier identifier' years answer answer' hattests hattests'
    have hsame : ∀ ⦃a⦄, a ∈ isoElements document → ∀ ⦃b⦄, b ∈ isoElements document →
        ∀ c, attestation a = some c → ∀ d, attestation b = some d → c.1 = d.1 → a = b := by
      apply List.Pairwise.forall_of_forall_of_flip
      · exact fun _ _ _ _ _ _ _ => rfl
      · exact hpairs.imp fun h c hc d hd heq => absurd heq (h c hc d hd)
      · exact hpairs.imp fun h c hc d hd heq => absurd heq.symm (h d hd c hc)
    exact congrArg Prod.fst (hsame (mem_isoElements.mpr hattests.1)
      (mem_isoElements.mpr hattests'.1) (years, answer) (attestation_eq_some.mpr ⟨hattests.2, rfl⟩)
      (years, answer') (attestation_eq_some.mpr ⟨hattests'.2, rfl⟩) rfl)
  · intro hone
    refine pairwise_isoElements.imp_of_mem ?_
    rintro ⟨identifier, value⟩ ⟨identifier', value'⟩ hmem hmem' hne ⟨years, answer⟩ hattests
      ⟨years', answer'⟩ hattests' rfl
    obtain ⟨hage, rfl⟩ := attestation_eq_some.mp hattests
    obtain ⟨hage', rfl⟩ := attestation_eq_some.mp hattests'
    exact hne (hone identifier identifier' years answer answer' ⟨mem_isoElements.mp hmem, hage⟩
      ⟨mem_isoElements.mp hmem', hage'⟩)

/-- Each attestation of the document is listed once. -/
lemma exists_listed (document : MdlDocument) :
    ∃ identifiers : List Str, identifiers.Nodup ∧
      (∀ identifier, identifier ∈ identifiers ↔
        ∃ years answer, AttestsAge document identifier years answer) ∧
      List.Forall₂ (fun identifier attestation =>
        AttestsAge document identifier attestation.1 attestation.2)
        identifiers (ageAttestations document) := by
  have hattests : List.Forall₂ (fun identifier entry =>
      AttestsAge document identifier entry.1 entry.2)
      (((isoElements document).filter fun element => (attestation element).isSome).map Prod.fst)
      ((isoElements document).filterMap attestation) := by
    rw [List.forall₂_map_left_iff]
    refine (List.Forall₂.of_filterMap attestation _).imp ?_
    rintro ⟨identifier, value⟩ ⟨years, answer⟩ ⟨hmem, hattests⟩
    obtain ⟨hage, rfl⟩ := attestation_eq_some.mp hattests
    exact ⟨mem_isoElements.mp hmem, hage⟩
  obtain ⟨identifiers, hperm, hlisted⟩ := hattests.exists_perm ageAttestations_perm.symm
  refine ⟨identifiers, ?_, ?_, hlisted⟩
  · rw [← hperm.nodup_iff, List.Nodup, List.pairwise_map]
    exact pairwise_isoElements.filter _
  · intro identifier
    rw [← hperm.mem_iff, List.mem_map]
    constructor
    · rintro ⟨⟨identifier, value⟩, hmem, rfl⟩
      obtain ⟨hmem, hsome⟩ := List.mem_filter.mp hmem
      obtain ⟨⟨years, answer⟩, hattests⟩ := Option.isSome_iff_exists.mp hsome
      obtain ⟨hage, rfl⟩ := attestation_eq_some.mp hattests
      exact ⟨years, answer, mem_isoElements.mp hmem, hage⟩
    · rintro ⟨years, answer, hiso, hage⟩
      refine ⟨_, List.mem_filter.mpr ⟨mem_isoElements.mpr hiso, ?_⟩, rfl⟩
      exact Option.isSome_iff_exists.mpr ⟨_, attestation_eq_some.mpr ⟨hage, rfl⟩⟩

/-! ## Numbers and their numerals -/

lemma ageOf_ageIdentifier (years : UInt8) : ageOf (ageIdentifier years) = some years := by
  have hdigits : (Nat.toDigits 10 years.toNat).all Char.isDigit = true :=
    List.all_eq_true.mpr fun c hc => Nat.isDigit_of_mem_toDigits (by decide) (by decide) hc
  have hparse : parseUnsigned 255 (Nat.toDigits 10 years.toNat) = some years.toNat := by
    rw [parseUnsigned_of_digits Nat.toDigits_ne_nil hdigits, ofDigits_toDigits]
    rw [ofDigits_toDigits]
    exact Nat.le_of_lt_succ years.toNat_lt
  have hsuffix : "age_over_".toList.isPrefixOf? (ageIdentifier years) =
      some (Nat.toDigits 10 years.toNat) := rfl
  unfold ageOf
  rw [hsuffix, Option.bind_eq_bind, Option.bind_some, hparse, Option.bind_eq_bind,
    Option.bind_some, UInt8.ofNat_toNat]
  rfl

lemma attestsAge_ageIdentifier {years : UInt8} {answer : Bool} :
    AttestsAge document (ageIdentifier years) years answer ↔
      document.ageOver years = some answer := by
  unfold AttestsAge MdlDocument.ageOver
  rw [and_iff_left (ageOf_ageIdentifier years), Option.bind_eq_bind, Option.bind_eq_some_iff]
  constructor
  · exact fun h => ⟨_, h, rfl⟩
  · rintro ⟨value, hvalue, hbool⟩
    rw [hvalue, asBool_eq_some.mp hbool]

/-! ## The two layers -/

/-- An age that is listed has an answer. -/
lemma exists_ageOver {identity : VerifiedIdentity} {years : UInt8} {answer : Bool}
    (h : (years, answer) ∈ identity.ageAttestations) :
    ∃ answer', identity.ageOver years = some answer' := by
  unfold VerifiedIdentity.ageOver
  cases hfind : identity.ageAttestations.find? fun attestation => attestation.1 == years with
  | some attestation => exact ⟨attestation.2, rfl⟩
  | none => exact absurd BEq.rfl (List.find?_eq_none.mp hfind (years, answer) h)

/-- Of ages of which none is listed twice, the first that matches is the one that does. -/
lemma ageOver_eq_some {identity : VerifiedIdentity}
    (honce : (identity.ageAttestations.map Prod.fst).Nodup) {years : UInt8} {answer : Bool} :
    identity.ageOver years = some answer ↔ (years, answer) ∈ identity.ageAttestations := by
  have hmem : ∀ {answer}, identity.ageOver years = some answer →
      (years, answer) ∈ identity.ageAttestations := by
    intro answer h
    obtain ⟨⟨n, answer⟩, hfind, rfl⟩ := Option.map_eq_some_iff.mp h
    obtain rfl : n = years := by simpa using List.find?_some hfind
    exact List.mem_of_find?_eq_some hfind
  refine ⟨hmem, fun h => ?_⟩
  obtain ⟨answer', hanswer'⟩ := exists_ageOver h
  have heq := List.inj_on_of_nodup_map honce h (hmem hanswer') rfl
  rw [hanswer', (Prod.mk.inj heq).2]

/-- **The answers agree exactly when every age is asked about in its own numeral.** -/
theorem ageAnswersAgree_iff (document : MdlDocument) (sessionProfile : Option Str) :
    AgeAnswersAgree document (identity document sessionProfile) ↔ PlainAges document := by
  constructor
  · rintro ⟨hagree, -, honce⟩ identifier years answer hattests
    obtain ⟨answer', hanswer'⟩ := exists_ageOver
      (show (years, answer) ∈ (identity document sessionProfile).ageAttestations from
        mem_ageAttestations.mpr ⟨identifier, hattests⟩)
    have hplain := attestsAge_ageIdentifier.mpr ((hagree years).symm.trans hanswer')
    exact nodup_ages_iff.mp honce identifier _ years answer answer' hattests hplain
  · intro hplain
    have honce : ((ageAttestations document).map Prod.fst).Nodup := by
      rw [nodup_ages_iff]
      intro identifier identifier' years answer answer' hattests hattests'
      rw [hplain identifier years answer hattests, hplain identifier' years answer' hattests']
    refine ⟨fun years => Option.ext fun answer => ?_, exists_listed document, honce⟩
    rw [ageOver_eq_some honce, ← attestsAge_ageIdentifier]
    constructor
    · intro hmem
      obtain ⟨identifier, hattests⟩ := mem_ageAttestations.mp hmem
      rwa [← hplain identifier years answer hattests]
    · exact fun hattests => mem_ageAttestations.mpr ⟨_, hattests⟩

/-- An element that says, in the two digits of the standard, that its holder is over 5. -/
def overFive : Tag24 IssuerSignedItem := ⟨⟨0, [], "age_over_05".toList, .bool true⟩, [0x00]⟩

/-- The identity says that the holder of a verified document is over 5, and the document does
not. -/
theorem ageAnswersAgree_overFive :
    ¬ ∀ (iso : Isomdl Unit Unit) (now : DateTime) (response : DeviceResponse)
        (anchors : List IacaAnchor) (options : VerifyOptions) (fetcher : RevocationFetcher Unit Unit)
        (v : MdlVerification),
      (verifyDocumentsWith iso now response anchors options fetcher).output = .ok v →
      ∀ document ∈ v.documents, ∀ sessionProfile,
        AgeAnswersAgree document (identity document sessionProfile) := by
  intro h
  have hanswers : (fun v => v.documents.map fun document =>
      (document.iso "age_over_05".toList >>= MdlValue.asBool, document.ageOver 5)) <$>
        sampleVerification [overFive] = .ok [(some true, none)] := by decide +kernel
  obtain ⟨v, hv, hdocuments⟩ := Outcome.map_eq_ok.mp hanswers
  obtain ⟨document, hdocument, hanswer⟩ := List.map_eq_singleton_iff.mp hdocuments
  obtain ⟨hidentifier, hnone⟩ := Prod.mk.inj hanswer
  obtain ⟨value, hiso, hbool⟩ := Option.bind_eq_some_iff.mp hidentifier
  rw [asBool_eq_some.mp hbool] at hiso
  have hagree := (h _ _ _ _ _ _ v hv document (hdocument ▸ List.mem_cons_self) none).agree 5
  have hage : ageOf "age_over_05".toList = some 5 := by decide +kernel
  have hlisted : (5, true) ∈ (identity document none).ageAttestations :=
    mem_ageAttestations.mpr ⟨_, hiso, hage⟩
  obtain ⟨answer, hfive⟩ := exists_ageOver hlisted
  rw [hnone, hfive] at hagree
  cases hagree

end Mdl

end IdentityMobile
