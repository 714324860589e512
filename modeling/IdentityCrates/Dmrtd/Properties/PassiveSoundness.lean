import IdentityCrates.Dmrtd.Auth.Passive

/-!
# What passive authentication vouches for

`verify` chains four parsers, a lookup for every data group and two signature checks.  Its
successful runs are described here once and for all (`verify_eq_ok`): EF.SOD opens to a signature
that holds (`SodVerified`), every supplied data group has the hash that the signed list gives for its
number, and the anchors decide nothing but the trust in the Document Signer.

`Vouched sod number bytes` is what such a run says of a single data group.
-/

namespace Dmrtd

open Rust Octets

namespace Passive

variable {S : SignatureSuite}

/-! ## An EF.SOD whose signature holds -/

/-- EF.SOD opens to `signed`, around the security object `lds`, and the certificate `dsc` that it
names for its signer vouches for `message`. -/
structure SodVerified (sod : Bytes) (signed : SignedData) (lds : LdsSecurityObject)
    (dsc : Certificate S) (message : Bytes) : Prop where
  parsed : SignedData.parse S sod = .ok signed
  contentType : signed.contentType = oidLdsSecurityObject
  securityObject : LdsSecurityObject.parse signed.encapContent = .ok lds
  certificate : Certificate.parse S signed.signerCert = .ok dsc
  scheme : schemeMatchesKey dsc.publicKey signed.sigScheme = true
  checked : signedMessage S signed = .ok message
  signature : dsc.publicKey.verify signed.sigScheme signed.signatureHash message
    signed.signature = true

/-- The signed list gives the hash of these bytes for the data group of this number. -/
def Vouched (S : SignatureSuite) (sod : Bytes) (number : UInt8) (bytes : Bytes) : Prop :=
  ∃ (signed : SignedData) (lds : LdsSecurityObject) (dsc : Certificate S) (message : Bytes),
    SodVerified sod signed lds dsc message ∧
    lds.hashes.lookup number = some (S.digest lds.hashAlgo bytes)

/-! ## The successful runs of `verify` -/

/-- The loop over the supplied data groups succeeds if each of them has its hash in the list. -/
lemma matchGroups_eq_ok {lds : LdsSecurityObject} {groups : List DataGroup} :
    matchGroups S lds groups = .ok () ↔
      ∀ dg ∈ groups, lds.hashes.lookup dg.number = some (S.digest lds.hashAlgo dg.bytes) := by
  induction groups with
  | nil => simp [matchGroups]
  | cons dg groups ih =>
    rw [matchGroups, List.forall_mem_cons]
    cases hlookup : lds.hashes.lookup dg.number with
    | none => simp
    | some expected =>
      dsimp only
      split
      · rename_i hne
        refine iff_of_false (by simp) fun hall => hne ?_
        exact (Option.some.inj hall.1).symm
      · rename_i heq
        rw [not_not] at heq
        rw [ih, heq]
        exact (and_iff_right rfl).symm

/-- The numbers of the supplied data groups, as the result lists them. -/
def verifiedNumbers (groups : List DataGroup) : List UInt8 :=
  ((groups.map DataGroup.number).insertionSort (· ≤ ·)).destutter (· ≠ ·)

/-- Only the number of a data group that was supplied is listed as verified. -/
lemma exists_of_mem_verifiedNumbers {groups : List DataGroup} {number : UInt8}
    (h : number ∈ verifiedNumbers groups) : ∃ dg ∈ groups, dg.number = number := by
  have hsorted := (List.destutter_sublist _ _).subset h
  rw [List.mem_insertionSort] at hsorted
  exact List.mem_map.mp hsorted

/-- What `verify` accepts, and what it returns. -/
theorem verify_eq_ok {sod : Bytes} {groups : List DataGroup} {anchors : List (TrustAnchor S)}
    {result : PassiveAuth} :
    verify S sod groups anchors = .ok result ↔
      groups ≠ [] ∧ ∃ (signed : SignedData) (lds : LdsSecurityObject) (dsc : Certificate S)
        (message : Bytes), SodVerified sod signed lds dsc message ∧
        (∀ dg ∈ groups, lds.hashes.lookup dg.number = some (S.digest lds.hashAlgo dg.bytes)) ∧
        result = ⟨verifiedNumbers groups, lds.hashes.map Prod.fst, chainStatus anchors dsc⟩ := by
  constructor
  · intro h
    unfold verify at h
    split at h
    · simp at h
    rename_i hgroups
    obtain ⟨signed, hsigned, h⟩ := Outcome.bind_eq_ok.mp h
    split at h
    · simp at h
    rename_i htype
    obtain ⟨lds, hlds, h⟩ := Outcome.bind_eq_ok.mp h
    obtain ⟨⟨⟩, hmatch, h⟩ := Outcome.bind_eq_ok.mp h
    obtain ⟨dsc, hdsc, h⟩ := Outcome.bind_eq_ok.mp h
    split at h
    · simp at h
    rename_i hscheme
    obtain ⟨message, hmessage, h⟩ := Outcome.bind_eq_ok.mp h
    split at h
    · simp at h
    rename_i hverified
    refine ⟨hgroups, signed, lds, dsc, message, ?_, matchGroups_eq_ok.mp hmatch,
      (Outcome.ok.inj h).symm⟩
    exact ⟨hsigned, not_not.mp htype, hlds, hdsc, not_not.mp hscheme, hmessage,
      not_not.mp hverified⟩
  · rintro ⟨hgroups, signed, lds, dsc, message, hsod, hall, rfl⟩
    rw [verify, if_neg hgroups, hsod.parsed, Outcome.ok_bind, if_neg (not_not.mpr hsod.contentType),
      hsod.securityObject, Outcome.ok_bind, matchGroups_eq_ok.mpr hall, Outcome.ok_bind,
      hsod.certificate, Outcome.ok_bind, if_neg (not_not.mpr hsod.scheme), hsod.checked,
      Outcome.ok_bind, if_neg (not_not.mpr hsod.signature)]
    rfl

/-- Every data group that was supplied to a successful run is vouched for. -/
lemma vouched_of_verify {sod : Bytes} {groups : List DataGroup} {anchors : List (TrustAnchor S)}
    {result : PassiveAuth} (h : verify S sod groups anchors = .ok result) {dg : DataGroup}
    (hdg : dg ∈ groups) : Vouched S sod dg.number dg.bytes := by
  obtain ⟨-, signed, lds, dsc, message, hsod, hall, -⟩ := verify_eq_ok.mp h
  exact ⟨signed, lds, dsc, message, hsod, hall dg hdg⟩

/-- A group that the result lists as verified was supplied. -/
lemma exists_of_mem_verifiedGroups {sod : Bytes} {groups : List DataGroup}
    {anchors : List (TrustAnchor S)} {result : PassiveAuth}
    (h : verify S sod groups anchors = .ok result) {number : UInt8}
    (hnumber : number ∈ result.verifiedGroups) : ∃ dg ∈ groups, dg.number = number := by
  obtain ⟨-, signed, lds, dsc, message, -, -, rfl⟩ := verify_eq_ok.mp h
  exact exists_of_mem_verifiedNumbers hnumber

/-! ## The anchors -/

/-- The Document Signer is trusted if one of the anchors signed its certificate. -/
lemma isTrusted_chainStatus {anchors : List (TrustAnchor S)} {dsc : Certificate S} :
    (chainStatus anchors dsc).isTrusted = true ↔ ∃ a ∈ anchors, a.signed dsc = true := by
  unfold chainStatus
  cases hfind : anchors.find? fun a => a.signed dsc with
  | none =>
    refine iff_of_false (by simp [ChainStatus.isTrusted]) ?_
    rintro ⟨a, ha, hsigned⟩
    exact List.find?_eq_none.mp hfind a ha hsigned
  | some a =>
    have hsigned : a.signed dsc = true := List.find?_some (p := fun a : TrustAnchor S => a.signed dsc) hfind
    exact iff_of_true rfl ⟨a, List.mem_of_find?_eq_some hfind, hsigned⟩

/-- An anchor that signed the certificate carries its issuer's name, so the verdict does not say
which of several anchors it was. -/
lemma chainStatus_eq (anchors : List (TrustAnchor S)) (dsc : Certificate S) :
    chainStatus anchors dsc =
      if (chainStatus anchors dsc).isTrusted then .trusted dsc.issuer else .unverified := by
  unfold chainStatus
  cases hfind : anchors.find? fun a => a.signed dsc with
  | none => rfl
  | some a =>
    have hsigned := List.find?_some (p := fun a : TrustAnchor S => a.signed dsc) hfind
    simp only [TrustAnchor.signed, Bool.and_eq_true, beq_iff_eq] at hsigned
    show ChainStatus.trusted a.subject = .trusted dsc.issuer
    rw [hsigned.1.1]

/-- The verdict depends on which anchors there are, not on their order. -/
lemma chainStatus_congr {anchors anchors' : List (TrustAnchor S)}
    (h : ∀ a, a ∈ anchors' ↔ a ∈ anchors) (dsc : Certificate S) :
    chainStatus anchors' dsc = chainStatus anchors dsc := by
  have htrusted : (chainStatus anchors' dsc).isTrusted = (chainStatus anchors dsc).isTrusted := by
    rw [Bool.eq_iff_iff, isTrusted_chainStatus, isTrusted_chainStatus]
    exact exists_congr fun a => and_congr_left fun _ => h a
  rw [chainStatus_eq, chainStatus_eq anchors, htrusted]

/-- A further anchor does not take trust away. -/
lemma isTrusted_mono {anchors anchors' : List (TrustAnchor S)} (h : ∀ a ∈ anchors, a ∈ anchors')
    {dsc : Certificate S} (htrusted : (chainStatus anchors dsc).isTrusted = true) :
    (chainStatus anchors' dsc).isTrusted = true := by
  obtain ⟨a, ha, hsigned⟩ := isTrusted_chainStatus.mp htrusted
  exact isTrusted_chainStatus.mpr ⟨a, h a ha, hsigned⟩

end Passive

end Dmrtd
