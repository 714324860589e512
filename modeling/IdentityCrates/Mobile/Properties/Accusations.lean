import IdentityCrates.Dmrtd.Properties.Refusals
import IdentityCrates.Mobile.Properties.HolderBinding

/-!
# Accusations and refusals to answer

`IdentityError` keeps apart what a caller must not show in the same way: `notAuthentic` says that the
document was altered, `unsupportedAlgorithm` that this build cannot tell, and `unreadable` that a
file is not what it claims to be.  `RefusalsKeptApart` is that split for the files of a passport.

`verify_files` maps every error of passive authentication to `notAuthentic`.  The split is kept
exactly if EF.SOD is understood and every check of it that can fail is a comparison
(`refusalsKeptApart_iff`); where the trust anchors are refused first, it is enough that EF.SOD is
understood.
-/

namespace IdentityMobile

open Rust Octets
open Dmrtd

/-! ## The errors of the steps -/

lemma trustAnchors_err {E : Environment} {anchors : List Bytes} {e : IdentityError}
    (h : trustAnchors E anchors = .err e) : ∃ text, e = .anchor text := by
  induction anchors with
  | nil => cases h
  | cons der anchors ih =>
    rw [trustAnchors, List.mapM_cons] at h
    rcases Outcome.bind_eq_err.mp h with h | ⟨anchor, -, h⟩
    · obtain ⟨e', -, rfl⟩ := Outcome.mapErr_eq_err.mp h
      exact ⟨_, rfl⟩
    · rcases Outcome.bind_eq_err.mp h with h | ⟨others, -, h⟩
      · exact ih h
      · cases h

lemma identityFromFiles_err {mappingDay : NaiveDate} {files : PassportFiles} {e : IdentityError}
    (h : identityFromFiles mappingDay files = .err e) : ∃ text, e = .unreadable text := by
  obtain ⟨sod, dg1, dg2, dg15⟩ := files
  rcases Outcome.bind_eq_err.mp h with h | ⟨parsed, -, h⟩
  · obtain ⟨e', -, rfl⟩ := Outcome.mapErr_eq_err.mp h
    exact ⟨_, rfl⟩
  · cases dg2 with
    | none => cases h
    | some bytes =>
      dsimp only at h
      split at h <;> cases h

/-- How `verify_passport` fails: over the anchors, over EF.SOD, or over the MRZ of files that are
authentic. -/
lemma verifyPassport_err {E : Environment} {files : PassportFiles} {anchors : List Bytes}
    {e : IdentityError} (h : verifyPassport E files anchors = .err e) :
    (trustAnchors E anchors = .err e ∧ ∃ text, e = .anchor text) ∨
    ∃ loaded, trustAnchors E anchors = .ok loaded ∧
      ((∃ e', Passive.verify E.suite files.sod files.groups loaded = .err e' ∧
          e = .notAuthentic e'.text) ∨
        ∃ passive text, Passive.verify E.suite files.sod files.groups loaded = .ok passive ∧
          e = .unreadable text) := by
  rcases Outcome.bind_eq_err.mp h with h | ⟨loaded, hloaded, h⟩
  · exact Or.inl ⟨h, trustAnchors_err h⟩
  · refine Or.inr ⟨loaded, hloaded, ?_⟩
    rcases Outcome.bind_eq_err.mp h with h | ⟨passive, hpassive, h⟩
    · obtain ⟨e', herr, rfl⟩ := Outcome.mapErr_eq_err.mp h
      exact Or.inl ⟨e', herr, rfl⟩
    · rcases Outcome.bind_eq_err.mp h with h | ⟨printed, -, h⟩
      · obtain ⟨text, rfl⟩ := identityFromFiles_err h
        exact Or.inr ⟨passive, text, Outcome.mapErr_eq_ok.mp hpassive, rfl⟩
      · cases h

lemma groups_ne_nil (files : PassportFiles) : files.groups ≠ [] := by simp [PassportFiles.groups]

/-! ## The split -/

/-- A refusal to answer is not an accusation: the document is called not authentic only where
something was held against what was signed and differs, an algorithm that is not known is called
unsupported, and what cannot be parsed is called unreadable. -/
structure RefusalsKeptApart (E : Environment) (files : PassportFiles) (anchors : List Bytes) :
    Prop where
  notAuthentic : ∀ text, verifyPassport E files anchors = .err (.notAuthentic text) →
    Passive.Mismatch E.suite files.sod files.groups
  unsupported : Passive.Unsupported E.suite files.sod →
    ∃ text, verifyPassport E files anchors = .err (.unsupportedAlgorithm text)
  unparsable : Passive.Unparsable E.suite files.sod →
    ∃ text, verifyPassport E files anchors = .err (.unreadable text)

/-- **Accusations and refusals.** For every set of files and anchors the split is kept if and only if
EF.SOD is understood and, the anchors being understood as well, every check that can fail is a
comparison. -/
theorem refusalsKeptApart_iff (E : Environment) (files : PassportFiles) (anchors : List Bytes) :
    RefusalsKeptApart E files anchors ↔
      Passive.Opened E.suite files.sod ∧
        ((trustAnchors E anchors).isOk = true →
          Passive.Comparable E.suite files.sod files.groups) := by
  constructor
  · intro h
    have hopened : Passive.Opened E.suite files.sod := by
      by_contra hclosed
      -- nothing but the MRZ of authentic files is called unreadable
      by_cases hunsupported : Passive.Unsupported E.suite files.sod
      · obtain ⟨text, herr⟩ := h.unsupported hunsupported
        rcases verifyPassport_err herr with ⟨-, _, hother⟩ |
          ⟨loaded, -, ⟨e', -, hother⟩ | ⟨passive, _, -, hother⟩⟩ <;> cases hother
      · obtain ⟨text, herr⟩ := h.unparsable ⟨hunsupported, hclosed⟩
        rcases verifyPassport_err herr with ⟨-, _, hother⟩ |
          ⟨loaded, -, ⟨e', -, hother⟩ | ⟨passive, _, hpassive, -⟩⟩
        · cases hother
        · cases hother
        · exact hclosed (Passive.opened_of_verify hpassive)
    refine ⟨hopened, fun hanchors => ?_⟩
    obtain ⟨loaded, hloaded⟩ := Outcome.isOk_iff.mp hanchors
    obtain ⟨signed, lds, dsc, hopens⟩ := hopened
    rw [← Passive.mismatch_of_err_iff hopens (groups_ne_nil files) loaded]
    rintro ⟨e, herr⟩
    refine h.notAuthentic e.text ?_
    rw [verifyPassport, verifyFiles, hloaded, Outcome.ok_bind, herr, Outcome.mapErr_err,
      Outcome.err_bind]
  · rintro ⟨⟨signed, lds, dsc, hopens⟩, hcomparable⟩
    refine ⟨fun text herr => ?_, fun hunsupported => absurd hunsupported hopens.not_unsupported,
      fun hunparsable => absurd ⟨signed, lds, dsc, hopens⟩ hunparsable.2⟩
    rcases verifyPassport_err herr with ⟨-, _, hother⟩ |
      ⟨loaded, hloaded, ⟨e', herr', -⟩ | ⟨passive, _, -, hother⟩⟩
    · cases hother
    · exact (Passive.mismatch_of_err_iff hopens (groups_ne_nil files) loaded).mpr
        (hcomparable (Outcome.isOk_iff.mpr ⟨loaded, hloaded⟩)) ⟨e', herr'⟩
    · cases hother

/-! ## A digest that the crate does not know -/

/-- The identifier of SHA3-256. -/
def sha3Algorithm : Bytes :=
  Der.encode Der.sequence (Der.encode Der.oid [0x60, 0x86, 0x48, 0x01, 0x65, 0x03, 0x04, 0x02, 0x08])

/-- An EF.SOD around the sample security object, signed with SHA3-256 as the digest algorithm. -/
def sha3Sod : Bytes :=
  Der.encode 0x77 (Der.encode Der.sequence
    (Der.encode Der.oid [0x2a, 0x86, 0x48, 0x86, 0xf7, 0x0d, 0x01, 0x07, 0x02] ++
      Der.encode 0xA0 (Der.encode Der.sequence ([0x02, 0x01, 0x03] ++
        Der.encode Der.set sha3Algorithm ++
        Der.encode Der.sequence (Passive.objectType ++
          Der.encode 0xA0 (Der.encode Der.octetString Passive.sampleObject)) ++
        Der.encode 0xA0 Passive.signerCertificate ++
        Der.encode Der.set (Der.encode Der.sequence ([0x02, 0x01, 0x01] ++
          Der.encode Der.sequence (Der.encode Der.sequence Passive.cscaName ++ [0x02, 0x01, 0x01]) ++
          sha3Algorithm ++ Der.encode 0xA0 Passive.plainAttributes ++ Passive.ecdsaAlgorithm ++
          Der.encode Der.octetString Passive.plainSignature))))))

/-- The passport with it is called altered, though nothing was compared: the digest algorithm is one
that the crate does not know.  So is one whose EF.SOD is empty. -/
theorem refusals_called_notAuthentic :
    (verifyPassport sampleEnvironment ⟨sha3Sod, Passive.sampleDg1, none, none⟩ [] =
        .err (.notAuthentic "unsupported or unknown hash algorithm in EF.SOD") ∧
      Passive.Unsupported sampleEnvironment.suite sha3Sod ∧
      ¬ RefusalsKeptApart sampleEnvironment ⟨sha3Sod, Passive.sampleDg1, none, none⟩ []) ∧
    verifyPassport sampleEnvironment ⟨[], Passive.sampleDg1, none, none⟩ [] =
        .err (.notAuthentic "EF.SOD is not a well-formed CMS SignedData") ∧
      ¬ RefusalsKeptApart sampleEnvironment ⟨[], Passive.sampleDg1, none, none⟩ [] := by
  have herr : verifyPassport sampleEnvironment ⟨sha3Sod, Passive.sampleDg1, none, none⟩ [] =
      .err (.notAuthentic "unsupported or unknown hash algorithm in EF.SOD") := by decide +kernel
  have hdigest : (Passive.layout sha3Sod).map (fun L => Passive.algoHash L.digestAlgorithm) =
      some (.err .unsupportedHash) := by decide +kernel
  obtain ⟨L, hL, hunknown⟩ := Option.map_eq_some_iff.mp hdigest
  have hunsupported : Passive.Unsupported sampleEnvironment.suite sha3Sod := .digest hL hunknown
  have hempty : verifyPassport sampleEnvironment ⟨[], Passive.sampleDg1, none, none⟩ [] =
      .err (.notAuthentic "EF.SOD is not a well-formed CMS SignedData") := by decide +kernel
  refine ⟨⟨herr, hunsupported, fun h => ?_⟩, hempty, fun h => ?_⟩
  · obtain ⟨text, hother⟩ := h.unsupported hunsupported
    rw [herr] at hother
    cases hother
  · obtain ⟨signed, lds, dsc, hopens⟩ := (h.notAuthentic _ hempty).opened
    have hrefused : (Passive.SignedData.parse sampleEnvironment.suite []).isOk = false := by
      decide +kernel
    rw [hopens.parsed, Outcome.isOk_ok] at hrefused
    cases hrefused

end IdentityMobile
