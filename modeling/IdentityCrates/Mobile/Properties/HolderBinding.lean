import IdentityCrates.Dmrtd.Properties.SodConformance
import IdentityCrates.Dmrtd.Proto.Chip
import IdentityCrates.Mobile.Properties.LostTag

/-!
# Where an identity and its holder come from

A chip answers as it pleases, and may choose each answer by all that was said before.  What a
successful `read_passport` says is nevertheless tied to one EF.SOD whose signature was checked in the
same call (`readPassport_provenance`).  The fields of the identity are computed from the bytes of
EF.DG1 and EF.DG2 that this EF.SOD vouches for.  A holder is bound only by a challenge that was drawn
after EF.DG15 had been read, and whose answer was accepted under the key parsed from the same bytes
that EF.SOD vouches for.

The states between the steps of the read are named (`FilesRead`), so that the statement says which
file was read when.  The log of the observed platform gives the order of the draw and of the last
exchange.
-/

namespace IdentityMobile

open Rust Octets Text
open Dmrtd

variable {σ : Type}

/-! ## Reading a file -/

lemma mandatory_eq_ok {α : Type} {read : Proc (Passport (Channel σ)) PassportError α}
    {asLost asRefused : PassportError → IdentityError} {a : α} {p p' : Passport (Channel σ)}
    (h : Reading.mandatory read asLost asRefused p = (.ok a, p')) : read p = (.ok a, p') := by
  rw [Reading.mandatory_apply] at h
  rcases hread : read p with ⟨b | e | _, q⟩
  · rw [hread] at h
    obtain ⟨ha, rfl⟩ := Prod.mk.inj h
    rw [Outcome.ok.inj ha]
  · rw [hread] at h
    simp at h
  · rw [hread] at h
    simp at h

lemma optional_eq_some {α : Type} {read : Proc (Passport (Channel σ)) PassportError α}
    {asLost : IdentityError} {a : α} {p p' : Passport (Channel σ)}
    (h : Reading.optional read asLost p = (.ok (some a), p')) : read p = (.ok a, p') := by
  rw [Reading.optional_apply] at h
  rcases hread : read p with ⟨b | e | _, q⟩
  · rw [hread] at h
    obtain ⟨ha, rfl⟩ := Prod.mk.inj h
    rw [Option.some.inj (Outcome.ok.inj ha)]
  · rw [hread] at h
    have hfirst := (Prod.mk.inj h).1
    split at hfirst <;> simp at hfirst
  · rw [hread] at h
    simp at h

section Files

variable [ApduChannel σ]

/-- The bytes of a file are read from `p` on, and the read ends at `p'`. -/
def ReadsFile (file : Df1File) (bytes : Bytes) (p p' : Passport (Channel σ)) : Prop :=
  ∃ selected, Passport.selectDf1 (Reading.clearFailure p).2 = (.ok (), selected) ∧
    Passport.onApi (MrtdApi.readFileBySfi file.sfi) selected = (.ok bytes, p')

lemma readDf1_eq_ok {ρ : Type} {file : Df1File} {parse : Bytes → Outcome EfParseError ρ} {r : ρ}
    {p p' : Passport (Channel σ)}
    (h : Passport.readDf1 file parse (Reading.clearFailure p).2 = (.ok r, p')) :
    ∃ bytes, ReadsFile file bytes p p' ∧ parse bytes = .ok r := by
  obtain ⟨⟨⟩, selected, hselect, h⟩ := Proc.bind_eq_ok.mp h
  obtain ⟨bytes, read, hread, h⟩ := Proc.bind_eq_ok.mp h
  obtain ⟨hparse, rfl⟩ := Prod.mk.inj h
  exact ⟨bytes, ⟨selected, hselect, hread⟩, Outcome.mapErr_eq_ok.mp hparse⟩

end Files

/-! Each of the parsed files keeps the bytes that it was parsed from. -/

lemma encoded_of_dg1 {today : NaiveDate} {bytes : Bytes} {dg1 : EfDG1}
    (h : EfDG1.fromBytes today bytes = .ok dg1) : dg1.encoded = bytes := by
  obtain ⟨inner, -, h⟩ := Outcome.bind_eq_ok.mp h
  obtain ⟨mrzTlv, -, h⟩ := Outcome.bind_eq_ok.mp h
  split at h
  · simp at h
  split at h
  · simp at h
  obtain ⟨mrz, -, h⟩ := Outcome.bind_eq_ok.mp h
  rw [← Outcome.ok.inj h]

lemma encoded_of_readBiometricDataBlock {dg2 dg2' : EfDG2} {elements : List DecodedTv}
    (h : dg2.readBiometricDataBlock elements = .ok dg2') : dg2'.encoded = dg2.encoded := by
  unfold EfDG2.readBiometricDataBlock at h
  obtain ⟨first, -, h⟩ := Outcome.bind_eq_ok.mp h
  split at h
  · simp at h
  dsimp only at h
  split at h
  · simp at h
  obtain ⟨version, -, h⟩ := Outcome.bind_eq_ok.mp h
  split at h
  · simp at h
  -- the eleven numbers of the facial record header
  iterate 11 obtain ⟨_, -, h⟩ := Outcome.bind_eq_ok.mp h
  split at h
  · simp at h
  split at h
  · simp at h
  -- the eight numbers of the image, and the image
  iterate 9 obtain ⟨_, -, h⟩ := Outcome.bind_eq_ok.mp h
  rw [← Outcome.ok.inj h]

lemma encoded_of_readBit {dg2 dg2' : EfDG2} {stream : Bytes}
    (h : dg2.readBit stream = .ok dg2') : dg2'.encoded = dg2.encoded := by
  obtain ⟨tvl, -, h⟩ := Outcome.bind_eq_ok.mp h
  split at h
  · simp at h
  obtain ⟨bht, -, h⟩ := Outcome.bind_eq_ok.mp h
  split at h
  · rw [Outcome.ok.inj h]
  split at h
  · obtain ⟨elements, -, h⟩ := Outcome.bind_eq_ok.mp h
    exact encoded_of_readBiometricDataBlock h
  · simp at h

lemma encoded_of_dg2 {bytes : Bytes} {dg2 : EfDG2} (h : EfDG2.fromBytes bytes = .ok dg2) :
    dg2.encoded = bytes := by
  obtain ⟨body, -, h⟩ := Outcome.bind_eq_ok.mp h
  obtain ⟨bigt, -, h⟩ := Outcome.bind_eq_ok.mp h
  split at h
  · simp at h
  obtain ⟨bict, -, h⟩ := Outcome.bind_eq_ok.mp h
  split at h
  · simp at h
  split at h
  · simp at h
  dsimp only at h
  split at h
  · obtain ⟨bits, -, h⟩ := Outcome.bind_eq_ok.mp h
    exact encoded_of_readBit h
  · rw [← Outcome.ok.inj h]
    rfl

lemma encoded_of_dg15 {bytes : Bytes} {dg15 : EfDG15} (h : EfDG15.fromBytes bytes = .ok dg15) :
    dg15.encoded = bytes := by
  obtain ⟨content, -, h⟩ := Outcome.bind_eq_ok.mp h
  obtain ⟨key, -, h⟩ := Outcome.bind_eq_ok.mp h
  rw [← Outcome.ok.inj h]

/-! ## The statement -/

/-- What is printed on the document, as far as EF.DG1 and EF.DG2 tell: the identity, the document
code and the issuing state. -/
def printedIdentity (mappingDay : NaiveDate) (dg1 : Bytes) (dg2 : Option Bytes) :
    Outcome IdentityError (VerifiedIdentity × Str × Str) :=
  identityFromFiles mappingDay ⟨[], dg1, dg2, none⟩

/-- The identity is what the bytes of EF.DG1 and EF.DG2 say, under an EF.SOD that vouches for these
bytes; only the verdicts and the lists of data groups are added to it. -/
structure FromFiles (E : Environment) (files : PassportFiles) (identity : VerifiedIdentity) :
    Prop where
  dg1 : Passive.Vouched E.suite files.sod 1 files.dg1
  dg2 : ∀ bytes, files.dg2 = some bytes → Passive.Vouched E.suite files.sod 2 bytes
  fields : ∃ printed documentCode issuingState verifiedGroups sodGroups authenticity,
    printedIdentity E.mappingDay files.dg1 files.dg2 = .ok (printed, documentCode, issuingState) ∧
    identity = { printed with
      authenticity, source := some (.passport documentCode issuingState verifiedGroups sodGroups) }

section Statement

variable [ApduChannel σ]

/-- The session of the call is up. -/
def Opened (E : Environment) (key : MrzKey) (options : PassportOptions) (platform : σ)
    (opened : Passport (Channel (Recorded σ))) : Prop :=
  ∃ cardAccess probed, probe E (observed platform) = (.ok cardAccess, probed) ∧
    openSession E key options.session cardAccess probed = (.ok (), opened)

/-- The files are read one after the other, EF.SOD last. -/
structure FilesRead (files : PassportFiles) (opened p₁ p₂ p₃ p₄ : Passport (Channel (Recorded σ))) :
    Prop where
  dg1 : ReadsFile (.dg 0) files.dg1 opened p₁
  dg2 : ∀ bytes, files.dg2 = some bytes → ReadsFile (.dg 1) bytes p₁ p₂
  dg15 : ∀ bytes, files.dg15 = some bytes → ReadsFile (.dg 14) bytes p₂ p₃
  sod : ReadsFile .sod files.sod p₃ p₄
  order : logOf opened <+: logOf p₁ ∧ logOf p₁ <+: logOf p₂ ∧ logOf p₂ <+: logOf p₃ ∧
    logOf p₃ <+: logOf p₄

/-- The challenge is sent in INTERNAL AUTHENTICATE, under the session if there is one, and the chip's
answer carries `response`. -/
def Answered (challenge : FixedBytes 8) (response : Bytes)
    (p p' : Passport (Channel (Recorded σ))) : Prop :=
  ∃ cmd wire answer rapdu unwrapped sent received,
    CommandApdu.new Cla.noSm Ins.internalAuthenticate 0x00 0x00 (some challenge.val) 256 =
      .ok cmd ∧
    MrtdApi.withSm (MrtdSM.protect cmd) cmd p.api = (.ok wire, sent) ∧
    logOf p' = logOf p ++ [.exchanged wire.toBytes (.ok answer)] ∧
    ResponseApdu.fromBytes answer = .ok rapdu ∧
    received.sm = sent.sm ∧
    MrtdApi.withSm (MrtdSM.unprotect rapdu) rapdu received = (.ok unwrapped, p'.api) ∧
    unwrapped.data = some response

/-- A fresh challenge is drawn and answered, and the answer is accepted under the public key parsed
from the bytes `dg15`. -/
def HolderProven [RandomSource σ] (E : Environment) (dg15 : Bytes)
    (p p' : Passport (Channel (Recorded σ))) : Prop :=
  ∃ file challenge response drawn,
    EfDG15.fromBytes dg15 = .ok file ∧
    drawChallenge (Reading.clearFailure p).2 = (.ok challenge, drawn) ∧
    logOf drawn = logOf p ++ [.drew (.ok challenge)] ∧
    Answered challenge response drawn p' ∧
    Active.verify E.suite file.pubKey challenge.val response = .ok ()

/-- Where the identity and the binding of its holder come from. -/
def HasProvenance [RandomSource σ] (E : Environment) (key : MrzKey) (options : PassportOptions)
    (platform : σ) (identity : VerifiedIdentity) (final : Passport (Channel (Recorded σ))) : Prop :=
  ∃ files opened p₁ p₂ p₃ p₄,
    Opened E key options platform opened ∧ FilesRead files opened p₁ p₂ p₃ p₄ ∧
    FromFiles E files identity ∧
    (identity.authenticity.holderBound = some true → ∃ dg15, files.dg15 = some dg15 ∧
      Passive.Vouched E.suite files.sod 15 dg15 ∧ HolderProven E dg15 p₄ final)

end Statement

/-! ## The files -/

/-- Whatever comes of the step, the log only grows. -/
abbrev Grows {α : Type} (m : Reading (Recorded σ) α) : Prop :=
  Proc.Preserves (fun p p' : Passport (Channel (Recorded σ)) => logOf p <+: logOf p') m

lemma Logged.isPrefix {p p' : Passport (Channel (Recorded σ))} {fault : Bool}
    (h : Logged fault p p') : logOf p <+: logOf p' :=
  let ⟨events, hlog, _⟩ := h
  ⟨events, hlog.symm⟩

lemma grows_clear_bind {α : Type} {m : Reading (Recorded σ) α} (h : Grows m) :
    Grows (Reading.clearFailure >>= fun _ => m) :=
  fun p => h (Reading.clearFailure p).2

lemma grows_mandatory {α : Type} {read : Proc (Passport (Channel (Recorded σ))) PassportError α}
    {asLost asRefused : PassportError → IdentityError} (h : read.Surfaces ReadStretch) :
    Grows (Reading.mandatory read asLost asRefused) := by
  intro p
  obtain ⟨fault, hstretch, -⟩ := h p
  have hlog := (Logged.of_stretch hstretch).isPrefix
  rw [Reading.mandatory_apply]
  rcases hread : read p with ⟨a | e | _, q⟩ <;> rw [hread] at hlog <;> exact hlog

lemma grows_optional {α : Type} {read : Proc (Passport (Channel (Recorded σ))) PassportError α}
    {asLost : IdentityError} (h : read.Surfaces ReadStretch) :
    Grows (Reading.optional read asLost) := by
  intro p
  obtain ⟨fault, hstretch, -⟩ := h p
  have hlog := (Logged.of_stretch hstretch).isPrefix
  rw [Reading.optional_apply]
  rcases hread : read p with ⟨a | e | _, q⟩ <;> rw [hread] at hlog <;> exact hlog

section Reads

variable [ApduChannel σ]

lemma grows_readDg1 (E : Environment) : Grows (σ := σ) (readDg1 E) :=
  grows_clear_bind (grows_mandatory (Passport.readDf1_surfaces apiStretch _ _))

lemma grows_readAsked {α : Type} (asked : Bool) (file : Df1File)
    (parse : Bytes → Outcome EfParseError α) (lost : IdentityError) :
    Grows (σ := σ) (readAsked asked file parse lost) := by
  unfold readAsked
  split
  · exact grows_clear_bind (grows_optional (Passport.readDf1_surfaces apiStretch _ _))
  · exact fun p => List.prefix_rfl

lemma grows_readSod : Grows (σ := σ) readSod :=
  grows_clear_bind (grows_mandatory (Passport.readDf1_surfaces apiStretch _ _))

omit [ApduChannel σ] in
lemma Grows.of_ok {α : Type} {m : Reading (Recorded σ) α} (h : Grows m) {a : α}
    {p p' : Passport (Channel (Recorded σ))} (hm : m p = (.ok a, p')) : logOf p <+: logOf p' := by
  have hlog := h p
  rwa [hm] at hlog

lemma readDg1_spec {E : Environment} {p p' : Passport (Channel (Recorded σ))} {dg1 : EfDG1}
    (h : readDg1 E p = (.ok dg1, p')) : ReadsFile (.dg 0) dg1.encoded p p' := by
  obtain ⟨bytes, hreads, hparse⟩ := readDf1_eq_ok (mandatory_eq_ok h)
  exact encoded_of_dg1 hparse ▸ hreads

/-- What an optional read keeps was asked for, and is parsed from the file it names. -/
lemma readAsked_spec {α : Type} {asked : Bool} {file : Df1File}
    {parse : Bytes → Outcome EfParseError α} {lost : IdentityError}
    {p p' : Passport (Channel (Recorded σ))} {kept : α}
    (h : readAsked asked file parse lost p = (.ok (some kept), p')) :
    asked = true ∧ ∃ bytes, ReadsFile file bytes p p' ∧ parse bytes = .ok kept := by
  unfold readAsked at h
  split at h
  · next hasked => exact ⟨hasked, readDf1_eq_ok (optional_eq_some h)⟩
  · exact absurd (Prod.mk.inj h).1 (by simp)

lemma readDg2_spec {options : PassportOptions} {p p' : Passport (Channel (Recorded σ))}
    {dg2 : EfDG2} (h : readDg2 options p = (.ok (some dg2), p')) :
    ReadsFile (.dg 1) dg2.encoded p p' := by
  obtain ⟨-, bytes, hreads, hparse⟩ := readAsked_spec h
  exact encoded_of_dg2 hparse ▸ hreads

/-- The file that is kept for Active Authentication is the one that its own bytes parse to. -/
lemma readDg15_spec {options : PassportOptions} {p p' : Passport (Channel (Recorded σ))}
    {dg15 : EfDG15} (h : readDg15 options p = (.ok (some dg15), p')) :
    ReadsFile (.dg 14) dg15.encoded p p' ∧ EfDG15.fromBytes dg15.encoded = .ok dg15 := by
  obtain ⟨-, bytes, hreads, hparse⟩ := readAsked_spec h
  obtain rfl := encoded_of_dg15 hparse
  exact ⟨hreads, hparse⟩

lemma readSod_spec {p p' : Passport (Channel (Recorded σ))} {sod : EfSOD}
    (h : readSod p = (.ok sod, p')) : ReadsFile .sod sod.encoded p p' := by
  obtain ⟨bytes, hreads, hparse⟩ := readDf1_eq_ok (mandatory_eq_ok h)
  obtain rfl := Outcome.ok.inj hparse
  exact hreads

end Reads

/-! ## The challenge and its answer -/

lemma drawChallenge_eq_ok [RandomSource σ] {p p' : Passport (Channel (Recorded σ))}
    {challenge : FixedBytes 8} (h : drawChallenge p = (.ok challenge, p')) :
    logOf p' = logOf p ++ [.drew (.ok challenge)] := by
  obtain ⟨hfirst, rfl⟩ := Prod.mk.inj h
  show p.api.transceiver.inner.log ++
    [Event.drew (RandomSource.fill p.api.transceiver.inner.platform).1] = _
  rcases hdrawn : (RandomSource.fill p.api.transceiver.inner.platform).1 with e | drawn
  · have hsame : (RandomSource.fill p.api.transceiver.inner).1 = .error e := hdrawn
    rw [hsame] at hfirst
    simp at hfirst
  · have hsame : (RandomSource.fill p.api.transceiver.inner).1 = .ok drawn := hdrawn
    rw [hsame] at hfirst
    obtain rfl := Outcome.ok.inj hfirst
    rfl

section Answer

variable [ApduChannel σ]

lemma transceive_eq_ok {apdu answer : Bytes} {c c' : Channel (Recorded σ)}
    (h : (Transceiver.transceive apdu : Proc (Channel (Recorded σ)) TransceiveError Bytes) c =
      (.ok answer, c')) : c'.inner.log = c.inner.log ++ [.exchanged apdu (.ok answer)] := by
  have hrun : Channel.transceive apdu c = (.ok answer, c') := h
  obtain ⟨⟨platform, log⟩, failed⟩ := c
  rcases hanswer : ApduChannel.transceive apdu platform with ⟨e | bytes, platform'⟩
  · simp [Channel.transceive, ApduChannel.transceive, hanswer] at hrun
  · simp only [Channel.transceive, ApduChannel.transceive, hanswer, Prod.mk.injEq,
      Outcome.ok.injEq] at hrun
    obtain ⟨rfl, rfl⟩ := hrun
    rfl

omit [ApduChannel σ] in
/-- Secure messaging does not touch the channel. -/
lemma withSm_transceiver {α : Type} {m : Proc MrtdSM SmError α} {plain : α}
    {api api' : MrtdApi (Channel (Recorded σ))} {o : Outcome MrtdApiError α}
    (h : MrtdApi.withSm m plain api = (o, api')) : api'.transceiver = api.transceiver := by
  obtain ⟨t, _ | sm⟩ := api
  · rw [← (Prod.mk.inj h).2]
  · rw [← (Prod.mk.inj h).2]

lemma activeAuthenticate_eq_ok {challenge : FixedBytes 8} {response : Bytes}
    {p p' : Passport (Channel (Recorded σ))}
    (h : Passport.activeAuthenticate challenge.val p = (.ok response, p')) :
    Answered challenge response p p' := by
  obtain ⟨hfirst, rfl⟩ := Prod.mk.inj h
  have hfirst := Outcome.mapErr_eq_ok.mp hfirst
  rcases hrun : MrtdApi.activeAuthenticate challenge.val p.api with ⟨o, final⟩
  rw [hrun] at hfirst
  obtain rfl : o = .ok response := hfirst
  unfold MrtdApi.activeAuthenticate at hrun
  rw [if_neg (not_not.mpr challenge.property)] at hrun
  obtain ⟨r, received', hsend, hlast⟩ := Proc.bind_eq_ok.mp hrun
  obtain ⟨hdata, rfl⟩ := Prod.mk.inj hlast
  obtain ⟨cmd, hcmd, hsend⟩ := Proc.lift_bind_eq_ok.mp hsend
  obtain ⟨wire, sent, hwire, hsend⟩ := Proc.bind_eq_ok.mp hsend
  obtain ⟨answer, received, hexchange, hsend⟩ := Proc.bind_eq_ok.mp hsend
  obtain ⟨rapdu, hrapdu, hsend⟩ := Proc.lift_bind_eq_ok.mp hsend
  obtain ⟨unwrapped, unprotected, hunwrapped, hsend⟩ := Proc.bind_eq_ok.mp hsend
  split at hsend
  · simp at hsend
  obtain ⟨hr, rfl⟩ := Prod.mk.inj hsend
  obtain rfl := Outcome.ok.inj hr
  obtain ⟨t, sm⟩ := sent
  obtain ⟨hanswer, hreceived⟩ := MrtdApi.onTransceiver_eq_ok.mp hexchange
  have hsame : t = p.api.transceiver := withSm_transceiver hwire
  have hlog := transceive_eq_ok (Prod.ext hanswer rfl)
  refine ⟨cmd, wire, answer, rapdu, unwrapped, ⟨t, sm⟩, received, Outcome.mapErr_eq_ok.mp hcmd,
    hwire, ?_, Outcome.mapErr_eq_ok.mp hrapdu, by rw [hreceived], hunwrapped,
    Outcome.ofOption_eq_ok.mp hdata⟩
  show unprotected.transceiver.inner.log = logOf p ++ _
  rw [withSm_transceiver hunwrapped, hreceived, hlog, hsame]
  rfl

end Answer

/-- The challenge is only ever accepted under the key of the file that was read. -/
lemma activeAuthentication_eq_true [ApduChannel σ] [RandomSource σ] {E : Environment}
    {options : PassportOptions} {dg15File : Option EfDG15} {p p' : Passport (Channel (Recorded σ))}
    (h : activeAuthentication E options dg15File p = (.ok (some true), p'))
    (hfile : ∀ file, dg15File = some file → EfDG15.fromBytes file.encoded = .ok file) :
    ∃ file, dg15File = some file ∧ HolderProven E file.encoded p p' := by
  unfold activeAuthentication at h
  cases hoption : options.activeAuthentication with
  | false =>
    rw [hoption] at h
    exact absurd (Prod.mk.inj h).1 (by simp)
  | true =>
    rw [hoption] at h
    cases dg15File with
    | none => exact absurd (Prod.mk.inj h).1 (by simp)
    | some file =>
    have hparse := hfile file rfl
    refine ⟨file, rfl, ?_⟩
    obtain ⟨⟨⟩, cleared, hcleared, h⟩ := Proc.bind_eq_ok.mp h
    obtain rfl : (Reading.clearFailure p).2 = cleared := congrArg Prod.snd hcleared
    obtain ⟨challenge, drawn, hdrawn, h⟩ := Proc.bind_eq_ok.mp h
    obtain ⟨response, answered, hanswered, h⟩ := Proc.bind_eq_ok.mp h
    cases response with
    | none =>
      have hfalse := Option.some.inj (Outcome.ok.inj (Prod.mk.inj h).1)
      simp at hfalse
    | some response =>
      obtain ⟨hverdict, rfl⟩ := Prod.mk.inj h
      have hok := Option.some.inj (Outcome.ok.inj hverdict)
      obtain ⟨⟨⟩, hverify⟩ := Outcome.isOk_iff.mp hok
      have hlog : logOf drawn = logOf (Reading.clearFailure p).2 ++ _ := drawChallenge_eq_ok hdrawn
      exact ⟨file, challenge, response, drawn, hparse, hdrawn, hlog,
        activeAuthenticate_eq_ok (optional_eq_some hanswered), hverify⟩

/-! ## The verdict on the files -/

lemma holderBinding_eq_true {proved : Option Bool} {covered : Bool}
    (h : holderBinding proved covered = some true) : proved = some true ∧ covered = true := by
  obtain _ | _ | _ := proved
  · simp [holderBinding] at h
  · simp [holderBinding] at h
  · cases covered with
    | false => simp [holderBinding] at h
    | true => exact ⟨rfl, rfl⟩

lemma mem_groups {files : PassportFiles} {dg : Passive.DataGroup} (h : dg ∈ files.groups) :
    dg = ⟨1, files.dg1⟩ ∨ (∃ bytes, files.dg2 = some bytes ∧ dg = ⟨2, bytes⟩) ∨
      ∃ bytes, files.dg15 = some bytes ∧ dg = ⟨15, bytes⟩ := by
  obtain ⟨sod, dg1, dg2, dg15⟩ := files
  cases dg2 <;> cases dg15 <;> simp [PassportFiles.groups] at h ⊢ <;> tauto

/-- What `verify_files` returns is computed from files that one EF.SOD vouches for, and a proof of
possession counts only for an EF.DG15 that it vouches for as well. -/
lemma verifyFiles_eq_ok {E : Environment} {files : PassportFiles} {anchors : List Bytes}
    {proved : Option Bool} {identity : VerifiedIdentity}
    (h : verifyFiles E files anchors proved = .ok identity) :
    FromFiles E files identity ∧ (∃ covered, identity.authenticity.holderBound =
      holderBinding proved covered ∧ (covered = true → ∃ dg15, files.dg15 = some dg15 ∧
        Passive.Vouched E.suite files.sod 15 dg15)) := by
  obtain ⟨anchors, -, h⟩ := Outcome.bind_eq_ok.mp h
  obtain ⟨passive, hpassive, h⟩ := Outcome.bind_eq_ok.mp h
  obtain ⟨⟨printed, documentCode, issuingState⟩, hprinted, h⟩ := Outcome.bind_eq_ok.mp h
  have hpassive := Outcome.mapErr_eq_ok.mp hpassive
  obtain rfl := Outcome.ok.inj h
  have hvouched : ∀ dg ∈ files.groups, Passive.Vouched E.suite files.sod dg.number dg.bytes :=
    fun dg hdg => Passive.vouched_of_verify hpassive hdg
  refine ⟨⟨hvouched ⟨1, files.dg1⟩ (by simp [PassportFiles.groups]), fun bytes hbytes => ?_, ?_⟩,
    passive.verifiedGroups.contains 15, rfl, fun hcovered => ?_⟩
  · exact hvouched ⟨2, bytes⟩ (by simp [PassportFiles.groups, hbytes])
  · exact ⟨printed, documentCode, issuingState, _, _, _, hprinted, rfl⟩
  · obtain ⟨dg, hdg, hnumber⟩ :=
      Passive.exists_of_mem_verifiedGroups hpassive (List.contains_iff_mem.mp hcovered)
    obtain rfl | ⟨bytes, -, rfl⟩ | ⟨bytes, hbytes, rfl⟩ := mem_groups hdg
    · exact absurd hnumber (by simp)
    · exact absurd hnumber (by simp)
    · exact ⟨bytes, hbytes, hvouched _ hdg⟩

/-! ## The whole read -/

/-- The read names its states: the files come from one pass over the chip, and Active Authentication
is the last thing that happens on it. -/
lemma readFiles_eq_ok [ApduChannel σ] [RandomSource σ] {E : Environment}
    {options : PassportOptions} {opened final : Passport (Channel (Recorded σ))}
    {files : PassportFiles} {proved : Option Bool}
    (h : readFiles E options opened = (.ok (files, proved), final)) :
    ∃ p₁ p₂ p₃ p₄, FilesRead files opened p₁ p₂ p₃ p₄ ∧
      (proved = some true → ∃ dg15, files.dg15 = some dg15 ∧ HolderProven E dg15 p₄ final) := by
  obtain ⟨dg1, p₁, hdg1, h⟩ := Proc.bind_eq_ok.mp h
  obtain ⟨dg2, p₂, hdg2, h⟩ := Proc.bind_eq_ok.mp h
  obtain ⟨dg15, p₃, hdg15, h⟩ := Proc.bind_eq_ok.mp h
  obtain ⟨sod, p₄, hsod, h⟩ := Proc.bind_eq_ok.mp h
  obtain ⟨proved', final', hproved, h⟩ := Proc.bind_eq_ok.mp h
  obtain ⟨hfiles, rfl⟩ := Prod.mk.inj h
  obtain ⟨rfl, rfl⟩ := Prod.mk.inj (Outcome.ok.inj hfiles)
  refine ⟨p₁, p₂, p₃, p₄, ⟨readDg1_spec hdg1, ?_, ?_, readSod_spec hsod, (grows_readDg1 E).of_ok hdg1,
    (grows_readAsked _ _ _ _).of_ok hdg2, (grows_readAsked _ _ _ _).of_ok hdg15,
    grows_readSod.of_ok hsod⟩, ?_⟩
  · intro bytes hbytes
    obtain ⟨file, rfl, rfl⟩ := Option.map_eq_some_iff.mp hbytes
    exact readDg2_spec hdg2
  · intro bytes hbytes
    obtain ⟨file, rfl, rfl⟩ := Option.map_eq_some_iff.mp hbytes
    exact (readDg15_spec hdg15).1
  · rintro rfl
    obtain ⟨file, rfl, hproven⟩ := activeAuthentication_eq_true hproved fun file hfile => by
      subst hfile
      exact (readDg15_spec hdg15).2
    exact ⟨file.encoded, rfl, hproven⟩

/-- What a successful read did: it opened a session, read the files and judged them. -/
lemma readPassport_eq_ok [ApduChannel σ] [RandomSource σ] {E : Environment} {key : MrzKey}
    {anchors : List Bytes} {options : PassportOptions} {platform : σ} {read : PassportRead}
    {final : Passport (Channel (Recorded σ))}
    (h : readPassport E key anchors options (observed platform) = (.ok read, final)) :
    ∃ opened files proved, Opened E key options platform opened ∧
      readFiles E options opened = (.ok (files, proved), final) ∧
      verifyFiles E files anchors proved = .ok read.identity := by
  obtain ⟨cardAccess, probed, hprobe, h⟩ := Proc.bind_eq_ok.mp h
  obtain ⟨⟨⟩, opened, hopened, h⟩ := Proc.bind_eq_ok.mp h
  obtain ⟨⟨files, proved⟩, read', hfiles, h⟩ := Proc.bind_eq_ok.mp h
  obtain ⟨identity, hverified, h⟩ := Proc.lift_bind_eq_ok.mp h
  obtain ⟨hread, rfl⟩ := Prod.mk.inj h
  obtain rfl := Outcome.ok.inj hread
  exact ⟨opened, files, proved, ⟨cardAccess, probed, hprobe, hopened⟩, hfiles, hverified⟩

/-- A proof of possession that counts is one under an EF.DG15 that EF.SOD vouches for. -/
lemma holderProven_of_bound {E : Environment} {files : PassportFiles} {anchors : List Bytes}
    {proved : Option Bool} {identity : VerifiedIdentity} {P : Bytes → Prop}
    (hverified : verifyFiles E files anchors proved = .ok identity)
    (hproven : proved = some true → ∃ dg15, files.dg15 = some dg15 ∧ P dg15)
    (hbound : identity.authenticity.holderBound = some true) :
    ∃ dg15, files.dg15 = some dg15 ∧ Passive.Vouched E.suite files.sod 15 dg15 ∧ P dg15 := by
  obtain ⟨-, covered, hbinding, hcovered⟩ := verifyFiles_eq_ok hverified
  obtain ⟨rfl, rfl⟩ := holderBinding_eq_true (hbinding.symm.trans hbound)
  obtain ⟨dg15, hdg15, hvouched⟩ := hcovered rfl
  obtain ⟨dg15', hdg15', hholder⟩ := hproven rfl
  obtain rfl := Option.some.inj (hdg15.symm.trans hdg15')
  exact ⟨dg15, hdg15, hvouched, hholder⟩

/-- A successful read has provenance, on any platform, with any key, anchors and options. -/
lemma readPassport_hasProvenance [ApduChannel σ] [RandomSource σ] {E : Environment} {key : MrzKey}
    {anchors : List Bytes} {options : PassportOptions} {platform : σ} {read : PassportRead}
    {final : Passport (Channel (Recorded σ))}
    (h : readPassport E key anchors options (observed platform) = (.ok read, final)) :
    HasProvenance E key options platform read.identity final := by
  obtain ⟨opened, files, proved, hopened, hfiles, hverified⟩ := readPassport_eq_ok h
  obtain ⟨p₁, p₂, p₃, p₄, hchain, hproven⟩ := readFiles_eq_ok hfiles
  exact ⟨files, opened, p₁, p₂, p₃, p₄, hopened, hchain, (verifyFiles_eq_ok hverified).1,
    holderProven_of_bound hverified hproven⟩

/-- What the two entry points vouch for. -/
structure PassportProvenance (E : Environment) : Prop where
  /-- A read traces the identity, and the binding of its holder, to one EF.SOD checked in the same
  call. -/
  read : ∀ {σ : Type} [ApduChannel σ] [RandomSource σ] (key : MrzKey) (anchors : List Bytes)
    (options : PassportOptions) (platform : σ) (read : PassportRead)
    (final : Passport (Channel (Recorded σ))),
    readPassport E key anchors options (observed platform) = (.ok read, final) →
    HasProvenance E key options platform read.identity final
  /-- Files that were read earlier never bind a holder. -/
  verify : ∀ (files : PassportFiles) (anchors : List Bytes) (identity : VerifiedIdentity),
    verifyPassport E files anchors = .ok identity →
    FromFiles E files identity ∧ identity.authenticity.holderBound = none

/-- **Provenance of an identity and of its holder**, for every environment. -/
theorem readPassport_provenance (E : Environment) : PassportProvenance E where
  read _ _ _ _ _ _ h := readPassport_hasProvenance h
  verify files anchors identity h := by
    obtain ⟨hfrom, covered, hbound, -⟩ := verifyFiles_eq_ok h
    exact ⟨hfrom, hbound⟩

/-! ## A read that binds the holder

The document of `sampleSod`, whose chip opens a BAC session, serves the three files and answers one
challenge under the key of `sampleDg15`. -/

/-- The challenge that is drawn. -/
def sampleChallenge : FixedBytes 8 := ⟨toBE 8 0x0102030405060708, length_toBE 8 _⟩

/-- Its hash. -/
def sampleChallengeHash : Bytes :=
  toBE 32 0x66840dda154e8a113c31dd0ad32f7f3a366a80e8136979d8f5a101d3d29d6f72

/-- The chip's answer to it. -/
def sampleAnswer : Bytes := toBE 64
  0xcee1fb11084055ee48934acf5bb5b553a4973af79d36fc3449ffd791ffd339e991ee75946d42f2fad664ebb6fcbd0355716736f6232ab699f1f10acc06f4e1e4

/-- What was recorded of the document and of its answer. -/
def sampleSuite : Passive.SuiteRecording where
  digests := (sampleChallenge.val, sampleChallengeHash) :: Passive.sodRecording.digests
  signatures := Passive.sodRecording.signatures
  prehashed := [(Passive.chipPoint, sampleChallengeHash, sampleAnswer)]

lemma march_mem : 1 ≤ 3 ∧ 3 ≤ 12 := by decide

lemma second_mem : 1 ≤ 2 ∧ 2 ≤ daysInMonth 2027 3 := by decide

/-- The second of March 2027. -/
def marchSecond : NaiveDate := ⟨2027, 3, 2, march_mem, second_mem⟩

lemma shorter_of_none {data sequence rest : Bytes}
    (h : (none : Option (Bytes × Bytes)) = some (sequence, rest)) : rest.length < data.length := by
  simp at h

/-- No EF.CardAccess is read, so nothing is asked of the reader of it. -/
def sampleEnvironment : Environment where
  primitives := .transparent
  suite := sampleSuite.suite
  asn1 := {
    parseSet _ := none
    readSequence _ := none
    readSequence_shorter := shorter_of_none
    readObjectIdentifier _ := none
    readInteger _ := none
    extraData := "" }
  paceEntropy := []
  rndIfd := ⟨toBE 8 0x0101010101010101, length_toBE 8 _⟩
  kifd := ⟨toBE 16 0x02020202020202020202020202020202, length_toBE 16 _⟩
  readingDay := marchSecond
  mappingDay := marchSecond
  utcDay := marchSecond

/-- The access key that is printed on the document, as far as it matters here. -/
def sampleKey : MrzKey := ⟨"L898902C3".toList, marchSecond, marchSecond⟩

/-- BAC, and Active Authentication without the photograph. -/
def sampleOptions : PassportOptions := ⟨.bac, false, true, false⟩

/-- The chip of the document: before the handshake, in it, and in a session with a file selected. -/
inductive Document where
  | plain
  | challenged
  | secured (chip : Chip) (file : Bytes)

namespace Document

/-- The chip's nonce. -/
def rndIcc : Bytes := toBE 8 0x0909090909090909

/-- The chip's key half. -/
def kicc : Bytes := toBE 16 0x03030303030303030303030303030303

/-- The file with this short identifier. -/
def file (sfi : UInt8) : Bytes :=
  if sfi = 0x01 then Passive.sampleDg1
  else if sfi = 0x0F then Passive.sampleDg15
  else if sfi = 0x1D then Passive.sampleSod Passive.plainAttributes Passive.plainSignature
  else []

/-- The chip's side of EXTERNAL AUTHENTICATE: the answer, and the session. -/
def authenticate (cryptogram : Bytes) : Option (Bytes × Chip) := do
  let keys ← (dba sampleKey false).toOption
  let P := Primitives.transparent
  let s ← (Bac.decryptEIcc P (keys.encKey P) cryptogram).toOption
  let e ← (Bac.encryptS P (keys.encKey P) (rndIcc ++ s.take 8 ++ kicc)).toOption
  let mac ← (Bac.macE P (keys.macKey P) e).toOption
  let session ← (Bac.calculateSessionKeys P (s.drop 16) kicc).toOption
  let ssc ← (Bac.calculateSsc (s.take 8) rndIcc).toOption
  let sm ← (Bac.establishSm P session.1 session.2 ssc).toOption
  return (e ++ mac, ⟨sm.cipher, sm.ssc⟩)

/-- A command without its protection: the data of the answer, and the file that is selected now. -/
def serve (cmd : CommandApdu.Wire) (selected : Bytes) : Bytes × Bytes :=
  match cmd.header with
  | [_, ins, p1, p2] =>
    if ins = Ins.readBinary then
      if p1 &&& 0x80 ≠ 0 then
        (((file (p1 &&& 0x1F)).drop p2.toNat).take cmd.ne, file (p1 &&& 0x1F))
      else ((selected.drop (ofBE [p1, p2])).take cmd.ne, selected)
    else if ins = Ins.internalAuthenticate then (sampleAnswer, selected)
    else ([], selected)
  | _ => ([], selected)

/-- One exchange. -/
def exchange (apdu : Bytes) : Document → Except String Bytes × Document
  | .plain =>
    if apdu.getD 1 0 = Ins.selectFile then (.ok [0x90, 0x00], .plain)
    else if apdu.getD 1 0 = Ins.getChallenge then (.ok (rndIcc ++ [0x90, 0x00]), .challenged)
    else (.ok [0x6A, 0x82], .plain)
  | .challenged =>
    match authenticate ((apdu.drop 5).take 32) with
    | some (answer, chip) => (.ok (answer ++ [0x90, 0x00]), .secured chip [])
    | none => (.ok [0x69, 0x82], .plain)
  | .secured chip selected =>
    match chip.receive apdu with
    | (some cmd, chip) =>
      let (data, selected) := serve cmd selected
      match chip.respond false StatusWord.success data with
      | (some answer, chip) => (.ok answer, .secured chip selected)
      | (none, chip) => (.ok [0x69, 0x88], .secured chip selected)
    | (none, chip) => (.ok [0x69, 0x88], .secured chip selected)

instance documentChannel : ApduChannel Document := ⟨exchange⟩

instance documentRandomness : RandomSource Document := ⟨fun document => (.ok sampleChallenge, document)⟩

end Document

/-- The read binds the holder, and the binding has provenance. -/
theorem readPassport_provenance_sample : ∃ read final,
    readPassport sampleEnvironment sampleKey [Passive.signerCertificate] sampleOptions
      (observed Document.plain) = (.ok read, final) ∧
    read.identity.authenticity.holderBound = some true ∧
    HasProvenance sampleEnvironment sampleKey sampleOptions Document.plain read.identity final := by
  have hbound : (readPassport sampleEnvironment sampleKey [Passive.signerCertificate] sampleOptions
      (observed Document.plain)).1.isOkAnd
        (fun read => decide (read.identity.authenticity.holderBound = some true)) = true := by
    decide +kernel
  obtain ⟨read, hread, htrue⟩ := Outcome.isOkAnd_iff.mp hbound
  have hrun : readPassport sampleEnvironment sampleKey [Passive.signerCertificate] sampleOptions
      (observed Document.plain) = (.ok read, _) := Prod.ext hread rfl
  exact ⟨read, _, hrun, of_decide_eq_true htrue,
    (readPassport_provenance sampleEnvironment).read _ _ _ _ _ _ hrun⟩

end IdentityMobile
