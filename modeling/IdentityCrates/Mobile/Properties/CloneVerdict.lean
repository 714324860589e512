import IdentityCrates.Dmrtd.Properties.JudgedAnswers
import IdentityCrates.Dmrtd.Properties.ReadySession
import IdentityCrates.Mobile.Properties.HolderBinding

/-!
# The verdict that a chip is a clone

`holder_bound` has three values.  `Some(false)`, with the warning that the chip did not prove
possession of its key, accuses the document of being a clone; `None` says that nothing was
established.  The accusation is earned if the chip refused the challenge, or answered it and the
answer was judged and found wrong.

`read_passport` keeps of `active::verify` only whether it succeeded.  An answer that could not be
judged, for want of a key, a curve or a hash that the crate has, is therefore taken for a wrong one,
and in a read whose challenge was answered the verdict is earned exactly if the answer could be
judged (`cloneVerdict_iff`).  That is a condition on the key of EF.DG15 and on the answer
(`Active.Checkable`), not on the verdict.

A chip that refused was asked: the session that the read is in can protect the challenge, so it went
out and something came back.
-/

namespace IdentityMobile

open Rust Octets Text
open Dmrtd

variable {σ : Type}

/-! ## The statement -/

/-- The text of the warning. -/
def cloneWarning : String :=
  "active authentication failed: the chip did not prove possession of the " ++
    "private key for the DG15 public key the issuer signed"

section Statement

variable [ApduChannel σ]

/-- The steps of the read up to the challenge: the files, and EF.DG15 as it was parsed. -/
def beforeChallenge (E : Environment) (key : MrzKey) (options : PassportOptions) :
    Reading σ (PassportFiles × Option EfDG15) := do
  let cardAccess ← probe E
  openSession E key options.session cardAccess
  let dg1 ← readDg1 E
  let dg2 ← readDg2 options
  let dg15File ← readDg15 options
  let sod ← readSod
  return ({ sod := sod.encoded, dg1 := dg1.encoded, dg2 := dg2.map EfDG2.encoded,
            dg15 := dg15File.map EfDG15.encoded }, dg15File)

/-- The read is these steps, the challenge, and the verification of the files. -/
lemma readPassport_eq_challenge [RandomSource σ] (E : Environment) (key : MrzKey) (anchors : List Bytes)
    (options : PassportOptions) :
    (readPassport E key anchors options : Reading σ PassportRead) =
      beforeChallenge E key options >>= fun before =>
        activeAuthentication E options before.2 >>= fun proved =>
          Proc.lift (verifyFiles E before.1 anchors proved) >>= fun identity =>
            pure ⟨identity, if options.retainFiles then some before.1 else none⟩ := by
  simp only [readPassport, readFiles, beforeChallenge, Proc.bind_assoc]
  rfl

/-- In the read of the platform EF.DG15 was `file`, and `challenge` is drawn for it. -/
def Asked [RandomSource σ] (E : Environment) (key : MrzKey) (options : PassportOptions)
    (platform : σ) (file : EfDG15) (challenge : FixedBytes 8)
    (drawn : Passport (Channel (Recorded σ))) : Prop :=
  ∃ files read, beforeChallenge E key options (observed platform) = (.ok (files, some file), read) ∧
    drawChallenge (Reading.clearFailure read).2 = (.ok challenge, drawn)

/-- The challenge is sent in INTERNAL AUTHENTICATE, under the session if there is one, and the chip
answers. -/
def Exchanged (challenge : FixedBytes 8) (answer : Bytes)
    (p p' : Passport (Channel (Recorded σ))) : Prop :=
  ∃ cmd wire sent,
    CommandApdu.new Cla.noSm Ins.internalAuthenticate 0x00 0x00 (some challenge.val) 256 =
      .ok cmd ∧
    MrtdApi.withSm (MrtdSM.protect cmd) cmd p.api = (.ok wire, sent) ∧
    logOf p' = logOf p ++ [.exchanged wire.toBytes (.ok answer)]

/-- The chip's answer to the challenge carries `response`. -/
def Responded [RandomSource σ] (E : Environment) (key : MrzKey) (options : PassportOptions)
    (platform : σ) (file : EfDG15) (challenge : FixedBytes 8) (response : Bytes) : Prop :=
  ∃ drawn final, Asked E key options platform file challenge drawn ∧
    Passport.activeAuthenticate challenge.val drawn = (.ok response, final)

/-- The chip's answer to the challenge carries no response. -/
def Declined [RandomSource σ] (E : Environment) (key : MrzKey) (options : PassportOptions)
    (platform : σ) : Prop :=
  ∃ file challenge drawn answer e final, Asked E key options platform file challenge drawn ∧
    Exchanged challenge answer drawn final ∧
    Passport.activeAuthenticate challenge.val drawn = (.err e, final)

/-- The chip did not prove itself: it refused the challenge, or its answer was judged and found
wrong. -/
def ChipFailed [RandomSource σ] (E : Environment) (key : MrzKey) (options : PassportOptions)
    (platform : σ) : Prop :=
  Declined E key options platform ∨
    ∃ file challenge response, Responded E key options platform file challenge response ∧
      Active.Checkable E.suite file.pubKey response ∧
      Active.verify E.suite file.pubKey challenge.val response ≠ .ok ()

/-- A document is called a clone only for what its chip did. -/
structure VerdictEarned [RandomSource σ] (E : Environment) (key : MrzKey)
    (options : PassportOptions) (platform : σ) (authenticity : Authenticity) : Prop where
  bound : authenticity.holderBound = some false → ChipFailed E key options platform
  warned : cloneWarning ∈ authenticity.warnings → ChipFailed E key options platform
  /-- Where the answer cannot be judged, nothing is established. -/
  unjudged : ∀ file challenge response, Responded E key options platform file challenge response →
    ¬ Active.Checkable E.suite file.pubKey response → authenticity.holderBound = none

end Statement

/-! ## The session is ready for the challenge -/

/-- Whatever comes of it, the step keeps the session of the driver ready. -/
abbrev KeepsReady {α : Type} (P : Primitives) (m : Reading σ α) : Prop :=
  Proc.Preserves (fun p p' : Passport (Channel σ) => p.api.Holds (MrtdSM.Ready P) →
    p'.api.Holds (MrtdSM.Ready P)) m

section Ready

variable {P : Primitives}

lemma keepsReady_mandatory {α : Type} {read : Proc (Passport (Channel σ)) PassportError α}
    {asLost asRefused : PassportError → IdentityError}
    (h : Passport.Keeps (MrtdSM.Ready P) read) :
    KeepsReady P (Reading.mandatory read asLost asRefused) := by
  intro p
  have hkept := h p
  rw [Reading.mandatory_apply]
  rcases hread : read p with ⟨a | e | _, q⟩ <;> rw [hread] at hkept <;> exact hkept

lemma keepsReady_optional {α : Type} {read : Proc (Passport (Channel σ)) PassportError α}
    {asLost : IdentityError} (h : Passport.Keeps (MrtdSM.Ready P) read) :
    KeepsReady P (Reading.optional read asLost) := by
  intro p
  have hkept := h p
  rw [Reading.optional_apply]
  rcases hread : read p with ⟨a | e | _, q⟩ <;> rw [hread] at hkept <;> exact hkept

lemma keepsReady_clear_bind {α : Type} {m : Reading σ α} (h : KeepsReady P m) :
    KeepsReady P (Reading.clearFailure >>= fun _ => m) :=
  fun p => h (Reading.clearFailure p).2

variable [ApduChannel σ]

lemma keepsReady_openBac (E : Environment) (key : MrzKey) :
    KeepsReady (σ := σ) E.primitives (openBac E key) :=
  Proc.Preserves.bind Passport.keeps_trans (Proc.preserves_lift (fun _ => id) _) fun keys =>
    keepsReady_mandatory (Passport.startSession_keeps _ keys _)

lemma keepsReady_openSession (E : Environment) (key : MrzKey) (session : Session)
    (cardAccess : Option EfCardAccess) :
    KeepsReady (σ := σ) E.primitives (openSession E key session cardAccess) := by
  have hlift := fun pace => Proc.preserves_lift (R := fun p p' : Passport (Channel σ) =>
    p.api.Holds (MrtdSM.Ready E.primitives) → p'.api.Holds (MrtdSM.Ready E.primitives))
    (fun _ => id) (dba key pace)
  have hpace : ∀ keys access, Passport.Keeps (MrtdSM.Ready E.primitives)
      (startPace E keys access : Proc (Passport (Channel σ)) PassportError Unit) :=
    fun keys access => Passport.startSessionPace_keeps _ keys access _
  cases session with
  | bac => exact keepsReady_openBac E key
  | pace =>
    cases cardAccess with
    | none => exact Proc.preserves_fail (fun _ => id) _
    | some access =>
      exact (hlift true).bind Passport.keeps_trans fun keys =>
        keepsReady_mandatory (hpace keys access)
  | auto =>
    cases cardAccess with
    | none => exact keepsReady_openBac E key
    | some access =>
      refine (hlift true).bind Passport.keeps_trans fun keys => ?_
      refine Proc.Preserves.bind Passport.keeps_trans ?_ fun result => ?_
      · intro p
        have hkept := hpace keys access p
        unfold Proc.attempt
        rcases hrun : startPace E keys access p with ⟨a | e | _, q⟩ <;>
          rw [hrun] at hkept <;> exact hkept
      · cases result with
        | ok _ => exact Proc.preserves_pure (fun _ => id) _
        | error _ => exact keepsReady_openBac E key

lemma ready_advance (sm : MrtdSM) (h : sm.Ready P) : sm.advance.Ready P := h.advance

lemma keepsReady_readDf1 {ρ : Type} (file : Df1File) (parse : Bytes → Outcome EfParseError ρ) :
    Passport.Keeps (MrtdSM.Ready P) (Passport.readDf1 file parse :
      Proc (Passport (Channel σ)) PassportError ρ) :=
  Passport.readDf1_keeps ready_advance file parse

lemma keepsReady_readAsked {α : Type} (asked : Bool) (file : Df1File)
    (parse : Bytes → Outcome EfParseError α) (lost : IdentityError) :
    KeepsReady (σ := σ) P (readAsked asked file parse lost) := by
  unfold readAsked
  split
  · exact keepsReady_clear_bind (keepsReady_optional (keepsReady_readDf1 _ _))
  · exact fun _ => id

/-- Up to the challenge the session of the driver, if there is one, is ready. -/
lemma keepsReady_beforeChallenge (E : Environment) (key : MrzKey) (options : PassportOptions) :
    KeepsReady (σ := σ) E.primitives (beforeChallenge E key options) := by
  refine Proc.Preserves.bind Passport.keeps_trans ?_ fun cardAccess => ?_
  · refine Proc.Preserves.bind Passport.keeps_trans (keepsReady_optional
      (Passport.readEfCardAccess_keeps ready_advance _)) fun cardAccess => ?_
    exact keepsReady_clear_bind fun _ => id
  refine (keepsReady_openSession E key _ cardAccess).bind Passport.keeps_trans fun _ => ?_
  refine Proc.Preserves.bind Passport.keeps_trans
    (keepsReady_clear_bind (keepsReady_mandatory (keepsReady_readDf1 _ _))) fun _ => ?_
  refine Proc.Preserves.bind Passport.keeps_trans (keepsReady_readAsked _ _ _ _) fun _ => ?_
  refine Proc.Preserves.bind Passport.keeps_trans (keepsReady_readAsked _ _ _ _) fun dg15File => ?_
  exact Proc.Preserves.bind Passport.keeps_trans
    (keepsReady_clear_bind (keepsReady_mandatory (keepsReady_readDf1 _ _))) fun _ _ => id

end Ready

/-! ## The challenge and what came back -/

section Challenge

variable [ApduChannel σ]

/-- Where the transport did not fail, something came back. -/
lemma transceive_answered {apdu : Bytes} {c : Channel (Recorded σ)}
    (h : (Transceiver.transceive apdu c :
      Outcome TransceiveError Bytes × Channel (Recorded σ)).2.transportFailed = false) :
    ∃ answer, (Transceiver.transceive apdu c :
      Outcome TransceiveError Bytes × Channel (Recorded σ)).2.inner.log =
        c.inner.log ++ [.exchanged apdu (.ok answer)] := by
  rcases hrun : (Transceiver.transceive apdu c :
    Outcome TransceiveError Bytes × Channel (Recorded σ)) with ⟨answer | e | _, c'⟩
  · exact ⟨answer, transceive_eq_ok hrun⟩
  · have hrun' : Channel.transceive apdu c = (.err e, c') := hrun
    rw [hrun] at h
    unfold Channel.transceive at hrun'
    split at hrun'
    · simp at hrun'
    · rw [← (Prod.mk.inj hrun').2] at h
      cases h
  · exact absurd (congrArg Prod.fst hrun) (Channel.transceive_ne_panic apdu c)

/-- A ready driver sends the challenge, and unless the transport failed the chip answered. -/
lemma exchanged_of_ready {P : Primitives} {challenge : FixedBytes 8} {o : Outcome PassportError Bytes}
    {drawn final : Passport (Channel (Recorded σ))} (hready : drawn.api.Holds (MrtdSM.Ready P))
    (h : Passport.activeAuthenticate challenge.val drawn = (o, final))
    (hflag : failedOf final = false) : ∃ answer, Exchanged challenge answer drawn final := by
  obtain ⟨cmd, wire, sm, hcmd, hwire, hsent⟩ :=
    MrtdApi.activeAuthenticate_sends hready challenge.property
  have hfinal : final.api.transceiver = (Transceiver.transceive wire.toBytes drawn.api.transceiver :
      Outcome TransceiveError Bytes × Channel (Recorded σ)).2 := by
    rw [← hsent, ← (Prod.mk.inj h).2]
  obtain ⟨answer, hlog⟩ := transceive_answered (hfinal.symm ▸ hflag :
    (Transceiver.transceive wire.toBytes drawn.api.transceiver :
      Outcome TransceiveError Bytes × Channel (Recorded σ)).2.transportFailed = false)
  refine ⟨answer, cmd, wire, _, hcmd, hwire, ?_⟩
  rw [logOf, hfinal, hlog]
  rfl

variable [RandomSource σ]

/-- What Active Authentication comes to: nothing without a challenge, and otherwise what the answer
says. -/
lemma activeAuthentication_eq_ok {E : Environment} {options : PassportOptions}
    {dg15File : Option EfDG15} {p final : Passport (Channel (Recorded σ))} {proved : Option Bool}
    (h : activeAuthentication E options dg15File p = (.ok proved, final)) :
    (options.activeAuthentication && dg15File.isSome) = false ∧ proved = none ∨
    ∃ file challenge drawn, dg15File = some file ∧
      drawChallenge (Reading.clearFailure p).2 = (.ok challenge, drawn) ∧
      ((∃ response, Passport.activeAuthenticate challenge.val drawn = (.ok response, final) ∧
          proved = some (Active.verify E.suite file.pubKey challenge.val response).isOk) ∨
        ∃ e, Passport.activeAuthenticate challenge.val drawn = (.err e, final) ∧
          failedOf final = false ∧ proved = some false) := by
  unfold activeAuthentication at h
  cases hoption : options.activeAuthentication with
  | false =>
    rw [hoption] at h
    exact Or.inl ⟨rfl, (Outcome.ok.inj (Prod.mk.inj h).1).symm⟩
  | true =>
    rw [hoption] at h
    cases dg15File with
    | none => exact Or.inl ⟨rfl, (Outcome.ok.inj (Prod.mk.inj h).1).symm⟩
    | some file =>
      obtain ⟨⟨⟩, cleared, hcleared, h⟩ := Proc.bind_eq_ok.mp h
      obtain rfl : (Reading.clearFailure p).2 = cleared := congrArg Prod.snd hcleared
      obtain ⟨challenge, drawn, hdrawn, h⟩ := Proc.bind_eq_ok.mp h
      obtain ⟨response, answered, hanswered, h⟩ := Proc.bind_eq_ok.mp h
      refine Or.inr ⟨file, challenge, drawn, rfl, hdrawn, ?_⟩
      rw [Reading.optional_apply] at hanswered
      rcases hrun : Passport.activeAuthenticate challenge.val drawn with ⟨bytes | e | _, q⟩
      · rw [hrun] at hanswered
        obtain ⟨hresponse, rfl⟩ := Prod.mk.inj hanswered
        obtain rfl := Outcome.ok.inj hresponse
        obtain ⟨hproved, rfl⟩ := Prod.mk.inj h
        exact Or.inl ⟨bytes, rfl, (Outcome.ok.inj hproved).symm⟩
      · rw [hrun] at hanswered
        obtain ⟨hresponse, rfl⟩ := Prod.mk.inj hanswered
        cases hflag : q.api.transceiver.transportFailed with
        | true =>
          rw [hflag] at hresponse
          simp at hresponse
        | false =>
          rw [hflag] at hresponse
          obtain rfl := Outcome.ok.inj hresponse
          obtain ⟨hproved, rfl⟩ := Prod.mk.inj h
          exact Or.inr ⟨e, rfl, hflag, (Outcome.ok.inj hproved).symm⟩
      · rw [hrun] at hanswered
        simp at hanswered

end Challenge

/-! ## The verdict -/

lemma holderBinding_eq_false {proved : Option Bool} {covered : Bool} :
    holderBinding proved covered = some false ↔ proved = some false := by
  obtain _ | _ | _ := proved <;> cases covered <;> simp [holderBinding]

lemma head_cloneWarning : cloneWarning.toList.head? = some 'a' := by decide +kernel

lemma toList_unread : "the chip signs data groups ".toList =
    't' :: "he chip signs data groups ".toList := by
  decide

lemma cloneWarning_notMem_unread (passive : Passive.PassiveAuth) :
    cloneWarning ∉ unreadWarning passive := by
  intro hmem
  unfold unreadWarning at hmem
  dsimp only at hmem
  split at hmem
  · have htext := congrArg (fun text => text.toList.head?) (List.mem_singleton.mp hmem)
    rw [head_cloneWarning] at htext
    simp only [String.toList_append, toString, toList_unread, List.cons_append,
      List.head?_cons] at htext
    revert htext
    decide
  · cases hmem

/-- None of the other warnings reads like this one. -/
lemma mem_warnings_iff {utcDay : NaiveDate} {passive : Passive.PassiveAuth} {files : PassportFiles}
    {identity : VerifiedIdentity} {holderBound : Option Bool} :
    cloneWarning ∈ (authenticity utcDay passive files identity holderBound).warnings ↔
      holderBound = some false := by
  have hportrait : cloneWarning ≠ "EF.DG2 was read but no image could be decoded from it" := by
    decide
  have huncovered : cloneWarning ≠
      "EF.DG15 was read but EF.SOD does not cover it, so the active " ++
        "authentication key is not the one the issuer signed" := by
    decide
  have hexpired : cloneWarning ≠ "the document is past its date of expiry" := by decide
  unfold authenticity
  simp only [List.mem_append, cloneWarning_notMem_unread, false_or]
  constructor
  · rintro (((hmem | hmem) | hmem) | hmem)
    · split at hmem
      · exact absurd (List.mem_singleton.mp hmem) hportrait
      · cases hmem
    · split at hmem
      · assumption
      · cases hmem
    · split at hmem
      · exact absurd (List.mem_singleton.mp hmem) huncovered
      · cases hmem
    · split at hmem
      · cases hmem
      · exact absurd (List.mem_singleton.mp hmem) hexpired
  · intro hbound
    rw [if_pos hbound]
    exact Or.inl (Or.inl (Or.inr (List.mem_singleton.mpr rfl)))

/-- What `verify_files` makes of the result of Active Authentication. -/
lemma verifyFiles_verdict {E : Environment} {files : PassportFiles} {anchors : List Bytes}
    {proved : Option Bool} {identity : VerifiedIdentity}
    (h : verifyFiles E files anchors proved = .ok identity) :
    (identity.authenticity.holderBound = some false ↔ proved = some false) ∧
      (cloneWarning ∈ identity.authenticity.warnings ↔ proved = some false) := by
  obtain ⟨anchors, -, h⟩ := Outcome.bind_eq_ok.mp h
  obtain ⟨passive, -, h⟩ := Outcome.bind_eq_ok.mp h
  obtain ⟨⟨printed, documentCode, issuingState⟩, -, h⟩ := Outcome.bind_eq_ok.mp h
  obtain rfl := Outcome.ok.inj h
  exact ⟨holderBinding_eq_false, mem_warnings_iff.trans holderBinding_eq_false⟩

/-! ## The whole read -/

section Read

variable [ApduChannel σ] [RandomSource σ] {E : Environment} {key : MrzKey} {anchors : List Bytes}
  {options : PassportOptions} {platform : σ} {read : PassportRead}
  {final : Passport (Channel (Recorded σ))}

omit [RandomSource σ] in
/-- EF.DG15 is only read for the challenge. -/
lemma option_of_beforeChallenge {files : PassportFiles} {file : EfDG15}
    {p p' : Passport (Channel (Recorded σ))}
    (h : beforeChallenge E key options p = (.ok (files, some file), p')) :
    options.activeAuthentication = true := by
  obtain ⟨cardAccess, p₁, -, h⟩ := Proc.bind_eq_ok.mp h
  obtain ⟨⟨⟩, p₂, -, h⟩ := Proc.bind_eq_ok.mp h
  obtain ⟨dg1, p₃, -, h⟩ := Proc.bind_eq_ok.mp h
  obtain ⟨dg2, p₄, -, h⟩ := Proc.bind_eq_ok.mp h
  obtain ⟨dg15File, p₅, hdg15, h⟩ := Proc.bind_eq_ok.mp h
  obtain ⟨sod, p₆, -, h⟩ := Proc.bind_eq_ok.mp h
  obtain ⟨-, rfl⟩ := Prod.mk.inj (Outcome.ok.inj (Prod.mk.inj h).1)
  exact (readAsked_spec hdg15).1

/-- A read that succeeds: the files, the result of the challenge, and the verdict. -/
lemma readPassport_steps
    (h : readPassport E key anchors options (observed platform) = (.ok read, final)) :
    ∃ files dg15File p proved,
      beforeChallenge E key options (observed platform) = (.ok (files, dg15File), p) ∧
      activeAuthentication E options dg15File p = (.ok proved, final) ∧
      verifyFiles E files anchors proved = .ok read.identity := by
  rw [readPassport_eq_challenge] at h
  obtain ⟨⟨files, dg15File⟩, p, hbefore, h⟩ := Proc.bind_eq_ok.mp h
  obtain ⟨proved, answered, hproved, h⟩ := Proc.bind_eq_ok.mp h
  obtain ⟨identity, hverified, h⟩ := Proc.lift_bind_eq_ok.mp h
  obtain ⟨hread, rfl⟩ := Prod.mk.inj h
  obtain rfl := Outcome.ok.inj hread
  exact ⟨files, dg15File, p, proved, hbefore, hproved, hverified⟩

/-- The read asks one challenge, under one EF.DG15, so it hears one response. -/
lemma Responded.proved {files : PassportFiles} {dg15File : Option EfDG15}
    {p : Passport (Channel (Recorded σ))} {proved : Option Bool}
    (hbefore : beforeChallenge E key options (observed platform) = (.ok (files, dg15File), p))
    (hproved : activeAuthentication E options dg15File p = (.ok proved, final))
    {file : EfDG15} {challenge : FixedBytes 8} {response : Bytes}
    (h : Responded E key options platform file challenge response) :
    proved = some (Active.verify E.suite file.pubKey challenge.val response).isOk := by
  obtain ⟨drawn, answered, ⟨files', read', hread, hdrawn⟩, hrun⟩ := h
  have hoption := option_of_beforeChallenge hread
  obtain ⟨hfiles, rfl⟩ := Prod.mk.inj (hbefore.symm.trans hread)
  obtain ⟨-, rfl⟩ := Prod.mk.inj (Outcome.ok.inj hfiles)
  rcases activeAuthentication_eq_ok hproved with ⟨hunasked, -⟩ |
    ⟨file', challenge', drawn', hfile', hdrawn', hcases⟩
  · rw [hoption] at hunasked
    cases hunasked
  · obtain rfl := Option.some.inj hfile'
    obtain ⟨hchallenge, rfl⟩ := Prod.mk.inj (hdrawn.symm.trans hdrawn')
    obtain rfl := Outcome.ok.inj hchallenge
    rcases hcases with ⟨response', hrun', rfl⟩ | ⟨e, hrun', -, -⟩
    · obtain rfl := Outcome.ok.inj (Prod.mk.inj (hrun.symm.trans hrun')).1
      rfl
    · cases (Prod.mk.inj (hrun.symm.trans hrun')).1

/-- A read that finds the chip wanting found it so by its answer, or by its refusal. -/
lemma failed_cases {files : PassportFiles} {dg15File : Option EfDG15}
    {p : Passport (Channel (Recorded σ))}
    (hbefore : beforeChallenge E key options (observed platform) = (.ok (files, dg15File), p))
    (hproved : activeAuthentication E options dg15File p = (.ok (some false), final)) :
    Declined E key options platform ∨
      ∃ file challenge response, Responded E key options platform file challenge response ∧
        Active.verify E.suite file.pubKey challenge.val response ≠ .ok () := by
  rcases activeAuthentication_eq_ok hproved with ⟨-, hnone⟩ |
    ⟨file, challenge, drawn, rfl, hdrawn, hcases⟩
  · cases hnone
  · have hasked : Asked E key options platform file challenge drawn :=
      ⟨files, p, hbefore, hdrawn⟩
    rcases hcases with ⟨response, hrun, hverdict⟩ | ⟨e, hrun, hflag, -⟩
    · refine Or.inr ⟨file, challenge, response, ⟨drawn, final, hasked, hrun⟩, fun hok => ?_⟩
      rw [hok] at hverdict
      cases hverdict
    · have hready : p.api.Holds (MrtdSM.Ready E.primitives) := by
        have hkept := keepsReady_beforeChallenge E key options (observed platform)
        rw [hbefore] at hkept
        exact hkept fun _ => nofun
      have hdrawnReady : drawn.api.Holds (MrtdSM.Ready E.primitives) := by
        rw [← (Prod.mk.inj hdrawn).2]
        exact hready
      obtain ⟨answer, hexchanged⟩ := exchanged_of_ready hdrawnReady hrun hflag
      exact Or.inl ⟨file, challenge, drawn, answer, e, final, hasked, hexchanged, hrun⟩

/-- The other way round: what a read makes of the files and of the response to the challenge. -/
lemma readPassport_of_response {files : PassportFiles} {file : EfDG15} {challenge : FixedBytes 8}
    {response : Bytes} {p drawn answered : Passport (Channel (Recorded σ))}
    {identity : VerifiedIdentity}
    (hbefore : beforeChallenge E key options (observed platform) = (.ok (files, some file), p))
    (hdrawn : drawChallenge (Reading.clearFailure p).2 = (.ok challenge, drawn))
    (hrun : Passport.activeAuthenticate challenge.val drawn = (.ok response, answered))
    (hverified : verifyFiles E files anchors
      (some (Active.verify E.suite file.pubKey challenge.val response).isOk) = .ok identity) :
    readPassport E key anchors options (observed platform) =
      (.ok ⟨identity, if options.retainFiles then some files else none⟩, answered) := by
  have hproved : activeAuthentication E options (some file) p =
      (.ok (some (Active.verify E.suite file.pubKey challenge.val response).isOk), answered) := by
    unfold activeAuthentication
    rw [option_of_beforeChallenge hbefore]
    refine Proc.bind_eq_ok.mpr ⟨(), _, rfl, Proc.bind_eq_ok.mpr ⟨challenge, drawn, hdrawn, ?_⟩⟩
    refine Proc.bind_eq_ok.mpr ⟨some response, answered, ?_, rfl⟩
    rw [Reading.optional_apply, hrun]
  rw [readPassport_eq_challenge, Proc.bind_apply_ok hbefore, Proc.bind_apply_ok hproved, hverified]
  rfl

/-- **The clone verdict.**  In every read that succeeds, on any platform, with any key, anchors and
options, the verdict is earned if and only if a response that the chip gave could be judged. -/
theorem cloneVerdict_iff (E : Environment) (key : MrzKey) (anchors : List Bytes)
    (options : PassportOptions) (platform : σ) (read : PassportRead)
    (final : Passport (Channel (Recorded σ)))
    (h : readPassport E key anchors options (observed platform) = (.ok read, final)) :
    VerdictEarned E key options platform read.identity.authenticity ↔
      ∀ file challenge response, Responded E key options platform file challenge response →
        Active.Checkable E.suite file.pubKey response := by
  obtain ⟨files, dg15File, p, proved, hbefore, hproved, hverified⟩ := readPassport_steps h
  obtain ⟨hbound, hwarned⟩ := verifyFiles_verdict hverified
  constructor
  · intro hearned file challenge response hresponded
    by_contra hunchecked
    -- what is not judged is not accepted either
    have hfalse : proved = some false := by
      rw [hresponded.proved hbefore hproved]
      refine congrArg some (Bool.eq_false_iff.mpr fun hok => ?_)
      obtain ⟨⟨⟩, hok⟩ := Outcome.isOk_iff.mp hok
      exact hunchecked ((Active.judged_verify_iff challenge.property).mp (Or.inl hok))
    have hnone := hearned.unjudged file challenge response hresponded hunchecked
    rw [hbound.mpr hfalse] at hnone
    cases hnone
  · intro hcheckable
    have hfailed : proved = some false → ChipFailed E key options platform := by
      rintro rfl
      rcases failed_cases hbefore hproved with hdeclined |
        ⟨file, challenge, response, hresponded, hwrong⟩
      · exact Or.inl hdeclined
      · exact Or.inr ⟨file, challenge, response, hresponded, hcheckable _ _ _ hresponded, hwrong⟩
    exact ⟨fun hb => hfailed (hbound.mp hb), fun hw => hfailed (hwarned.mp hw),
      fun _ _ _ hresponded hunchecked => absurd (hcheckable _ _ _ hresponded) hunchecked⟩

end Read

/-! ## Reads that hear a response

A run on a platform that can be computed with is computed once, up to the response. -/

section Heard

variable [ApduChannel σ] [RandomSource σ] {E : Environment} {key : MrzKey}
  {options : PassportOptions} {platform : σ}

/-- The read up to the response of the chip. -/
def untilResponse (E : Environment) (key : MrzKey) (options : PassportOptions) :
    Reading σ (PassportFiles × Option EfDG15 × FixedBytes 8 × Option Bytes) := do
  let before ← beforeChallenge E key options
  Reading.clearFailure
  let challenge ← drawChallenge
  let response ← Reading.optional (Passport.activeAuthenticate challenge.val)
    (.nfc "the chip stopped responding during active authentication")
  return (before.1, before.2, challenge, response)

/-- The chip responded, and what was heard passes the check. -/
def passes (check : PassportFiles → EfDG15 → Bytes → Bytes → Bool) :
    PassportFiles × Option EfDG15 × FixedBytes 8 × Option Bytes → Bool
  | (files, some file, challenge, some response) => check files file challenge.val response
  | _ => false

lemma exists_response {check : PassportFiles → EfDG15 → Bytes → Bytes → Bool}
    (h : (untilResponse E key options (observed platform)).1.isOkAnd (passes check) = true) :
    ∃ files file challenge response p drawn answered,
      check files file challenge.val response = true ∧
      beforeChallenge E key options (observed platform) = (.ok (files, some file), p) ∧
      drawChallenge (Reading.clearFailure p).2 = (.ok challenge, drawn) ∧
      Passport.activeAuthenticate challenge.val drawn = (.ok response, answered) := by
  obtain ⟨heard, hrun, hpasses⟩ := Outcome.isOkAnd_iff.mp h
  obtain ⟨⟨files, dg15File⟩, p, hbefore, hrun⟩ := Proc.bind_eq_ok.mp (Prod.ext hrun rfl)
  obtain ⟨⟨⟩, cleared, hcleared, hrun⟩ := Proc.bind_eq_ok.mp hrun
  obtain rfl : (Reading.clearFailure p).2 = cleared := congrArg Prod.snd hcleared
  obtain ⟨challenge, drawn, hdrawn, hrun⟩ := Proc.bind_eq_ok.mp hrun
  obtain ⟨response, answered, hanswered, hrun⟩ := Proc.bind_eq_ok.mp hrun
  obtain rfl := Outcome.ok.inj (Prod.mk.inj hrun).1
  cases dg15File with
  | none => cases hpasses
  | some file =>
    cases response with
    | none => cases hpasses
    | some response =>
      exact ⟨files, file, challenge, response, p, drawn, answered, hpasses, hbefore, hdrawn,
        optional_eq_some hanswered⟩

end Heard

/-! ## Two chips that answer

Both open the session of `Document`.  The first holds the files of `sampleSod` and answers with a
signature that was tampered with; the second holds an EF.DG15 with a point of P-384, covered by its
EF.SOD, and answers with a signature that holds under it. -/

/-- A chip with its files and its answer, in the states of `Document`. -/
structure Tag where
  dg15 : Bytes
  sod : Bytes
  answer : Bytes
  state : Document

namespace Tag

/-- The file with this short identifier. -/
def file (tag : Tag) (sfi : UInt8) : Bytes :=
  if sfi = 0x01 then Passive.sampleDg1
  else if sfi = 0x0F then tag.dg15
  else if sfi = 0x1D then tag.sod
  else []

/-- A command without its protection: the data of the answer, and the file that is selected now. -/
def serve (tag : Tag) (cmd : CommandApdu.Wire) (selected : Bytes) : Bytes × Bytes :=
  match cmd.header with
  | [_, ins, p1, p2] =>
    if ins = Ins.internalAuthenticate then (tag.answer, selected)
    else if ins ≠ Ins.readBinary then ([], selected)
    else if p1 &&& 0x80 ≠ 0 then
      (((tag.file (p1 &&& 0x1F)).drop p2.toNat).take cmd.ne, tag.file (p1 &&& 0x1F))
    else ((selected.drop (ofBE [p1, p2])).take cmd.ne, selected)
  | _ => ([], selected)

/-- One exchange. -/
def exchange (apdu : Bytes) (tag : Tag) : Except String Bytes × Tag :=
  match tag.state with
  | .secured chip selected =>
    match chip.receive apdu with
    | (some cmd, chip) =>
      let (data, selected) := tag.serve cmd selected
      match chip.respond false StatusWord.success data with
      | (some answer, chip) => (.ok answer, { tag with state := .secured chip selected })
      | (none, chip) => (.ok [0x69, 0x88], { tag with state := .secured chip selected })
    | (none, chip) => (.ok [0x69, 0x88], { tag with state := .secured chip selected })
  | state =>
    let (answer, state) := state.exchange apdu
    (answer, { tag with state })

instance tagChannel : ApduChannel Tag := ⟨exchange⟩

instance tagRandomness : RandomSource Tag := ⟨fun tag => (.ok sampleChallenge, tag)⟩

end Tag

/-- The chip that answers with the last byte of the signature changed. -/
def tamperedTag : Tag where
  dg15 := Passive.sampleDg15
  sod := Passive.sampleSod Passive.plainAttributes Passive.plainSignature
  answer := sampleAnswer.dropLast ++ [0xe5]
  state := .plain

/-- The key of its EF.DG15 is a point of P-256, so whatever it answers can be judged, and that it is
called a clone is earned. -/
theorem cloneVerdict_tampered : ∃ read final,
    readPassport sampleEnvironment sampleKey [Passive.signerCertificate] sampleOptions
      (observed tamperedTag) = (.ok read, final) ∧
    read.identity.authenticity.holderBound = some false ∧
    VerdictEarned sampleEnvironment sampleKey sampleOptions tamperedTag
      read.identity.authenticity := by
  have hheard : (untilResponse sampleEnvironment sampleKey sampleOptions
      (observed tamperedTag)).1.isOkAnd (passes fun files file challenge response =>
        decide (files = ⟨tamperedTag.sod, Passive.sampleDg1, none, some Passive.sampleDg15⟩ ∧
          (Active.verify sampleSuite.suite file.pubKey challenge response).isOk = false ∧
          file.pubKey.keyType = .ecc ∧ file.pubKey.subPubKeyBytes.length = 65 ∧
          file.pubKey.subPubKeyBytes.head? = some 0x04)) = true := by
    decide +kernel
  have hverified : (verifyFiles sampleEnvironment
      ⟨tamperedTag.sod, Passive.sampleDg1, none, some Passive.sampleDg15⟩ [Passive.signerCertificate]
      (some false)).isOkAnd
        (fun identity => decide (identity.authenticity.holderBound = some false)) = true := by
    decide +kernel
  obtain ⟨files, file, challenge, response, p, drawn, answered, hcheck, hbefore, hdrawn, hanswered⟩ :=
    exists_response hheard
  obtain ⟨rfl, hwrong, hecc, hlen, hhead⟩ := of_decide_eq_true hcheck
  obtain ⟨identity, hidentity, hfalse⟩ := Outcome.isOkAnd_iff.mp hverified
  have hrun := readPassport_of_response (E := sampleEnvironment) hbefore hdrawn hanswered
    (hwrong ▸ hidentity)
  refine ⟨_, _, hrun, of_decide_eq_true hfalse,
    (cloneVerdict_iff sampleEnvironment sampleKey _ sampleOptions tamperedTag _ _ hrun).mpr ?_⟩
  rintro file' challenge' response' ⟨drawn', answered', ⟨files', p', hbefore', -⟩, -⟩
  obtain ⟨-, hfile⟩ := Prod.mk.inj (Outcome.ok.inj (Prod.mk.inj (hbefore.symm.trans hbefore')).1)
  obtain rfl := Option.some.inj hfile
  refine ⟨?_, fun hrsa => ?_⟩
  · unfold Active.Usable
    rw [hecc]
    exact ⟨hlen, hhead, rfl⟩
  · rw [hecc] at hrsa
    cases hrsa

/-- The SubjectPublicKeyInfo of the chip's point of P-384. -/
def p384KeyInfo : Bytes :=
  Der.encode Der.sequence (Der.encode Der.sequence
    (Der.encode Der.oid [0x2a, 0x86, 0x48, 0xce, 0x3d, 0x02, 0x01] ++
      Der.encode Der.oid [0x2b, 0x81, 0x04, 0x00, 0x22]) ++
    Der.encode Der.bitString (0 :: toBE 97
      0x04c3c742b31619e95c7a77b4df6447cee9fc814fc7a162e0f0b2c6c25e0dd38650f74c3141c5bb23d1b3891402956cc5833d76ed4eadcbae7b9cdcd3641a4a463d0445240863c26cd6d287f811be6fa339099fef68949bb91decdbd0d69663ea98))

/-- An EF.DG15 with it. -/
def p384Dg15 : Bytes := Der.encode 0x6F p384KeyInfo

/-- Its hash. -/
def p384Dg15Hash : Bytes :=
  toBE 32 0xd801f27a4a96b98de2fe5449d16754bbbf937760202b21b2e7de38ee8cebc02c

/-- The security object over EF.DG1 and it. -/
def p384Object : Bytes :=
  Der.encode Der.sequence ([0x02, 0x01, 0x00] ++ Passive.sha256Algorithm ++ Der.encode Der.sequence
    (Der.encode Der.sequence ([0x02, 0x01, 0x01] ++ Der.encode Der.octetString Passive.dg1Hash) ++
      Der.encode Der.sequence ([0x02, 0x01, 0x0f] ++ Der.encode Der.octetString p384Dg15Hash)))

/-- The hash of the security object. -/
def p384ObjectHash : Bytes :=
  toBE 32 0xa72930005f0cb7fd3725a025f00053395489ca9ea7ed198843a8fd51f01ca7b4

/-- The point, on P-256, of the key that signs it. -/
def p384SignerPoint : Bytes := toBE 65
  0x04305807cc011a278dbd4d1c4e9caffe4569537afa59389aebbbbd28a2edde946b7a74c8b1a959b64a764a8eb18e7837b0c939e61fbc83088bbbc90b67eb2acf55

/-- The certificate of that key. -/
def p384SignerCertificate : Bytes :=
  Der.encode Der.sequence
    (Der.encode Der.sequence (Der.encode 0xA0 [0x02, 0x01, 0x02] ++ [0x02, 0x01, 0x01] ++
      Passive.ecdsaAlgorithm ++ Der.encode Der.sequence Passive.cscaName ++
      Der.encode Der.sequence
        ([0x17, 0x0d] ++ toBE 13 0x3236303130313030303030305a ++
          [0x17, 0x0d] ++ toBE 13 0x3336303130313030303030305a) ++
      Der.encode Der.sequence (Passive.nameOf [0x44, 0x53]) ++
      Passive.publicKeyInfo p384SignerPoint) ++
    Passive.ecdsaAlgorithm ++ Der.encode Der.bitString (0 :: toBE 70
      0x304402204e2164e1e1ce4588906d55cce43a9f2c6782c4f4df8a236157a3e841f7a6675f0220430e39e10e6d6c51e2d07f3ffdf21e54691d430e762ae42c3898ff26601072e2))

/-- The attributes that are signed. -/
def p384Attributes : Bytes := Passive.typeAttribute ++ Passive.digestAttribute p384ObjectHash

/-- The signature over them. -/
def p384Signature : Bytes := toBE 71
  0x3045022100d07bdfca3944a990e67dda32b17b383b897b29b14371fbb17c9292bb1c6c911c022029282b9700ec712f677197c651ca589f36d6bfce3add4206450aa5b07bfd2647

/-- The EF.SOD of the document. -/
def p384Sod : Bytes :=
  Der.encode 0x77 (Der.encode Der.sequence
    (Der.encode Der.oid [0x2a, 0x86, 0x48, 0x86, 0xf7, 0x0d, 0x01, 0x07, 0x02] ++
      Der.encode 0xA0 (Der.encode Der.sequence ([0x02, 0x01, 0x03] ++
        Der.encode Der.set Passive.sha256Algorithm ++
        Der.encode Der.sequence (Passive.objectType ++
          Der.encode 0xA0 (Der.encode Der.octetString p384Object)) ++
        Der.encode 0xA0 p384SignerCertificate ++
        Der.encode Der.set (Der.encode Der.sequence ([0x02, 0x01, 0x01] ++
          Der.encode Der.sequence (Der.encode Der.sequence Passive.cscaName ++ [0x02, 0x01, 0x01]) ++
          Passive.sha256Algorithm ++ Der.encode 0xA0 p384Attributes ++ Passive.ecdsaAlgorithm ++
          Der.encode Der.octetString p384Signature))))))

/-- What was recorded of the document. -/
def p384Suite : Passive.SuiteRecording where
  digests := [(Passive.sampleDg1, Passive.dg1Hash), (p384Dg15, p384Dg15Hash),
    (p384Object, p384ObjectHash)]
  signatures := [(p384SignerPoint, Der.encode Der.set p384Attributes, p384Signature)]
  prehashed := []

/-- The environment in which it is read. -/
def p384Environment : Environment := { sampleEnvironment with suite := p384Suite.suite }

/-- The chip, with its signature of the SHA-384 hash of the challenge. -/
def p384Tag : Tag where
  dg15 := p384Dg15
  sod := p384Sod
  answer := toBE 96
    0x2e8bb2bdcaf331ee5a07ad7b5822f543ad1bf4c3a4f2ea67554001358c986448a26a58a0b416458eacf81820ffacea45776f7f6c7c71e5c04f1fbef913a6af94794adcf5badbca72fd80e8e9b27acdf6f7313415922b5740d5c9025dd142a5d8
  state := .plain

/-- The chip answers the challenge, under a key that the crate has no curve for, and is called a
clone. -/
theorem cloneVerdict_unearned : ∃ read final,
    readPassport p384Environment sampleKey [] sampleOptions (observed p384Tag) =
      (.ok read, final) ∧
    read.identity.authenticity.holderBound = some false ∧
    cloneWarning ∈ read.identity.authenticity.warnings ∧
    ¬ VerdictEarned p384Environment sampleKey sampleOptions p384Tag read.identity.authenticity := by
  have hheard : (untilResponse p384Environment sampleKey sampleOptions
      (observed p384Tag)).1.isOkAnd (passes fun files file challenge response =>
        decide (files = ⟨p384Sod, Passive.sampleDg1, none, some p384Dg15⟩ ∧
          (Active.verify p384Suite.suite file.pubKey challenge response).isOk = false ∧
          file.pubKey.keyType = .ecc ∧ file.pubKey.subPubKeyBytes.length = 97)) = true := by
    decide +kernel
  have hverified : (verifyFiles p384Environment
      ⟨p384Sod, Passive.sampleDg1, none, some p384Dg15⟩ [] (some false)).isOkAnd (fun identity =>
        decide (identity.authenticity.holderBound = some false ∧
          cloneWarning ∈ identity.authenticity.warnings)) = true := by
    decide +kernel
  obtain ⟨files, file, challenge, response, p, drawn, answered, hcheck, hbefore, hdrawn, hanswered⟩ :=
    exists_response hheard
  obtain ⟨rfl, hwrong, hecc, hlen⟩ := of_decide_eq_true hcheck
  obtain ⟨identity, hidentity, hverdict⟩ := Outcome.isOkAnd_iff.mp hverified
  obtain ⟨hfalse, hwarned⟩ := of_decide_eq_true hverdict
  have hrun := readPassport_of_response (E := p384Environment) hbefore hdrawn hanswered
    (hwrong ▸ hidentity)
  refine ⟨_, _, hrun, hfalse, hwarned, fun hearned => ?_⟩
  -- a key of 97 octets is no point of P-256, so nothing should have been established
  have hunusable : ¬ Active.Checkable p384Environment.suite file.pubKey response := by
    intro hcheckable
    have husable := hcheckable.usable
    unfold Active.Usable at husable
    rw [hecc] at husable
    dsimp only at husable
    rw [hlen] at husable
    exact absurd husable.1 (by decide)
  have hnone := hearned.unjudged file challenge response
    ⟨drawn, answered, ⟨_, p, hbefore, hdrawn⟩, hanswered⟩ hunusable
  cases hfalse.symm.trans hnone

end IdentityMobile
