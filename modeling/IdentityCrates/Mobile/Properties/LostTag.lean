import IdentityCrates.Dmrtd.Properties.FaultSurfacing
import IdentityCrates.Mobile.Recorded

/-!
# A lost tag is reported as one

`read_passport` asks the holder to keep the document still (`Nfc`) exactly when the transport lost
an exchange, with one excuse: under `Session::Auto` an exchange lost in the PACE attempt is history
once BAC has opened a session (`nfc_iff_lost_tag`).  So a lost tag is never taken for a wrong access
key, a missing photograph, a document without Active Authentication or a clone.

The channel sets its flag when an exchange is lost, and every method of the driver surfaces that
loss as an error (`Passport.readDf1_surfaces` and its siblings).  A step of the read turns the error
into `Nfc` if it finds the flag set, which is right as long as the flag was clear when the step
began.  `Reports` says of a step that it does all this and hands on a clear flag; it is kept by
sequencing, and every step has it except the one that tries PACE before BAC.
-/

namespace IdentityMobile

open Rust Octets
open Dmrtd

variable {σ : Type}

/-! ## The channel's flag and the log -/

/-- A stretch of a run on an observed channel: the log grows, and the flag is set if the new part of
the log has a fault. -/
def Channel.Stretch (fault : Bool) (c c' : Channel (Recorded σ)) : Prop :=
  ∃ events, c'.inner.log = c.inner.log ++ events ∧ faulty events = fault ∧
    c'.transportFailed = (c.transportFailed || fault)

lemma Channel.isStretch : Proc.IsStretch (Channel.Stretch (σ := σ)) where
  refl c := ⟨[], by simp, rfl, by simp⟩
  trans := by
    intro c₁ c₂ c₃ fault h h'
    obtain ⟨events, hlog, hevents, hfailed⟩ := h
    obtain ⟨events', hlog', hevents', hfailed'⟩ := h'
    refine ⟨events ++ events', ?_, ?_, ?_⟩
    · rw [hlog', hlog, List.append_assoc]
    · rw [faulty_append, hevents, hevents', Bool.false_or]
    · rw [hfailed', hfailed, Bool.or_false]

/-- A stretch of a run of the driver, seen on the channel. -/
abbrev ReadStretch : Bool → Passport (Channel (Recorded σ)) → Passport (Channel (Recorded σ)) →
    Prop :=
  Passport.onApiOf (MrtdApi.onTransport Channel.Stretch)

section Stretch

variable [ApduChannel σ]

lemma Channel.transceive_surfaces (apdu : Bytes) :
    (Transceiver.transceive apdu :
      Proc (Channel (Recorded σ)) TransceiveError Bytes).Surfaces Channel.Stretch := by
  intro c
  show ∃ fault, Channel.Stretch fault c (Channel.transceive apdu c).2 ∧
    (fault = true → ∃ e, (Channel.transceive apdu c).1 = .err e)
  obtain ⟨⟨platform, log⟩, failed⟩ := c
  rcases hanswer : ApduChannel.transceive apdu platform with ⟨e | bytes, platform'⟩
  · refine ⟨true, ⟨[.exchanged apdu (.error e)], ?_, rfl, ?_⟩, fun _ => ⟨⟨e⟩, ?_⟩⟩ <;>
      simp [Channel.transceive, ApduChannel.transceive, hanswer]
  · refine ⟨false, ⟨[.exchanged apdu (.ok bytes)], ?_, rfl, ?_⟩, fun h => absurd h (by simp)⟩ <;>
      simp [Channel.transceive, ApduChannel.transceive, hanswer]

lemma Channel.transceive_ne_panic (apdu : Bytes) (c : Channel σ) :
    (Transceiver.transceive apdu c : _ × Channel σ).1 ≠ .panic := by
  show (Channel.transceive apdu c).1 ≠ .panic
  unfold Channel.transceive
  split <;> simp

lemma apiStretch : MrtdApi.IsStretch (MrtdApi.onTransport (Channel.Stretch (σ := σ))) :=
  MrtdApi.isStretch_onTransport Channel.isStretch Channel.transceive_surfaces

lemma startBac_surfaces (E : Environment) (keys : DBAKey) :
    (startBac E keys : Proc (Passport (Channel (Recorded σ))) PassportError Unit).Surfaces
      ReadStretch :=
  Passport.startSession_surfaces apiStretch (fun _ _ => Channel.isStretch.refl _) _ _ _

lemma startPace_surfaces (E : Environment) (keys : DBAKey) (access : EfCardAccess) :
    (startPace E keys access :
      Proc (Passport (Channel (Recorded σ))) PassportError Unit).Surfaces ReadStretch :=
  Passport.startSessionPace_surfaces apiStretch (fun _ _ => Channel.isStretch.refl _) _ _ _ _

end Stretch

/-! ## Steps that report a lost tag -/

/-- Is the outcome the error that reports a lost tag? -/
def lost {α : Type} : Outcome IdentityError α → Bool
  | .err e => e.isNfc
  | _ => false

/-- The log grows by a part with or without a fault. -/
def Logged (fault : Bool) (p p' : Passport (Channel (Recorded σ))) : Prop :=
  ∃ events, logOf p' = logOf p ++ events ∧ faulty events = fault

lemma Logged.trans {p₁ p₂ p₃ : Passport (Channel (Recorded σ))} {fault fault' : Bool}
    (h : Logged fault p₁ p₂) (h' : Logged fault' p₂ p₃) : Logged (fault || fault') p₁ p₃ := by
  obtain ⟨events, hlog, rfl⟩ := h
  obtain ⟨events', hlog', rfl⟩ := h'
  exact ⟨events ++ events', by rw [hlog', hlog, List.append_assoc], faulty_append _ _⟩

lemma logged_refl (p : Passport (Channel (Recorded σ))) : Logged false p p := ⟨[], by simp, rfl⟩

lemma Logged.of_stretch {p p' : Passport (Channel (Recorded σ))} {fault : Bool}
    (h : ReadStretch fault p p') : Logged fault p p' :=
  let ⟨events, hlog, hfault, _⟩ := h
  ⟨events, hlog, hfault⟩

lemma failedOf_of_stretch {p p' : Passport (Channel (Recorded σ))} {fault : Bool}
    (h : ReadStretch fault p p') : failedOf p' = (failedOf p || fault) :=
  let ⟨_, _, _, hfailed⟩ := h
  hfailed

/-- Begun with a clear flag, the step returns the report of a lost tag exactly if the tag was lost
during the step, and otherwise leaves the flag clear. -/
def Reports {α : Type} (m : Reading (Recorded σ) α) : Prop :=
  ∀ p, failedOf p = false → ∃ fault, Logged fault p (m p).2 ∧ lost (m p).1 = fault ∧
    (fault = false → failedOf (m p).2 = false)

section Reports

variable {α β : Type}

lemma reports_lift {x : Outcome IdentityError α} (h : lost x = false) :
    Reports (σ := σ) (Proc.lift x) :=
  fun p hp => ⟨false, logged_refl p, h, fun _ => hp⟩

lemma reports_pure (a : α) : Reports (σ := σ) (pure a) :=
  fun p hp => ⟨false, logged_refl p, rfl, fun _ => hp⟩

lemma Reports.bind {x : Reading (Recorded σ) α} {f : α → Reading (Recorded σ) β}
    (hx : Reports x) (hf : ∀ a, Reports (f a)) : Reports (x >>= f) := by
  intro p hp
  obtain ⟨fault, hlog, hlost, hclear⟩ := hx p hp
  rcases hfirst : x p with ⟨a | e | _, p'⟩
  · rw [hfirst] at hlog hlost hclear
    obtain rfl : false = fault := hlost
    obtain ⟨fault, hlog', hlost', hclear'⟩ := hf a p' (hclear rfl)
    rw [Proc.bind_apply_ok hfirst]
    refine ⟨fault, ?_, hlost', hclear'⟩
    rw [← Bool.false_or fault]
    exact hlog.trans hlog'
  · rw [Proc.bind_apply_err hfirst]
    rw [hfirst] at hlog hlost hclear
    exact ⟨fault, hlog, hlost, hclear⟩
  · rw [Proc.bind_apply_panic hfirst]
    rw [hfirst] at hlog hlost hclear
    exact ⟨fault, hlog, hlost, hclear⟩

lemma reports_clearFailure : Reports (σ := σ) Reading.clearFailure :=
  fun p _ => ⟨false, logged_refl p, rfl, fun _ => rfl⟩

/-- A step around an operation that surfaces its faults, if it returns the report of a lost tag for
exactly the operation's errors behind which the flag is set. -/
lemma reports_of_surfaces {read : Proc (Passport (Channel (Recorded σ))) PassportError α}
    {step : Reading (Recorded σ) β} (hread : read.Surfaces ReadStretch)
    (hstate : ∀ p, (step p).2 = (read p).2)
    (hlost : ∀ p, lost (step p).1 = true ↔
      (∃ e, (read p).1 = .err e) ∧ failedOf (read p).2 = true) : Reports step := by
  intro p hp
  obtain ⟨fault, hstretch, hsurfaces⟩ := hread p
  have hfailed := failedOf_of_stretch hstretch
  rw [hp, Bool.false_or] at hfailed
  rw [hstate]
  refine ⟨fault, .of_stretch hstretch, ?_, fun hgood => hfailed.trans hgood⟩
  rw [Bool.eq_iff_iff, hlost, hfailed]
  exact ⟨fun h => h.2, fun h => ⟨hsurfaces h, h⟩⟩

/-- A mandatory read reports a lost tag, given that its two errors are of the right kinds. -/
lemma reports_mandatory {read : Proc (Passport (Channel (Recorded σ))) PassportError α}
    {asLost asRefused : PassportError → IdentityError} (hread : read.Surfaces ReadStretch)
    (hlost : ∀ e, (asLost e).isNfc = true) (hrefused : ∀ e, (asRefused e).isNfc = false) :
    Reports (Reading.mandatory read asLost asRefused) := by
  refine reports_of_surfaces hread (fun p => ?_) fun p => ?_
  · rw [Reading.mandatory_apply]
    rcases read p with ⟨a | e | _, p'⟩ <;> rfl
  · rw [Reading.mandatory_apply]
    rcases read p with ⟨a | e | _, p'⟩
    · simp [lost]
    · show (if failedOf p' then asLost e else asRefused e).isNfc = true ↔ _
      cases hfailed : failedOf p'
      · simp [hrefused]
      · simp [hlost]
    · simp [lost]

/-- So does an optional one. -/
lemma reports_optional {read : Proc (Passport (Channel (Recorded σ))) PassportError α}
    {asLost : IdentityError} (hread : read.Surfaces ReadStretch)
    (hlost : asLost.isNfc = true) : Reports (Reading.optional read asLost) := by
  refine reports_of_surfaces hread (fun p => ?_) fun p => ?_
  · rw [Reading.optional_apply]
    rcases read p with ⟨a | e | _, p'⟩ <;> rfl
  · rw [Reading.optional_apply]
    rcases read p with ⟨a | e | _, p'⟩
    · simp [lost]
    · show lost (if failedOf p' then .err asLost else .ok none) = true ↔ _
      cases hfailed : failedOf p'
      · simp [lost]
      · simp [lost, hlost]
    · simp [lost]

end Reports

/-! ## The steps of the read -/

lemma lost_mapErr {ε α : Type} {g : ε → IdentityError} (h : ∀ e, (g e).isNfc = false)
    (x : Outcome ε α) : lost (x.mapErr g) = false := by
  cases x with
  | ok a => rfl
  | err e => exact h e
  | panic => rfl

lemma lost_bind {α β : Type} {x : Outcome IdentityError α} {f : α → Outcome IdentityError β}
    (hx : lost x = false) (hf : ∀ a, lost (f a) = false) : lost (x >>= f) = false := by
  cases x with
  | ok a => exact hf a
  | err e => exact hx
  | panic => rfl

lemma lost_dba (key : MrzKey) (pace : Bool) : lost (dba key pace) = false :=
  lost_mapErr (fun _ => rfl) _

lemma lost_identityFromFiles (mappingDay : NaiveDate) (files : PassportFiles) :
    lost (identityFromFiles mappingDay files) = false := by
  obtain ⟨sod, dg1, dg2, dg15⟩ := files
  refine lost_bind (lost_mapErr (fun _ => rfl) _) fun parsed => ?_
  cases dg2 with
  | none => rfl
  | some bytes =>
    dsimp only
    split <;> rfl

lemma lost_trustAnchors (E : Environment) (anchors : List Bytes) :
    lost (trustAnchors E anchors) = false := by
  induction anchors with
  | nil => rfl
  | cons der anchors ih =>
    rw [trustAnchors, List.mapM_cons]
    exact lost_bind (lost_mapErr (fun _ => rfl) _) fun _ => lost_bind ih fun _ => rfl

/-- Files that were read are never judged to be a lost tag. -/
lemma lost_verifyFiles (E : Environment) (files : PassportFiles) (anchors : List Bytes)
    (activeAuthentication : Option Bool) :
    lost (verifyFiles E files anchors activeAuthentication) = false :=
  lost_bind (lost_trustAnchors E anchors) fun _ =>
    lost_bind (lost_mapErr (fun _ => rfl) _) fun _ =>
      lost_bind (lost_identityFromFiles _ _) fun _ => rfl

variable [ApduChannel σ]

lemma reports_probe (E : Environment) : Reports (σ := σ) (probe E) :=
  (reports_optional (Passport.readEfCardAccess_surfaces apiStretch _) rfl).bind fun _ =>
    reports_clearFailure.bind fun _ => reports_pure _

lemma reports_openBac (E : Environment) (key : MrzKey) : Reports (σ := σ) (openBac E key) :=
  (reports_lift (lost_dba key false)).bind fun keys =>
    reports_mandatory (startBac_surfaces E keys) (fun _ => rfl) fun _ => rfl

lemma reports_readDg1 (E : Environment) : Reports (σ := σ) (readDg1 E) :=
  reports_clearFailure.bind fun _ =>
    reports_mandatory (Passport.readDf1_surfaces apiStretch _ _) (fun _ => rfl) fun _ => rfl

lemma reports_readAsked {α : Type} (asked : Bool) (file : Df1File)
    (parse : Bytes → Outcome EfParseError α) (said : String) :
    Reports (σ := σ) (readAsked asked file parse (.nfc said)) := by
  unfold readAsked
  split
  · exact reports_clearFailure.bind fun _ =>
      reports_optional (Passport.readDf1_surfaces apiStretch _ _) rfl
  · exact reports_pure _

lemma reports_readSod : Reports (σ := σ) readSod :=
  reports_clearFailure.bind fun _ =>
    reports_mandatory (Passport.readDf1_surfaces apiStretch _ _) (fun _ => rfl) fun _ => rfl

section Challenge

variable [RandomSource σ]

omit [ApduChannel σ] in
/-- To run out of randomness is not to lose the tag. -/
lemma reports_drawChallenge : Reports (σ := σ) drawChallenge := by
  intro p hp
  refine ⟨false, ⟨[.drew (RandomSource.fill p.api.transceiver.inner.platform).1], rfl, rfl⟩, ?_,
    fun _ => hp⟩
  unfold drawChallenge
  dsimp only
  split <;> rfl

lemma reports_activeAuthentication (E : Environment) (options : PassportOptions)
    (dg15File : Option EfDG15) : Reports (σ := σ) (activeAuthentication E options dg15File) := by
  unfold activeAuthentication
  split
  · refine reports_clearFailure.bind fun _ => reports_drawChallenge.bind fun challenge => ?_
    refine (reports_optional (Passport.activeAuthenticate_surfaces apiStretch _) rfl).bind
      fun response => ?_
    split
    · exact reports_pure _
    · exact reports_pure _
  · exact reports_pure _
  · exact reports_pure _

lemma reports_readFiles (E : Environment) (options : PassportOptions) :
    Reports (σ := σ) (readFiles E options) :=
  (reports_readDg1 E).bind fun _ => (reports_readAsked _ _ _ _).bind fun _ =>
    (reports_readAsked _ _ _ _).bind fun _ => reports_readSod.bind fun _ =>
      (reports_activeAuthentication E options _).bind fun _ => reports_pure _

end Challenge

/-! ## The one excuse -/

/-- Under `Session::Auto` exchanges were lost in the PACE attempt and nowhere else, and BAC opened a
session afterwards. -/
def Excused (E : Environment) (key : MrzKey) (options : PassportOptions) (platform : σ)
    (final : Passport (Channel (Recorded σ))) : Prop :=
  options.session = .auto ∧ ∃ access paceKeys bacKeys probed e paced opened during after,
    probe E (observed platform) = (.ok (some access), probed) ∧
    dba key true = .ok paceKeys ∧ startPace E paceKeys access probed = (.err e, paced) ∧
    dba key false = .ok bacKeys ∧ startBac E bacKeys paced = (.ok (), opened) ∧
    logOf paced = logOf probed ++ during ∧ logOf final = logOf paced ++ after ∧
    faulty (logOf probed) = false ∧ faulty during = true ∧ faulty after = false

/-- The access key is usable for both protocols or for neither. -/
lemma dba_eq_ok {key : MrzKey} {pace pace' : Bool} {keys : DBAKey} (h : dba key pace = .ok keys) :
    ∃ keys', dba key pace' = .ok keys' := by
  have hnew := Outcome.mapErr_eq_ok.mp h
  unfold DBAKey.new at hnew
  split at hnew
  · rename_i u hvalid
    refine ⟨⟨key.documentNumber, key.dateOfBirth, key.dateOfExpiry, pace',
      isValidMrz_eq_ok hvalid⟩, Outcome.mapErr_eq_ok.mpr ?_⟩
    unfold DBAKey.new
    split
    · rfl
    · rename_i hvalid'
      rw [hvalid'] at hvalid
      simp at hvalid
    · rename_i hvalid'
      rw [hvalid'] at hvalid
      simp at hvalid
  · simp at hnew
  · simp at hnew

/-! ## No session before the first one -/

lemma probe_sm (E : Environment) {p p' : Passport (Channel (Recorded σ))}
    {cardAccess : Option EfCardAccess} (h : probe E p = (.ok cardAccess, p'))
    (hsm : p.api.sm = none) : p'.api.sm = none := by
  obtain ⟨access, p₁, hread, h⟩ := Proc.bind_eq_ok.mp h
  have hp' : p'.api.sm = p₁.api.sm := by rw [← (Prod.mk.inj h).2]
  have hstate : p₁ = (Passport.readEfCardAccess (EfCardAccess.fromBytes E.asn1) p).2 := by
    rw [Reading.optional_apply] at hread
    split at hread <;> rename_i hresult <;> rw [hresult, ← (Prod.mk.inj hread).2]
  obtain ⟨fault, ⟨-, hplain⟩, -⟩ := Passport.readEfCardAccess_surfaces
    MrtdApi.isStretch_staysPlain (EfCardAccess.fromBytes E.asn1) p
  rw [hp', hstate]
  exact hplain hsm

lemma startPace_sm (E : Environment) {keys : DBAKey} {access : EfCardAccess}
    {p p' : Passport (Channel (Recorded σ))} {e : PassportError}
    (h : startPace E keys access p = (.err e, p')) (hsm : p.api.sm = none) :
    p'.api.sm = none := by
  have hinit : p' = (Passport.onApi (MrtdApi.initSessionViaPace E.primitives keys access
      E.paceEntropy) p).2 := by
    rw [startPace, Passport.startSessionPace, Proc.bind_apply] at h
    split at h
    · simp at h
    · rename_i hresult
      rw [hresult, ← (Prod.mk.inj h).2]
    · simp at h
  have herr : ∃ e', (MrtdApi.paceHandshake E.primitives keys access E.paceEntropy p.api).1 =
      .err e' := by
    rcases hshake : MrtdApi.paceHandshake E.primitives keys access E.paceEntropy p.api with
      ⟨sm | e' | _, api⟩
    · have hok : startPace E keys access p =
          (.ok (), { p with api := { api with sm := some sm }, df := .none }) := by
        rw [startPace, Passport.startSessionPace, MrtdApi.initSessionViaPace_eq, Proc.bind_apply,
          Passport.onApi, Proc.bind_apply_ok hshake]
        rfl
      simp [hok] at h
    · exact ⟨e', rfl⟩
    · have hpanic : startPace E keys access p = (.panic, { p with api }) := by
        rw [startPace, Passport.startSessionPace, MrtdApi.initSessionViaPace_eq, Proc.bind_apply,
          Passport.onApi, Proc.bind_apply_panic hshake]
        rfl
      simp [hpanic] at h
  obtain ⟨e', he'⟩ := herr
  obtain ⟨fault, ⟨-, hplain⟩, -⟩ := MrtdApi.paceHandshake_surfaces
    MrtdApi.isStretch_staysPlain E.primitives keys access E.paceEntropy p.api
  rw [hinit, Passport.onApi, MrtdApi.initSessionViaPace_eq,
    Proc.bind_apply_err (Prod.ext he' rfl)]
  exact hplain hsm

/-! ## The whole read -/

variable [RandomSource σ]

/-- What `read_passport` does once a session is up. -/
def readAndVerify (E : Environment) (anchors : List Bytes) (options : PassportOptions) :
    Reading σ PassportRead := do
  let (files, activeAuthentication) ← readFiles E options
  let identity ← Proc.lift (verifyFiles E files anchors activeAuthentication)
  return { identity, files := if options.retainFiles then some files else none }

lemma readPassport_eq (E : Environment) (key : MrzKey) (anchors : List Bytes)
    (options : PassportOptions) :
    (readPassport E key anchors options : Reading σ PassportRead) =
      probe E >>= fun cardAccess =>
        openSession E key options.session cardAccess >>= fun _ =>
          readAndVerify E anchors options := rfl

lemma reports_readAndVerify (E : Environment) (anchors : List Bytes) (options : PassportOptions) :
    Reports (σ := σ) (readAndVerify E anchors options) :=
  (reports_readFiles E options).bind fun _ =>
    (reports_lift (lost_verifyFiles E _ _ _)).bind fun _ => reports_pure _

/-- The reading begins with a clear flag, whatever the session left behind. -/
lemma readAndVerify_clear (E : Environment) (anchors : List Bytes) (options : PassportOptions)
    (p : Passport (Channel (Recorded σ))) :
    readAndVerify E anchors options p =
      readAndVerify E anchors options (Reading.clearFailure p).2 := rfl

omit [ApduChannel σ] [RandomSource σ] in
/-- A step that reports, on a log without faults. -/
lemma Reports.spec {α : Type} {m : Reading (Recorded σ) α} (h : Reports m)
    {p : Passport (Channel (Recorded σ))} (hclear : failedOf p = false)
    (hlog : faulty (logOf p) = false) : lost (m p).1 = faulty (logOf (m p).2) := by
  obtain ⟨fault, ⟨events, hevents, hfault⟩, hlost, -⟩ := h p hclear
  rw [hlost, hevents, faulty_append, hlog, hfault, Bool.false_or]

omit [ApduChannel σ] [RandomSource σ] in
lemma lost_iff {α : Type} {o : Outcome IdentityError α} :
    (∃ message, o = .err (.nfc message)) ↔ lost o = true := by
  rcases o with a | e | _
  · simp [lost]
  · cases e <;> simp [lost, IdentityError.isNfc]
  · simp [lost]

section Verdict

variable {E : Environment} {key : MrzKey} {anchors : List Bytes} {options : PassportOptions}
  {platform : σ} {probed : Passport (Channel (Recorded σ))}

omit [RandomSource σ] in
/-- Where every step from the probe on reports, the read does what it should. -/
lemma verdict_of_reports {α : Type} {m : Reading (Recorded σ) α} (h : Reports m)
    (hclear : failedOf probed = false) (hlog : faulty (logOf probed) = false)
    (hexcused : ¬ Excused E key options platform (m probed).2) :
    (lost (m probed).1 = true) ↔
      faulty (logOf (m probed).2) = true ∧ ¬ Excused E key options platform (m probed).2 := by
  rw [h.spec hclear hlog]
  exact ⟨fun hfaulty => ⟨hfaulty, hexcused⟩, And.left⟩

/-- After a PACE attempt that lost an exchange: the tag is reported lost unless BAC opens a session
and nothing is lost after the attempt. -/
lemma verdict_after_lost_pace {access : EfCardAccess} {paceKeys : DBAKey} {e : PassportError}
    {paced : Passport (Channel (Recorded σ))} (hauto : options.session = .auto)
    (hprobe : probe E (observed platform) = (.ok (some access), probed))
    (hclean : faulty (logOf probed) = false) (hplain : paced.api.sm = none)
    (hkeys : dba key true = .ok paceKeys)
    (hpace : startPace E paceKeys access probed = (.err e, paced))
    (hstretch : ReadStretch true probed paced) :
    let m := openBac E key >>= fun _ => readAndVerify E anchors options
    lost (m paced).1 = true ↔
      faulty (logOf (m paced).2) = true ∧ ¬ Excused E key options platform (m paced).2 := by
  intro m
  obtain ⟨during, hduring, hfaulty⟩ := Logged.of_stretch hstretch
  have hlogPaced : faulty (logOf paced) = true := by
    rw [hduring, faulty_append, hfaulty, Bool.or_true]
  have hfailed : failedOf paced = true := by
    rw [failedOf_of_stretch hstretch, Bool.or_true]
  obtain ⟨bacKeys, hbacKeys⟩ : ∃ bacKeys, dba key false = .ok bacKeys := dba_eq_ok hkeys
  -- the excuse can only be this attempt, as the read is deterministic
  have hexcuse : ∀ final : Passport (Channel (Recorded σ)),
      Excused E key options platform final ↔ ∃ opened after,
        startBac E bacKeys paced = (.ok (), opened) ∧ logOf final = logOf paced ++ after ∧
        faulty after = false := by
    intro final
    constructor
    · rintro ⟨-, access', paceKeys', bacKeys', probed', e', paced', opened, during', after, hprobe',
        hkeys', hpace', hbacKeys', hbac, -, hfinal, -, -, hafter⟩
      obtain ⟨haccess, rfl⟩ := Prod.mk.inj (hprobe.symm.trans hprobe')
      obtain rfl := Option.some.inj (Outcome.ok.inj haccess)
      obtain rfl := Outcome.ok.inj (hkeys.symm.trans hkeys')
      obtain rfl := Outcome.ok.inj (hbacKeys.symm.trans hbacKeys')
      obtain ⟨-, rfl⟩ := Prod.mk.inj (hpace.symm.trans hpace')
      exact ⟨opened, after, hbac, hfinal, hafter⟩
    · rintro ⟨opened, after, hbac, hfinal, hafter⟩
      exact ⟨hauto, access, paceKeys, bacKeys, probed, e, paced, opened, during, after, hprobe,
        hkeys, hpace, hbacKeys, hbac, hduring, hfinal, hclean, hfaulty, hafter⟩
  have hopen : openBac E key paced = establish (startBac E bacKeys) paced := by
    rw [openBac, hbacKeys]
    rfl
  have hsurfaces := startBac_surfaces (σ := σ) E bacKeys
  rcases hbac : startBac E bacKeys paced with ⟨_ | e' | _, opened⟩
  · -- BAC opens a session: from here on the read reports what is lost
    have hm : m paced = readAndVerify E anchors options (Reading.clearFailure opened).2 := by
      rw [← readAndVerify_clear]
      apply Proc.bind_apply_ok
      rw [hopen, establish, Reading.mandatory_apply, hbac]
    have hquiet := Logged.of_stretch (hsurfaces.of_ok hbac)
    obtain ⟨fault, hlogged, hlost, -⟩ :=
      reports_readAndVerify E anchors options (Reading.clearFailure opened).2 rfl
    rw [hm, hlost, hexcuse]
    obtain ⟨after, hafter, hafterFaulty⟩ : Logged (false || fault) paced _ :=
      hquiet.trans hlogged
    rw [Bool.false_or] at hafterFaulty
    have hfinal : faulty (logOf (readAndVerify E anchors options
        (Reading.clearFailure opened).2).2) = true := by
      rw [hafter, faulty_append, hlogPaced, Bool.true_or]
    constructor
    · intro hfault
      refine ⟨hfinal, ?_⟩
      rintro ⟨_, after', -, hafter', hgood⟩
      have heq : after = after' := List.append_cancel_left (hafter.symm.trans hafter')
      rw [← heq, hafterFaulty, hfault] at hgood
      simp at hgood
    · rintro ⟨-, hno⟩
      by_contra hgood
      rw [Bool.not_eq_true] at hgood
      exact hno ⟨opened, after, hbac, hafter, hafterFaulty.trans hgood⟩
  · -- BAC fails too, and the flag is still set
    have hstretch' : ∃ fault, ReadStretch fault paced opened := by
      obtain ⟨fault, hstretch', -⟩ := hsurfaces paced
      rw [hbac] at hstretch'
      exact ⟨fault, hstretch'⟩
    obtain ⟨fault, hstretch'⟩ := hstretch'
    have hstill : failedOf opened = true := by
      rw [failedOf_of_stretch hstretch', hfailed, Bool.true_or]
    have hm : m paced = (.err (.nfc "the chip stopped responding during setup"), opened) := by
      apply Proc.bind_apply_err
      rw [hopen, establish, Reading.mandatory_apply, hbac]
      show (Outcome.err (if failedOf opened = true then _ else _), opened) = _
      rw [if_pos hstill]
    obtain ⟨after, hafter, -⟩ := Logged.of_stretch hstretch'
    rw [hm, hexcuse]
    refine iff_of_true rfl ⟨?_, ?_⟩
    · show faulty (logOf opened) = true
      rw [hafter, faulty_append, hlogPaced, Bool.true_or]
    · rintro ⟨opened', after', hbac', -⟩
      rw [hbac] at hbac'
      simp at hbac'
  · refine absurd (congrArg Prod.fst hbac) ?_
    refine Passport.startSession_ne_panic Channel.transceive_ne_panic E.primitives bacKeys ?_ hplain
    rw [List.length_append, E.rndIfd.property, E.kifd.property]

omit [RandomSource σ] in
lemma reports_openSession {session : Session} {cardAccess : Option EfCardAccess}
    (h : session ≠ .auto ∨ cardAccess = none) :
    Reports (σ := σ) (openSession E key session cardAccess) := by
  cases session with
  | auto =>
    rcases h with h | rfl
    · exact absurd rfl h
    · exact reports_openBac E key
  | pace =>
    cases cardAccess with
    | none => exact fun p hp => ⟨false, logged_refl p, rfl, fun _ => hp⟩
    | some access =>
      exact (reports_lift (lost_dba key true)).bind fun keys =>
        reports_mandatory (startPace_surfaces E keys access) (fun _ => rfl) fun _ => rfl
  | bac => cases cardAccess <;> exact reports_openBac E key

/-- The read under `Session::Auto` from a probe that found EF.CardAccess on. -/
lemma verdict_of_auto {access : EfCardAccess} (hauto : options.session = .auto)
    (hprobe : probe E (observed platform) = (.ok (some access), probed))
    (hclear : failedOf probed = false) (hclean : faulty (logOf probed) = false) :
    let m := openSession E key .auto (some access) >>= fun _ => readAndVerify E anchors options
    lost (m probed).1 = true ↔
      faulty (logOf (m probed).2) = true ∧ ¬ Excused E key options platform (m probed).2 := by
  intro m
  rcases hkeys : dba key true with paceKeys | e | _
  · have hm : m probed = match startPace E paceKeys access probed with
        | (.ok _, paced) => readAndVerify E anchors options paced
        | (.err _, paced) => (openBac E key >>= fun _ => readAndVerify E anchors options) paced
        | (.panic, paced) => (.panic, paced) := by
      show (openSession E key .auto (some access) >>= fun _ =>
        readAndVerify E anchors options) probed = _
      rw [openSession, hkeys, Proc.bind_assoc, Proc.lift_ok_bind_apply, Proc.bind_assoc,
        Proc.bind_apply, Proc.attempt]
      rcases startPace E paceKeys access probed with ⟨_ | e | _, paced⟩ <;> rfl
    have hsurfaces := startPace_surfaces (σ := σ) E paceKeys access
    -- what an excuse says of the attempt, as the read is deterministic
    have hattempt : ∀ final : Passport (Channel (Recorded σ)),
        Excused E key options platform final → ∃ e paced during,
          startPace E paceKeys access probed = (.err e, paced) ∧
          logOf paced = logOf probed ++ during ∧ faulty during = true := by
      rintro final ⟨-, access', paceKeys', bacKeys, probed', e, paced, opened, during, after,
        hprobe', hkeys', hpace', -, -, hduring, -, -, hfaulty, -⟩
      obtain ⟨haccess, rfl⟩ := Prod.mk.inj (hprobe.symm.trans hprobe')
      obtain rfl := Option.some.inj (Outcome.ok.inj haccess)
      obtain rfl := Outcome.ok.inj (hkeys.symm.trans hkeys')
      exact ⟨e, paced, during, hpace', hduring, hfaulty⟩
    rw [hm]
    rcases hpace : startPace E paceKeys access probed with ⟨_ | e | _, paced⟩
    · have hquiet := hsurfaces.of_ok hpace
      obtain ⟨events, hevents, hnone⟩ := Logged.of_stretch hquiet
      refine verdict_of_reports (reports_readAndVerify E anchors options) ?_ ?_ fun hexcused => ?_
      · rw [failedOf_of_stretch hquiet, hclear, Bool.or_false]
      · rw [hevents, faulty_append, hclean, hnone, Bool.or_false]
      · obtain ⟨e, paced', during, hpace', -⟩ := hattempt _ hexcused
        rw [hpace] at hpace'
        simp at hpace'
    · obtain ⟨fault, hstretch, -⟩ := hsurfaces probed
      rw [hpace] at hstretch
      cases fault with
      | false =>
        obtain ⟨events, hevents, hnone⟩ := Logged.of_stretch hstretch
        refine verdict_of_reports ((reports_openBac E key).bind fun _ =>
          reports_readAndVerify E anchors options) ?_ ?_ fun hexcused => ?_
        · rw [failedOf_of_stretch hstretch, hclear, Bool.or_false]
        · rw [hevents, faulty_append, hclean, hnone, Bool.or_false]
        · obtain ⟨e', paced', during, hpace', hduring, hfaulty⟩ := hattempt _ hexcused
          obtain ⟨-, rfl⟩ := Prod.mk.inj (hpace.symm.trans hpace')
          rw [List.append_cancel_left (hevents.symm.trans hduring), hfaulty] at hnone
          simp at hnone
      | true =>
        have hplain : probed.api.sm = none := probe_sm E hprobe rfl
        exact verdict_after_lost_pace hauto hprobe hclean (startPace_sm E hpace hplain) hkeys hpace
          hstretch
    · obtain ⟨events, hevents, hnone⟩ := Logged.of_stretch (hsurfaces.of_panic hpace)
      refine iff_of_false (by simp [lost]) fun hfaulty => ?_
      have hlog : faulty (logOf paced) = true := hfaulty.1
      rw [hevents, faulty_append, hclean, hnone] at hlog
      simp at hlog
  · have hm : m probed = (.err e, probed) := by
      show (openSession E key .auto (some access) >>= fun _ =>
        readAndVerify E anchors options) probed = _
      rw [openSession, hkeys, Proc.bind_assoc, Proc.lift_err_bind_apply]
    have hkind := lost_dba key true
    rw [hkeys] at hkind
    have hnot : e.isNfc = false := hkind
    rw [hm]
    exact iff_of_false (by simp [lost, hnot]) fun hfaulty => by simp [hclean] at hfaulty
  · have hm : m probed = (.panic, probed) := by
      show (openSession E key .auto (some access) >>= fun _ =>
        readAndVerify E anchors options) probed = _
      rw [openSession, hkeys, Proc.bind_assoc, Proc.lift_panic_bind_apply]
    rw [hm]
    exact iff_of_false (by simp [lost]) fun hfaulty => by simp [hclean] at hfaulty

end Verdict

/-- On any platform, with any key, anchors and options, the read returns `Nfc` exactly if the
transport lost an exchange that is not excused. -/
theorem nfc_iff_lost_tag (E : Environment) (key : MrzKey) (anchors : List Bytes)
    (options : PassportOptions) (platform : σ) :
    (∃ message, (readPassport E key anchors options (observed platform)).1 =
        .err (.nfc message)) ↔
      faulty (logOf (readPassport E key anchors options (observed platform)).2) = true ∧
        ¬ Excused E key options platform
          (readPassport E key anchors options (observed platform)).2 := by
  rw [lost_iff, readPassport_eq]
  have hreports := reports_probe (σ := σ) E
  rcases hprobe : probe E (observed platform) with ⟨cardAccess | e | _, probed⟩
  · obtain ⟨fault, ⟨events, hevents, hfault⟩, hlost, hclear⟩ := hreports (observed platform) rfl
    rw [hprobe] at hevents hlost hclear
    obtain rfl : false = fault := hlost
    have hclean : faulty (logOf probed) = false := by
      rw [hevents, faulty_append, hfault, logOf_observed, faulty_nil, Bool.or_false]
    rw [Proc.bind_apply_ok hprobe]
    by_cases hsimple : options.session ≠ .auto ∨ cardAccess = none
    · refine verdict_of_reports ((reports_openSession hsimple).bind fun _ =>
        reports_readAndVerify E anchors options) (hclear rfl) hclean ?_
      rintro ⟨hauto, access, -, -, probed', -, -, -, -, -, hprobe', -⟩
      have haccess := Outcome.ok.inj (Prod.mk.inj (hprobe.symm.trans hprobe')).1
      rcases hsimple with hother | hnone
      · exact hother hauto
      · rw [hnone] at haccess
        simp at haccess
    · obtain ⟨hauto, hsome⟩ := not_or.mp hsimple
      rw [not_not] at hauto
      obtain ⟨access, rfl⟩ := Option.ne_none_iff_exists'.mp hsome
      rw [hauto]
      exact verdict_of_auto hauto hprobe (hclear rfl) hclean
  · have hspec := hreports.spec (failedOf_observed platform) rfl
    rw [hprobe] at hspec
    rw [Proc.bind_apply_err hprobe]
    show lost (Outcome.err e : Outcome IdentityError PassportRead) = true ↔ _
    rw [show lost (Outcome.err e : Outcome IdentityError PassportRead) = faulty (logOf probed) from
      hspec]
    refine ⟨fun hfaulty => ⟨hfaulty, ?_⟩, And.left⟩
    rintro ⟨-, access, -, -, probed', -, -, -, -, -, hprobe', -⟩
    rw [hprobe] at hprobe'
    simp at hprobe'
  · have hspec := hreports.spec (failedOf_observed platform) rfl
    rw [hprobe] at hspec
    rw [Proc.bind_apply_panic hprobe]
    have hclean : faulty (logOf probed) = false := hspec.symm
    exact iff_of_false (by simp [lost]) fun hfaulty => by simp [hclean] at hfaulty

end IdentityMobile
