import IdentityCrates.Dmrtd.Properties.PaceEngineFrame

/-!
# The course of a PACE session

Two sessions that differ in the access key, and are driven with the same calls, differ in what they
decrypt and derive.  They do not differ in how far they are, in the static key pair of the engine, or
in the random bytes they have left, as long as each call succeeds in both or fails in both.

`PaceCourse` is what is left of a session when everything that depends on the password is left out.
It moves by itself: `PaceSession.course_step` says that the course after a call is determined by the
course before it, the call, and whether the call succeeded.
-/

namespace Dmrtd

open Rust Octets

/-! ## What does not depend on the password -/

/-- How far a session is. -/
inductive PaceStage where
  | start
  | waitingForMseSetAt
  | readyForStep1
  | waitingForStep1
  | readyForStep2
  | waitingForStep2
  | readyForStep3
  | waitingForStep3
  | readyForStep4
  | waitingForStep4
  | completed
  | taken
  deriving DecidableEq, Repr

namespace PaceStage

/-- Where a successful `next` leads, unless it is out of turn. -/
def afterNext : PaceStage → Option PaceStage
  | start => some waitingForMseSetAt
  | readyForStep1 => some waitingForStep1
  | readyForStep2 => some waitingForStep2
  | readyForStep3 => some waitingForStep3
  | readyForStep4 => some waitingForStep4
  | completed => some taken
  | _ => none

/-- Where an accepted response leads, unless it is out of turn. -/
def afterResponse : PaceStage → Option PaceStage
  | waitingForMseSetAt => some readyForStep1
  | waitingForStep1 => some readyForStep2
  | waitingForStep2 => some readyForStep3
  | waitingForStep3 => some readyForStep4
  | waitingForStep4 => some completed
  | _ => none

end PaceStage

/-- The stage of a state. -/
def PaceState.stage : PaceState → PaceStage
  | .start => .start
  | .waitingForMseSetAt => .waitingForMseSetAt
  | .readyForStep1 => .readyForStep1
  | .waitingForStep1 => .waitingForStep1
  | .readyForStep2 _ => .readyForStep2
  | .waitingForStep2 _ => .waitingForStep2
  | .readyForStep3 => .readyForStep3
  | .waitingForStep3 => .waitingForStep3
  | .readyForStep4 .. => .readyForStep4
  | .waitingForStep4 .. => .waitingForStep4
  | .completed (some _) => .completed
  | .completed none => .taken

lemma PaceState.stage_eq_readyForStep2 {state : PaceState} :
    state.stage = .readyForStep2 ↔ ∃ nonce, state = .readyForStep2 nonce := by
  cases state with
  | completed slot => cases slot <;> simp [stage]
  | _ => simp [stage]

/-- An engine that is drawn takes from the tape what its private key takes. -/
lemma DHpkcs3Engine.generatePrivateKey_of_new {spec : DhParameterSpec} {entropy rest : Entropy}
    {engine : DHpkcs3Engine} (h : DHpkcs3Engine.new spec none entropy = .ok (engine, rest)) :
    ∃ k, DHpkcs3Engine.generatePrivateKey spec entropy = .ok (k, rest) := by
  unfold DHpkcs3Engine.new at h
  obtain ⟨drawn, hdrawn, h⟩ := Outcome.bind_eq_ok.mp h
  split at h
  · simp at h
  split at h
  · simp at h
  split at h
  · simp at h
  split at h
  · simp at h
  · obtain ⟨-, rfl⟩ := Prod.mk.inj (Outcome.ok.inj h)
    exact ⟨drawn.1, hdrawn⟩

namespace PaceEngine

variable {P : Primitives}

/-- The engine without its ephemeral key pair. -/
def static : PaceEngine P → PaceEngine P
  | .ecdh e => .ecdh ⟨e.curve, ⟨e.engine.privKey, e.engine.pubKey, none, none, none⟩⟩
  | .dh e => .dh ⟨e.domainSpec, e.engine, none⟩

/-- The random bytes that are left once an ephemeral key pair has been drawn. -/
def afterEphemeral (self : PaceEngine P) (entropy : Entropy) : Option Entropy :=
  match self with
  | .ecdh e => (SecretKey.generate P e.curve entropy).toOption.map Prod.snd
  | .dh e => (DHpkcs3Engine.generatePrivateKey e.domainSpec entropy).toOption.map Prod.snd

@[simp] lemma static_static (self : PaceEngine P) : self.static.static = self.static := by
  cases self <;> rfl

@[simp] lemma afterEphemeral_static (self : PaceEngine P) :
    self.static.afterEphemeral = self.afterEphemeral := by
  cases self <;> rfl

/-- Drawing the main pair does not look at the ephemeral one. -/
lemma generateMainKeyPair_static (self : PaceEngine P) (entropy : Entropy) :
    self.static.generateMainKeyPair entropy =
      (fun drawn => (drawn.1.static, drawn.2)) <$> self.generateMainKeyPair entropy := by
  cases self with
  | ecdh e =>
    simp only [static, generateMainKeyPair, EcdhEngine.generateKeyPair]
    cases SecretKey.generate P e.curve entropy <;> rfl
  | dh e =>
    simp only [static, generateMainKeyPair, DHPace.generateKeyPair]
    cases DHpkcs3Engine.new e.domainSpec none entropy <;> rfl

/-- The mapping keeps the static pair, and takes from the tape what the ephemeral pair takes,
whatever the nonce. -/
lemma mapAndGenerateEphemeral_eq_ok {self : PaceEngine P} {pub : PublicKeyPace} {nonce : Bytes}
    {entropy : Entropy} {drawn : PaceEngine P × Entropy}
    (h : self.mapAndGenerateEphemeral pub nonce entropy = .ok drawn) :
    drawn.1.static = self.static ∧ self.afterEphemeral entropy = some drawn.2 := by
  cases self with
  | ecdh e =>
    obtain ⟨pair, hpair, hdrawn⟩ := Outcome.bind_eq_ok.mp h
    obtain ⟨other, -, hpair⟩ := Outcome.bind_eq_ok.mp (Outcome.mapErr_eq_ok.mp hpair)
    obtain ⟨shared, -, hpair⟩ := Outcome.bind_eq_ok.mp hpair
    obtain ⟨sk, hsk, hpair⟩ := Outcome.bind_eq_ok.mp hpair
    rw [Outcome.pure_eq, Outcome.ok.injEq] at hpair hdrawn
    rw [← hdrawn, ← hpair]
    refine ⟨rfl, ?_⟩
    simp only [afterEphemeral, hsk, Outcome.toOption_ok, Option.map_some]
  | dh e =>
    obtain ⟨gPrime, -, h⟩ := Outcome.bind_eq_ok.mp h
    obtain ⟨pair, hpair, hdrawn⟩ := Outcome.bind_eq_ok.mp h
    obtain ⟨⟨engine, rest⟩, hengine, hpair⟩ := Outcome.bind_eq_ok.mp (Outcome.mapErr_eq_ok.mp hpair)
    obtain ⟨k, hk⟩ := DHpkcs3Engine.generatePrivateKey_of_new (Outcome.mapErr_eq_ok.mp hengine)
    rw [Outcome.pure_eq, Outcome.ok.injEq] at hpair hdrawn
    rw [← hdrawn, ← hpair]
    -- the private key is drawn without a look at the generator
    have hdraw : DHpkcs3Engine.generatePrivateKey e.domainSpec entropy = .ok (k, rest) := hk
    refine ⟨rfl, ?_⟩
    simp only [afterEphemeral, hdraw, Outcome.toOption_ok, Option.map_some]

end PaceEngine

/-- A session without what depends on the password: its stage, its engine without the ephemeral key
pair, and its tape of random bytes. -/
structure PaceCourse (P : Primitives) where
  stage : PaceStage
  engine : PaceEngine P
  entropy : Entropy

namespace PaceCourse

variable {P : Primitives}

/-- The response has the status word of success. -/
def isSuccessful (response : Bytes) : Bool :=
  (ResponseApdu.fromBytes response).isOkAnd fun rapdu => decide (rapdu.status = StatusWord.success)

/-- The main key pair is drawn on the way to the second step. -/
def draw (self : PaceCourse P) : PaceCourse P :=
  if self.stage = .readyForStep2 then
    match self.engine.generateMainKeyPair self.entropy with
    | .ok drawn => { self with engine := drawn.1, entropy := drawn.2 }
    | _ => self
  else self

/-- The ephemeral key pair is drawn when the response to the second step is accepted. -/
def drawEphemeral (self : PaceCourse P) : PaceCourse P :=
  if self.stage = .waitingForStep2 then
    { self with entropy := (self.engine.afterEphemeral self.entropy).getD self.entropy }
  else self

/-- The course after a call that succeeds, or fails. -/
def after (self : PaceCourse P) (call : Dialogue.Call Bytes) (ok : Bool) : PaceCourse P :=
  match call with
  | .next =>
    match self.stage.afterNext with
    | some stage => { self.draw with stage := if ok then stage else .start }
    | none => self
  | .feed response =>
    if isSuccessful response then
      match self.stage.afterResponse with
      | some stage =>
        if ok then { self.drawEphemeral with stage := stage } else { self with stage := .start }
      | none => self
    else self

end PaceCourse

namespace PaceSession

variable {P : Primitives} {κ : Type} [AccessKey κ]

/-- The course of a session. -/
def course (self : PaceSession P κ) : PaceCourse P :=
  ⟨self.state.stage, self.engine.static, self.entropy⟩

omit [AccessKey κ] in
/-- The stages that `next` moves are those of the states in which a command is due, and of a
completed one. -/
lemma isSome_afterNext {state : PaceState} (hslot : ∀ sm, state ≠ .completed (some sm)) :
    state.stage.afterNext.isSome = state.asks := by
  cases state with
  | completed slot =>
    cases slot with
    | none => rfl
    | some sm => exact absurd rfl (hslot sm)
  | _ => rfl

omit [AccessKey κ] in
/-- The course draws what the engine of the session draws. -/
lemma draw_course {self : PaceSession P κ} {nonce : Bytes} {drawn : PaceEngine P × Entropy}
    (hstate : self.state = .readyForStep2 nonce)
    (hdrawn : self.engine.generateMainKeyPair self.entropy = .ok drawn) :
    self.course.draw = ⟨.readyForStep2, drawn.1.static, drawn.2⟩ := by
  simp only [PaceCourse.draw, course, hstate, PaceState.stage, if_true,
    PaceEngine.generateMainKeyPair_static, hdrawn]
  rfl

omit [AccessKey κ] in
/-- Where the session draws nothing, nor does the course. -/
lemma draw_course_of_not_drawn {self : PaceSession P κ}
    (hdraw : ∀ nonce, self.state = .readyForStep2 nonce →
      (self.engine.generateMainKeyPair self.entropy).isOk = false) :
    self.course.draw = self.course := by
  unfold PaceCourse.draw
  split
  · rename_i hstage
    obtain ⟨nonce, hstate⟩ := PaceState.stage_eq_readyForStep2.mp hstage
    have hfails := hdraw nonce hstate
    simp only [course, PaceEngine.generateMainKeyPair_static]
    cases hdrawn : self.engine.generateMainKeyPair self.entropy with
    | ok drawn => rw [hdrawn] at hfails; cases hfails
    | err e => rfl
    | panic => rfl
  · rfl

/-- `next` moves the course. -/
lemma course_next (self : PaceSession P κ) :
    (next self).2.course = self.course.after .next (next self).1.isOk := by
  have hrequested := requested self
  generalize next self = after at hrequested ⊢
  obtain ⟨result, session⟩ := after
  cases hrequested with
  | sendsMapping hstate hdrawn hcmd =>
    simp only [PaceCourse.after, draw_course hstate hdrawn]
    simp only [course, hstate]
    rfl
  | drewAndFailed hstate hdrawn hresult =>
    simp only [PaceCourse.after, draw_course hstate hdrawn, hresult]
    simp only [course, hstate]
    rfl
  | failed hasks hdraw hresult =>
    have hslot : ∀ sm, self.state ≠ .completed (some sm) := by
      intro sm hstate
      rw [hstate] at hasks
      cases hasks
    obtain ⟨stage, hstage⟩ := Option.isSome_iff_exists.mp ((isSome_afterNext hslot).trans hasks)
    simp only [PaceCourse.after, draw_course_of_not_drawn hdraw, hresult]
    simp only [course, hstage]
    rfl
  | idle hasks hslot =>
    have hnone := Option.not_isSome_iff_eq_none.mp
      (Bool.eq_false_iff.mp ((isSome_afterNext hslot).trans hasks))
    simp only [PaceCourse.after, course, hnone]
  | selects hstate => simp only [course, hstate]; rfl
  | asksNonce hstate => simp only [course, hstate]; rfl
  | sendsKey hstate => simp only [course, hstate]; rfl
  | sendsToken hstate => simp only [course, hstate]; rfl
  | handsOver hstate => simp only [course, hstate]; rfl

omit [AccessKey κ] in
/-- The stages that a response moves are those of the states in which one is due. -/
lemma isSome_afterResponse (state : PaceState) :
    state.stage.afterResponse.isSome = state.awaitsResponse := by
  cases state with
  | completed slot => cases slot <;> rfl
  | _ => rfl

/-- A response moves the course. -/
lemma course_feedResponse (self : PaceSession P κ) (response : Bytes) :
    (feedResponse response self).2.course =
      self.course.after (.feed response) (feedResponse response self).1.isOk := by
  by_cases hsuccess : ∀ body, ResponseApdu.fromBytes response ≠ .ok ⟨StatusWord.success, body⟩
  · have hnot : PaceCourse.isSuccessful response = false := by
      rw [Bool.eq_false_iff]
      intro h
      obtain ⟨rapdu, hrapdu, hstatus⟩ := Outcome.isOkAnd_iff.mp h
      obtain ⟨status, body⟩ := rapdu
      obtain rfl : status = StatusWord.success := of_decide_eq_true hstatus
      exact hsuccess body hrapdu
    obtain ⟨result, -, hfeed⟩ := feedResponse_of_unsuccessful self hsuccess
    rw [hfeed, PaceCourse.after, hnot]
    rfl
  obtain ⟨body, hbody⟩ := not_forall.mp hsuccess
  have hbody := not_not.mp hbody
  have hok : PaceCourse.isSuccessful response = true := by
    rw [PaceCourse.isSuccessful, hbody, Outcome.isOkAnd_iff]
    exact ⟨_, rfl, decide_eq_true rfl⟩
  simp only [feedResponse_of_success self hbody, PaceCourse.after, hok, if_true]
  have hconsumed := consumed self body
  generalize consumeBody body self = after at hconsumed ⊢
  obtain ⟨result, session⟩ := after
  cases hconsumed with
  | mapped hstate hdrawn =>
    obtain ⟨pub, -, hmap⟩ := Outcome.bind_eq_ok.mp hdrawn
    obtain ⟨hstatic, hrest⟩ := PaceEngine.mapAndGenerateEphemeral_eq_ok hmap
    simp only [course, hstate, PaceState.stage, PaceStage.afterResponse, PaceCourse.drawEphemeral,
      if_true, PaceEngine.afterEphemeral_static, hrest, Option.getD_some, hstatic]
    rfl
  | failed hawaits hresult =>
    obtain ⟨stage, hstage⟩ := Option.isSome_iff_exists.mp
      ((isSome_afterResponse self.state).trans hawaits)
    simp only [course, hstage, hresult]
    rfl
  | idle hawaits =>
    have hnone := Option.not_isSome_iff_eq_none.mp
      (Bool.eq_false_iff.mp ((isSome_afterResponse session.state).trans hawaits))
    simp only [course, hnone]
  | selected hstate => simp only [course, hstate]; rfl
  | decrypted hstate => simp only [course, hstate]; rfl
  | agreed hstate => simp only [course, hstate]; rfl
  | authenticated hstate => simp only [course, hstate]; rfl

/-- **The course moves by itself**: the course after a call is the one that the course before it
determines, given whether the call succeeded. -/
theorem course_step (call : Dialogue.Call Bytes) (self : PaceSession P κ) :
    (step call self).2.course = self.course.after call (step call self).1.isOk := by
  cases call with
  | next => exact course_next self
  | feed response => exact course_feedResponse self response

/-! ## Two sessions on one course -/

section TwoRuns

variable {κ' : Type} [AccessKey κ']

/-- Every call succeeds in both runs or fails in both. -/
def SameReplies (init : PaceSession P κ) (init' : PaceSession P κ')
    (calls : List (Dialogue.Call Bytes)) : Prop :=
  (Machine.trace step init calls).map (fun p => p.2.isOk) =
    (Machine.trace step init' calls).map fun p => p.2.isOk

/-- Sessions on one course stay on it for as long as they give the same replies. -/
theorem course_run {init : PaceSession P κ} {init' : PaceSession P κ'}
    (hcourse : init.course = init'.course) {calls : List (Dialogue.Call Bytes)}
    (h : SameReplies init init' calls) :
    (Machine.final step init calls).course = (Machine.final step init' calls).course := by
  induction calls generalizing init init' with
  | nil => exact hcourse
  | cons call calls ih =>
    simp only [SameReplies, Machine.trace_cons, List.map_cons, List.cons.injEq] at h
    refine ih ?_ h.2
    rw [course_step, course_step, hcourse, h.1]

end TwoRuns

omit [AccessKey κ] in
/-- The access key has no part in how a session starts. -/
lemma new_rekeyed {κ' : Type} (key : κ) (key' : κ') (protocol : OiePaceProtocol)
    (parameterId : Nat) (entropy : Entropy) :
    new P key' protocol parameterId entropy =
      (fun session => ⟨key', session.protocol, session.engine, session.parameterId,
        session.entropy, session.state⟩) <$> new P key protocol parameterId entropy := by
  simp only [new]
  cases protocol.tokenAgreementAlgorithm with
  | ecdh =>
    simp only [newEcdh]
    split_ifs
    all_goals
      first
      | rfl
      | cases ECDHPace.new P parameterId <;> rfl
  | dh =>
    simp only [newDh]
    split_ifs
    all_goals
      first
      | rfl
      | cases DHPace.getDomainParameter parameterId entropy <;> rfl

omit [AccessKey κ] in
lemma course_new {κ' : Type} {key : κ} {key' : κ'} {protocol : OiePaceProtocol}
    {parameterId : Nat} {entropy : Entropy} {session : PaceSession P κ}
    {session' : PaceSession P κ'} (h : new P key protocol parameterId entropy = .ok session)
    (h' : new P key' protocol parameterId entropy = .ok session') :
    session.course = session'.course := by
  rw [new_rekeyed key key', h, Outcome.map_ok, Outcome.ok.injEq] at h'
  rw [← h']
  rfl

end PaceSession

end Dmrtd
