import IdentityCrates.Dmrtd.Properties.PaceContract

/-!
# The two authentication tokens of a PACE session

In the last two steps of PACE each side sends a public key and then a token: a MAC, under the agreed
key, over the public key of the *other* side.  The terminal sends `T_IFD`, over the chip's key, and
expects `T_IC`, over its own.

The session does not compare the two keys.  A chip may send the terminal's key back to it, and then
the token that the terminal expects is the one it has just sent
(`PaceSession.done_despite_own_key`).  What the code does guarantee, in every run and whatever calls
failed before, is that Done comes after a token over the terminal's own key, under the MAC key
agreed with the key that the chip sent; and that the two tokens are MACs of different inputs unless
the two keys are the same bytes (`PaceSession.tokens_of_done`).

The run is described by four events, each a call and the session that serves it: the terminal sends
its key, receives the chip's, sends its token and accepts the chip's.
-/

namespace Dmrtd

open Rust Octets

namespace Pace

lemma isSingleByte_tag (key : PublicKeyPace) :
    Tlv.IsSingleByte (match key with
      | .ecdh .. => 0x86
      | .dh _ => 0x84) := by
  cases key with
  | ecdh x y coordLen => exact (by decide : Tlv.IsSingleByte 0x86)
  | dh pubBytes => exact (by decide : Tlv.IsSingleByte 0x84)

/-- Tokens over keys that are written differently are computed over different inputs. -/
lemma generateEncodingInputData_inj {ε : Type} {protocol : OiePaceProtocol}
    {pub pub' : PublicKeyPace} {input : Bytes}
    (h : (generateEncodingInputData protocol pub : Outcome ε Bytes) = .ok input)
    (h' : (generateEncodingInputData protocol pub' : Outcome ε Bytes) = .ok input) :
    publicKeyValue pub = publicKeyValue pub' := by
  obtain ⟨oidTlv, hoid, h⟩ := Outcome.bind_eq_ok.mp h
  obtain ⟨pubTlv, hpub, h⟩ := Outcome.bind_eq_ok.mp h
  obtain ⟨oidTlv', hoid', h'⟩ := Outcome.bind_eq_ok.mp h'
  obtain ⟨pubTlv', hpub', h'⟩ := Outcome.bind_eq_ok.mp h'
  rw [hoid, Outcome.ok.injEq] at hoid'
  have hbody := Tlv.encode_inj h h'
  rw [← hoid', List.append_cancel_left_eq] at hbody
  have hread := Tlv.fromBytes_encode (isSingleByte_tag pub) hpub
  rw [hbody, Tlv.fromBytes_encode (isSingleByte_tag pub') hpub', Outcome.ok.injEq,
    Tlv.mk.injEq] at hread
  exact hread.2.symm

end Pace

namespace PaceSession

variable {P : Primitives} {κ : Type} [AccessKey κ]

/-! ## Events -/

/-- The terminal sends its ephemeral public key. -/
def sendsKey (own : PublicKeyPace) (self : PaceSession P κ) : Dialogue.Call Bytes → Bool
  | .next =>
    match self.state with
    | .readyForStep3 =>
      decide (self.engine.ephemeralPubKey = .ok own) && (step3Command self.engine).isOk
    | _ => false
  | .feed _ => false

/-- The terminal accepts an ephemeral public key from the chip and derives a MAC key. -/
def receivesKey (icc : PublicKeyPace) (kMac : Bytes) (self : PaceSession P κ) :
    Dialogue.Call Bytes → Bool
  | .next => false
  | .feed response =>
    match self.state, ResponseApdu.fromBytes response with
    | .waitingForStep3, .ok rapdu =>
      decide (rapdu.status = StatusWord.success) &&
        (self.handleStep3 rapdu.data).isOkAnd fun agreed =>
          decide (agreed.1 = icc ∧ agreed.2.2 = kMac)
    | _, _ => false

/-- The terminal sends its token, over the chip's key. -/
def sendsToken (icc : PublicKeyPace) (kMac tIfd : Bytes) (self : PaceSession P κ) :
    Dialogue.Call Bytes → Bool
  | .next =>
    match self.state with
    | .readyForStep4 icc' _ kMac' =>
      decide (icc' = icc ∧ kMac' = kMac) && decide (authToken P self.protocol icc kMac = .ok tIfd) &&
        (self.step4Command icc kMac).isOk
    | _ => false
  | .feed _ => false

/-- The terminal accepts the chip's token, over its own key. -/
def acceptsToken (own : PublicKeyPace) (kMac tIcc : Bytes) (self : PaceSession P κ) :
    Dialogue.Call Bytes → Bool
  | .next => false
  | .feed response =>
    match self.state, ResponseApdu.fromBytes response with
    | .waitingForStep4 _ kMac', .ok rapdu =>
      decide (rapdu.status = StatusWord.success) && decide (kMac' = kMac) &&
        decide (self.engine.ephemeralPubKey = .ok own) &&
        decide (authToken P self.protocol own kMac = .ok tIcc) &&
        rapdu.data.any fun data => decide (Pace.parseStep4Response data = .ok tIcc)
    | _, _ => false

/-- What has happened by the time the session is in its present state, from the sending of the
terminal's key on. -/
def Traced (init : PaceSession P κ) (calls : List (Dialogue.Call Bytes)) (self : PaceSession P κ) :
    Prop :=
  match self.state with
  | .waitingForStep3 => ∃ own, self.engine.ephemeralPubKey = .ok own ∧
    Machine.Occurs step [sendsKey own] init calls
  | .readyForStep4 icc _ kMac => ∃ own, self.engine.ephemeralPubKey = .ok own ∧
    Machine.Occurs step [sendsKey own, receivesKey icc kMac] init calls
  | .waitingForStep4 _ kMac => ∃ own icc tIfd, self.engine.ephemeralPubKey = .ok own ∧
    authToken P self.protocol icc kMac = .ok tIfd ∧
    Machine.Occurs step [sendsKey own, receivesKey icc kMac, sendsToken icc kMac tIfd] init calls
  | .completed (some _) => ∃ own icc kMac tIfd tIcc,
    authToken P self.protocol icc kMac = .ok tIfd ∧ authToken P self.protocol own kMac = .ok tIcc ∧
    Machine.Occurs step [sendsKey own, receivesKey icc kMac, sendsToken icc kMac tIfd,
      acceptsToken own kMac tIcc] init calls
  | _ => True

/-- A call that changes nothing adds nothing. -/
lemma Traced.concat {init self : PaceSession P κ} {calls : List (Dialogue.Call Bytes)}
    (h : Traced init calls self) (call : Dialogue.Call Bytes) :
    Traced init (calls ++ [call]) self := by
  unfold Traced at h ⊢
  split at h
  · obtain ⟨own, hown, h⟩ := h
    exact ⟨own, hown, h.concat call⟩
  · obtain ⟨own, hown, h⟩ := h
    exact ⟨own, hown, h.concat call⟩
  · obtain ⟨own, icc, tIfd, hown, htoken, h⟩ := h
    exact ⟨own, icc, tIfd, hown, htoken, h.concat call⟩
  · obtain ⟨own, icc, kMac, tIfd, tIcc, hifd, hicc, h⟩ := h
    exact ⟨own, icc, kMac, tIfd, tIcc, hifd, hicc, h.concat call⟩
  · trivial

/-! ## Every call keeps the trace -/

/-- The session follows `init`: it runs the same protocol and has a trace. -/
structure Follows (init : PaceSession P κ) (calls : List (Dialogue.Call Bytes))
    (session : PaceSession P κ) : Prop where
  protocol_eq : session.protocol = init.protocol
  traced : Traced init calls session

variable {init self : PaceSession P κ} {calls : List (Dialogue.Call Bytes)}

lemma follows_next (hself : Machine.final step init calls = self) (h : Follows init calls self) :
    Follows init (calls ++ [.next]) (next self).2 := by
  obtain ⟨hprotocol, htraced⟩ := h
  have hrequested := requested self
  generalize next self = after at hrequested ⊢
  obtain ⟨result, session⟩ := after
  cases hrequested with
  | selects => exact ⟨hprotocol, trivial⟩
  | asksNonce => exact ⟨hprotocol, trivial⟩
  | sendsMapping => exact ⟨hprotocol, trivial⟩
  | sendsKey hstate hcmd =>
    refine ⟨hprotocol, ?_⟩
    obtain ⟨own, hown, -⟩ := Outcome.bind_eq_ok.mp hcmd
    refine ⟨own, hown, (Machine.occurs_nil step _ _).concat_event ?_⟩
    simp [hself, sendsKey, hstate, hown, hcmd]
  | sendsToken hstate hcmd =>
    refine ⟨hprotocol, ?_⟩
    rw [Traced, hstate] at htraced
    obtain ⟨own, hown, hoccurs⟩ := htraced
    obtain ⟨tIfd, htoken, -⟩ := Outcome.bind_eq_ok.mp hcmd
    refine ⟨own, _, tIfd, hown, htoken, hoccurs.concat_event ?_⟩
    simp [hself, sendsToken, hstate, htoken, hcmd]
  | handsOver => exact ⟨hprotocol, trivial⟩
  | failed => exact ⟨hprotocol, trivial⟩
  | drewAndFailed => exact ⟨hprotocol, trivial⟩
  | idle => exact ⟨hprotocol, htraced.concat .next⟩

omit [AccessKey κ] in
/-- What the last step has checked. -/
lemma handleStep4_eq_ok {kEnc kMac : Bytes} {body : Option Bytes} {sm : MrtdSM}
    (h : self.handleStep4 kEnc kMac body = .ok sm) :
    ∃ data token own, body = some data ∧ Pace.parseStep4Response data = .ok token ∧
      self.engine.ephemeralPubKey = .ok own ∧ authToken P self.protocol own kMac = .ok token := by
  obtain ⟨data, hdata, h⟩ := Outcome.bind_eq_ok.mp h
  obtain ⟨token, htoken, h⟩ := Outcome.bind_eq_ok.mp h
  obtain ⟨own, hown, h⟩ := Outcome.bind_eq_ok.mp h
  obtain ⟨expected, hexpected, h⟩ := Outcome.bind_eq_ok.mp h
  split at h
  · simp at h
  · rename_i heq
    rw [not_not] at heq
    exact ⟨data, token, own, Outcome.ofOption_eq_ok.mp hdata, Outcome.mapErr_eq_ok.mp htoken, hown,
      heq ▸ hexpected⟩

lemma follows_feedResponse (hself : Machine.final step init calls = self)
    (h : Follows init calls self) (response : Bytes) :
    Follows init (calls ++ [.feed response]) (feedResponse response self).2 := by
  obtain ⟨hprotocol, htraced⟩ := h
  have hkept : Follows init (calls ++ [.feed response]) self :=
    ⟨hprotocol, htraced.concat (.feed response)⟩
  by_cases hsuccess : ∃ body, ResponseApdu.fromBytes response = .ok ⟨StatusWord.success, body⟩
  swap
  · obtain ⟨result, -, hfeed⟩ := feedResponse_of_unsuccessful self
      fun body hbody => hsuccess ⟨body, hbody⟩
    rw [hfeed]
    exact hkept
  obtain ⟨body, hparse⟩ := hsuccess
  rw [feedResponse_of_success self hparse]
  have hconsumed := consumed self body
  generalize consumeBody body self = after at hconsumed ⊢
  obtain ⟨result, session⟩ := after
  cases hconsumed with
  | selected hstate => exact ⟨hprotocol, trivial⟩
  | decrypted hstate hnonce => exact ⟨hprotocol, trivial⟩
  | mapped hstate hdrawn => exact ⟨hprotocol, trivial⟩
  | agreed hstate hagreed =>
    refine ⟨hprotocol, ?_⟩
    rw [Traced, hstate] at htraced
    obtain ⟨own, hown, hoccurs⟩ := htraced
    refine ⟨own, hown, hoccurs.concat_event ?_⟩
    simp [hself, receivesKey, hstate, hparse, hagreed, Outcome.isOkAnd]
  | authenticated hstate hsm =>
    refine ⟨hprotocol, ?_⟩
    rw [Traced, hstate] at htraced
    obtain ⟨own, icc, tIfd, hown, hifd, hoccurs⟩ := htraced
    obtain ⟨data, tIcc, own', rfl, htoken, hown', hicc⟩ := handleStep4_eq_ok hsm
    obtain rfl : own = own' := Outcome.ok.inj (hown.symm.trans hown')
    refine ⟨own, icc, _, tIfd, tIcc, hifd, hicc, hoccurs.concat_event ?_⟩
    simp [hself, acceptsToken, hstate, hparse, hown, hicc, htoken]
  | failed hawaits hresult => exact ⟨hprotocol, trivial⟩
  | idle hawaits => exact hkept

/-- Every run keeps the trace. -/
lemma follows_run (hstart : init.state = .start) (calls : List (Dialogue.Call Bytes)) :
    Follows init calls (Machine.final step init calls) := by
  induction calls using List.reverseRecOn with
  | nil =>
    refine ⟨rfl, ?_⟩
    simp only [Machine.final_nil, Traced, hstart]
  | append_singleton calls call ih =>
    rw [Machine.final_concat]
    cases call with
    | next => exact follows_next rfl ih
    | feed response => exact follows_feedResponse rfl ih response

/-- A token is a truncated CMAC of an input that the key determines. -/
lemma authToken_eq_ok {protocol : OiePaceProtocol} {pub : PublicKeyPace} {kMac token : Bytes}
    (haes : protocol.cipherAlgorithm = .aes) (h : authToken P protocol pub kMac = .ok token) :
    ∃ input, (Pace.generateEncodingInputData protocol pub : Outcome PaceSessionError Bytes) =
      .ok input ∧ token = (P.cmac kMac input).take 8 := by
  obtain ⟨input, hinput, h⟩ := Outcome.bind_eq_ok.mp h
  have h := Outcome.mapErr_eq_ok.mp h
  rw [Pace.calculateAuthToken, haes] at h
  exact ⟨input, hinput,
    (((AesCipher.mk protocol.keyLength).calculateCmac_eq_ok P).mp (Outcome.mapErr_eq_ok.mp h)).2⟩

/-- **What Done says about the two tokens.**  In every run of a new session that comes to Done, with
any calls and any responses, the terminal has sent its ephemeral public key `own`, has then received
a key `icc` from the chip and agreed on `kMac` with it, has sent the token over `icc` and has
accepted the token over `own`, both under `kMac`.  Unless `icc` is written with the same bytes as
`own`, the two tokens are MACs of different inputs. -/
theorem tokens_of_done {key : κ} {protocol : OiePaceProtocol} {parameterId : Nat}
    {entropy : Entropy} {session : PaceSession P κ}
    (hnew : new P key protocol parameterId entropy = .ok session)
    (calls : List (Dialogue.Call Bytes)) {sm : MrtdSM}
    (hdone : (step .next (Machine.final step session calls)).1 = .action (.ok (.done sm))) :
    ∃ own icc kMac tIfd tIcc inputIfd inputIcc,
      Machine.Occurs step [sendsKey own, receivesKey icc kMac, sendsToken icc kMac tIfd,
        acceptsToken own kMac tIcc] session calls ∧
      (Pace.generateEncodingInputData protocol icc : Outcome PaceSessionError Bytes) =
        .ok inputIfd ∧
      (Pace.generateEncodingInputData protocol own : Outcome PaceSessionError Bytes) =
        .ok inputIcc ∧
      tIfd = (P.cmac kMac inputIfd).take 8 ∧
      tIcc = (P.cmac kMac inputIcc).take 8 ∧
      (Pace.publicKeyValue icc ≠ Pace.publicKeyValue own → inputIfd ≠ inputIcc) := by
  obtain ⟨hwf, hstart, hprotocol, -⟩ := new_eq_ok hnew
  have hfollows := follows_run hstart calls
  have hnext : next (Machine.final step session calls) =
      (.ok (.done sm), (next (Machine.final step session calls)).2) := by
    rw [step_next, Dialogue.Reply.action.injEq] at hdone
    rw [← hdone]
  have htraced := hfollows.traced
  rw [Traced, state_of_done hnext] at htraced
  obtain ⟨own, icc, kMac, tIfd, tIcc, hifd, hicc, hoccurs⟩ := htraced
  rw [hfollows.protocol_eq, hprotocol] at hifd hicc
  have haes : protocol.cipherAlgorithm = .aes := hprotocol ▸ hwf.aes
  obtain ⟨inputIfd, hinputIfd, htIfd⟩ := authToken_eq_ok haes hifd
  obtain ⟨inputIcc, hinputIcc, htIcc⟩ := authToken_eq_ok haes hicc
  refine ⟨own, icc, kMac, tIfd, tIcc, inputIfd, inputIcc, hoccurs, hinputIfd, hinputIcc, htIfd,
    htIcc, ?_⟩
  intro hne heq
  rw [heq] at hinputIfd
  exact hne (Pace.generateEncodingInputData_inj hinputIfd hinputIcc)

/-- The handshake `echoCalls` has the four events. -/
theorem tokens_of_done_echo : ∃ session own icc kMac tIfd tIcc, echoSession = .ok session ∧
    Machine.Occurs step [sendsKey own, receivesKey icc kMac, sendsToken icc kMac tIfd,
      acceptsToken own kMac tIcc] session echoCalls := by
  obtain ⟨session, hnew, hrun⟩ := Outcome.isOkAnd_iff.mp echoSession_run
  obtain ⟨sm, hdone⟩ := PaceStep.eq_done_of_emits
    (of_decide_eq_true (Bool.and_eq_true_iff.mp hrun).2)
  obtain ⟨own, icc, kMac, tIfd, tIcc, -, -, hoccurs, -⟩ := tokens_of_done hnew echoCalls hdone
  exact ⟨session, own, icc, kMac, tIfd, tIcc, hnew, hoccurs⟩

/-! ## A chip that sends everything back -/

/-- The key that both sides of the handshake send. -/
def echoKeyPair : PublicKeyPace := .dh (toBE 128 echoPublic)

/-- The MAC key that the terminal agrees on with itself. -/
def echoKMac : Bytes := toBE 16 0x26070058887D481C0A1C89E6CE025094

/-- The token that both sides send. -/
def echoToken : Bytes := toBE 8 0x391F83DF57FB729B

lemma echoSession_reflects : echoSession.isOkAnd fun session =>
    decide (Machine.Occurs step [sendsKey echoKeyPair, receivesKey echoKeyPair echoKMac,
      sendsToken echoKeyPair echoKMac echoToken, acceptsToken echoKeyPair echoKMac echoToken]
      session echoCalls) := by
  decide +kernel

/-- The terminal accepts its own ephemeral public key from the chip, sends its token, accepts the
same token from the chip, and is done. -/
theorem done_despite_own_key : ∃ session, echoSession = .ok session ∧
    (∃ sm, (step .next (Machine.final step session echoCalls)).1 = .action (.ok (.done sm))) ∧
    Machine.Occurs step [sendsKey echoKeyPair, receivesKey echoKeyPair echoKMac,
      sendsToken echoKeyPair echoKMac echoToken, acceptsToken echoKeyPair echoKMac echoToken]
      session echoCalls := by
  obtain ⟨session, hnew, hrun⟩ := Outcome.isOkAnd_iff.mp echoSession_run
  obtain ⟨session', hnew', hreflects⟩ := Outcome.isOkAnd_iff.mp echoSession_reflects
  obtain rfl : session = session' := Outcome.ok.inj (hnew.symm.trans hnew')
  exact ⟨session, hnew,
    PaceStep.eq_done_of_emits (of_decide_eq_true (Bool.and_eq_true_iff.mp hrun).2),
    of_decide_eq_true hreflects⟩

end PaceSession

end Dmrtd
