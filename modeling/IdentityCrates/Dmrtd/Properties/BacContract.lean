import IdentityCrates.Lib.Dialogue
import IdentityCrates.Dmrtd.Proto.BacSession

/-!
# What a BAC session may say, and when

The caller drives a `BacSession` with `next` and `feed_response` in any order and with any response
bytes.  This file treats the two calls as the inputs of a machine and proves, over every run:

* the session emits at most GET CHALLENGE, EXTERNAL AUTHENTICATE and Done, once each and in this
  order;
* Done follows a response to EXTERNAL AUTHENTICATE whose MAC verified and whose plaintext carries
  the terminal's own nonce;
* once a response has been refused, every later call is;
* a response out of turn is refused and changes nothing.

What is emitted is read off the wire: a command is classified by the instruction byte that a card
would read.  The first two points are one invariant between the session and everything said so far
(`BacSession.Contract`), kept by every call.
-/

namespace Dmrtd

open Rust Octets

/-- The steps of the handshake. -/
inductive BacStep where
  | getChallenge
  | externalAuthenticate
  | done
  deriving DecidableEq, Repr

/-- The step that a command belongs to, by the instruction byte that the card reads. -/
def BacStep.ofApdu (apdu : Bytes) : Option BacStep :=
  match CommandApdu.parse apdu with
  | some ⟨[_, ins, _, _], _, _⟩ =>
    if ins = Ins.getChallenge then some .getChallenge
    else if ins = Ins.externalAuthenticate then some .externalAuthenticate
    else none
  | _ => none

/-- The step that an action belongs to. -/
def BacStep.ofAction : BacAction → Option BacStep
  | .sendApdu apdu => ofApdu apdu
  | .done _ => some .done

/-- Only Done is emitted as Done. -/
lemma BacStep.eq_done_of_emits {reply : Dialogue.Reply BacError BacAction}
    (h : reply.emits BacStep.ofAction = some (some .done)) : ∃ sm, reply = .action (.ok (.done sm)) := by
  rcases reply with (a | e | _) | result
  · cases a with
    | done sm => exact ⟨sm, rfl⟩
    | sendApdu apdu =>
      rw [Dialogue.Reply.emits_action_ok, Option.some.injEq, BacStep.ofAction, BacStep.ofApdu] at h
      repeat' split at h
      all_goals simp at h
  all_goals simp [Dialogue.Reply.emits] at h

/-- What a session has been asked and has answered. -/
abbrev BacHistory := List (Dialogue.Call Bytes × Dialogue.Reply BacError BacAction)

/-- All that was emitted. -/
def bacEmitted (past : BacHistory) : List (Option BacStep) := Dialogue.emitted BacStep.ofAction past

/-- The response authenticates the chip to a terminal with this key and this nonce: it carries
`E.IC` with its MAC, and `E.IC` decrypts to an `R` with the terminal's nonce in second place. -/
def BacAuthenticates (P : Primitives) (key : DBAKey) (rndIfd response : Bytes) : Prop :=
  ∃ eIcc mIcc r, response = eIcc ++ mIcc ++ StatusWord.success.toBytes ∧
    eIcc.length = Bac.eLen ∧ mIcc.length = Bac.macLen ∧
    Bac.macE P (key.macKey P) eIcc = .ok mIcc ∧
    Bac.decryptEIcc P (key.encKey P) eIcc = .ok r ∧
    (r.drop Bac.nonceLen).take Bac.nonceLen = rndIfd

namespace BacSession

variable (P : Primitives)

/-- Serve one call. -/
def step : Dialogue.Call Bytes → BacSession → Dialogue.Reply BacError BacAction × BacSession :=
  Dialogue.step (next P) (feedResponse P)

@[simp] lemma step_next (self : BacSession) :
    step P .next self = (.action (next P self).1, (next P self).2) := rfl

@[simp] lemma step_feed (response : Bytes) (self : BacSession) :
    step P (.feed response) self =
      (.fed (feedResponse P response self).1, (feedResponse P response self).2) := rfl

/-! ## What one call can do -/

lemma ofApdu_toBytes {cmd : CommandApdu} (h : cmd.InLimits) :
    BacStep.ofApdu cmd.toBytes =
      if cmd.ins = Ins.getChallenge then some .getChallenge
      else if cmd.ins = Ins.externalAuthenticate then some .externalAuthenticate
      else none := by
  rw [BacStep.ofApdu, CommandApdu.parse_toBytes h]
  rfl

/-- With a challenge at hand the EXTERNAL AUTHENTICATE command can always be built. -/
lemma externalAuthenticate_isOk (self : BacSession) (rndIcc : FixedBytes 8) :
    ∃ cmd, self.externalAuthenticate P rndIcc = .ok cmd ∧ cmd.InLimits ∧
      cmd.ins = Ins.externalAuthenticate := by
  obtain ⟨s, hs, hslen⟩ := Bac.generateS_isOk self.rndIfd.property rndIcc.property
    self.kifd.property
  obtain ⟨eIfd, he, helen⟩ := Bac.encryptS_isOk P (self.key.length_encKey P) hslen
  obtain ⟨mIfd, hm, hmlen⟩ := Bac.macE_isOk P (self.key.length_macKey P) helen
  have hdata : Bac.generateEaData eIfd mIfd = .ok (eIfd ++ mIfd) := by
    simp only [Bac.generateEaData, Bac.checkLen_of_length _ helen, Bac.checkLen_of_length _ hmlen,
      Outcome.ok_bind, Outcome.pure_eq]
  let cmd : CommandApdu :=
    ⟨Cla.noSm, Ins.externalAuthenticate, 0, 0, some (eIfd ++ mIfd), Bac.eLen + Bac.macLen⟩
  have hlimits : cmd.InLimits := by
    refine ⟨?_, (by decide : Bac.eLen + Bac.macLen ≤ 65536)⟩
    change (eIfd ++ mIfd).length ≤ 0xFFFF
    rw [List.length_append, helen, hmlen]
    decide
  have hcmd := CommandApdu.new_eq_ok.mpr ⟨rfl, hlimits⟩
  refine ⟨cmd, ?_, hlimits, rfl⟩
  simp only [externalAuthenticate, hs, he, hm, hdata, Outcome.ok_bind]
  exact Outcome.mapErr_eq_ok.mpr hcmd

/-- What `next` does, by the state it finds. -/
lemma next_cases (self : BacSession) :
    (self.state = .start ∧ ∃ apdu, BacStep.ofApdu apdu = some .getChallenge ∧
      next P self = (.ok (.sendApdu apdu), { self with state := .waitingForChallenge })) ∨
    (∃ rndIcc, self.state = .readyForExternalAuth rndIcc ∧
      ∃ apdu, BacStep.ofApdu apdu = some .externalAuthenticate ∧
        next P self = (.ok (.sendApdu apdu), { self with state := .waitingForAuth rndIcc })) ∨
    (∃ sm, self.state = .completed (some sm) ∧
      next P self = (.ok (.done sm), { self with state := .completed none })) ∨
    ∃ e, next P self = (.err e, self) := by
  obtain ⟨key, rndIfd, kifd, state⟩ := self
  cases state with
  | start => exact .inl ⟨rfl, _, by decide, rfl⟩
  | readyForExternalAuth rndIcc =>
    obtain ⟨cmd, hcmd, hlimits, hins⟩ :=
      externalAuthenticate_isOk P ⟨key, rndIfd, kifd, .readyForExternalAuth rndIcc⟩ rndIcc
    refine .inr (.inl ⟨rndIcc, rfl, cmd.toBytes, ?_, ?_⟩)
    · rw [ofApdu_toBytes hlimits, hins]
      rfl
    · simp only [next, Proc.get_bind_apply, hcmd]
      rfl
  | completed slot =>
    cases slot with
    | none => exact .inr (.inr (.inr ⟨_, rfl⟩))
    | some sm => exact .inr (.inr (.inl ⟨sm, rfl, rfl⟩))
  | waitingForChallenge => exact .inr (.inr (.inr ⟨_, rfl⟩))
  | waitingForAuth rndIcc => exact .inr (.inr (.inr ⟨_, rfl⟩))
  | failed => exact .inr (.inr (.inr ⟨_, rfl⟩))

/-- The body of a response that passes the checks common to both steps. -/
lemma responseData_eq_ok {response data : Bytes} (h : responseData response = .ok data) :
    response = data ++ StatusWord.success.toBytes := by
  obtain ⟨rapdu, hparse, hrest⟩ := Outcome.bind_eq_ok.mp h
  obtain ⟨body, hresponse, hdata⟩ := ResponseApdu.fromBytes_eq_ok (Outcome.mapErr_eq_ok.mp hparse)
  by_cases hstatus : rapdu.status = StatusWord.success
  · rw [if_neg (not_not_intro hstatus), Outcome.ofOption_eq_ok, hdata] at hrest
    by_cases hbody : body = []
    · simp [hbody] at hrest
    · rw [if_neg hbody, Option.some.injEq] at hrest
      rw [hresponse, hstatus, hrest]
  · simp [hstatus] at hrest

lemma responseData_ne_panic (response : Bytes) : responseData response ≠ .panic := by
  refine Outcome.bind_ne_panic ?_ fun rapdu _ => ?_
  · exact Outcome.mapErr_ne_panic (ResponseApdu.fromBytes_ne_panic response)
  · by_cases hstatus : rapdu.status = StatusWord.success
    · cases hdata : rapdu.data <;> simp [hstatus, Outcome.ofOption]
    · simp [hstatus]

/-- The body of a response to EXTERNAL AUTHENTICATE is refused, or it authenticates the chip. -/
lemma handleAuth_cases (self : BacSession) (data : Bytes) (rndIcc : FixedBytes 8) :
    (∃ sm, self.handleAuth P data rndIcc = .ok sm ∧
      BacAuthenticates P self.key self.rndIfd (data ++ StatusWord.success.toBytes)) ∨
    ∃ e, self.handleAuth P data rndIcc = .err e := by
  by_cases hlen : data.length = Bac.eLen + Bac.macLen
  swap
  · exact .inr ⟨_, by rw [handleAuth, if_pos hlen]⟩
  have hextract : Bac.extractEiccAndMicc data = .ok (data.take Bac.eLen, data.drop Bac.eLen) := by
    simp only [Bac.extractEiccAndMicc, Bac.checkLen_of_length _ hlen, Outcome.ok_bind,
      Outcome.pure_eq]
  obtain ⟨hdata, helen, hmlen⟩ := Bac.extractEiccAndMicc_eq_ok.mp hextract
  simp only at hdata helen hmlen
  obtain ⟨m, hm, -⟩ := Bac.macE_isOk P (self.key.length_macKey P) helen
  by_cases hmac : m = data.drop Bac.eLen
  swap
  · have hverify : Bac.verifyEicc P (data.take Bac.eLen) (self.key.macKey P) (data.drop Bac.eLen) =
        .ok false := by
      simp only [Bac.verifyEicc, hm, Bac.checkLen_of_length _ hmlen, Outcome.ok_bind, hmac,
        decide_false, Outcome.pure_eq]
    refine .inr ⟨⟨"Verifying MAC of E.IC failed"⟩, ?_⟩
    simp only [handleAuth, hlen, ne_eq, not_true_eq_false, if_false, hextract, Outcome.ok_bind,
      hverify, Bool.false_eq_true, not_false_eq_true, if_true]
  rw [hmac] at hm
  have hverify := Bac.verifyEicc_eq_true.mpr ⟨hm, hmlen⟩
  obtain ⟨r, hr, hrlen⟩ := Bac.decryptEIcc_isOk P (self.key.length_encKey P) helen
  have hifd : self.rndIfd.val.length = Bac.nonceLen := self.rndIfd.property
  -- the common part of the two remaining cases
  have hstart : self.handleAuth P data rndIcc =
      (do
        let kicc ← Bac.verifyRndIfdAndExtractKicc self.rndIfd r
        let ks ← Bac.calculateSessionKeys P self.kifd kicc
        let ssc ← Bac.calculateSsc self.rndIfd rndIcc
        Bac.establishSm P ks.1 ks.2 ssc) := by
    simp only [handleAuth, hlen, ne_eq, not_true_eq_false, if_false, hextract, Outcome.ok_bind,
      hverify, hr]
  by_cases hnonce : (r.drop Bac.nonceLen).take Bac.nonceLen = self.rndIfd
  swap
  · obtain ⟨e, he⟩ := Bac.verifyRndIfdAndExtractKicc_eq_err hifd hrlen hnonce
    exact .inr ⟨e, by rw [hstart, he, Outcome.err_bind]⟩
  have hkicc : Bac.verifyRndIfdAndExtractKicc self.rndIfd r = .ok (r.drop (2 * Bac.nonceLen)) :=
    Bac.verifyRndIfdAndExtractKicc_eq_ok.mpr ⟨hifd, hrlen, hnonce, rfl⟩
  have hklen : (r.drop (2 * Bac.nonceLen)).length = Bac.kLen := by
    rw [List.length_drop, hrlen]
    rfl
  obtain ⟨ks, hks, henc, hmac⟩ := Bac.calculateSessionKeys_isOk P self.kifd.property hklen
  obtain ⟨ssc, hssc⟩ := Bac.calculateSsc_isOk hifd rndIcc.property
  obtain ⟨sm, hsm⟩ := Bac.establishSm_isOk P ssc henc hmac
  refine .inl ⟨sm, ?_, data.take Bac.eLen, data.drop Bac.eLen, r, by rw [← hdata], helen, hmlen, hm,
    hr, hnonce⟩
  simp only [hstart, hkicc, hks, hssc, hsm, Outcome.ok_bind]

/-- What `feed_response` does, by the state it finds. -/
lemma feedResponse_cases (self : BacSession) (response : Bytes) :
    (self.state.isWaiting = false ∧ ∃ e, feedResponse P response self = (.err e, self)) ∨
    (self.state = .waitingForChallenge ∧ ∃ rndIcc,
      feedResponse P response self =
        (.ok (), { self with state := .readyForExternalAuth rndIcc })) ∨
    (∃ rndIcc sm, self.state = .waitingForAuth rndIcc ∧
      BacAuthenticates P self.key self.rndIfd response ∧
      feedResponse P response self = (.ok (), { self with state := .completed (some sm) })) ∨
    (self.state.isWaiting = true ∧
      ∃ e, feedResponse P response self = (.err e, { self with state := .failed })) := by
  by_cases hwait : self.state.isWaiting = true
  swap
  · rw [Bool.not_eq_true] at hwait
    exact .inl ⟨hwait, _, by rw [feedResponse, if_pos hwait]⟩
  rcases hdata : responseData response with data | e | _
  · have hresponse := responseData_eq_ok hdata
    obtain ⟨key, rndIfd, kifd, state⟩ := self
    cases state with
    | waitingForChallenge =>
      by_cases hlen : data.length = 8
      · refine .inr (.inl ⟨rfl, ⟨data, hlen⟩, ?_⟩)
        simp [feedResponse, hwait, consumeResponse, hdata, handleChallenge, hlen]
      · refine .inr (.inr (.inr ⟨hwait, ⟨s!"Expected 8-byte challenge, got {data.length}"⟩, ?_⟩))
        simp [feedResponse, hwait, consumeResponse, hdata, handleChallenge, hlen]
    | waitingForAuth rndIcc =>
      rcases handleAuth_cases P ⟨key, rndIfd, kifd, .waitingForAuth rndIcc⟩ data rndIcc with
        ⟨sm, hsm, hauth⟩ | ⟨e, he⟩
      · refine .inr (.inr (.inl ⟨rndIcc, sm, rfl, hresponse ▸ hauth, ?_⟩))
        simp [feedResponse, hwait, consumeResponse, hdata, hsm]
      · refine .inr (.inr (.inr ⟨hwait, e, ?_⟩))
        simp [feedResponse, hwait, consumeResponse, hdata, he]
    | start => simp [BacState.isWaiting] at hwait
    | readyForExternalAuth rndIcc => simp [BacState.isWaiting] at hwait
    | completed slot => simp [BacState.isWaiting] at hwait
    | failed => simp [BacState.isWaiting] at hwait
  · refine .inr (.inr (.inr ⟨hwait, e, ?_⟩))
    simp [feedResponse, hwait, consumeResponse, hdata]
  · exact absurd hdata (responseData_ne_panic response)

/-- A failed session refuses every call. -/
lemma step_of_failed {self : BacSession} (h : self.state = .failed) (call : Dialogue.Call Bytes) :
    (step P call self).1.IsErr ∧ (step P call self).2 = self := by
  obtain ⟨key, rndIfd, kifd, state⟩ := self
  obtain rfl : state = .failed := h
  cases call with
  | next => exact ⟨⟨_, rfl⟩, rfl⟩
  | feed response => exact ⟨⟨_, rfl⟩, rfl⟩

/-- So does everything that comes after. -/
lemma trace_of_failed {self : BacSession} (h : self.state = .failed) (calls : List (Dialogue.Call Bytes)) :
    ∀ p ∈ Machine.trace (step P) self calls, p.2.IsErr := by
  induction calls with
  | nil => simp
  | cons call calls ih =>
    obtain ⟨herr, hsame⟩ := step_of_failed P h call
    rw [Machine.trace_cons, hsame]
    intro p hp
    rcases List.mem_cons.mp hp with rfl | hp
    · exact herr
    · exact ih p hp

/-! ## The contract -/

end BacSession

/-- Somewhere in the past the response to EXTERNAL AUTHENTICATE was accepted, and it authenticates
the chip. -/
def BacAuthenticated (P : Primitives) (key : DBAKey) (rndIfd : Bytes)
    (past : BacHistory) : Prop :=
  ∃ before response after,
    past = before ++ (.feed response, .fed (.ok ())) :: after ∧
    bacEmitted before = [some .getChallenge, some .externalAuthenticate] ∧
    BacAuthenticates P key rndIfd response

/-- What must have been said for the session to be in a state. -/
def BacState.Said (P : Primitives) (key : DBAKey) (rndIfd : Bytes)
    (past : BacHistory) : BacState → Prop
  | .start => bacEmitted past = []
  | .waitingForChallenge | .readyForExternalAuth _ => bacEmitted past = [some .getChallenge]
  | .waitingForAuth _ => bacEmitted past = [some .getChallenge, some .externalAuthenticate]
  | .completed (some _) =>
    bacEmitted past = [some .getChallenge, some .externalAuthenticate] ∧
      BacAuthenticated P key rndIfd past
  | .completed none =>
    bacEmitted past = [some .getChallenge, some .externalAuthenticate, some .done]
  | .failed => bacEmitted past <+: [some .getChallenge, some .externalAuthenticate]

namespace BacSession

/-- The session is in a state that fits what has been said, and still has its key and its nonce. -/
structure Contract (P : Primitives) (key : DBAKey) (rndIfd : Bytes)
    (past : BacHistory) (session : BacSession) : Prop where
  key_eq : session.key = key
  rndIfd_eq : session.rndIfd.val = rndIfd
  said : session.state.Said P key rndIfd past

variable (P : Primitives)

lemma bacEmitted_concat (past : BacHistory) (call : Dialogue.Call Bytes)
    (reply : Dialogue.Reply BacError BacAction) :
    bacEmitted (past ++ [(call, reply)]) =
      bacEmitted past ++ (reply.emits BacStep.ofAction).toList :=
  Dialogue.emitted_concat _ _ _ _

/-- A reply that emits nothing leaves what was said as it was. -/
lemma said_of_silent {key : DBAKey} {rndIfd : Bytes} {past : BacHistory}
    {state : BacState} (call : Dialogue.Call Bytes) {reply : Dialogue.Reply BacError BacAction} (hsilent : reply.emits BacStep.ofAction = none)
    (h : state.Said P key rndIfd past) : state.Said P key rndIfd (past ++ [(call, reply)]) := by
  have hemitted : bacEmitted (past ++ [(call, reply)]) = bacEmitted past :=
    Dialogue.emitted_concat_silent hsilent past call
  have hauth : BacAuthenticated P key rndIfd past →
      BacAuthenticated P key rndIfd (past ++ [(call, reply)]) := by
    rintro ⟨before, response, after, rfl, hbefore, hresponse⟩
    exact ⟨before, response, after ++ [(call, reply)], by simp, hbefore, hresponse⟩
  cases state with
  | completed slot =>
    cases slot with
    | none => exact hemitted.trans h
    | some sm => exact ⟨hemitted.trans h.1, hauth h.2⟩
  | failed =>
    rw [BacState.Said, hemitted]
    exact h
  | start => exact hemitted.trans h
  | waitingForChallenge => exact hemitted.trans h
  | readyForExternalAuth rndIcc => exact hemitted.trans h
  | waitingForAuth rndIcc => exact hemitted.trans h

/-- A session that waits has not said more than the two commands. -/
lemma said_failed_of_waiting {key : DBAKey} {rndIfd : Bytes} {past : BacHistory}
    {state : BacState} (hwait : state.isWaiting = true) (h : state.Said P key rndIfd past) :
    BacState.failed.Said P key rndIfd past := by
  cases state with
  | waitingForChallenge =>
    change bacEmitted past <+: _
    rw [show bacEmitted past = [some .getChallenge] from h]
    exact List.prefix_append _ [_]
  | waitingForAuth rndIcc =>
    change bacEmitted past <+: _
    rw [show bacEmitted past = [some .getChallenge, some .externalAuthenticate] from h]
  | start => simp [BacState.isWaiting] at hwait
  | readyForExternalAuth rndIcc => simp [BacState.isWaiting] at hwait
  | completed slot => simp [BacState.isWaiting] at hwait
  | failed => simp [BacState.isWaiting] at hwait

/-- Every call keeps the contract. -/
lemma contract_step {key : DBAKey} {rndIfd : Bytes} (past : BacHistory)
    (call : Dialogue.Call Bytes) (self : BacSession) (h : Contract P key rndIfd past self) :
    Contract P key rndIfd (past ++ [(call, (step P call self).1)]) (step P call self).2 := by
  obtain ⟨hkey, hifd, hsaid⟩ := h
  cases call with
  | next =>
    rcases next_cases P self with ⟨hstate, apdu, hclass, hnext⟩ | ⟨rndIcc, hstate, apdu, hclass, hnext⟩
      | ⟨sm, hstate, hnext⟩ | ⟨e, hnext⟩
    · simp only [step_next, hnext]
      rw [hstate] at hsaid
      refine ⟨hkey, hifd, ?_⟩
      change bacEmitted _ = _
      rw [bacEmitted_concat, show bacEmitted past = [] from hsaid]
      simp [Dialogue.Reply.emits, BacStep.ofAction, hclass]
    · simp only [step_next, hnext]
      rw [hstate] at hsaid
      refine ⟨hkey, hifd, ?_⟩
      change bacEmitted _ = _
      rw [bacEmitted_concat, show bacEmitted past = [some .getChallenge] from hsaid]
      simp [Dialogue.Reply.emits, BacStep.ofAction, hclass]
    · simp only [step_next, hnext]
      rw [hstate] at hsaid
      refine ⟨hkey, hifd, ?_⟩
      change bacEmitted _ = _
      rw [bacEmitted_concat, hsaid.1]
      rfl
    · simp only [step_next, hnext]
      exact ⟨hkey, hifd, said_of_silent P _ rfl hsaid⟩
  | feed response =>
    rcases feedResponse_cases P self response with ⟨-, e, hfeed⟩ | ⟨hstate, rndIcc, hfeed⟩
      | ⟨rndIcc, sm, hstate, hauth, hfeed⟩ | ⟨hwait, e, hfeed⟩
    · simp only [step_feed, hfeed]
      exact ⟨hkey, hifd, said_of_silent P _ rfl hsaid⟩
    · simp only [step_feed, hfeed]
      rw [hstate] at hsaid
      refine ⟨hkey, hifd, said_of_silent P _ rfl ?_⟩
      exact hsaid
    · simp only [step_feed, hfeed]
      rw [hstate] at hsaid
      have hemitted : bacEmitted past = [some .getChallenge, some .externalAuthenticate] := hsaid
      rw [hkey, hifd] at hauth
      refine ⟨hkey, hifd, ?_, past, response, [], rfl, hemitted, hauth⟩
      rw [bacEmitted_concat, hemitted]
      rfl
    · simp only [step_feed, hfeed]
      exact ⟨hkey, hifd, said_of_silent P _ rfl (said_failed_of_waiting P hwait hsaid)⟩

/-- The contract holds after every run. -/
lemma contract_run (key : DBAKey) (rndIfd : FixedBytes 8) (kifd : FixedBytes 16)
    (calls : List (Dialogue.Call Bytes)) :
    Contract P key rndIfd (Machine.trace (step P) (withRandomBytes key rndIfd kifd) calls)
      (Machine.final (step P) (withRandomBytes key rndIfd kifd) calls) := by
  have hinit : Contract P key rndIfd [] (withRandomBytes key rndIfd kifd) := ⟨rfl, rfl, rfl⟩
  have hrun := @Machine.history_invariant _ _ _ (step P) (Contract P key rndIfd)
    (fun past call self h => contract_step P past call self h) _ _ hinit calls
  rwa [List.nil_append] at hrun

/-- In every state, what was said is a prefix of the three steps. -/
lemma Contract.emitted_prefix {key : DBAKey} {rndIfd : Bytes} {past : BacHistory}
    {self : BacSession} (h : Contract P key rndIfd past self) :
    bacEmitted past <+: [some .getChallenge, some .externalAuthenticate, some .done] := by
  have hsaid := h.said
  cases hstate : self.state with
  | start =>
    rw [hstate] at hsaid
    rw [show bacEmitted past = [] from hsaid]
    exact List.nil_prefix
  | waitingForChallenge =>
    rw [hstate] at hsaid
    rw [show bacEmitted past = [some .getChallenge] from hsaid]
    exact List.prefix_append _ [_, _]
  | readyForExternalAuth rndIcc =>
    rw [hstate] at hsaid
    rw [show bacEmitted past = [some .getChallenge] from hsaid]
    exact List.prefix_append _ [_, _]
  | waitingForAuth rndIcc =>
    rw [hstate] at hsaid
    rw [show bacEmitted past = [some .getChallenge, some .externalAuthenticate] from hsaid]
    exact List.prefix_append _ [_]
  | completed slot =>
    rw [hstate] at hsaid
    cases slot with
    | none => rw [show bacEmitted past = _ from hsaid]
    | some sm =>
      rw [hsaid.1]
      exact List.prefix_append _ [_]
  | failed =>
    rw [hstate] at hsaid
    exact List.IsPrefix.trans hsaid (List.prefix_append _ [_])

/-- **The contract of a BAC session.**  Whatever responses the session has been fed, in any order
with `next`: it has emitted at most GET CHALLENGE, EXTERNAL AUTHENTICATE and Done, in this order; it
emits Done only after a response that authenticates the chip; once it has refused a response it was
waiting for, it refuses every call; and a response out of turn is refused and changes nothing. -/
theorem bacSession_contract (key : DBAKey) (rndIfd : FixedBytes 8) (kifd : FixedBytes 16)
    (calls : List (Dialogue.Call Bytes)) :
    let run := Machine.trace (step P) (withRandomBytes key rndIfd kifd) calls
    let self := Machine.final (step P) (withRandomBytes key rndIfd kifd) calls
    bacEmitted run <+: [some .getChallenge, some .externalAuthenticate, some .done] ∧
    (∀ sm, (step P .next self).1 = .action (.ok (.done sm)) →
      BacAuthenticated P key rndIfd run) ∧
    (self.state.isWaiting = true → ∀ response later,
      (step P (.feed response) self).1 ≠ .fed (.ok ()) →
      ∀ p ∈ Machine.trace (step P) (step P (.feed response) self).2 later, p.2.IsErr) ∧
    (self.state.isWaiting = false → ∀ response,
      ∃ e, step P (.feed response) self = (.fed (.err e), self)) := by
  intro run self
  have hcontract : Contract P key rndIfd run self := contract_run P key rndIfd kifd calls
  refine ⟨hcontract.emitted_prefix P, ?_, ?_, ?_⟩
  · intro sm hdone
    have hsaid := hcontract.said
    rcases next_cases P self with ⟨-, apdu, -, hnext⟩ | ⟨rndIcc, -, apdu, -, hnext⟩
      | ⟨sm', hstate, hnext⟩ | ⟨e, hnext⟩
    · simp [hnext] at hdone
    · simp [hnext] at hdone
    · rw [hstate] at hsaid
      exact hsaid.2
    · simp [hnext] at hdone
  · intro hwait response later hfails
    rcases feedResponse_cases P self response with ⟨hidle, -⟩ | ⟨-, rndIcc, hfeed⟩
      | ⟨rndIcc, sm, -, -, hfeed⟩ | ⟨-, e, hfeed⟩
    · simp [hwait] at hidle
    · exact absurd (by rw [step_feed, hfeed]) hfails
    · exact absurd (by rw [step_feed, hfeed]) hfails
    · refine trace_of_failed P ?_ later
      rw [step_feed, hfeed]
  · intro hidle response
    refine ⟨⟨"BAC session has no outstanding APDU to consume"⟩, ?_⟩
    rw [step_feed, feedResponse, if_pos hidle]

/-! ## The other nonce

`R` also carries the chip's nonce, in first place.  The session does not look at it: a chip that
knows the key may put anything there. -/

/-- Basic access control with the document of ICAO 9303-11, Appendix D.3, up to the response to
EXTERNAL AUTHENTICATE: there the chip encrypts zeros in place of its nonce. -/
def zeroNonceRecording : Primitives.Recording where
  sha1 := [
    Primitives.Recording.digest 24 0x4C383938393032433C333639303830363139343036323336
      0x239AB9CB282DAF66231DC5A4DF6BFBAEDF477565,
    Primitives.Recording.digest 20 0x239AB9CB282DAF66231DC5A4DF6BFBAE00000001
      0xAB94FCEDF2664EDFB9B291F85D7F77F27F2F4A9D,
    Primitives.Recording.digest 20 0x239AB9CB282DAF66231DC5A4DF6BFBAE00000002
      0x7862D9ECE03C1BCD4D77089DCF131442814EA70A,
    Primitives.Recording.digest 20 0x0036D272F5C350ACAC50C3F572D2360000000001
      0x969EC03B1CBFE9DDD11AB1FED206EBE4C259FC04,
    Primitives.Recording.digest 20 0x0036D272F5C350ACAC50C3F572D2360000000002
      0xF0CA1E1EB5ADF208816B88DD579CC1F81D28A2AB]
  des := [
    Primitives.Recording.blocks 8 8 0x7962D9ECE03D1ACD [
      (0x72C29C2371CC9BDB, 0x991048E96A59C815), (0xFCA73151828AB33C, 0xB7FBAF044FEA3ABA),
      (0x5B3AFBAE19424325, 0xE190136F33E4C120), (0x4FBF5AE0450953D2, 0xF97B82EC7727D582),
      (0x797B82EC7727D582, 0xA67FD373C9C88C4C), (0xF7409978DE1DBB20, 0x5F1448EEA8AD90A7),
      (0x9ECA44C017178D58, 0x0DF29CAA986DEF07), (0xB07164DA2931EC3E, 0x4461038F62F54618),
      (0x42E253B1F07A4E93, 0x20F104A57A094171), (0x7275170F0D173AF6, 0x9DFB17301D63A234),
      (0x1DFB17301D63A234, 0xE2216A6257096694), (0xE7C45B72F03CA392, 0x46ACC290EAE16778)],
    Primitives.Recording.blocks 8 8 0x4C76089DCE131543 [
      (0xF7409978DE1DBB20, 0xA67FD373C9C88C4C), (0xE7C45B72F03CA392, 0xE2216A6257096694)]]
  tdes := [
    Primitives.Recording.blocks 8 24 0xAB94FDECF2674FDFB9B391F85D7F76F2AB94FDECF2674FDF [
      (0x781723860C06C226, 0x72C29C2371CC9BDB), (0x34CA653AF9BCB9C9, 0x65B779B8E8D37B29),
      (0x6ECE2BF823A33299, 0xECC154AA56A8799F), (0xF0D8E79464283694, 0xAE2F498F76ED92F2),
      (0x0000000000000000, 0x9ECA44C017178D58), (0xE6DD67461B114F7E, 0xBD83F870B15C0339),
      (0xB6CC78428FEF1A25, 0x0683503E928F088B), (0xB6CA20F5D2DD7180, 0x528413AA771E7B87)]]
  aes := []
  cmac := []

lemma june_mem : 1 ≤ 6 ∧ 6 ≤ 12 := by decide

/-- The document: number, date of birth, date of expiry. -/
def zeroNonceKey : DBAKey :=
  ⟨"L898902C".toList, ⟨1969, 8, 6, by decide, by decide⟩, ⟨1994, 6, 23, june_mem, by decide⟩, false,
    by decide⟩

/-- The chip's nonce. -/
def zeroNonceRndIcc : Bytes := toBE 8 0x4608F91988702212

/-- `E.IC`: zeros, the terminal's nonce and the chip's key half, encrypted. -/
def zeroNonceEIcc : Bytes :=
  toBE 32 0x9ECA44C017178D58BD83F870B15C03390683503E928F088B528413AA771E7B87

/-- The session with the terminal's random bytes of the example. -/
def zeroNonceSession : BacSession :=
  withRandomBytes zeroNonceKey ⟨toBE 8 0x781723860C06C226, length_toBE _ _⟩
    ⟨toBE 16 0x0B795240CB7049B01C19B33E32804F0B, length_toBE _ _⟩

/-- The exchange up to Done. -/
def zeroNonceCalls : List (Dialogue.Call Bytes) :=
  [.next, .feed (zeroNonceRndIcc ++ [0x90, 0x00]), .next,
    .feed (zeroNonceEIcc ++ toBE 8 0x46ACC290EAE16778 ++ [0x90, 0x00])]

/-- The session after the exchange. -/
def zeroNonceFinal : BacSession :=
  Machine.final (step (Primitives.replay zeroNonceRecording)) zeroNonceSession zeroNonceCalls

lemma zeroNonceFinal_next :
    (step (Primitives.replay zeroNonceRecording) .next zeroNonceFinal).1.emits
      BacStep.ofAction = some (some .done) := by
  decide

/-- The session accepts an `R` without the chip's nonce and is done. -/
theorem done_despite_foreign_rndIcc :
    (∃ sm, (step (Primitives.replay zeroNonceRecording) .next zeroNonceFinal).1 =
        .action (.ok (.done sm))) ∧
      ∃ r, Bac.decryptEIcc (Primitives.replay zeroNonceRecording)
          (zeroNonceKey.encKey (Primitives.replay zeroNonceRecording)) zeroNonceEIcc = .ok r ∧
        r.take 8 ≠ zeroNonceRndIcc := by
  refine ⟨BacStep.eq_done_of_emits zeroNonceFinal_next, ?_⟩
  refine ⟨toBE 32 0x0000000000000000781723860C06C2260B4F80323EB3191CB04970CB4052790B, ?_, ?_⟩
  · decide +kernel
  · decide +kernel

/-- In that run the response to EXTERNAL AUTHENTICATE did authenticate the chip. -/
theorem bacSession_contract_zeroNonce :
    BacAuthenticated (Primitives.replay zeroNonceRecording) zeroNonceKey
      (toBE 8 0x781723860C06C226)
      (Machine.trace (step (Primitives.replay zeroNonceRecording)) zeroNonceSession
        zeroNonceCalls) := by
  obtain ⟨sm, hdone⟩ := BacStep.eq_done_of_emits zeroNonceFinal_next
  exact (bacSession_contract (Primitives.replay zeroNonceRecording) zeroNonceKey
    ⟨toBE 8 0x781723860C06C226, length_toBE _ _⟩
    ⟨toBE 16 0x0B795240CB7049B01C19B33E32804F0B, length_toBE _ _⟩ zeroNonceCalls).2.1 sm hdone

end BacSession

end Dmrtd
