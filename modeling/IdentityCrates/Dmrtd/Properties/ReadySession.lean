import IdentityCrates.Dmrtd.Properties.FaultSurfacing
import IdentityCrates.Dmrtd.Properties.ProtectedLength

/-!
# A session is ready for every command

A handler of secure messaging is ready if its cipher is one of the two of the crate and takes the
counter of the handler.  Both handshakes hand over a ready handler, and the calls of `protect` and
`unprotect` that follow keep it ready, since they only advance the counter.  A driver that has a
session can therefore protect every command that its constructor accepts: what goes wrong in an
exchange goes wrong after the command was sent.

That the methods of the driver keep the handler ready is proved for any property of the handler that
survives an advance of its counter.
-/

namespace Dmrtd

open Rust Octets

/-! ## A handler that is ready -/

namespace MrtdSM

/-- The cipher is one of the crate, and takes the counter. -/
structure Ready (P : Primitives) (sm : MrtdSM) : Prop where
  implemented : sm.cipher.Implemented P
  takesCounter : sm.cipher.cipherAlgorithm.TakesCounter sm.ssc

variable {P : Primitives} {sm : MrtdSM}

lemma Ready.advance (h : sm.Ready P) : sm.advance.Ready P := by
  obtain ⟨cipher, ssc⟩ := sm
  obtain ⟨himplemented, htakes⟩ := h
  refine ⟨himplemented, ?_⟩
  show cipher.cipherAlgorithm.TakesCounter ssc.increment
  cases hcipher : cipher.cipherAlgorithm with
  | deSede => trivial
  | aes =>
    rw [hcipher] at htakes
    exact (Ssc.increment_bitSize ssc).trans htakes

lemma Ready.protect_isOk (h : sm.Ready P) {cmd : CommandApdu} (hlim : cmd.InLimits) :
    ∃ wire, protect cmd sm = (.ok wire, sm.advance) := by
  obtain ⟨wire, hwire⟩ := protectBody_isOk sm.advance
    (h.advance.implemented.lawful h.advance.takesCounter) hlim
  exact ⟨wire, by rw [protect_apply, hwire]⟩

/-- A response advances the counter, or leaves the handler as it was. -/
lemma unprotect_snd (rapdu : ResponseApdu) (sm : MrtdSM) :
    (unprotect rapdu sm).2 = sm ∨ (unprotect rapdu sm).2 = sm.advance := by
  cases hbody : hasBody rapdu with
  | true => exact .inr (by rw [unprotect_apply_body hbody])
  | false => exact .inl (by rw [unprotect_apply_bare hbody])

end MrtdSM

/-! ## The handshakes hand over a ready handler -/

namespace BacSession

variable {P : Primitives}

lemma handleAuth_ready {self : BacSession} {data : Bytes} {rndIcc : FixedBytes 8} {sm : MrtdSM}
    (h : self.handleAuth P data rndIcc = .ok sm) : sm.Ready P := by
  unfold handleAuth at h
  split at h
  · simp at h
  obtain ⟨pair, -, h⟩ := Outcome.bind_eq_ok.mp h
  obtain ⟨verified, -, h⟩ := Outcome.bind_eq_ok.mp h
  split at h
  · simp at h
  obtain ⟨r, -, h⟩ := Outcome.bind_eq_ok.mp h
  obtain ⟨kicc, -, h⟩ := Outcome.bind_eq_ok.mp h
  obtain ⟨ks, -, h⟩ := Outcome.bind_eq_ok.mp h
  obtain ⟨ssc, -, h⟩ := Outcome.bind_eq_ok.mp h
  obtain ⟨cipher, -, h⟩ := Outcome.bind_eq_ok.mp h
  obtain rfl := Outcome.ok.inj h
  exact ⟨.des cipher, trivial⟩

/-- What the session holds for its caller is ready. -/
def HoldsReady (P : Primitives) (self : BacSession) : Prop :=
  ∀ sm, self.state = .completed (some sm) → sm.Ready P

/-- The session either asks for an exchange, with nothing to hold, or hands over what it held. -/
lemma nextRequest_eq_ok {self session : BacSession} {asked : Bytes ⊕ MrtdSM}
    (h : nextRequest P self = (.ok asked, session)) :
    (∃ apdu, asked = .inl apdu ∧ session.HoldsReady P) ∨
      ∃ sm, asked = .inr sm ∧ self.state = .completed (some sm) := by
  obtain ⟨action, session', hnext, h⟩ := Proc.bind_eq_ok.mp h
  have hsent : ∀ {apdu : Bytes} {state : BacState},
      next P self = (.ok (.sendApdu apdu), { self with state }) →
      (∀ sm, state ≠ .completed (some sm)) → ∃ apdu, asked = .inl apdu ∧ session.HoldsReady P := by
    intro apdu state hself hempty
    rw [hself] at hnext
    obtain ⟨hact, rfl⟩ := Prod.mk.inj hnext
    obtain rfl := Outcome.ok.inj hact
    obtain ⟨hasked, rfl⟩ := Prod.mk.inj h
    exact ⟨apdu, (Outcome.ok.inj hasked).symm, fun sm hstate => absurd hstate (hempty sm)⟩
  rcases next_cases P self with ⟨-, apdu, -, hself⟩ | ⟨rndIcc, -, apdu, -, hself⟩ |
    ⟨sm, hstate, hself⟩ | ⟨e, hself⟩
  · exact Or.inl (hsent hself fun _ hstate => by cases hstate)
  · exact Or.inl (hsent hself fun _ hstate => by cases hstate)
  · rw [hself] at hnext
    obtain ⟨hact, rfl⟩ := Prod.mk.inj hnext
    obtain rfl := Outcome.ok.inj hact
    exact Or.inr ⟨sm, (Outcome.ok.inj (Prod.mk.inj h).1).symm, hstate⟩
  · rw [hself] at hnext
    simp at hnext

lemma holdsReady_of_feed {self session : BacSession} {response : Bytes}
    (h : feedResponse P response self = (.ok (), session)) : session.HoldsReady P := by
  unfold feedResponse at h
  split at h
  · simp at h
  split at h
  · simp at h
  obtain ⟨data, -, h⟩ := Proc.lift_bind_eq_ok.mp h
  obtain ⟨key, rndIfd, kifd, state⟩ := self
  simp only [Proc.get_bind_apply, Proc.set_bind_apply] at h
  cases state with
  | waitingForChallenge =>
    obtain ⟨rndIcc, -, h⟩ := Proc.lift_bind_eq_ok.mp h
    rw [← (Prod.mk.inj h).2]
    exact fun _ hstate => by cases hstate
  | waitingForAuth rndIcc =>
    obtain ⟨sm, hsm, h⟩ := Proc.lift_bind_eq_ok.mp h
    rw [← (Prod.mk.inj h).2]
    intro sm' hstate
    obtain rfl := Option.some.inj (BacState.completed.inj hstate)
    exact handleAuth_ready hsm
  | _ => simp at h

lemma newSession_holdsReady {key : DBAKey} {entropy : Entropy} {session : BacSession × Entropy}
    (h : BacSession.new key entropy = .ok session) : session.1.HoldsReady P := by
  unfold BacSession.new at h
  split at h
  · rw [← Outcome.ok.inj h]
    exact fun _ hstate => by cases hstate
  · cases h

end BacSession

namespace PaceSession

variable {P : Primitives} {κ : Type} [AccessKey κ]

omit [AccessKey κ] in
lemma handleStep4_ready {self : PaceSession P κ} {kEnc kMac : Bytes} {body : Option Bytes}
    {sm : MrtdSM} (h : self.handleStep4 kEnc kMac body = .ok sm) : sm.Ready P := by
  obtain ⟨data, -, h⟩ := Outcome.bind_eq_ok.mp h
  obtain ⟨iccToken, -, h⟩ := Outcome.bind_eq_ok.mp h
  obtain ⟨terminalPub, -, h⟩ := Outcome.bind_eq_ok.mp h
  obtain ⟨expected, -, h⟩ := Outcome.bind_eq_ok.mp h
  split at h
  · simp at h
  obtain ⟨cipher, -, h⟩ := Outcome.bind_eq_ok.mp h
  obtain ⟨ssc, hssc, h⟩ := Outcome.bind_eq_ok.mp h
  obtain rfl := Outcome.ok.inj h
  have hnew : (Ssc.new (List.replicate 16 0) 128).expect = .ok ssc := hssc
  exact ⟨.aes cipher, (Ssc.new_eq_ok (Outcome.expect_eq_ok.mp hnew)).1⟩

/-- What the session holds for its caller is ready. -/
def HoldsReady (self : PaceSession P κ) : Prop :=
  ∀ sm, self.state = .completed (some sm) → sm.Ready P

/-- The session either asks for an exchange, with nothing to hold, or hands over what it held. -/
lemma nextRequest_eq_ok {self session : PaceSession P κ} {asked : Bytes ⊕ MrtdSM}
    (h : nextRequest P κ self = (.ok asked, session)) :
    (∃ apdu, asked = .inl apdu ∧ session.HoldsReady) ∨
      ∃ sm, asked = .inr sm ∧ self.state = .completed (some sm) := by
  obtain ⟨action, session', hnext, h⟩ := Proc.bind_eq_ok.mp h
  cases action with
  | sendApdu apdu =>
    obtain ⟨hasked, rfl⟩ := Prod.mk.inj h
    refine .inl ⟨apdu, (Outcome.ok.inj hasked).symm, fun sm hcompleted => ?_⟩
    cases requested_of_next hnext with
    | selects => cases hcompleted
    | asksNonce => cases hcompleted
    | sendsMapping => cases hcompleted
    | sendsKey => cases hcompleted
    | sendsToken => cases hcompleted
    | failed _ _ hresult => cases hresult
    | drewAndFailed _ _ hresult => cases hresult
  | done sm =>
    refine .inr ⟨sm, (Outcome.ok.inj (Prod.mk.inj h).1).symm, ?_⟩
    cases requested_of_next hnext with
    | handsOver hstate => exact hstate
    | failed _ _ hresult => cases hresult
    | drewAndFailed _ _ hresult => cases hresult

lemma holdsReady_of_feed {self session : PaceSession P κ} {response : Bytes}
    (h : feedResponse response self = (.ok (), session)) : session.HoldsReady := by
  obtain ⟨body, hconsumed⟩ := consumed_of_feed h
  cases hconsumed with
  | authenticated hstate hsm =>
    intro sm' hcompleted
    obtain rfl := Option.some.inj (PaceState.completed.inj hcompleted)
    exact handleStep4_ready hsm
  | failed _ hresult => cases hresult
  | _ => exact fun _ hcompleted => by cases hcompleted

omit [AccessKey κ] in
lemma newSession_holdsReady {key : κ} {protocol : OiePaceProtocol} {parameterId : Nat}
    {entropy : Entropy} {session : PaceSession P κ}
    (h : PaceSession.new P key protocol parameterId entropy = .ok session) :
    session.HoldsReady := by
  unfold PaceSession.new at h
  split at h
  · obtain ⟨-, engine, rfl⟩ := newEcdh_eq_ok h
    exact fun _ hstate => by cases hstate
  · obtain ⟨-, engine, -, rfl⟩ := newDh_eq_ok h
    exact fun _ hstate => by cases hstate

end PaceSession

/-! ## The driver keeps its handler ready -/

variable {τ : Type}

namespace MrtdApi

/-- Whatever session the driver has, its handler has the property. -/
def Holds (Q : MrtdSM → Prop) (api : MrtdApi τ) : Prop := ∀ sm, api.sm = some sm → Q sm

/-- Whatever comes of it, the method keeps the property of the handler. -/
abbrev Keeps {α : Type} (Q : MrtdSM → Prop) (m : Proc (MrtdApi τ) MrtdApiError α) : Prop :=
  m.Preserves fun api api' => api.Holds Q → api'.Holds Q

variable {Q : MrtdSM → Prop}

lemma keeps_trans ⦃api₁ api₂ api₃ : MrtdApi τ⦄ (h : api₁.Holds Q → api₂.Holds Q)
    (h' : api₂.Holds Q → api₃.Holds Q) : api₁.Holds Q → api₃.Holds Q :=
  h' ∘ h

lemma withSm_keeps {α : Type} {m : Proc MrtdSM SmError α} (hm : ∀ sm, Q sm → Q (m sm).2)
    (plain : α) : Keeps Q (withSm m plain : Proc (MrtdApi τ) MrtdApiError α) := by
  rintro ⟨t, _ | sm⟩ hready
  · exact hready
  · intro sm' hsm'
    obtain rfl := Option.some.inj hsm'
    exact hm sm (hready sm rfl)

lemma onTransceiver_keeps {α : Type} (m : Proc τ TransceiveError α) : Keeps Q (onTransceiver m) :=
  fun _ => id

variable [Transceiver τ]

lemma bacHandshake_keeps (P : Primitives) (key : DBAKey) (entropy : Entropy) :
    Keeps Q (bacHandshake P key entropy : Proc (MrtdApi τ) MrtdApiError MrtdSM) :=
  (Proc.preserves_lift (fun _ => id) _).bind keeps_trans fun session =>
    (bacParty P).drive_preserves (fun _ => id) keeps_trans
      (fun _ _ _ _ => onTransceiver_keeps _) session.1

lemma paceHandshake_keeps (P : Primitives) {κ : Type} [AccessKey κ] (accessKey : κ)
    (efCardAccess : EfCardAccess) (entropy : Entropy) :
    Keeps Q (paceHandshake P accessKey efCardAccess entropy :
      Proc (MrtdApi τ) MrtdApiError MrtdSM) := by
  refine (Proc.preserves_lift (fun _ => id) _).bind keeps_trans fun info => ?_
  refine (Proc.preserves_lift (fun _ => id) _).bind keeps_trans fun parameterId => ?_
  refine (Proc.preserves_lift (fun _ => id) _).bind keeps_trans fun session => ?_
  exact (paceParty P κ).drive_preserves (fun _ => id) keeps_trans
    (fun _ _ _ _ => onTransceiver_keeps _) session

lemma bacHandshake_ready {P : Primitives} {key : DBAKey} {entropy : Entropy}
    {api api' : MrtdApi τ} {sm : MrtdSM} (h : bacHandshake P key entropy api = (.ok sm, api')) :
    sm.Ready P := by
  obtain ⟨session, hsession, h⟩ := Proc.lift_bind_eq_ok.mp h
  refine (bacParty P).drive_of_invariant (BacSession.HoldsReady P) ?_ ?_ ?_ ?_ h
  · intro s apdu s₁ _ hnext
    rcases BacSession.nextRequest_eq_ok hnext with ⟨_, -, hready⟩ | ⟨sm, hasked, -⟩
    · exact hready
    · cases hasked
  · exact fun s response s₁ _ hfeed => BacSession.holdsReady_of_feed hfeed
  · intro s sm s₁ hready hnext
    rcases BacSession.nextRequest_eq_ok hnext with ⟨_, hasked, -⟩ | ⟨sm', hasked, hstate⟩
    · cases hasked
    · obtain rfl := Sum.inr.inj hasked
      exact hready sm hstate
  · exact BacSession.newSession_holdsReady (Outcome.mapErr_eq_ok.mp hsession)

lemma paceHandshake_ready {P : Primitives} {κ : Type} [AccessKey κ] {accessKey : κ}
    {efCardAccess : EfCardAccess} {entropy : Entropy} {api api' : MrtdApi τ} {sm : MrtdSM}
    (h : paceHandshake P accessKey efCardAccess entropy api = (.ok sm, api')) : sm.Ready P := by
  obtain ⟨info, -, h⟩ := Proc.lift_bind_eq_ok.mp h
  obtain ⟨parameterId, -, h⟩ := Proc.lift_bind_eq_ok.mp h
  obtain ⟨session, hsession, h⟩ := Proc.lift_bind_eq_ok.mp h
  refine (paceParty P κ).drive_of_invariant PaceSession.HoldsReady ?_ ?_ ?_ ?_ h
  · intro s apdu s₁ _ hnext
    rcases PaceSession.nextRequest_eq_ok hnext with ⟨_, -, hready⟩ | ⟨sm, hasked, -⟩
    · exact hready
    · cases hasked
  · exact fun s response s₁ _ hfeed => PaceSession.holdsReady_of_feed hfeed
  · intro s sm s₁ hready hnext
    rcases PaceSession.nextRequest_eq_ok hnext with ⟨_, hasked, -⟩ | ⟨sm', hasked, hstate⟩
    · cases hasked
    · obtain rfl := Sum.inr.inj hasked
      exact hready sm hstate
  · exact PaceSession.newSession_holdsReady (Outcome.mapErr_eq_ok.mp hsession)

lemma initSessionViaBac_keeps (P : Primitives) (key : DBAKey) (entropy : Entropy) :
    Keeps (MrtdSM.Ready P)
      (initSessionViaBac P key entropy : Proc (MrtdApi τ) MrtdApiError Unit) := by
  rw [initSessionViaBac_eq]
  refine (bacHandshake_keeps P key entropy).bind_of keeps_trans fun api sm api' hrun _ => ?_
  intro sm' hsm'
  obtain rfl := Option.some.inj hsm'
  exact bacHandshake_ready hrun

lemma initSessionViaPace_keeps (P : Primitives) {κ : Type} [AccessKey κ] (accessKey : κ)
    (efCardAccess : EfCardAccess) (entropy : Entropy) :
    Keeps (MrtdSM.Ready P) (initSessionViaPace P accessKey efCardAccess entropy :
      Proc (MrtdApi τ) MrtdApiError Unit) := by
  rw [initSessionViaPace_eq]
  refine (paceHandshake_keeps P accessKey efCardAccess entropy).bind_of keeps_trans
    fun api sm api' hrun _ => ?_
  intro sm' hsm'
  obtain rfl := Option.some.inj hsm'
  exact paceHandshake_ready hrun

/-! ### Commands under a session -/

omit [Transceiver τ] in
/-- Under a ready handler, or none, a command in limits can be sent. -/
lemma protect_isOk {P : Primitives} {api : MrtdApi τ} (hready : api.Holds (MrtdSM.Ready P))
    {cmd : CommandApdu} (hlim : cmd.InLimits) :
    ∃ wire sm, withSm (MrtdSM.protect cmd) cmd api = (.ok wire, ⟨api.transceiver, sm⟩) := by
  obtain ⟨t, _ | sm⟩ := api
  · exact ⟨cmd, none, rfl⟩
  · obtain ⟨wire, hwire⟩ := (hready sm rfl).protect_isOk hlim
    refine ⟨wire, some sm.advance, ?_⟩
    rw [withSm_some, hwire]
    rfl

section Commands

variable (hQ : ∀ sm, Q sm → Q sm.advance)

include hQ

lemma transceiveCmd_keeps (cmd : CommandApdu) :
    Keeps Q (transceiveCmd cmd : Proc (MrtdApi τ) MrtdApiError ResponseApdu) := by
  refine (withSm_keeps hQ cmd).bind keeps_trans fun wire => ?_
  refine (onTransceiver_keeps _).bind keeps_trans fun respBytes => ?_
  refine (Proc.preserves_lift (fun _ => id) _).bind keeps_trans fun rapdu => ?_
  refine (withSm_keeps ?_ rapdu).bind keeps_trans fun unwrapped => ?_
  · intro sm hsm
    rcases MrtdSM.unprotect_snd rapdu sm with hsame | hadvanced
    · rwa [hsame]
    · rw [hadvanced]
      exact hQ sm hsm
  · split
    · exact Proc.preserves_fail (fun _ => id) _
    · exact Proc.preserves_pure (fun _ => id) _

lemma send_keeps (cla ins p1 p2 : UInt8) (data : Option Bytes) (ne : Nat) :
    Keeps Q (send cla ins p1 p2 data ne : Proc (MrtdApi τ) MrtdApiError ResponseApdu) :=
  (Proc.preserves_lift (fun _ => id) _).bind keeps_trans fun cmd => transceiveCmd_keeps hQ cmd

lemma selectMasterFile_keeps :
    Keeps Q (selectMasterFile : Proc (MrtdApi τ) MrtdApiError Unit) :=
  (send_keeps hQ _ _ _ _ _ _).bind keeps_trans fun _ => Proc.preserves_pure (fun _ => id) _

lemma selectEmrtdApplication_keeps :
    Keeps Q (selectEmrtdApplication : Proc (MrtdApi τ) MrtdApiError Unit) :=
  (send_keeps hQ _ _ _ _ _ _).bind keeps_trans fun _ => Proc.preserves_pure (fun _ => id) _

lemma readBinary_keeps (offset ne : Nat) :
    Keeps Q (readBinary offset ne : Proc (MrtdApi τ) MrtdApiError Bytes) := by
  unfold readBinary
  split
  · exact Proc.preserves_fail (fun _ => id) _
  · exact (send_keeps hQ _ _ _ _ _ _).bind keeps_trans fun _ =>
      Proc.preserves_pure (fun _ => id) _

lemma readChunk_keeps (totalLen offset : Nat) :
    Keeps Q (readChunk totalLen offset : Proc (MrtdApi τ) MrtdApiError Bytes) := by
  unfold readChunk
  dsimp only
  split
  · exact readBinary_keeps hQ _ _
  · refine (Proc.preserves_lift (fun _ => id) _).bind keeps_trans fun _ => ?_
    exact (send_keeps hQ _ _ _ _ _ _).bind keeps_trans fun _ =>
      Proc.preserves_lift (fun _ => id) _

/-- The reading loop: by induction on what is left to read. -/
lemma readTail_keeps (totalLen : Nat) (data : Bytes) :
    Keeps Q (readTail totalLen data : Proc (MrtdApi τ) MrtdApiError Bytes) := by
  intro api
  induction hleft : totalLen - data.length using Nat.strongRecOn generalizing data api with
  | _ left ih =>
    have hchunk := readChunk_keeps hQ totalLen data.length api
    unfold readTail
    split
    swap
    · exact id
    split
    · rename_i api' hread
      rwa [hread] at hchunk
    · rename_i b chunk api' hread
      rw [hread] at hchunk
      have hlt : totalLen - (data ++ b :: chunk).length < left := by
        rw [List.length_append, List.length_cons]
        omega
      exact keeps_trans hchunk (ih _ hlt (data ++ b :: chunk) api' rfl)
    · rename_i e api' hread
      rwa [hread] at hchunk
    · rename_i api' hread
      rwa [hread] at hchunk

lemma readFileBySfi_keeps (sfi : UInt8) :
    Keeps Q (readFileBySfi sfi : Proc (MrtdApi τ) MrtdApiError Bytes) := by
  refine ((send_keeps hQ _ _ _ _ _ _).bind keeps_trans fun _ =>
    Proc.preserves_pure (fun _ => id) _).bind keeps_trans fun first => ?_
  split
  · exact Proc.preserves_fail (fun _ => id) _
  refine (Proc.preserves_lift (fun _ => id) _).bind keeps_trans fun decoded => ?_
  dsimp only
  split
  · exact Proc.preserves_fail (fun _ => id) _
  · exact (readTail_keeps hQ _ _).bind keeps_trans fun _ => Proc.preserves_pure (fun _ => id) _

end Commands

/-! ### What is protected is sent -/

omit [Transceiver τ] in
lemma withSm_transceiver_eq {α : Type} (m : Proc MrtdSM SmError α) (plain : α) (api : MrtdApi τ) :
    (withSm m plain api).2.transceiver = api.transceiver := by
  obtain ⟨t, _ | sm⟩ := api
  · rfl
  · rfl

/-- A command that is protected is sent, and nothing else is. -/
lemma transceiveCmd_transceiver {api : MrtdApi τ} {cmd wire : CommandApdu} {sm : Option MrtdSM}
    (h : withSm (MrtdSM.protect cmd) cmd api = (.ok wire, ⟨api.transceiver, sm⟩)) :
    (transceiveCmd cmd api).2.transceiver =
      (Transceiver.transceive wire.toBytes api.transceiver : Outcome TransceiveError Bytes × τ).2 := by
  unfold transceiveCmd
  rw [Proc.bind_apply_ok h]
  rcases hrun : (Transceiver.transceive wire.toBytes api.transceiver :
    Outcome TransceiveError Bytes × τ) with ⟨respBytes | e | _, t⟩
  · have hsent : onTransceiver (Transceiver.transceive wire.toBytes) ⟨api.transceiver, sm⟩ =
        (.ok respBytes, ⟨t, sm⟩) := by
      rw [onTransceiver, hrun]
      rfl
    rw [Proc.bind_apply_ok hsent]
    -- what is made of the answer does not touch the transport
    have htrans : ∀ ⦃api₁ api₂ api₃ : MrtdApi τ⦄, api₂.transceiver = api₁.transceiver →
        api₃.transceiver = api₂.transceiver → api₃.transceiver = api₁.transceiver :=
      fun _ _ _ h h' => h'.trans h
    refine Proc.Preserves.bind htrans (fun _ => rfl) (fun rapdu => ?_) ⟨t, sm⟩
    refine Proc.Preserves.bind htrans (withSm_transceiver_eq _ _) fun unwrapped => ?_
    split
    · exact fun _ => rfl
    · exact fun _ => rfl
  · have hsent : onTransceiver (Transceiver.transceive wire.toBytes) ⟨api.transceiver, sm⟩ =
        (.err (.transceive e), ⟨t, sm⟩) := by
      rw [onTransceiver, hrun]
      rfl
    rw [Proc.bind_apply_err hsent]
  · have hsent : onTransceiver (Transceiver.transceive wire.toBytes) ⟨api.transceiver, sm⟩ =
        (.panic, ⟨t, sm⟩) := by
      rw [onTransceiver, hrun]
      rfl
    rw [Proc.bind_apply_panic hsent]

omit [Transceiver τ] in
lemma withSm_hasSm {α : Type} (m : Proc MrtdSM SmError α) (plain : α) (api : MrtdApi τ) :
    (withSm m plain api).2.hasSm = api.hasSm := by
  obtain ⟨t, _ | sm⟩ := api
  · rfl
  · rfl

/-- A command ends no session, whatever comes of it, and begins none. -/
lemma transceiveCmd_hasSm (cmd : CommandApdu) :
    (transceiveCmd cmd : Proc (MrtdApi τ) MrtdApiError ResponseApdu).Preserves
      fun api api' => api'.hasSm = api.hasSm := by
  have htrans : ∀ ⦃api₁ api₂ api₃ : MrtdApi τ⦄, api₂.hasSm = api₁.hasSm →
      api₃.hasSm = api₂.hasSm → api₃.hasSm = api₁.hasSm := fun _ _ _ h h' => h'.trans h
  refine Proc.Preserves.bind htrans (withSm_hasSm _ _) fun wire => ?_
  refine Proc.Preserves.bind htrans (fun _ => rfl) fun respBytes => ?_
  refine Proc.Preserves.bind htrans (fun _ => rfl) fun rapdu => ?_
  refine Proc.Preserves.bind htrans (withSm_hasSm _ _) fun unwrapped => ?_
  split
  · exact fun _ => rfl
  · exact fun _ => rfl

/-- After `clear_sm` a command goes out as it is, and no session comes back with it. -/
lemma transceiveCmd_clearSm (cmd : CommandApdu) (api : MrtdApi τ) :
    (transceiveCmd cmd api.clearSm).2.transceiver =
        (Transceiver.transceive cmd.toBytes api.transceiver : Outcome TransceiveError Bytes × τ).2 ∧
      (transceiveCmd cmd api.clearSm).2.hasSm = false :=
  ⟨transceiveCmd_transceiver rfl, transceiveCmd_hasSm cmd api.clearSm⟩

lemma activeAuthenticate_sends {P : Primitives} {api : MrtdApi τ}
    (hready : api.Holds (MrtdSM.Ready P)) {challenge : Bytes} (hlen : challenge.length = 8) :
    ∃ cmd wire sm,
      CommandApdu.new Cla.noSm Ins.internalAuthenticate 0x00 0x00 (some challenge) 256 = .ok cmd ∧
      withSm (MrtdSM.protect cmd) cmd api = (.ok wire, ⟨api.transceiver, sm⟩) ∧
      (activeAuthenticate challenge api).2.transceiver =
        (Transceiver.transceive wire.toBytes api.transceiver :
          Outcome TransceiveError Bytes × τ).2 := by
  have hnew : CommandApdu.new Cla.noSm Ins.internalAuthenticate 0x00 0x00 (some challenge) 256 =
      .ok ⟨Cla.noSm, Ins.internalAuthenticate, 0x00, 0x00, some challenge, 256⟩ := by
    refine CommandApdu.new_eq_ok.mpr ⟨rfl, ?_, (by decide : 256 ≤ 65536)⟩
    show challenge.length ≤ 0xFFFF
    omega
  obtain ⟨wire, sm, hwire⟩ := protect_isOk hready (CommandApdu.new_eq_ok.mp hnew).2
  refine ⟨_, wire, sm, hnew, hwire, ?_⟩
  rw [← transceiveCmd_transceiver hwire]
  unfold activeAuthenticate
  rw [if_neg (not_not_intro hlen)]
  unfold send
  rw [hnew, Outcome.mapErr_ok, Proc.bind_apply, Proc.lift_ok_bind_apply]
  -- the data of the response are looked at afterwards
  rcases transceiveCmd _ api with ⟨rapdu | e | _, api'⟩
  · rfl
  · rfl
  · rfl

end MrtdApi

/-! ## The passport -/

namespace Passport

/-- Whatever comes of it, the method keeps the property of the handler. -/
abbrev Keeps {α : Type} (Q : MrtdSM → Prop) (m : Proc (Passport τ) PassportError α) : Prop :=
  m.Preserves fun p p' => p.api.Holds Q → p'.api.Holds Q

variable {Q : MrtdSM → Prop}

lemma keeps_trans ⦃p₁ p₂ p₃ : Passport τ⦄ (h : p₁.api.Holds Q → p₂.api.Holds Q)
    (h' : p₂.api.Holds Q → p₃.api.Holds Q) : p₁.api.Holds Q → p₃.api.Holds Q :=
  h' ∘ h

lemma onApi_keeps {α : Type} {m : Proc (MrtdApi τ) MrtdApiError α} (h : MrtdApi.Keeps Q m) :
    Keeps Q (onApi m) :=
  fun p => h p.api

variable [Transceiver τ] (hQ : ∀ sm, Q sm → Q sm.advance)

section Files

include hQ

lemma selectMf_keeps : Keeps Q (selectMf : Proc (Passport τ) PassportError Unit) := by
  intro p
  unfold selectMf
  rw [Proc.get_bind_apply]
  split
  · exact (onApi_keeps (MrtdApi.selectMasterFile_keeps hQ)).bind keeps_trans
      (fun _ _ => id) p
  · exact id

lemma selectDf1_keeps : Keeps Q (selectDf1 : Proc (Passport τ) PassportError Unit) := by
  intro p
  unfold selectDf1
  rw [Proc.get_bind_apply]
  split
  · exact (onApi_keeps (MrtdApi.selectEmrtdApplication_keeps hQ)).bind keeps_trans
      (fun _ _ => id) p
  · exact id

lemma readEfCardAccess_keeps {ρ : Type} (parse : Bytes → Outcome EfParseError ρ) :
    Keeps Q (readEfCardAccess parse : Proc (Passport τ) PassportError ρ) :=
  (selectMf_keeps hQ).bind keeps_trans fun _ =>
    (onApi_keeps (MrtdApi.readFileBySfi_keeps hQ _)).bind keeps_trans fun _ =>
      Proc.preserves_lift (fun _ => id) _

lemma readDf1_keeps {ρ : Type} (file : Df1File) (parse : Bytes → Outcome EfParseError ρ) :
    Keeps Q (readDf1 file parse : Proc (Passport τ) PassportError ρ) :=
  (selectDf1_keeps hQ).bind keeps_trans fun _ =>
    (onApi_keeps (MrtdApi.readFileBySfi_keeps hQ _)).bind keeps_trans fun _ =>
      Proc.preserves_lift (fun _ => id) _

end Files

lemma startSession_keeps (P : Primitives) (keys : DBAKey) (entropy : Entropy) :
    Keeps (MrtdSM.Ready P) (startSession P keys entropy : Proc (Passport τ) PassportError Unit) :=
  (selectDf1_keeps (Q := MrtdSM.Ready P) fun _ h => h.advance).bind keeps_trans fun _ =>
    onApi_keeps (MrtdApi.initSessionViaBac_keeps P keys entropy)

lemma startSessionPace_keeps (P : Primitives) {κ : Type} [AccessKey κ] (accessKey : κ)
    (efCardAccess : EfCardAccess) (entropy : Entropy) :
    Keeps (MrtdSM.Ready P) (startSessionPace P accessKey efCardAccess entropy :
      Proc (Passport τ) PassportError Unit) :=
  (onApi_keeps (MrtdApi.initSessionViaPace_keeps P accessKey efCardAccess entropy)).bind keeps_trans
    fun _ _ => id

end Passport

end Dmrtd
