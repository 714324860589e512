import IdentityCrates.Lib.Faults
import IdentityCrates.Dmrtd.Passport
import IdentityCrates.Dmrtd.Properties.BacContract

/-!
# Transport errors surface

Every exchange of the chip driver is followed by `?`: an error of the transport ends the method it
happened in, and that method returns an error.  So if the exchange of one APDU surfaces its faults
(`Proc.Surfaces`), every method of `MrtdApi` and `Passport` does.

A stretch of the driver's run (`MrtdApi.IsStretch`) is any relation that secure messaging and a
single exchange respect.  The relation of interest looks at the transport below the driver
(`onTransport`); a second one, that a driver without a session stays without one
(`staysPlain`), comes out of the same lemmas.  With it the BAC handshake can be shown not to panic
after a failed PACE attempt (`startSession_ne_panic`).
-/

namespace Dmrtd

open Rust Octets

variable {τ : Type}

namespace MrtdApi

variable [Transceiver τ]

/-- A relation between the states before and after a stretch of the driver's run: secure messaging
and the exchange of an APDU make such stretches, and surface what goes wrong in them. -/
structure IsStretch (R : Bool → MrtdApi τ → MrtdApi τ → Prop) : Prop extends Proc.IsStretch R where
  withSm : ∀ {α : Type} (m : Proc MrtdSM SmError α) (plain : α), (withSm m plain).Surfaces R
  exchange : ∀ apdu, (exchange apdu : Proc (MrtdApi τ) MrtdApiError Bytes).Surfaces R

/-! ## The methods of the API -/

section Surfacing

variable {R : Bool → MrtdApi τ → MrtdApi τ → Prop} (hR : IsStretch R)

include hR

lemma transceiveCmd_surfaces (cmd : CommandApdu) :
    (transceiveCmd cmd : Proc (MrtdApi τ) MrtdApiError ResponseApdu).Surfaces R := by
  have hs := hR.toIsStretch
  refine (hR.withSm _ _).bind hs fun wire => ?_
  refine (hR.exchange _).bind hs fun respBytes => ?_
  refine (Proc.surfaces_lift hs _).bind hs fun rapdu => ?_
  refine (hR.withSm _ _).bind hs fun unwrapped => ?_
  split
  · exact Proc.surfaces_fail hs _
  · exact Proc.surfaces_pure hs _

lemma send_surfaces (cla ins p1 p2 : UInt8) (data : Option Bytes) (ne : Nat) :
    (send cla ins p1 p2 data ne : Proc (MrtdApi τ) MrtdApiError ResponseApdu).Surfaces R :=
  (Proc.surfaces_lift hR.toIsStretch _).bind hR.toIsStretch fun cmd =>
    transceiveCmd_surfaces hR cmd

lemma selectMasterFile_surfaces :
    (selectMasterFile : Proc (MrtdApi τ) MrtdApiError Unit).Surfaces R :=
  (send_surfaces hR _ _ _ _ _ _).bind hR.toIsStretch fun _ => Proc.surfaces_pure hR.toIsStretch _

lemma selectEmrtdApplication_surfaces :
    (selectEmrtdApplication : Proc (MrtdApi τ) MrtdApiError Unit).Surfaces R :=
  (send_surfaces hR _ _ _ _ _ _).bind hR.toIsStretch fun _ => Proc.surfaces_pure hR.toIsStretch _

lemma activeAuthenticate_surfaces (challenge : Bytes) :
    (activeAuthenticate challenge : Proc (MrtdApi τ) MrtdApiError Bytes).Surfaces R := by
  have hs := hR.toIsStretch
  unfold activeAuthenticate
  split
  · exact Proc.surfaces_fail hs _
  · exact (send_surfaces hR _ _ _ _ _ _).bind hs fun _ => Proc.surfaces_lift hs _

lemma readBinary_surfaces (offset ne : Nat) :
    (readBinary offset ne : Proc (MrtdApi τ) MrtdApiError Bytes).Surfaces R := by
  have hs := hR.toIsStretch
  unfold readBinary
  split
  · exact Proc.surfaces_fail hs _
  · exact (send_surfaces hR _ _ _ _ _ _).bind hs fun _ => Proc.surfaces_pure hs _

lemma readChunk_surfaces (totalLen offset : Nat) :
    (readChunk totalLen offset : Proc (MrtdApi τ) MrtdApiError Bytes).Surfaces R := by
  have hs := hR.toIsStretch
  unfold readChunk
  dsimp only
  split
  · exact readBinary_surfaces hR _ _
  · refine (Proc.surfaces_lift hs _).bind hs fun _ => ?_
    exact (send_surfaces hR _ _ _ _ _ _).bind hs fun _ => Proc.surfaces_lift hs _

/-- The reading loop: by induction on what is left to read. -/
lemma readTail_surfaces (totalLen : Nat) (data : Bytes) :
    (readTail totalLen data : Proc (MrtdApi τ) MrtdApiError Bytes).Surfaces R := by
  have hs := hR.toIsStretch
  intro api
  induction hleft : totalLen - data.length using Nat.strongRecOn generalizing data api with
  | _ left ih =>
    have hchunk := readChunk_surfaces hR totalLen data.length
    unfold readTail
    split
    swap
    · exact Proc.surfaces_pure hs data api
    rename_i hshort
    split
    · rename_i api' hread
      obtain ⟨fault, hstretch, -⟩ := hchunk api
      rw [hread] at hstretch
      exact ⟨fault, hstretch, fun _ => ⟨_, rfl⟩⟩
    · rename_i b chunk api' hread
      have hlt : totalLen - (data ++ b :: chunk).length < left := by
        rw [List.length_append, List.length_cons]
        omega
      obtain ⟨fault, hrest, herr⟩ := ih _ hlt (data ++ b :: chunk) api' rfl
      exact ⟨fault, hs.trans (hchunk.of_ok hread) hrest, herr⟩
    · rename_i e api' hread
      obtain ⟨fault, hstretch, -⟩ := hchunk api
      rw [hread] at hstretch
      exact ⟨fault, hstretch, fun _ => ⟨_, rfl⟩⟩
    · rename_i api' hread
      exact ⟨false, hchunk.of_panic hread, fun hfault => absurd hfault Bool.false_ne_true⟩

lemma readFileBySfi_surfaces (sfi : UInt8) :
    (readFileBySfi sfi : Proc (MrtdApi τ) MrtdApiError Bytes).Surfaces R := by
  have hs := hR.toIsStretch
  refine ((send_surfaces hR _ _ _ _ _ _).bind hs fun _ => Proc.surfaces_pure hs _).bind hs
    fun first => ?_
  split
  · exact Proc.surfaces_fail hs _
  refine (Proc.surfaces_lift hs _).bind hs fun decoded => ?_
  dsimp only
  split
  · exact Proc.surfaces_fail hs _
  · exact (readTail_surfaces hR _ _).bind hs fun _ => Proc.surfaces_pure hs _

end Surfacing

/-! ## The handshakes -/

/-- The handshake of `init_session_via_bac`, up to the session it hands over. -/
def bacHandshake (P : Primitives) (key : DBAKey) (entropy : Entropy) :
    Proc (MrtdApi τ) MrtdApiError MrtdSM := do
  let session ← Proc.lift ((BacSession.new key entropy).mapErr fun e => .session e.message)
  (bacParty P).drive exchange (fun e => .session e.message) session.1

/-- The handshake of `init_session_via_pace`, up to the session it hands over. -/
def paceHandshake (P : Primitives) {κ : Type} [AccessKey κ] (accessKey : κ)
    (efCardAccess : EfCardAccess) (entropy : Entropy) : Proc (MrtdApi τ) MrtdApiError MrtdSM := do
  let info ← Proc.lift (Outcome.ofOption .missingPaceInfo efCardAccess.paceInfo)
  let parameterId ← Proc.lift (parameterIdOf info)
  let session ← Proc.lift ((PaceSession.new P accessKey info.protocol parameterId entropy).mapErr
    fun e => .session e.text)
  (paceParty P κ).drive exchange (fun e => .session e.text) session

/-- Take over the session of a handshake. -/
def setSm (sm : MrtdSM) : Proc (MrtdApi τ) MrtdApiError Unit :=
  Proc.modify fun api => { api with sm := some sm }

lemma initSessionViaBac_eq (P : Primitives) (key : DBAKey) (entropy : Entropy) :
    (initSessionViaBac P key entropy : Proc (MrtdApi τ) MrtdApiError Unit) =
      bacHandshake P key entropy >>= setSm :=
  (Proc.bind_assoc _ _ _).symm

lemma initSessionViaPace_eq (P : Primitives) {κ : Type} [AccessKey κ] (accessKey : κ)
    (efCardAccess : EfCardAccess) (entropy : Entropy) :
    (initSessionViaPace P accessKey efCardAccess entropy :
      Proc (MrtdApi τ) MrtdApiError Unit) =
        paceHandshake P accessKey efCardAccess entropy >>= setSm := by
  simp only [paceHandshake, Proc.bind_assoc]
  rfl

section Surfacing

variable {R : Bool → MrtdApi τ → MrtdApi τ → Prop} (hR : IsStretch R)

include hR

lemma bacHandshake_surfaces (P : Primitives) (key : DBAKey) (entropy : Entropy) :
    (bacHandshake P key entropy : Proc (MrtdApi τ) MrtdApiError MrtdSM).Surfaces R :=
  (Proc.surfaces_lift hR.toIsStretch _).bind hR.toIsStretch fun _ =>
    (bacParty P).drive_surfaces hR.toIsStretch hR.exchange _

lemma paceHandshake_surfaces (P : Primitives) {κ : Type} [AccessKey κ] (accessKey : κ)
    (efCardAccess : EfCardAccess) (entropy : Entropy) :
    (paceHandshake P accessKey efCardAccess entropy :
      Proc (MrtdApi τ) MrtdApiError MrtdSM).Surfaces R := by
  have hs := hR.toIsStretch
  refine (Proc.surfaces_lift hs _).bind hs fun info => ?_
  refine (Proc.surfaces_lift hs _).bind hs fun parameterId => ?_
  refine (Proc.surfaces_lift hs _).bind hs fun session => ?_
  exact (paceParty P κ).drive_surfaces hs hR.exchange _

end Surfacing

/-! ## Two kinds of stretch -/

/-- A stretch seen on the transport below the API. -/
def onTransport (R : Bool → τ → τ → Prop) (fault : Bool) (api api' : MrtdApi τ) : Prop :=
  R fault api.transceiver api'.transceiver

/-- A stretch on which nothing is lost and no session comes up. -/
def staysPlain (fault : Bool) (api api' : MrtdApi τ) : Prop :=
  fault = false ∧ (api.sm = none → api'.sm = none)

lemma isStretch_onTransport {R : Bool → τ → τ → Prop} (hR : Proc.IsStretch R)
    (hwire : ∀ apdu, (Transceiver.transceive apdu : Proc τ TransceiveError Bytes).Surfaces R) :
    IsStretch (onTransport R) where
  refl _ := hR.refl _
  trans _ _ _ _ h h' := hR.trans h h'
  withSm m plain := by
    apply Proc.surfaces_of_silent
    rintro ⟨t, _ | sm⟩
    · exact hR.refl t
    · exact hR.refl t
  exchange apdu := by
    apply (hwire apdu).zoom MrtdApi.transceiver
    · intro api
      rfl
    · intro api e he
      exact ⟨.transceive e, by rw [exchange, onTransceiver, he, Outcome.mapErr_err]⟩

lemma isStretch_staysPlain : IsStretch (staysPlain : Bool → MrtdApi τ → MrtdApi τ → Prop) where
  refl _ := ⟨rfl, id⟩
  trans _ _ _ _ h h' := ⟨h'.1, fun hnone => h'.2 (h.2 hnone)⟩
  withSm m plain := by
    apply Proc.surfaces_of_silent
    rintro ⟨t, _ | sm⟩
    · exact ⟨rfl, id⟩
    · exact ⟨rfl, fun hnone => absurd hnone (by simp)⟩
  exchange apdu := Proc.surfaces_of_silent fun api => ⟨rfl, id⟩

end MrtdApi

/-! ## The passport -/

namespace Passport

/-- A stretch seen on the API below the passport. -/
def onApiOf (R : Bool → MrtdApi τ → MrtdApi τ → Prop) (fault : Bool) (p p' : Passport τ) : Prop :=
  R fault p.api p'.api

lemma onApi_surfaces {R : Bool → MrtdApi τ → MrtdApi τ → Prop} {α : Type}
    {m : Proc (MrtdApi τ) MrtdApiError α} (h : m.Surfaces R) :
    (onApi m).Surfaces (onApiOf R) := by
  apply h.zoom Passport.api
  · intro p
    rfl
  · intro p e he
    exact ⟨.fromApi e, by rw [onApi, he, Outcome.mapErr_err]⟩

section Surfacing

variable [Transceiver τ] {R : Bool → MrtdApi τ → MrtdApi τ → Prop} (hR : MrtdApi.IsStretch R)

include hR

lemma isStretch : Proc.IsStretch (onApiOf R) :=
  ⟨fun _ => hR.refl _, fun _ _ _ _ h h' => hR.trans h h'⟩

lemma selectMf_surfaces :
    (selectMf : Proc (Passport τ) PassportError Unit).Surfaces (onApiOf R) := by
  have hs := isStretch hR
  refine (Proc.surfaces_get hs).bind hs fun self => ?_
  split
  · refine (onApi_surfaces (MrtdApi.selectMasterFile_surfaces hR)).bind hs fun _ => ?_
    exact Proc.surfaces_of_silent fun p => hR.refl _
  · exact Proc.surfaces_pure hs _

lemma selectDf1_surfaces :
    (selectDf1 : Proc (Passport τ) PassportError Unit).Surfaces (onApiOf R) := by
  have hs := isStretch hR
  refine (Proc.surfaces_get hs).bind hs fun self => ?_
  split
  · refine (onApi_surfaces (MrtdApi.selectEmrtdApplication_surfaces hR)).bind hs fun _ => ?_
    exact Proc.surfaces_of_silent fun p => hR.refl _
  · exact Proc.surfaces_pure hs _

/-- The two ways to establish a session, once taking it over is seen to be no fault. -/
theorem startSession_surfaces (hset : ∀ api sm, R false api { api with sm := some sm })
    (P : Primitives) (keys : DBAKey) (entropy : Entropy) :
    (startSession P keys entropy : Proc (Passport τ) PassportError Unit).Surfaces (onApiOf R) := by
  refine (selectDf1_surfaces hR).bind (isStretch hR) fun _ => onApi_surfaces ?_
  rw [MrtdApi.initSessionViaBac_eq]
  exact (MrtdApi.bacHandshake_surfaces hR P keys entropy).bind hR.toIsStretch fun sm =>
    Proc.surfaces_of_silent fun api => hset api sm

theorem startSessionPace_surfaces (hset : ∀ api sm, R false api { api with sm := some sm })
    (P : Primitives) {κ : Type} [AccessKey κ] (accessKey : κ) (efCardAccess : EfCardAccess)
    (entropy : Entropy) :
    (startSessionPace P accessKey efCardAccess entropy :
      Proc (Passport τ) PassportError Unit).Surfaces (onApiOf R) := by
  refine (onApi_surfaces ?_).bind (isStretch hR) fun _ =>
    Proc.surfaces_of_silent fun _ => hR.refl _
  rw [MrtdApi.initSessionViaPace_eq]
  exact (MrtdApi.paceHandshake_surfaces hR P accessKey efCardAccess entropy).bind hR.toIsStretch
    fun sm => Proc.surfaces_of_silent fun api => hset api sm

theorem readEfCardAccess_surfaces {ρ : Type} (parse : Bytes → Outcome EfParseError ρ) :
    (readEfCardAccess parse : Proc (Passport τ) PassportError ρ).Surfaces (onApiOf R) :=
  (selectMf_surfaces hR).bind (isStretch hR) fun _ =>
    (onApi_surfaces (MrtdApi.readFileBySfi_surfaces hR _)).bind (isStretch hR) fun _ =>
      Proc.surfaces_lift (isStretch hR) _

theorem readDf1_surfaces {ρ : Type} (file : Df1File) (parse : Bytes → Outcome EfParseError ρ) :
    (readDf1 file parse : Proc (Passport τ) PassportError ρ).Surfaces (onApiOf R) :=
  (selectDf1_surfaces hR).bind (isStretch hR) fun _ =>
    (onApi_surfaces (MrtdApi.readFileBySfi_surfaces hR _)).bind (isStretch hR) fun _ =>
      Proc.surfaces_lift (isStretch hR) _

theorem activeAuthenticate_surfaces (challenge : Bytes) :
    (activeAuthenticate challenge : Proc (Passport τ) PassportError Bytes).Surfaces (onApiOf R) :=
  onApi_surfaces (MrtdApi.activeAuthenticate_surfaces hR challenge)

end Surfacing

end Passport

/-! ## BAC does not panic -/

namespace BacSession

lemma nextRequest_ne_panic (P : Primitives) (self : BacSession) :
    (nextRequest P self).1 ≠ .panic := by
  refine Proc.bind_ne_panic ?_ fun action session _ => ?_
  · rcases next_cases P self with ⟨-, apdu, -, h⟩ | ⟨_, -, apdu, -, h⟩ | ⟨sm, -, h⟩ | ⟨e, h⟩ <;>
      simp [h]
  · cases action <;> simp

lemma feedResponse_ne_panic (P : Primitives) (response : Bytes) (self : BacSession) :
    (feedResponse P response self).1 ≠ .panic := by
  rcases feedResponse_cases P self response with
    ⟨-, e, h⟩ | ⟨-, _, h⟩ | ⟨_, sm, -, -, h⟩ | ⟨-, e, h⟩ <;> simp [h]

end BacSession

section Panics

variable [Transceiver τ]
  (hwire : ∀ apdu t, (Transceiver.transceive apdu t : _ × τ).1 ≠ .panic)

include hwire

lemma MrtdApi.exchange_ne_panic (apdu : Bytes) (api : MrtdApi τ) :
    (exchange apdu api).1 ≠ .panic :=
  Outcome.mapErr_ne_panic (hwire apdu api.transceiver)

/-- Without secure messaging, what a command and its answer go through cannot panic. -/
lemma MrtdApi.transceiveCmd_ne_panic (cmd : CommandApdu) {api : MrtdApi τ} (hsm : api.sm = none) :
    (transceiveCmd cmd api).1 ≠ .panic := by
  obtain ⟨t, sm⟩ := api
  obtain rfl : sm = none := hsm
  refine Proc.bind_ne_panic (by simp [withSm_none]) fun wire api hwrap => ?_
  obtain rfl : (⟨t, none⟩ : MrtdApi τ) = api := (Prod.mk.inj hwrap).2
  refine Proc.bind_ne_panic (exchange_ne_panic hwire _ _) fun respBytes api hsent => ?_
  have hnone : api.sm = none := by rw [← (Prod.mk.inj hsent).2]
  refine Proc.bind_ne_panic (Outcome.mapErr_ne_panic (ResponseApdu.fromBytes_ne_panic _))
    fun rapdu api' hparsed => ?_
  obtain rfl : api = api' := (Prod.mk.inj hparsed).2
  refine Proc.bind_ne_panic ?_ fun unwrapped api' _ => ?_
  · obtain ⟨t', sm'⟩ := api
    obtain rfl : sm' = none := hnone
    simp [withSm_none]
  · split <;> simp

lemma MrtdApi.bacHandshake_ne_panic (P : Primitives) (key : DBAKey) {entropy : Entropy}
    (hentropy : 24 ≤ entropy.length) (api : MrtdApi τ) :
    (bacHandshake P key entropy api).1 ≠ .panic := by
  refine Proc.bind_ne_panic ?_ fun session api' _ => ?_
  · simp [BacSession.new, hentropy]
  · exact (bacParty P).drive_ne_panic (BacSession.nextRequest_ne_panic P)
      (BacSession.feedResponse_ne_panic P) (exchange_ne_panic hwire) _ _

/-- To establish a BAC session on a driver that has none, with enough random bytes, never panics. -/
theorem Passport.startSession_ne_panic (P : Primitives) (keys : DBAKey) {entropy : Entropy}
    (hentropy : 24 ≤ entropy.length) {p : Passport τ} (hsm : p.api.sm = none) :
    (startSession P keys entropy p).1 ≠ .panic := by
  refine Proc.bind_ne_panic ?_ fun _ p' _ => ?_
  · refine Proc.bind_ne_panic (by simp) fun self p' hget => ?_
    obtain ⟨rfl, rfl⟩ : p = self ∧ p = p' := ⟨Outcome.ok.inj (Prod.mk.inj hget).1,
      (Prod.mk.inj hget).2⟩
    split
    · refine Proc.bind_ne_panic (Outcome.mapErr_ne_panic ?_) fun _ _ _ => by simp
      exact Proc.bind_ne_panic (MrtdApi.transceiveCmd_ne_panic hwire _ hsm) fun _ _ _ => by simp
    · simp
  · refine Outcome.mapErr_ne_panic ?_
    rw [MrtdApi.initSessionViaBac_eq]
    exact Proc.bind_ne_panic (MrtdApi.bacHandshake_ne_panic hwire P keys hentropy _)
      fun sm _ _ => by simp [MrtdApi.setSm]

end Panics

end Dmrtd
