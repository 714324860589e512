import IdentityCrates.Lib.Dialogue
import IdentityCrates.Dmrtd.Lds.EfCardAccess
import IdentityCrates.Dmrtd.Proto.BacSession
import IdentityCrates.Dmrtd.Proto.MrtdApi
import IdentityCrates.Dmrtd.Proto.PaceSession

/-!
# Session establishment

The two handshakes of `mrtd_api.rs`.  Each drives its session through the transport, sending what
the session asks for and feeding back the answers, until the session hands over its secure
messaging state.

The source loops without a bound.  Every answer that a session accepts takes it one state on
(`BacState.rank`, `PaceState.rank`), so the loops end.
-/

namespace Dmrtd

open Rust Octets

/-! ## Texts -/

/-- The `Debug` text of a `TokenAgreementAlgo`. -/
def TokenAgreementAlgo.debug : TokenAgreementAlgo → String
  | .dh => "Dh"
  | .ecdh => "Ecdh"

/-- The `Debug` text of a `MappingType`. -/
def MappingType.debug : MappingType → String
  | .gm => "Gm"
  | .im => "Im"
  | .cam => "Cam"

/-- The `Debug` text of a `CipherAlgorithm`. -/
def CipherAlgorithm.debug : CipherAlgorithm → String
  | .deSede => "DeSede"
  | .aes => "Aes"

/-- The `Display` text of a `PublicKeyPaceError`. -/
def PublicKeyPaceError.text : PublicKeyPaceError → String
  | .invalidCoordinate got coordLen =>
    s!"ECDH coordinate is {got} bytes, wider than coord_len {coordLen}"

/-- The `Display` text of an `ECDHPaceError`. -/
def ECDHPaceError.text : ECDHPaceError → String
  | .unknownId id => s!"Domain parameter with id {id} does not exist."
  | .unsupportedCurve id => s!"Curve for id {id} is not yet supported by this Rust port"
  | .noPublicKey => "Public key is null. Generate key pair first."
  | .noEphemeralPublicKey => "Ephemeral public key is null. Generate ephemeral key pair first."
  | .infinityPoint => "Infinity is not a valid public key for ECDH"
  | .infinityAgreement => "Infinity is not a valid agreement value for ECDH"
  | .invalidEncoding => "Invalid public key encoding"
  | .invalidScalar => "Invalid private key scalar"
  | .invalidSeedLen => "Seed must be 256 bits long."
  | .invalidCoordinate e => e.text

/-- The `Display` text of a `PaceSessionError`. -/
def PaceSessionError.text : PaceSessionError → String
  | .unsupportedAgreement algo =>
    s!"PACE session: token-agreement algorithm not supported here (got {algo.debug})"
  | .unsupportedMapping mapping =>
    s!"PACE session: only Generic Mapping (GM) is supported (got {mapping.debug})"
  | .unsupportedCipher cipher =>
    s!"PACE session: only AES cipher is supported (got {cipher.debug})"
  | .unsupportedCurve id => s!"PACE session: unsupported curve/parameter id (got id {id})"
  | .noOutstandingApdu => "PACE session has no outstanding APDU to consume"
  | .pendingResponse => "PACE session is waiting for a response; feed_response first"
  | .alreadyTaken => "PACE session already consumed"
  | .chipStatus status => s!"PACE step failed with status {status.text}"
  | .emptyResponse => "PACE step response was empty"
  | .invalidResponse message => s!"Invalid response APDU: {message}"
  | .missingSharedSecretX => "Shared secret has no x coordinate"
  | .authTokenMismatch => "ICC authentication token does not match the expected one"
  | .pace e => s!"PACEError: {e.message}"
  | .ecdh e => e.text
  | .dh e => s!"DHPaceError: {e.message}"
  | .sm e => s!"SMError: {e.message}"

/-! ## The two parties -/

/-- The calls that a BAC session has left before it is completed. -/
def BacState.rank : BacState → Nat
  | .start => 4
  | .waitingForChallenge => 3
  | .readyForExternalAuth _ => 2
  | .waitingForAuth _ => 1
  | .completed _ | .failed => 0

/-- The calls that a PACE session has left before it is completed. -/
def PaceState.rank : PaceState → Nat
  | .start => 10
  | .waitingForMseSetAt => 9
  | .readyForStep1 => 8
  | .waitingForStep1 => 7
  | .readyForStep2 _ => 6
  | .waitingForStep2 _ => 5
  | .readyForStep3 => 4
  | .waitingForStep3 => 3
  | .readyForStep4 .. => 2
  | .waitingForStep4 .. => 1
  | .completed _ => 0

variable {P : Primitives}

namespace BacSession

/-- `next`, with what is to be sent apart from what is handed over. -/
def nextRequest (P : Primitives) : Proc BacSession BacError (Bytes ⊕ MrtdSM) := do
  match ← next P with
  | .sendApdu apdu => return .inl apdu
  | .done sm => return .inr sm

/-- To send a command takes a session one state on. -/
lemma rank_nextRequest {self session : BacSession} {apdu : Bytes}
    (h : nextRequest P self = (.ok (.inl apdu), session)) :
    session.state.rank < self.state.rank := by
  obtain ⟨action, session', hnext, h⟩ := Proc.bind_eq_ok.mp h
  cases action with
  | done sm => simp at h
  | sendApdu apdu' =>
    obtain rfl : session' = session := (Prod.mk.inj h).2
    obtain ⟨key, rndIfd, kifd, state⟩ := self
    simp only [next, Proc.get_bind_apply] at hnext
    cases state with
    | start =>
      obtain ⟨cmd, -, hnext⟩ := Proc.lift_bind_eq_ok.mp hnext
      rw [← (Prod.mk.inj hnext).2]
      exact (by decide : 3 < 4)
    | readyForExternalAuth rndIcc =>
      obtain ⟨cmd, -, hnext⟩ := Proc.lift_bind_eq_ok.mp hnext
      rw [← (Prod.mk.inj hnext).2]
      exact (by decide : 1 < 2)
    | completed slot => cases slot <;> simp at hnext
    | _ => simp at hnext

/-- So does an accepted answer. -/
lemma rank_feedResponse {self session : BacSession} {response : Bytes}
    (h : feedResponse P response self = (.ok (), session)) :
    session.state.rank < self.state.rank := by
  unfold feedResponse at h
  split at h
  · simp at h
  split at h
  · simp at h
  obtain ⟨data, -, h⟩ := Proc.lift_bind_eq_ok.mp h
  obtain ⟨key, rndIfd, kifd, state⟩ := self
  simp only [Proc.get_bind_apply, Proc.set_bind_apply] at h
  cases state with
  | waitingForChallenge =>
    obtain ⟨rndIcc, -, h⟩ := Proc.lift_bind_eq_ok.mp h
    rw [← (Prod.mk.inj h).2]
    exact (by decide : 2 < 3)
  | waitingForAuth rndIcc =>
    obtain ⟨sm, -, h⟩ := Proc.lift_bind_eq_ok.mp h
    rw [← (Prod.mk.inj h).2]
    exact (by decide : 0 < 1)
  | _ => simp at h

end BacSession

/-- A BAC session as a party to be driven. -/
def bacParty (P : Primitives) : Dialogue.Party BacSession BacError Bytes Bytes MrtdSM where
  next := BacSession.nextRequest P
  feed := BacSession.feedResponse P
  rank session := session.state.rank
  rank_lt _ _ _ _ _ hnext hfeed :=
    (BacSession.rank_feedResponse hfeed).trans (BacSession.rank_nextRequest hnext)

namespace PaceSession

variable {κ : Type} [AccessKey κ]

/-- `next`, with what is to be sent apart from what is handed over. -/
def nextRequest (P : Primitives) (κ : Type) [AccessKey κ] :
    Proc (PaceSession P κ) PaceSessionError (Bytes ⊕ MrtdSM) := do
  match ← next with
  | .sendApdu apdu => return .inl apdu
  | .done sm => return .inr sm

/-- To send a command takes a session one state on. -/
lemma rank_nextRequest {self session : PaceSession P κ} {apdu : Bytes}
    (h : nextRequest P κ self = (.ok (.inl apdu), session)) :
    session.state.rank < self.state.rank := by
  obtain ⟨action, session', hnext, h⟩ := Proc.bind_eq_ok.mp h
  cases action with
  | done sm => simp at h
  | sendApdu apdu' =>
    obtain rfl : session' = session := (Prod.mk.inj h).2
    cases requested_of_next hnext with
    | selects hstate => rw [hstate]; exact (by decide : 9 < 10)
    | asksNonce hstate => rw [hstate]; exact (by decide : 7 < 8)
    | sendsMapping hstate => rw [hstate]; exact (by decide : 5 < 6)
    | sendsKey hstate => rw [hstate]; exact (by decide : 3 < 4)
    | sendsToken hstate => rw [hstate]; exact (by decide : 1 < 2)
    | failed _ _ hresult => cases hresult
    | drewAndFailed _ _ hresult => cases hresult

/-- So does an accepted answer. -/
lemma rank_feedResponse {self session : PaceSession P κ} {response : Bytes}
    (h : feedResponse response self = (.ok (), session)) :
    session.state.rank < self.state.rank := by
  obtain ⟨body, hconsumed⟩ := consumed_of_feed h
  cases hconsumed with
  | selected hstate => rw [hstate]; exact (by decide : 8 < 9)
  | decrypted hstate => rw [hstate]; exact (by decide : 6 < 7)
  | mapped hstate => rw [hstate]; exact (by decide : 4 < 5)
  | agreed hstate => rw [hstate]; exact (by decide : 2 < 3)
  | authenticated hstate => rw [hstate]; exact (by decide : 0 < 1)
  | failed _ hresult => cases hresult

end PaceSession

/-- A PACE session as a party to be driven. -/
def paceParty (P : Primitives) (κ : Type) [AccessKey κ] :
    Dialogue.Party (PaceSession P κ) PaceSessionError Bytes Bytes MrtdSM where
  next := PaceSession.nextRequest P κ
  feed := PaceSession.feedResponse
  rank session := session.state.rank
  rank_lt _ _ _ _ _ hnext hfeed :=
    (PaceSession.rank_feedResponse hfeed).trans (PaceSession.rank_nextRequest hnext)

/-! ## The handshakes -/

namespace MrtdApi

variable {τ : Type} [Transceiver τ]

/-- Exchange one APDU of a handshake. -/
def exchange (apdu : Bytes) : Proc (MrtdApi τ) MrtdApiError Bytes :=
  onTransceiver (Transceiver.transceive apdu)

/-- `init_session_via_bac`, with the random bytes that the session will draw. -/
def initSessionViaBac (P : Primitives) (key : DBAKey) (entropy : Entropy) :
    Proc (MrtdApi τ) MrtdApiError Unit := do
  let session ← Proc.lift ((BacSession.new key entropy).mapErr fun e => .session e.message)
  let sm ← (bacParty P).drive exchange (fun e => .session e.message) session.1
  Proc.modify fun api => { api with sm := some sm }

/-- The domain parameters that a PACEInfo record names. -/
def parameterIdOf (info : PaceInfo) : Outcome MrtdApiError Nat := do
  let raw ← Outcome.ofOption (.session
    "PACEInfo has no parameterId; standardized domain parameters are not supported")
    info.parameterId
  if 0 ≤ raw ∧ raw < 2 ^ 32 then .ok raw.toNat else .err (.session "parameter_id out of range")

/-- `init_session_via_pace`, with the random bytes that the session will draw. -/
def initSessionViaPace (P : Primitives) {κ : Type} [AccessKey κ] (accessKey : κ)
    (efCardAccess : EfCardAccess) (entropy : Entropy) : Proc (MrtdApi τ) MrtdApiError Unit := do
  let info ← Proc.lift (Outcome.ofOption .missingPaceInfo efCardAccess.paceInfo)
  let parameterId ← Proc.lift (parameterIdOf info)
  let session ← Proc.lift ((PaceSession.new P accessKey info.protocol parameterId entropy).mapErr
    fun e => .session e.text)
  let sm ← (paceParty P κ).drive exchange (fun e => .session e.text) session
  Proc.modify fun api => { api with sm := some sm }

end MrtdApi

end Dmrtd
