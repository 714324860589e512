import IdentityCrates.Dmrtd.Proto.DhPace
import IdentityCrates.Dmrtd.Proto.EcdhPace
import IdentityCrates.Dmrtd.Proto.MrtdSm
import IdentityCrates.Dmrtd.Proto.Pace
import IdentityCrates.Dmrtd.Proto.SmCiphers

/-!
# The PACE session

`pace_session.rs`: the PACE handshake as a state machine that its caller drives with `next` and
`feed_response`, over either flavour of key agreement.

Both methods take the state out with `mem::replace`, leaving `Start`, before they run the fallible
part of a step, and each arm puts its next state back at the end.  As `Proc`s keep the state they
reached when they fail, what an early return leaves behind is visible here.

The session carries the tape of random bytes that its engine draws on.  The seeds of the source,
which exist for tests, only choose the generator and are left out.
-/

namespace Dmrtd

open Rust Octets

/-- `PaceAction`. -/
inductive PaceAction where
  | sendApdu (apdu : Bytes)
  | done (sm : MrtdSM)

/-- `PaceSessionError`. -/
inductive PaceSessionError where
  | unsupportedAgreement (algo : TokenAgreementAlgo)
  | unsupportedMapping (mapping : MappingType)
  | unsupportedCipher (cipher : CipherAlgorithm)
  | unsupportedCurve (id : Nat)
  | noOutstandingApdu
  | pendingResponse
  | alreadyTaken
  | chipStatus (status : StatusWord)
  | emptyResponse
  | invalidResponse (message : String)
  | missingSharedSecretX
  | authTokenMismatch
  | pace (e : PaceError)
  | ecdh (e : ECDHPaceError)
  | dh (e : DHPaceError)
  | sm (e : SmError)
  deriving DecidableEq, Repr

/-! ## The engine -/

/-- `PaceEngine`. -/
inductive PaceEngine (P : Primitives) where
  | ecdh (e : ECDHPace P)
  | dh (e : DHPace)

namespace PaceEngine

variable {P : Primitives}

/-- `generate_main_key_pair`. -/
def generateMainKeyPair (self : PaceEngine P) (entropy : Entropy) :
    Outcome PaceSessionError (PaceEngine P × Entropy) :=
  match self with
  | .ecdh e => do
    let drawn ← (e.engine.generateKeyPair entropy).mapErr PaceSessionError.ecdh
    return (.ecdh ⟨e.curve, drawn.1⟩, drawn.2)
  | .dh e => do
    let drawn ← (e.generateKeyPair entropy).mapErr PaceSessionError.dh
    return (.dh drawn.1, drawn.2)

/-- `main_pub_key`. -/
def mainPubKey (self : PaceEngine P) : Outcome PaceSessionError PublicKeyPace :=
  match self with
  | .ecdh e => e.engine.getPubKey.mapErr .ecdh
  | .dh e => e.getPubKey.mapErr .dh

/-- `ephemeral_pub_key`. -/
def ephemeralPubKey (self : PaceEngine P) : Outcome PaceSessionError PublicKeyPace :=
  match self with
  | .ecdh e => e.engine.getPubKeyEphemeral.mapErr .ecdh
  | .dh e => e.getPubKeyEphemeral.mapErr .dh

/-- `map_and_generate_ephemeral`. -/
def mapAndGenerateEphemeral (self : PaceEngine P) (iccMappingPub : PublicKeyPace) (nonce : Bytes)
    (entropy : Entropy) : Outcome PaceSessionError (PaceEngine P × Entropy) :=
  match self with
  | .ecdh e => do
    let drawn ← (e.engine.mapAndGenerateEphemeral iccMappingPub nonce entropy).mapErr
      PaceSessionError.ecdh
    return (.ecdh ⟨e.curve, drawn.1⟩, drawn.2)
  | .dh e => do
    let gPrime ← (e.getMappedGenerator iccMappingPub.toRelevantBytes nonce).mapErr
      PaceSessionError.dh
    let drawn ← (e.generateEphemeralWithCustomGenerator (ofBE gPrime) entropy).mapErr
      PaceSessionError.dh
    return (.dh drawn.1, drawn.2)

/-- `ephemeral_shared_seed`. -/
def ephemeralSharedSeed (self : PaceEngine P) (iccEphemeralPub : PublicKeyPace) :
    Outcome PaceSessionError Bytes :=
  match self with
  | .ecdh e => (e.engine.getEphemeralSharedSeed iccEphemeralPub).mapErr .ecdh
  | .dh e => do
    let shared ← (e.getEphemeralSharedSecret iccEphemeralPub.toRelevantBytes).mapErr
      PaceSessionError.dh
    return bigUintToBytes shared

/-- `pubkey_response_le`. -/
def pubkeyResponseLe (self : PaceEngine P) : Nat :=
  match self with
  | .ecdh _ => 256
  | .dh e => if e.modulusByteLen + 8 ≤ 256 then 256 else 65536

end PaceEngine

/-! ## The session -/

/-- `State`. -/
inductive PaceState where
  | start
  | waitingForMseSetAt
  | readyForStep1
  | waitingForStep1
  | readyForStep2 (nonce : Bytes)
  | waitingForStep2 (nonce : Bytes)
  | readyForStep3
  | waitingForStep3
  | readyForStep4 (iccEphemeralPub : PublicKeyPace) (kEnc kMac : Bytes)
  | waitingForStep4 (kEnc kMac : Bytes)
  | completed (slot : Option MrtdSM)

/-- Is a response due? -/
def PaceState.awaitsResponse : PaceState → Bool
  | .waitingForMseSetAt | .waitingForStep1 | .waitingForStep2 _ | .waitingForStep3
  | .waitingForStep4 .. => true
  | .start | .readyForStep1 | .readyForStep2 _ | .readyForStep3 | .readyForStep4 ..
  | .completed _ => false

/-- Is a command due? -/
def PaceState.asks : PaceState → Bool
  | .start | .readyForStep1 | .readyForStep2 _ | .readyForStep3 | .readyForStep4 .. => true
  | .waitingForMseSetAt | .waitingForStep1 | .waitingForStep2 _ | .waitingForStep3
  | .waitingForStep4 .. | .completed _ => false

/-- `PaceSession`, with the random bytes it will draw. -/
structure PaceSession (P : Primitives) (κ : Type) where
  key : κ
  protocol : OiePaceProtocol
  engine : PaceEngine P
  parameterId : Nat
  entropy : Entropy
  state : PaceState

namespace PaceSession

variable (P : Primitives) {κ : Type} [AccessKey κ]

/-- `new_ecdh`. -/
def newEcdh (key : κ) (protocol : OiePaceProtocol) (parameterId : Nat) (entropy : Entropy) :
    Outcome PaceSessionError (PaceSession P κ) :=
  if protocol.tokenAgreementAlgorithm ≠ .ecdh then
    .err (.unsupportedAgreement protocol.tokenAgreementAlgorithm)
  else if protocol.cipherAlgorithm ≠ .aes then .err (.unsupportedCipher protocol.cipherAlgorithm)
  else if protocol.mappingType ≠ .gm then .err (.unsupportedMapping protocol.mappingType)
  else
    let supported := ((DomainParameter.get parameterId).map fun entry =>
      entry.isSupported && entry.kind == .ecp).getD false
    if ¬ supported then .err (.unsupportedCurve parameterId)
    else do
      let engine ← (ECDHPace.new P parameterId).mapErr PaceSessionError.ecdh
      return ⟨key, protocol, .ecdh engine, parameterId, entropy, .start⟩

/-- `new_dh`. -/
def newDh (key : κ) (protocol : OiePaceProtocol) (parameterId : Nat) (entropy : Entropy) :
    Outcome PaceSessionError (PaceSession P κ) :=
  if protocol.tokenAgreementAlgorithm ≠ .dh then
    .err (.unsupportedAgreement protocol.tokenAgreementAlgorithm)
  else if protocol.cipherAlgorithm ≠ .aes then .err (.unsupportedCipher protocol.cipherAlgorithm)
  else if protocol.mappingType ≠ .gm then .err (.unsupportedMapping protocol.mappingType)
  else do
    let engine ← (DHPace.getDomainParameter parameterId entropy).mapErr PaceSessionError.dh
    return ⟨key, protocol, .dh engine.1, parameterId, engine.2, .start⟩

/-- `new`. -/
def new (key : κ) (protocol : OiePaceProtocol) (parameterId : Nat) (entropy : Entropy) :
    Outcome PaceSessionError (PaceSession P κ) :=
  match protocol.tokenAgreementAlgorithm with
  | .ecdh => newEcdh P key protocol parameterId entropy
  | .dh => newDh P key protocol parameterId entropy

variable {P}

omit [AccessKey κ] in
lemma newEcdh_eq_ok {key : κ} {protocol : OiePaceProtocol} {parameterId : Nat} {entropy : Entropy}
    {session : PaceSession P κ} (h : newEcdh P key protocol parameterId entropy = .ok session) :
    protocol.cipherAlgorithm = .aes ∧ ∃ engine,
      session = ⟨key, protocol, .ecdh engine, parameterId, entropy, .start⟩ := by
  unfold newEcdh at h
  split at h
  · simp at h
  split at h
  · simp at h
  rename_i haes
  split at h
  · simp at h
  simp only at h
  split at h
  · simp at h
  obtain ⟨engine, -, hsession⟩ := Outcome.bind_eq_ok.mp h
  exact ⟨not_not.mp haes, engine, (Outcome.ok.inj hsession).symm⟩

omit [AccessKey κ] in
lemma newDh_eq_ok {key : κ} {protocol : OiePaceProtocol} {parameterId : Nat} {entropy : Entropy}
    {session : PaceSession P κ} (h : newDh P key protocol parameterId entropy = .ok session) :
    protocol.cipherAlgorithm = .aes ∧ ∃ engine,
      DHPace.getDomainParameter parameterId entropy = .ok engine ∧
        session = ⟨key, protocol, .dh engine.1, parameterId, engine.2, .start⟩ := by
  unfold newDh at h
  split at h
  · simp at h
  split at h
  · simp at h
  rename_i haes
  split at h
  · simp at h
  obtain ⟨engine, hengine, hsession⟩ := Outcome.bind_eq_ok.mp h
  exact ⟨not_not.mp haes, engine, Outcome.mapErr_eq_ok.mp hengine, (Outcome.ok.inj hsession).symm⟩

/-! ### Commands -/

/-- The MSE:Set AT command. -/
def mseSetAt (self : PaceSession P κ) : Outcome PaceSessionError CommandApdu := do
  let data ← Pace.generateMseSetAtData self.protocol (AccessKey.paceRefKeyTag self.key)
    (some self.parameterId)
  (CommandApdu.new Cla.noSm Ins.manageSecurityEnvironment 0xC1 0xA4 (some data) 0).mapErr fun e =>
    .invalidResponse e.text

/-- A GENERAL AUTHENTICATE command. -/
def generalAuthenticate (cla : UInt8) (data : Bytes) (ne : Nat) :
    Outcome PaceSessionError CommandApdu :=
  (CommandApdu.new cla Ins.generalAuthenticate 0x00 0x00 (some data) ne).mapErr fun e =>
    .invalidResponse e.text

/-- The command of step 1. -/
def step1Command : Outcome PaceSessionError CommandApdu := do
  let data ← Pace.generateGeneralAuthenticateDataStep1
  generalAuthenticate Cla.commandChaining data 256

/-- The command of step 2, with the public key of the main pair. -/
def step2Command (engine : PaceEngine P) : Outcome PaceSessionError CommandApdu := do
  let terminalPub ← engine.mainPubKey
  let data ← Pace.generateGeneralAuthenticateDataStep2Or3 terminalPub false
  generalAuthenticate Cla.commandChaining data engine.pubkeyResponseLe

/-- The command of step 3, with the ephemeral public key. -/
def step3Command (engine : PaceEngine P) : Outcome PaceSessionError CommandApdu := do
  let terminalEphemeralPub ← engine.ephemeralPubKey
  let data ← Pace.generateGeneralAuthenticateDataStep2Or3 terminalEphemeralPub true
  generalAuthenticate Cla.commandChaining data engine.pubkeyResponseLe

/-- The token of one side: the MAC over the other side's ephemeral public key. -/
def authToken (P : Primitives) (protocol : OiePaceProtocol) (ephemeralPub : PublicKeyPace)
    (kMac : Bytes) : Outcome PaceSessionError Bytes := do
  let input ← Pace.generateEncodingInputData protocol ephemeralPub
  (Pace.calculateAuthToken P protocol input kMac).mapErr .pace

/-- The command of step 4, with the terminal's token. -/
def step4Command (self : PaceSession P κ) (iccEphemeralPub : PublicKeyPace) (kMac : Bytes) :
    Outcome PaceSessionError CommandApdu := do
  let tIfd ← authToken P self.protocol iccEphemeralPub kMac
  let data ← Pace.generateGeneralAuthenticateDataStep4 tIfd
  generalAuthenticate Cla.noSm data 256

/-- `next`. -/
def next : Proc (PaceSession P κ) PaceSessionError PaceAction := do
  let self ← Proc.get
  Proc.set { self with state := .start }
  match self.state with
  | .start => do
    let cmd ← Proc.lift self.mseSetAt
    Proc.set { self with state := .waitingForMseSetAt }
    return .sendApdu cmd.toBytes
  | .readyForStep1 => do
    let cmd ← Proc.lift step1Command
    Proc.set { self with state := .waitingForStep1 }
    return .sendApdu cmd.toBytes
  | .readyForStep2 nonce => do
    let drawn ← Proc.lift (self.engine.generateMainKeyPair self.entropy)
    Proc.set { self with engine := drawn.1, entropy := drawn.2, state := .start }
    let cmd ← Proc.lift (step2Command drawn.1)
    Proc.set { self with engine := drawn.1, entropy := drawn.2, state := .waitingForStep2 nonce }
    return .sendApdu cmd.toBytes
  | .readyForStep3 => do
    let cmd ← Proc.lift (step3Command self.engine)
    Proc.set { self with state := .waitingForStep3 }
    return .sendApdu cmd.toBytes
  | .readyForStep4 iccEphemeralPub kEnc kMac => do
    let cmd ← Proc.lift (self.step4Command iccEphemeralPub kMac)
    Proc.set { self with state := .waitingForStep4 kEnc kMac }
    return .sendApdu cmd.toBytes
  | .completed (some sm) => do
    Proc.set { self with state := .completed none }
    return .done sm
  | .completed none => do
    Proc.set self
    Proc.fail .alreadyTaken
  | .waitingForMseSetAt | .waitingForStep1 | .waitingForStep2 _ | .waitingForStep3
  | .waitingForStep4 .. => do
    Proc.set self
    Proc.fail .pendingResponse

/-! ### What `next` does -/

/-- All that `next` can do: send the command of the next step, hand over the secure messaging state,
drop the state where a step fails, which in step 2 can be with the main key pair drawn, or turn the
call down. -/
inductive Requested (self : PaceSession P κ) :
    Outcome PaceSessionError PaceAction → PaceSession P κ → Prop
  | selects {cmd : CommandApdu} (hstate : self.state = .start) (hcmd : self.mseSetAt = .ok cmd) :
      Requested self (.ok (.sendApdu cmd.toBytes)) { self with state := .waitingForMseSetAt }
  | asksNonce {cmd : CommandApdu} (hstate : self.state = .readyForStep1)
      (hcmd : step1Command = .ok cmd) :
      Requested self (.ok (.sendApdu cmd.toBytes)) { self with state := .waitingForStep1 }
  | sendsMapping {nonce : Bytes} {drawn : PaceEngine P × Entropy} {cmd : CommandApdu}
      (hstate : self.state = .readyForStep2 nonce)
      (hdrawn : self.engine.generateMainKeyPair self.entropy = .ok drawn)
      (hcmd : step2Command drawn.1 = .ok cmd) :
      Requested self (.ok (.sendApdu cmd.toBytes))
        { self with engine := drawn.1, entropy := drawn.2, state := .waitingForStep2 nonce }
  | sendsKey {cmd : CommandApdu} (hstate : self.state = .readyForStep3)
      (hcmd : step3Command self.engine = .ok cmd) :
      Requested self (.ok (.sendApdu cmd.toBytes)) { self with state := .waitingForStep3 }
  | sendsToken {icc : PublicKeyPace} {kEnc kMac : Bytes} {cmd : CommandApdu}
      (hstate : self.state = .readyForStep4 icc kEnc kMac)
      (hcmd : self.step4Command icc kMac = .ok cmd) :
      Requested self (.ok (.sendApdu cmd.toBytes)) { self with state := .waitingForStep4 kEnc kMac }
  | handsOver {sm : MrtdSM} (hstate : self.state = .completed (some sm)) :
      Requested self (.ok (.done sm)) { self with state := .completed none }
  | failed {result : Outcome PaceSessionError PaceAction} (hasks : self.state.asks = true)
      (hdraw : ∀ nonce, self.state = .readyForStep2 nonce →
        (self.engine.generateMainKeyPair self.entropy).isOk = false)
      (hresult : result.isOk = false) : Requested self result { self with state := .start }
  | drewAndFailed {nonce : Bytes} {drawn : PaceEngine P × Entropy}
      {result : Outcome PaceSessionError PaceAction} (hstate : self.state = .readyForStep2 nonce)
      (hdrawn : self.engine.generateMainKeyPair self.entropy = .ok drawn)
      (hresult : result.isOk = false) :
      Requested self result { self with engine := drawn.1, entropy := drawn.2, state := .start }
  | idle {e : PaceSessionError} (hasks : self.state.asks = false)
      (hslot : ∀ sm, self.state ≠ .completed (some sm)) : Requested self (.err e) self

lemma requested (self : PaceSession P κ) : Requested self (next self).1 (next self).2 := by
  obtain ⟨key, protocol, engine, parameterId, entropy, state⟩ := self
  cases state with
  | start =>
    rcases hcmd : mseSetAt (P := P) ⟨key, protocol, engine, parameterId, entropy, .start⟩ with
      cmd | e | _
    all_goals simp only [next, Proc.get_bind_apply, Proc.set_bind_apply, hcmd]
    · exact .selects rfl hcmd
    · exact .failed rfl (by simp) rfl
    · exact .failed rfl (by simp) rfl
  | readyForStep1 =>
    rcases hcmd : (step1Command : Outcome PaceSessionError CommandApdu) with cmd | e | _
    all_goals simp only [next, Proc.get_bind_apply, Proc.set_bind_apply, hcmd]
    · exact .asksNonce rfl hcmd
    · exact .failed rfl (by simp) rfl
    · exact .failed rfl (by simp) rfl
  | readyForStep2 nonce =>
    rcases hdrawn : engine.generateMainKeyPair entropy with drawn | e | _
    · rcases hcmd : step2Command drawn.1 with cmd | e | _
      all_goals
        simp only [next, Proc.get_bind_apply, Proc.set_bind_apply, hdrawn, Proc.lift_ok_bind_apply,
          hcmd]
      · exact .sendsMapping rfl hdrawn hcmd
      · exact .drewAndFailed rfl hdrawn rfl
      · exact .drewAndFailed rfl hdrawn rfl
    all_goals simp only [next, Proc.get_bind_apply, Proc.set_bind_apply, hdrawn]
    · exact .failed rfl (fun _ _ => by rw [hdrawn]; rfl) rfl
    · exact .failed rfl (fun _ _ => by rw [hdrawn]; rfl) rfl
  | readyForStep3 =>
    rcases hcmd : step3Command engine with cmd | e | _
    all_goals simp only [next, Proc.get_bind_apply, Proc.set_bind_apply, hcmd]
    · exact .sendsKey rfl hcmd
    · exact .failed rfl (by simp) rfl
    · exact .failed rfl (by simp) rfl
  | readyForStep4 icc kEnc kMac =>
    rcases hcmd : step4Command
      ⟨key, protocol, engine, parameterId, entropy, .readyForStep4 icc kEnc kMac⟩ icc kMac with
      cmd | e | _
    all_goals simp only [next, Proc.get_bind_apply, Proc.set_bind_apply, hcmd]
    · exact .sendsToken rfl hcmd
    · exact .failed rfl (by simp) rfl
    · exact .failed rfl (by simp) rfl
  | completed slot =>
    cases slot with
    | none => exact .idle rfl (by simp)
    | some sm => exact .handsOver rfl
  | waitingForMseSetAt => exact .idle rfl (by simp)
  | waitingForStep1 => exact .idle rfl (by simp)
  | waitingForStep2 nonce => exact .idle rfl (by simp)
  | waitingForStep3 => exact .idle rfl (by simp)
  | waitingForStep4 kEnc kMac => exact .idle rfl (by simp)

lemma requested_of_next {self session : PaceSession P κ}
    {result : Outcome PaceSessionError PaceAction} (h : next self = (result, session)) :
    Requested self result session := by
  have hrequested := requested self
  rw [h] at hrequested
  exact hrequested

/-! ### Responses -/

/-- The nonce in the response to step 1. -/
def handleStep1 (self : PaceSession P κ) (body : Option Bytes) :
    Outcome PaceSessionError Bytes := do
  let data ← Outcome.ofOption .emptyResponse body
  let encryptedNonce ← (Pace.parseStep1Response data).mapErr fun e => .invalidResponse e.message
  (Pace.decryptNonce P self.protocol encryptedNonce self.key).mapErr .pace

/-- The public key in the response to step 2 or 3. -/
def chipPublicKey (protocol : OiePaceProtocol) (body : Option Bytes) :
    Outcome PaceSessionError PublicKeyPace := do
  let data ← Outcome.ofOption .emptyResponse body
  (Pace.parseStep2Or3Response data protocol.tokenAgreementAlgorithm).mapErr fun e =>
    .invalidResponse e.message

/-- The engine after the response to step 2. -/
def handleStep2 (self : PaceSession P κ) (nonce : Bytes) (body : Option Bytes) :
    Outcome PaceSessionError (PaceEngine P × Entropy) := do
  let iccMappingPub ← chipPublicKey self.protocol body
  self.engine.mapAndGenerateEphemeral iccMappingPub nonce self.entropy

/-- The chip's ephemeral key and the session keys after the response to step 3. -/
def handleStep3 (self : PaceSession P κ) (body : Option Bytes) :
    Outcome PaceSessionError (PublicKeyPace × Bytes × Bytes) := do
  let iccEphemeralPub ← chipPublicKey self.protocol body
  let seed ← self.engine.ephemeralSharedSeed iccEphemeralPub
  let kEnc := Pace.calculateEncKey P self.protocol seed
  let kMac := Pace.calculateMacKey P self.protocol seed
  return (iccEphemeralPub, kEnc, kMac)

/-- The secure messaging session after the response to step 4. -/
def handleStep4 (self : PaceSession P κ) (kEnc kMac : Bytes) (body : Option Bytes) :
    Outcome PaceSessionError MrtdSM := do
  let data ← Outcome.ofOption .emptyResponse body
  let iccToken ← (Pace.parseStep4Response data).mapErr fun e =>
    PaceSessionError.invalidResponse e.message
  let terminalEphemeralPub ← self.engine.ephemeralPubKey
  let expectedToken ← authToken P self.protocol terminalEphemeralPub kMac
  if expectedToken ≠ iccToken then .err .authTokenMismatch
  else do
    let cipher ← (AesSmCipher.new kEnc kMac self.protocol.keyLength).mapErr PaceSessionError.sm
    let ssc ← Ssc.zeroed 128
    return ⟨cipher.toSmCipher P, ssc⟩

/-- The part of `feed_response` that takes the state out: the step that a successful response
answers, with the body of the response. -/
def consumeBody (body : Option Bytes) : Proc (PaceSession P κ) PaceSessionError Unit := do
  let self ← Proc.get
  Proc.set { self with state := .start }
  match self.state with
  | .waitingForMseSetAt => Proc.set { self with state := .readyForStep1 }
  | .waitingForStep1 => do
    let nonce ← Proc.lift (self.handleStep1 body)
    Proc.set { self with state := .readyForStep2 nonce }
  | .waitingForStep2 nonce => do
    let drawn ← Proc.lift (self.handleStep2 nonce body)
    Proc.set { self with engine := drawn.1, entropy := drawn.2, state := .readyForStep3 }
  | .waitingForStep3 => do
    let agreed ← Proc.lift (self.handleStep3 body)
    Proc.set { self with state := .readyForStep4 agreed.1 agreed.2.1 agreed.2.2 }
  | .waitingForStep4 kEnc kMac => do
    let sm ← Proc.lift (self.handleStep4 kEnc kMac body)
    Proc.set { self with state := .completed (some sm) }
  | .start | .readyForStep1 | .readyForStep2 _ | .readyForStep3 | .readyForStep4 ..
  | .completed _ => do
    Proc.set self
    Proc.fail .noOutstandingApdu

/-- `feed_response`. -/
def feedResponse (response : Bytes) : Proc (PaceSession P κ) PaceSessionError Unit := do
  let rapdu ← Proc.lift ((ResponseApdu.fromBytes response).mapErr fun e =>
    PaceSessionError.invalidResponse e.text)
  if rapdu.status ≠ StatusWord.success then Proc.fail (.chipStatus rapdu.status)
  else consumeBody rapdu.data

/-! ### What a successful response does -/

/-- All that `consume_body` can do: take the session one step on, drop the state where the step
fails, or turn down a response that is not due. -/
inductive Consumed (self : PaceSession P κ) (body : Option Bytes) :
    Outcome PaceSessionError Unit → PaceSession P κ → Prop
  | selected (hstate : self.state = .waitingForMseSetAt) :
      Consumed self body (.ok ()) { self with state := .readyForStep1 }
  | decrypted {nonce : Bytes} (hstate : self.state = .waitingForStep1)
      (hnonce : self.handleStep1 body = .ok nonce) :
      Consumed self body (.ok ()) { self with state := .readyForStep2 nonce }
  | mapped {nonce : Bytes} {drawn : PaceEngine P × Entropy}
      (hstate : self.state = .waitingForStep2 nonce)
      (hdrawn : self.handleStep2 nonce body = .ok drawn) :
      Consumed self body (.ok ())
        { self with engine := drawn.1, entropy := drawn.2, state := .readyForStep3 }
  | agreed {pub : PublicKeyPace} {kEnc kMac : Bytes} (hstate : self.state = .waitingForStep3)
      (hagreed : self.handleStep3 body = .ok (pub, kEnc, kMac)) :
      Consumed self body (.ok ()) { self with state := .readyForStep4 pub kEnc kMac }
  | authenticated {kEnc kMac : Bytes} {sm : MrtdSM}
      (hstate : self.state = .waitingForStep4 kEnc kMac)
      (hsm : self.handleStep4 kEnc kMac body = .ok sm) :
      Consumed self body (.ok ()) { self with state := .completed (some sm) }
  | failed {result : Outcome PaceSessionError Unit} (hawaits : self.state.awaitsResponse = true)
      (hresult : result.isOk = false) : Consumed self body result { self with state := .start }
  | idle (hawaits : self.state.awaitsResponse = false) :
      Consumed self body (.err .noOutstandingApdu) self

lemma consumed (self : PaceSession P κ) (body : Option Bytes) :
    Consumed self body (consumeBody body self).1 (consumeBody body self).2 := by
  obtain ⟨key, protocol, engine, parameterId, entropy, state⟩ := self
  cases state with
  | waitingForMseSetAt => exact .selected rfl
  | waitingForStep1 =>
    rcases hnonce : handleStep1
      ⟨key, protocol, engine, parameterId, entropy, .waitingForStep1⟩ body with nonce | e | _
    all_goals simp only [consumeBody, Proc.get_bind_apply, Proc.set_bind_apply, hnonce]
    · exact .decrypted rfl hnonce
    · exact .failed rfl rfl
    · exact .failed rfl rfl
  | waitingForStep2 nonce =>
    rcases hdrawn : handleStep2
      ⟨key, protocol, engine, parameterId, entropy, .waitingForStep2 nonce⟩ nonce body with
      drawn | e | _
    all_goals simp only [consumeBody, Proc.get_bind_apply, Proc.set_bind_apply, hdrawn]
    · exact .mapped rfl hdrawn
    · exact .failed rfl rfl
    · exact .failed rfl rfl
  | waitingForStep3 =>
    rcases hagreed : handleStep3
      ⟨key, protocol, engine, parameterId, entropy, .waitingForStep3⟩ body with agreed | e | _
    all_goals simp only [consumeBody, Proc.get_bind_apply, Proc.set_bind_apply, hagreed]
    · exact .agreed rfl hagreed
    · exact .failed rfl rfl
    · exact .failed rfl rfl
  | waitingForStep4 kEnc kMac =>
    rcases hsm : handleStep4
      ⟨key, protocol, engine, parameterId, entropy, .waitingForStep4 kEnc kMac⟩ kEnc kMac body with
      sm | e | _
    all_goals simp only [consumeBody, Proc.get_bind_apply, Proc.set_bind_apply, hsm]
    · exact .authenticated rfl hsm
    · exact .failed rfl rfl
    · exact .failed rfl rfl
  | start => exact .idle rfl
  | readyForStep1 => exact .idle rfl
  | readyForStep2 nonce => exact .idle rfl
  | readyForStep3 => exact .idle rfl
  | readyForStep4 pub kEnc kMac => exact .idle rfl
  | completed slot => exact .idle rfl

/-- A response that is accepted has taken the session a step on. -/
lemma consumed_of_feed {self session : PaceSession P κ} {response : Bytes}
    (h : feedResponse response self = (.ok (), session)) :
    ∃ body, Consumed self body (.ok ()) session := by
  obtain ⟨rapdu, -, h⟩ := Proc.lift_bind_eq_ok.mp h
  split at h
  · simp at h
  · have hconsumed := consumed self rapdu.data
    rw [h] at hconsumed
    exact ⟨rapdu.data, hconsumed⟩

end PaceSession

end Dmrtd
