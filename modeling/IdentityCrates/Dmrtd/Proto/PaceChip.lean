import IdentityCrates.Dmrtd.Proto.Card
import IdentityCrates.Dmrtd.Proto.PaceSession

/-!
# The chip of PACE

The card's side of the handshake, after ICAO 9303-11, section 4.4: it is not part of the source.
The chip holds the password, one protocol and one set of domain parameters, and the same engine of
key agreement as the terminal.  It answers the commands in their order only; an answer that cannot be
given ends the handshake.

Two of its checks have no counterpart at the terminal: the password reference and the domain
parameters must be the chip's own, and the two ephemeral public keys must differ.
-/

namespace Dmrtd

open Rust Octets

/-- How far the handshake is. -/
inductive PaceChipStep where
  | idle
  | selected
  | challenged (nonce : FixedBytes 16)
  | mapped
  | agreed (terminalEphemeralPub : PublicKeyPace) (kEnc kMac : Bytes)

/-- The chip, with the random bytes it will draw. -/
structure PaceChip (P : Primitives) (κ : Type) where
  key : κ
  protocol : OiePaceProtocol
  parameterId : Nat
  engine : PaceEngine P
  entropy : Entropy
  step : PaceChipStep

namespace PaceChip

/-- Authentication failed. -/
def authenticationFailed : StatusWord := ⟨0x63, 0x00⟩

/-- Incorrect parameters in the command data field. -/
def incorrectParameters : StatusWord := ⟨0x6A, 0x80⟩

/-- Conditions of use not satisfied. -/
def conditionsNotSatisfied : StatusWord := ⟨0x69, 0x85⟩

/-! ## Data fields -/

/-- The value of the data object `tag` in the dynamic authentication data of a command. -/
def requestValue (tag : Nat) (body : Bytes) : Outcome PaceSessionError Bytes :=
  (Pace.parseDynamicAuthData [tag] "unexpected data object" body).mapErr .invalidResponse

/-- A value as dynamic authentication data. -/
def dynamicAuthData {ε : Type} (tag : Nat) (value : Bytes) : Outcome ε Bytes := do
  let object ← Tlv.encode tag value
  Tlv.encode Pace.tagDynamicAuthenticationData object

/-- A public key as the terminal sends it. -/
def publicKey (algo : TokenAgreementAlgo) (value : Bytes) :
    Outcome PaceSessionError PublicKeyPace :=
  match algo, value with
  | .ecdh, 0x04 :: xy => Outcome.ofOption (.invalidResponse "no point") (PublicKeyPace.ecdhFromHex xy)
  | .dh, b :: bytes => .ok (.dh (b :: bytes))
  | _, _ => .err (.invalidResponse "no public key")

/-! ## The steps -/

variable {P : Primitives} {κ : Type} [AccessKey κ]

/-- MSE:Set AT. -/
def setAt (body : Bytes) (self : PaceChip P κ) : StatusWord × PaceChip P κ :=
  if (Pace.generateMseSetAtData self.protocol (AccessKey.paceRefKeyTag self.key)
      (some self.parameterId) : Outcome PaceSessionError Bytes) = .ok body then
    (StatusWord.success, { self with step := .selected })
  else (incorrectParameters, { self with step := .idle })

/-- A nonce under the password key. -/
def encryptNonce (nonce : Bytes) (self : PaceChip P κ) : Outcome PaceSessionError Bytes := do
  let kPi ← (AccessKey.kpi P self.key self.protocol.cipherAlgorithm
    self.protocol.keyLength).mapErr fun e => PaceSessionError.pace ⟨e⟩
  match self.protocol.cipherAlgorithm with
  | .aes =>
    ((AesCipher.mk self.protocol.keyLength).encrypt P nonce kPi (some (List.replicate 16 0)) .cbc
      false).mapErr fun e => .pace ⟨e.text⟩
  | .deSede => .err (.unsupportedCipher .deSede)

/-- GENERAL AUTHENTICATE, step 1: give out an encrypted nonce. -/
def giveNonce (body : Bytes) (self : PaceChip P κ) :
    Outcome PaceSessionError (Bytes × PaceChip P κ) :=
  if body ≠ [0x7C, 0x00] then .err (.invalidResponse "unexpected data object")
  else if h : 16 ≤ self.entropy.length then do
    let nonce : FixedBytes 16 := ⟨self.entropy.take 16, by rw [List.length_take]; omega⟩
    let encrypted ← self.encryptNonce nonce
    let answer ← dynamicAuthData Pace.encryptedNonceResponse encrypted
    return (answer, { self with entropy := self.entropy.drop 16, step := .challenged nonce })
  else .err (.pace ⟨"no random bytes"⟩)

/-- GENERAL AUTHENTICATE, step 2: exchange the mapping keys and move the generator. -/
def map (nonce body : Bytes) (self : PaceChip P κ) :
    Outcome PaceSessionError (Bytes × PaceChip P κ) := do
  let value ← requestValue 0x81 body
  let terminalPub ← publicKey self.protocol.tokenAgreementAlgorithm value
  let drawn ← self.engine.generateMainKeyPair self.entropy
  let pub ← drawn.1.mainPubKey
  let mapped ← drawn.1.mapAndGenerateEphemeral terminalPub nonce drawn.2
  let answer ← dynamicAuthData Pace.mappingDataResponse (Pace.publicKeyValue pub)
  return (answer, { self with engine := mapped.1, entropy := mapped.2, step := .mapped })

/-- GENERAL AUTHENTICATE, step 3: exchange the ephemeral keys and derive the session keys. -/
def agree (body : Bytes) (self : PaceChip P κ) :
    Outcome PaceSessionError (Bytes × PaceChip P κ) := do
  let value ← requestValue 0x83 body
  let terminalPub ← publicKey self.protocol.tokenAgreementAlgorithm value
  let pub ← self.engine.ephemeralPubKey
  if terminalPub = pub then .err (.pace ⟨"the ephemeral keys are equal"⟩)
  else do
    let seed ← self.engine.ephemeralSharedSeed terminalPub
    let answer ← dynamicAuthData Pace.ephemeralPublicKeyResponse (Pace.publicKeyValue pub)
    return (answer, { self with
      step := .agreed terminalPub (Pace.calculateEncKey P self.protocol seed)
        (Pace.calculateMacKey P self.protocol seed) })

/-- GENERAL AUTHENTICATE, step 4: exchange the tokens and open the session. -/
def authenticate (terminalPub : PublicKeyPace) (kEnc kMac body : Bytes) (self : PaceChip P κ) :
    Outcome PaceSessionError (Bytes × Chip) := do
  let tIfd ← requestValue 0x85 body
  let pub ← self.engine.ephemeralPubKey
  let expected ← PaceSession.authToken P self.protocol pub kMac
  if tIfd ≠ expected then .err .authTokenMismatch
  else do
    let tIcc ← PaceSession.authToken P self.protocol terminalPub kMac
    let answer ← dynamicAuthData Pace.authenticationTokenResponse tIcc
    let cipher ← (AesSmCipher.new kEnc kMac self.protocol.keyLength).mapErr PaceSessionError.sm
    let ssc ← Ssc.zeroed 128
    return (answer, ⟨cipher.toSmCipher P, ssc⟩)

/-! ## The handshake -/

/-- What is made of a step that goes on. -/
def proceed (self : PaceChip P κ) :
    Outcome PaceSessionError (Bytes × PaceChip P κ) →
      (StatusWord × Bytes) × PaceChip P κ × Option Chip
  | .ok (answer, self') => ((StatusWord.success, answer), self', none)
  | _ => ((authenticationFailed, []), { self with step := .idle }, none)

/-- GENERAL AUTHENTICATE. -/
def generalAuthenticate (body : Bytes) (self : PaceChip P κ) :
    (StatusWord × Bytes) × PaceChip P κ × Option Chip :=
  match self.step with
  | .idle => ((conditionsNotSatisfied, []), self, none)
  | .selected => self.proceed (self.giveNonce body)
  | .challenged nonce => self.proceed (self.map nonce body)
  | .mapped => self.proceed (self.agree body)
  | .agreed terminalPub kEnc kMac =>
    match self.authenticate terminalPub kEnc kMac body with
    | .ok (answer, chip) => ((StatusWord.success, answer), { self with step := .idle }, some chip)
    | _ => ((authenticationFailed, []), { self with step := .idle }, none)

instance : CardHandshake (PaceChip P κ) where
  answer wire self :=
    if wire.ins = Ins.manageSecurityEnvironment then
      let selected := self.setAt wire.body
      some ((selected.1, []), selected.2, none)
    else if wire.ins = Ins.generalAuthenticate then some (self.generalAuthenticate wire.body)
    else none

end PaceChip

end Dmrtd
