import IdentityCrates.Dmrtd.Crypto.Des
import IdentityCrates.Dmrtd.Lds.ObjectIdentifiers
import IdentityCrates.Dmrtd.Proto.AccessKey
import IdentityCrates.Dmrtd.Proto.PublicKeyPace

/-!
# PACE: the stateless part

`pace.rs`: what is read from the chip's responses, what is written into the terminal's commands, and
the computations on keys, tokens and nonces between them.

The three response parsers open the same two layers of BER-TLV and differ in the inner tag they
insist on and in what they do with the value, so they share `parseDynamicAuthData`.
-/

namespace Dmrtd

open Rust Octets

/-- `PaceError`. -/
structure PaceError where
  message : String
  deriving DecidableEq, Repr

/-- `Step1Error`. -/
structure Step1Error where
  message : String
  deriving DecidableEq, Repr

/-- `Step2Or3Error`. -/
structure Step2Or3Error where
  message : String
  deriving DecidableEq, Repr

/-- `Step4Error`. -/
structure Step4Error where
  message : String
  deriving DecidableEq, Repr

namespace Pace

/-- `ENCRYPTED_NONCE_RESPONSE`. -/
def encryptedNonceResponse : Nat := 0x80

/-- `MAPPING_DATA_RESPONSE`. -/
def mappingDataResponse : Nat := 0x82

/-- `EPHEMERAL_PUBLIC_KEY_RESPONSE`. -/
def ephemeralPublicKeyResponse : Nat := 0x84

/-- `AUTHENTICATION_TOKEN_RESPONSE`. -/
def authenticationTokenResponse : Nat := 0x86

/-- `TAG_DYNAMIC_AUTHENTICATION_DATA`. -/
def tagDynamicAuthenticationData : Nat := 0x7C

/-! ## Response parsers -/

/-- The two layers around the value of every response: dynamic authentication data, and in it a data
object with one of the tags `admitted`; `absent` is what to say when it has another tag. -/
def parseDynamicAuthData (admitted : List Nat) (absent : String) (data : Bytes) :
    Outcome String Bytes := do
  let dynData ← (Tlv.fromBytes data).mapErr fun e => s!"Invalid TLV: {e.text}"
  if dynData.tag ≠ tagDynamicAuthenticationData then
    .err "Response data does not contain dynamic authentication data"
  else do
    let inner ← (Tlv.fromBytes dynData.value).mapErr fun e => s!"Invalid inner TLV: {e.text}"
    if inner.tag ∉ admitted then .err absent else .ok inner.value

/-- `parse_step1_response`: the encrypted nonce, of any length. -/
def parseStep1Response (data : Bytes) : Outcome Step1Error Bytes :=
  (parseDynamicAuthData [encryptedNonceResponse]
    "Dynamic authentication data does not contain encrypted nonce" data).mapErr Step1Error.mk

/-- `parse_step2_or_3_response`: the chip's mapping key or its ephemeral key. -/
def parseStep2Or3Response (data : Bytes) (algo : TokenAgreementAlgo) :
    Outcome Step2Or3Error PublicKeyPace := do
  let value ← (parseDynamicAuthData [mappingDataResponse, ephemeralPublicKeyResponse]
    "Dynamic authentication data does not contain mapping data" data).mapErr Step2Or3Error.mk
  match value, algo with
  | [], _ => .err ⟨"Mapping data is empty"⟩
  | first :: xy, .ecdh =>
    if first ≠ 0x04 then .err ⟨"Token agreement is ECDH, but first byte is not 0x04"⟩
    else
      Outcome.ofOption ⟨"Mapping data contains EC public key with odd length (no X/Y split)"⟩
        (PublicKeyPace.ecdhFromHex xy)
  | first :: rest, .dh => .ok (.dh (first :: rest))

/-- `parse_step4_response`: the chip's authentication token. -/
def parseStep4Response (data : Bytes) : Outcome Step4Error Bytes := do
  let value ← (parseDynamicAuthData [authenticationTokenResponse]
    "Dynamic authentication data does not contain authentication token" data).mapErr Step4Error.mk
  if value.isEmpty then .err ⟨"Authentication token is empty"⟩ else .ok value

/-! ## Data generators -/

section

variable {ε : Type}

/-- `oid_body_bytes`: the arcs from the second on, each cut to a byte. -/
def oidBodyBytes (oie : Oie) : Bytes := oie.identifier.tail.map UInt8.ofNat

/-- A public key as the value of a data object. -/
def publicKeyValue : PublicKeyPace → Bytes
  | .ecdh x y coordLen => 0x04 :: (PublicKeyPace.ecdh x y coordLen).toBytes
  | .dh pubBytes => pubBytes

/-- `generate_encoding_input_data`: what the authentication tokens are computed over. -/
def generateEncodingInputData (mechanism : OiePaceProtocol) (ephemeralPublic : PublicKeyPace) :
    Outcome ε Bytes := do
  let oidTlv ← Tlv.encode 0x06 (oidBodyBytes mechanism.oie)
  let pubTag := match ephemeralPublic with
    | .ecdh .. => 0x86
    | .dh _ => 0x84
  let pubTlv ← Tlv.encode pubTag (publicKeyValue ephemeralPublic)
  Tlv.encode 0x7F49 (oidTlv ++ pubTlv)

/-- `generate_mse_set_at_data`: mechanism, password reference and domain parameters. -/
def generateMseSetAtData (mechanism : OiePaceProtocol) (paceRefType : UInt8)
    (parameterId : Option Nat) : Outcome ε Bytes := do
  let cm ← Tlv.encode 0x80 (oidBodyBytes mechanism.oie)
  let drp ← Tlv.encode 0x83 (intToBin paceRefType.toNat 1)
  let id ← (match parameterId with
    | some id => Tlv.encode 0x84 (intToBin id 1)
    | none => .ok [] : Outcome ε Bytes)
  return cm ++ drp ++ id

/-- `generate_general_authenticate_data_step1`. -/
def generateGeneralAuthenticateDataStep1 : Outcome ε Bytes := Tlv.encode 0x7C []

/-- `generate_general_authenticate_data_step2_or_3`. -/
def generateGeneralAuthenticateDataStep2Or3 (pub : PublicKeyPace) (isEphemeral : Bool) :
    Outcome ε Bytes := do
  let mappingTlv ← Tlv.encode (if isEphemeral then 0x83 else 0x81) (publicKeyValue pub)
  Tlv.encode 0x7C mappingTlv

/-- `generate_general_authenticate_data_step4`. -/
def generateGeneralAuthenticateDataStep4 (authToken : Bytes) : Outcome ε Bytes := do
  let authTlv ← Tlv.encode 0x85 authToken
  Tlv.encode 0x7C authTlv

end

/-! ## Keys, tokens and nonces -/

section

variable (P : Primitives)

/-- `calculate_enc_key`. -/
def calculateEncKey (protocol : OiePaceProtocol) (seed : Bytes) : Bytes :=
  match protocol.cipherAlgorithm, protocol.keyLength with
  | .aes, .s128 => DeriveKey.aes128 P seed false
  | .aes, .s192 => DeriveKey.aes192 P seed false
  | .aes, .s256 => DeriveKey.aes256 P seed false
  | .deSede, _ => DeriveKey.desEde P seed false

/-- `calculate_mac_key`. -/
def calculateMacKey (protocol : OiePaceProtocol) (seed : Bytes) : Bytes :=
  match protocol.cipherAlgorithm, protocol.keyLength with
  | .aes, .s128 => DeriveKey.cmac128 P seed
  | .aes, .s192 => DeriveKey.cmac192 P seed
  | .aes, .s256 => DeriveKey.cmac256 P seed
  | .deSede, _ => DeriveKey.iso9797MacAlg3 P seed

/-- `calculate_auth_token`. -/
def calculateAuthToken (protocol : OiePaceProtocol) (inputData macKey : Bytes) :
    Outcome PaceError Bytes :=
  match protocol.cipherAlgorithm with
  | .aes => ((AesCipher.mk protocol.keyLength).calculateCmac P inputData macKey).mapErr fun e =>
    ⟨s!"AES-CMAC failed: {e.text}"⟩
  | .deSede => (Iso9797.macAlg3 P macKey inputData true).mapErr fun e =>
    ⟨s!"ISO 9797-1 MAC alg 3 failed: {e.text}"⟩

/-- `decrypt_nonce`: under the password key and a zero initialisation vector. -/
def decryptNonce {κ : Type} [AccessKey κ] (protocol : OiePaceProtocol) (nonce : Bytes)
    (accessKey : κ) : Outcome PaceError Bytes := do
  let kPi ← (AccessKey.kpi P accessKey protocol.cipherAlgorithm protocol.keyLength).mapErr
    PaceError.mk
  match protocol.cipherAlgorithm with
  | .aes =>
    ((AesCipher.mk protocol.keyLength).decrypt P nonce kPi (some (List.replicate 16 0))
      .cbc).mapErr fun e => ⟨s!"AES decrypt failed: {e.text}"⟩
  | .deSede => do
    let cipher ← (DesedeCipher.new kPi (List.replicate 8 0)).mapErr fun e =>
      PaceError.mk s!"3DES init failed: {e.text}"
    (cipher.decrypt P nonce false).mapErr fun e => ⟨s!"3DES decrypt failed: {e.text}"⟩

end

/-! ## Lengths -/

variable (P : Primitives)

lemma length_calculateEncKey {protocol : OiePaceProtocol} (h : protocol.cipherAlgorithm = .aes)
    (seed : Bytes) :
    (calculateEncKey P protocol seed).length = protocol.keyLength.byteSize := by
  rw [calculateEncKey, h]
  cases protocol.keyLength <;> exact DeriveKey.length_derive P _ _ _

lemma length_calculateMacKey {protocol : OiePaceProtocol} (h : protocol.cipherAlgorithm = .aes)
    (seed : Bytes) :
    (calculateMacKey P protocol seed).length = protocol.keyLength.byteSize := by
  rw [calculateMacKey, h]
  cases protocol.keyLength <;> exact DeriveKey.length_derive P _ _ _

/-- An AES token is the CMAC of its input, cut to eight bytes. -/
lemma calculateAuthToken_aes {protocol : OiePaceProtocol} (h : protocol.cipherAlgorithm = .aes)
    {kMac : Bytes} (hkey : kMac.length = protocol.keyLength.byteSize) (inputData : Bytes) :
    calculateAuthToken P protocol inputData kMac = .ok ((P.cmac kMac inputData).take 8) := by
  rw [calculateAuthToken, h]
  exact Outcome.mapErr_eq_ok.mpr
    (((AesCipher.mk protocol.keyLength).calculateCmac_eq_ok P).mpr ⟨hkey, rfl⟩)

/-- A fixed-width key is written as a point prefix and two coordinates. -/
lemma length_publicKeyValue_ecdh {x y coordLen : Nat} (hx : x < 256 ^ coordLen)
    (hy : y < 256 ^ coordLen) :
    (publicKeyValue (.ecdh x y coordLen)).length = 1 + 2 * coordLen := by
  simp only [publicKeyValue, PublicKeyPace.toBytes, PublicKeyPace.padBe_eq_toBE hx,
    PublicKeyPace.padBe_eq_toBE hy, List.length_cons, List.length_append, length_toBE]
  omega

end Pace

end Dmrtd
