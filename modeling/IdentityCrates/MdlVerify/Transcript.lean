import IdentityCrates.Lib.Cbor
import IdentityCrates.MdlVerify.Error

/-!
# Session transcripts

`transcript.rs`: the verifier's half of device authentication.  A transcript is kept twice, as a
value and as its encoding, and its two fields are private: whoever builds one encodes the value it
keeps.  `SessionTranscript` carries that as a field.

The CBOR codec (`isomdl::cbor`, over `ciborium`) and SHA-256 are parameters of everything below.
-/

namespace MdlVerify

open Cbor (Value)
open Octets Text

/-- `isomdl::cbor`: the reader of a `ciborium::Value`, the writer of one, and the texts of their
errors. -/
structure Codec where
  fromSlice : Bytes → Except String Value
  toVec : Value → Except String Bytes

/-- Different values have different encodings. -/
def Codec.Injective (codec : Codec) : Prop :=
  ∀ {v w x}, codec.toVec v = .ok x → codec.toVec w = .ok x → v = w

/-- `SessionTranscript`: a value together with its encoding. -/
structure SessionTranscript (codec : Codec) where
  value : Value
  bytes : Bytes
  encodes : codec.toVec value = .ok bytes

variable (codec : Codec) (digest : Bytes → Bytes)

namespace SessionTranscript

/-- Keep a value with its encoding. -/
def encode (value : Value) (error : String → MdlError) : Except MdlError (SessionTranscript codec) :=
  match h : codec.toVec value with
  | .ok bytes => .ok ⟨value, bytes, h⟩
  | .error e => .error (error e)

/-- `SessionTranscript::from_cbor`. -/
def fromCbor (bytes : Bytes) : Except MdlError (SessionTranscript codec) := do
  let value ← (codec.fromSlice bytes).mapError fun e =>
    .unreadable s!"session transcript is not valid CBOR: {e}"
  let transcript ← encode codec value fun e =>
    .unreadable s!"session transcript could not be re-encoded: {e}"
  if transcript.bytes ≠ bytes then .error .nonCanonicalTranscript
  else return transcript

/-- `SessionTranscript::from_parts`. -/
def fromParts (deviceEngagementBytes eReaderKeyBytes : Option Value) (handover : Value) :
    Except MdlError (SessionTranscript codec) :=
  encode codec
    (.array [deviceEngagementBytes.getD .null, eReaderKeyBytes.getD .null, handover])
    fun e => .unreadable s!"session transcript could not be encoded: {e}"

end SessionTranscript

/-- `thumbprint`: an absent thumbprint is a `null`, not an empty byte string. -/
def thumbprint : Option Bytes → Value
  | some bytes => .bytes bytes
  | none => .null

/-- `sha256`: the digest of an encoded value. -/
def sha256 (value : Value) : Except MdlError Bytes := do
  let encoded ← (codec.toVec value).mapError fun e =>
    .unreadable s!"could not encode the handover inputs: {e}"
  return digest encoded

/-- `hash_pair`. -/
def hashPair (value mdocGeneratedNonce : Str) : Except MdlError Bytes :=
  sha256 codec digest (.array [.text value, .text mdocGeneratedNonce])

namespace SessionTranscript

/-- `SessionTranscript::openid4vp_handover`. -/
def openid4vpHandover (clientIdHash responseUriHash : Bytes) (nonce : Str) :
    Except MdlError (SessionTranscript codec) :=
  fromParts codec none none
    (.array [.bytes clientIdHash, .bytes responseUriHash, .text nonce])

/-- `SessionTranscript::openid4vp_dcapi_handover`. -/
def openid4vpDcapiHandover (handoverInfoHash : Bytes) :
    Except MdlError (SessionTranscript codec) :=
  fromParts codec none none
    (.array [.text "OpenID4VPDCAPIHandover".toList, .bytes handoverInfoHash])

/-- `SessionTranscript::openid4vp_iso_18013_7`. -/
def openid4vpIso18013_7 (clientId responseUri nonce mdocGeneratedNonce : Str) :
    Except MdlError (SessionTranscript codec) := do
  openid4vpHandover codec (← hashPair codec digest clientId mdocGeneratedNonce)
    (← hashPair codec digest responseUri mdocGeneratedNonce) nonce

/-- `SessionTranscript::openid4vp_1_0`. -/
def openid4vp1_0 (clientId nonce : Str) (jwkThumbprint : Option Bytes) (responseUri : Str) :
    Except MdlError (SessionTranscript codec) := do
  let info : Value :=
    .array [.text clientId, .text nonce, thumbprint jwkThumbprint, .text responseUri]
  fromParts codec none none
    (.array [.text "OpenID4VPHandover".toList, .bytes (← sha256 codec digest info)])

/-- `SessionTranscript::openid4vp_dcapi`. -/
def openid4vpDcapi (origin nonce : Str) (jwkThumbprint : Option Bytes) :
    Except MdlError (SessionTranscript codec) := do
  let info : Value := .array [.text origin, .text nonce, thumbprint jwkThumbprint]
  openid4vpDcapiHandover codec (← sha256 codec digest info)

variable {codec}

/-- `SessionTranscript::as_bytes`. -/
def asBytes (transcript : SessionTranscript codec) : Bytes := transcript.bytes

/-- `SessionTranscript::as_value`. -/
def asValue (transcript : SessionTranscript codec) : Value := transcript.value

/-- `Serialize for SessionTranscript`: whatever the serializer does with a value, it does with the
value of the transcript. -/
def serialize {ε β : Type} (serializer : Value → Except ε β)
    (transcript : SessionTranscript codec) : Except ε β :=
  serializer transcript.value

variable (codec)

/-- `Deserialize for SessionTranscript`, from the value that the deserializer found. -/
def deserialize {ε : Type} (deserialized : Except ε Value) (custom : String → ε) :
    Except ε (SessionTranscript codec) :=
  match deserialized with
  | .error e => .error e
  | .ok value =>
    match h : codec.toVec value with
    | .ok bytes => .ok ⟨value, bytes, h⟩
    | .error e => .error (custom e)

end SessionTranscript

end MdlVerify
