import IdentityCrates.Lib.Slice
import IdentityCrates.Dmrtd.Auth.SignatureSuite
import IdentityCrates.Dmrtd.Crypto.AaPubkey

/-!
# Active Authentication

`active.rs`: is this chip a clone?  `verify` checks the chip's answer to an eight-byte challenge
against the public key of EF.DG15.  An RSA answer is an ISO/IEC 9796-2 signature with message
recovery: the chip chose `M1` itself, and the digest covers `M1` and the challenge.  An elliptic
curve answer is a plain signature over the hashed challenge.
-/

namespace Dmrtd

open Rust Octets

namespace Active

/-- `ActiveAuthError`. -/
inductive ActiveAuthError where
  | badChallenge (len : Nat)
  | badPublicKey
  | malformedSignature
  | unsupportedCurve
  | unsupportedHash (id : UInt8)
  | failed
  deriving DecidableEq, Repr

/-- `HEADER_PARTIAL_RECOVERY`. -/
def headerPartialRecovery : UInt8 := 0x6A

/-- `TRAILER_IMPLICIT`. -/
def trailerImplicit : UInt8 := 0xBC

/-- `TRAILER_EXPLICIT`. -/
def trailerExplicit : UInt8 := 0xCC

/-- `split_last`: all but the last byte, and the last byte. -/
def splitLast (bytes : Bytes) : Option (Bytes × UInt8) :=
  bytes.getLast?.map fun last => (bytes.dropLast, last)

/-- The hash that the trailer of a recovered block names, and the block without its trailer. -/
def trailerHash (afterHeader : Bytes) : Outcome ActiveAuthError (HashAlgo × Bytes) := do
  let (beforeLast, last) ← Outcome.ofOption .malformedSignature (splitLast afterHeader)
  if last = trailerImplicit then .ok (.sha1, beforeLast)
  else if last = trailerExplicit then do
    let (rest, id) ← Outcome.ofOption .malformedSignature (splitLast beforeLast)
    let hash ← Outcome.ofOption (.unsupportedHash id) (HashAlgo.fromIso9796Id id)
    .ok (hash, rest)
  else .err .failed

variable (S : SignatureSuite)

/-- What `verify_rsa_iso9796` checks of M1 and the digest behind it. -/
def checkDigest (hash : HashAlgo) (body challenge : Bytes) : Outcome ActiveAuthError Unit := do
  let split ← Outcome.ofOption .malformedSignature
    (if hash.digestLen ≤ body.length then some (body.length - hash.digestLen) else none)
  let (m1, h) ← splitAt body split
  if S.digest hash (m1 ++ challenge) = h then .ok () else .err .failed

/-- What `verify_rsa_iso9796` checks of the recovered block: header, M1, digest and trailer. -/
def checkBlock (block challenge : Bytes) : Outcome ActiveAuthError Unit :=
  match block with
  | [] => .err .malformedSignature
  | header :: afterHeader =>
    if header ≠ headerPartialRecovery then .err .failed
    else do
      let (hash, body) ← trailerHash afterHeader
      checkDigest S hash body challenge

/-- `verify_rsa_iso9796`. -/
def verifyRsaIso9796 (spkiKeyBytes challenge signature : Bytes) :
    Outcome ActiveAuthError Unit := do
  let key ← Outcome.ofOption .badPublicKey (S.fromPkcs1Der spkiKeyBytes)
  let block ← Outcome.ofOption .malformedSignature (S.rawPublic key signature)
  checkBlock S block challenge

/-- `verify_ecdsa`, over NIST P-256. -/
def verifyEcdsa (spkiKeyBytes challenge signature : Bytes) : Outcome ActiveAuthError Unit := do
  if spkiKeyBytes.length ≠ 65 ∨ spkiKeyBytes.head? ≠ some 0x04 then .err .unsupportedCurve
  else do
    let key ← Outcome.ofOption .badPublicKey (S.p256FromSec1 spkiKeyBytes)
    let sig ← Outcome.ofOption .malformedSignature (S.p256Signature signature)
    if [HashAlgo.sha256, HashAlgo.sha224].any fun h =>
        S.verifyPrehash key (S.digest h challenge) sig then
      .ok ()
    else .err .failed

/-- `verify`. -/
def verify (key : AAPublicKey) (challenge response : Bytes) : Outcome ActiveAuthError Unit :=
  if challenge.length ≠ 8 then .err (.badChallenge challenge.length)
  else
    match key.keyType with
    | .rsa => verifyRsaIso9796 S key.subPubKeyBytes challenge response
    | .ecc => verifyEcdsa S key.subPubKeyBytes challenge response

end Active

end Dmrtd
