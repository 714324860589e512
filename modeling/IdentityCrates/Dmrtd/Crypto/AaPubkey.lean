import IdentityCrates.Dmrtd.Lds.Tlv

/-!
# The Active Authentication public key

`aa_pubkey.rs`: a `SubjectPublicKeyInfo`, of which the kind of key and the key octets are kept.
-/

namespace Dmrtd

open Rust Octets

/-- `AAPublicKeyType`. -/
inductive AAPublicKeyType where
  | rsa
  | ecc
  deriving DecidableEq, Repr

/-- `AAPublicKeyError`. -/
inductive AAPublicKeyError where
  | invalidSubjectPublicKeyInfoTag (tag : Nat)
  | invalidAlgorithmIdentifierTag (tag : Nat)
  | invalidAlgorithmOidTag (tag : Nat)
  | invalidSubjectPublicKeyTag (tag : UInt8)
  | missingSubjectPublicKey
  | tlv (e : TlvError)
  deriving DecidableEq, Repr

/-- The `Display` text of an `AAPublicKeyError`. -/
def AAPublicKeyError.text : AAPublicKeyError → String
  | .invalidSubjectPublicKeyInfoTag tag =>
    s!"Invalid SubjectPublicKeyInfo tag={upperHex 2 tag}, expected tag=30"
  | .invalidAlgorithmIdentifierTag tag =>
    s!"Invalid AlgorithmIdentifier tag={upperHex 2 tag}, expected tag=30"
  | .invalidAlgorithmOidTag tag =>
    s!"Invalid Algorithm OID object tag={upperHex 2 tag}, expected tag=06"
  | .invalidSubjectPublicKeyTag tag =>
    s!"Invalid SubjectPublicKey object tag={upperHex 2 tag.toNat}, expected tag=03"
  | .missingSubjectPublicKey => "SubjectPublicKey bytes missing from SubjectPublicKeyInfo"
  | .tlv e => s!"TLV decode error: {e.text}"

/-- `AAPublicKey`. -/
structure AAPublicKey where
  encPubKey : Bytes
  keyType : AAPublicKeyType
  subPubKeyBytes : Bytes
  deriving DecidableEq, Repr

namespace AAPublicKey

/-- `RSA_OID_BYTES`. -/
def rsaOidBytes : Bytes := [0x2A, 0x86, 0x48, 0x86, 0xF7, 0x0D, 0x01, 0x01, 0x01]

/-- `TAG_SEQUENCE`. -/
def tagSequence : Nat := 0x30

/-- `TAG_OID`. -/
def tagOid : Nat := 0x06

/-- `TAG_BIT_STRING`. -/
def tagBitString : UInt8 := 0x03

/-- The key octets of the BIT STRING that follows the algorithm, without its unused-bits octet. -/
def subjectPublicKey (bitStringTlv : Bytes) : Outcome AAPublicKeyError Bytes := do
  let first ← Outcome.ofOption .missingSubjectPublicKey bitStringTlv.head?
  if first ≠ tagBitString then .err (.invalidSubjectPublicKeyTag first)
  else do
    let bitString ← (Tlv.decode bitStringTlv).mapErr AAPublicKeyError.tlv
    match bitString.value with
    | [] => .err .missingSubjectPublicKey
    | _ :: key => .ok key

/-- `from_bytes`. -/
def fromBytes (encPubKey : Bytes) : Outcome AAPublicKeyError AAPublicKey := do
  let info ← (Tlv.decode encPubKey).mapErr AAPublicKeyError.tlv
  if info.tag.value ≠ tagSequence then .err (.invalidSubjectPublicKeyInfoTag info.tag.value)
  else do
    let alg ← (Tlv.decode info.value).mapErr AAPublicKeyError.tlv
    if alg.tag.value ≠ tagSequence then .err (.invalidAlgorithmIdentifierTag alg.tag.value)
    else do
      let algOid ← (Tlv.decode alg.value).mapErr AAPublicKeyError.tlv
      if algOid.tag.value ≠ tagOid then .err (.invalidAlgorithmOidTag algOid.tag.value)
      else
        let keyType := if algOid.value = rsaOidBytes then .rsa else .ecc
        if alg.encodedLen > info.value.length then .err .missingSubjectPublicKey
        else do
          let subPubKeyBytes ← subjectPublicKey (info.value.drop alg.encodedLen)
          return { encPubKey, keyType, subPubKeyBytes }

end AAPublicKey

end Dmrtd
