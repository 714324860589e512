import IdentityCrates.Lib.Octets

/-!
# Hashes and signature checks

Authentication rests on hash functions and on signature schemes.  A `SignatureSuite` is what the two
authentication protocols call of them: the digests, the loading of RSA keys, the table of elliptic
curves, and the verdict on a signature.  What is proved above this file holds for every suite.
-/

namespace Dmrtd

open Octets

/-- `HashAlgo`: the hash algorithms an eMRTD may use. -/
inductive HashAlgo where
  | sha1
  | sha224
  | sha256
  | sha384
  | sha512
  deriving DecidableEq, Repr

/-- `from_oid`: from the algorithm's object identifier. -/
def HashAlgo.fromOid : List Nat → Option HashAlgo
  | [1, 3, 14, 3, 2, 26] => some .sha1
  | [2, 16, 840, 1, 101, 3, 4, 2, 4] => some .sha224
  | [2, 16, 840, 1, 101, 3, 4, 2, 1] => some .sha256
  | [2, 16, 840, 1, 101, 3, 4, 2, 2] => some .sha384
  | [2, 16, 840, 1, 101, 3, 4, 2, 3] => some .sha512
  | _ => none

/-- `digest_len`: the digest length in bytes. -/
def HashAlgo.digestLen : HashAlgo → Nat
  | .sha1 => 20
  | .sha224 => 28
  | .sha256 => 32
  | .sha384 => 48
  | .sha512 => 64

/-- `from_iso9796_id`: the hash identifier of ISO/IEC 9796-2. -/
def HashAlgo.fromIso9796Id (id : UInt8) : Option HashAlgo :=
  if id = 0x33 then some .sha1
  else if id = 0x34 then some .sha256
  else if id = 0x35 then some .sha512
  else if id = 0x36 then some .sha384
  else if id = 0x38 then some .sha224
  else none

/-- The hash functions and signature schemes that the authentication paths call. -/
structure SignatureSuite where
  /-- `HashAlgo::digest`. -/
  digest : HashAlgo → Bytes → Bytes
  RsaPublicKey : Type
  /-- `RsaPublicKey::from_pkcs1_der`. -/
  fromPkcs1Der : Bytes → Option RsaPublicKey
  /-- `raw_public`: the RSA public operation, on a signature in range. -/
  rawPublic : RsaPublicKey → Bytes → Option Bytes
  /-- `verify_pss`: the content hash, the mask generation hash, the salt length, the message and the
  signature. -/
  verifyPss : RsaPublicKey → HashAlgo → HashAlgo → Nat → Bytes → Bytes → Bool
  /-- `verify_pkcs1v15`: the hash, the message and the signature. -/
  verifyPkcs1v15 : RsaPublicKey → HashAlgo → Bytes → Bytes → Bool
  Curve : Type
  /-- `Curve::from_params`: the known curve that AlgorithmIdentifier parameters name. -/
  fromParams : Bytes → Option Curve
  /-- `field_len`: bytes in a field element. -/
  fieldLen : Curve → Nat
  /-- `takes_compressed_points`. -/
  takesCompressedPoints : Curve → Bool
  /-- `Curve::verify`: the public point, the hash, the message and the signature. -/
  verifyEc : Curve → Bytes → HashAlgo → Bytes → Bytes → Bool
  P256Key : Type
  /-- `VerifyingKey::from_sec1_bytes` of the P-256 crate. -/
  p256FromSec1 : Bytes → Option P256Key
  P256Signature : Type
  /-- `Signature::from_slice` of the P-256 crate. -/
  p256Signature : Bytes → Option P256Signature
  /-- `verify_prehash`: the key, the digest and the signature. -/
  verifyPrehash : P256Key → Bytes → P256Signature → Bool

end Dmrtd
