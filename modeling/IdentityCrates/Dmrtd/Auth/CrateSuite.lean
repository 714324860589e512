import IdentityCrates.Dmrtd.Auth.Ecdsa
import IdentityCrates.Dmrtd.Auth.Rsa

/-!
# The suite of the crate

The functions of `rsa.rs` and `ecdsa.rs`, put together as the suite that the authentication paths
call.  What is left open in it is what belongs to other crates: the hash functions, and the curves.
-/

namespace Dmrtd

open Octets Rust

/-- The P-256 crate, as Active Authentication calls it. -/
structure P256Crate where
  VerifyingKey : Type
  /-- `VerifyingKey::from_sec1_bytes`. -/
  fromSec1Bytes : Bytes → Option VerifyingKey
  Signature : Type
  /-- `Signature::from_slice`. -/
  fromSlice : Bytes → Option Signature
  /-- `verify_prehash`. -/
  verifyPrehash : VerifyingKey → Bytes → Signature → Bool

/-- The suite of the crate. -/
def crateSuite (H : Hashes) (C : Ecdsa.CurveCrates) (P : P256Crate) : SignatureSuite where
  digest := H.digest
  RsaPublicKey := RsaPublicKey
  fromPkcs1Der := RsaPublicKey.fromPkcs1Der
  rawPublic := RsaPublicKey.rawPublic
  verifyPss key hash mgfHash saltLen message sig :=
    (key.verifyPss H hash mgfHash saltLen message sig).isOkAnd id
  verifyPkcs1v15 key hash message sig := key.verifyPkcs1v15 H hash message sig
  Curve := Ecdsa.Curve
  fromParams := Ecdsa.Curve.fromParams
  fieldLen := Ecdsa.Curve.fieldLen
  takesCompressedPoints := Ecdsa.Curve.takesCompressedPoints
  verifyEc curve point hash message sig := curve.verify C H point hash message sig
  P256Key := P.VerifyingKey
  p256FromSec1 := P.fromSec1Bytes
  P256Signature := P.Signature
  p256Signature := P.fromSlice
  verifyPrehash := P.verifyPrehash

end Dmrtd
