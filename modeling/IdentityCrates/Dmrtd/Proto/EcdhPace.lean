import IdentityCrates.Dmrtd.Crypto.Primitives
import IdentityCrates.Dmrtd.Proto.DomainParameter
import IdentityCrates.Dmrtd.Proto.PublicKeyPace

/-!
# The ECDH engine of PACE

`ecdh_pace.rs`.  The source stamps out one engine for each curve with a macro; here there is one
engine over a curve of `Primitives`, and `ECDHPace` pairs it with the curve.  The two arms of the
macro differ only in the interface of the random generator and have one embedding.
-/

namespace Dmrtd

open Rust Octets

/-- `ECDHPaceError`. -/
inductive ECDHPaceError where
  | unknownId (id : Nat)
  | unsupportedCurve (id : Nat)
  | noPublicKey
  | noEphemeralPublicKey
  | infinityPoint
  | infinityAgreement
  | invalidEncoding
  | invalidScalar
  | invalidSeedLen
  | invalidCoordinate (e : PublicKeyPaceError)
  deriving DecidableEq, Repr

/-- `SecretKey`: a non-zero scalar. -/
structure SecretKey (P : Primitives) (c : NamedCurve) where
  scalar : Nat
  scalar_pos : 0 < scalar
  scalar_lt : scalar < (P.curve c).order

/-- `SecretKey::generate`. -/
def SecretKey.generate (P : Primitives) (c : NamedCurve) (entropy : Entropy) :
    Outcome ECDHPaceError (SecretKey P c × Entropy) :=
  match h : P.secretKey c entropy with
  | some (k, rest) =>
    have hrange := P.secretKey_range c entropy k rest h
    .ok (⟨k, hrange.1, hrange.2⟩, rest)
  | none => .panic

namespace CurvePoint

variable (E : CurveGroup)

/-- `to_sec1_bytes`: the uncompressed form. -/
def toSec1Bytes (point : E.Point) : Bytes :=
  0x04 :: (toBE E.coordLen (E.coords point).1 ++ toBE E.coordLen (E.coords point).2)

/-- `PublicKey::from_sec1_bytes`, of the uncompressed form. -/
def fromSec1Bytes (bytes : Bytes) : Option E.Point :=
  match bytes with
  | [] => none
  | tag :: xy =>
    if tag = 0x04 ∧ xy.length = 2 * E.coordLen then
      E.ofCoords (ofBE (xy.take E.coordLen)) (ofBE (xy.drop E.coordLen))
    else none

end CurvePoint

/-- The engine of one curve. -/
structure EcdhEngine (P : Primitives) (c : NamedCurve) where
  privKey : Option (SecretKey P c)
  pubKey : Option (P.curve c).Point
  ephemeralPriv : Option Nat
  ephemeralPub : Option (P.curve c).Point
  ephemeralGenerator : Option (P.curve c).Point

namespace EcdhEngine

variable {P : Primitives} {c : NamedCurve}

/-- `new`. -/
def new : EcdhEngine P c := ⟨none, none, none, none, none⟩

/-- `scalar_from_bytes`. -/
def scalarFromBytes (P : Primitives) (c : NamedCurve) (bytes : Bytes) : Nat :=
  ofBE bytes % (P.curve c).order

variable (self : EcdhEngine P c)

/-- `generate_key_pair`. -/
def generateKeyPair (entropy : Entropy) : Outcome ECDHPaceError (EcdhEngine P c × Entropy) := do
  let sk ← SecretKey.generate P c entropy
  return ({ self with pubKey := some (sk.1.scalar • (P.curve c).generator), privKey := some sk.1 },
    sk.2)

/-- `point_to_pubkey_pace`. -/
def pointToPubkeyPace (point : (P.curve c).Point) : Outcome ECDHPaceError PublicKeyPace :=
  if point = 0 then .err .infinityPoint
  else
    let sec1Bytes := CurvePoint.toSec1Bytes (P.curve c) point
    if sec1Bytes.length ≠ 1 + 2 * c.coordLen ∨ sec1Bytes[0]? ≠ some 0x04 then .err .invalidEncoding
    else
      let xBytes := (sec1Bytes.take (1 + c.coordLen)).drop 1
      let yBytes := sec1Bytes.drop (1 + c.coordLen)
      (PublicKeyPace.newEcdhFixed (ofBE xBytes) (ofBE yBytes) c.coordLen).mapErr .invalidCoordinate

/-- `transform_public`. -/
def transformPublic (P : Primitives) (c : NamedCurve) (pubKey : PublicKeyPace) :
    Outcome ECDHPaceError (P.curve c).Point :=
  match pubKey with
  | .ecdh x y _ =>
    if byteCount x > c.coordLen ∨ byteCount y > c.coordLen then .err .invalidEncoding
    else
      Outcome.ofOption .invalidEncoding (CurvePoint.fromSec1Bytes (P.curve c)
        (0x04 :: (toBE c.coordLen x ++ toBE c.coordLen y)))
  | .dh _ => .err .invalidEncoding

/-- `compute_shared_point`. -/
def computeSharedPoint (other : (P.curve c).Point) : Outcome ECDHPaceError (P.curve c).Point := do
  let sk ← Outcome.ofOption ECDHPaceError.noPublicKey self.privKey
  if other = 0 then .err .infinityPoint
  else
    let shared := sk.scalar • other
    if shared = 0 then .err .infinityAgreement else .ok shared

/-- `get_pub_key`. -/
def getPubKey : Outcome ECDHPaceError PublicKeyPace := do
  let pk ← Outcome.ofOption ECDHPaceError.noPublicKey self.pubKey
  pointToPubkeyPace pk

/-- `get_pub_key_ephemeral`. -/
def getPubKeyEphemeral : Outcome ECDHPaceError PublicKeyPace := do
  let pk ← Outcome.ofOption ECDHPaceError.noEphemeralPublicKey self.ephemeralPub
  pointToPubkeyPace pk

/-- `map_and_generate_ephemeral`: the nonce moves the generator, and the ephemeral pair is drawn
against the moved one. -/
def mapAndGenerateEphemeral (otherPubKey : PublicKeyPace) (nonce : Bytes) (entropy : Entropy) :
    Outcome ECDHPaceError (EcdhEngine P c × Entropy) := do
  let other ← transformPublic P c otherPubKey
  let h ← self.computeSharedPoint other
  let s := scalarFromBytes P c nonce
  let gPrime := s • (P.curve c).generator + h
  let sk ← SecretKey.generate P c entropy
  let scalar := sk.1.scalar
  let pubPoint := scalar • gPrime
  return ({ self with
    ephemeralPriv := some scalar, ephemeralPub := some pubPoint, ephemeralGenerator := some gPrime },
    sk.2)

/-- `get_ephemeral_shared_seed`: the x coordinate of the agreed point. -/
def getEphemeralSharedSeed (otherEphemeralPubKey : PublicKeyPace) : Outcome ECDHPaceError Bytes := do
  let other ← transformPublic P c otherEphemeralPubKey
  let scalar ← Outcome.ofOption ECDHPaceError.noEphemeralPublicKey self.ephemeralPriv
  if other = 0 then .err .infinityPoint
  else
    let shared := scalar • other
    if shared = 0 then .err .infinityAgreement
    else
      let sec1Bytes := CurvePoint.toSec1Bytes (P.curve c) shared
      if sec1Bytes.length ≠ 1 + 2 * c.coordLen ∨ sec1Bytes[0]? ≠ some 0x04 then
        .err .invalidEncoding
      else .ok ((sec1Bytes.take (1 + c.coordLen)).drop 1)

end EcdhEngine

/-- `ECDHPace`: an engine and its curve. -/
structure ECDHPace (P : Primitives) where
  curve : NamedCurve
  engine : EcdhEngine P curve

/-- The curve of a domain parameter id. -/
def NamedCurve.ofId : Nat → Option NamedCurve
  | 10 => some .nistP224
  | 12 => some .nistP256
  | 13 => some .brainpoolP256r1
  | 15 => some .nistP384
  | 16 => some .brainpoolP384r1
  | 18 => some .nistP521
  | _ => none

/-- `ECDHPace::new`. -/
def ECDHPace.new (P : Primitives) (id : Nat) : Outcome ECDHPaceError (ECDHPace P) :=
  if (DomainParameter.get id).isNone then .err (.unknownId id)
  else
    match NamedCurve.ofId id with
    | some curve => .ok ⟨curve, EcdhEngine.new⟩
    | none => .err (.unsupportedCurve id)

/-! ## Points and their encodings -/

namespace EcdhEngine

variable {P : Primitives} {c : NamedCurve}

lemma length_toSec1Bytes (point : (P.curve c).Point) :
    (CurvePoint.toSec1Bytes (P.curve c) point).length = 1 + 2 * c.coordLen := by
  simp only [CurvePoint.toSec1Bytes, List.length_cons, List.length_append, length_toBE,
    P.curve_coordLen c]
  omega

/-- The bytes of a point, taken apart as the engine does. -/
lemma sec1Bytes_split (point : (P.curve c).Point) :
    ((CurvePoint.toSec1Bytes (P.curve c) point).take (1 + c.coordLen)).drop 1 =
        toBE c.coordLen ((P.curve c).coords point).1 ∧
      (CurvePoint.toSec1Bytes (P.curve c) point).drop (1 + c.coordLen) =
        toBE c.coordLen ((P.curve c).coords point).2 := by
  rw [CurvePoint.toSec1Bytes, P.curve_coordLen c, Nat.add_comm, List.take_succ_cons, List.drop_one,
    List.tail_cons, List.drop_succ_cons]
  exact ⟨take_append_of_length (length_toBE _ _), drop_append_of_length (length_toBE _ _)⟩

/-- Every point but the identity has an encoding: its coordinates at the width of the curve. -/
lemma pointToPubkeyPace_of_ne_zero {point : (P.curve c).Point} (h : point ≠ 0) :
    pointToPubkeyPace point = .ok (.ecdh ((P.curve c).coords point).1
      ((P.curve c).coords point).2 c.coordLen) := by
  obtain ⟨hx, hy⟩ := (P.curve c).coords_lt point h
  rw [P.curve_coordLen c] at hx hy
  obtain ⟨hxb, hyb⟩ := sec1Bytes_split point
  have hguard : ¬ ((CurvePoint.toSec1Bytes (P.curve c) point).length ≠ 1 + 2 * c.coordLen ∨
      (CurvePoint.toSec1Bytes (P.curve c) point)[0]? ≠ some 0x04) := by
    rintro (hlen | hhead)
    · exact hlen (length_toSec1Bytes point)
    · exact hhead rfl
  simp only [pointToPubkeyPace, if_neg h, if_neg hguard, hxb, hyb, ofBE_toBE, Nat.mod_eq_of_lt hx,
    Nat.mod_eq_of_lt hy]
  exact Outcome.mapErr_eq_ok.mpr (PublicKeyPace.newEcdhFixed_eq_ok.mpr ⟨hx, hy, rfl⟩)

lemma pointToPubkeyPace_eq_ok {point : (P.curve c).Point} {key : PublicKeyPace} :
    pointToPubkeyPace point = .ok key ↔ point ≠ 0 ∧
      key = .ecdh ((P.curve c).coords point).1 ((P.curve c).coords point).2 c.coordLen := by
  by_cases h : point = 0
  · simp [pointToPubkeyPace, h]
  · rw [pointToPubkeyPace_of_ne_zero h, Outcome.ok.injEq]
    simp only [ne_eq, h, not_false_eq_true, true_and]
    exact eq_comm

/-- The engine reads a key exactly as a point with those coordinates, never as the identity. -/
lemma transformPublic_eq_ok {key : PublicKeyPace} {point : (P.curve c).Point} :
    transformPublic P c key = .ok point ↔
      ∃ len, key = .ecdh ((P.curve c).coords point).1 ((P.curve c).coords point).2 len ∧
        point ≠ 0 := by
  cases key with
  | dh pubBytes => simp [transformPublic]
  | ecdh x y len =>
    have hread : ∀ (hx : x < 256 ^ c.coordLen) (hy : y < 256 ^ c.coordLen),
        CurvePoint.fromSec1Bytes (P.curve c) (0x04 :: (toBE c.coordLen x ++ toBE c.coordLen y)) =
          (P.curve c).ofCoords x y := by
      intro hx hy
      have hlen : (toBE c.coordLen x ++ toBE c.coordLen y).length = 2 * (P.curve c).coordLen := by
        rw [List.length_append, length_toBE, length_toBE, P.curve_coordLen c]
        omega
      simp only [CurvePoint.fromSec1Bytes, hlen, and_self, if_true, P.curve_coordLen c,
        take_append_of_length (length_toBE c.coordLen x),
        drop_append_of_length (length_toBE c.coordLen x), ofBE_toBE, Nat.mod_eq_of_lt hx,
        Nat.mod_eq_of_lt hy]
    simp only [transformPublic, PublicKeyPace.ecdh.injEq]
    by_cases hfit : byteCount x > c.coordLen ∨ byteCount y > c.coordLen
    · rw [if_pos hfit]
      simp only [reduceCtorEq, false_iff]
      rintro ⟨_, ⟨rfl, rfl, -⟩, hpoint⟩
      obtain ⟨hx, hy⟩ := (P.curve c).coords_lt point hpoint
      rw [P.curve_coordLen c, ← byteCount_le_iff] at hx hy
      omega
    · have hx : x < 256 ^ c.coordLen := (byteCount_le_iff x _).mp (by omega)
      have hy : y < 256 ^ c.coordLen := (byteCount_le_iff y _).mp (by omega)
      rw [if_neg hfit, hread hx hy, Outcome.ofOption_eq_ok, (P.curve c).ofCoords_eq_some]
      constructor
      · rintro ⟨hpoint, hcoords⟩
        rw [hcoords]
        exact ⟨len, ⟨rfl, rfl, rfl⟩, hpoint⟩
      · rintro ⟨_, ⟨hxe, hye, -⟩, hpoint⟩
        exact ⟨hpoint, Prod.ext hxe.symm hye.symm⟩

end EcdhEngine

end Dmrtd
