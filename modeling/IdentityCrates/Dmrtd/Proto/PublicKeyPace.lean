import IdentityCrates.Lib.Outcome
import IdentityCrates.Dmrtd.Utils

/-!
# PACE public keys

`public_key_pace.rs`: what the two flavours of PACE exchange.  A DH key is the bytes of a number as
the chip sent them or as the terminal wrote them; an ECDH key is a pair of coordinates and their
width, so that coordinates with leading zeros keep their length.
-/

namespace Dmrtd

open Rust Octets

/-- `PublicKeyPaceError`. -/
inductive PublicKeyPaceError where
  | invalidCoordinate (got coordLen : Nat)
  deriving DecidableEq, Repr

/-- `PublicKeyPace`. -/
inductive PublicKeyPace where
  | dh (pubBytes : Bytes)
  | ecdh (x y coordLen : Nat)
  deriving DecidableEq, Repr

namespace PublicKeyPace

/-- `new_ecdh_fixed`. -/
def newEcdhFixed (x y coordLen : Nat) : Outcome PublicKeyPaceError PublicKeyPace :=
  let xLen := (bigUintToBytes x).length
  let yLen := (bigUintToBytes y).length
  if xLen > coordLen then .err (.invalidCoordinate xLen coordLen)
  else if yLen > coordLen then .err (.invalidCoordinate yLen coordLen)
  else .ok (.ecdh x y coordLen)

/-- `ecdh_from_hex`: two coordinates of equal width. -/
def ecdhFromHex (xy : Bytes) : Option PublicKeyPace :=
  if xy.isEmpty ∨ xy.length % 2 ≠ 0 then none
  else
    let half := xy.length / 2
    (newEcdhFixed (ofBE (xy.take half)) (ofBE (xy.drop half)) half).toOption

/-- `pad_be`. -/
def padBe (value len : Nat) : Bytes :=
  let raw := bigUintToBytes value
  if raw.length ≥ len then raw else List.replicate (len - raw.length) 0 ++ raw

/-- `to_bytes`. -/
def toBytes : PublicKeyPace → Bytes
  | .dh pubBytes => pubBytes
  | .ecdh x y coordLen => padBe x coordLen ++ padBe y coordLen

/-- `to_relevant_bytes`. -/
def toRelevantBytes : PublicKeyPace → Bytes
  | .dh pubBytes => pubBytes
  | .ecdh x _ coordLen => padBe x coordLen

/-! ## Fixed width -/

/-- A number that fits is written at the full width. -/
lemma padBe_eq_toBE {value len : Nat} (h : value < 256 ^ len) : padBe value len = toBE len value := by
  have hcount : byteCount value ≤ len := (byteCount_le_iff value len).mpr h
  have hbytes : ofBE (padBe value len) = value := by
    rw [padBe]
    split
    · exact ofBE_bigUintToBytes value
    · rw [ofBE_append, ofBE_replicate_zero, Nat.zero_mul, Nat.zero_add, ofBE_bigUintToBytes]
  have hlen : (padBe value len).length = len := by
    rw [padBe]
    split
    · rename_i hge
      rw [length_bigUintToBytes] at hge ⊢
      omega
    · rw [List.length_append, List.length_replicate, length_bigUintToBytes]
      omega
  refine ofBE_inj (by rw [hlen, length_toBE]) ?_
  rw [hbytes, ofBE_toBE, Nat.mod_eq_of_lt h]

lemma newEcdhFixed_eq_ok {x y coordLen : Nat} {key : PublicKeyPace} :
    newEcdhFixed x y coordLen = .ok key ↔
      x < 256 ^ coordLen ∧ y < 256 ^ coordLen ∧ key = .ecdh x y coordLen := by
  simp only [newEcdhFixed, length_bigUintToBytes, ← byteCount_le_iff]
  by_cases hx : byteCount x ≤ coordLen
  · by_cases hy : byteCount y ≤ coordLen
    · rw [if_neg (by omega), if_neg (by omega), Outcome.ok.injEq]
      simp only [hx, hy, true_and]
      exact eq_comm
    · rw [if_neg (by omega), if_pos (by omega)]
      simp [hy]
  · rw [if_pos (by omega)]
    simp [hx]

end PublicKeyPace

end Dmrtd
