import IdentityCrates.Dmrtd.Crypto.Aes

/-!
# Key derivation

`kdf.rs`: session and password keys are prefixes of a digest of the seed and a counter.  The counter
tells encryption, MAC and password keys apart; the two DES kinds have their parity bits set.
-/

namespace Dmrtd

open Octets

/-- `DeriveKeyType`. -/
inductive DeriveKeyType where
  | deSede
  | aes128
  | aes192
  | aes256
  | iso9797MacAlg3
  | cmac128
  | cmac192
  | cmac256
  deriving DecidableEq, Repr

/-- `count_ones`. -/
def countOnes (b : UInt8) : Nat := (List.range 8).countP fun i => b.toNat.testBit i

/-- `adjust_des_parity`: every byte is given an odd number of ones. -/
def adjustDesParity (key : Bytes) : Bytes :=
  key.map fun byte => if countOnes byte % 2 = 0 then byte ^^^ 0x01 else byte

namespace DeriveKey

variable (P : Primitives)

/-- `kdf_sha1`. -/
def kdfSha1 (keySeed : Bytes) (counter : Nat) : Bytes := P.sha1 (keySeed ++ toBE 4 counter)

/-- `kdf_sha256`. -/
def kdfSha256 (keySeed : Bytes) (counter : Nat) : Bytes := P.sha256 (keySeed ++ toBE 4 counter)

/-- The counter of `derive`. -/
def counter (keyType : DeriveKeyType) (paceMode : Bool) : Nat :=
  match keyType with
  | .iso9797MacAlg3 | .cmac128 | .cmac192 | .cmac256 => 2
  | _ => if paceMode then 3 else 1

/-- `derive`. -/
def derive (keyType : DeriveKeyType) (keySeed : Bytes) (paceMode : Bool) : Bytes :=
  let counter := counter keyType paceMode
  match keyType with
  | .deSede | .iso9797MacAlg3 => adjustDesParity ((kdfSha1 P keySeed counter).take 16)
  | .aes128 | .cmac128 => (kdfSha1 P keySeed counter).take 16
  | .aes192 | .cmac192 => (kdfSha256 P keySeed counter).take 24
  | .aes256 | .cmac256 => kdfSha256 P keySeed counter

/-- `des_ede`. -/
def desEde (keySeed : Bytes) (paceMode : Bool) : Bytes := derive P .deSede keySeed paceMode

/-- `iso9797_mac_alg3`. -/
def iso9797MacAlg3 (keySeed : Bytes) : Bytes := derive P .iso9797MacAlg3 keySeed false

/-- `aes128`. -/
def aes128 (keySeed : Bytes) (paceMode : Bool) : Bytes := derive P .aes128 keySeed paceMode

/-- `aes192`. -/
def aes192 (keySeed : Bytes) (paceMode : Bool) : Bytes := derive P .aes192 keySeed paceMode

/-- `aes256`. -/
def aes256 (keySeed : Bytes) (paceMode : Bool) : Bytes := derive P .aes256 keySeed paceMode

/-- `cmac128`. -/
def cmac128 (keySeed : Bytes) : Bytes := derive P .cmac128 keySeed false

/-- `cmac192`. -/
def cmac192 (keySeed : Bytes) : Bytes := derive P .cmac192 keySeed false

/-- `cmac256`. -/
def cmac256 (keySeed : Bytes) : Bytes := derive P .cmac256 keySeed false

/-- The byte length of a derived key. -/
def keyLength : DeriveKeyType → Nat
  | .deSede | .iso9797MacAlg3 | .aes128 | .cmac128 => 16
  | .aes192 | .cmac192 => 24
  | .aes256 | .cmac256 => 32

/-- A derived key has the length of its kind, whatever the seed. -/
@[simp] lemma length_derive (keyType : DeriveKeyType) (keySeed : Bytes) (paceMode : Bool) :
    (derive P keyType keySeed paceMode).length = keyLength keyType := by
  cases keyType <;>
    simp [derive, keyLength, adjustDesParity, kdfSha1, kdfSha256, P.length_sha1, P.length_sha256]

lemma length_desEde (keySeed : Bytes) (paceMode : Bool) :
    (desEde P keySeed paceMode).length = 16 := length_derive P _ _ _

lemma length_iso9797MacAlg3 (keySeed : Bytes) : (iso9797MacAlg3 P keySeed).length = 16 :=
  length_derive P _ _ _

end DeriveKey

end Dmrtd
