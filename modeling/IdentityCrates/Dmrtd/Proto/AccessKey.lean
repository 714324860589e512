import IdentityCrates.Dmrtd.Crypto.Kdf
import IdentityCrates.Dmrtd.Lds.MrzFormats
import IdentityCrates.Dmrtd.Proto.Sm

/-!
# Access keys

`access_key.rs`, `dba_key.rs` and `can_key.rs`: what is printed on a document, and the keys that
basic access control and PACE derive from it.  PACE is generic over the kind of key, so `AccessKey`
is a class; `DBAKey` comes from the machine readable zone and `CanKey` from the card access number.
-/

namespace Dmrtd

open Rust Octets

/-- `AccessKey`: the reference tag of a kind of key, and its PACE password key. -/
class AccessKey (κ : Type) where
  paceRefKeyTag : κ → UInt8
  kpi : Primitives → κ → CipherAlgorithm → KeyLength → Outcome String Bytes

/-- `PACE_REF_KEY_TAG_MRZ`. -/
def paceRefKeyTagMrz : UInt8 := 0x01

/-- `PACE_REF_KEY_TAG_CAN`. -/
def paceRefKeyTagCan : UInt8 := 0x02

/-! ## Document basic access key -/

/-- `SEED_LEN_BAC`. -/
def seedLenBac : Nat := 16

/-- `SEED_LEN_PACE`. -/
def seedLenPace : Nat := 20

/-- `DbaKeyError`. -/
inductive DbaKeyError where
  | invalidMrzCharacter (c : Char)
  deriving DecidableEq, Repr

/-- A character of the machine readable zone. -/
def isMrzChar (c : Char) : Bool := c.isDigit || c.isUpper || c == '<'

/-- `is_valid_mrz`. -/
def isValidMrz (s : List Char) : Outcome DbaKeyError Unit :=
  match s.find? fun c => !isMrzChar c with
  | some c => .err (.invalidMrzCharacter c)
  | none => .ok ()

lemma isValidMrz_eq_ok {s : List Char} {u : Unit} (h : isValidMrz s = .ok u) :
    ∀ c ∈ s, isMrzChar c = true := by
  rw [isValidMrz] at h
  split at h
  · simp at h
  · rename_i hnone
    simpa using List.find?_eq_none.mp hnone

/-- `DBAKey`. -/
structure DBAKey where
  mrtdNumber : List Char
  dob : NaiveDate
  doe : NaiveDate
  paceMode : Bool
  mrtdNumber_valid : ∀ c ∈ mrtdNumber, isMrzChar c = true

namespace DBAKey

/-- `DBAKey::new`. -/
def new (mrtdNumber : List Char) (dateOfBirth dateOfExpiry : NaiveDate) (paceMode : Bool) :
    Outcome DbaKeyError DBAKey :=
  match h : isValidMrz mrtdNumber with
  | .ok _ => .ok ⟨mrtdNumber, dateOfBirth, dateOfExpiry, paceMode, isValidMrz_eq_ok h⟩
  | .err e => .err e
  | .panic => .panic

/-- `DBAKey::from_mrz`. -/
def fromMrz (mrz : Mrz) : Outcome DbaKeyError DBAKey :=
  new mrz.docNum mrz.dateOfBirth mrz.dateOfExpiry false

/-- `seed_len`. -/
def seedLen (key : DBAKey) : Nat := if key.paceMode then seedLenPace else seedLenBac

/-- `pad_right`. -/
def padRight (s : List Char) (minLen : Nat) (fill : Char) : List Char :=
  s ++ List.replicate (minLen - s.length) fill

/-- The text that `key_seed` hashes: each field followed by its check digit. -/
def kmrz (key : DBAKey) : List Char :=
  let paddedMrtd := padRight key.mrtdNumber 9 '<'
  let dob := key.dob.formatYymmdd
  let doe := key.doe.formatYymmdd
  let cdn := (Mrz.calculateCheckDigit paddedMrtd).getD 0
  let cdb := (Mrz.calculateCheckDigit dob).getD 0
  let cde := (Mrz.calculateCheckDigit doe).getD 0
  paddedMrtd ++ Nat.toDigits 10 cdn ++ dob ++ Nat.toDigits 10 cdb ++ doe ++ Nat.toDigits 10 cde

variable (P : Primitives)

/-- `key_seed`. -/
def keySeed (key : DBAKey) : Bytes :=
  (P.sha1 (key.kmrz.flatMap String.utf8EncodeChar)).take key.seedLen

/-- `enc_key`. -/
def encKey (key : DBAKey) : Bytes := DeriveKey.desEde P (key.keySeed P) false

/-- `mac_key`. -/
def macKey (key : DBAKey) : Bytes := DeriveKey.iso9797MacAlg3 P (key.keySeed P)

lemma length_encKey (key : DBAKey) : (key.encKey P).length = 16 := DeriveKey.length_desEde P _ _

lemma length_macKey (key : DBAKey) : (key.macKey P).length = 16 :=
  DeriveKey.length_iso9797MacAlg3 P _

instance : AccessKey DBAKey where
  paceRefKeyTag _ := paceRefKeyTagMrz
  kpi P key cipherAlgorithm keyLength :=
    let seed := key.keySeed P
    match cipherAlgorithm, keyLength with
    | .deSede, _ => .ok (DeriveKey.desEde P seed true)
    | .aes, .s128 => .ok (DeriveKey.aes128 P seed true)
    | .aes, .s192 => .ok (DeriveKey.aes192 P seed true)
    | .aes, .s256 => .ok (DeriveKey.aes256 P seed true)

end DBAKey

/-! ## Card access number -/

/-- `CanKeysError`. -/
structure CanKeysError where
  message : String
  deriving DecidableEq, Repr

/-- `CanKey`: the six digits, as characters. -/
structure CanKey where
  can : Bytes
  length_can : can.length = 6

namespace CanKey

/-- `CanKey::new`. -/
def new (canNumber : List Char) : Outcome CanKeysError CanKey :=
  if h : canNumber.length = 6 ∧ canNumber.all Char.isDigit then
    .ok ⟨canNumber.map fun c => UInt8.ofNat c.toNat, by rw [List.length_map, h.1]⟩
  else
    .err ⟨"AccessKey.CanKeys; Code must be exactly 6 digits and only contain numbers"⟩

instance : AccessKey CanKey where
  paceRefKeyTag _ := paceRefKeyTagCan
  kpi P key cipherAlgorithm keyLength :=
    match cipherAlgorithm, keyLength with
    | .deSede, .s128 => .ok (DeriveKey.desEde P key.can true)
    | .deSede, .s192 =>
      .err "AccessKey.CanKeys; 3DES only supports a 128-bit key, got S192"
    | .deSede, .s256 =>
      .err "AccessKey.CanKeys; 3DES only supports a 128-bit key, got S256"
    | .aes, .s128 => .ok (DeriveKey.aes128 P key.can true)
    | .aes, .s192 => .ok (DeriveKey.aes192 P key.can true)
    | .aes, .s256 => .ok (DeriveKey.aes256 P key.can true)

end CanKey

end Dmrtd
