import IdentityCrates.Lib.Outcome
import IdentityCrates.Dmrtd.Crypto.Primitives

/-!
# AES

`aes.rs`: the AES cipher in its two modes and the truncated CMAC.  The key length is part of the
cipher, so the dispatch on the length of the key below `validateKey` is on one of the three lengths
that the implementation knows.
-/

namespace Dmrtd

open Rust Octets

/-- `KeyLength`. -/
inductive KeyLength where
  | s128
  | s192
  | s256
  deriving DecidableEq, Repr

/-- `KeyLength::byte_size`. -/
def KeyLength.byteSize : KeyLength → Nat
  | .s128 => 16
  | .s192 => 24
  | .s256 => 32

/-- `BlockCipherMode`. -/
inductive BlockCipherMode where
  | cbc
  | ecb
  deriving DecidableEq, Repr

/-- `AesCipherError`. -/
inductive AesCipherError where
  | invalidKeyLength (size got : Nat)
  | invalidIvLength (n : Nat)
  | missingIv
  | invalidDataLength (n : Nat)
  | cmacKeyError (message : String)
  | invalidBlockSize
  deriving DecidableEq, Repr

/-- The `Display` text of an `AesCipherError`. -/
def AesCipherError.text : AesCipherError → String
  | .invalidKeyLength size got => s!"AES{size * 8} key length must be {size} bytes, got {got}"
  | .invalidIvLength n => s!"AES IV length must be 16 bytes, got {n}"
  | .missingIv => "AES CBC mode requires an explicit IV"
  | .invalidDataLength n => s!"AES data length must be a multiple of 16 bytes, got {n}"
  | .cmacKeyError message => s!"CMAC key is invalid: {message}"
  | .invalidBlockSize => "AES block size must be greater than zero"

/-- `AesCipher`: its key length. -/
structure AesCipher where
  keyLength : KeyLength

namespace AesCipher

/-- `key_size`. -/
def keySize (self : AesCipher) : Nat := self.keyLength.byteSize

/-- `validate_key`. -/
def validateKey (self : AesCipher) (key : Bytes) : Outcome AesCipherError Unit :=
  if key.length ≠ self.keySize then .err (.invalidKeyLength self.keySize key.length) else .ok ()

/-- `resolve_iv`. -/
def resolveIv : Option Bytes → Outcome AesCipherError Bytes
  | some iv => if iv.length ≠ 16 then .err (.invalidIvLength iv.length) else .ok iv
  | none => .err .missingIv

/-- `zero_pad`. -/
def zeroPad (data : Bytes) (blockSize : Nat) : Outcome AesCipherError Bytes :=
  if blockSize = 0 then .err .invalidBlockSize
  else
    let remainder := data.length % blockSize
    if remainder = 0 then .ok data
    else .ok (data ++ List.replicate (blockSize - remainder) 0)

/-- `AesCipher::encrypt`. -/
def encrypt (P : Primitives) (self : AesCipher) (data key : Bytes) (iv : Option Bytes)
    (mode : BlockCipherMode) (padding : Bool) : Outcome AesCipherError Bytes := do
  self.validateKey key
  let input ← if padding then zeroPad data 16 else .ok data
  if input.length % 16 ≠ 0 then .err (.invalidDataLength input.length)
  else
    match mode with
    | .cbc => do
      let ivBytes ← resolveIv iv
      return (P.aes key).cbcEncrypt ivBytes input
    | .ecb => return (P.aes key).ecbEncrypt input

/-- `AesCipher::decrypt`. -/
def decrypt (P : Primitives) (self : AesCipher) (data key : Bytes) (iv : Option Bytes)
    (mode : BlockCipherMode) : Outcome AesCipherError Bytes := do
  self.validateKey key
  if data.length % 16 ≠ 0 then .err (.invalidDataLength data.length)
  else
    match mode with
    | .cbc => do
      let ivBytes ← resolveIv iv
      return (P.aes key).cbcDecrypt ivBytes data
    | .ecb => return (P.aes key).ecbDecrypt data

/-- `calculate_cmac`: the first eight bytes of the CMAC. -/
def calculateCmac (P : Primitives) (self : AesCipher) (data key : Bytes) :
    Outcome AesCipherError Bytes := do
  self.validateKey key
  return (P.cmac key data).take 8

variable (P : Primitives) (self : AesCipher)

/-- CBC encryption of whole blocks under a key of the right length. -/
lemma encrypt_cbc {data key iv : Bytes} (hkey : key.length = self.keySize) (hiv : iv.length = 16)
    (hdata : data.length % 16 = 0) :
    self.encrypt P data key (some iv) .cbc false = .ok ((P.aes key).cbcEncrypt iv data) := by
  simp [encrypt, validateKey, resolveIv, hkey, hiv, hdata]

lemma encrypt_ecb {data key : Bytes} (hkey : key.length = self.keySize)
    (hdata : data.length % 16 = 0) :
    self.encrypt P data key none .ecb false = .ok ((P.aes key).ecbEncrypt data) := by
  simp [encrypt, validateKey, hkey, hdata]

/-- CBC decryption succeeds exactly on whole blocks, none included, under a key and a vector of the
right length. -/
lemma decrypt_cbc_eq_ok {data key iv plain : Bytes} :
    self.decrypt P data key (some iv) .cbc = .ok plain ↔
      key.length = self.keySize ∧ data.length % 16 = 0 ∧ iv.length = 16 ∧
        plain = (P.aes key).cbcDecrypt iv data := by
  by_cases hkey : key.length = self.keySize
  · by_cases hdata : data.length % 16 = 0
    · by_cases hiv : iv.length = 16
      · simp [decrypt, validateKey, resolveIv, hkey, hiv, hdata, eq_comm]
      · simp [decrypt, validateKey, resolveIv, hkey, hiv, hdata]
    · simp [decrypt, validateKey, hkey, hdata]
  · simp [decrypt, validateKey, hkey]

/-- The CMAC of anything is eight bytes, under a key of the right length. -/
lemma calculateCmac_eq_ok {data key mac : Bytes} :
    self.calculateCmac P data key = .ok mac ↔
      key.length = self.keySize ∧ mac = (P.cmac key data).take 8 := by
  by_cases hkey : key.length = self.keySize
  · simp [calculateCmac, validateKey, hkey, eq_comm]
  · simp [calculateCmac, validateKey, hkey]

end AesCipher

end Dmrtd
