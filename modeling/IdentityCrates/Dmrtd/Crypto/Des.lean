import IdentityCrates.Dmrtd.Crypto.Iso9797

/-!
# Triple DES

`des.rs`: the CBC cipher of basic access control and of 3DES secure messaging.  A `DesedeCipher`
carries the lengths that its constructor checks, so that the block cipher below it is only ever
called with a key and an initialisation vector it accepts.
-/

namespace Dmrtd

open Rust Octets

/-- `DesError`. -/
inductive DesError where
  | invalidKeyLength (n : Nat)
  | invalidDesedeKeyLength (n : Nat)
  | invalidIvLength (n : Nat)
  | invalidDataLength (n : Nat)
  | invalidBlockLength (n : Nat)
  | iso9797 (e : Iso9797Error)
  deriving DecidableEq, Repr

/-- The `Display` text of a `DesError`. -/
def DesError.text : DesError → String
  | .invalidKeyLength n => s!"DES key length must be 8 bytes, got {n}"
  | .invalidDesedeKeyLength n => s!"DESede key length must be 16 or 24 bytes, got {n}"
  | .invalidIvLength n => s!"DES IV length must be 8 bytes, got {n}"
  | .invalidDataLength n => s!"DES data length must be a multiple of 8 bytes, got {n}"
  | .invalidBlockLength n => s!"DES block length must be exactly 8 bytes, got {n}"
  | .iso9797 e => e.text

/-- `TripleDesKey`: three 8-byte keys. -/
structure TripleDesKey where
  bytes : Bytes
  length_bytes : bytes.length = 24

/-- `TripleDesKey::from_slice`: a 16-byte key repeats its first half. -/
def TripleDesKey.fromSlice (key : Bytes) : Outcome DesError TripleDesKey :=
  if h16 : key.length = 16 then
    .ok ⟨key.take 8 ++ (key.drop 8).take 8 ++ key.take 8, by
      simp only [List.length_append, List.length_take, List.length_drop]
      omega⟩
  else if h24 : key.length = 24 then .ok ⟨key, h24⟩
  else .err (.invalidDesedeKeyLength key.length)

/-- `DesedeCipher`. -/
structure DesedeCipher where
  tripleKey : TripleDesKey
  iv : Bytes
  length_iv : iv.length = 8

namespace DesedeCipher

/-- `DesedeCipher::new`. -/
def new (key iv : Bytes) : Outcome DesError DesedeCipher :=
  if h : iv.length = 8 then do
    let tripleKey ← TripleDesKey.fromSlice key
    return ⟨tripleKey, iv, h⟩
  else .err (.invalidIvLength iv.length)

/-- `DesedeCipher::encrypt`. -/
def encrypt (P : Primitives) (self : DesedeCipher) (data : Bytes) (padData : Bool) :
    Outcome DesError Bytes := do
  let input ← if padData then (Iso9797.pad data 8).mapErr .iso9797 else .ok data
  if input.length % 8 ≠ 0 then .err (.invalidDataLength input.length)
  else .ok ((P.tdes self.tripleKey.bytes).cbcEncrypt self.iv input)

/-- `DesedeCipher::decrypt`. -/
def decrypt (P : Primitives) (self : DesedeCipher) (edata : Bytes) (paddedData : Bool) :
    Outcome DesError Bytes :=
  if edata.length % 8 ≠ 0 then .err (.invalidDataLength edata.length)
  else
    let plain := (P.tdes self.tripleKey.bytes).cbcDecrypt self.iv edata
    if paddedData then (Iso9797.unpad plain 8).mapErr .iso9797 else .ok plain

lemma new_isOk {key iv : Bytes} (hkey : key.length = 16 ∨ key.length = 24) (hiv : iv.length = 8) :
    ∃ cipher, new key iv = .ok cipher := by
  rw [new, dif_pos hiv]
  rcases hkey with h | h
  · rw [TripleDesKey.fromSlice, dif_pos h]
    exact ⟨_, rfl⟩
  · rw [TripleDesKey.fromSlice, dif_neg (by omega), dif_pos h]
    exact ⟨_, rfl⟩

variable (P : Primitives) (self : DesedeCipher)

/-- Without padding, whole blocks are encrypted to as many bytes. -/
lemma encrypt_aligned {data : Bytes} (h : data.length % 8 = 0) :
    self.encrypt P data false = .ok ((P.tdes self.tripleKey.bytes).cbcEncrypt self.iv data) := by
  simp [encrypt, h]

lemma decrypt_aligned {edata : Bytes} (h : edata.length % 8 = 0) :
    self.decrypt P edata false = .ok ((P.tdes self.tripleKey.bytes).cbcDecrypt self.iv edata) := by
  simp [decrypt, h]

lemma encrypt_isOk {data : Bytes} (h : data.length % 8 = 0) :
    ∃ edata, self.encrypt P data false = .ok edata ∧ edata.length = data.length :=
  ⟨_, self.encrypt_aligned P h, (P.tdes _).length_cbcEncrypt self.length_iv h⟩

lemma decrypt_isOk {edata : Bytes} (h : edata.length % 8 = 0) :
    ∃ data, self.decrypt P edata false = .ok data ∧ data.length = edata.length :=
  ⟨_, self.decrypt_aligned P h, (P.tdes _).length_cbcDecrypt self.length_iv h⟩

/-- Decryption undoes encryption on whole blocks. -/
theorem decrypt_encrypt {data edata : Bytes} (h : data.length % 8 = 0)
    (henc : self.encrypt P data false = .ok edata) : self.decrypt P edata false = .ok data := by
  rw [self.encrypt_aligned P h, Outcome.ok.injEq] at henc
  have hlen := (P.tdes self.tripleKey.bytes).length_cbcEncrypt self.length_iv h
  rw [henc] at hlen
  rw [self.decrypt_aligned P (by rw [hlen]; exact h), ← henc,
    (P.tdes self.tripleKey.bytes).cbcDecrypt_cbcEncrypt self.length_iv h]

end DesedeCipher

end Dmrtd
