import IdentityCrates.Dmrtd.Lds.Tlv
import IdentityCrates.Dmrtd.Proto.Iso7816
import IdentityCrates.Dmrtd.Proto.Ssc

/-!
# Secure messaging data objects and ciphers

The builders of `sm.rs` for `DO'85'`, `DO'87'`, `DO'8E'`, `DO'97'` and `DO'99'`, and the cipher
interface of `smcipher.rs`.

`SmCipher` is a record because the source boxes it as a trait object: a secure messaging session
holds *some* cipher.  What a correct cipher satisfies is stated apart, as `SmCipher.Lawful`, so
that security statements can quantify over every cipher and only round trips assume the laws.
-/

namespace Dmrtd

open Rust Octets

/-- `SmError`. -/
structure SmError where
  message : String
  deriving DecidableEq, Repr

/-- `CipherAlgorithm`. -/
inductive CipherAlgorithm where
  | deSede
  | aes
  deriving DecidableEq, Repr

namespace Sm

def tagDo85 : Nat := 0x85
def tagDo87 : Nat := 0x87
def tagDo8E : Nat := 0x8E
def tagDo97 : Nat := 0x97
def tagDo99 : Nat := 0x99

/-- `build_do`: empty data gives no data object at all. -/
def buildDo (tag : Nat) (data : Bytes) : Outcome SmError Bytes :=
  if ¬ tag < 256 then .panic
  else if data.isEmpty then .ok []
  else Tlv.encode tag data

/-- `do85`. -/
def do85 (data : Bytes) : Outcome SmError Bytes := buildDo tagDo85 data

/-- `do87`: the data behind a padding-content indicator. -/
def do87 (data : Bytes) (dataIsPadded : Bool) : Outcome SmError Bytes :=
  if data.isEmpty then .ok []
  else buildDo tagDo87 ((if dataIsPadded then 0x01 else 0x02) :: data)

/-- `do8e`. -/
def do8e (mac : Bytes) : Outcome SmError Bytes := buildDo tagDo8E mac

/-- `do97`: 256 and 65536 are written as zeros, smaller values as minimal integers. -/
def do97 (ne : Nat) : Outcome SmError Bytes :=
  if ne = 256 ∨ ne = 65536 then buildDo tagDo97 (List.replicate (if ne = 256 then 1 else 2) 0)
  else buildDo tagDo97 (intToBin ne 0)

/-- `do99`: a status word is always two bytes. -/
def do99 (sw : Nat) : Outcome SmError Bytes := buildDo tagDo99 (intToBin sw 2)

lemma buildDo_nil {tag : Nat} (ht : tag < 256) : buildDo tag [] = .ok [] := by
  simp [buildDo, ht]

lemma buildDo_of_ne_nil {tag : Nat} {data : Bytes} (ht : tag < 256) (hd : data ≠ []) :
    buildDo tag data = Tlv.encode tag data := by
  simp [buildDo, ht, hd]

lemma buildDo_eq_ok {tag : Nat} {data out : Bytes} (ht : tag < 256) (hd : data ≠ []) :
    buildDo tag data = .ok out ↔ (Tlv.encode tag data : Outcome SmError Bytes) = .ok out := by
  rw [buildDo_of_ne_nil ht hd]

lemma buildDo_isOk (tag : Nat) (data : Bytes) (ht : tag < 256) (hd : data.length ≤ 0xFFFFFF) :
    ∃ out, buildDo tag data = .ok out := by
  by_cases hnil : data = []
  · exact ⟨[], by rw [hnil, buildDo_nil ht]⟩
  · rw [buildDo_of_ne_nil ht hnil]
    exact Tlv.encode_isOk hd

end Sm

/-! ## Ciphers -/

/-- `SmCipher`: the primitives of a secure messaging session. -/
structure SmCipher where
  cipherAlgorithm : CipherAlgorithm
  encrypt : Bytes → Option Ssc → Outcome SmError Bytes
  decrypt : Bytes → Option Ssc → Outcome SmError Bytes
  mac : Bytes → Outcome SmError Bytes

/-- The block size that goes with an algorithm. -/
def CipherAlgorithm.blockSize : CipherAlgorithm → Nat
  | .deSede => 8
  | .aes => 16

lemma CipherAlgorithm.blockSize_pos (a : CipherAlgorithm) : 0 < a.blockSize := by
  cases a <;> decide

/-- What a cipher promises under counters of width `bitSize`: on whole blocks encryption keeps the
length and is undone by decryption under the same counter, and the MAC of a non-empty string of
whole blocks is eight bytes. -/
structure SmCipher.Lawful (c : SmCipher) (bitSize : Nat) : Prop where
  encrypt_isOk : ∀ (data : Bytes) (ssc : Ssc), ssc.bitSize = bitSize →
    data.length % c.cipherAlgorithm.blockSize = 0 →
      ∃ edata, c.encrypt data (some ssc) = .ok edata
  length_encrypt : ∀ (data edata : Bytes) (ssc : Ssc), ssc.bitSize = bitSize →
    data.length % c.cipherAlgorithm.blockSize = 0 →
      c.encrypt data (some ssc) = .ok edata → edata.length = data.length
  decrypt_encrypt : ∀ (data edata : Bytes) (ssc : Ssc), ssc.bitSize = bitSize →
    data.length % c.cipherAlgorithm.blockSize = 0 →
      c.encrypt data (some ssc) = .ok edata → c.decrypt edata (some ssc) = .ok data
  mac_isOk : ∀ data : Bytes, data ≠ [] → data.length % c.cipherAlgorithm.blockSize = 0 →
    ∃ cc, c.mac data = .ok cc ∧ cc.length = 8

/-- A cipher that hides nothing: it encrypts by the identity, and its MAC is the first eight bytes
of its input.  It satisfies the laws, which shows that they can be satisfied. -/
def SmCipher.plain : SmCipher where
  cipherAlgorithm := .deSede
  encrypt data _ := .ok data
  decrypt edata _ := .ok edata
  mac data := .ok (data.take 8)

lemma SmCipher.plain_lawful (bitSize : Nat) : SmCipher.plain.Lawful bitSize where
  encrypt_isOk data _ _ _ := ⟨data, rfl⟩
  length_encrypt data edata _ _ _ h := by rw [← Outcome.ok.inj h]
  decrypt_encrypt data edata _ _ _ h := by rw [← Outcome.ok.inj h]; rfl
  mac_isOk data hne hmod := by
    have hpos : 0 < data.length := List.length_pos_iff.mpr hne
    have hmod' : data.length % 8 = 0 := hmod
    exact ⟨_, rfl, by rw [List.length_take]; omega⟩

end Dmrtd
