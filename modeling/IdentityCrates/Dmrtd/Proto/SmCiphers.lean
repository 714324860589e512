import IdentityCrates.Dmrtd.Crypto.Des
import IdentityCrates.Dmrtd.Crypto.Kdf
import IdentityCrates.Dmrtd.Proto.Sm

/-!
# The two secure messaging ciphers

`des_smcipher.rs` and `aes_smcipher.rs`: the ciphers that basic access control and PACE leave
behind.  Each keeps in its type the key lengths that its constructor checks, becomes an `SmCipher`
for any implementation of the primitives, and obeys the cipher laws (`DesSmCipher.lawful`,
`AesSmCipher.lawful`).  What is proved of secure messaging under lawful ciphers therefore holds of
both.
-/

namespace Dmrtd

open Rust Octets

/-! ## 3DES -/

/-- `DesSmCipher`: the encryption cipher is built once, with a zero initialisation vector. -/
structure DesSmCipher where
  macKey : Bytes
  encCipher : DesedeCipher
  length_macKey : macKey.length = 16 ∨ macKey.length = 24

namespace DesSmCipher

/-- `DesSmCipher::new`. -/
def new (encKey macKey : Bytes) : Outcome DesError DesSmCipher :=
  if h : macKey.length = 16 ∨ macKey.length = 24 then do
    let encCipher ← DesedeCipher.new encKey (List.replicate 8 0)
    return ⟨macKey, encCipher, h⟩
  else .err (.invalidDesedeKeyLength macKey.length)

/-- The `SmCipher` implementation. -/
def toSmCipher (P : Primitives) (self : DesSmCipher) : SmCipher where
  cipherAlgorithm := .deSede
  encrypt data _ := (self.encCipher.encrypt P data false).mapErr fun e => ⟨s!"DES encrypt: {e.text}"⟩
  decrypt edata _ :=
    (self.encCipher.decrypt P edata false).mapErr fun e => ⟨s!"DES decrypt: {e.text}"⟩
  mac data :=
    (Iso9797.macAlg3 P self.macKey data false).mapErr fun e => ⟨s!"ISO 9797-1 MAC alg 3: {e.text}"⟩

lemma new_isOk {encKey macKey : Bytes} (henc : encKey.length = 16 ∨ encKey.length = 24)
    (hmac : macKey.length = 16 ∨ macKey.length = 24) :
    ∃ cipher, new encKey macKey = .ok cipher := by
  obtain ⟨encCipher, h⟩ := DesedeCipher.new_isOk henc (List.length_replicate (n := 8) (a := 0))
  rw [new, dif_pos hmac, h]
  exact ⟨_, rfl⟩

/-- The 3DES cipher ignores the counter, so it is lawful under counters of any width. -/
theorem lawful (P : Primitives) (self : DesSmCipher) (bitSize : Nat) :
    (self.toSmCipher P).Lawful bitSize where
  encrypt_isOk data _ _ hdata := by
    obtain ⟨edata, h, -⟩ := self.encCipher.encrypt_isOk P hdata
    exact ⟨edata, Outcome.mapErr_eq_ok.mpr h⟩
  length_encrypt data edata _ _ hdata h := by
    obtain ⟨edata', h', hlen⟩ := self.encCipher.encrypt_isOk P hdata
    obtain rfl := Outcome.ok.inj (h'.symm.trans (Outcome.mapErr_eq_ok.mp h))
    exact hlen
  decrypt_encrypt data edata _ _ hdata h :=
    Outcome.mapErr_eq_ok.mpr
      (self.encCipher.decrypt_encrypt P hdata (Outcome.mapErr_eq_ok.mp h))
  mac_isOk data hne hdata := by
    obtain ⟨cc, h, hlen⟩ := Iso9797.macAlg3_isOk P self.length_macKey hne hdata
    exact ⟨cc, Outcome.mapErr_eq_ok.mpr h, hlen⟩

end DesSmCipher

/-! ## AES -/

/-- `AesSmCipher`. -/
structure AesSmCipher where
  ksEnc : Bytes
  ksMac : Bytes
  cipher : AesCipher
  length_ksEnc : ksEnc.length = cipher.keySize
  length_ksMac : ksMac.length = cipher.keySize

namespace AesSmCipher

/-- `AesSmCipher::new`. -/
def new (ksEnc ksMac : Bytes) (size : KeyLength) : Outcome SmError AesSmCipher :=
  let expected := size.byteSize
  if henc : ksEnc.length = expected then
    if hmac : ksMac.length = expected then .ok ⟨ksEnc, ksMac, ⟨size⟩, henc, hmac⟩
    else .err ⟨s!"AES SM K_mac length {ksMac.length} != expected {expected}"⟩
  else .err ⟨s!"AES SM K_enc length {ksEnc.length} != expected {expected}"⟩

/-- `iv_from_ssc`: the counter, encrypted as one block. -/
def ivFromSsc (P : Primitives) (self : AesSmCipher) (ssc : Ssc) : Outcome SmError Bytes :=
  if ssc.bitSize ≠ 128 then .err ⟨s!"AES SM requires a 128-bit SSC, got {ssc.bitSize}"⟩
  else (self.cipher.encrypt P ssc.toBytes self.ksEnc none .ecb false).mapErr fun e =>
    ⟨s!"AES ECB of SSC for IV: {e.text}"⟩

/-- The `SmCipher` implementation. -/
def toSmCipher (P : Primitives) (self : AesSmCipher) : SmCipher where
  cipherAlgorithm := .aes
  encrypt data ssc := do
    let ssc ← Outcome.ofOption ⟨"AES SM encrypt requires SSC"⟩ ssc
    let iv ← self.ivFromSsc P ssc
    (self.cipher.encrypt P data self.ksEnc (some iv) .cbc false).mapErr fun e =>
      ⟨s!"AES CBC encrypt: {e.text}"⟩
  decrypt edata ssc := do
    let ssc ← Outcome.ofOption ⟨"AES SM decrypt requires SSC"⟩ ssc
    let iv ← self.ivFromSsc P ssc
    (self.cipher.decrypt P edata self.ksEnc (some iv) .cbc).mapErr fun e =>
      ⟨s!"AES CBC decrypt: {e.text}"⟩
  mac data := (self.cipher.calculateCmac P data self.ksMac).mapErr fun e => ⟨s!"AES CMAC: {e.text}"⟩

lemma new_isOk {ksEnc ksMac : Bytes} {size : KeyLength} (henc : ksEnc.length = size.byteSize)
    (hmac : ksMac.length = size.byteSize) : ∃ cipher, new ksEnc ksMac size = .ok cipher := by
  simp only [new, dif_pos henc, dif_pos hmac]
  exact ⟨_, rfl⟩

variable (P : Primitives) (self : AesSmCipher)

/-- The initialisation vector for a 128-bit counter is one block. -/
lemma ivFromSsc_isOk {ssc : Ssc} (hssc : ssc.bitSize = 128) :
    ∃ iv, self.ivFromSsc P ssc = .ok iv ∧ iv.length = 16 := by
  have hlen : ssc.toBytes.length = 16 := by
    rw [Ssc.length_toBytes, hssc]
  refine ⟨(P.aes self.ksEnc).encrypt ssc.toBytes, ?_, (P.aes _).length_encrypt _ hlen⟩
  rw [ivFromSsc, if_neg (by simp [hssc]),
    self.cipher.encrypt_ecb P self.length_ksEnc (by rw [hlen]), Outcome.mapErr_ok,
    (P.aes self.ksEnc).ecbEncrypt_single (by decide) hlen]

/-- A counter of any other width gives no initialisation vector, and no ciphertext. -/
lemma encrypt_ne_ok {ssc : Ssc} (hssc : ssc.bitSize ≠ 128) (data edata : Bytes) :
    (self.toSmCipher P).encrypt data (some ssc) ≠ .ok edata := by
  have hiv : ∃ e, self.ivFromSsc P ssc = .err e := by
    rw [ivFromSsc, if_pos hssc]
    exact ⟨_, rfl⟩
  obtain ⟨e, he⟩ := hiv
  simp only [toSmCipher, Outcome.ofOption_some, Outcome.ok_bind, he, Outcome.err_bind, ne_eq,
    reduceCtorEq, not_false_eq_true]

lemma encrypt_eq_ok {ssc : Ssc} {iv data edata : Bytes} (hiv : self.ivFromSsc P ssc = .ok iv)
    (hlen : iv.length = 16) (hdata : data.length % 16 = 0) :
    (self.toSmCipher P).encrypt data (some ssc) = .ok edata ↔
      edata = (P.aes self.ksEnc).cbcEncrypt iv data := by
  simp only [toSmCipher, Outcome.ofOption_some, Outcome.ok_bind, hiv,
    self.cipher.encrypt_cbc P self.length_ksEnc hlen hdata, Outcome.mapErr_ok, Outcome.ok.injEq]
  exact eq_comm

/-- Under 128-bit counters the AES cipher is lawful: both directions derive one initialisation
vector from the counter. -/
theorem lawful : (self.toSmCipher P).Lawful 128 where
  encrypt_isOk data ssc hssc hdata := by
    obtain ⟨iv, hiv, hlen⟩ := self.ivFromSsc_isOk P hssc
    exact ⟨_, (self.encrypt_eq_ok P hiv hlen hdata).mpr rfl⟩
  length_encrypt data edata ssc hssc hdata h := by
    obtain ⟨iv, hiv, hlen⟩ := self.ivFromSsc_isOk P hssc
    rw [(self.encrypt_eq_ok P hiv hlen hdata).mp h, (P.aes self.ksEnc).length_cbcEncrypt hlen hdata]
  decrypt_encrypt data edata ssc hssc hdata h := by
    obtain ⟨iv, hiv, hlen⟩ := self.ivFromSsc_isOk P hssc
    have hedata := (self.encrypt_eq_ok P hiv hlen hdata).mp h
    have hmod : edata.length % 16 = 0 := by
      rw [hedata, (P.aes self.ksEnc).length_cbcEncrypt hlen hdata]
      exact hdata
    have hdec : self.cipher.decrypt P edata self.ksEnc (some iv) .cbc = .ok data := by
      rw [AesCipher.decrypt_cbc_eq_ok]
      refine ⟨self.length_ksEnc, hmod, hlen, ?_⟩
      rw [hedata, (P.aes self.ksEnc).cbcDecrypt_cbcEncrypt hlen hdata]
    simp only [toSmCipher, Outcome.ofOption_some, Outcome.ok_bind, hiv, hdec, Outcome.mapErr_ok]
  mac_isOk data _ _ := by
    refine ⟨(P.cmac self.ksMac data).take 8, ?_, ?_⟩
    · exact Outcome.mapErr_eq_ok.mpr
        ((self.cipher.calculateCmac_eq_ok P).mpr ⟨self.length_ksMac, rfl⟩)
    · rw [List.length_take, P.length_cmac]
      rfl

end AesSmCipher

end Dmrtd
