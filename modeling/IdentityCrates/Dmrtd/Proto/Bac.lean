import IdentityCrates.Dmrtd.Proto.MrtdSm
import IdentityCrates.Dmrtd.Proto.SmCiphers

/-!
# Basic access control: the primitives

`bac.rs`: the helpers that the BAC handshake is composed of.  Each checks the lengths of what it is
given, so in the handshake, where the lengths are right by construction, the only things that can go
wrong are a MAC that does not verify and a nonce that does not come back.
-/

namespace Dmrtd

open Rust Octets

/-- `BacError`. -/
structure BacError where
  message : String
  deriving DecidableEq, Repr

namespace Bac

/-- `NONCE_LEN`. -/
def nonceLen : Nat := 8

/-- `K_LEN`. -/
def kLen : Nat := 16

/-- `S_LEN`. -/
def sLen : Nat := 2 * nonceLen + kLen

/-- `E_LEN`. -/
def eLen : Nat := sLen

/-- `MAC_LEN`. -/
def macLen : Nat := 8

/-- `check_len`. -/
def checkLen (buf : Bytes) (expected : Nat) (name : String) : Outcome BacError Unit :=
  if buf.length ≠ expected then .err ⟨s!"{name} length {buf.length} != expected {expected}"⟩
  else .ok ()

/-- `generate_s`. -/
def generateS (rndIfd rndIcc kifd : Bytes) : Outcome BacError Bytes := do
  checkLen rndIfd nonceLen "RND.IFD"
  checkLen rndIcc nonceLen "RND.IC"
  checkLen kifd kLen "K.IFD"
  return rndIfd ++ rndIcc ++ kifd

/-- `generate_ea_data`. -/
def generateEaData (eIfd mIfd : Bytes) : Outcome BacError Bytes := do
  checkLen eIfd eLen "E.IFD"
  checkLen mIfd macLen "M.IFD"
  return eIfd ++ mIfd

section

variable (P : Primitives)

/-- `encrypt_s`. -/
def encryptS (kEnc s : Bytes) : Outcome BacError Bytes := do
  checkLen kEnc kLen "K_enc"
  checkLen s sLen "S"
  let cipher ← (DesedeCipher.new kEnc (List.replicate 8 0)).mapErr fun e => BacError.mk e.text
  (cipher.encrypt P s false).mapErr fun e => BacError.mk e.text

/-- `decrypt_e_icc`. -/
def decryptEIcc (kDec eIcc : Bytes) : Outcome BacError Bytes := do
  checkLen kDec kLen "K_dec"
  checkLen eIcc eLen "E_icc"
  let cipher ← (DesedeCipher.new kDec (List.replicate 8 0)).mapErr fun e => BacError.mk e.text
  (cipher.decrypt P eIcc false).mapErr fun e => BacError.mk e.text

/-- `mac_e`. -/
def macE (kMac eIfd : Bytes) : Outcome BacError Bytes := do
  checkLen kMac kLen "K_mac"
  checkLen eIfd eLen "E.IFD"
  (Iso9797.macAlg3 P kMac eIfd true).mapErr fun e => BacError.mk e.text

/-- `extract_eicc_and_micc`. -/
def extractEiccAndMicc (iccEaData : Bytes) : Outcome BacError (Bytes × Bytes) := do
  checkLen iccEaData (eLen + macLen) "ICCea_data"
  return (iccEaData.take eLen, iccEaData.drop eLen)

/-- `verify_eicc`. -/
def verifyEicc (eicc kMac micc : Bytes) : Outcome BacError Bool := do
  let expected ← macE P kMac eicc
  checkLen micc macLen "M_icc"
  return decide (expected = micc)

/-- `verify_rnd_ifd_and_extract_kicc`: the second nonce in `R` must be the terminal's own. -/
def verifyRndIfdAndExtractKicc (rndIfd r : Bytes) : Outcome BacError Bytes := do
  checkLen rndIfd nonceLen "RND.IFD"
  checkLen r sLen "R"
  let extracted := (r.drop nonceLen).take nonceLen
  if extracted ≠ rndIfd then
    .err ⟨s!"Extracted RND.IFD={hexEncode extracted} from R " ++
      s!"differs from generated RND.IFD={hexEncode rndIfd}"⟩
  else .ok (r.drop (2 * nonceLen))

/-- `calculate_session_keys`. -/
def calculateSessionKeys (kifd kicc : Bytes) : Outcome BacError (Bytes × Bytes) := do
  checkLen kifd kLen "K.IFD"
  checkLen kicc kLen "K.ICC"
  let keySeed := xorBytes kifd kicc
  return (DeriveKey.desEde P keySeed false, DeriveKey.iso9797MacAlg3 P keySeed)

/-- `calculate_ssc`: the second halves of the two nonces. -/
def calculateSsc (rndIfd rndIcc : Bytes) : Outcome BacError Ssc := do
  checkLen rndIfd nonceLen "RND.IFD"
  checkLen rndIcc nonceLen "RND.IC"
  let suffix := nonceLen / 2
  (Ssc.new (rndIcc.drop suffix ++ rndIfd.drop suffix) 64).mapErr fun e => BacError.mk e.text

/-- `establish_sm`. -/
def establishSm (ksEnc ksMac : Bytes) (ssc : Ssc) : Outcome BacError MrtdSM := do
  let cipher ← (DesSmCipher.new ksEnc ksMac).mapErr fun e => BacError.mk e.text
  return ⟨cipher.toSmCipher P, ssc⟩

end

/-! ## What the helpers accept -/

lemma checkLen_eq_ok {buf : Bytes} {expected : Nat} {name : String} {u : Unit} :
    checkLen buf expected name = .ok u ↔ buf.length = expected := by
  by_cases h : buf.length = expected <;> simp [checkLen, h]

lemma checkLen_of_length {buf : Bytes} {expected : Nat} (name : String)
    (h : buf.length = expected) : checkLen buf expected name = .ok () := checkLen_eq_ok.mpr h

lemma extractEiccAndMicc_eq_ok {data : Bytes} {pair : Bytes × Bytes} :
    extractEiccAndMicc data = .ok pair ↔
      data = pair.1 ++ pair.2 ∧ pair.1.length = eLen ∧ pair.2.length = macLen := by
  simp only [extractEiccAndMicc, Outcome.bind_eq_ok, checkLen_eq_ok, exists_const, Outcome.pure_eq,
    Outcome.ok.injEq]
  constructor
  · rintro ⟨hlen, rfl⟩
    refine ⟨(List.take_append_drop _ _).symm, ?_, ?_⟩
    · rw [List.length_take, hlen]
      rfl
    · rw [List.length_drop, hlen]
      rfl
  · rintro ⟨rfl, h1, h2⟩
    refine ⟨by rw [List.length_append, h1, h2], ?_⟩
    rw [take_append_of_length h1, drop_append_of_length h1]

/-- `verify_eicc` answers yes exactly to the MAC it computes itself. -/
lemma verifyEicc_eq_true {P : Primitives} {eicc kMac micc : Bytes} :
    verifyEicc P eicc kMac micc = .ok true ↔
      macE P kMac eicc = .ok micc ∧ micc.length = macLen := by
  simp only [verifyEicc, Outcome.bind_eq_ok, checkLen_eq_ok, exists_const, Outcome.pure_eq,
    Outcome.ok.injEq, decide_eq_true_eq]
  constructor
  · rintro ⟨_, hmac, hlen, rfl⟩
    exact ⟨hmac, hlen⟩
  · rintro ⟨hmac, hlen⟩
    exact ⟨micc, hmac, hlen, rfl⟩

/-- The `K.IC` returned stands behind the terminal's own nonce in `R`. -/
lemma verifyRndIfdAndExtractKicc_eq_ok {rndIfd r kicc : Bytes} :
    verifyRndIfdAndExtractKicc rndIfd r = .ok kicc ↔
      rndIfd.length = nonceLen ∧ r.length = sLen ∧ (r.drop nonceLen).take nonceLen = rndIfd ∧
        kicc = r.drop (2 * nonceLen) := by
  simp only [verifyRndIfdAndExtractKicc, Outcome.bind_eq_ok, checkLen_eq_ok, exists_const]
  refine and_congr_right fun _ => and_congr_right fun _ => ?_
  by_cases h : (r.drop nonceLen).take nonceLen = rndIfd
  · simp [h, eq_comm]
  · simp [h]

/-- Any other nonce is refused. -/
lemma verifyRndIfdAndExtractKicc_eq_err {rndIfd r : Bytes} (hifd : rndIfd.length = nonceLen)
    (hr : r.length = sLen) (h : (r.drop nonceLen).take nonceLen ≠ rndIfd) :
    ∃ e, verifyRndIfdAndExtractKicc rndIfd r = .err e := by
  rw [verifyRndIfdAndExtractKicc, checkLen_of_length _ hifd, Outcome.ok_bind,
    checkLen_of_length _ hr, Outcome.ok_bind, if_pos h]
  exact ⟨_, rfl⟩

/-! ## Lengths are the only condition

On operands of the right lengths the helpers that compute something always succeed. -/

lemma generateS_isOk {rndIfd rndIcc kifd : Bytes} (hifd : rndIfd.length = nonceLen)
    (hicc : rndIcc.length = nonceLen) (hk : kifd.length = kLen) :
    ∃ s, generateS rndIfd rndIcc kifd = .ok s ∧ s.length = sLen := by
  refine ⟨rndIfd ++ rndIcc ++ kifd, ?_, ?_⟩
  · simp [generateS, checkLen_of_length, hifd, hicc, hk]
  · simp [hifd, hicc, hk, sLen, nonceLen, kLen]

variable (P : Primitives)

lemma encryptS_isOk {kEnc s : Bytes} (hkey : kEnc.length = kLen) (hs : s.length = sLen) :
    ∃ e, encryptS P kEnc s = .ok e ∧ e.length = eLen := by
  obtain ⟨cipher, hnew⟩ := DesedeCipher.new_isOk (Or.inl hkey)
    (List.length_replicate (n := 8) (a := (0 : UInt8)))
  obtain ⟨e, he, hlen⟩ := @DesedeCipher.encrypt_isOk P cipher s (by rw [hs]; rfl)
  refine ⟨e, ?_, hlen.trans hs⟩
  simp only [encryptS, checkLen_of_length _ hkey, checkLen_of_length _ hs, hnew, he,
    Outcome.ok_bind, Outcome.mapErr_ok]

lemma decryptEIcc_isOk {kDec eIcc : Bytes} (hkey : kDec.length = kLen)
    (he : eIcc.length = eLen) : ∃ r, decryptEIcc P kDec eIcc = .ok r ∧ r.length = sLen := by
  obtain ⟨cipher, hnew⟩ := DesedeCipher.new_isOk (Or.inl hkey)
    (List.length_replicate (n := 8) (a := (0 : UInt8)))
  obtain ⟨r, hr, hlen⟩ := @DesedeCipher.decrypt_isOk P cipher eIcc (by rw [he]; rfl)
  refine ⟨r, ?_, hlen.trans he⟩
  simp only [decryptEIcc, checkLen_of_length _ hkey, checkLen_of_length _ he, hnew, hr,
    Outcome.ok_bind, Outcome.mapErr_ok]

lemma macE_isOk {kMac e : Bytes} (hkey : kMac.length = kLen) (he : e.length = eLen) :
    ∃ m, macE P kMac e = .ok m ∧ m.length = macLen := by
  obtain ⟨m, hm, hlen⟩ := Iso9797.macAlg3_padded_isOk P (Or.inl hkey) e
  refine ⟨m, ?_, hlen⟩
  simp [macE, checkLen_of_length, hkey, he, hm]

lemma calculateSessionKeys_isOk {kifd kicc : Bytes} (hifd : kifd.length = kLen)
    (hicc : kicc.length = kLen) :
    ∃ ks, calculateSessionKeys P kifd kicc = .ok ks ∧ ks.1.length = kLen ∧ ks.2.length = kLen := by
  refine ⟨(DeriveKey.desEde P (xorBytes kifd kicc) false,
    DeriveKey.iso9797MacAlg3 P (xorBytes kifd kicc)), ?_, DeriveKey.length_desEde P _ _,
    DeriveKey.length_iso9797MacAlg3 P _⟩
  simp only [calculateSessionKeys, checkLen_of_length _ hifd, checkLen_of_length _ hicc,
    Outcome.ok_bind, Outcome.pure_eq]

lemma calculateSsc_isOk {rndIfd rndIcc : Bytes} (hifd : rndIfd.length = nonceLen)
    (hicc : rndIcc.length = nonceLen) : ∃ ssc, calculateSsc rndIfd rndIcc = .ok ssc := by
  have hlen : (rndIcc.drop (nonceLen / 2) ++ rndIfd.drop (nonceLen / 2)).length * 8 = 64 := by
    simp [hifd, hicc, nonceLen]
  obtain ⟨ssc, hssc⟩ := Ssc.new_isOk hlen (by decide)
  refine ⟨ssc, ?_⟩
  simp [calculateSsc, checkLen_of_length, hifd, hicc, hssc]

lemma establishSm_isOk {ksEnc ksMac : Bytes} (ssc : Ssc) (henc : ksEnc.length = kLen)
    (hmac : ksMac.length = kLen) : ∃ sm, establishSm P ksEnc ksMac ssc = .ok sm := by
  obtain ⟨cipher, hnew⟩ := DesSmCipher.new_isOk (Or.inl henc) (Or.inl hmac)
  exact ⟨⟨cipher.toSmCipher P, ssc⟩, by simp [establishSm, hnew]⟩

end Bac

end Dmrtd
