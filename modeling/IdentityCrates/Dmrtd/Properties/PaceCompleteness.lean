import IdentityCrates.Dmrtd.Proto.PaceChip
import IdentityCrates.Dmrtd.Properties.EcdhAgreement
import IdentityCrates.Dmrtd.Properties.HandshakeSteps
import IdentityCrates.Dmrtd.Properties.LockStep

/-!
# PACE comes through

A terminal and a chip with the same password, the same protocol over a curve and the same domain
parameters: whatever the two draw, the handshake succeeds and leaves the two ends with one cipher and
one counter, unless the nonce and the mapping keys move the generator to the identity, or both draw
the same ephemeral key.

The five exchanges are followed one by one (`Passes`).  The agreement on the mapped generator and on
the seed is that of the two engines (`EcdhEngine.HasKey`, `EcdhEngine.HasEphemeral`); what is new here
is that everything they exchange survives the two layers of encoding in both directions.
-/

namespace Dmrtd

open Rust Octets

/-! ## What is sent and read -/

/-- `data` is `value` under `tag` as dynamic authentication data, and is read back as that. -/
structure Carries (tag : Nat) (value data : Bytes) : Prop where
  encoded : ∀ ε : Type, (PaceChip.dynamicAuthData tag value : Outcome ε Bytes) = .ok data
  length_le : data.length ≤ 0xFFFF
  ne_nil : data ≠ []
  parsed : ∀ admitted absent, tag ∈ admitted →
    Pace.parseDynamicAuthData admitted absent data = .ok value

lemma exists_carries {tag : Nat} (htag : Tlv.IsSingleByte tag) {value : Bytes}
    (hlen : value.length ≤ 0xFF00) : ∃ data, Carries tag value data := by
  obtain ⟨object, data, hobject, hdata, hle⟩ :=
    @PaceSession.encode_twice_isOk Unit tag value htag.1 hlen
  obtain ⟨l, hl, hobject'⟩ := Tlv.encode_eq_ok.mp hobject
  obtain ⟨l', hl', hdata'⟩ := Tlv.encode_eq_ok.mp hdata
  refine ⟨data, fun ε => ?_, hle, ?_, fun admitted absent hmem =>
    Pace.parseDynamicAuthData_encode htag hobject hdata hmem absent⟩
  · have hinner : (Tlv.encode tag value : Outcome ε Bytes) = .ok object :=
      Tlv.encode_eq_ok.mpr ⟨l, hl, hobject'⟩
    rw [PaceChip.dynamicAuthData, hinner, Outcome.ok_bind]
    exact Tlv.encode_eq_ok.mpr ⟨l', hl', hdata'⟩
  · rw [hdata', Tlv.encodeTag_of_lt (by decide)]
    simp

/-- A public key of a curve that is written in full. -/
structure PublicKeyPace.Sendable (key : PublicKeyPace) : Prop where
  read : PaceChip.publicKey .ecdh (Pace.publicKeyValue key) = .ok key
  value : ∃ xy, Pace.publicKeyValue key = 0x04 :: xy ∧ ecdhFromHex xy = some key
  length_le : (Pace.publicKeyValue key).length ≤ 0xFF00
  input : ∀ protocol : OiePaceProtocol, protocol.oie.identifier.length ≤ 0xFF →
    ∃ input, (Pace.generateEncodingInputData protocol key : Outcome PaceSessionError Bytes) =
      .ok input

namespace EcdhEngine

variable {P : Primitives} {c : NamedCurve}

/-- The key of a point can be sent, and is read as that point. -/
lemma sendable_of_point {point : (P.curve c).Point} (h : point ≠ 0) :
    ∃ key, pointToPubkeyPace point = .ok key ∧ key.Sendable ∧
      transformPublic P c key = .ok point := by
  obtain ⟨hx, hy⟩ := (P.curve c).coords_lt point h
  rw [P.curve_coordLen c] at hx hy
  obtain ⟨hpos, -⟩ := coordLen_range c
  have hmax : c.coordLen ≤ 66 := by
    cases c <;> decide
  have hfrom := PublicKeyPace.ecdhFromHex_toBytes hpos hx hy
  have hlen := Pace.length_publicKeyValue_ecdh hx hy
  refine ⟨_, pointToPubkeyPace_of_ne_zero h, ⟨?_, ⟨_, rfl, hfrom⟩, by omega, ?_⟩,
    transformPublic_eq_ok.mpr ⟨c.coordLen, rfl, h⟩⟩
  · simp only [Pace.publicKeyValue, PaceChip.publicKey, hfrom, Outcome.ofOption_some]
  · intro protocol hoid
    have hbody : (Pace.oidBodyBytes protocol.oie).length ≤ 0xFF := by
      rw [Pace.oidBodyBytes, List.length_map, List.length_tail]
      omega
    obtain ⟨oidTlv, hoidTlv⟩ :=
      @Tlv.encode_isOk PaceSessionError 0x06 (Pace.oidBodyBytes protocol.oie) (by omega)
    obtain ⟨pubTlv, hpubTlv⟩ := @Tlv.encode_isOk PaceSessionError 0x86 (Pace.publicKeyValue
      (.ecdh ((P.curve c).coords point).1 ((P.curve c).coords point).2 c.coordLen)) (by omega)
    have hoidLen := Tlv.length_encode_le (by decide) hoidTlv
    have hpubLen := Tlv.length_encode_le (by decide) hpubTlv
    obtain ⟨input, hinput⟩ := @Tlv.encode_isOk PaceSessionError 0x7F49 (oidTlv ++ pubTlv) (by
      rw [List.length_append]
      omega)
    refine ⟨input, ?_⟩
    rw [Pace.generateEncodingInputData, hoidTlv, Outcome.ok_bind]
    simp only [hpubTlv, Outcome.ok_bind]
    exact hinput

/-- Different multiples of a point are sent as different keys. -/
lemma key_ne {g : (P.curve c).Point} (hg : g ≠ 0) {u v : SecretKey P c} (hne : u.scalar ≠ v.scalar)
    {key key' : PublicKeyPace} (hu : transformPublic P c key = .ok (u.scalar • g))
    (hv : transformPublic P c key' = .ok (v.scalar • g)) : key ≠ key' := by
  rintro rfl
  rw [hu, Outcome.ok.injEq, (P.curve c).nsmul_eq_nsmul_iff hg, Nat.mod_eq_of_lt u.scalar_lt,
    Nat.mod_eq_of_lt v.scalar_lt] at hv
  exact hne hv

end EcdhEngine

/-! ## The exchanges -/

/-- A protocol that a session supports over a curve. -/
structure OiePaceProtocol.OverCurve (protocol : OiePaceProtocol) : Prop where
  cipher : protocol.cipherAlgorithm = .aes
  agreement : protocol.tokenAgreementAlgorithm = .ecdh
  mapping : protocol.mappingType = .gm
  oid : protocol.oie.identifier.length ≤ 0xFF

/-- A kind of key that has a password key for AES at every length. -/
class LawfulAccessKey (κ : Type) [AccessKey κ] : Prop where
  kpi_aes : ∀ (P : Primitives) (key : κ) (keyLength : KeyLength), ∃ kPi,
    AccessKey.kpi P key .aes keyLength = .ok kPi ∧ kPi.length = keyLength.byteSize

instance : LawfulAccessKey DBAKey where
  kpi_aes P key keyLength := by
    cases keyLength <;> exact ⟨_, rfl, DeriveKey.length_derive P _ _ _⟩

instance : LawfulAccessKey CanKey where
  kpi_aes P key keyLength := by
    cases keyLength <;> exact ⟨_, rfl, DeriveKey.length_derive P _ _ _⟩

section Exchanges

variable {P : Primitives} {κ : Type} [AccessKey κ] {key : κ} {protocol : OiePaceProtocol}
  {id : Nat} {c : NamedCurve}

/-- The terminal with an engine of the curve `c`. -/
abbrev PaceSession.onCurve (key : κ) (protocol : OiePaceProtocol) (id : Nat) (engine : EcdhEngine P c)
    (entropy : Entropy) (state : PaceState) : PaceSession P κ :=
  ⟨key, protocol, .ecdh ⟨c, engine⟩, id, entropy, state⟩

/-- The chip with an engine of the curve `c`. -/
abbrev PaceChip.onCurve (key : κ) (protocol : OiePaceProtocol) (id : Nat) (engine : EcdhEngine P c)
    (entropy : Entropy) (step : PaceChipStep) : PaceChip P κ :=
  ⟨key, protocol, id, .ecdh ⟨c, engine⟩, entropy, step⟩

namespace PaceSession

/-- An answer with the status word of success reaches the step that it answers. -/
lemma feed_answer (self : PaceSession P κ) (data : Bytes) :
    feedResponse (answerBytes (StatusWord.success, data)) self =
      consumeBody (if data = [] then none else some data) self :=
  feedResponse_of_success self (ResponseApdu.fromBytes_append data StatusWord.success)

lemma nextRequest_start {engine : EcdhEngine P c} {entropy : Entropy} {cmd : CommandApdu}
    (h : mseSetAt (onCurve key protocol id engine entropy .start) = .ok cmd) :
    nextRequest P κ (onCurve key protocol id engine entropy .start) =
      (.ok (.inl cmd.toBytes), onCurve key protocol id engine entropy .waitingForMseSetAt) := by
  simp only [nextRequest, next, Proc.bind_apply, Proc.get_apply, Proc.set_apply, Proc.lift_apply, h]
  rfl

lemma nextRequest_step1 {engine : EcdhEngine P c} {entropy : Entropy} :
    nextRequest P κ (onCurve key protocol id engine entropy .readyForStep1) =
      (.ok (.inl (CommandApdu.mk Cla.commandChaining Ins.generalAuthenticate 0x00 0x00
        (some [0x7C, 0x00]) 256).toBytes),
        onCurve key protocol id engine entropy .waitingForStep1) := rfl

lemma generalAuthenticate_eq (cla : UInt8) {data : Bytes} (h : data.length ≤ 0xFFFF) :
    generalAuthenticate cla data 256 =
      .ok ⟨cla, Ins.generalAuthenticate, 0x00, 0x00, some data, 256⟩ :=
  Outcome.mapErr_eq_ok.mpr (CommandApdu.new_eq_ok.mpr ⟨rfl, h, (by decide : 256 ≤ 65536)⟩)

end PaceSession

/-- A command of GENERAL AUTHENTICATE is answered by the step that the chip is at. -/
lemma PaceChip.answer_generalAuthenticate (self : PaceChip P κ) (cla : UInt8) (data : Bytes) :
    CardHandshake.answer (CommandApdu.mk cla Ins.generalAuthenticate 0x00 0x00 (some data) 256).wire
      self = some (self.generalAuthenticate data) := rfl

open PaceSession

/-- The data of MSE:Set AT fit in a command. -/
lemma generateMseSetAtData_isOk (hoid : protocol.oie.identifier.length ≤ 0xFF) (ref : UInt8)
    (id : Nat) : ∃ data, (Pace.generateMseSetAtData protocol ref (some id) :
      Outcome PaceSessionError Bytes) = .ok data ∧ data.length ≤ 0xFFFF := by
  have hbody : (Pace.oidBodyBytes protocol.oie).length ≤ 0xFF := by
    rw [Pace.oidBodyBytes, List.length_map, List.length_tail]
    omega
  have hbin : ∀ n, (intToBin n 1).length ≤ 8 := by
    intro n
    simp only [intToBin]
    split
    · rw [List.length_drop, length_toBE]
      omega
    · rw [if_neg (by omega), List.length_drop, length_toBE]
      omega
  have href := hbin ref.toNat
  have hid := hbin id
  obtain ⟨cm, hcm⟩ :=
    @Tlv.encode_isOk PaceSessionError 0x80 (Pace.oidBodyBytes protocol.oie) (by omega)
  obtain ⟨drp, hdrp⟩ := @Tlv.encode_isOk PaceSessionError 0x83 (intToBin ref.toNat 1) (by omega)
  obtain ⟨dp, hdp⟩ := @Tlv.encode_isOk PaceSessionError 0x84 (intToBin id 1) (by omega)
  have hcmLen := Tlv.length_encode_le (by decide) hcm
  have hdrpLen := Tlv.length_encode_le (by decide) hdrp
  have hdpLen := Tlv.length_encode_le (by decide) hdp
  refine ⟨cm ++ drp ++ dp, ?_, ?_⟩
  · simp only [Pace.generateMseSetAtData, hcm, hdrp, hdp, Outcome.ok_bind, Outcome.pure_eq]
  · rw [List.length_append, List.length_append]
    omega

/-- MSE:Set AT. -/
lemma passes_setAt (hoid : protocol.oie.identifier.length ≤ 0xFF) (engine engine' : EcdhEngine P c)
    (entropy entropy' : Entropy) (step : PaceChipStep) :
    Passes (paceParty P κ) (.onCurve key protocol id engine entropy .start)
      (PaceChip.onCurve key protocol id engine' entropy' step)
      (.onCurve key protocol id engine entropy .readyForStep1)
      (PaceChip.onCurve key protocol id engine' entropy' .selected) none := by
  obtain ⟨data, hdata, hlen⟩ := generateMseSetAtData_isOk hoid (AccessKey.paceRefKeyTag key) id
  have hlimits : (CommandApdu.mk Cla.noSm Ins.manageSecurityEnvironment 0xC1 0xA4 (some data)
      0).InLimits := ⟨hlen, Nat.zero_le _⟩
  have hcmd : mseSetAt (P := P) (.onCurve key protocol id engine entropy .start) =
      .ok ⟨Cla.noSm, Ins.manageSecurityEnvironment, 0xC1, 0xA4, some data, 0⟩ := by
    rw [mseSetAt, hdata, Outcome.ok_bind]
    exact Outcome.mapErr_eq_ok.mpr (CommandApdu.new_eq_ok.mpr ⟨rfl, hlimits⟩)
  refine ⟨_, _, [], hlimits, nextRequest_start hcmd, ?_, (feed_answer _ _).trans rfl⟩
  have hselected : (PaceChip.onCurve key protocol id engine' entropy' step).setAt data =
      (StatusWord.success, .onCurve key protocol id engine' entropy' .selected) := if_pos hdata
  refine congrArg some ?_
  rw [show CommandApdu.Wire.body _ = data from rfl, hselected]

/-- The nonce under the password key is read back. -/
lemma exists_encryptedNonce [LawfulAccessKey κ] (haes : protocol.cipherAlgorithm = .aes)
    (engine : EcdhEngine P c) (entropy : Entropy) (step : PaceChipStep) (nonce : FixedBytes 16) :
    ∃ encrypted, (PaceChip.onCurve key protocol id engine entropy step).encryptNonce nonce =
        .ok encrypted ∧ encrypted.length = 16 ∧
      Pace.decryptNonce P protocol encrypted key = .ok nonce.val := by
  obtain ⟨kPi, hkPi, hlen⟩ := LawfulAccessKey.kpi_aes P key protocol.keyLength
  have hiv : (List.replicate 16 (0 : UInt8)).length = 16 := rfl
  have hmod : nonce.val.length % 16 = 0 := by rw [nonce.property]
  have hencrypted := (P.aes kPi).length_cbcEncrypt hiv hmod
  refine ⟨(P.aes kPi).cbcEncrypt (List.replicate 16 0) nonce, ?_, hencrypted.trans nonce.property, ?_⟩
  · simp only [PaceChip.encryptNonce, haes, hkPi, Outcome.mapErr_ok, Outcome.ok_bind]
    exact Outcome.mapErr_eq_ok.mpr ((AesCipher.mk protocol.keyLength).encrypt_cbc P hlen hiv hmod)
  · have hdecrypt : (AesCipher.mk protocol.keyLength).decrypt P
        ((P.aes kPi).cbcEncrypt (List.replicate 16 0) nonce) kPi (some (List.replicate 16 0)) .cbc =
        .ok nonce.val := by
      rw [AesCipher.decrypt_cbc_eq_ok]
      exact ⟨hlen, by rw [hencrypted]; exact hmod, hiv,
        ((P.aes kPi).cbcDecrypt_cbcEncrypt hiv hmod).symm⟩
    simp only [Pace.decryptNonce, haes, hkPi, Outcome.mapErr_ok, Outcome.ok_bind, hdecrypt]

/-- GENERAL AUTHENTICATE, step 1. -/
lemma passes_nonce [LawfulAccessKey κ] (haes : protocol.cipherAlgorithm = .aes)
    (engine engine' : EcdhEngine P c) (entropy : Entropy) {entropy' : Entropy} {nonce : FixedBytes 16}
    (hnonce : entropy'.take 16 = nonce.val) :
    Passes (paceParty P κ) (.onCurve key protocol id engine entropy .readyForStep1)
      (PaceChip.onCurve key protocol id engine' entropy' .selected)
      (.onCurve key protocol id engine entropy (.readyForStep2 nonce))
      (PaceChip.onCurve key protocol id engine' (entropy'.drop 16) (.challenged nonce)) none := by
  obtain ⟨encrypted, hencrypted, hlen, hdecrypted⟩ :=
    @exists_encryptedNonce P κ _ key protocol id c _ haes engine' entropy' .selected nonce
  obtain ⟨data, hdata⟩ := @exists_carries Pace.encryptedNonceResponse (by decide) encrypted
    (by omega)
  have hhandled : handleStep1 (P := P) (.onCurve key protocol id engine entropy .waitingForStep1)
      (some data) = .ok nonce.val := by
    simp only [handleStep1, Outcome.ofOption_some, Outcome.ok_bind, Pace.parseStep1Response,
      hdata.parsed _ _ (List.mem_singleton_self _), Outcome.mapErr_ok, hdecrypted]
  have hlimits : (CommandApdu.mk Cla.commandChaining Ins.generalAuthenticate 0x00 0x00
      (some [0x7C, 0x00]) 256).InLimits := by decide
  refine ⟨_, _, data, hlimits, nextRequest_step1, ?_, ?_⟩
  · have hle : 16 ≤ entropy'.length := by
      have htake := congrArg List.length hnonce
      rw [List.length_take, nonce.property] at htake
      omega
    rw [PaceChip.answer_generalAuthenticate]
    obtain ⟨nonce, hnonce16⟩ := nonce
    obtain rfl : entropy'.take 16 = nonce := hnonce
    simp only [PaceChip.generalAuthenticate, PaceChip.giveNonce, ne_eq, not_true_eq_false, if_false,
      dif_pos hle, hencrypted, Outcome.ok_bind, hdata.encoded]
    rfl
  · refine (feed_answer _ _).trans ?_
    rw [if_neg hdata.ne_nil]
    simp only [consumeBody, Proc.get_bind_apply, Proc.set_bind_apply, hhandled]
    rfl

/-! ### The keys -/

/-- The terminal's command with a public key. -/
lemma step2Command_eq {engine : EcdhEngine P c} {pub : PublicKeyPace} {data : Bytes}
    (hpub : engine.getPubKey = .ok pub) (hdata : Carries 0x81 (Pace.publicKeyValue pub) data) :
    step2Command (P := P) (.ecdh ⟨c, engine⟩) =
      .ok ⟨Cla.commandChaining, Ins.generalAuthenticate, 0x00, 0x00, some data, 256⟩ := by
  have hgenerated : (Pace.generateGeneralAuthenticateDataStep2Or3 pub false :
      Outcome PaceSessionError Bytes) = .ok data := hdata.encoded _
  simp only [step2Command, PaceEngine.mainPubKey, hpub, Outcome.mapErr_ok, Outcome.ok_bind,
    hgenerated]
  exact generalAuthenticate_eq _ hdata.length_le

lemma step3Command_eq {engine : EcdhEngine P c} {pub : PublicKeyPace} {data : Bytes}
    (hpub : engine.getPubKeyEphemeral = .ok pub)
    (hdata : Carries 0x83 (Pace.publicKeyValue pub) data) :
    step3Command (P := P) (.ecdh ⟨c, engine⟩) =
      .ok ⟨Cla.commandChaining, Ins.generalAuthenticate, 0x00, 0x00, some data, 256⟩ := by
  have hgenerated : (Pace.generateGeneralAuthenticateDataStep2Or3 pub true :
      Outcome PaceSessionError Bytes) = .ok data := hdata.encoded _
  simp only [step3Command, PaceEngine.ephemeralPubKey, hpub, Outcome.mapErr_ok, Outcome.ok_bind,
    hgenerated]
  exact generalAuthenticate_eq _ hdata.length_le

/-- The chip reads the terminal's key. -/
lemma requestValue_eq {tag : Nat} {value data : Bytes} (hdata : Carries tag value data) :
    PaceChip.requestValue tag data = .ok value := by
  rw [PaceChip.requestValue, hdata.parsed _ _ (List.mem_singleton_self _), Outcome.mapErr_ok]

/-- The terminal reads the chip's key. -/
lemma chipPublicKey_eq (hagree : protocol.tokenAgreementAlgorithm = .ecdh) {pub : PublicKeyPace}
    (hpub : pub.Sendable) {tag : Nat}
    (htag : tag ∈ [Pace.mappingDataResponse, Pace.ephemeralPublicKeyResponse]) {data : Bytes}
    (hdata : Carries tag (Pace.publicKeyValue pub) data) :
    chipPublicKey protocol (some data) = .ok pub := by
  obtain ⟨xy, hvalue, hread⟩ := hpub.value
  simp only [chipPublicKey, Outcome.ofOption_some, Outcome.ok_bind, hagree,
    Pace.parseStep2Or3Response, hdata.parsed _ _ htag, Outcome.mapErr_ok, hvalue, ne_eq,
    not_true_eq_false, if_false, hread]

lemma generateKeyPair_of_draw (engine : EcdhEngine P c) {entropy rest : Entropy}
    {sk : SecretKey P c} (h : SecretKey.generate P c entropy = .ok (sk, rest)) :
    ∃ engine', engine.generateKeyPair entropy = .ok (engine', rest) ∧ engine'.HasKey sk := by
  refine ⟨{ engine with
    pubKey := some (sk.scalar • (P.curve c).generator), privKey := some sk }, ?_, rfl, rfl⟩
  rw [EcdhEngine.generateKeyPair, h]
  rfl

lemma PaceSession.nextRequest_step2 {engine engine' : EcdhEngine P c} {entropy rest : Entropy}
    {nonce : Bytes} {cmd : CommandApdu}
    (hdrawn : engine.generateKeyPair entropy = .ok (engine', rest))
    (h : step2Command (P := P) (.ecdh ⟨c, engine'⟩) = .ok cmd) :
    nextRequest P κ (onCurve key protocol id engine entropy (.readyForStep2 nonce)) =
      (.ok (.inl cmd.toBytes), onCurve key protocol id engine' rest (.waitingForStep2 nonce)) := by
  have hpair : (PaceEngine.ecdh ⟨c, engine⟩).generateMainKeyPair entropy =
      .ok (.ecdh ⟨c, engine'⟩, rest) := by
    simp only [PaceEngine.generateMainKeyPair, hdrawn, Outcome.mapErr_ok, Outcome.ok_bind,
      Outcome.pure_eq]
  simp only [nextRequest, next, Proc.bind_apply, Proc.get_apply, Proc.set_apply, Proc.lift_apply,
    hpair, h]
  rfl

lemma PaceSession.nextRequest_step3 {engine : EcdhEngine P c} {entropy : Entropy}
    {cmd : CommandApdu} (h : step3Command (P := P) (.ecdh ⟨c, engine⟩) = .ok cmd) :
    nextRequest P κ (onCurve key protocol id engine entropy .readyForStep3) =
      (.ok (.inl cmd.toBytes), onCurve key protocol id engine entropy .waitingForStep3) := by
  simp only [nextRequest, next, Proc.bind_apply, Proc.get_apply, Proc.set_apply, Proc.lift_apply, h]
  rfl

/-- GENERAL AUTHENTICATE, step 2. -/
lemma passes_map (hagree : protocol.tokenAgreementAlgorithm = .ecdh) (engine engine' : EcdhEngine P c)
    (nonce : FixedBytes 16) {entropy entropy' mid mid' rest rest' : Entropy}
    {x u y v : SecretKey P c} (hx : SecretKey.generate P c entropy = .ok (x, mid))
    (hu : SecretKey.generate P c mid = .ok (u, rest))
    (hy : SecretKey.generate P c entropy' = .ok (y, mid'))
    (hv : SecretKey.generate P c mid' = .ok (v, rest')) :
    ∃ mapped mapped', mapped.HasEphemeral (EcdhEngine.mappedGenerator P c nonce x y) u ∧
      mapped'.HasEphemeral (EcdhEngine.mappedGenerator P c nonce x y) v ∧
      Passes (paceParty P κ) (.onCurve key protocol id engine entropy (.readyForStep2 nonce))
        (PaceChip.onCurve key protocol id engine' entropy' (.challenged nonce))
        (.onCurve key protocol id mapped rest .readyForStep3)
        (PaceChip.onCurve key protocol id mapped' rest' .mapped) none := by
  have hgen := (P.curve c).generator_ne_zero
  obtain ⟨drawn, hdrawn, hdrawnKey⟩ := generateKeyPair_of_draw engine hx
  obtain ⟨drawn', hdrawn', hdrawnKey'⟩ := generateKeyPair_of_draw engine' hy
  obtain ⟨pub, hpub, hsend, hread⟩ := EcdhEngine.sendable_of_point (EcdhEngine.smul_ne_zero hgen x)
  obtain ⟨pub', hpub', hsend', hread'⟩ :=
    EcdhEngine.sendable_of_point (EcdhEngine.smul_ne_zero hgen y)
  have hgot : drawn.getPubKey = .ok pub := by
    rw [EcdhEngine.getPubKey, hdrawnKey.pub]
    exact hpub
  have hgot' : drawn'.getPubKey = .ok pub' := by
    rw [EcdhEngine.getPubKey, hdrawnKey'.pub]
    exact hpub'
  obtain ⟨mapped, hmapped, heph⟩ := hdrawnKey.mapAndGenerateEphemeral hread' nonce hu
  obtain ⟨mapped', hmapped', heph'⟩ := hdrawnKey'.mapAndGenerateEphemeral hread nonce hv
  rw [EcdhEngine.mappedGenerator_comm] at heph'
  obtain ⟨data, hdata⟩ := @exists_carries 0x81 (by decide) _ hsend.length_le
  obtain ⟨answer, hanswer⟩ := @exists_carries Pace.mappingDataResponse (by decide) _ hsend'.length_le
  have hlimits : (CommandApdu.mk Cla.commandChaining Ins.generalAuthenticate 0x00 0x00 (some data)
      256).InLimits := ⟨hdata.length_le, (by decide : 256 ≤ 65536)⟩
  refine ⟨mapped, mapped', heph, heph', _, _, answer, hlimits,
    nextRequest_step2 hdrawn (step2Command_eq hgot hdata), ?_, ?_⟩
  · rw [PaceChip.answer_generalAuthenticate]
    simp only [PaceChip.generalAuthenticate, PaceChip.map, requestValue_eq hdata, Outcome.ok_bind,
      hagree, hsend.read, PaceEngine.generateMainKeyPair, hdrawn', Outcome.mapErr_ok,
      PaceEngine.mainPubKey, hgot', PaceEngine.mapAndGenerateEphemeral, hmapped', Outcome.pure_eq,
      hanswer.encoded]
    rfl
  · have hhandled : handleStep2 (P := P) (.onCurve key protocol id drawn mid (.waitingForStep2 nonce))
        nonce (some answer) = .ok (.ecdh ⟨c, mapped⟩, rest) := by
      simp only [handleStep2, chipPublicKey_eq hagree hsend' (by decide) hanswer, Outcome.ok_bind,
        PaceEngine.mapAndGenerateEphemeral, hmapped, Outcome.mapErr_ok, Outcome.pure_eq]
    refine (feed_answer _ _).trans ?_
    rw [if_neg hanswer.ne_nil]
    simp only [consumeBody, Proc.get_bind_apply, Proc.set_bind_apply, hhandled]
    rfl

/-- GENERAL AUTHENTICATE, step 3. -/
lemma passes_agree (hagree : protocol.tokenAgreementAlgorithm = .ecdh) {engine engine' : EcdhEngine P c}
    {g : (P.curve c).Point} (hg : g ≠ 0) {u v : SecretKey P c} (h : engine.HasEphemeral g u)
    (h' : engine'.HasEphemeral g v) (hne : u.scalar ≠ v.scalar) (entropy entropy' : Entropy) :
    ∃ pub pub' seed, pub.Sendable ∧ pub'.Sendable ∧ engine.getPubKeyEphemeral = .ok pub ∧
      engine'.getPubKeyEphemeral = .ok pub' ∧
      Passes (paceParty P κ) (.onCurve key protocol id engine entropy .readyForStep3)
        (PaceChip.onCurve key protocol id engine' entropy' .mapped)
        (.onCurve key protocol id engine entropy (.readyForStep4 pub'
          (Pace.calculateEncKey P protocol seed) (Pace.calculateMacKey P protocol seed)))
        (PaceChip.onCurve key protocol id engine' entropy' (.agreed pub
          (Pace.calculateEncKey P protocol seed) (Pace.calculateMacKey P protocol seed))) none := by
  obtain ⟨pub, hpub, hsend, hread⟩ := EcdhEngine.sendable_of_point (EcdhEngine.smul_ne_zero hg u)
  obtain ⟨pub', hpub', hsend', hread'⟩ := EcdhEngine.sendable_of_point (EcdhEngine.smul_ne_zero hg v)
  have hgot : engine.getPubKeyEphemeral = .ok pub := by
    rw [EcdhEngine.getPubKeyEphemeral, h.pub]
    exact hpub
  have hgot' : engine'.getPubKeyEphemeral = .ok pub' := by
    rw [EcdhEngine.getPubKeyEphemeral, h'.pub]
    exact hpub'
  obtain ⟨seed, hseed, hseed'⟩ : ∃ seed, engine.getEphemeralSharedSeed pub' = .ok seed ∧
      engine'.getEphemeralSharedSeed pub = .ok seed := by
    refine ⟨_, h.getEphemeralSharedSeed hg hread', ?_⟩
    rw [Nat.mul_comm]
    exact h'.getEphemeralSharedSeed hg hread
  have hdistinct : pub ≠ pub' := EcdhEngine.key_ne hg hne hread hread'
  obtain ⟨data, hdata⟩ := @exists_carries 0x83 (by decide) _ hsend.length_le
  obtain ⟨answer, hanswer⟩ :=
    @exists_carries Pace.ephemeralPublicKeyResponse (by decide) _ hsend'.length_le
  have hlimits : (CommandApdu.mk Cla.commandChaining Ins.generalAuthenticate 0x00 0x00 (some data)
      256).InLimits := ⟨hdata.length_le, (by decide : 256 ≤ 65536)⟩
  refine ⟨pub, pub', seed, hsend, hsend', hgot, hgot', _, _, answer, hlimits,
    nextRequest_step3 (step3Command_eq hgot hdata), ?_, ?_⟩
  · rw [PaceChip.answer_generalAuthenticate]
    simp only [PaceChip.generalAuthenticate, PaceChip.agree, requestValue_eq hdata, Outcome.ok_bind,
      hagree, hsend.read, PaceEngine.ephemeralPubKey, hgot', Outcome.mapErr_ok, if_neg hdistinct,
      PaceEngine.ephemeralSharedSeed, hseed', hanswer.encoded]
    rfl
  · have hhandled : handleStep3 (P := P) (.onCurve key protocol id engine entropy .waitingForStep3)
        (some answer) = .ok (pub', Pace.calculateEncKey P protocol seed,
          Pace.calculateMacKey P protocol seed) := by
      simp only [handleStep3, chipPublicKey_eq hagree hsend' (by decide) hanswer, Outcome.ok_bind,
        PaceEngine.ephemeralSharedSeed, hseed, Outcome.mapErr_ok, Outcome.pure_eq]
    refine (feed_answer _ _).trans ?_
    rw [if_neg hanswer.ne_nil]
    simp only [consumeBody, Proc.get_bind_apply, Proc.set_bind_apply, hhandled]
    rfl

/-! ### The tokens -/

lemma PaceSession.nextRequest_step4 {engine : EcdhEngine P c} {entropy : Entropy}
    {pub : PublicKeyPace} {kEnc kMac : Bytes} {cmd : CommandApdu}
    (h : step4Command (onCurve (P := P) key protocol id engine entropy (.readyForStep4 pub kEnc kMac))
      pub kMac = .ok cmd) :
    nextRequest P κ (onCurve key protocol id engine entropy (.readyForStep4 pub kEnc kMac)) =
      (.ok (.inl cmd.toBytes), onCurve key protocol id engine entropy (.waitingForStep4 kEnc kMac)) := by
  simp only [nextRequest, next, Proc.bind_apply, Proc.get_apply, Proc.set_apply, Proc.lift_apply, h]
  rfl

/-- A token over a key that can be sent. -/
lemma exists_authToken (P : Primitives) (hprotocol : protocol.OverCurve) {pub : PublicKeyPace}
    (hpub : pub.Sendable) {kMac : Bytes} (hkey : kMac.length = protocol.keyLength.byteSize) :
    ∃ token, authToken P protocol pub kMac = .ok token ∧ token.length = 8 := by
  obtain ⟨input, hinput⟩ := hpub.input protocol hprotocol.oid
  refine ⟨_, authToken_isOk hprotocol.cipher hkey hinput, ?_⟩
  rw [List.length_take, P.length_cmac]
  rfl

/-- GENERAL AUTHENTICATE, step 4. -/
lemma passes_authTokens (hprotocol : protocol.OverCurve) {engine engine' : EcdhEngine P c}
    {pub pub' : PublicKeyPace} (hsend : pub.Sendable) (hsend' : pub'.Sendable)
    (hgot : engine.getPubKeyEphemeral = .ok pub) (hgot' : engine'.getPubKeyEphemeral = .ok pub')
    {kEnc kMac : Bytes} (henc : kEnc.length = protocol.keyLength.byteSize)
    (hmac : kMac.length = protocol.keyLength.byteSize) (entropy entropy' : Entropy) :
    ∃ (cipher : AesSmCipher) (ssc : Ssc), ssc.bitSize = 128 ∧
      Passes (paceParty P κ)
        (.onCurve key protocol id engine entropy (.readyForStep4 pub' kEnc kMac))
        (PaceChip.onCurve key protocol id engine' entropy' (.agreed pub kEnc kMac))
        (.onCurve key protocol id engine entropy (.completed (some ⟨cipher.toSmCipher P, ssc⟩)))
        (PaceChip.onCurve key protocol id engine' entropy' .idle) (some ⟨cipher.toSmCipher P, ssc⟩) := by
  obtain ⟨tIfd, htIfd, hifdLen⟩ := exists_authToken P hprotocol hsend' hmac
  obtain ⟨tIcc, htIcc, hiccLen⟩ := exists_authToken P hprotocol hsend hmac
  obtain ⟨cipher, hcipher⟩ := AesSmCipher.new_isOk henc hmac
  obtain ⟨data, hdata⟩ := @exists_carries 0x85 (by decide) tIfd (by omega)
  obtain ⟨answer, hanswer⟩ := @exists_carries Pace.authenticationTokenResponse (by decide) tIcc
    (by omega)
  have hlimits : (CommandApdu.mk Cla.noSm Ins.generalAuthenticate 0x00 0x00 (some data)
      256).InLimits := ⟨hdata.length_le, (by decide : 256 ≤ 65536)⟩
  have hcmd : step4Command (P := P)
      (.onCurve key protocol id engine entropy (.readyForStep4 pub' kEnc kMac)) pub' kMac =
      .ok ⟨Cla.noSm, Ins.generalAuthenticate, 0x00, 0x00, some data, 256⟩ := by
    have hgenerated : (Pace.generateGeneralAuthenticateDataStep4 tIfd :
        Outcome PaceSessionError Bytes) = .ok data := hdata.encoded _
    rw [step4Command, htIfd, Outcome.ok_bind, hgenerated, Outcome.ok_bind]
    exact generalAuthenticate_eq _ hdata.length_le
  have hzeroed : ∀ ε : Type, (Ssc.zeroed 128 : Outcome ε Ssc) =
      .ok ⟨0, 128, rfl, by decide, by decide⟩ := fun _ => rfl
  refine ⟨cipher, ⟨0, 128, rfl, by decide, by decide⟩, rfl, _, _, answer, hlimits,
    nextRequest_step4 hcmd, ?_, ?_⟩
  · rw [PaceChip.answer_generalAuthenticate]
    simp only [PaceChip.generalAuthenticate, PaceChip.authenticate, requestValue_eq hdata,
      Outcome.ok_bind, PaceEngine.ephemeralPubKey, hgot', Outcome.mapErr_ok, htIfd, ne_eq,
      not_true_eq_false, if_false, htIcc, hanswer.encoded, hcipher, hzeroed, Outcome.pure_eq]
  · have hne : tIcc ≠ [] := List.ne_nil_of_length_pos (by omega)
    have hparsed : Pace.parseStep4Response answer = .ok tIcc := by
      rw [Pace.parseStep4Response, hanswer.parsed _ _ (List.mem_singleton_self _), Outcome.mapErr_ok,
        Outcome.ok_bind, if_neg (by rwa [List.isEmpty_iff])]
    have hhandled : handleStep4 (P := P)
        (.onCurve key protocol id engine entropy (.waitingForStep4 kEnc kMac)) kEnc kMac
        (some answer) = .ok ⟨cipher.toSmCipher P, ⟨0, 128, rfl, by decide, by decide⟩⟩ := by
      simp only [handleStep4, Outcome.ofOption_some, Outcome.ok_bind, hparsed, Outcome.mapErr_ok,
        PaceEngine.ephemeralPubKey, hgot, htIcc, ne_eq, not_true_eq_false, if_false, hcipher,
        hzeroed, Outcome.pure_eq]
    refine (feed_answer _ _).trans ?_
    rw [if_neg hanswer.ne_nil]
    simp only [consumeBody, Proc.get_bind_apply, Proc.set_bind_apply, hhandled]
    rfl

end Exchanges

/-! ## The handshake -/

/-- What the two parties draw in a handshake over the curve `c`: the terminal two keys, the chip a
nonce and two keys.  The generator is not moved to the identity, and the ephemeral keys differ. -/
structure PaceDraws (P : Primitives) (c : NamedCurve) (entropy entropy' : Entropy) where
  x : SecretKey P c
  u : SecretKey P c
  mid : Entropy
  rest : Entropy
  nonce : FixedBytes 16
  y : SecretKey P c
  v : SecretKey P c
  mid' : Entropy
  rest' : Entropy
  draws_x : SecretKey.generate P c entropy = .ok (x, mid)
  draws_u : SecretKey.generate P c mid = .ok (u, rest)
  draws_nonce : entropy'.take 16 = nonce.val
  draws_y : SecretKey.generate P c (entropy'.drop 16) = .ok (y, mid')
  draws_v : SecretKey.generate P c mid' = .ok (v, rest')
  generator_ne_zero : EcdhEngine.mappedGenerator P c nonce x y ≠ 0
  distinct : u.scalar ≠ v.scalar

namespace PaceSession

variable {P : Primitives} {κ : Type} [AccessKey κ] {protocol : OiePaceProtocol} {id : Nat}
  {c : NamedCurve}

omit [AccessKey κ] in
/-- A protocol over a curve starts a session with an engine of that curve. -/
lemma new_over (key : κ) (hprotocol : protocol.OverCurve) (hcurve : NamedCurve.ofId id = some c)
    (entropy : Entropy) :
    PaceSession.new P key protocol id entropy =
      .ok (.onCurve key protocol id (EcdhEngine.new : EcdhEngine P c) entropy .start) := by
  have hsupported : ((DomainParameter.get id).map fun entry =>
      entry.isSupported && entry.kind == .ecp).getD false = true ∧
      (DomainParameter.get id).isNone = false := by
    unfold NamedCurve.ofId at hcurve
    split at hcurve
    all_goals first
      | exact ⟨by decide, by decide⟩
      | cases hcurve
  rw [PaceSession.new, hprotocol.agreement]
  simp only [newEcdh, hprotocol.agreement, hprotocol.cipher, hprotocol.mapping, hsupported.1,
    not_true_eq_false, ne_eq, if_false, ECDHPace.new, hsupported.2, hcurve, Bool.false_eq_true]
  rfl

end PaceSession

namespace MrtdApi

/-- **Completeness of PACE.**  A terminal and a chip with the same password, over any of the curves,
establish a session; afterwards the two ends are in step. -/
lemma initSessionViaPace_card {σ κ : Type} [CardApplication σ] [AccessKey κ] [LawfulAccessKey κ]
    {P : Primitives} (key : κ) {efCardAccess : EfCardAccess} {info : PaceInfo}
    (hinfo : efCardAccess.paceInfo = some info) (hprotocol : info.protocol.OverCurve) {id : Nat}
    (hid : info.parameterId = some (id : Int)) {c : NamedCurve}
    (hcurve : NamedCurve.ofId id = some c) (engine : EcdhEngine P c) (step : PaceChipStep)
    {entropy entropy' : Entropy} (draws : PaceDraws P c entropy entropy') (app : σ)
    (sm : Option MrtdSM) :
    ∃ cipher ssc, ∃ chip : PaceChip P κ, initSessionViaPace P key efCardAccess entropy
        (MrtdApi.mk (Card.mk (PaceChip.onCurve key info.protocol id engine entropy' step) none app) sm) =
      (.ok (), ⟨⟨chip, some ⟨cipher, ssc⟩, app⟩, some ⟨cipher, ssc⟩⟩) ∧ ssc.bitSize = 128 ∧
        cipher.Lawful 128 := by
  obtain ⟨mapped, mapped', heph, heph', hmap⟩ := @passes_map P κ _ key info.protocol id c
    hprotocol.agreement EcdhEngine.new engine draws.nonce _ _ _ _ _ _ _ _ _ _ draws.draws_x
    draws.draws_u draws.draws_y draws.draws_v
  obtain ⟨pub, pub', seed, hsend, hsend', hgot, hgot', hagree⟩ := @passes_agree P κ _ key
    info.protocol id c hprotocol.agreement _ _ _ draws.generator_ne_zero _ _ heph heph'
    draws.distinct draws.rest draws.rest'
  obtain ⟨cipher, ssc, hwidth, htokens⟩ := @passes_authTokens P κ _ key info.protocol id c hprotocol
    _ _ _ _ hsend hsend' hgot hgot' _ _
    (Pace.length_calculateEncKey P hprotocol.cipher seed)
    (Pace.length_calculateMacKey P hprotocol.cipher seed) draws.rest draws.rest'
  refine ⟨cipher.toSmCipher P, ssc, .onCurve key info.protocol id mapped' draws.rest' .idle, ?_, hwidth,
    cipher.lawful P⟩
  have hparameter : parameterIdOf info = .ok id := by
    have hlt : id < 2 ^ 32 := by
      unfold NamedCurve.ofId at hcurve
      split at hcurve
      all_goals first
        | decide
        | cases hcurve
    rw [parameterIdOf, hid, Outcome.ofOption_some, Outcome.ok_bind,
      if_pos ⟨Int.natCast_nonneg id, by exact_mod_cast hlt⟩, Int.toNat_natCast]
  have hdrive : (paceParty P κ).drive exchange (fun e => MrtdApiError.session e.text)
      (.onCurve key info.protocol id (EcdhEngine.new : EcdhEngine P c) entropy .start)
      (MrtdApi.mk (Card.mk (PaceChip.onCurve key info.protocol id engine entropy' step) none app) sm) =
      (.ok ⟨cipher.toSmCipher P, ssc⟩,
        ⟨⟨PaceChip.onCurve key info.protocol id mapped' draws.rest' .idle,
          some ⟨cipher.toSmCipher P, ssc⟩, app⟩, sm⟩) := by
    rw [drive_passes (passes_setAt hprotocol.oid EcdhEngine.new engine entropy entropy' step),
      drive_passes (passes_nonce hprotocol.cipher EcdhEngine.new engine entropy draws.draws_nonce),
      drive_passes hmap, drive_passes hagree, drive_passes htokens]
    exact (paceParty P κ).drive_done rfl _
  rw [initSessionViaPace, hinfo, Outcome.ofOption_some, Proc.lift_ok_bind_apply, hparameter,
    Proc.lift_ok_bind_apply, PaceSession.new_over key hprotocol hcurve entropy, Outcome.mapErr_ok,
    Proc.lift_ok_bind_apply, Proc.bind_apply_ok hdrive]
  rfl

end MrtdApi

end Dmrtd
